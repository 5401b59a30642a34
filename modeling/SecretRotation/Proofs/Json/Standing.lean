import SecretRotation.Json.Shape
import SecretRotation.Proofs.Json.Reordering

/-!
# Objects that stand on their own

An object that stands on its own has its API version and kind beside its members. None of the
members is one of these two, so what holds of the codec of the members holds of the whole.

## Main definitions

* `normalStanding`: the normal form of an object that stands on its own.

## Main results

* `settles_objectCodec`, `normalizes_objectCodec`, `steady_objectCodec`: the laws of codecs.
* `read_objectCodec_iff`: what is read from such an object, member by member.
-/

namespace SecretRotation

open Json (Codec Fields Member occurrences)

variable {σ τ : Type} {apiVersion kind : String} {f : Fields σ σ} {make : τ → σ} {parts : σ → τ}

/-! ### API version and kind -/

theorem saysOnly_cons (name expected : String) (ms : List (String × Json)) :
    saysOnly ((name, .str expected) :: ms) name expected = saysOnly ms name expected := by
  simp [saysOnly, occurrences, Json.text?]

theorem saysOnly_cons_of_ne {name other : String} (h : other ≠ name) (expected : String)
    (value : Json) (ms : List (String × Json)) :
    saysOnly ((other, value) :: ms) name expected = saysOnly ms name expected := by
  simp [saysOnly, occurrences, h]

theorem saysOnly_of_forall_ne {ms : List (String × Json)} {name : String}
    (h : ∀ m ∈ ms, m.1 ≠ name) (expected : String) : saysOnly ms name expected = true := by
  simp [saysOnly, Json.occurrences_eq_nil h]

/-- A reordering of an object names the same API version and kind. -/
theorem saysOnly_of_forall₂ {ms ms' : List (String × Json)} {name expected : String}
    (h : List.Forall₂ Json.Reordered (occurrences ms name) (occurrences ms' name))
    (h' : saysOnly ms name expected = true) : saysOnly ms' name expected = true := by
  refine List.all_eq_true.2 fun value' hvalue' => ?_
  obtain ⟨value, hvalue, hreordered⟩ := Json.exists_mem_of_forall₂ h.flip hvalue'
  rw [hreordered.text?_eq]
  exact List.all_eq_true.1 h' value hvalue

/-! ### Reading what has been written -/

/-- The codec of objects that stand on their own settles them as the members described are settled,
if none of these is the API version or the kind. -/
theorem settles_objectCodec {settle : τ → τ} [hf : f.Settles make parts settle] {settled : σ → σ}
    (hnames : ("apiVersion" :: "kind" :: f.names).Nodup) (hparts : ∀ t, parts (make t) = t)
    (hsettled : ∀ s, make (settle (parts s)) = settled s) :
    (objectCodec apiVersion kind f).Settles settled where
  read_write s := by
    have ⟨hversion, hrest⟩ := List.nodup_cons.1 hnames
    have ⟨hkind, hfnames⟩ := List.nodup_cons.1 hrest
    have hversion' : ∀ m ∈ f.write s, m.1 ≠ "apiVersion" := fun m hm heq =>
      hversion (heq ▸ List.mem_cons_of_mem _ (hf.fst_mem_names s m hm))
    have hkind' : ∀ m ∈ f.write s, m.1 ≠ "kind" := fun m hm heq =>
      hkind (heq ▸ hf.fst_mem_names s m hm)
    have hread : f.read (occurrences
        ([("apiVersion", .str apiVersion), ("kind", .str kind)] ++ f.write s)) =
          some (make (settle (parts s))) := by
      rw [Fields.read_occurrences_prepend, hf.read_write hfnames]
      intro m hm
      rcases List.mem_cons.1 hm with rfl | hm
      · exact fun h => hversion (List.mem_cons_of_mem _ h)
      · rw [List.mem_singleton.1 hm]
        exact hkind
    simp only [objectCodec, saysOnly_cons, saysOnly_cons_of_ne (by decide : "kind" ≠ "apiVersion"),
      saysOnly_cons_of_ne (by decide : "apiVersion" ≠ "kind"), saysOnly_of_forall_ne hversion',
      saysOnly_of_forall_ne hkind', Bool.and_self, if_true]
    exact hread.trans (congrArg some (hsettled s))
  write_settled s := congrArg (fun ms => Json.obj (("apiVersion", .str apiVersion) ::
    ("kind", .str kind) :: ms)) (hf.write_settled (hsettled s ▸ hparts _))
  write_ne_null _ := by simp [objectCodec]

/-! ### Normal forms -/

/-- The normal form of an object that stands on its own begins with its API version and kind. -/
def normalStanding (apiVersion kind : String) (ms : List Member) : Json → Json
  | .obj members => .obj (("apiVersion", .str apiVersion) :: ("kind", .str kind) ::
      Json.keptOf ms (occurrences members))
  | value => value

section

variable {tells : (String → List Json) → τ → Prop} {ms : List Member}
  [hf : f.Described make parts tells ms]

include hf

theorem normalizes_objectCodec (hparts : ∀ t, parts (make t) = t) {normal : Json → Json}
    (hnormal : normalStanding apiVersion kind ms = normal) :
    (objectCodec apiVersion kind f).Normalizes normal where
  write_of_read {j s} h := by
    subst hnormal
    cases j
    case obj members =>
      obtain ⟨-, h⟩ := Option.ite_none_right_eq_some.1 h
      obtain ⟨t, rfl, ht⟩ := hf.read_iff.1 h
      have hwrite := hf.write_eq (s := make t) ((hparts t).symm ▸ ht)
      exact congrArg (fun ms => Json.obj (("apiVersion", .str apiVersion) ::
        ("kind", .str kind) :: ms)) hwrite
    all_goals cases h

/-- What is read from an object that stands on its own, member by member. -/
theorem read_objectCodec_iff (hparts : ∀ t, parts (make t) = t)
    (hmake : ∀ s, make (parts s) = s) {members : List (String × Json)} {s : σ} :
    (objectCodec apiVersion kind f).read (.obj members) = some s ↔
      (saysOnly members "apiVersion" apiVersion && saysOnly members "kind" kind) = true ∧
        tells (occurrences members) (parts s) :=
  Option.ite_none_right_eq_some.trans
    (and_congr_right fun _ => Fields.read_codec_iff (f := f) hparts hmake)

end

/-! ### Reorderings -/

/-- The codec of objects that stand on their own is steady if the members described are. -/
instance steady_objectCodec (apiVersion kind : String) (f : Fields σ σ) [hf : f.Steady] :
    (objectCodec apiVersion kind f).Steady where
  isSome_read {j j'} h hread := by
    have hlook := h.forall₂_occurrences
    rcases h.eq_or_lists_or_objects with rfl | ⟨_, _, rfl, rfl⟩ | ⟨_, _, rfl, rfl⟩
    · exact hread
    · cases hread
    · obtain ⟨s, hs⟩ := Option.isSome_iff_exists.1 hread
      obtain ⟨hnamed, hs⟩ := Option.ite_none_right_eq_some.1 hs
      have ⟨hversion, hkind⟩ := Bool.and_eq_true_iff.1 hnamed
      have hread' := hf.isSome_read hlook (Option.isSome_of_eq_some hs)
      have hnamed' := Bool.and_eq_true_iff.2 ⟨saysOnly_of_forall₂ (hlook _) hversion,
        saysOnly_of_forall₂ (hlook _) hkind⟩
      exact (congrArg Option.isSome (if_pos hnamed')).trans hread'

end SecretRotation
