import SecretRotation.Proofs.Json.ValueAt

/-!
# Documents with their lists in another order

A document is *reordered* by putting the items of its lists into another order, in as many lists as
one likes, however deep they are. The members of objects stay in their order: of a name that comes
more than once, the last value counts.

Whether a document can be read does not depend on the order of its lists. A codec is *steady* if it
reads every reordering of a document that it reads, whatever it reads there. Steadiness is a class,
and every way of putting descriptions together is an instance, as with lawful codecs.

## Main definitions

* `Json.Reordered`: a document and the same with its lists in another order.
* `Json.Codec.Steady`, `Json.Fields.Steady`.

## Main results

* `Json.Reordered.valueAt`, `Json.Reordered.exists_mem_elements`: what is found in a reordering.
* `Json.Fields.steady_codec`: a codec made of steady members.
-/

namespace SecretRotation

namespace Json

variable {σ τ α β : Type}

/-- The second document is the first one with the items of some lists in another order. -/
inductive Reordered : Json → Json → Prop
  | refl (j : Json) : Reordered j j
  | trans {j j' j'' : Json} (h : Reordered j j') (h' : Reordered j' j'') : Reordered j j''
  | items {items items' : List Json} (h : items.Perm items') :
      Reordered (.arr items) (.arr items')
  | inItem (before after : List Json) {v v' : Json} (h : Reordered v v') :
      Reordered (.arr (before ++ v :: after)) (.arr (before ++ v' :: after))
  | inMember (before after : List (String × Json)) (name : String) {v v' : Json}
      (h : Reordered v v') :
      Reordered (.obj (before ++ (name, v) :: after)) (.obj (before ++ (name, v') :: after))

theorem forall₂_trans {r : α → α → Prop} (hr : ∀ a b c, r a b → r b c → r a c) :
    {as bs cs : List α} → List.Forall₂ r as bs → List.Forall₂ r bs cs → List.Forall₂ r as cs
  | [], [], _, .nil, h => h
  | _ :: _, _ :: _, _ :: _, .cons hab h, .cons hbc h' =>
    .cons (hr _ _ _ hab hbc) (forall₂_trans hr h h')

namespace Reordered

variable {j j' : Json}

theorem symm (h : Reordered j j') : Reordered j' j := by
  induction h with
  | refl j => exact .refl j
  | trans _ _ ih ih' => exact ih'.trans ih
  | items h => exact .items h.symm
  | inItem before after _ ih => exact .inItem before after ih
  | inMember before after name _ ih => exact .inMember before after name ih

/-- Nothing but a list or an object has a reordering other than itself. -/
theorem eq_or_lists_or_objects (h : Reordered j j') :
    j = j' ∨ (∃ items items', j = .arr items ∧ j' = .arr items') ∨
      ∃ ms ms', j = .obj ms ∧ j' = .obj ms' := by
  induction h with
  | refl j => exact .inl rfl
  | trans _ _ ih ih' =>
    rcases ih with rfl | ⟨items, items', rfl, rfl⟩ | ⟨ms, ms', rfl, rfl⟩
    · exact ih'
    · rcases ih' with rfl | ⟨_, items'', -, rfl⟩ | ⟨_, _, hobj, -⟩
      · exact .inr (.inl ⟨items, items', rfl, rfl⟩)
      · exact .inr (.inl ⟨items, items'', rfl, rfl⟩)
      · cases hobj
    · rcases ih' with rfl | ⟨_, _, harr, -⟩ | ⟨_, ms'', -, rfl⟩
      · exact .inr (.inr ⟨ms, ms', rfl, rfl⟩)
      · cases harr
      · exact .inr (.inr ⟨ms, ms'', rfl, rfl⟩)
  | items _ => exact .inr (.inl ⟨_, _, rfl, rfl⟩)
  | inItem => exact .inr (.inl ⟨_, _, rfl, rfl⟩)
  | inMember => exact .inr (.inr ⟨_, _, rfl, rfl⟩)

/-- A text has no other reordering. -/
theorem text?_eq (h : Reordered j j') : j'.text? = j.text? := by
  rcases h.eq_or_lists_or_objects with rfl | ⟨_, _, rfl, rfl⟩ | ⟨_, _, rfl, rfl⟩ <;> rfl

theorem eq_null_iff (h : Reordered j j') : j' = .null ↔ j = .null := by
  rcases h.eq_or_lists_or_objects with rfl | ⟨_, _, rfl, rfl⟩ | ⟨_, _, rfl, rfl⟩
  · exact .rfl
  all_goals exact iff_of_false (by simp) (by simp)

/-! ### What is found in a reordering -/

/-- Every item of a reordering has been an item before. -/
theorem exists_mem_elements (h : Reordered j j') {v' : Json} (hv' : v' ∈ j'.elements) :
    ∃ v ∈ j.elements, Reordered v v' := by
  induction h generalizing v' with
  | refl j => exact ⟨v', hv', .refl v'⟩
  | trans _ _ ih ih' =>
    obtain ⟨v, hv, hvv'⟩ := ih' hv'
    obtain ⟨u, hu, huv⟩ := ih hv
    exact ⟨u, hu, huv.trans hvv'⟩
  | items h => exact ⟨v', h.mem_iff.2 hv', .refl v'⟩
  | inItem before after h _ =>
    rcases List.mem_append.1 hv' with hbefore | hrest
    · exact ⟨v', List.mem_append_left _ hbefore, .refl v'⟩
    · rcases List.mem_cons.1 hrest with rfl | hafter
      · exact ⟨_, List.mem_append_right _ List.mem_cons_self, h⟩
      · exact ⟨v', List.mem_append_right _ (List.mem_cons_of_mem _ hafter), .refl v'⟩
  | inMember => cases hv'

/-- The members of a reordering have the same names, one by one. -/
theorem forall₂_members (h : Reordered j j') :
    List.Forall₂ (fun m m' => m.1 = m'.1 ∧ Reordered m.2 m'.2) j.members j'.members := by
  have hsame (ms : List (String × Json)) :
      List.Forall₂ (fun m m' => m.1 = m'.1 ∧ Reordered m.2 m'.2) ms ms :=
    List.forall₂_same.2 fun m _ => ⟨rfl, .refl m.2⟩
  induction h with
  | refl j => exact hsame j.members
  | trans _ _ ih ih' =>
    exact forall₂_trans (fun _ _ _ hm hm' => ⟨hm.1.trans hm'.1, hm.2.trans hm'.2⟩) ih ih'
  | items => exact .nil
  | inItem => exact .nil
  | inMember before after name h _ =>
    exact List.rel_append (hsame before) (.cons ⟨rfl, h⟩ (hsame after))

theorem forall₂_occurrences (h : Reordered j j') (name : String) :
    List.Forall₂ Reordered (occurrences j.members name) (occurrences j'.members name) := by
  have hall := h.forall₂_members
  generalize j.members = ms, j'.members = ms' at hall
  induction hall with
  | nil => exact .nil
  | cons hm _ ih =>
    rw [occurrences, occurrences, List.filter_cons, List.filter_cons, hm.1]
    split
    · exact .cons hm.2 ih
    · exact ih

theorem lastValue {values values' : List Json} (h : List.Forall₂ Reordered values values') :
    Reordered (lastValue values) (lastValue values') := by
  have hback := List.forall₂_reverse_iff.2 h
  rw [Json.lastValue, Json.lastValue, List.getLast?_eq_head?_reverse,
    List.getLast?_eq_head?_reverse]
  generalize values.reverse = back, values'.reverse = back' at hback
  cases hback with
  | nil => exact .refl .null
  | cons hlast _ => exact hlast

/-- What is at a path of a reordering is a reordering of what has been there. -/
theorem valueAt : {j j' : Json} → Reordered j j' → (path : List String) →
    Reordered (j.valueAt path) (j'.valueAt path)
  | _, _, h, [] => h
  | _, _, h, name :: path => (lastValue (h.forall₂_occurrences name)).valueAt path

end Reordered

/-! ### Steady codecs -/

/-- A codec is steady if it reads every reordering of a document that it reads. -/
class Codec.Steady (c : Codec α) : Prop where
  isSome_read {j j' : Json} (h : Reordered j j') (hread : (c.read j).isSome) : (c.read j').isSome

/-- A description of members is steady if it reads all reorderings of the values under their names
whenever it reads the values. -/
class Fields.Steady (f : Fields σ α) : Prop where
  isSome_read {look look' : String → List Json}
    (h : ∀ name, List.Forall₂ Reordered (look name) (look' name)) (hread : (f.read look).isSome) :
    (f.read look').isSome

namespace Codec

/-- A codec that reads neither lists nor objects is steady. -/
theorem steady_of_plain {c : Codec α} (harr : ∀ items, c.read (.arr items) = none)
    (hobj : ∀ ms, c.read (.obj ms) = none) : c.Steady where
  isSome_read {j j'} h hread := by
    rcases h.eq_or_lists_or_objects with rfl | ⟨items, _, rfl, rfl⟩ | ⟨ms, _, rfl, rfl⟩
    · exact hread
    · rw [harr] at hread
      cases hread
    · rw [hobj] at hread
      cases hread

instance steady_string : string.Steady := steady_of_plain (fun _ => rfl) fun _ => rfl

instance steady_bool : bool.Steady := steady_of_plain (fun _ => rfl) fun _ => rfl

instance steady_int32 : int32.Steady := steady_of_plain (fun _ => rfl) fun _ => rfl

instance steady_int64 : int64.Steady := steady_of_plain (fun _ => rfl) fun _ => rfl

/-- Several values are read if each of them is. -/
theorem isSome_mapM {f : α → Option β} {as : List α} :
    (as.mapM f).isSome ↔ ∀ a ∈ as, (f a).isSome := by
  induction as with
  | nil => simp
  | cons a as ih =>
    rw [List.mapM_cons, List.forall_mem_cons, ← ih]
    cases f a <;> cases as.mapM f <;> simp

instance steady_list (c : Codec α) [hc : c.Steady] : (list c).Steady where
  isSome_read {j j'} h hread := by
    have hall : ∀ v ∈ j.elements, (c.read v).isSome := by
      cases j
      case arr items => exact isSome_mapM.1 hread
      all_goals cases hread
    have hall' : ∀ v' ∈ j'.elements, (c.read v').isSome := fun v' hv' =>
      have ⟨v, hv, hvv'⟩ := h.exists_mem_elements hv'
      hc.isSome_read hvv' (hall v hv)
    rcases h.eq_or_lists_or_objects with rfl | ⟨_, _, rfl, rfl⟩ | ⟨_, _, rfl, rfl⟩
    · exact hread
    · exact isSome_mapM.2 hall'
    · cases hread

instance steady_dict (c : Codec α) [hc : c.Steady] : (dict c).Steady where
  isSome_read {j j'} h hread := by
    have hmembers := h.forall₂_members
    rcases h.eq_or_lists_or_objects with rfl | ⟨_, _, rfl, rfl⟩ | ⟨ms, ms', rfl, rfl⟩
    · exact hread
    · cases hread
    · simp only [dict, Option.isSome_map, isSome_mapM] at hread ⊢
      intro m' hm'
      obtain ⟨m, hm, hmm'⟩ := exists_mem_of_forall₂ hmembers.flip hm'
      exact hc.isSome_read hmm'.2 (hread m hm)

instance steady_strings : strings.Steady := steady_dict string

end Codec

namespace Fields

/-- The values under a name are read if each of them is, or is `null`. -/
theorem isSome_lastOf {read : Json → Option β} {default : β} {values : List Json} :
    (lastOf read default values).isSome ↔ ∀ v ∈ values, v = .null ∨ (read v).isSome := by
  induction values using List.reverseRecOn with
  | nil => simp [lastOf]
  | append_singleton vs v ih =>
    have hlast : (lastOf read default [v]).isSome ↔ v = .null ∨ (read v).isSome := by
      cases v <;> simp [lastOf]
    have hsplit : lastOf read default (vs ++ [v]) =
        (lastOf read default vs).bind fun _ => lastOf read default [v] := by
      rw [lastOf, List.foldlM_append]
      cases v <;> rfl
    rw [hsplit, List.forall_mem_append, List.forall_mem_singleton, ← ih, ← hlast]
    cases lastOf read default vs <;> simp

theorem isSome_lastOf_of_reordered {read : Json → Option β} {default : β}
    {values values' : List Json} (h : List.Forall₂ Reordered values values')
    (hread : ∀ {v w}, Reordered v w → (read v).isSome → (read w).isSome)
    (hvalues : (lastOf read default values).isSome) : (lastOf read default values').isSome :=
  isSome_lastOf.2 fun _ hv' =>
    have ⟨v, hv, hvv'⟩ := exists_mem_of_forall₂ h.flip hv'
    (isSome_lastOf.1 hvalues v hv).imp hvv'.eq_null_iff.2 (hread hvv')

instance steady_optional (name : String) (c : Codec β) [hc : c.Steady] (get : σ → Option β) :
    (optional name c get).Steady where
  isSome_read h := isSome_lastOf_of_reordered (h name) fun hvv' hread => by
    rw [Option.isSome_map] at hread ⊢
    exact hc.isSome_read hvv' hread

instance steady_required (name : String) (c : Codec β) [hc : c.Steady] (default : β)
    (get : σ → β) : (required name c default get).Steady where
  isSome_read h := isSome_lastOf_of_reordered (h name) hc.isSome_read

instance steady_pure (a : α) : (pure a : Fields σ α).Steady where
  isSome_read _ _ := rfl

instance steady_map (g : α → β) (f : Fields σ α) [hf : f.Steady] : (g <$> f).Steady where
  isSome_read {look look'} h hread := by
    have hread : ((f.read look).map g).isSome := hread
    rw [Option.isSome_map] at hread
    exact Option.isSome_map.trans (hf.isSome_read h hread)

instance steady_seq (f : Fields σ (α → β)) (g : Fields σ α) [hf : f.Steady] [hg : g.Steady] :
    (f <*> g).Steady where
  isSome_read {look look'} h hread := by
    have hboth {look : String → List Json} :
        ((f <*> g).read look).isSome ↔ (f.read look).isSome ∧ (g.read look).isSome := by
      change ((f.read look).bind fun h => (g.read look).map h).isSome ↔ _
      cases f.read look <;> cases g.read look <;> simp
    exact hboth.2 ((hboth.1 hread).imp (hf.isSome_read h) (hg.isSome_read h))

instance steady_within (get : σ → τ) (f : Fields τ α) [hf : f.Steady] : (f.within get).Steady where
  isSome_read := hf.isSome_read

/-- **A codec made of steady members** is steady. -/
instance steady_codec (f : Fields σ σ) [hf : f.Steady] : f.codec.Steady where
  isSome_read {j j'} h hread := by
    have hlook := h.forall₂_occurrences
    rcases h.eq_or_lists_or_objects with rfl | ⟨_, _, rfl, rfl⟩ | ⟨_, _, rfl, rfl⟩
    · exact hread
    · cases hread
    · exact hf.isSome_read hlook hread

end Fields

end Json

end SecretRotation
