import Mathlib.Data.String.Basic
import SecretRotation.Json.Shape
import SecretRotation.Proofs.Json.Reordering

/-!
# Values of any shape

Where anything may stand, the normal form of it is kept. A normal form is its own normal form, so it
is kept as it is when it is written and read again. Whether there is one does not depend on the
order of lists.

## Main results

* `Json.normal?_eq_self_of_normal?`: a normal form is its own normal form.
* `Json.Reordered.isSome_normal?`: a reordering has a normal form, too.
* `Json.Codec.lawful_anything`, `Json.Codec.normalizes_anything`, `Json.Codec.steady_anything`.
-/

namespace SecretRotation.Json

/-! ### Members in ascending order -/

theorem mem_insertMember {name : String} {value : Json} {m : String × Json} :
    {ms : List (String × Json)} → m ∈ insertMember name value ms → m = (name, value) ∨ m ∈ ms
  | [], h => .inl (List.mem_singleton.1 h)
  | n :: ms, h => by
    simp only [insertMember] at h
    split at h
    · exact List.mem_cons.1 h
    · split at h
      · exact (List.mem_cons.1 h).imp_right (List.mem_cons_of_mem _)
      · rcases List.mem_cons.1 h with rfl | h
        · exact .inr List.mem_cons_self
        · exact (mem_insertMember h).imp_right (List.mem_cons_of_mem _)

theorem pairwise_insertMember {name : String} (value : Json) :
    {ms : List (String × Json)} → ms.Pairwise (fun m n => m.1 < n.1) →
      (insertMember name value ms).Pairwise fun m n => m.1 < n.1
  | [], _ => List.pairwise_singleton _ _
  | n :: ms, h => by
    have ⟨hn, hms⟩ := List.pairwise_cons.1 h
    simp only [insertMember]
    split
    next hlt =>
      refine List.pairwise_cons.2 ⟨fun m hm => ?_, h⟩
      rcases List.mem_cons.1 hm with rfl | hm
      · exact hlt
      · exact String.lt_trans hlt (hn m hm)
    next hnot =>
      split
      next heq => exact List.pairwise_cons.2 ⟨fun m hm => heq ▸ hn m hm, hms⟩
      next hne =>
        have hgt : n.1 < name := lt_of_le_of_ne (not_lt.1 hnot) (Ne.symm hne)
        refine List.pairwise_cons.2 ⟨fun m hm => ?_, pairwise_insertMember value hms⟩
        rcases mem_insertMember hm with rfl | hm
        · exact hgt
        · exact hn m hm

/-- Some members in ascending order, with others put in their places. -/
theorem pairwise_foldl_insertMember (ms : List (String × Json)) {sorted : List (String × Json)}
    (h : sorted.Pairwise fun m n => m.1 < n.1) :
    (ms.foldl (fun sorted m => insertMember m.1 m.2 sorted) sorted).Pairwise
        (fun m n => m.1 < n.1) ∧
      ∀ m ∈ ms.foldl (fun sorted m => insertMember m.1 m.2 sorted) sorted, m ∈ sorted ∨ m ∈ ms := by
  induction ms generalizing sorted with
  | nil => exact ⟨h, fun m hm => .inl hm⟩
  | cons n ms ih =>
    obtain ⟨hpairwise, hmem⟩ := ih (pairwise_insertMember n.2 h)
    refine ⟨hpairwise, fun m hm => ?_⟩
    rcases hmem m hm with hm | hm
    · exact (mem_insertMember hm).elim (fun heq => .inr (heq ▸ List.mem_cons_self)) .inl
    · exact .inr (List.mem_cons_of_mem _ hm)

/-- A member of a greater name goes to the end. -/
theorem insertMember_of_forall_lt {name : String} {value : Json} :
    {ms : List (String × Json)} → (∀ m ∈ ms, m.1 < name) →
      insertMember name value ms = ms ++ [(name, value)]
  | [], _ => rfl
  | n :: ms, h => by
    have ⟨hn, hms⟩ := List.forall_mem_cons.1 h
    rw [insertMember, if_neg (lt_asymm hn), if_neg hn.ne', insertMember_of_forall_lt hms,
      List.cons_append]

/-- Members in ascending order are in their places. -/
theorem foldl_insertMember_eq_append (sorted : List (String × Json)) {ms : List (String × Json)}
    (h : (sorted ++ ms).Pairwise fun m n => m.1 < n.1) :
    ms.foldl (fun sorted m => insertMember m.1 m.2 sorted) sorted = sorted ++ ms := by
  induction ms generalizing sorted with
  | nil => exact (List.append_nil sorted).symm
  | cons n ms ih =>
    have hlast : ∀ m ∈ sorted, m.1 < n.1 := fun m hm =>
      (List.pairwise_append.1 h).2.2 m hm n List.mem_cons_self
    rw [List.foldl_cons, insertMember_of_forall_lt hlast, ih _ (by simpa using h)]
    simp

/-! ### Normal forms of normal forms -/

theorem normalItems?_eq_self {room : Nat} {items : List Json}
    (h : ∀ v ∈ items, normal? room v = some v) : normalItems? room items = some items := by
  induction items with
  | nil => rfl
  | cons v items ih =>
    have ⟨hv, hitems⟩ := List.forall_mem_cons.1 h
    simp only [normalItems?, hv, ih hitems, Option.bind_eq_bind, Option.bind_some, Option.pure_def]

theorem normalMembers?_eq_self {room : Nat} {ms : List (String × Json)}
    (h : ∀ m ∈ ms, normal? room m.2 = some m.2) : normalMembers? room ms = some ms := by
  induction ms with
  | nil => rfl
  | cons m ms ih =>
    have ⟨hm, hms⟩ := List.forall_mem_cons.1 h
    simp only [normalMembers?, hm, ih hms, Option.bind_eq_bind, Option.bind_some, Option.pure_def]

mutual

/-- **A normal form is its own normal form.** -/
theorem normal?_eq_self_of_normal? :
    {room : Nat} → {j v : Json} → normal? room j = some v → normal? room v = some v
  | _, .null, _, h | _, .bool _, _, h | _, .int _, _, h | _, .str _, _, h => by
    cases h
    rfl
  | _, .garbled, _, h => nomatch h
  | _, .numeral text, _, h => by
    obtain ⟨hfinite, h⟩ := Option.ite_none_right_eq_some.1 h
    cases h
    exact if_pos hfinite
  | 0, .arr _, _, h => nomatch h
  | room + 1, .arr items, _, h => by
    obtain ⟨items', hitems, rfl⟩ := Option.map_eq_some_iff.1 h
    exact congrArg (Option.map Json.arr) (normalItems?_eq_self (of_mem_normalItems? hitems))
  | 0, .obj _, _, h => nomatch h
  | room + 1, .obj members, _, h => by
    obtain ⟨ms, hms, rfl⟩ := Option.map_eq_some_iff.1 h
    obtain ⟨hpairwise, hmem⟩ := pairwise_foldl_insertMember ms List.Pairwise.nil
    have hvalues : ∀ m ∈ ms.foldl (fun sorted m => insertMember m.1 m.2 sorted) [],
        normal? room m.2 = some m.2 := fun m hm =>
      of_mem_normalMembers? hms m ((hmem m hm).resolve_left List.not_mem_nil)
    refine (congrArg (Option.map _) (normalMembers?_eq_self hvalues)).trans ?_
    rw [Option.map_some, foldl_insertMember_eq_append [] hpairwise, List.nil_append]

theorem of_mem_normalItems? :
    {room : Nat} → {items items' : List Json} → normalItems? room items = some items' →
      ∀ v ∈ items', normal? room v = some v
  | _, [], _, h => by
    cases h
    exact List.forall_mem_nil _
  | room, item :: items, _, h => by
    obtain ⟨v, hv, h⟩ := Option.bind_eq_some_iff.1 h
    obtain ⟨vs, hvs, h⟩ := Option.bind_eq_some_iff.1 h
    cases h
    exact List.forall_mem_cons.2 ⟨normal?_eq_self_of_normal? hv, of_mem_normalItems? hvs⟩

theorem of_mem_normalMembers? :
    {room : Nat} → {members ms : List (String × Json)} → normalMembers? room members = some ms →
      ∀ m ∈ ms, normal? room m.2 = some m.2
  | _, [], _, h => by
    cases h
    exact List.forall_mem_nil _
  | room, (name, value) :: members, _, h => by
    obtain ⟨v, hv, h⟩ := Option.bind_eq_some_iff.1 h
    obtain ⟨ms, hms, h⟩ := Option.bind_eq_some_iff.1 h
    cases h
    exact List.forall_mem_cons.2 ⟨normal?_eq_self_of_normal? hv, of_mem_normalMembers? hms⟩

end

/-- Nothing but `null` has the normal form `null`. -/
theorem isNull_of_normal? {room : Nat} {j v : Json} (h : normal? room j = some v) :
    v.isNull = j.isNull := by
  cases j
  case arr | obj =>
    cases room
    · cases h
    · obtain ⟨_, -, rfl⟩ := Option.map_eq_some_iff.1 h
      rfl
  case numeral =>
    cases (Option.ite_none_right_eq_some.1 h).2
    rfl
  all_goals
    cases h
    try rfl

/-! ### Normal forms of reorderings -/

theorem isSome_normalItems? {room : Nat} {items : List Json} :
    (normalItems? room items).isSome ↔ ∀ v ∈ items, (normal? room v).isSome := by
  induction items with
  | nil => simp [normalItems?]
  | cons v items ih =>
    rw [List.forall_mem_cons, ← ih, normalItems?]
    cases normal? room v <;> cases normalItems? room items <;> simp

theorem isSome_normalMembers? {room : Nat} {ms : List (String × Json)} :
    (normalMembers? room ms).isSome ↔ ∀ m ∈ ms, (normal? room m.2).isSome := by
  induction ms with
  | nil => simp [normalMembers?]
  | cons m ms ih =>
    rw [List.forall_mem_cons, ← ih, normalMembers?]
    cases normal? room m.2 <;> cases normalMembers? room ms <;> simp

/-- **A reordering has a normal form, too.** -/
theorem Reordered.isSome_normal? {j j' : Json} (h : Reordered j j') {room : Nat}
    (hj : (normal? room j).isSome) : (normal? room j').isSome := by
  induction h generalizing room with
  | refl => exact hj
  | trans _ _ ih ih' => exact ih' (ih hj)
  | items h =>
    cases room with
    | zero => cases hj
    | succ room =>
      simp only [normal?, Option.isSome_map, isSome_normalItems?] at hj ⊢
      exact fun v hv => hj v (h.mem_iff.2 hv)
  | inItem before after _ ih =>
    cases room with
    | zero => cases hj
    | succ room =>
      simp only [normal?, Option.isSome_map, isSome_normalItems?, List.forall_mem_append,
        List.forall_mem_cons] at hj ⊢
      exact ⟨hj.1, ih hj.2.1, hj.2.2⟩
  | inMember before after name _ ih =>
    cases room with
    | zero => cases hj
    | succ room =>
      simp only [normal?, Option.isSome_map, isSome_normalMembers?, List.forall_mem_append,
        List.forall_mem_cons] at hj ⊢
      exact ⟨hj.1, ih hj.2.1, hj.2.2⟩

/-! ### The codec -/

namespace Codec

/-- What is read where anything may stand is its normal form. -/
theorem read_anything_eq_some_iff {j : Json} {a : Anything} :
    anything.read j = some a ↔ normal? maxDepth j = some a.value := by
  simp only [anything]
  split
  next value h =>
    have hvalue : normal? maxDepth j = some a.value ↔ value = a.value := by
      rw [h, Option.some.injEq]
    rw [hvalue]
    split
    next =>
      exact ⟨fun ha => by cases ha; rfl, fun ha => by cases a; cases ha; rfl⟩
    next hnull => exact ⟨nofun, fun ha => absurd a.ne_null (ha ▸ hnull)⟩
  next h => exact ⟨nofun, fun ha => nomatch h.symm.trans ha⟩

instance lawful_anything : anything.Lawful where
  read_write a :=
    have ⟨_, h⟩ := a.isNormal
    read_anything_eq_some_iff.2 (normal?_eq_self_of_normal? h)
  write_settled _ := rfl
  write_ne_null a h := by
    have hvalue := a.ne_null
    rw [show a.value = .null from h] at hvalue
    cases hvalue

instance normalizes_anything : anything.Normalizes fun j => (j.normal? maxDepth).getD j where
  write_of_read {j a} h := by
    rw [read_anything_eq_some_iff.1 h]
    rfl

theorem isSome_read_anything {j : Json} :
    (anything.read j).isSome ↔ (normal? maxDepth j).isSome ∧ j.isNull = false := by
  constructor
  · intro h
    obtain ⟨a, ha⟩ := Option.isSome_iff_exists.1 h
    have hvalue := read_anything_eq_some_iff.1 ha
    exact ⟨Option.isSome_of_eq_some hvalue, isNull_of_normal? hvalue ▸ a.ne_null⟩
  · rintro ⟨h, hnull⟩
    obtain ⟨value, hvalue⟩ := Option.isSome_iff_exists.1 h
    have ha : anything.read j = some ⟨value, ⟨j, hvalue⟩, (isNull_of_normal? hvalue).trans hnull⟩ :=
      read_anything_eq_some_iff.2 hvalue
    exact Option.isSome_of_eq_some ha

instance steady_anything : anything.Steady where
  isSome_read {j j'} h hread := by
    obtain ⟨hnormal, hnull⟩ := isSome_read_anything.1 hread
    refine isSome_read_anything.2 ⟨h.isSome_normal? hnormal, ?_⟩
    rcases h.eq_or_lists_or_objects with rfl | ⟨_, _, rfl, rfl⟩ | ⟨_, _, rfl, rfl⟩
    · exact hnull
    · rfl
    · rfl

end Codec

end SecretRotation.Json
