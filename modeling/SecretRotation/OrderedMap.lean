/-!
# Finite maps in ascending key order

A finite map is kept as the list of its entries, each key once and the keys ascending. Two maps
with the same look-ups are therefore the same value, and whatever walks a map walks it in key
order: the labels and annotations of an object, the workloads of a pass, the objects of a store.

* `OrderedMap κ α` carries its order as a field of the type, so no operation can break it.
* `get?` looks a key up, `insert` sets it, `erase` drops it; `ofList` inserts from left to right,
  so that the last entry of a key wins.
* `keys` and `values` read the map off in ascending order.

## Main definitions

* `SecretRotation.OrderedMap`, `OrderedMap.get?`, `OrderedMap.insert`, `OrderedMap.erase`,
  `OrderedMap.ofList`.

## Main results

* `OrderedMap.get?_insert`: a look-up after an insertion.
* `OrderedMap.get?_erase`: a look-up after a removal.
* `OrderedMap.ext_get?`: maps with equal look-ups are equal.
-/

namespace SecretRotation

variable {κ α : Type} [Ord κ]

/-- Entries are in key order when every key comes before all later ones. -/
def Ascending (entries : List (κ × α)) : Prop :=
  entries.Pairwise fun a b => compare a.1 b.1 = .lt

/-- A finite map, as its entries in ascending key order. -/
structure OrderedMap (κ α : Type) [Ord κ] where
  /-- The entries, lowest key first. -/
  entries : List (κ × α)
  /-- Keys ascend strictly, so each of them occurs once. -/
  ascending : Ascending entries

namespace OrderedMap

/-! ### Looking up and setting a key in a list of entries -/

/-- The value under a key in a list of entries. -/
def lookup (k : κ) : List (κ × α) → Option α
  | [] => none
  | e :: es => if compare k e.1 = .eq then some e.2 else lookup k es

/-- The list of entries with a key set, in front of the first entry that is not below it. -/
def set (k : κ) (v : α) : List (κ × α) → List (κ × α)
  | [] => [(k, v)]
  | e :: es =>
    match compare k e.1 with
    | .lt => (k, v) :: e :: es
    | .eq => (k, v) :: es
    | .gt => e :: set k v es

/-- The list of entries without a key. -/
def unset (k : κ) (es : List (κ × α)) : List (κ × α) :=
  es.filter fun e => compare k e.1 != .eq

theorem mem_set {k : κ} {v : α} {e : κ × α} :
    {es : List (κ × α)} → e ∈ set k v es → e = (k, v) ∨ e ∈ es
  | [], h => by simp_all [set]
  | d :: es, h => by
    simp only [set] at h
    split at h
    · simp_all
    · simp only [List.mem_cons] at h ⊢
      exact h.imp_right Or.inr
    · simp only [List.mem_cons] at h ⊢
      rcases h with h | h
      · exact .inr (.inl h)
      · exact (mem_set h).imp_right Or.inr

theorem ascending_set [Std.TransOrd κ] [Std.LawfulEqOrd κ] (k : κ) (v : α) :
    {es : List (κ × α)} → Ascending es → Ascending (set k v es)
  | [], _ => List.pairwise_singleton _ _
  | d :: es, h => by
    have ⟨hd, hes⟩ := List.pairwise_cons.1 h
    simp only [set]
    split
    next hk =>
      refine List.pairwise_cons.2 ⟨fun e he => ?_, h⟩
      rcases List.mem_cons.1 he with rfl | he
      · exact hk
      · exact Std.TransCmp.lt_trans hk (hd e he)
    next hk =>
      have hk : k = d.1 := Std.LawfulEqOrd.eq_of_compare hk
      exact List.pairwise_cons.2 ⟨fun e he => hk ▸ hd e he, hes⟩
    next hk =>
      refine List.pairwise_cons.2 ⟨fun e he => ?_, ascending_set k v hes⟩
      rcases mem_set he with rfl | he
      · exact Std.OrientedCmp.gt_iff_lt.1 hk
      · exact hd e he

theorem ascending_unset (k : κ) {es : List (κ × α)} (h : Ascending es) :
    Ascending (unset k es) :=
  List.Pairwise.filter _ h

/-! ### The operations on maps -/

/-- The map without entries. -/
def empty : OrderedMap κ α := ⟨[], .nil⟩

instance : EmptyCollection (OrderedMap κ α) := ⟨empty⟩

instance : Inhabited (OrderedMap κ α) := ⟨empty⟩

/-- The value under a key. -/
def get? (m : OrderedMap κ α) (k : κ) : Option α := lookup k m.entries

/-- Whether a key has a value. -/
def contains (m : OrderedMap κ α) (k : κ) : Bool := (m.get? k).isSome

/-- The map with a key set to a value, whatever it held before. -/
def insert [Std.TransOrd κ] [Std.LawfulEqOrd κ] (m : OrderedMap κ α) (k : κ) (v : α) :
    OrderedMap κ α :=
  ⟨set k v m.entries, ascending_set k v m.ascending⟩

/-- The map without a key. -/
def erase (m : OrderedMap κ α) (k : κ) : OrderedMap κ α :=
  ⟨unset k m.entries, ascending_unset k m.ascending⟩

/-- The map of a list of entries; the last entry of a key wins. -/
def ofList [Std.TransOrd κ] [Std.LawfulEqOrd κ] (entries : List (κ × α)) : OrderedMap κ α :=
  entries.foldl (fun m e => m.insert e.1 e.2) empty

/-- The keys in ascending order. -/
def keys (m : OrderedMap κ α) : List κ := m.entries.map Prod.fst

/-- The values in ascending order of their keys. -/
def values (m : OrderedMap κ α) : List α := m.entries.map Prod.snd

/-- The number of entries. -/
def size (m : OrderedMap κ α) : Nat := m.entries.length

/-- Whether there are no entries. -/
def isEmpty (m : OrderedMap κ α) : Bool := m.entries.isEmpty

instance [DecidableEq κ] [DecidableEq α] : DecidableEq (OrderedMap κ α) := fun m n =>
  decidable_of_iff (m.entries = n.entries)
    ⟨fun h => by cases m; cases n; cases h; rfl, fun h => h ▸ rfl⟩

/-! ### Look-ups after an operation -/

theorem entries_injective : {m n : OrderedMap κ α} → m.entries = n.entries → m = n
  | ⟨_, _⟩, ⟨_, _⟩, rfl => rfl

@[simp] theorem get?_empty (k : κ) : (empty : OrderedMap κ α).get? k = none := rfl

section Lawful

variable [Std.TransOrd κ] [Std.LawfulEqOrd κ]

omit [Std.TransOrd κ] in
theorem lookup_set [DecidableEq κ] (k k' : κ) (v : α) :
    (es : List (κ × α)) → lookup k' (set k v es) = if k' = k then some v else lookup k' es
  | [] => by simp [set, lookup]
  | e :: es => by
    simp only [set]
    split
    next => simp [lookup]
    next hk =>
      have hk : k = e.1 := Std.LawfulEqOrd.eq_of_compare hk
      subst hk
      by_cases h : k' = e.1 <;> simp [lookup, h]
    next hk =>
      have hne : k ≠ e.1 := by
        rintro rfl
        simp at hk
      by_cases h : k' = k
      · subst h
        simp [lookup, hne, lookup_set k' k' v es]
      · simp [lookup, h, lookup_set k k' v es]

/-- **A look-up after an insertion.** The key inserted has the new value, all others have the
value that they had. -/
theorem get?_insert [DecidableEq κ] (m : OrderedMap κ α) (k k' : κ) (v : α) :
    (m.insert k v).get? k' = if k' = k then some v else m.get? k' :=
  lookup_set k k' v m.entries

omit [Std.TransOrd κ] in
theorem lookup_unset [DecidableEq κ] (k k' : κ) :
    (es : List (κ × α)) → lookup k' (unset k es) = if k' = k then none else lookup k' es
  | [] => by simp [unset, lookup]
  | e :: es => by
    have ih : lookup k' (es.filter fun e => compare k e.1 != .eq) =
        if k' = k then none else lookup k' es := lookup_unset k k' es
    simp only [unset]
    by_cases hk : k = e.1
    · subst hk
      by_cases h : k' = e.1
      · subst h
        simpa [lookup] using ih
      · simp [lookup, h, ih]
    · by_cases h : k' = k
      · subst h
        simp [lookup, hk, ih]
      · simp [lookup, hk, h, ih]

omit [Std.TransOrd κ] in
/-- **A look-up after a removal.** The key removed is gone, all others have the value that they
had. -/
theorem get?_erase [DecidableEq κ] (m : OrderedMap κ α) (k k' : κ) :
    (m.erase k).get? k' = if k' = k then none else m.get? k' :=
  lookup_unset k k' m.entries

omit [Std.TransOrd κ] [Std.LawfulEqOrd κ] in
theorem lookup_eq_none_of_lt {k : κ} {es : List (κ × α)}
    (h : ∀ e ∈ es, compare k e.1 = .lt) : lookup k es = none := by
  induction es with
  | nil => rfl
  | cons e es ih =>
    have he := h e List.mem_cons_self
    simp [lookup, he, ih fun e' h' => h e' (List.mem_cons_of_mem _ h')]

theorem entries_eq_of_lookup :
    {es fs : List (κ × α)} → Ascending es → Ascending fs →
      (∀ k, lookup k es = lookup k fs) → es = fs
  | [], [], _, _, _ => rfl
  | [], f :: fs, _, _, h => by simpa [lookup] using h f.1
  | e :: es, [], _, _, h => by simpa [lookup] using h e.1
  | (k, v) :: es, (l, w) :: fs, he, hf, h => by
    have ⟨hk, hes⟩ := List.pairwise_cons.1 he
    have ⟨hl, hfs⟩ := List.pairwise_cons.1 hf
    have hkl : k = l := by
      refine Std.LawfulEqOrd.eq_of_compare (a := k) (b := l) ?_
      cases hc : compare k l with
      | eq => rfl
      | lt =>
        have hnone : lookup k ((l, w) :: fs) = none := lookup_eq_none_of_lt fun e h' => by
          rcases List.mem_cons.1 h' with rfl | h'
          · exact hc
          · exact Std.TransCmp.lt_trans hc (hl e h')
        simpa [lookup] using (h k).trans hnone
      | gt =>
        have hc := Std.OrientedCmp.gt_iff_lt.1 hc
        have hnone : lookup l ((k, v) :: es) = none := lookup_eq_none_of_lt fun e h' => by
          rcases List.mem_cons.1 h' with rfl | h'
          · exact hc
          · exact Std.TransCmp.lt_trans hc (hk e h')
        simpa [lookup] using (h l).symm.trans hnone
    subst hkl
    have hv : v = w := by simpa [lookup] using h k
    subst hv
    have hrest : es = fs := entries_eq_of_lookup hes hfs fun k' => by
      by_cases hk' : k' = k
      · subst hk'
        rw [lookup_eq_none_of_lt hk, lookup_eq_none_of_lt hl]
      · simpa [lookup, hk'] using h k'
    rw [hrest]

/-- **Maps with equal look-ups are equal.** -/
theorem ext_get? {m n : OrderedMap κ α} (h : ∀ k, m.get? k = n.get? k) : m = n :=
  entries_injective (entries_eq_of_lookup m.ascending n.ascending h)

end Lawful

end OrderedMap

end SecretRotation
