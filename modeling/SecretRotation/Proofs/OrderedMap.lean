import Mathlib.Data.List.Dedup
import Mathlib.Data.List.Induction
import SecretRotation.OrderedMap

/-!
# Maps and their entries

The entries of a map in ascending order are the map: they say what every look-up finds, and
inserting them one by one into the empty map gives the map back.

## Main results

* `OrderedMap.mem_entries_iff`: the entries are what the look-ups find.
* `OrderedMap.ofList_of_ascending`: entries in ascending order are taken as they are.
* `OrderedMap.get?_foldl_insert_of_mem`, `OrderedMap.get?_foldl_insert_of_forall_ne`: look-ups after
  several insertions.
* `OrderedMap.get?_ofList`: of several entries with one key, the last one is looked up.
-/

namespace SecretRotation.OrderedMap

variable {κ α : Type} [Ord κ]

/-! ### Entries and look-ups -/

theorem values_eq_nil_of_isEmpty {m : OrderedMap κ α} (h : m.isEmpty) : m.values = [] := by
  rw [values, List.isEmpty_iff.1 h, List.map_nil]

theorem mem_of_lookup [Std.LawfulEqOrd κ] {k : κ} {v : α} :
    {es : List (κ × α)} → lookup k es = some v → (k, v) ∈ es
  | e :: es, h => by
    simp only [lookup] at h
    split at h
    next hk =>
      have hk : k = e.1 := Std.LawfulEqOrd.eq_of_compare hk
      cases h
      rw [hk]
      exact List.mem_cons_self
    next => exact List.mem_cons_of_mem _ (mem_of_lookup h)

variable [Std.TransOrd κ] [Std.LawfulEqOrd κ]

theorem lookup_of_mem {k : κ} {v : α} :
    {es : List (κ × α)} → Ascending es → (k, v) ∈ es → lookup k es = some v
  | e :: es, hes, h => by
    have ⟨he, htail⟩ := List.pairwise_cons.1 hes
    rcases List.mem_cons.1 h with rfl | h
    · simp [lookup]
    · have hlt : compare e.1 k = .lt := he (k, v) h
      have hne : compare k e.1 ≠ .eq := by
        rw [Std.OrientedCmp.gt_iff_lt.2 hlt]
        simp
      rw [lookup, if_neg hne, lookup_of_mem htail h]

/-- The entries of a map are what its look-ups find. -/
theorem mem_entries_iff {m : OrderedMap κ α} {k : κ} {v : α} :
    (k, v) ∈ m.entries ↔ m.get? k = some v :=
  ⟨lookup_of_mem m.ascending, mem_of_lookup⟩

/-! ### Maps made of their entries -/

omit [Std.LawfulEqOrd κ] in
/-- A key above all others is set at the end. -/
theorem set_of_forall_lt {k : κ} {v : α} :
    {es : List (κ × α)} → (∀ e ∈ es, compare e.1 k = .lt) → set k v es = es ++ [(k, v)]
  | [], _ => rfl
  | e :: es, h => by
    have hk : compare k e.1 = .gt := Std.OrientedCmp.gt_iff_lt.2 (h e List.mem_cons_self)
    simp only [set, hk, List.cons_append]
    rw [set_of_forall_lt fun e' h' => h e' (List.mem_cons_of_mem _ h')]

theorem entries_foldl_insert :
    {es : List (κ × α)} → (m : OrderedMap κ α) → Ascending (m.entries ++ es) →
      (es.foldl (fun m e => m.insert e.1 e.2) m).entries = m.entries ++ es
  | [], m, _ => by simp
  | e :: es, m, h => by
    have hset : set e.1 e.2 m.entries = m.entries ++ [e] :=
      set_of_forall_lt fun d hd => (List.pairwise_append.1 h).2.2 d hd e List.mem_cons_self
    have hinsert : (m.insert e.1 e.2).entries = m.entries ++ [e] := hset
    rw [List.foldl_cons, entries_foldl_insert (m.insert e.1 e.2), hinsert, List.append_assoc,
      List.singleton_append]
    rwa [hinsert, List.append_assoc, List.singleton_append]

/-- Entries in ascending order are taken as they are. -/
theorem ofList_of_ascending {es : List (κ × α)} (h : Ascending es) : ofList es = ⟨es, h⟩ :=
  entries_injective (entries_foldl_insert empty h)

/-- **A map is made of its own entries.** -/
theorem ofList_entries (m : OrderedMap κ α) : ofList m.entries = m :=
  ofList_of_ascending m.ascending

theorem forall_mem_entries_foldl_insert {p : κ × α → Prop} {es : List (κ × α)}
    (hes : ∀ e ∈ es, p e) :
    (m : OrderedMap κ α) → (∀ e ∈ m.entries, p e) →
      ∀ e ∈ (es.foldl (fun m e => m.insert e.1 e.2) m).entries, p e := by
  induction es with
  | nil => exact fun m hm => hm
  | cons d es ih =>
    obtain ⟨hd, hes⟩ := List.forall_mem_cons.1 hes
    intro m hm
    refine ih hes (m.insert d.1 d.2) fun e he => ?_
    rcases mem_set he with rfl | he
    · exact hd
    · exact hm e he

/-- What holds of all entries that a map is made of holds of its entries. -/
theorem forall_mem_entries_ofList {p : κ × α → Prop} {es : List (κ × α)} (hes : ∀ e ∈ es, p e) :
    ∀ e ∈ (ofList es).entries, p e :=
  forall_mem_entries_foldl_insert hes empty fun _ he => absurd he List.not_mem_nil

theorem exists_last_of_mem_foldl_insert [DecidableEq κ] {e : κ × α} :
    {es : List (κ × α)} → (m : OrderedMap κ α) →
      e ∈ (es.foldl (fun m e => m.insert e.1 e.2) m).entries →
      (∃ ahead behind, es = ahead ++ e :: behind ∧ ∀ e' ∈ behind, e'.1 ≠ e.1) ∨
        e ∈ m.entries ∧ ∀ e' ∈ es, e'.1 ≠ e.1
  | [], _, h => .inr ⟨h, nofun⟩
  | d :: es, m, h => by
    rcases exists_last_of_mem_foldl_insert (m.insert d.1 d.2) h with
      ⟨ahead, behind, rfl, hbehind⟩ | ⟨he, hes⟩
    · exact .inl ⟨d :: ahead, behind, rfl, hbehind⟩
    · have hget : (m.insert d.1 d.2).get? e.1 = some e.2 := mem_entries_iff.1 he
      rw [get?_insert] at hget
      split at hget
      next hkey =>
        have hd : d = e := Prod.ext hkey.symm (Option.some.inj hget)
        exact .inl ⟨[], es, by rw [hd, List.nil_append], hes⟩
      next hkey =>
        exact .inr ⟨mem_entries_iff.2 hget, List.forall_mem_cons.2 ⟨Ne.symm hkey, hes⟩⟩

/-- An entry of a map is the last one of its key among the entries that the map is made of. -/
theorem exists_last_of_mem_ofList [DecidableEq κ] {es : List (κ × α)} {e : κ × α}
    (h : e ∈ (ofList es).entries) :
    ∃ ahead behind, es = ahead ++ e :: behind ∧ ∀ e' ∈ behind, e'.1 ≠ e.1 :=
  (exists_last_of_mem_foldl_insert empty h).resolve_right fun h => List.not_mem_nil h.1

omit [Std.TransOrd κ] in
/-- No key occurs twice. -/
theorem nodup_keys (m : OrderedMap κ α) : m.keys.Nodup := by
  refine List.pairwise_map.2 (m.ascending.imp fun {a b} hlt heq => ?_)
  have hself : compare b.1 b.1 = .eq := Std.ReflCmp.compare_self
  rw [heq, hself] at hlt
  cases hlt

theorem ofList_concat (es : List (κ × α)) (e : κ × α) :
    ofList (es ++ [e]) = (ofList es).insert e.1 e.2 := by
  rw [ofList, List.foldl_append, List.foldl_cons, List.foldl_nil, ofList]

/-- **The last entry of a key wins.** A key is looked up among the entries that a map is made of. -/
theorem get?_ofList [DecidableEq κ] (es : List (κ × α)) (k : κ) :
    (ofList es).get? k = ((es.filter fun e => decide (e.1 = k)).getLast?).map Prod.snd := by
  induction es using List.reverseRecOn with
  | nil => rfl
  | append_singleton es e ih =>
    rw [ofList_concat, get?_insert, List.filter_append]
    by_cases hk : e.1 = k
    · have hlast : [e].filter (fun e => decide (e.1 = k)) = [e] := by simp [hk]
      rw [if_pos hk.symm, hlast, List.getLast?_concat, Option.map_some]
    · have hrest : [e].filter (fun e => decide (e.1 = k)) = [] := by simp [hk]
      rw [if_neg (Ne.symm hk), hrest, List.append_nil, ih]

/-- A map that is made of entries has their keys. -/
theorem mem_keys_ofList [DecidableEq κ] {es : List (κ × α)} {k : κ} :
    k ∈ (ofList es).keys ↔ k ∈ es.map Prod.fst := by
  constructor
  · intro h
    obtain ⟨e, he, rfl⟩ := List.mem_map.1 h
    obtain ⟨ahead, behind, hes, -⟩ := exists_last_of_mem_ofList he
    exact List.mem_map_of_mem (hes ▸ List.mem_append_right ahead List.mem_cons_self)
  · intro h
    obtain ⟨e, he, rfl⟩ := List.mem_map.1 h
    have hmem : e ∈ es.filter fun e' => decide (e'.1 = e.1) :=
      List.mem_filter.2 ⟨he, decide_eq_true rfl⟩
    obtain ⟨last, hlast⟩ :=
      Option.isSome_iff_exists.1 (List.getLast?_isSome.2 (List.ne_nil_of_mem hmem))
    have hget : (ofList es).get? e.1 = some last.2 := by
      rw [get?_ofList, hlast, Option.map_some]
    exact List.mem_map.2 ⟨(e.1, last.2), mem_entries_iff.2 hget, rfl⟩

/-- A map has one entry for each key among those that it is made of. -/
theorem size_ofList [DecidableEq κ] (es : List (κ × α)) :
    (ofList es).size = (es.map Prod.fst).dedup.length := by
  have hperm : (ofList es).keys.Perm (es.map Prod.fst).dedup :=
    (List.perm_ext_iff_of_nodup (nodup_keys _) (List.nodup_dedup _)).2 fun k => by
      rw [mem_keys_ofList, List.mem_dedup]
  rw [← hperm.length_eq, keys, List.length_map, size]

omit [Std.TransOrd κ] [Std.LawfulEqOrd κ] in
theorem map_set {β : Type} (f : α → β) (k : κ) (v : α) :
    (es : List (κ × α)) →
      (set k v es).map (fun e => (e.1, f e.2)) = set k (f v) (es.map fun e => (e.1, f e.2))
  | [] => rfl
  | e :: es => by
    simp only [set, List.map_cons]
    split
    · rfl
    · rfl
    · rw [List.map_cons, map_set f k v es]

/-- Whether values are changed before they are inserted or afterwards makes no difference. -/
theorem map_entries_foldl_insert {β : Type} (f : α → β) {es : List (κ × α)} :
    (m : OrderedMap κ α) → (m' : OrderedMap κ β) →
      m.entries.map (fun e => (e.1, f e.2)) = m'.entries →
      (es.foldl (fun m e => m.insert e.1 e.2) m).entries.map (fun e => (e.1, f e.2)) =
        ((es.map fun e => (e.1, f e.2)).foldl (fun m e => m.insert e.1 e.2) m').entries := by
  induction es with
  | nil => exact fun m m' h => h
  | cons e es ih =>
    intro m m' h
    refine ih (m.insert e.1 e.2) (m'.insert e.1 (f e.2)) ?_
    exact (map_set f e.1 e.2 m.entries).trans (congrArg (set e.1 (f e.2)) h)

theorem map_entries_ofList {β : Type} (f : α → β) (es : List (κ × α)) :
    (ofList es).entries.map (fun e => (e.1, f e.2)) =
      (ofList (es.map fun e => (e.1, f e.2))).entries :=
  map_entries_foldl_insert f empty empty rfl

/-! ### Several insertions -/

/-- Insertions at different keys commute. -/
theorem insert_comm [DecidableEq κ] (m : OrderedMap κ α) {k k' : κ} (h : k ≠ k') (v v' : α) :
    (m.insert k v).insert k' v' = (m.insert k' v').insert k v := by
  refine ext_get? fun j => ?_
  simp only [get?_insert]
  by_cases hk : j = k
  · rw [if_neg fun hk' => h (hk.symm.trans hk'), if_pos hk, if_pos hk]
  · rw [if_neg hk, if_neg hk]

/-- The later of two insertions at a key stands. -/
theorem insert_insert [DecidableEq κ] (m : OrderedMap κ α) (k : κ) (v v' : α) :
    (m.insert k v).insert k v' = m.insert k v' := by
  refine ext_get? fun j => ?_
  simp only [get?_insert]
  split <;> rfl

/-- A value that a key already has can be inserted again. -/
theorem insert_eq_self [DecidableEq κ] {m : OrderedMap κ α} {k : κ} {v : α}
    (h : m.get? k = some v) : m.insert k v = m := by
  refine ext_get? fun j => ?_
  rw [get?_insert]
  split
  next hj => rw [hj, h]
  next => rfl

/-- Nothing of an insertion is left without its key. -/
theorem erase_insert [DecidableEq κ] (m : OrderedMap κ α) (k : κ) (v : α) :
    (m.insert k v).erase k = m.erase k := by
  refine ext_get? fun j => ?_
  simp only [get?_erase, get?_insert]
  split <;> rfl

section Insertions

variable [DecidableEq κ] {ι : Type} {key : ι → κ} {value : ι → α}

/-- A key that is not inserted keeps its value. -/
theorem get?_foldl_insert_of_forall_ne {k : κ} :
    {is : List ι} → (m : OrderedMap κ α) → (∀ i ∈ is, key i ≠ k) →
      (is.foldl (fun m i => m.insert (key i) (value i)) m).get? k = m.get? k
  | [], _, _ => rfl
  | i :: is, m, h => by
    have hne : k ≠ key i := (h i List.mem_cons_self).symm
    rw [List.foldl_cons,
      get?_foldl_insert_of_forall_ne _ fun j hj => h j (List.mem_cons_of_mem i hj),
      get?_insert, if_neg hne]

/-- A key that is inserted once has the value inserted. -/
theorem get?_foldl_insert_of_mem {i : ι} :
    {is : List ι} → (m : OrderedMap κ α) → is.Pairwise (fun a b => key a ≠ key b) → i ∈ is →
      (is.foldl (fun m i => m.insert (key i) (value i)) m).get? (key i) = some (value i)
  | j :: is, m, hdistinct, hi => by
    obtain ⟨hj, hdistinct⟩ := List.pairwise_cons.1 hdistinct
    rw [List.foldl_cons]
    rcases List.mem_cons.1 hi with rfl | hi
    · rw [get?_foldl_insert_of_forall_ne _ fun b hb => (hj b hb).symm, get?_insert, if_pos rfl]
    · exact get?_foldl_insert_of_mem _ hdistinct hi

end Insertions

/-- Entries of a key that is set in the end need not be inserted before. -/
theorem insert_foldl_insert_filter [DecidableEq κ] (k : κ) (v : α) {es : List (κ × α)} :
    (m m' : OrderedMap κ α) → m.insert k v = m'.insert k v →
      ((es.filter fun e => decide (e.1 ≠ k)).foldl (fun m e => m.insert e.1 e.2) m).insert k v =
        (es.foldl (fun m e => m.insert e.1 e.2) m').insert k v := by
  induction es with
  | nil => exact fun m m' h => h
  | cons e es ih =>
    intro m m' h
    by_cases hk : e.1 = k
    · rw [List.filter_cons_of_neg (by simpa using hk), List.foldl_cons]
      refine ih m _ (h.trans ?_)
      refine ext_get? fun k' => ?_
      simp only [get?_insert, hk]
      split <;> rfl
    · rw [List.filter_cons_of_pos (by simpa using hk), List.foldl_cons, List.foldl_cons]
      refine ih _ _ ?_
      rw [insert_comm m hk, insert_comm m' hk, h]

end SecretRotation.OrderedMap
