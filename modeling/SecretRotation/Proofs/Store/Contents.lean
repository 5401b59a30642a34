import Mathlib.Data.List.Sort
import SecretRotation.Pass.Selection
import SecretRotation.Proofs.Cluster.AsWritten
import SecretRotation.Store

/-!
# The contents of a store

A store is made by putting workloads and secrets into it, by updates, and by choosing what is to
fail. Whatever is stored then lies in its own place: every document is that of a workload of its
slot, and every secret lies under its own identity. So a workload that is looked up is the one that
was stored, as written, and a list holds exactly the workloads of a kind and a namespace, each once,
in the order of their names.

## Main definitions

* `Store.Built`: the stores that can be made.
* `Store.Orderly`: everything lies in its own place.
* `Store.members`: the workloads of a kind in a namespace.
* `Store.Lists`: the lists of a kind do not fail.

## Main results

* `Store.Built.orderly`: in every store that can be made, everything lies in its own place.
* `Store.Orderly.list_eq`: what is listed.
* `Store.Orderly.mem_members_iff`, `Store.Orderly.pairwise_members`: each stored workload once, in
  ascending order.
* `Store.Orderly.workloads_eq`, `Store.Orderly.members_eq_map`: stores compared by what is found in
  them.
-/

namespace SecretRotation

open Json (Codec)

namespace Slot

/-- Slots of one kind are in the order of their identities. -/
theorem compare_mk (k : Kind) (a b : Identity) :
    compare (⟨k, a⟩ : Slot) ⟨k, b⟩ = compare a b := by
  change (compare k.rank k.rank).then (compare a b) = compare a b
  simp

/-- Slots of an earlier kind come first. -/
theorem compare_of_rank_lt {a b : Slot} (h : a.kind.rank < b.kind.rank) : compare a b = .lt := by
  change (compare a.kind.rank b.kind.rank).then (compare a.identity b.identity) = .lt
  rw [Nat.compare_eq_lt.2 h]
  rfl

theorem rank_le_of_compare {a b : Slot} (h : compare a b = .lt) : a.kind.rank ≤ b.kind.rank := by
  by_contra hrank
  have hgt : compare b a = .lt := compare_of_rank_lt (Nat.lt_of_not_le hrank)
  rw [Std.OrientedCmp.gt_iff_lt.2 h] at hgt
  cases hgt

end Slot

/-- Where a workload is stored. -/
def Workload.slot {k : Kind} (w : Workload k) : Slot := ⟨k, w.identity⟩

namespace Store

variable {k : Kind} {s : Store}

/-! ### Stores that can be made -/

/-- The stores that can be made. -/
inductive Built : Store → Prop
  | empty : Built {}
  | put {s : Store} (h : Built s) {k : Kind} (w : Workload k) : Built (s.put w)
  | putSecret {s : Store} (h : Built s) (secret : Secret) : Built (s.putSecret secret)
  | update {s : Store} (h : Built s) {k : Kind} (w : Workload k) : Built (s.update w).2
  | reject {s : Store} (h : Built s) (names : List String) :
      Built { s with rejectedNames := names }
  | failLists {s : Store} (h : Built s) (all : Bool) (kinds : List String) :
      Built { s with listingFails := all, failingKinds := kinds }

/-- Everything lies in its own place: documents are those of workloads of their slots, of which
nothing more is lost in writing, and secrets lie under their own identities. -/
structure Orderly (s : Store) : Prop where
  exists_workload {slot : Slot} {json : Json} (h : s.workloads.get? slot = some json) :
    ∃ w : Workload slot.kind, w.asWritten = w ∧ json = (Workload.codec slot.kind).write w ∧
      w.identity = slot.identity
  identity_secret {identity : Identity} {secret : Secret}
    (h : s.secrets.get? identity = some secret) : secret.metadata.identity = identity

theorem get?_workloads_put (s : Store) (w : Workload k) (slot : Slot) :
    (s.put w).workloads.get? slot =
      if slot = w.slot then some ((Workload.codec k).write w) else s.workloads.get? slot :=
  OrderedMap.get?_insert ..

theorem Orderly.put (hs : s.Orderly) (w : Workload k) : (s.put w).Orderly where
  exists_workload {slot json} h := by
    rw [get?_workloads_put] at h
    split at h
    next hslot =>
      subst hslot
      exact ⟨w.asWritten, w.asWritten_asWritten, (Option.some.inj h).symm.trans
        w.write_asWritten.symm, rfl⟩
    next => exact hs.exists_workload h
  identity_secret h := hs.identity_secret h

theorem Orderly.putSecret (hs : s.Orderly) (secret : Secret) : (s.putSecret secret).Orderly where
  exists_workload h := hs.exists_workload h
  identity_secret {identity found} h := by
    simp only [Store.putSecret, OrderedMap.get?_insert] at h
    split at h
    next hidentity =>
      cases h
      exact hidentity.symm
    next => exact hs.identity_secret h

theorem Orderly.update (hs : s.Orderly) (w : Workload k) : (s.update w).2.Orderly := by
  have hnoted : { s with updateCalls := s.updateCalls ++ [w.identity.name] }.Orderly :=
    ⟨hs.exists_workload, hs.identity_secret⟩
  simp only [Store.update]
  split
  · exact hnoted
  · exact hnoted.put w

/-- **In every store that can be made, everything lies in its own place.** -/
theorem Built.orderly (h : s.Built) : s.Orderly := by
  induction h with
  | empty => exact ⟨fun h => by simp at h, fun h => by simp at h⟩
  | put _ w ih => exact ih.put w
  | putSecret _ secret ih => exact ih.putSecret secret
  | update _ w ih => exact ih.update w
  | reject _ names ih => exact ⟨ih.exists_workload, ih.identity_secret⟩
  | failLists _ all kinds ih => exact ⟨ih.exists_workload, ih.identity_secret⟩

/-! ### Looking up workloads -/

theorem find?_congr {s' : Store} {slot : Slot}
    (h : s.workloads.get? slot = s'.workloads.get? slot) :
    s.find? slot.kind slot.identity = s'.find? slot.kind slot.identity :=
  congrArg (Option.bind · (Workload.codec slot.kind).read) h

/-- The workload of a slot is found as it was written if its document is stored there. -/
theorem find?_of_get? {identity : Identity} {w : Workload k}
    (h : s.workloads.get? ⟨k, identity⟩ = some ((Workload.codec k).write w)) :
    s.find? k identity = some w.asWritten := by
  simp [find?, h, Codec.Settles.read_write]

/-- A stamped workload is found as it is if nothing more was lost of the workload. -/
theorem find?_of_get?_stamped {identity : Identity} {w : Workload k} (hwritten : w.asWritten = w)
    {key : String} {stamp : Stamp} (h : s.workloads.get? ⟨k, identity⟩ =
      some ((Workload.codec k).write (w.stamped key stamp))) :
    s.find? k identity = some (w.stamped key stamp) := by
  rw [find?_of_get? h, Workload.asWritten_stamped_of_eq hwritten]

namespace Orderly

variable (hs : s.Orderly)

include hs

theorem of_find? {identity : Identity} {w : Workload k} (h : s.find? k identity = some w) :
    w.asWritten = w ∧ s.workloads.get? ⟨k, identity⟩ = some ((Workload.codec k).write w) ∧
      w.identity = identity := by
  obtain ⟨json, hget, hread⟩ := Option.bind_eq_some_iff.1 h
  obtain ⟨v, hwritten, rfl, hv⟩ := hs.exists_workload hget
  rw [Codec.Settles.read_write, hwritten] at hread
  cases hread
  exact ⟨hwritten, hget, hv⟩

/-- Nothing more is lost of a workload that is found. -/
theorem asWritten_of_find? {identity : Identity} {w : Workload k}
    (h : s.find? k identity = some w) : w.asWritten = w :=
  (hs.of_find? h).1

theorem get?_of_find? {identity : Identity} {w : Workload k} (h : s.find? k identity = some w) :
    s.workloads.get? ⟨k, identity⟩ = some ((Workload.codec k).write w) :=
  (hs.of_find? h).2.1

theorem find?_eq_some_iff {identity : Identity} {w : Workload k} :
    s.find? k identity = some w ↔ w.asWritten = w ∧
      s.workloads.get? ⟨k, identity⟩ = some ((Workload.codec k).write w) := by
  refine ⟨fun h => ⟨hs.asWritten_of_find? h, hs.get?_of_find? h⟩, fun ⟨hwritten, hget⟩ => ?_⟩
  rw [find?_of_get? hget, hwritten]

theorem identity_of_find? {identity : Identity} {w : Workload k}
    (h : s.find? k identity = some w) : w.identity = identity :=
  (hs.of_find? h).2.2

/-- What is stored in a slot is the document of the workload that is found there. -/
theorem get?_eq (slot : Slot) :
    s.workloads.get? slot =
      (s.find? slot.kind slot.identity).map (Workload.codec slot.kind).write := by
  cases hget : s.workloads.get? slot with
  | none =>
    have hfind : s.find? slot.kind slot.identity = none := Option.bind_eq_none_iff.2 fun _ h => by
      cases hget.symm.trans h
    rw [hfind, Option.map_none]
  | some json =>
    obtain ⟨w, hwritten, rfl, -⟩ := hs.exists_workload hget
    rw [find?_of_get? hget, Option.map_some, hwritten]

end Orderly

/-- Two stores in which the same workloads are found store the same documents. -/
theorem Orderly.workloads_eq {s' : Store} (hs : s.Orderly) (hs' : s'.Orderly)
    (h : ∀ k identity, s.find? k identity = s'.find? k identity) : s.workloads = s'.workloads :=
  OrderedMap.ext_get? fun slot => by rw [hs.get?_eq, hs'.get?_eq, h]

/-! ### Listing workloads -/

/-- The workloads of a kind in a namespace, in the order of their names. -/
def members (s : Store) (k : Kind) (ns : String) : List (Workload k) :=
  (s.documents k ns).filterMap (Workload.codec k).read

/-- The lists of a kind do not fail. -/
def Lists (s : Store) (k : Kind) : Prop := s.listingFails = false ∧ k.name ∉ s.failingKinds

instance (s : Store) (k : Kind) : Decidable (s.Lists k) := inferInstanceAs (Decidable (_ ∧ _))

/-- The answer to a list that fails. -/
def unavailable : Fault := .refused (.failure 500 "InternalError" "etcd unavailable")

theorem list_of_not_lists (h : ¬ s.Lists k) (ns : String) : s.list k ns = .error unavailable := by
  have hfails : (s.listingFails || s.failingKinds.contains k.name) = true := by
    by_contra hfails
    simp only [Bool.or_eq_true, List.contains_iff_mem, not_or, Bool.not_eq_true] at hfails
    exact h hfails
  rw [list, if_pos hfails, unavailable]

/-- The entry that a workload is stored as. -/
def entry (w : Workload k) : Slot × Json := (w.slot, (Workload.codec k).write w)

/-- Whether an entry is that of a workload of a kind in a namespace. -/
def isMember (k : Kind) (ns : String) (e : Slot × Json) : Bool :=
  e.1.kind = k && e.1.identity.ns = ns

theorem isMember_iff {k : Kind} {ns : String} {e : Slot × Json} :
    isMember k ns e = true ↔ e.1.kind = k ∧ e.1.identity.ns = ns := by
  simp [isMember]

/-- Entries of the workloads of a kind in a namespace are those of the workloads that their
documents are read as. -/
theorem filter_isMember_eq_map (k : Kind) (ns : String) {es : List (Slot × Json)}
    (h : ∀ e ∈ es, ∃ w : Workload e.1.kind, w.asWritten = w ∧
      e.2 = (Workload.codec e.1.kind).write w ∧ w.identity = e.1.identity) :
    es.filter (isMember k ns) =
      (((es.filter (isMember k ns)).map Prod.snd).filterMap (Workload.codec k).read).map entry := by
  induction es with
  | nil => rfl
  | cons e es ih =>
    have ih := ih fun e' he => h e' (List.mem_cons_of_mem _ he)
    by_cases hmember : isMember k ns e = true
    · obtain ⟨⟨kind, identity⟩, json⟩ := e
      obtain ⟨rfl, -⟩ := isMember_iff.1 hmember
      obtain ⟨w, hwritten, rfl, rfl⟩ : ∃ w : Workload kind, w.asWritten = w ∧
          json = (Workload.codec kind).write w ∧ w.identity = identity := h _ List.mem_cons_self
      rw [List.filter_cons_of_pos hmember, List.map_cons,
        List.filterMap_cons_some (Codec.Settles.read_write w), List.map_cons, ← ih, hwritten]
      rfl
    · rwa [List.filter_cons_of_neg hmember]

namespace Orderly

variable (hs : s.Orderly)

include hs

theorem filter_entries (k : Kind) (ns : String) :
    s.workloads.entries.filter (isMember k ns) = (s.members k ns).map entry :=
  filter_isMember_eq_map k ns fun _ he => hs.exists_workload (OrderedMap.mem_entries_iff.1 he)

/-- The documents of a list are those of the workloads of a kind in a namespace. -/
theorem documents_eq (k : Kind) (ns : String) :
    s.documents k ns = (s.members k ns).map (Workload.codec k).write := by
  change (s.workloads.entries.filter (isMember k ns)).map Prod.snd = _
  rw [hs.filter_entries, List.map_map]
  rfl

/-- The workloads of a kind in a namespace are those that are found there. -/
theorem mem_members_iff {ns : String} {w : Workload k} :
    w ∈ s.members k ns ↔ s.find? k w.identity = some w ∧ w.identity.ns = ns := by
  rw [members, List.mem_filterMap]
  constructor
  · rintro ⟨json, hjson, hread⟩
    obtain ⟨⟨⟨kind, identity⟩, _⟩, hlisted, rfl⟩ := List.mem_map.1 hjson
    obtain ⟨he, hmember⟩ := List.mem_filter.1 hlisted
    obtain ⟨rfl, hns⟩ := isMember_iff.1 hmember
    have hfind : s.find? kind identity = some w :=
      Option.bind_eq_some_iff.2 ⟨_, OrderedMap.mem_entries_iff.1 he, hread⟩
    rw [hs.identity_of_find? hfind]
    exact ⟨hfind, hns⟩
  · rintro ⟨hfind, hns⟩
    obtain ⟨json, hget, hread⟩ := Option.bind_eq_some_iff.1 hfind
    have hmember : isMember k ns (⟨k, w.identity⟩, json) = true := isMember_iff.2 ⟨rfl, hns⟩
    exact ⟨json, List.mem_map.2 ⟨_, List.mem_filter.2
      ⟨OrderedMap.mem_entries_iff.2 hget, hmember⟩, rfl⟩, hread⟩

/-- Nothing more is lost of them. -/
theorem map_asWritten_members (k : Kind) (ns : String) :
    (s.members k ns).map Workload.asWritten = s.members k ns :=
  (List.map_congr_left fun _ hw => hs.asWritten_of_find? (hs.mem_members_iff.1 hw).1).trans
    (List.map_id _)

/-- **A list holds the workloads of a kind in a namespace.** -/
theorem list_eq (hk : s.Lists k) (ns : String) : s.list k ns = .ok (s.members k ns) := by
  have hnot : ¬ (s.listingFails || s.failingKinds.contains k.name) = true := by
    simp [hk.1, hk.2]
  rw [list, if_neg hnot, hs.documents_eq, Codec.mapM_read_map_write, hs.map_asWritten_members]

/-- Each of them is there once, in the order of their names. -/
theorem pairwise_members (k : Kind) (ns : String) :
    (s.members k ns).Pairwise fun v w => compare v.identity w.identity = .lt := by
  have hentries := s.workloads.ascending.filter (isMember k ns)
  rw [hs.filter_entries, List.pairwise_map] at hentries
  exact hentries.imp fun {v w} h => by
    rwa [← Slot.compare_mk k v.identity w.identity]

end Orderly

/-- A store in which every workload of a kind is found changed lists them changed. -/
theorem Orderly.members_eq_map {s' : Store} (hs : s.Orderly) (hs' : s'.Orderly)
    {f : Workload k → Workload k} (hf : ∀ w, (f w).identity = w.identity)
    (h : ∀ identity, s'.find? k identity = (s.find? k identity).map f) (ns : String) :
    s'.members k ns = (s.members k ns).map f := by
  have hascending : ((s.members k ns).map f).Pairwise
      fun v w => compare v.identity w.identity = .lt := by
    refine List.pairwise_map.2 ((hs.pairwise_members k ns).imp fun {v w} hlt => ?_)
    rwa [hf, hf]
  have hirrefl (w : Workload k) : compare w.identity w.identity ≠ .lt := by simp
  have hantisymm (v w : Workload k) (hlt : compare v.identity w.identity = .lt)
      (hgt : compare w.identity v.identity = .lt) : v = w := by
    rw [Std.OrientedCmp.gt_iff_lt.2 hlt] at hgt
    cases hgt
  have : Std.Irrefl fun v w : Workload k => compare v.identity w.identity = .lt := ⟨hirrefl⟩
  have : Std.Antisymm fun v w : Workload k => compare v.identity w.identity = .lt := ⟨hantisymm⟩
  refine (hs'.pairwise_members k ns).eq_of_mem_iff hascending fun w => ?_
  rw [hs'.mem_members_iff, h, List.mem_map]
  constructor
  · rintro ⟨hfind, hns⟩
    obtain ⟨v, hv, rfl⟩ := Option.map_eq_some_iff.1 hfind
    rw [hf] at hv hns
    exact ⟨v, hs.mem_members_iff.2 ⟨hv, hns⟩, rfl⟩
  · rintro ⟨v, hv, rfl⟩
    obtain ⟨hv, hns⟩ := hs.mem_members_iff.1 hv
    rw [hf, hv, Option.map_some]
    exact ⟨rfl, hns⟩

end Store

/-! ### The workloads that take part -/

/-- Of workloads listed in ascending order, those that take part are used as they are listed. -/
theorem Listing.values_eligible {k : Kind} {ws : List (Workload k)}
    (h : ws.Pairwise fun v w => compare v.identity w.identity = .lt) (secretName : String) :
    ((⟨k, ws⟩ : Listing).eligible secretName).values =
      ws.filter fun w => w.optsIn && w.consumes secretName := by
  have hascending : Ascending
      ((ws.filter fun w => w.optsIn && w.consumes secretName).map fun w => (w.identity, w)) :=
    List.pairwise_map.2 (h.filter _)
  rw [Listing.eligible, OrderedMap.ofList_of_ascending hascending, OrderedMap.values,
    List.map_map]
  exact List.map_id _

end SecretRotation
