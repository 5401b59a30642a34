import SecretRotation.Proofs.Store.Reading

/-!
# Passes over a store

A pass over a store is worked out in closed form. Once all is read, it goes through the workloads
that take part, in the order of their slots. Those with current stamps are left alone; an update is
asked for of every other one, and it is accepted unless the name of the workload is one whose
updates fail. What becomes of one workload does not depend on the others.

Updates are noted in a `Ledger` together with their slots and with whether they were accepted; a
store by itself only notes the names.

## Main definitions

* `Ledger`, `Attempt`: a store with the updates it was asked for.
* `Store.fate`: what becomes of a workload.
* `Store.total`: what a pass counts and collects.
* `Ledger.workedOff`: the ledger after workloads have been worked off.

## Main results

* `Store.Orderly.total_tally`: how what is counted of the listings adds up.
* `Ledger.pass_of_found`, `Ledger.pass_of_not_found`: what a pass does.
* `Ledger.get?_workedOff_of_outdated`, `Ledger.get?_workedOff_of_not_outdated`: what is stored
  afterwards.
-/

namespace SecretRotation

variable {k : Kind}

/-! ### Ledgers -/

/-- An update that was asked for. -/
structure Attempt where
  /-- The slot of the workload. -/
  slot : Slot
  /-- Whether the update succeeded. -/
  accepted : Bool
  deriving DecidableEq

/-- A store with the updates that it was asked for. -/
structure Ledger where
  /-- The store. -/
  store : Store
  /-- The updates, in order. -/
  attempts : List Attempt := []

/-- A ledger as a cluster on which nothing takes time. -/
def Ledger.instant : Instant Ledger where
  fetch l := l.store.fetch
  list l := l.store.list
  update l _ w :=
    let (answer, store) := l.store.update w
    (answer, ⟨store, l.attempts ++ [⟨w.slot, answer.isOk⟩]⟩)

theorem Ledger.refines : Ledger.instant.Refines Store.instant Ledger.store where
  fetch _ := rfl
  list _ _ := rfl
  update _ _ _ := rfl

/-! ### Single workloads -/

namespace Store

/-- Updates of a workload succeed. -/
def Accepts (s : Store) (w : Workload k) : Prop := w.identity.name ∉ s.rejectedNames

instance (s : Store) (w : Workload k) : Decidable (s.Accepts w) :=
  inferInstanceAs (Decidable (¬ _))

/-- The store with an update noted. -/
def note (s : Store) (name : String) : Store := { s with updateCalls := s.updateCalls ++ [name] }

/-- The answer to an update that is rejected. -/
def conflict : Fault := .refused (.failure 409 "Conflict" "the object has been modified")

theorem update_of_accepts {s : Store} {w : Workload k} (h : s.Accepts w) :
    s.update w = (.ok w, (s.note w.identity.name).put w) := by
  have hnot : ¬ s.rejectedNames.contains w.identity.name = true := by
    rwa [List.contains_iff_mem]
  rw [update, if_neg hnot]
  rfl

theorem update_of_not_accepts {s : Store} {w : Workload k} (h : ¬ s.Accepts w) :
    s.update w = (.error conflict, s.note w.identity.name) := by
  have hrejected : s.rejectedNames.contains w.identity.name = true :=
    List.contains_iff_mem.2 (not_not.1 h)
  rw [update, if_pos hrejected]
  rfl

/-- What becomes of a workload that takes part in a pass. -/
def fate (s : Store) (t : Target) (w : Workload k) : Except Failure Bool :=
  if w.IsCurrent t then .ok false
  else if s.Accepts w then .ok true
  else .error (.updating w.title conflict)

/-- What is counted and collected of a listing. -/
def tally (s : Store) (t : Target) (l : Listing) : Tally :=
  .ofResults l.workloads.length ((l.eligible t.name).values.map fun w => (w.title, s.fate t w))

/-- A workload whose update is rejected is among the failures. -/
theorem mem_failures_tally {s : Store} {t : Target} {l : Listing} {w : Workload l.kind}
    (hw : w ∈ (l.eligible t.name).values) (hcurrent : ¬ w.IsCurrent t) (h : ¬ s.Accepts w) :
    (w.title, .updating w.title conflict) ∈ (s.tally t l).failures := by
  refine Tally.mem_failures_ofResults (List.mem_map.2 ⟨w, hw, ?_⟩)
  rw [fate, if_neg hcurrent, if_neg h]

end Store

/-! ### What is counted -/

namespace Store

variable (s : Store) (t : Target)

/-- What becomes of units, each with its title. -/
def fates (units : List AnyWorkload) : List (String × Except Failure Bool) :=
  units.map fun w => (w.2.title, s.fate t w.2)

/-- The units that had current stamps are counted as such. -/
theorem upToDate_fates (listed : Nat) (units : List AnyWorkload) :
    (Tally.ofResults listed (s.fates t units)).report.upToDate + (outdated t units).length =
      units.length := by
  have hcounts := Tally.counts_ofResults listed units (fun w => w.2.title) fun w => s.fate t w.2
  have hcurrent : (Tally.ofResults listed (s.fates t units)).report.upToDate =
      units.countP fun w => w.2.IsCurrent t := by
    refine hcounts.upToDate_eq.trans (List.countP_congr fun w _ => ?_)
    by_cases hcurrent : w.2.IsCurrent t
    · simp [fate, hcurrent]
    · by_cases haccepts : s.Accepts w.2 <;> simp [fate, hcurrent, haccepts]
  rw [hcurrent, outdated, ← List.countP_eq_length_filter]
  simpa using (List.length_eq_countP_add_countP (fun w : AnyWorkload => w.2.IsCurrent t)
    (l := units)).symm

/-- The failures are those of the units that are not current and whose updates are rejected. -/
theorem failures_fates (listed : Nat) (units : List AnyWorkload) :
    (Tally.ofResults listed (s.fates t units)).failures =
      ((outdated t units).filter fun w => ¬ s.Accepts w.2).map
        fun w => (w.2.title, .updating w.2.title conflict) := by
  induction units with
  | nil => rfl
  | cons w units ih =>
    simp only [fates, Tally.ofResults, outdated, List.map_cons, List.filterMap_cons,
      List.filter_cons] at ih ⊢
    by_cases hcurrent : w.2.IsCurrent t
    · simpa [fate, hcurrent] using ih
    · by_cases haccepts : s.Accepts w.2
      · simpa [fate, hcurrent, haccepts] using ih
      · simpa [fate, hcurrent, haccepts] using ih

/-- What a pass counts and collects in all. -/
def total (scope : Scope) (secret : SecretRef) : Tally :=
  .ofResults ((s.listings scope secret).map (·.workloads.length)).sum
    (s.fates t (s.units scope secret))

theorem eligible_total (scope : Scope) (secret : SecretRef) :
    (s.total t scope secret).report.eligible = (s.units scope secret).length :=
  List.length_map _

theorem balanced_total (scope : Scope) (secret : SecretRef) :
    (s.total t scope secret).Balanced :=
  Tally.balanced_ofResults ..

theorem upToDate_total (scope : Scope) (secret : SecretRef) :
    (s.total t scope secret).report.upToDate + (outdated t (s.units scope secret)).length =
      (s.units scope secret).length :=
  s.upToDate_fates t _ _

theorem failures_total (scope : Scope) (secret : SecretRef) :
    (s.total t scope secret).failures =
      ((outdated t (s.units scope secret)).filter fun w => ¬ s.Accepts w.2).map
        fun w => (w.2.title, .updating w.2.title conflict) :=
  s.failures_fates t _ _

/-- A pass counts what becomes of the units, one kind after the other. -/
theorem Orderly.total_tally {s : Store} (hs : s.Orderly) {t : Target} {secret : SecretRef}
    (ht : t.name = secret.name) (scope : Scope) :
    Tally.total ((s.listings scope secret).map (s.tally t)) = s.total t scope secret := by
  have htotal := Tally.total_map_ofResults (fun l : Listing => l.workloads.length)
    (fun l => (l.eligible t.name).values.map fun w => (w.title, s.fate t w))
    (s.listings scope secret)
  refine htotal.trans (congrArg _ ?_)
  rw [← hs.flatMap_units_listings, fates, List.map_flatMap, ht]
  refine List.flatMap_congr fun l _ => ?_
  rw [Listing.units, List.map_map]
  rfl

end Store

/-! ### Working off -/

namespace Ledger

/-- The ledger after workloads have been worked off. -/
def workedOff (l : Ledger) (t : Target) (units : List AnyWorkload) : Ledger where
  store := { l.store with
    workloads := ((outdated t units).filter fun w => l.store.Accepts w.2).foldl
      (fun m w => m.insert w.2.slot ((Workload.codec w.1).write (w.2.stamped t.key t.stamp)))
      l.store.workloads
    updateCalls := l.store.updateCalls ++ (outdated t units).map fun w => w.2.identity.name }
  attempts := l.attempts ++ (outdated t units).map fun w => ⟨w.2.slot, l.store.Accepts w.2⟩

theorem workedOff_nil (l : Ledger) (t : Target) : l.workedOff t [] = l := by
  simp [workedOff, outdated]

theorem workedOff_append (l : Ledger) (t : Target) (units units' : List AnyWorkload) :
    l.workedOff t (units ++ units') = (l.workedOff t units).workedOff t units' := by
  have haccepts {k : Kind} (w : Workload k) :
      (l.workedOff t units).store.Accepts w ↔ l.store.Accepts w := .rfl
  have houtdated : outdated t (units ++ units') = outdated t units ++ outdated t units' :=
    List.filter_append ..
  rw [workedOff, workedOff, houtdated]
  simp only [haccepts, List.filter_append, List.foldl_append, List.map_append, ← List.append_assoc]
  rfl

theorem workedOff_of_isCurrent (l : Ledger) {t : Target} {w : Workload k} (h : w.IsCurrent t) :
    l.workedOff t [⟨k, w⟩] = l := by
  simp [workedOff, outdated, h]

theorem workedOff_of_accepts (l : Ledger) {t : Target} {w : Workload k} (h : ¬ w.IsCurrent t)
    (haccepts : l.store.Accepts w) :
    l.workedOff t [⟨k, w⟩] =
      ⟨(l.store.note w.identity.name).put (w.stamped t.key t.stamp),
        l.attempts ++ [⟨w.slot, true⟩]⟩ := by
  simp [workedOff, outdated, h, haccepts]
  rfl

theorem workedOff_of_not_accepts (l : Ledger) {t : Target} {w : Workload k} (h : ¬ w.IsCurrent t)
    (haccepts : ¬ l.store.Accepts w) :
    l.workedOff t [⟨k, w⟩] =
      ⟨l.store.note w.identity.name, l.attempts ++ [⟨w.slot, false⟩]⟩ := by
  simp [workedOff, outdated, h, haccepts]
  rfl

/-- A single workload is worked off. -/
theorem reconcile_eq (l : Ledger) (t : Target) (w : Workload k) :
    Ledger.instant.reconcile t l w = (l.store.fate t w, l.workedOff t [⟨k, w⟩]) := by
  by_cases hcurrent : w.IsCurrent t
  · rw [Instant.reconcile, Workload.verdict_of_isCurrent hcurrent,
      l.workedOff_of_isCurrent hcurrent, Store.fate, if_pos hcurrent]
  · rw [Instant.reconcile, Workload.verdict_of_not_isCurrent hcurrent, Store.fate,
      if_neg hcurrent]
    by_cases haccepts : l.store.Accepts w
    · have hupdate : l.store.update (w.stamped t.key t.stamp) = _ :=
        Store.update_of_accepts haccepts
      rw [l.workedOff_of_accepts hcurrent haccepts, if_pos haccepts]
      simp only [Ledger.instant, hupdate]
      rfl
    · have hupdate : l.store.update (w.stamped t.key t.stamp) = _ :=
        Store.update_of_not_accepts haccepts
      rw [l.workedOff_of_not_accepts hcurrent haccepts, if_neg haccepts]
      simp only [Ledger.instant, hupdate]
      rfl

theorem rollOut_eq (t : Target) : (l : Ledger) → (ws : List (Workload k)) →
    Ledger.instant.rollOut t l ws =
      (ws.map fun w => (w, l.store.fate t w), l.workedOff t (ws.map (Sigma.mk k)))
  | l, [] => by
    rw [List.map_nil, List.map_nil, workedOff_nil]
    rfl
  | l, w :: ws => by
    have hrest := rollOut_eq t (l.workedOff t [⟨k, w⟩]) ws
    simp only [Instant.rollOut, reconcile_eq, hrest]
    rw [← workedOff_append]
    rfl

theorem bringAll_eq (t : Target) : (l : Ledger) → (ls : List Listing) →
    Ledger.instant.bringAll t l ls =
      (ls.map (l.store.tally t), l.workedOff t (ls.flatMap fun listing => listing.units t.name))
  | l, [] => by
    rw [List.flatMap_nil, workedOff_nil]
    rfl
  | l, listing :: ls => by
    have hrest := bringAll_eq t (l.workedOff t (listing.units t.name)) ls
    have hbring : Ledger.instant.bring t l listing =
        (l.store.tally t listing, l.workedOff t (listing.units t.name)) := by
      simp only [Instant.bring, rollOut_eq, Store.tally, List.map_map]
      rfl
    simp only [Instant.bringAll, hbring, hrest, List.flatMap_cons, workedOff_append]
    rfl

end Ledger

/-! ### What is stored afterwards -/

namespace Ledger

variable {l : Ledger} {t : Target} {units : List AnyWorkload}

/-- A slot of no workload that is updated keeps its document. -/
theorem get?_workedOff_of_forall_ne {slot : Slot}
    (h : ∀ w ∈ outdated t units, l.store.Accepts w.2 → w.2.slot ≠ slot) :
    (l.workedOff t units).store.workloads.get? slot = l.store.workloads.get? slot :=
  OrderedMap.get?_foldl_insert_of_forall_ne _ fun w hw => by
    obtain ⟨hw, haccepts⟩ := List.mem_filter.1 hw
    exact h w hw (of_decide_eq_true haccepts)

/-- The slot of a workload that is updated holds the workload with new stamps. -/
theorem get?_workedOff_of_mem (hunits : units.Pairwise fun v w => v.2.slot ≠ w.2.slot)
    {w : AnyWorkload} (hw : w ∈ outdated t units) (haccepts : l.store.Accepts w.2) :
    (l.workedOff t units).store.workloads.get? w.2.slot =
      some ((Workload.codec w.1).write (w.2.stamped t.key t.stamp)) := by
  have hdistinct : ((outdated t units).filter fun w => l.store.Accepts w.2).Pairwise
      fun v w => v.2.slot ≠ w.2.slot := (hunits.filter _).filter _
  exact OrderedMap.get?_foldl_insert_of_mem _ hdistinct
    (List.mem_filter.2 ⟨hw, decide_eq_true haccepts⟩)

end Ledger

/-! ### Whole passes -/

namespace Ledger

variable {l : Ledger}

theorem reads_survey (hs : l.store.Orderly) (scope : Scope) (secret : SecretRef) :
    Reads (survey (Ledger.instant.view l) scope secret) (l.store.found? scope secret) := by
  rw [Ledger.refines.view]
  exact hs.reads_survey scope secret

/-- A pass that cannot read all it needs changes nothing. -/
theorem pass_of_not_found (hs : l.store.Orderly) {scope : Scope} {secret : SecretRef}
    (h : l.store.found? scope secret = none) :
    ∃ failure : Failure, failure.OfReading ∧
      Ledger.instant.pass scope secret l = (.error failure, l) := by
  have hreads := reads_survey hs scope secret
  rw [h] at hreads
  obtain ⟨failure, hfailure, hrun⟩ := hreads
  refine ⟨failure, hfailure, ?_⟩
  rw [Instant.pass, hrun]

/-- A pass that can read all it needs works off the workloads that take part. -/
theorem pass_of_found (hs : l.store.Orderly) {scope : Scope} {secret : SecretRef} {t : Target}
    (hlists : ∀ k ∈ scope.kinds, l.store.Lists k) (htarget : l.store.target? secret = some t) :
    Ledger.instant.pass scope secret l =
      ((Tally.total ((l.store.listings scope secret).map (l.store.tally t))).outcome,
        l.workedOff t (l.store.units scope secret)) := by
  have hreads := reads_survey hs scope secret
  rw [Store.found?_of_lists hlists, htarget] at hreads
  have hrun : (survey (Ledger.instant.view l) scope secret).run =
      .ok (t, l.store.listings scope secret) := hreads
  rw [Instant.pass, hrun]
  simp only [bringAll_eq, hs.name_of_target? htarget, hs.flatMap_units_listings]

variable {scope : Scope} {secret : SecretRef} {t : Target} {slot : Slot}

/-- A workload that takes part and is not current is given new stamps, if its updates succeed. -/
theorem get?_workedOff_of_outdated (hs : l.store.Orderly) (hk : slot.kind ∈ scope.kinds)
    (houtdated : l.store.Outdated secret t slot)
    (haccepted : slot.identity.name ∉ l.store.rejectedNames) :
    ∃ w, l.store.find? slot.kind slot.identity = some w ∧ ¬ w.IsCurrent t ∧
      (l.workedOff t (l.store.units scope secret)).store.workloads.get? slot =
        some ((Workload.codec slot.kind).write (w.stamped t.key t.stamp)) := by
  obtain ⟨w, hw, rfl⟩ := hs.exists_outdated_iff.2 ⟨hk, houtdated⟩
  obtain ⟨hunit, hcurrent⟩ := mem_outdated_iff.1 hw
  exact ⟨w.2, (hs.mem_units_iff.1 hunit).2.1, hcurrent,
    get?_workedOff_of_mem (hs.pairwise_ne_units scope secret) hw haccepted⟩

/-- Every other slot keeps its document. -/
theorem get?_workedOff_of_not_outdated (hs : l.store.Orderly)
    (h : ¬ (slot.kind ∈ scope.kinds ∧ l.store.Outdated secret t slot ∧
      slot.identity.name ∉ l.store.rejectedNames)) :
    (l.workedOff t (l.store.units scope secret)).store.workloads.get? slot =
      l.store.workloads.get? slot := by
  refine get?_workedOff_of_forall_ne fun w hw haccepts heq => h ?_
  obtain ⟨hk, houtdated⟩ := hs.exists_outdated_iff.1 ⟨w, hw, heq⟩
  exact ⟨hk, houtdated, heq ▸ haccepts⟩

end Ledger

end SecretRotation
