import SecretRotation.Proofs.Sample
import SecretRotation.Proofs.Store.Passes

/-!
# The effect of a pass

A pass over all kinds changes exactly the workloads that take part and are not current, except for
those whose updates fail: they are given the stamps of the secret's version. Nothing else in the
store changes, and the updates asked for are those of the workloads that are not current, each once,
one kind after the other.

## Main definitions

* `Slot.title`: how the workload of a slot is named.
* `Store.quiet`: a store as the cluster that a pass sees; `Store.workedOff`: one after a pass.

## Main results

* `Store.Orderly.run_runPass_of_found`: a pass in closed form.
* `Store.exact_result_of_pass`: what a pass over all kinds comes to.
* `Store.exact_effect_of_pass`: what a pass over all kinds changes.
-/

namespace SecretRotation

/-- How the workload of a slot is named in logs and failures. -/
def Slot.title (slot : Slot) : String :=
  slot.kind.name ++ " " ++ slot.identity.ns ++ "/" ++ slot.identity.name

/-- A store as the cluster that a pass sees; what is logged is not kept. -/
def Store.quiet : ClusterAccess (StateM Store) := Store.access .still fun _ => pure ()

theorem Store.quiet_eq : Store.quiet = Store.instant.access := rfl

namespace Store

/-- A pass over a store is one over a ledger of it. -/
theorem run_runPass (s : Store) (limit : Option Nat) (scope : Scope) (secret : SecretRef) :
    (runPass Store.quiet limit scope secret).run s =
      ((Ledger.instant.pass scope secret ⟨s, []⟩).1,
        (Ledger.instant.pass scope secret ⟨s, []⟩).2.store) := by
  rw [Store.quiet_eq, Instant.run_runPass]
  exact Ledger.refines.pass scope secret ⟨s, []⟩

/-- The store after workloads have been worked off. -/
def workedOff (s : Store) (t : Target) (units : List AnyWorkload) : Store :=
  (Ledger.workedOff ⟨s, []⟩ t units).store

/-- A pass that can read all it needs, in closed form. -/
theorem Orderly.run_runPass_of_found {s : Store} (hs : s.Orderly) {scope : Scope}
    {secret : SecretRef} {t : Target} (hlists : ∀ k ∈ scope.kinds, s.Lists k)
    (htarget : s.target? secret = some t) (limit : Option Nat) :
    (runPass quiet limit scope secret).run s =
      ((Tally.total ((s.listings scope secret).map (s.tally t))).outcome,
        s.workedOff t (s.units scope secret)) := by
  rw [run_runPass, Ledger.pass_of_found (l := ⟨s, []⟩) hs hlists htarget]
  rfl

/-- **What a pass over all kinds comes to.** It counts the workloads that take part, those that are
current, and those that are not; of these, each has been updated or is among the failures, which are
those of the workloads whose updates fail. -/
theorem exact_result_of_pass {s : Store} (hs : s.Built) {r : SecretRef} {secret : Secret}
    {v : String} (hlists : ∀ k, s.Lists k)
    (hsecret : s.secrets.get? ⟨r.ns, r.name⟩ = some secret)
    (hversion : (secret.metadata.annotation? (stampKey r.name) <|>
      secret.metadata.annotation? versionKey) = some v) (limit : Option Nat) :
    ∃ (eligible stale : List Slot) (total : Tally),
      ((runPass Store.quiet limit .all r).run s).1 = total.outcome ∧
      eligible.Nodup ∧ (∀ slot, slot ∈ eligible ↔ s.Eligible r slot) ∧
      stale.Nodup ∧ (∀ slot, slot ∈ stale ↔ s.Outdated r ⟨r.name, ⟨v⟩⟩ slot) ∧
      total.report.eligible = eligible.length ∧
      total.report.upToDate + stale.length = eligible.length ∧
      total.report.updated + total.failures.length = stale.length ∧
      total.failures = (stale.filter fun slot => slot.identity.name ∈ s.rejectedNames).map
        fun slot => (slot.title, .updating slot.title conflict) := by
  have horderly := hs.orderly
  have htarget := horderly.target?_eq hsecret hversion
  have hread : ∀ k ∈ Scope.all.kinds, s.Lists k := fun k _ => hlists k
  have hpass := horderly.run_runPass_of_found hread htarget limit
  obtain ⟨hnodup, hmem⟩ := horderly.slots_units r
  obtain ⟨hnodupStale, hmemStale⟩ := horderly.slots_outdated r ⟨r.name, ⟨v⟩⟩
  have htotal := horderly.total_tally (t := ⟨r.name, ⟨v⟩⟩) rfl .all
  have heligible := s.eligible_total ⟨r.name, ⟨v⟩⟩ .all r
  have hbalanced := s.balanced_total ⟨r.name, ⟨v⟩⟩ .all r
  have hupToDate := s.upToDate_total ⟨r.name, ⟨v⟩⟩ .all r
  rw [Tally.Balanced, heligible] at hbalanced
  refine ⟨_, _, s.total ⟨r.name, ⟨v⟩⟩ .all r, ?_, hnodup, hmem, hnodupStale, hmemStale, ?_, ?_, ?_,
    ?_⟩
  · rw [hpass, htotal]
  · rwa [List.length_map]
  · rwa [List.length_map, List.length_map]
  · rw [List.length_map]
    omega
  · rw [failures_total, List.filter_map, List.map_map]
    have hrejected : (fun w : AnyWorkload => decide ¬ s.Accepts w.2) =
        (fun slot : Slot => decide (slot.identity.name ∈ s.rejectedNames)) ∘
          fun w : AnyWorkload => w.2.slot := by
      funext w
      exact decide_eq_decide.2 not_not
    rw [hrejected]
    rfl

/-- **What a pass over all kinds changes.** -/
theorem exact_effect_of_pass {s : Store} (hs : s.Built) {r : SecretRef} {secret : Secret}
    {v : String} (hlists : ∀ k, s.Lists k)
    (hsecret : s.secrets.get? ⟨r.ns, r.name⟩ = some secret)
    (hversion : (secret.metadata.annotation? (stampKey r.name) <|>
      secret.metadata.annotation? versionKey) = some v) (limit : Option Nat) :
    let after := ((runPass Store.quiet limit .all r).run s).2
    (∀ slot, after.workloads.get? slot ≠ s.workloads.get? slot ↔
      s.Outdated r ⟨r.name, ⟨v⟩⟩ slot ∧ slot.identity.name ∉ s.rejectedNames) ∧
    (∀ slot w, s.find? slot.kind slot.identity = some w → s.Outdated r ⟨r.name, ⟨v⟩⟩ slot →
      slot.identity.name ∉ s.rejectedNames →
        after.find? slot.kind slot.identity = some (w.stamped (stampKey r.name) ⟨v⟩)) ∧
    after.secrets = s.secrets ∧
    ∃ asked : List Slot, after.updateCalls = s.updateCalls ++ asked.map (·.identity.name) ∧
      (∀ slot, slot ∈ asked ↔ s.Outdated r ⟨r.name, ⟨v⟩⟩ slot) ∧
      asked.Nodup ∧ asked.Pairwise fun a b => a.kind.rank ≤ b.kind.rank := by
  have horderly := hs.orderly
  have hread : ∀ k ∈ Scope.all.kinds, s.Lists k := fun k _ => hlists k
  have hpass := horderly.run_runPass_of_found hread (horderly.target?_eq hsecret hversion) limit
  obtain ⟨hnodup, hmem⟩ := horderly.slots_outdated r ⟨r.name, ⟨v⟩⟩
  have hstamped {slot : Slot} (h : s.Outdated r ⟨r.name, ⟨v⟩⟩ slot)
      (haccepted : slot.identity.name ∉ s.rejectedNames) :=
    Ledger.get?_workedOff_of_outdated (l := ⟨s, []⟩) horderly (Scope.mem_kinds_all slot.kind) h
      haccepted
  rw [hpass]
  refine ⟨fun slot => ⟨fun hchanged => ?_, fun ⟨h, haccepted⟩ heq => ?_⟩,
    fun slot w hw h haccepted => ?_, rfl, _, ?_, hmem, hnodup, ?_⟩
  · by_contra hnot
    exact hchanged (Ledger.get?_workedOff_of_not_outdated horderly fun h => hnot h.2)
  · obtain ⟨w, hfind, hcurrent, hget⟩ := hstamped h haccepted
    have hsame := find?_of_get?_stamped (horderly.asWritten_of_find? hfind) (heq.symm.trans hget)
    exact Workload.stamped_ne_self hcurrent (Option.some.inj (hsame.symm.trans hfind))
  · obtain ⟨w', hfind, -, hget⟩ := hstamped h haccepted
    cases hw.symm.trans hfind
    exact find?_of_get?_stamped (horderly.asWritten_of_find? hfind) hget
  · rw [List.map_map]
    rfl
  · refine List.pairwise_map.2 (((horderly.pairwise_units .all r).filter _).imp fun {a b} hlt => ?_)
    exact Slot.rank_le_of_compare hlt

end Store

/-! ### A sample pass -/

namespace Sample

/-- A store with one deployment, which takes part, and the secret that it consumes. -/
def single : Store :=
  (Store.put {} (consumer "prod" "web" "db")).putSecret (managedSecret "prod" "db" "v2")

theorem secret_single :
    single.secrets.get? ⟨"prod", "db"⟩ = some (managedSecret "prod" "db" "v2") :=
  (OrderedMap.get?_insert ..).trans (if_pos rfl)

theorem built_single : single.Built := (Store.Built.empty.put _).putSecret _

theorem find?_single :
    single.find? .deployment ⟨"prod", "web"⟩ = some (consumer "prod" "web" "db") :=
  Store.find?_of_get? ((Store.get?_workloads_put ..).trans (if_pos rfl))

/-- The deployment does not have the version of the secret yet. -/
theorem outdated_single :
    single.Outdated ⟨"prod", "db"⟩ ⟨"db", ⟨"v2"⟩⟩ ⟨.deployment, ⟨"prod", "web"⟩⟩ := by
  refine ⟨⟨rfl, _, find?_single, annotation?_consumer .., consumes_consumer ..⟩, ?_⟩
  rintro ⟨w, hw, -, htemplate⟩
  cases hw.symm.trans find?_single
  cases htemplate

/-- The deployment is restarted. -/
theorem find?_single_of_pass :
    ((runPass Store.quiet none .all ⟨"prod", "db"⟩).run single).2.find? .deployment
      ⟨"prod", "web"⟩ = some ((consumer "prod" "web" "db").stamped (stampKey "db") ⟨"v2"⟩) := by
  have hlists (k : Kind) : single.Lists k := ⟨rfl, List.not_mem_nil⟩
  obtain ⟨-, hstamped, -⟩ := Store.exact_effect_of_pass (r := ⟨"prod", "db"⟩) built_single hlists
    secret_single (version_managedSecret "prod" "db" "v2") none
  exact hstamped ⟨.deployment, ⟨"prod", "web"⟩⟩ _ find?_single outdated_single List.not_mem_nil

end Sample

end SecretRotation
