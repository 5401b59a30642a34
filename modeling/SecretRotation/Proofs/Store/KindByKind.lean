import SecretRotation.Proofs.Store.Errand

/-!
# One kind after the other

A pass over all kinds reads the workloads of all kinds before it writes anything. Passes over single
kinds, run one after the other, read those of a kind when the kinds before it have already been
worked off. This makes no difference: a pass over one kind leaves the workloads of the other kinds
as they are, also where names are shared between kinds, and it does not change which updates fail.
So the passes over single kinds do together what the pass over all kinds does, and their results add
up to its result.

## Main definitions

* `eligibleOf`, `failuresOf`: what the outcome of a pass says of the workloads that take part.

## Main results

* `Store.Orderly.run_mapM_only`: passes over single kinds, one after the other.
* `Store.all_kinds_agree`: the pass over all kinds, put together from those over single kinds.
-/

namespace SecretRotation

/-! ### What an outcome says -/

/-- How many workloads take part: a report says so, and so does the failure of a pass some of whose
workloads failed. -/
def eligibleOf : Except Failure Report → Nat
  | .ok report => report.eligible
  | .error (.workloads eligible _) => eligible
  | .error _ => 0

/-- The failures of single workloads. -/
def failuresOf : Except Failure Report → List (String × Failure)
  | .error (.workloads _ failures) => failures
  | _ => []

namespace Tally

theorem eligibleOf_outcome (t : Tally) : eligibleOf t.outcome = t.report.eligible := by
  rcases t.outcome_cases with h | h <;> rw [h, eligibleOf]

theorem failuresOf_outcome (t : Tally) : failuresOf t.outcome = t.failures := by
  rw [outcome]
  split
  next h => exact (List.isEmpty_iff.1 h).symm
  next => rfl

/-- A total comes to a report if all parts do. -/
theorem outcome_total_of_ok {a b c : Tally} {p q r : Report} (ha : a.outcome = .ok p)
    (hb : b.outcome = .ok q) (hc : c.outcome = .ok r) :
    (total [a, b, c]).outcome = .ok ((p.add q).add r) := by
  obtain ⟨hfa, rfl⟩ := outcome_eq_ok_iff.1 ha
  obtain ⟨hfb, rfl⟩ := outcome_eq_ok_iff.1 hb
  obtain ⟨hfc, rfl⟩ := outcome_eq_ok_iff.1 hc
  refine outcome_eq_ok_iff.2 ⟨?_, ?_⟩
  · rw [failures_total]
    simp [hfa, hfb, hfc]
  · simp [total, add, Report.add]

/-- A total comes to the failures of all parts if one part has failures. -/
theorem outcome_total_of_not_ok {parts : List Tally}
    (h : ∃ t ∈ parts, ∀ report, t.outcome ≠ .ok report) :
    (total parts).outcome =
      .error (.workloads (parts.map fun t => eligibleOf t.outcome).sum
        (parts.flatMap fun t => failuresOf t.outcome)) := by
  have heligible : (total parts).report.eligible =
      (parts.map fun t => eligibleOf t.outcome).sum := by
    clear h
    induction parts with
    | nil => rfl
    | cons t parts ih =>
      rw [total_cons, List.map_cons, List.sum_cons, eligibleOf_outcome, ← ih]
      rfl
  have hfailures : (total parts).failures = parts.flatMap fun t => failuresOf t.outcome := by
    rw [failures_total]
    exact congrArg (List.flatMap · parts) (funext fun t => (failuresOf_outcome t).symm)
  rcases (total parts).outcome_cases with hok | herror
  · obtain ⟨t, ht, hnot⟩ := h
    have hnone := (outcome_eq_ok_iff.1 hok).1
    rw [failures_total, List.flatMap_eq_nil_iff] at hnone
    exact absurd (outcome_eq_ok_iff.2 ⟨hnone t ht, rfl⟩) (hnot t.report)
  · rw [herror, heligible, hfailures]

end Tally

/-! ### Passes over single kinds -/

namespace Store

variable {s : Store} {r : SecretRef} {t : Target}

namespace Orderly

variable (hs : s.Orderly)

include hs

/-- A pass over one kind leaves the workloads of the other kinds as they are. -/
theorem members_workedOff_only (ht : t.name = r.name) {k k' : Kind} (hne : k' ≠ k) (ns : String) :
    (s.workedOff t (s.units (.only k) r)).members k' ns = s.members k' ns := by
  rw [hs.members_workedOff ht]
  refine List.map_id'' (fun w => Errand.applied_of_not_due fun h => ?_) _
  exact hne (List.mem_singleton.1 h.1.1)

theorem units_workedOff_only (ht : t.name = r.name) {k k' : Kind} (hne : k' ≠ k) :
    (s.workedOff t (s.units (.only k) r)).units (.only k') r = s.units (.only k') r := by
  have hmembers := hs.members_workedOff_only ht hne r.ns
  generalize s.workedOff t (s.units (.only k) r) = after at hmembers ⊢
  simp only [units, Scope.kinds, List.flatMap_singleton, hmembers]

omit hs in
/-- Passes over single kinds, one after the other. Each finds its workloads as they were at first,
for the kinds before it were others. -/
theorem run_mapM_only {ks : List Kind} (limit : Option Nat) : {s : Store} → s.Orderly →
    s.target? r = some t → ks.Nodup → (∀ k ∈ ks, s.Lists k) →
      (ks.mapM fun k => runPass quiet limit (.only k) r).run s =
        (ks.map fun k => (s.tally t ⟨k, s.members k r.ns⟩).outcome,
          s.workedOff t (ks.flatMap fun k => s.units (.only k) r)) := by
  induction ks with
  | nil =>
    intro s _ _ _ _
    rw [List.flatMap_nil, Store.workedOff, Ledger.workedOff_nil]
    rfl
  | cons k ks ih =>
    intro s hs htarget hnodup hlists
    obtain ⟨hk, hnodup⟩ := List.nodup_cons.1 hnodup
    obtain ⟨hlist, hlists⟩ := List.forall_mem_cons.1 hlists
    have hname := hs.name_of_target? htarget
    have hne {k' : Kind} (hk' : k' ∈ ks) : k' ≠ k := fun heq => hk (heq ▸ hk')
    have hread : ∀ k' ∈ (Scope.only k).kinds, s.Lists k' := List.forall_mem_singleton.2 hlist
    have hrun : (runPass quiet limit (.only k) r).run s =
        ((s.tally t ⟨k, s.members k r.ns⟩).outcome, s.workedOff t (s.units (.only k) r)) := by
      rw [hs.run_runPass_of_found hread htarget, listings, Scope.kinds, List.map_singleton,
        List.map_singleton, Tally.total_cons, Tally.total_nil, Tally.add_empty]
    have hafter : (s.workedOff t (s.units (.only k) r)).Orderly := hs.workedOff
    have hrest := ih hafter htarget hnodup hlists
    have hunits : (ks.flatMap fun k' => (s.workedOff t (s.units (.only k) r)).units (.only k') r) =
        ks.flatMap fun k' => s.units (.only k') r :=
      List.flatMap_congr fun k' hk' => hs.units_workedOff_only hname (hne hk')
    have houtcomes : (ks.map fun k' => ((s.workedOff t (s.units (.only k) r)).tally t
          ⟨k', (s.workedOff t (s.units (.only k) r)).members k' r.ns⟩).outcome) =
        ks.map fun k' => (s.tally t ⟨k', s.members k' r.ns⟩).outcome := by
      refine List.map_congr_left fun k' hk' => ?_
      rw [hs.members_workedOff_only hname (hne hk')]
      rfl
    rw [hunits, houtcomes, ← workedOff_append] at hrest
    rw [List.mapM_cons, StateT.run_bind, hrun]
    change (do
      let p ← (ks.mapM fun k' => runPass quiet limit (.only k') r).run
        (s.workedOff t (s.units (.only k) r))
      pure (_ :: p.1, p.2) : Id _) = _
    rw [hrest]
    rfl

end Orderly

/-! ### The pass over all kinds -/

/-- **The pass over all kinds does what passes over the single kinds do one after the other.** The
same is stored, the same updates are asked for, and the results add up: reports, if all three passes
come to a report, and otherwise the numbers of eligible workloads and the failures. -/
theorem all_kinds_agree {s : Store} (hs : s.Built) {r : SecretRef} {secret : Secret} {v : String}
    (hlists : ∀ k, s.Lists k) (hsecret : s.secrets.get? ⟨r.ns, r.name⟩ = some secret)
    (hversion : (secret.metadata.annotation? (stampKey r.name) <|>
      secret.metadata.annotation? versionKey) = some v) (limit limit' : Option Nat) :
    let all := (runPass quiet limit .all r).run s
    let first := (runPass quiet limit' (.only .deployment) r).run s
    let second := (runPass quiet limit' (.only .statefulSet) r).run first.2
    let third := (runPass quiet limit' (.only .daemonSet) r).run second.2
    all.2 = third.2 ∧
    (∀ a b c, first.1 = .ok a → second.1 = .ok b → third.1 = .ok c →
      all.1 = .ok ((a.add b).add c)) ∧
    (¬ (∃ a b c, first.1 = .ok a ∧ second.1 = .ok b ∧ third.1 = .ok c) →
      all.1 = .error (.workloads (eligibleOf first.1 + eligibleOf second.1 + eligibleOf third.1)
        (failuresOf first.1 ++ failuresOf second.1 ++ failuresOf third.1))) ∧
    ∀ outcome ∈ [first.1, second.1, third.1], (∃ report, outcome = .ok report) ∨
      ∃ eligible failures, outcome = .error (.workloads eligible failures) := by
  have hs := hs.orderly
  have htarget := hs.target?_eq hsecret hversion
  have hkinds : Kind.all.Nodup := by decide
  have hcases (t : Tally) : (∃ report, t.outcome = .ok report) ∨
      ∃ eligible failures, t.outcome = .error (.workloads eligible failures) :=
    t.outcome_cases.imp (⟨_, ·⟩) (⟨_, _, ·⟩)
  have hread : ∀ k ∈ Scope.all.kinds, s.Lists k := fun k _ => hlists k
  intro all first second third
  have hall : all = _ := hs.run_runPass_of_found hread htarget limit
  have hthree : ([first.1, second.1, third.1], third.2) =
      (Kind.all.map fun k => (s.tally ⟨r.name, ⟨v⟩⟩ ⟨k, s.members k r.ns⟩).outcome,
        s.workedOff ⟨r.name, ⟨v⟩⟩ (Kind.all.flatMap fun k => s.units (.only k) r)) :=
    hs.run_mapM_only limit' htarget hkinds fun k _ => hlists k
  obtain ⟨houtcomes, hstore⟩ := Prod.mk.inj hthree
  obtain ⟨hfirst, houtcomes⟩ := List.cons.inj houtcomes
  obtain ⟨hsecond, houtcomes⟩ := List.cons.inj houtcomes
  obtain ⟨hthird, -⟩ := List.cons.inj houtcomes
  rw [hall, hfirst, hsecond, hthird, hstore]
  refine ⟨?_, fun a b c ha hb hc => Tally.outcome_total_of_ok ha hb hc, fun hnot => ?_, ?_⟩
  · change s.workedOff _ (s.units .all r) = _
    simp only [units, Scope.kinds, List.flatMap_singleton]
  · refine (Tally.outcome_total_of_not_ok ?_).trans ?_
    · by_contra hok
      push Not at hok
      obtain ⟨a, ha⟩ := hok _ List.mem_cons_self
      obtain ⟨b, hb⟩ := hok _ (List.mem_cons_of_mem _ List.mem_cons_self)
      obtain ⟨c, hc⟩ := hok _ (List.mem_cons_of_mem _ (List.mem_cons_of_mem _ List.mem_cons_self))
      exact hnot ⟨a, b, c, ha, hb, hc⟩
    · simp [listings, Scope.kinds, Kind.all, Nat.add_assoc]
  · simp only [List.forall_mem_cons, List.not_mem_nil, false_imp_iff, implies_true, and_true]
    exact ⟨hcases _, hcases _, hcases _⟩

end Store

/-! ### A sample of passes over single kinds -/

namespace Sample

/-- A stateful set that takes part and has all keys of a secret in its environment. -/
def consumerSet (ns name secretName : String) : Workload .statefulSet where
  metadata := (consumer ns name secretName).metadata
  spec := (consumer ns name secretName).spec.map fun spec => { template := spec.template }

/-- A store with a deployment and a stateful set, which take part; updates of the stateful set
fail. -/
def mixed : Store :=
  { single.put (consumerSet "prod" "cache" "db") with rejectedNames := ["cache"] }

theorem built_mixed : mixed.Built := (built_single.put _).reject _

/-- The pass over the deployments. -/
def mixedFirst : Except Failure Report × Store :=
  (runPass Store.quiet (some 1) (.only .deployment) ⟨"prod", "db"⟩).run mixed

/-- The pass over the stateful sets, after that. -/
def mixedSecond : Except Failure Report × Store :=
  (runPass Store.quiet (some 1) (.only .statefulSet) ⟨"prod", "db"⟩).run mixedFirst.2

/-- The pass over the daemon sets, after that. -/
def mixedThird : Except Failure Report × Store :=
  (runPass Store.quiet (some 1) (.only .daemonSet) ⟨"prod", "db"⟩).run mixedSecond.2

/-- The pass over all kinds fails with the failure of the stateful set, and counts both workloads;
the deployment is restarted as by the first of the passes over single kinds. -/
theorem all_kinds_agree_mixed :
    let all := (runPass Store.quiet none .all ⟨"prod", "db"⟩).run mixed
    mixedFirst.1.isOk = true ∧ mixedSecond.1.isOk = false ∧ mixedThird.1.isOk = true ∧
    all.2 = mixedThird.2 ∧
    ∃ failures, all.1 = .error (.workloads 2 failures) ∧
      failures.map Prod.fst = ["StatefulSet prod/cache"] := by
  intro all
  have hlists (k : Kind) : mixed.Lists k := ⟨rfl, List.not_mem_nil⟩
  obtain ⟨hstore, -, hfails, -⟩ := Store.all_kinds_agree (r := ⟨"prod", "db"⟩) built_mixed hlists
    secret_single (version_managedSecret "prod" "db" "v2") none (some 1)
  -- one evaluation for all that is asked of the three passes
  obtain ⟨hfirst, hsecond, hthird, heligible, hfailures⟩ : mixedFirst.1.isOk = true ∧
      mixedSecond.1.isOk = false ∧ mixedThird.1.isOk = true ∧
      eligibleOf mixedFirst.1 + eligibleOf mixedSecond.1 + eligibleOf mixedThird.1 = 2 ∧
      (failuresOf mixedFirst.1 ++ failuresOf mixedSecond.1 ++ failuresOf mixedThird.1).map
        Prod.fst = ["StatefulSet prod/cache"] := by
    decide +kernel
  have hall : all.1 = .error (.workloads
      (eligibleOf mixedFirst.1 + eligibleOf mixedSecond.1 + eligibleOf mixedThird.1)
      (failuresOf mixedFirst.1 ++ failuresOf mixedSecond.1 ++ failuresOf mixedThird.1)) :=
    hfails fun ⟨_, report, _, _, hok, _⟩ => by
      have hok : mixedSecond.1 = .ok report := hok
      rw [hok] at hsecond
      cases hsecond
  rw [heligible] at hall
  exact ⟨hfirst, hsecond, hthird, hstore, _, hall, hfailures⟩

end Sample

end SecretRotation
