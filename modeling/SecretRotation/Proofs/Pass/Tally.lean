import Mathlib.Algebra.GroupWithZero.Nat
import Mathlib.Data.List.Basic
import Mathlib.Data.List.Perm.Basic
import SecretRotation.Pass.Report

/-!
# Adding up tallies

Tallies are added up without loss: every count of a pass is the sum of the counts of its parts, and
the failures of a pass are those of its parts, in order. Every workload that takes part ends in
exactly one of three ways: it is given new stamps, it had current ones, or it fails.

## Main definitions

* `Failure.OfReading`: the failures that end a pass before anything is written.
* `Tally.Balanced`: each workload that takes part is counted once among the three ways to end.
* `Tally.Counts`: a tally counts what became of some units.
* `Tally.Similar`: tallies that differ at most in the order of their failures.

## Main results

* `Tally.total_cons`, `Tally.failures_total`: a total from its parts.
* `Tally.total_map_ofResults`: the tally of several lists of results.
* `Tally.balanced_ofResults`: the counts add up; `Tally.counts_ofResults`: what they count.
* `Tally.outcome_eq_ok_iff`: a pass comes to a report exactly if nothing has failed.
* `Tally.outcome_cases`: what else it can come to.
* `Tally.Similar.ofResults`: in which order results come in only shows in the order of failures.
-/

namespace SecretRotation

/-- A failure that ends a pass before anything is written. -/
def Failure.OfReading : Failure → Prop
  | .listing .. => True
  | .fetching .. => True
  | .unversioned .. => True
  | _ => False

namespace Tally

/-! ### Totals -/

theorem add_assoc (a b c : Tally) : (a.add b).add c = a.add (b.add c) := by
  simp [add, Report.add, Nat.add_assoc]

theorem empty_add (t : Tally) : add {} t = t := by
  simp [add, Report.add]

theorem add_empty (t : Tally) : t.add {} = t := by
  simp [add, Report.add]

theorem foldl_add (t : Tally) : (parts : List Tally) → parts.foldl add t = t.add (total parts)
  | [] => (add_empty t).symm
  | p :: parts => by
    have htotal : total (p :: parts) = p.add (total parts) := by
      rw [total, List.foldl_cons, empty_add, foldl_add p parts]
    rw [List.foldl_cons, foldl_add (t.add p) parts, htotal, add_assoc]

@[simp] theorem total_nil : total [] = {} := rfl

@[simp] theorem total_cons (t : Tally) (parts : List Tally) :
    total (t :: parts) = t.add (total parts) := by
  rw [total, List.foldl_cons, empty_add, foldl_add]

/-- The failures of a pass are those of its parts. -/
theorem failures_total : (parts : List Tally) → (total parts).failures = parts.flatMap failures
  | [] => rfl
  | t :: parts => by
    rw [total_cons, List.flatMap_cons, ← failures_total parts]
    rfl

/-! ### Outcomes -/

theorem outcome_eq_ok_iff {t : Tally} {report : Report} :
    t.outcome = .ok report ↔ t.failures = [] ∧ t.report = report := by
  rw [outcome]
  by_cases h : t.failures = []
  · simp [h]
  · simp [h]

/-- What has been counted and collected comes to a report or to the failures of workloads. -/
theorem outcome_cases (t : Tally) :
    t.outcome = .ok t.report ∨ t.outcome = .error (.workloads t.report.eligible t.failures) := by
  rw [outcome]
  split
  · exact .inl rfl
  · exact .inr rfl

theorem not_ofReading_of_outcome {t : Tally} {failure : Failure} (h : t.outcome = .error failure) :
    ¬ failure.OfReading := by
  rcases t.outcome_cases with hok | herror
  · cases hok.symm.trans h
  · cases herror.symm.trans h
    exact id

theorem mem_failures_ofResults {listed : Nat} {results : List (String × Except Failure Bool)}
    {title : String} {failure : Failure} (h : (title, .error failure) ∈ results) :
    (title, failure) ∈ (ofResults listed results).failures :=
  List.mem_filterMap.2 ⟨_, h, rfl⟩

/-! ### Counts -/

/-- Each workload that takes part is counted once among those that were given new stamps, those that
had current ones, and those that failed. -/
def Balanced (t : Tally) : Prop :=
  t.report.eligible = t.report.updated + t.report.upToDate + t.failures.length

theorem balanced_ofResults (listed : Nat) :
    (results : List (String × Except Failure Bool)) → (ofResults listed results).Balanced
  | [] => rfl
  | (title, result) :: results => by
    have ih := balanced_ofResults listed results
    simp only [Balanced, ofResults] at ih ⊢
    rcases result with failure | (_ | _)
    all_goals
      simp only [List.length_cons, List.filter_cons, List.filterMap_cons]
      simp only [Bool.false_eq_true, if_true, if_false, List.length_cons]
      omega

/-- A tally counts what became of some units, which are known by titles: how many there are, and how
many of them were given new stamps, had current ones, or failed. It has the failures of the units
and no others. -/
structure Counts {ι : Type} (t : Tally) (units : List ι) (title : ι → String)
    (result : ι → Except Failure Bool) : Prop where
  eligible_eq : t.report.eligible = units.length
  updated_eq : t.report.updated = units.countP fun u => result u matches .ok true
  upToDate_eq : t.report.upToDate = units.countP fun u => result u matches .ok false
  length_failures_eq : t.failures.length = units.countP fun u => result u matches .error _
  mem_failures_iff (name : String) (failure : Failure) : (name, failure) ∈ t.failures ↔
    ∃ u ∈ units, title u = name ∧ result u = .error failure

theorem counts_ofResults {ι : Type} (listed : Nat) (units : List ι) (title : ι → String)
    (result : ι → Except Failure Bool) :
    (ofResults listed (units.map fun u => (title u, result u))).Counts units title result where
  eligible_eq := List.length_map _
  updated_eq := List.countP_eq_length_filter.symm.trans List.countP_map
  upToDate_eq := List.countP_eq_length_filter.symm.trans List.countP_map
  length_failures_eq := by
    rw [ofResults, List.filterMap_map, List.length_filterMap_eq_countP]
    refine List.countP_congr fun u _ => ?_
    rcases hresult : result u with failure | updated <;> simp [hresult]
  mem_failures_iff name failure := by
    rw [ofResults, List.mem_filterMap]
    constructor
    · rintro ⟨r, hr, hfailure⟩
      obtain ⟨u, hu, rfl⟩ := List.mem_map.1 hr
      rcases hresult : result u with failure' | updated
      · simp only [hresult, Option.some.injEq, Prod.mk.injEq] at hfailure
        exact ⟨u, hu, hfailure.1, hfailure.2 ▸ hresult⟩
      · simp [hresult] at hfailure
    · rintro ⟨u, hu, rfl, hresult⟩
      exact ⟨_, List.mem_map_of_mem hu, by simp only [hresult]⟩

theorem add_ofResults (m n : Nat) (results results' : List (String × Except Failure Bool)) :
    (ofResults m results).add (ofResults n results') = ofResults (m + n) (results ++ results') := by
  simp [ofResults, add, Report.add]

/-- The tally of several lists of results is that of all of them. -/
theorem total_map_ofResults {ι : Type} (listed : ι → Nat)
    (results : ι → List (String × Except Failure Bool)) :
    (is : List ι) → total (is.map fun i => ofResults (listed i) (results i)) =
      ofResults (is.map listed).sum (is.flatMap results)
  | [] => rfl
  | i :: is => by
    rw [List.map_cons, total_cons, total_map_ofResults listed results is, add_ofResults,
      List.map_cons, List.sum_cons, List.flatMap_cons]

/-! ### Order -/

/-- Tallies that differ at most in the order of their failures. -/
structure Similar (a b : Tally) : Prop where
  report_eq : a.report = b.report
  failures_perm : a.failures.Perm b.failures

namespace Similar

theorem refl (t : Tally) : t.Similar t := ⟨rfl, .refl _⟩

theorem add {a b c d : Tally} (hab : a.Similar b) (hcd : c.Similar d) :
    (a.add c).Similar (b.add d) where
  report_eq := by rw [Tally.add, Tally.add, hab.report_eq, hcd.report_eq]
  failures_perm := hab.failures_perm.append hcd.failures_perm

/-- In which order results come in only shows in the order of failures. -/
theorem ofResults (listed : Nat) {results results' : List (String × Except Failure Bool)}
    (h : results.Perm results') :
    (Tally.ofResults listed results).Similar (Tally.ofResults listed results') where
  report_eq := by
    simp only [Tally.ofResults, h.length_eq, (h.filter _).length_eq]
  failures_perm := h.filterMap _

theorem total : {as bs : List Tally} → List.Forall₂ Similar as bs →
    (Tally.total as).Similar (Tally.total bs)
  | _, _, .nil => refl _
  | _, _, .cons h hs => by
    rw [total_cons, total_cons]
    exact h.add (total hs)

end Similar

end Tally

end SecretRotation
