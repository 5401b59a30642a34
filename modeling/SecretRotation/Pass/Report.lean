import SecretRotation.Failure

/-!
# The outcome of a pass

A pass counts what it found and did, and collects the failures of single workloads. The counts and
failures of several kinds are added up; if any workload failed, all of the pass has failed, and says
how many workloads it was about.

## Main definitions

* `Report`: what is counted.
* `Tally`: counts and failures; `Tally.add`, `Tally.total`, `Tally.outcome`.
-/

namespace SecretRotation

/-- What a pass counts. -/
structure Report where
  /-- The workloads that were listed. -/
  listed : Nat := 0
  /-- Those that take part. -/
  eligible : Nat := 0
  /-- Those that were given new stamps. -/
  updated : Nat := 0
  /-- Those that had current stamps. -/
  upToDate : Nat := 0
  deriving DecidableEq

namespace Report

/-- The counts of two parts of a pass, added up. -/
def add (a b : Report) : Report :=
  ⟨a.listed + b.listed, a.eligible + b.eligible, a.updated + b.updated, a.upToDate + b.upToDate⟩

/-- The number of workloads that a pass brought up to date or found so. -/
def reconciled (r : Report) : Nat := r.eligible

end Report

/-- What a pass has counted, and the failures it has collected. -/
structure Tally where
  /-- The counts. -/
  report : Report := {}
  /-- The failures, each with the title of its workload, in the order in which they occurred. -/
  failures : List (String × Failure) := []

namespace Tally

/-- The tallies of two parts of a pass, added up. -/
def add (a b : Tally) : Tally := ⟨a.report.add b.report, a.failures ++ b.failures⟩

/-- The tallies of the parts of a pass, added up. -/
def total (parts : List Tally) : Tally := parts.foldl add {}

/-- What a tally comes to: a report, or a failure if there are failures. -/
def outcome (t : Tally) : Except Failure Report :=
  if t.failures.isEmpty then .ok t.report else .error (.workloads t.report.eligible t.failures)

/-- The tally of the workloads of one kind, from what became of each: whether it was given new
stamps, or why not. -/
def ofResults (listed : Nat) (results : List (String × Except Failure Bool)) : Tally where
  report := {
    listed
    eligible := results.length
    updated := (results.filter fun r => r.2 matches .ok true).length
    upToDate := (results.filter fun r => r.2 matches .ok false).length }
  failures := results.filterMap fun r =>
    match r.2 with
    | .ok _ => none
    | .error failure => some (r.1, failure)

end Tally

end SecretRotation
