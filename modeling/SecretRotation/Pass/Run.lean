import SecretRotation.Pass.Access
import SecretRotation.Pass.Report
import SecretRotation.Pass.Selection

/-!
# A pass

A pass brings the workloads that consume a secret in line with the secret's current version. It
reads all it needs before it writes anything: the secret, and the workloads of the kinds it is
about. What cannot be read ends the pass. Then the eligible workloads are brought up to date, one
kind after the other, those of a kind side by side; a workload that fails holds up no other.

A pass over all kinds fetches the secret first; a pass over one kind lists its workloads first.

## Main definitions

* `Scope`: which kinds a pass is about.
* `survey`: the reading part of a pass.
* `beginUpdate`, `bringUpToDate`: the writing part, for one workload and for a listing.
* `runPass`: a whole pass.
* `reconcileOne`: a single workload brought up to date.
-/

namespace SecretRotation

/-- Which workloads a pass is about. -/
inductive Scope
  /-- Those of all kinds. -/
  | all
  /-- Those of one kind. -/
  | only (kind : Kind)

/-- The limit that a setting asks for; zero asks for none. -/
def limitOfSetting (setting : Option Nat) : Option Nat := setting.filter fun n => n != 0

/-- How many of some number of updates may be under way at a time; at least one. -/
def fanOutWidth (limit : Option Nat) (eligible : Nat) : Nat := max 1 (limit.getD eligible)

variable {m : Type → Type} [Monad m]

/-! ### Reading -/

/-- Fetches a secret as the target of a pass. -/
def fetchTarget (access : ClusterAccess m) (secret : SecretRef) : ExceptT Failure m Target := do
  match ← access.fetch secret with
  | .error fault => throw (.fetching secret.text fault)
  | .ok found =>
    match found.target? with
    | none => throw (.unversioned secret.text)
    | some target => return target

/-- Lists the workloads of a kind. -/
def listKind (access : ClusterAccess m) (ns : String) (k : Kind) : ExceptT Failure m Listing := do
  match ← access.list k ns with
  | .error fault => throw (.listing k.name ns fault)
  | .ok workloads => return ⟨k, workloads⟩

/-- Reads all that a pass needs to know. -/
def survey (access : ClusterAccess m) (scope : Scope) (secret : SecretRef) :
    ExceptT Failure m (Target × List Listing) :=
  match scope with
  | .all => do
    let target ← fetchTarget access secret
    let listings ← Kind.all.mapM (listKind access secret.ns)
    return (target, listings)
  | .only k => do
    let listing ← listKind access secret.ns k
    let target ← fetchTarget access secret
    return (target, [listing])

/-! ### Writing -/

/-- Begins to bring a workload up to date. The result says whether it was given new stamps. -/
def beginUpdate (access : ClusterAccess m) (target : Target) {k : Kind} (w : Workload k) :
    m (Started m (Except Failure Bool)) := do
  match w.verdict target with
  | .current =>
    access.report (.upToDate target.stamp)
    return .settled (.ok false)
  | .outdated former replacement =>
    access.report (.restarting former target.stamp w.title)
    return (← access.update k replacement).map fun
      | .ok _ => .ok true
      | .error fault => .error (.updating w.title fault)

/-- Brings the eligible workloads of a listing up to date. -/
def bringUpToDate (access : ClusterAccess m) (limit : Option Nat) (target : Target)
    (l : Listing) : m Tally := do
  let eligible := l.eligible target.name
  if eligible.isEmpty then
    access.report (.noneEligible l.workloads.length l.kind target.name)
    return .ofResults l.workloads.length []
  access.report (.rollingOut eligible.size l.workloads.length l.kind target.name)
  let results ← FanOut.run access.clock (beginUpdate access target)
    (fanOutWidth limit eligible.size) eligible.values []
  let tally := Tally.ofResults l.workloads.length (results.map fun r => (r.1.title, r.2))
  tally.failures.forM fun f => access.report (.leftBehind f.1 f.2)
  if tally.failures.isEmpty then
    access.report (.rolledOut tally.report.updated tally.report.upToDate)
  return tally

/-! ### The whole -/

/-- Runs a pass for a secret. -/
def runPass (access : ClusterAccess m) (limit : Option Nat) (scope : Scope) (secret : SecretRef) :
    m (Except Failure Report) := do
  match ← (survey access scope secret).run with
  | .error failure => return .error failure
  | .ok (target, listings) =>
    let tallies ← listings.mapM (bringUpToDate access limit target)
    return (Tally.total tallies).outcome

/-- Brings a single workload up to date with a secret, whether or not it takes part in passes. -/
def reconcileOne (access : ClusterAccess m) (secret : Secret) {k : Kind} (w : Workload k) :
    m (Except Failure Bool) := do
  match secret.target? with
  | none => return .error (.unversioned secret.ref.text)
  | some target => (← beginUpdate access target w).await access.clock

end SecretRotation
