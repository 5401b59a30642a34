import SecretRotation.Pass.Run

/-!
# Operations on a cluster

The operations that can be asked for one by one, and their answers: the three requests to a
cluster, bringing a single workload up to date, and whole passes.

## Main definitions

* `Operation`, `Answer`.
* `Operation.perform`.
-/

namespace SecretRotation

/-- An operation on a cluster. -/
inductive Operation
  /-- List the workloads of a kind in a namespace. -/
  | list (kind : Kind) (ns : String)
  /-- Fetch a secret. -/
  | fetch (secret : SecretRef)
  /-- Replace a workload. -/
  | update (workload : AnyWorkload)
  /-- Bring a workload up to date with a secret. -/
  | reconcile (workload : AnyWorkload) (secret : Secret)
  /-- Run a pass for a secret. -/
  | pass (scope : Scope) (secret : SecretRef)

/-- What comes of an operation. -/
inductive Answer
  /-- The titles of the workloads listed. -/
  | titles (titles : List String)
  /-- The secret fetched. -/
  | secret (secret : Secret)
  /-- The workload as it is stored. -/
  | workload (workload : AnyWorkload)
  /-- Whether the workload was given new stamps. -/
  | changed (changed : Bool)
  /-- The report of a pass. -/
  | report (report : Report)
  /-- The failure of the operation. -/
  | failed (failure : Failure)

namespace Answer

/-- The answer that a result is given with. -/
def ofResult {α : Type} (give : α → Answer) : Except Failure α → Answer
  | .ok a => give a
  | .error failure => .failed failure

end Answer

namespace Operation

variable {m : Type → Type} [Monad m]

/-- Performs an operation. The limit of updates under way concerns passes only. -/
def perform (access : ClusterAccess m) (limit : Option Nat) : Operation → m Answer
  | .list k ns => do
    let listed ← (listKind access ns k).run
    return .ofResult (fun l => .titles (l.workloads.map Workload.title)) listed
  | .fetch secret => do
    match ← access.fetch secret with
    | .ok found => return .secret found
    | .error fault => return .failed (.fetching secret.text fault)
  | .update ⟨k, w⟩ => do
    match ← (← access.update k w).await access.clock with
    | .ok stored => return .workload ⟨k, stored⟩
    | .error fault => return .failed (.updating w.title fault)
  | .reconcile ⟨_, w⟩ secret => do
    return .ofResult .changed (← reconcileOne access secret w)
  | .pass scope secret => do
    return .ofResult .report (← runPass access limit scope secret)

end Operation

end SecretRotation
