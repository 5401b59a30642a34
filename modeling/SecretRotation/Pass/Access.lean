import SecretRotation.Event
import SecretRotation.Pass.FanOut

/-!
# Access to a cluster

What a pass asks of the cluster whose workloads it brings up to date. The same pass runs against the
API server (`SecretRotation.Api.Client`) and against a cluster kept in memory
(`SecretRotation.Drill`); it is written once for whatever gives it these operations.

## Main definitions

* `ClusterAccess`.
-/

namespace SecretRotation

/-- The operations on a cluster. -/
structure ClusterAccess (m : Type → Type) where
  /-- The clock that updates are timed by. -/
  clock : Clock m
  /-- Fetches a secret. -/
  fetch : SecretRef → m (Except Fault Secret)
  /-- Lists the workloads of a kind in a namespace. -/
  list : (k : Kind) → (ns : String) → m (Except Fault (List (Workload k)))
  /-- Begins to replace a workload; the result is the workload as it is stored. -/
  update : (k : Kind) → Workload k → m (Started m (Except Fault (Workload k)))
  /-- Logs an event. -/
  report : Event → m Unit

/-- The result of a unit that has been begun, after waiting for it to end. -/
def Started.await {m : Type → Type} [Monad m] {β : Type} (clock : Clock m) : Started m β → m β
  | .settled result => pure result
  | .underway due finish => do
    clock.waitUntil due
    finish

end SecretRotation
