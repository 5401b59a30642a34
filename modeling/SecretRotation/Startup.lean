import SecretRotation.Event

/-!
# Starting the operator

The operator logs that it starts, reads its settings, and logs them. With settings that cannot be
used it ends there. Otherwise it connects to the cluster it runs in; without a cluster, it ends as
well.

## Main definitions

* `Ending`: how the operator ends.
* `startUp`: starting without a cluster.
-/

namespace SecretRotation

/-- How the operator ends. -/
structure Ending where
  /-- The exit status. -/
  status : Nat
  /-- What was logged. -/
  events : List Event
  /-- What is written to the standard error stream. -/
  complaint : String

/-- How the operator ends in an environment without a cluster. -/
def startUp (env : Environment) : Ending :=
  match Settings.read env with
  | .error failure =>
    { status := 1
      events := [.starting]
      complaint := "Error: " ++ failure.text }
  | .ok settings =>
    { status := 1
      events := [.starting, .configured settings]
      complaint := "Error: Failed to infer configuration" }

end SecretRotation
