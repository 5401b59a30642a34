import SecretRotation.Cluster.Secret
import SecretRotation.Cluster.Workload

/-!
# Version stamps

A managed secret says in an annotation which version of its content is current. Every workload that
consumes it mirrors that version under the same key, once in its own metadata and once in the
metadata of its pod template. Only the copy in the template makes the pods restart; the copy on the
workload marks the restart as asked for.

* The key is made from the name of the secret (`stampKey`). A secret may also carry its version
  under `versionKey`, which is looked at if the key of its own is missing.
* What a pass needs to know of a secret is its name and its current version (`Target`).
* A workload takes part only if it says so (`Workload.optsIn`).

## Main definitions

* `Stamp`, `stampKey`, `Secret.stamp?`, `Target`, `Secret.target?`.
* `Workload.stamp?`, `Workload.templateStamp?`, `Workload.stamped`.
* `Workload.optsIn`.
-/

namespace SecretRotation

/-- The version of a secret's content. Versions are only ever compared for equality. -/
structure Stamp where
  /-- The version as it is written in an annotation. -/
  text : String
  deriving DecidableEq

/-! ### Keys -/

/-- What the keys of all stamps begin with. -/
def stampKeyStem : String := "secret-rollout.geeko.me/managed-secret"

/-- The key under which a secret may carry its version whatever its name. -/
def versionKey : String := "secret-rollout.geeko.me/version"

/-- The key of the annotation by which a workload takes part. -/
def optInKey : String := "secret-rollout.geeko.me/auto-reload"

/-- The key of the stamps of a secret, made from its name. -/
def stampKey (secretName : String) : String := stampKeyStem ++ "." ++ secretName

/-! ### The version of a secret -/

/-- A secret to be mirrored, at its current version. -/
structure Target where
  /-- The name of the secret. -/
  name : String
  /-- The current version. -/
  stamp : Stamp
  deriving DecidableEq

namespace Target

/-- The key under which workloads mirror the version. -/
def key (t : Target) : String := stampKey t.name

end Target

namespace Secret

/-- The current version of a secret; none if the secret is not managed. -/
def stamp? (s : Secret) : Option Stamp :=
  (s.metadata.annotation? (stampKey s.knownAs) <|> s.metadata.annotation? versionKey).map .mk

/-- The secret as the target of a pass; none if the secret is not managed. -/
def target? (s : Secret) : Option Target := s.stamp?.map fun stamp => ⟨s.knownAs, stamp⟩

end Secret

/-! ### The stamps of a workload -/

namespace Workload

variable {k : Kind}

/-- Whether a workload takes part in restarts. -/
def optsIn (w : Workload k) : Bool := w.metadata.annotation? optInKey == some "true"

/-- The stamp in the metadata of a workload. -/
def stamp? (w : Workload k) (key : String) : Option Stamp := (w.metadata.annotation? key).map .mk

/-- The stamp in the metadata of the pod template. -/
def templateStamp? (w : Workload k) (key : String) : Option Stamp :=
  ((w.template?.bind (·.metadata)).bind (·.annotation? key)).map .mk

/-- The workload with a stamp written to its own metadata and to that of its pod template. -/
def stamped (w : Workload k) (key : String) (stamp : Stamp) : Workload k :=
  { w with metadata := w.metadata.annotate key stamp.text }.mapTemplate fun t =>
    { t with metadata := some ((t.metadata.getD {}).annotate key stamp.text) }

end Workload

end SecretRotation
