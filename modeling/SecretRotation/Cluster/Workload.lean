import SecretRotation.Cluster.Pod

/-!
# Workloads

A workload keeps pods running that are made from one template. There are three kinds, and they
differ only in what stands beside the template and in what is known of their status: the type
`Workload k` has the kind as its parameter, and everything that concerns the template is said once
for all kinds.

## Main definitions

* `Kind`: deployments, stateful sets and daemon sets, with their names in the API.
* `Workload k`, with the other members `k.otherOfSpec` of its spec and a status of the shape
  `k.statusShape`.
* `Workload.template?`, `Workload.mapTemplate`: reading the template, and changing it where a
  missing one is created.
* `Workload.title`: how a workload is named in logs and failures.
-/

namespace SecretRotation

/-! ### Kinds -/

/-- The kinds of workload. -/
inductive Kind
  | deployment
  | statefulSet
  | daemonSet
  deriving DecidableEq

namespace Kind

/-- All kinds, in the order in which they are rolled out. -/
def all : List Kind := [.deployment, .statefulSet, .daemonSet]

/-- The name of a kind in objects, logs and failures. -/
def name : Kind → String
  | .deployment => "Deployment"
  | .statefulSet => "StatefulSet"
  | .daemonSet => "DaemonSet"

/-- The name of a kind in paths. -/
def plural : Kind → String
  | .deployment => "deployments"
  | .statefulSet => "statefulsets"
  | .daemonSet => "daemonsets"

/-- The group and version that all kinds belong to. -/
def apiVersion : String := "apps/v1"

/-- The kind of a name. -/
def ofName? (name : String) : Option Kind := all.find? fun k => k.name == name

/-- The place of a kind in the order of `Kind.all`. -/
def rank : Kind → Nat
  | .deployment => 0
  | .statefulSet => 1
  | .daemonSet => 2

end Kind

/-! ### What a kind adds -/

/-- The members of the spec of a kind beside the template. -/
def Kind.otherOfSpec : Kind → Json.Members
  | .deployment => Schema.otherOfDeploymentSpec
  | .statefulSet => Schema.otherOfStatefulSetSpec
  | .daemonSet => Schema.otherOfDaemonSetSpec

/-- The shape of the status of a kind. -/
def Kind.statusShape : Kind → Json.Shape
  | .deployment => Schema.deploymentStatus
  | .statefulSet => Schema.statefulSetStatus
  | .daemonSet => Schema.daemonSetStatus

/-! ### Workloads -/

/-- What a workload of a kind is asked to be. -/
structure WorkloadSpec (k : Kind) where
  template : PodTemplate := {}
  /-- What else there is, from the number of pods to how they are recognized. -/
  others : k.otherOfSpec.Value := k.otherOfSpec.blank

/-- A workload of a kind. -/
structure Workload (k : Kind) where
  metadata : ObjectMeta := {}
  spec : Option (WorkloadSpec k) := none
  status : Option k.statusShape.Value := none

/-- A workload of whichever kind. -/
abbrev AnyWorkload := (k : Kind) × Workload k

namespace WorkloadSpec

/-- The spec that is created where there is none. -/
def blank (k : Kind) : WorkloadSpec k := {}

end WorkloadSpec

namespace Workload

variable {k : Kind}

/-- The pod template, if there is a spec. -/
def template? (w : Workload k) : Option PodTemplate := w.spec.map (·.template)

/-- The pod spec, if there is one. -/
def podSpec? (w : Workload k) : Option PodSpec := w.template?.bind (·.spec)

/-- The workload with its pod template changed; a missing spec is created first. -/
def mapTemplate (w : Workload k) (change : PodTemplate → PodTemplate) : Workload k :=
  let spec := w.spec.getD (.blank k)
  { w with spec := some { spec with template := change spec.template } }

/-- Where a workload is kept among those of its kind. -/
def identity (w : Workload k) : Identity := w.metadata.identity

/-- How a workload is named in logs and failures. -/
def title (w : Workload k) : String :=
  k.name ++ " " ++ w.identity.ns ++ "/" ++ w.identity.name

end Workload

end SecretRotation
