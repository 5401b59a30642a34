import SecretRotation.Cluster.Workload

/-!
# Which secrets a workload consumes

A workload consumes a secret if the secret is resolved when one of its containers starts: through
an environment variable taken from a key of it, through an environment made from all its keys, or
through a volume, be it a secret volume or a projected one. Pods pick up changes of their image
pull secrets without a restart, so those do not count; nor do the containers that are only added
to a running pod for debugging.

The names of the secrets are collected in lists (`PodSpec.secretNames`), and consuming a secret
means that its name is among them. A reference without a name is one to the secret named `""`.

## Main definitions

* `Container.secretNames`, `Volume.secretNames`, `PodSpec.secretNames`.
* `PodSpec.consumes`, `Workload.consumes`.
-/

namespace SecretRotation

namespace Container

/-- The secrets all of whose keys a container has in its environment. -/
def wholeSecretNames (c : Container) : List String :=
  (c.envFrom.getD []).filterMap fun source => source.secretRef.map (·.name)

/-- The secrets single keys of which a container has in its environment. -/
def keyedSecretNames (c : Container) : List String :=
  (c.env.getD []).filterMap fun var => (var.valueFrom.bind (·.secretKeyRef)).map (·.name)

/-- The secrets in the environment of a container. -/
def secretNames (c : Container) : List String := c.wholeSecretNames ++ c.keyedSecretNames

end Container

namespace Volume

/-- The secrets among the sources of a projected volume. -/
def projectedSecretNames (v : Volume) : List String :=
  ((v.projected.bind (·.sources)).getD []).filterMap fun source => source.secret.map (·.name)

/-- The secrets whose keys are files of a volume. -/
def secretNames (v : Volume) : List String :=
  (v.secret.bind (·.secretName)).toList ++ v.projectedSecretNames

end Volume

namespace PodSpec

/-- The containers that are started with a pod. -/
def startedContainers (spec : PodSpec) : List Container :=
  spec.containers ++ spec.initContainers.getD []

/-- The secrets that are resolved when the containers of a pod start. -/
def secretNames (spec : PodSpec) : List String :=
  spec.startedContainers.flatMap Container.secretNames ++
    (spec.volumes.getD []).flatMap Volume.secretNames

/-- Whether the pods need a secret of a given name in order to start. -/
def consumes (spec : PodSpec) (secretName : String) : Bool :=
  spec.secretNames.contains secretName

end PodSpec

/-- Whether the pods of a workload need a secret of a given name in order to start. -/
def Workload.consumes {k : Kind} (w : Workload k) (secretName : String) : Bool :=
  w.podSpec?.any fun spec => spec.consumes secretName

end SecretRotation
