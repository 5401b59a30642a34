import SecretRotation.Cluster.Metadata

/-!
# Pod templates

The pods of a workload are made from a template: containers with their environments, and the
volumes that are mounted into them. The fields are those by which a pod refers to secrets; the other
members of each part are kept beside them, in the shape that they have in the API.

## Main definitions

* `Container`, `EnvVar`, `EnvFrom`: what a container is started with.
* `Volume`, and the volumes with the keys of secrets.
* `PodSpec`, `PodTemplate`.
-/

namespace SecretRotation

/-! ### References to other objects -/

/-- A reference to an object in the same namespace that may be allowed to be missing. -/
structure NamedRef where
  name : String := ""
  others : Schema.otherOfNamedRef.Value := Schema.otherOfNamedRef.blank

/-- A reference to one key of an object in the same namespace. -/
structure KeyRef where
  name : String := ""
  /-- The key, and whether it may be missing. -/
  others : Schema.otherOfKeyRef.Value := Schema.otherOfKeyRef.blank

/-! ### Containers -/

/-- Where the value of an environment variable is taken from. -/
structure EnvSource where
  secretKeyRef : Option KeyRef := none
  others : Schema.otherOfEnvSource.Value := Schema.otherOfEnvSource.blank

/-- An environment variable. -/
structure EnvVar where
  valueFrom : Option EnvSource := none
  /-- The name of the variable, and its value if that is given. -/
  others : Schema.otherOfEnvVar.Value := Schema.otherOfEnvVar.blank

/-- An object all of whose keys become environment variables. -/
structure EnvFrom where
  secretRef : Option NamedRef := none
  others : Schema.otherOfEnvFrom.Value := Schema.otherOfEnvFrom.blank

/-- A container. -/
structure Container where
  env : Option (List EnvVar) := none
  envFrom : Option (List EnvFrom) := none
  others : Schema.otherOfContainer.Value := Schema.otherOfContainer.blank

/-! ### Volumes -/

/-- A volume with the keys of a secret. -/
structure SecretVolume where
  secretName : Option String := none
  others : Schema.otherOfSecretVolume.Value := Schema.otherOfSecretVolume.blank

/-- The keys of a secret within a projected volume. -/
structure KeyProjection where
  name : String := ""
  others : Schema.otherOfKeyProjection.Value := Schema.otherOfKeyProjection.blank

/-- One source of a projected volume. -/
structure ProjectionSource where
  secret : Option KeyProjection := none
  others : Schema.otherOfProjectionSource.Value := Schema.otherOfProjectionSource.blank

/-- A volume put together from several sources. -/
structure ProjectedVolume where
  sources : Option (List ProjectionSource) := none
  others : Schema.otherOfProjectedVolume.Value := Schema.otherOfProjectedVolume.blank

/-- A volume of a pod. -/
structure Volume where
  secret : Option SecretVolume := none
  projected : Option ProjectedVolume := none
  /-- The name of the volume, and whatever else it may be made of. -/
  others : Schema.otherOfVolume.Value := Schema.otherOfVolume.blank

/-! ### Pods -/

/-- What a pod consists of. -/
structure PodSpec where
  containers : List Container := []
  initContainers : Option (List Container) := none
  volumes : Option (List Volume) := none
  /-- What else there is, among it the containers that are added to a running pod, and the secrets
  with which images are pulled. -/
  others : Schema.otherOfPodSpec.Value := Schema.otherOfPodSpec.blank

/-- The template that the pods of a workload are made from. -/
structure PodTemplate where
  metadata : Option ObjectMeta := none
  spec : Option PodSpec := none

end SecretRotation
