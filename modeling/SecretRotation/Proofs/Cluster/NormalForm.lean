import SecretRotation.Cluster.Encoding
import SecretRotation.Proofs.Json.Shape

/-!
# Normal forms of cluster objects

The members that are kept of every cluster object, with the defaults of those that are always
written. Writing what has been read of a document gives this normal form of it. A member that is a
field of the object comes with the normal form of the field; all others have the normal form of
their shape.

## Main definitions

* `Workload.normal k`: the normal form of a workload of a kind.
* `PodSpec.normal`, `ObjectMeta.normal` and the normal forms of their parts.

## Main results

* `Workload.normalizes_codec`: a workload that has been read is written in its normal form.
-/

namespace SecretRotation

open Json (Codec Fields Member normalObject normalList normalDict)

/-! ### Metadata -/

/-- The normal form of metadata. -/
def ObjectMeta.normal : Json → Json :=
  normalObject ([
    .optional "name" id,
    .optional "namespace" id,
    .optional "generateName" id,
    .optional "resourceVersion" id,
    .optional "annotations" (normalDict id)] ++ Schema.otherOfObjectMeta.members)

instance ObjectMeta.normalizes_codec : ObjectMeta.codec.Normalizes ObjectMeta.normal :=
  Fields.normalizes_codec (fun _ => rfl) rfl

example : ObjectMeta.normal (.obj [("uid", .null), ("labels", .obj []), ("color", .str "red"),
    ("creationTimestamp", .str "2024-05-01T14:00:00.25+02:00"), ("name", .str "api"),
    ("name", .str "web")]) =
      .obj [("name", .str "web"), ("creationTimestamp", .str "2024-05-01T12:00:00Z"),
        ("labels", .obj [])] := by
  rfl

/-! ### References -/

/-- The normal form of a reference by name that may be optional. -/
def NamedRef.normal : Json → Json :=
  normalObject ([.required "name" (.str "") id] ++ Schema.otherOfNamedRef.members)

instance NamedRef.normalizes_codec : NamedRef.codec.Normalizes NamedRef.normal :=
  Fields.normalizes_codec (fun _ => rfl) rfl

/-- The normal form of a reference to a key. -/
def KeyRef.normal : Json → Json :=
  normalObject ([.required "name" (.str "") id] ++ Schema.otherOfKeyRef.members)

instance KeyRef.normalizes_codec : KeyRef.codec.Normalizes KeyRef.normal :=
  Fields.normalizes_codec (fun _ => rfl) rfl

/-! ### Containers -/

/-- The normal form of the source of an environment variable. -/
def EnvSource.normal : Json → Json :=
  normalObject ([.optional "secretKeyRef" KeyRef.normal] ++ Schema.otherOfEnvSource.members)

instance EnvSource.normalizes_codec : EnvSource.codec.Normalizes EnvSource.normal :=
  Fields.normalizes_codec (fun _ => rfl) rfl

/-- The normal form of an environment variable. -/
def EnvVar.normal : Json → Json :=
  normalObject ([.optional "valueFrom" EnvSource.normal] ++ Schema.otherOfEnvVar.members)

instance EnvVar.normalizes_codec : EnvVar.codec.Normalizes EnvVar.normal :=
  Fields.normalizes_codec (fun _ => rfl) rfl

/-- The normal form of a source of several environment variables. -/
def EnvFrom.normal : Json → Json :=
  normalObject ([.optional "secretRef" NamedRef.normal] ++ Schema.otherOfEnvFrom.members)

instance EnvFrom.normalizes_codec : EnvFrom.codec.Normalizes EnvFrom.normal :=
  Fields.normalizes_codec (fun _ => rfl) rfl

/-- The normal form of a container. -/
def Container.normal : Json → Json :=
  normalObject ([
    .optional "env" (normalList EnvVar.normal),
    .optional "envFrom" (normalList EnvFrom.normal)] ++ Schema.otherOfContainer.members)

instance Container.normalizes_codec : Container.codec.Normalizes Container.normal :=
  Fields.normalizes_codec (fun _ => rfl) rfl

/-! ### Volumes -/

/-- The normal form of a secret volume. -/
def SecretVolume.normal : Json → Json :=
  normalObject ([.optional "secretName" id] ++ Schema.otherOfSecretVolume.members)

instance SecretVolume.normalizes_codec : SecretVolume.codec.Normalizes SecretVolume.normal :=
  Fields.normalizes_codec (fun _ => rfl) rfl

/-- The normal form of projected keys. -/
def KeyProjection.normal : Json → Json :=
  normalObject ([.required "name" (.str "") id] ++ Schema.otherOfKeyProjection.members)

instance KeyProjection.normalizes_codec : KeyProjection.codec.Normalizes KeyProjection.normal :=
  Fields.normalizes_codec (fun _ => rfl) rfl

/-- The normal form of a source of a projected volume. -/
def ProjectionSource.normal : Json → Json :=
  normalObject ([.optional "secret" KeyProjection.normal] ++
    Schema.otherOfProjectionSource.members)

instance ProjectionSource.normalizes_codec :
    ProjectionSource.codec.Normalizes ProjectionSource.normal :=
  Fields.normalizes_codec (fun _ => rfl) rfl

/-- The normal form of a projected volume. -/
def ProjectedVolume.normal : Json → Json :=
  normalObject ([.optional "sources" (normalList ProjectionSource.normal)] ++
    Schema.otherOfProjectedVolume.members)

instance ProjectedVolume.normalizes_codec :
    ProjectedVolume.codec.Normalizes ProjectedVolume.normal :=
  Fields.normalizes_codec (fun _ => rfl) rfl

/-- The normal form of a volume. -/
def Volume.normal : Json → Json :=
  normalObject ([
    .optional "secret" SecretVolume.normal,
    .optional "projected" ProjectedVolume.normal] ++ Schema.otherOfVolume.members)

instance Volume.normalizes_codec : Volume.codec.Normalizes Volume.normal :=
  Fields.normalizes_codec (fun _ => rfl) rfl

/-! ### Pods -/

/-- The normal form of a pod spec. -/
def PodSpec.normal : Json → Json :=
  normalObject ([
    .required "containers" (.arr []) (normalList Container.normal),
    .optional "initContainers" (normalList Container.normal),
    .optional "volumes" (normalList Volume.normal)] ++ Schema.otherOfPodSpec.members)

instance PodSpec.normalizes_codec : PodSpec.codec.Normalizes PodSpec.normal :=
  Fields.normalizes_codec (fun _ => rfl) rfl

/-- The normal form of a pod template. -/
def PodTemplate.normal : Json → Json :=
  normalObject [
    .optional "metadata" ObjectMeta.normal,
    .optional "spec" PodSpec.normal]

instance PodTemplate.normalizes_codec : PodTemplate.codec.Normalizes PodTemplate.normal :=
  Fields.normalizes_codec (fun _ => rfl) rfl

/-! ### Workloads -/

/-- The normal form of the spec of a workload. -/
def WorkloadSpec.normal (k : Kind) : Json → Json :=
  normalObject ([.required "template" (.obj []) PodTemplate.normal] ++ k.otherOfSpec.members)

instance WorkloadSpec.normalizes_codec (k : Kind) :
    (WorkloadSpec.codec k).Normalizes (WorkloadSpec.normal k) :=
  Fields.normalizes_codec (fun _ => rfl) rfl

/-- The normal form of a workload of a kind. -/
def Workload.normal (k : Kind) : Json → Json :=
  normalStanding Kind.apiVersion k.name [
    .required "metadata" (.obj []) ObjectMeta.normal,
    .optional "spec" (WorkloadSpec.normal k),
    .optional "status" k.statusShape.normal]

/-- **A workload that has been read is written in its normal form.** -/
instance Workload.normalizes_codec (k : Kind) :
    (Workload.codec k).Normalizes (Workload.normal k) :=
  normalizes_objectCodec (fun _ => rfl) rfl

end SecretRotation
