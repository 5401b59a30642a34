import SecretRotation.Cluster.Secret
import SecretRotation.Cluster.Workload

/-!
# Cluster objects as JSON

The members of every cluster object: those that are fields, each with its name in JSON, and beside
them the members that are kept by their shape. A field that the API always writes is a required
member with its default; all others are optional. Reading passes over everything that is not
described here, so writing what has been read gives the normal form of a document.

## Main definitions

* `Workload.codec k`, `Secret.codec`: the codecs of the objects that stand on their own.
* `PodSpec.codec`, `ObjectMeta.codec` and the codecs of their parts.
-/

namespace SecretRotation

open Json (Codec Fields)

/-! ### Metadata -/

/-- Metadata as JSON. -/
def ObjectMeta.codec : Codec ObjectMeta :=
  (ObjectMeta.mk
    <$> Fields.optional "name" .string ObjectMeta.name
    <*> Fields.optional "namespace" .string ObjectMeta.ns
    <*> Fields.optional "generateName" .string ObjectMeta.generateName
    <*> Fields.optional "resourceVersion" .string ObjectMeta.resourceVersion
    <*> Fields.optional "annotations" .strings ObjectMeta.annotations
    <*> Schema.otherOfObjectMeta.fields.within ObjectMeta.others).codec

/-! ### References -/

/-- A reference by name that may be optional, as JSON. -/
def NamedRef.codec : Codec NamedRef :=
  (NamedRef.mk
    <$> Fields.required "name" .string "" NamedRef.name
    <*> Schema.otherOfNamedRef.fields.within NamedRef.others).codec

/-- A reference to a key as JSON. -/
def KeyRef.codec : Codec KeyRef :=
  (KeyRef.mk
    <$> Fields.required "name" .string "" KeyRef.name
    <*> Schema.otherOfKeyRef.fields.within KeyRef.others).codec

/-! ### Containers -/

/-- The source of an environment variable as JSON. -/
def EnvSource.codec : Codec EnvSource :=
  (EnvSource.mk
    <$> Fields.optional "secretKeyRef" KeyRef.codec EnvSource.secretKeyRef
    <*> Schema.otherOfEnvSource.fields.within EnvSource.others).codec

/-- An environment variable as JSON. -/
def EnvVar.codec : Codec EnvVar :=
  (EnvVar.mk
    <$> Fields.optional "valueFrom" EnvSource.codec EnvVar.valueFrom
    <*> Schema.otherOfEnvVar.fields.within EnvVar.others).codec

/-- A source of several environment variables as JSON. -/
def EnvFrom.codec : Codec EnvFrom :=
  (EnvFrom.mk
    <$> Fields.optional "secretRef" NamedRef.codec EnvFrom.secretRef
    <*> Schema.otherOfEnvFrom.fields.within EnvFrom.others).codec

/-- A container as JSON. -/
def Container.codec : Codec Container :=
  (Container.mk
    <$> Fields.optional "env" (.list EnvVar.codec) Container.env
    <*> Fields.optional "envFrom" (.list EnvFrom.codec) Container.envFrom
    <*> Schema.otherOfContainer.fields.within Container.others).codec

/-! ### Volumes -/

/-- A secret volume as JSON. -/
def SecretVolume.codec : Codec SecretVolume :=
  (SecretVolume.mk
    <$> Fields.optional "secretName" .string SecretVolume.secretName
    <*> Schema.otherOfSecretVolume.fields.within SecretVolume.others).codec

/-- Projected keys as JSON. -/
def KeyProjection.codec : Codec KeyProjection :=
  (KeyProjection.mk
    <$> Fields.required "name" .string "" KeyProjection.name
    <*> Schema.otherOfKeyProjection.fields.within KeyProjection.others).codec

/-- A source of a projected volume as JSON. -/
def ProjectionSource.codec : Codec ProjectionSource :=
  (ProjectionSource.mk
    <$> Fields.optional "secret" KeyProjection.codec ProjectionSource.secret
    <*> Schema.otherOfProjectionSource.fields.within ProjectionSource.others).codec

/-- A projected volume as JSON. -/
def ProjectedVolume.codec : Codec ProjectedVolume :=
  (ProjectedVolume.mk
    <$> Fields.optional "sources" (.list ProjectionSource.codec) ProjectedVolume.sources
    <*> Schema.otherOfProjectedVolume.fields.within ProjectedVolume.others).codec

/-- A volume as JSON. -/
def Volume.codec : Codec Volume :=
  (Volume.mk
    <$> Fields.optional "secret" SecretVolume.codec Volume.secret
    <*> Fields.optional "projected" ProjectedVolume.codec Volume.projected
    <*> Schema.otherOfVolume.fields.within Volume.others).codec

/-! ### Pods -/

/-- A pod spec as JSON. -/
def PodSpec.codec : Codec PodSpec :=
  (PodSpec.mk
    <$> Fields.required "containers" (.list Container.codec) [] PodSpec.containers
    <*> Fields.optional "initContainers" (.list Container.codec) PodSpec.initContainers
    <*> Fields.optional "volumes" (.list Volume.codec) PodSpec.volumes
    <*> Schema.otherOfPodSpec.fields.within PodSpec.others).codec

/-- A pod template as JSON. -/
def PodTemplate.codec : Codec PodTemplate :=
  (PodTemplate.mk
    <$> Fields.optional "metadata" ObjectMeta.codec PodTemplate.metadata
    <*> Fields.optional "spec" PodSpec.codec PodTemplate.spec).codec

/-! ### Objects that stand on their own -/

/-- The values of a secret's payload as JSON; `null` is a value without bytes. -/
def payloadCodec : Codec Text.Base64 where
  write v := .str v.text
  read
    | .null => some .empty
    | .str s => Text.Base64.ofText? s
    | _ => none

/-- A secret as JSON. -/
def Secret.codec : Codec Secret :=
  objectCodec "v1" "Secret" <|
    Secret.mk
      <$> Fields.required "metadata" ObjectMeta.codec {} Secret.metadata
      <*> Fields.optional "data" (.dict payloadCodec) Secret.data
      <*> Fields.optional "stringData" .strings Secret.stringData
      <*> Fields.optional "type" .string Secret.secretType
      <*> Fields.optional "immutable" .bool Secret.immutable

/-- The spec of a workload as JSON. -/
def WorkloadSpec.codec (k : Kind) : Codec (WorkloadSpec k) :=
  (WorkloadSpec.mk
    <$> Fields.required "template" PodTemplate.codec {} WorkloadSpec.template
    <*> k.otherOfSpec.fields.within WorkloadSpec.others).codec

/-- A workload of a kind as JSON. -/
def Workload.codec (k : Kind) : Codec (Workload k) :=
  objectCodec Kind.apiVersion k.name <|
    Workload.mk
      <$> Fields.required "metadata" ObjectMeta.codec {} Workload.metadata
      <*> Fields.optional "spec" (WorkloadSpec.codec k) Workload.spec
      <*> Fields.optional "status" k.statusShape.codec Workload.status

/-- A workload of whichever kind, as JSON. -/
def AnyWorkload.toJson (w : AnyWorkload) : Json := (Workload.codec w.1).write w.2

end SecretRotation
