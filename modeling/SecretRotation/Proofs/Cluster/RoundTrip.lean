import SecretRotation.Cluster.Encoding
import SecretRotation.Proofs.Json.Shape

/-!
# Cluster objects that are written and read back

A cluster object is written without the fractions of a second of its timestamps, and in every other
respect it is read back as it was. The codec of a part settles it because the codecs of its members
do and their names differ; the parts that have no timestamps are read back unchanged.

## Main definitions

* `Workload.asWritten`, `Secret.asWritten`: objects with all timestamps cut to whole seconds.
* `ObjectMeta.asWritten`, `Volume.asWritten` and the same for all parts that have timestamps.

## Main results

* `Workload.settles_codec`, `Secret.settles_codec`: what is read back is the object as written.
* `Workload.kind_eq_of_read_write`: a document says of which kind a workload is.
-/

namespace SecretRotation

open Json (Codec Fields Members)

/-! ### Metadata -/

/-- Metadata with all timestamps cut to whole seconds. -/
def ObjectMeta.asWritten (m : ObjectMeta) : ObjectMeta :=
  { m with others := Schema.otherOfObjectMeta.asWritten m.others }

instance Schema.settles_otherOfObjectMeta :
    otherOfObjectMeta.fields.Settles id id otherOfObjectMeta.asWritten :=
  Members.settles_fields (by decide)

instance ObjectMeta.settles_codec : ObjectMeta.codec.Settles ObjectMeta.asWritten :=
  Fields.settles_codec (by decide) (fun _ => rfl) fun _ => rfl

/-! ### References -/

instance NamedRef.lawful_codec : NamedRef.codec.Lawful :=
  have := Members.lawful_fields (by decide : Schema.otherOfNamedRef.isWellFormed = true) (by decide)
  Fields.settles_codec (by decide) (fun _ => rfl) fun _ => rfl

instance KeyRef.lawful_codec : KeyRef.codec.Lawful :=
  have := Members.lawful_fields (by decide : Schema.otherOfKeyRef.isWellFormed = true) (by decide)
  Fields.settles_codec (by decide) (fun _ => rfl) fun _ => rfl

/-! ### Containers -/

instance EnvSource.lawful_codec : EnvSource.codec.Lawful :=
  have := Members.lawful_fields (by decide : Schema.otherOfEnvSource.isWellFormed = true)
    (by decide)
  Fields.settles_codec (by decide) (fun _ => rfl) fun _ => rfl

instance EnvVar.lawful_codec : EnvVar.codec.Lawful :=
  have := Members.lawful_fields (by decide : Schema.otherOfEnvVar.isWellFormed = true) (by decide)
  Fields.settles_codec (by decide) (fun _ => rfl) fun _ => rfl

instance EnvFrom.lawful_codec : EnvFrom.codec.Lawful :=
  have := Members.lawful_fields (by decide : Schema.otherOfEnvFrom.isWellFormed = true) (by decide)
  Fields.settles_codec (by decide) (fun _ => rfl) fun _ => rfl

instance Container.lawful_codec : Container.codec.Lawful :=
  have := Members.lawful_fields (by decide : Schema.otherOfContainer.isWellFormed = true)
    (by decide)
  Fields.settles_codec (by decide) (fun _ => rfl) fun _ => rfl

/-! ### Volumes -/

instance SecretVolume.lawful_codec : SecretVolume.codec.Lawful :=
  have := Members.lawful_fields (by decide : Schema.otherOfSecretVolume.isWellFormed = true)
    (by decide)
  Fields.settles_codec (by decide) (fun _ => rfl) fun _ => rfl

instance KeyProjection.lawful_codec : KeyProjection.codec.Lawful :=
  have := Members.lawful_fields (by decide : Schema.otherOfKeyProjection.isWellFormed = true)
    (by decide)
  Fields.settles_codec (by decide) (fun _ => rfl) fun _ => rfl

instance ProjectionSource.lawful_codec : ProjectionSource.codec.Lawful :=
  have := Members.lawful_fields (by decide : Schema.otherOfProjectionSource.isWellFormed = true)
    (by decide)
  Fields.settles_codec (by decide) (fun _ => rfl) fun _ => rfl

instance ProjectedVolume.lawful_codec : ProjectedVolume.codec.Lawful :=
  have := Members.lawful_fields (by decide : Schema.otherOfProjectedVolume.isWellFormed = true)
    (by decide)
  Fields.settles_codec (by decide) (fun _ => rfl) fun _ => rfl

/-- A volume with all timestamps cut to whole seconds: those of a storage claim that belongs to a
pod. -/
def Volume.asWritten (v : Volume) : Volume :=
  { v with others := Schema.otherOfVolume.asWritten v.others }

instance Volume.settles_codec : Volume.codec.Settles Volume.asWritten :=
  have := Members.settles_fields (by decide : Schema.otherOfVolume.isWellFormed = true)
  Fields.settles_codec (by decide) (fun _ => rfl) fun _ => rfl

/-! ### Pods -/

/-- A pod spec with all timestamps cut to whole seconds. -/
def PodSpec.asWritten (spec : PodSpec) : PodSpec :=
  { spec with volumes := spec.volumes.map (·.map Volume.asWritten) }

instance PodSpec.settles_codec : PodSpec.codec.Settles PodSpec.asWritten :=
  have := Members.lawful_fields (by decide : Schema.otherOfPodSpec.isWellFormed = true) (by decide)
  Fields.settles_codec (by decide) (fun _ => rfl) fun _ => rfl

/-- A pod template with all timestamps cut to whole seconds. -/
def PodTemplate.asWritten (t : PodTemplate) : PodTemplate where
  metadata := t.metadata.map ObjectMeta.asWritten
  spec := t.spec.map PodSpec.asWritten

instance PodTemplate.settles_codec : PodTemplate.codec.Settles PodTemplate.asWritten :=
  Fields.settles_codec (by decide) (fun _ => rfl) fun _ => rfl

/-! ### Secrets -/

instance lawful_payloadCodec : payloadCodec.Lawful where
  read_write v := by simp [payloadCodec, Text.Base64.ofText?, v.isBase64]
  write_settled _ := rfl
  write_ne_null _ := by simp [payloadCodec]

/-- A secret with all timestamps cut to whole seconds. -/
def Secret.asWritten (s : Secret) : Secret := { s with metadata := s.metadata.asWritten }

instance Secret.settles_codec : Secret.codec.Settles Secret.asWritten :=
  settles_objectCodec (by decide) (fun _ => rfl) fun _ => rfl

/-! ### Workloads -/

variable {k : Kind}

/-- The spec of a workload with all timestamps cut to whole seconds. -/
def WorkloadSpec.asWritten (spec : WorkloadSpec k) : WorkloadSpec k where
  template := spec.template.asWritten
  others := k.otherOfSpec.asWritten spec.others

/-- A workload with all timestamps cut to whole seconds. -/
def Workload.asWritten (w : Workload k) : Workload k where
  metadata := w.metadata.asWritten
  spec := w.spec.map WorkloadSpec.asWritten
  status := w.status.map k.statusShape.asWritten

instance Kind.settles_otherOfSpec (k : Kind) :
    k.otherOfSpec.fields.Settles id id k.otherOfSpec.asWritten :=
  Members.settles_fields (by cases k <;> decide)

instance Kind.settles_statusShape (k : Kind) :
    k.statusShape.codec.Settles k.statusShape.asWritten :=
  Json.Shape.settles_codec (by cases k <;> decide)

instance WorkloadSpec.settles_codec (k : Kind) :
    (WorkloadSpec.codec k).Settles WorkloadSpec.asWritten :=
  Fields.settles_codec (by cases k <;> decide) (fun _ => rfl) fun _ => rfl

/-- **What is read back of a workload** is the workload as written. -/
instance Workload.settles_codec (k : Kind) : (Workload.codec k).Settles Workload.asWritten :=
  settles_objectCodec (by cases k <;> decide) (fun _ => rfl) fun _ => rfl

theorem Kind.name_injective {k k' : Kind} (h : k.name = k'.name) : k = k' := by
  revert h
  cases k <;> cases k' <;> decide

/-- The document of a workload is not that of a workload of another kind. -/
theorem Workload.kind_eq_of_read_write {k k' : Kind} {w : Workload k} {v : Workload k'}
    (h : (Workload.codec k').read ((Workload.codec k).write w) = some v) : k = k' := by
  simp only [Workload.codec, objectCodec] at h
  split at h
  next hsays =>
    have hkind := (Bool.and_eq_true_iff.1 hsays).2
    have hall : (Json.text? (.str k.name) == some k'.name) = true :=
      List.all_eq_true.1 hkind _ (by simp [Json.occurrences])
    exact Kind.name_injective (by simpa [Json.text?] using hall)
  next => cases h

/-- A workload that is read from the document of another one is that workload as written. -/
theorem Workload.eq_of_read_write {w v : Workload k}
    (h : (Workload.codec k).read ((Workload.codec k).write w) = some v) : v = w.asWritten := by
  rw [Codec.Settles.read_write] at h
  exact (Option.some.inj h).symm

end SecretRotation
