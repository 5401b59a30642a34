import SecretRotation.Proofs.Cluster.Annotated
import SecretRotation.Proofs.Cluster.Reordering
import SecretRotation.Proofs.Consumption
import SecretRotation.Sample

/-!
# The references in the document of a workload

Which secrets a workload consumes is said by its document, in four kinds of places below the spec of
its pod template: among the sources of all variables of a container, in the source of one variable,
in a secret volume, and among the sources of a projected volume. A place that is missing or `null`
refers to nothing, and a reference without a name is one to the secret named `""`; a secret volume
must name its secret.

## Main definitions

* `Json.IsRefTo`, `Json.ContainerRefersTo`, `Json.VolumeRefersTo`, `Json.PodRefersTo`: the
  references in a document.

## Main results

* `PodSpec.consumes_iff_of_read`: a pod spec consumes what its document refers to.
* `Json.Reordered.podRefersTo_iff`: the order of lists does not matter.
* `Workload.consumes_exactly_references`: the same of workloads, and what the answer does not depend
  on.
-/

namespace SecretRotation

open Json (Codec Fields Reordered occurrences)

namespace Json

/-! ### References in documents -/

/-- A reference to a secret: it is there, and its name is that of the secret, where a missing name
counts as `""`. -/
def IsRefTo (ref : Json) (secretName : String) : Prop :=
  ref ≠ .null ∧ (ref.valueAt ["name"]).text?.getD "" = secretName

/-- A container that has all keys of a secret, or one of them, in its environment. -/
def ContainerRefersTo (container : Json) (secretName : String) : Prop :=
  (∃ source ∈ (container.valueAt ["envFrom"]).elements,
      (source.valueAt ["secretRef"]).IsRefTo secretName) ∨
    ∃ var ∈ (container.valueAt ["env"]).elements,
      (var.valueAt ["valueFrom", "secretKeyRef"]).IsRefTo secretName

/-- A volume with the keys of a secret, alone or among other sources. -/
def VolumeRefersTo (volume : Json) (secretName : String) : Prop :=
  (volume.valueAt ["secret", "secretName"]).text? = some secretName ∨
    ∃ source ∈ (volume.valueAt ["projected", "sources"]).elements,
      (source.valueAt ["secret"]).IsRefTo secretName

/-- A pod spec with a container, an init container or a volume that refers to a secret. -/
def PodRefersTo (pod : Json) (secretName : String) : Prop :=
  (∃ container ∈ (pod.valueAt ["containers"]).elements,
      container.ContainerRefersTo secretName) ∨
    (∃ container ∈ (pod.valueAt ["initContainers"]).elements,
      container.ContainerRefersTo secretName) ∨
    ∃ volume ∈ (pod.valueAt ["volumes"]).elements, volume.VolumeRefersTo secretName

variable {secretName : String}

@[simp] theorem not_isRefTo_null : ¬ Json.null.IsRefTo secretName := fun h => h.1 rfl

@[simp] theorem not_podRefersTo_null : ¬ Json.null.PodRefersTo secretName := by
  simp [PodRefersTo]

/-- A reference names in the document what it names as read. -/
theorem isRefTo_iff_of_tells {j : Json} {name : String} (hnull : j ≠ .null)
    (htold : Fields.tellsRequired "name" .string "" (occurrences j.members) name) :
    j.IsRefTo secretName ↔ name = secretName := by
  rw [IsRefTo, getD_text?_of_tellsRequired htold, and_iff_right hnull]

end Json

/-! ### What is read at the places of references -/

variable {j : Json} {secretName : String}

theorem NamedRef.isRefTo_iff_of_read {ref : NamedRef} (h : codec.read j = some ref) :
    j.IsRefTo secretName ↔ ref.name = secretName := by
  have htold := Fields.tells_of_read (fun _ => rfl) (fun _ => rfl) h
  exact Json.isRefTo_iff_of_tells (Fields.ne_null_of_read h) htold.1

theorem KeyRef.isRefTo_iff_of_read {ref : KeyRef} (h : codec.read j = some ref) :
    j.IsRefTo secretName ↔ ref.name = secretName := by
  have htold := Fields.tells_of_read (fun _ => rfl) (fun _ => rfl) h
  exact Json.isRefTo_iff_of_tells (Fields.ne_null_of_read h) htold.1

theorem KeyProjection.isRefTo_iff_of_read {keys : KeyProjection} (h : codec.read j = some keys) :
    j.IsRefTo secretName ↔ keys.name = secretName := by
  have htold := Fields.tells_of_read (fun _ => rfl) (fun _ => rfl) h
  exact Json.isRefTo_iff_of_tells (Fields.ne_null_of_read h) htold.1

theorem EnvFrom.secretRef_iff_of_read {source : EnvFrom} (h : codec.read j = some source) :
    (j.valueAt ["secretRef"]).IsRefTo secretName ↔
      ∃ ref ∈ source.secretRef, ref.name = secretName := by
  have htold := Fields.tells_of_read (fun _ => rfl) (fun _ => rfl) h
  exact Json.iff_exists_of_tellsOptional htold.1 Json.not_isRefTo_null NamedRef.isRefTo_iff_of_read

theorem EnvSource.secretKeyRef_iff_of_read {source : EnvSource} (h : codec.read j = some source) :
    (j.valueAt ["secretKeyRef"]).IsRefTo secretName ↔
      ∃ ref ∈ source.secretKeyRef, ref.name = secretName := by
  have htold := Fields.tells_of_read (fun _ => rfl) (fun _ => rfl) h
  exact Json.iff_exists_of_tellsOptional htold.1 Json.not_isRefTo_null KeyRef.isRefTo_iff_of_read

theorem EnvVar.secretKeyRef_iff_of_read {var : EnvVar} (h : codec.read j = some var) :
    (j.valueAt ["valueFrom", "secretKeyRef"]).IsRefTo secretName ↔
      ∃ ref ∈ var.valueFrom.bind (·.secretKeyRef), ref.name = secretName := by
  have htold := Fields.tells_of_read (fun _ => rfl) (fun _ => rfl) h
  exact Json.iff_of_tellsOptional
    (P := fun v => (v.valueAt ["secretKeyRef"]).IsRefTo secretName)
    (Q := fun source? => ∃ ref ∈ source?.bind (·.secretKeyRef), ref.name = secretName)
    htold.1 (by simp) EnvSource.secretKeyRef_iff_of_read

/-- The references in the document of a container are the secrets in its environment. -/
theorem Container.mem_secretNames_iff_of_read {c : Container} (h : codec.read j = some c) :
    j.ContainerRefersTo secretName ↔ secretName ∈ c.secretNames := by
  obtain ⟨⟨henv, henvFrom⟩, _⟩ := Fields.tells_of_read (fun _ => rfl) (fun _ => rfl) h
  rw [mem_secretNames]
  exact or_congr
    (Json.exists_element_iff_of_tellsOptional henvFrom EnvFrom.secretRef_iff_of_read)
    (Json.exists_element_iff_of_tellsOptional henv EnvVar.secretKeyRef_iff_of_read)

theorem SecretVolume.secretName_iff_of_read {volume : SecretVolume}
    (h : codec.read j = some volume) :
    (j.valueAt ["secretName"]).text? = some secretName ↔ volume.secretName = some secretName := by
  have htold := Fields.tells_of_read (fun _ => rfl) (fun _ => rfl) h
  rw [Json.text?_of_tellsOptional htold.1]

theorem ProjectionSource.secret_iff_of_read {source : ProjectionSource}
    (h : codec.read j = some source) :
    (j.valueAt ["secret"]).IsRefTo secretName ↔ ∃ keys ∈ source.secret, keys.name = secretName := by
  have htold := Fields.tells_of_read (fun _ => rfl) (fun _ => rfl) h
  exact Json.iff_exists_of_tellsOptional htold.1 Json.not_isRefTo_null
    KeyProjection.isRefTo_iff_of_read

theorem ProjectedVolume.sources_iff_of_read {volume : ProjectedVolume}
    (h : codec.read j = some volume) :
    (∃ source ∈ (j.valueAt ["sources"]).elements, (source.valueAt ["secret"]).IsRefTo secretName) ↔
      ∃ source ∈ volume.sources.getD [], ∃ keys ∈ source.secret, keys.name = secretName := by
  have htold := Fields.tells_of_read (fun _ => rfl) (fun _ => rfl) h
  exact Json.exists_element_iff_of_tellsOptional htold.1 ProjectionSource.secret_iff_of_read

/-- The references in the document of a volume are the secrets whose keys are its files. -/
theorem Volume.mem_secretNames_iff_of_read {v : Volume} (h : codec.read j = some v) :
    j.VolumeRefersTo secretName ↔ secretName ∈ v.secretNames := by
  obtain ⟨⟨hsecret, hprojected⟩, _⟩ := Fields.tells_of_read (fun _ => rfl) (fun _ => rfl) h
  rw [mem_secretNames]
  refine or_congr ?_ ?_
  · exact Json.iff_of_tellsOptional
      (P := fun v => (v.valueAt ["secretName"]).text? = some secretName)
      (Q := fun volume? => volume?.bind (·.secretName) = some secretName)
      hsecret (by simp [Json.text?]) SecretVolume.secretName_iff_of_read
  · exact Json.iff_of_tellsOptional
      (P := fun v => ∃ source ∈ (v.valueAt ["sources"]).elements,
        (source.valueAt ["secret"]).IsRefTo secretName)
      (Q := fun volume? => ∃ source ∈ (volume?.bind (·.sources)).getD [],
        ∃ keys ∈ source.secret, keys.name = secretName)
      hprojected (by simp) ProjectedVolume.sources_iff_of_read

/-- **A pod spec consumes the secrets that its document refers to**, and no others. -/
theorem PodSpec.consumes_iff_of_read {spec : PodSpec} (h : codec.read j = some spec) :
    j.PodRefersTo secretName ↔ spec.consumes secretName = true := by
  obtain ⟨⟨⟨hcontainers, hinitContainers⟩, hvolumes⟩, _⟩ :=
    Fields.tells_of_read (fun _ => rfl) (fun _ => rfl) h
  rw [consumes_iff]
  refine or_congr ?_ (or_congr ?_ ?_)
  · exact Json.iff_of_lastOf
      (P := fun v => ∃ container ∈ v.elements, container.ContainerRefersTo secretName)
      (Q := fun containers => ∃ c ∈ containers, secretName ∈ c.secretNames)
      hcontainers (by simp) fun hread =>
        Json.exists_element_iff_of_read hread Container.mem_secretNames_iff_of_read
  · exact Json.exists_element_iff_of_tellsOptional hinitContainers
      Container.mem_secretNames_iff_of_read
  · exact Json.exists_element_iff_of_tellsOptional hvolumes
      Volume.mem_secretNames_iff_of_read

theorem PodTemplate.spec_iff_of_read {t : PodTemplate} (h : codec.read j = some t) :
    (j.valueAt ["spec"]).PodRefersTo secretName ↔
      ∃ spec ∈ t.spec, spec.consumes secretName = true := by
  have htold := Fields.tells_of_read (fun _ => rfl) (fun _ => rfl) h
  exact Json.iff_exists_of_tellsOptional htold.2 Json.not_podRefersTo_null
    PodSpec.consumes_iff_of_read

variable {k : Kind}

theorem WorkloadSpec.template_iff_of_read {spec : WorkloadSpec k}
    (h : (codec k).read j = some spec) :
    (j.valueAt ["template", "spec"]).PodRefersTo secretName ↔
      ∃ pod ∈ spec.template.spec, pod.consumes secretName = true := by
  have htold := Fields.tells_of_read (fun _ => rfl) (fun _ => rfl) h
  exact Json.iff_of_lastOf (P := fun v => (v.valueAt ["spec"]).PodRefersTo secretName)
    (Q := fun t => ∃ pod ∈ t.spec, pod.consumes secretName = true) htold.1 (by simp)
    PodTemplate.spec_iff_of_read

theorem Workload.consumes_iff_of_read {w : Workload k} (h : (codec k).read j = some w) :
    (j.valueAt ["spec", "template", "spec"]).PodRefersTo secretName ↔
      w.consumes secretName = true := by
  rw [consumes_iff]
  cases j
  case obj members =>
    have htold := (read_codec_iff.1 h).2.1.2
    exact Json.iff_of_tellsOptional (j := .obj members)
      (P := fun v => (v.valueAt ["template", "spec"]).PodRefersTo secretName)
      (Q := fun spec? => ∃ pod ∈ (spec?.map (·.template)).bind (·.spec),
        pod.consumes secretName = true) htold (by simp) WorkloadSpec.template_iff_of_read
  all_goals cases h

/-! ### The order of lists -/

namespace Json.Reordered

variable {j' : Json}

theorem exists_element_iff {P : Json → Prop} (h : Reordered j j')
    (hP : ∀ {v v'}, Reordered v v' → (P v ↔ P v')) :
    (∃ v ∈ j.elements, P v) ↔ ∃ v' ∈ j'.elements, P v' := by
  constructor
  · rintro ⟨v, hv, hholds⟩
    obtain ⟨v', hv', hreordered⟩ := h.symm.exists_mem_elements hv
    exact ⟨v', hv', (hP hreordered).2 hholds⟩
  · rintro ⟨v', hv', hholds⟩
    obtain ⟨v, hv, hreordered⟩ := h.exists_mem_elements hv'
    exact ⟨v, hv, (hP hreordered).2 hholds⟩

theorem isRefTo_iff (h : Reordered j j') : j.IsRefTo secretName ↔ j'.IsRefTo secretName := by
  rw [IsRefTo, IsRefTo, (h.valueAt ["name"]).text?_eq, ne_eq, ne_eq, h.eq_null_iff]

theorem containerRefersTo_iff (h : Reordered j j') :
    j.ContainerRefersTo secretName ↔ j'.ContainerRefersTo secretName :=
  or_congr ((h.valueAt _).exists_element_iff fun hsource => (hsource.valueAt _).isRefTo_iff)
    ((h.valueAt _).exists_element_iff fun hvar => (hvar.valueAt _).isRefTo_iff)

theorem volumeRefersTo_iff (h : Reordered j j') :
    j.VolumeRefersTo secretName ↔ j'.VolumeRefersTo secretName :=
  or_congr (by rw [(h.valueAt ["secret", "secretName"]).text?_eq])
    ((h.valueAt _).exists_element_iff fun hsource => (hsource.valueAt _).isRefTo_iff)

/-- **The order of lists does not matter** for the references in a pod spec. -/
theorem podRefersTo_iff (h : Reordered j j') :
    j.PodRefersTo secretName ↔ j'.PodRefersTo secretName :=
  or_congr ((h.valueAt _).exists_element_iff containerRefersTo_iff)
    (or_congr ((h.valueAt _).exists_element_iff containerRefersTo_iff)
      ((h.valueAt _).exists_element_iff volumeRefersTo_iff))

end Json.Reordered

/-- **A workload consumes exactly the secrets that its document refers to** below the spec of its
pod template. It consumes a secret if and only if one of its containers, init containers or volumes
alone does. The order of the lists in the document does not matter, nor does anything but the names
of the secrets that are referred to. -/
theorem Workload.consumes_exactly_references {w : Workload k} (h : (codec k).read j = some w)
    (secretName : String) :
    (w.consumes secretName = true ↔
        (j.valueAt ["spec", "template", "spec"]).PodRefersTo secretName) ∧
      (w.consumes secretName = true ↔
        ∃ spec ∈ w.podSpec?, ∃ part ∈ spec.reductions, part.consumes secretName = true) ∧
      (∀ j', j.Reordered j' → ∃ w', (codec k).read j' = some w' ∧
        w'.consumes secretName = w.consumes secretName) ∧
      ∀ {k' : Kind} (w' : Workload k'),
        w'.podSpec?.map PodSpec.stripped = w.podSpec?.map PodSpec.stripped →
          w'.consumes secretName = w.consumes secretName := by
  refine ⟨(consumes_iff_of_read h).symm, ?_, ?_, fun w' hsame => consumes_congr hsame⟩
  · exact consumes_iff.trans
      (exists_congr fun _ => and_congr_right fun _ => PodSpec.consumes_iff_reductions)
  · intro j' hreordered
    obtain ⟨w', h'⟩ := exists_read_of_reordered hreordered h
    refine ⟨w', h', Bool.eq_iff_iff.2 ?_⟩
    calc w'.consumes secretName = true
        ↔ (j'.valueAt ["spec", "template", "spec"]).PodRefersTo secretName :=
          (consumes_iff_of_read h').symm
      _ ↔ (j.valueAt ["spec", "template", "spec"]).PodRefersTo secretName :=
          (hreordered.valueAt _).podRefersTo_iff.symm
      _ ↔ w.consumes secretName = true := consumes_iff_of_read h

/-- A pod spec with a list that is `null`, a reference without a name and one with two. -/
def Sample.referringPod : Json :=
  .obj [
    ("imagePullSecrets", .arr [.obj [("name", .str "registry")]]),
    ("initContainers", .null),
    ("containers", .arr [
      .obj [("name", .str "proxy"), ("envFrom", .arr [.obj [("secretRef", .obj [])]])],
      .obj [("name", .str "app"), ("env", .arr [
        .obj [("name", .str "PASSWORD"), ("valueFrom", .obj [
          ("secretKeyRef", .obj [("name", .str "old"), ("key", .str "password"),
            ("name", .str "db")])])]])]])]

theorem Sample.consumes_exactly_references_of_referringPod :
    ∃ w, (Workload.codec .statefulSet).read
        (workload "StatefulSet" "shop" "api" .null .null referringPod) = some w ∧
      (w.consumes "db" = true ∧ referringPod.PodRefersTo "db") ∧
      (w.consumes "" = true ∧ referringPod.PodRefersTo "") ∧
      (w.consumes "old" = false ∧ ¬ referringPod.PodRefersTo "old") ∧
      (w.consumes "registry" = false ∧ ¬ referringPod.PodRefersTo "registry") := by
  have hanswers : ((Workload.codec .statefulSet).read
      (workload "StatefulSet" "shop" "api" .null .null referringPod)).any (fun w =>
        w.consumes "db" && w.consumes "" &&
          !w.consumes "old" && !w.consumes "registry") = true := by
    decide +kernel
  obtain ⟨w, h, hanswers⟩ := (Option.any_eq_true ..).1 hanswers
  have hexactly (secretName : String) :
      w.consumes secretName = true ↔ referringPod.PodRefersTo secretName :=
    (Workload.consumes_exactly_references h secretName).1
  simp only [Bool.and_eq_true, Bool.not_eq_true'] at hanswers
  obtain ⟨⟨⟨hdb, hempty⟩, hold⟩, hregistry⟩ := hanswers
  refine ⟨w, h, ⟨hdb, (hexactly _).1 hdb⟩, ⟨hempty, (hexactly _).1 hempty⟩, ⟨hold, ?_⟩,
    hregistry, ?_⟩
  · rw [← hexactly, hold]
    decide
  · rw [← hexactly, hregistry]
    decide

end SecretRotation
