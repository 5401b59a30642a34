import SecretRotation.Proofs.Cluster.RoundTrip
import SecretRotation.Proofs.Stamping

/-!
# What is lost in writing

All that is lost of a cluster object when it is written is the fractions of a second of its
timestamps. No pass goes by these: a workload as written has the identity, the stamps and the
secrets that the workload has, and stamping it is the same before and after. Likewise for secrets.

## Main results

* `Workload.asWritten_asWritten`, `Workload.write_asWritten`: nothing is lost a second time.
* `Workload.asWritten_stamped`: stamping a workload before and after it is written.
* `Workload.consumes_asWritten`, `Workload.isCurrent_asWritten`, `Secret.target?_asWritten`: what is
  kept.
-/

namespace SecretRotation

open Json (Codec)

/-! ### Metadata -/

namespace ObjectMeta

@[simp] theorem annotation?_asWritten (m : ObjectMeta) (key : String) :
    m.asWritten.annotation? key = m.annotation? key := rfl

@[simp] theorem identity_asWritten (m : ObjectMeta) : m.asWritten.identity = m.identity := rfl

theorem asWritten_annotate (m : ObjectMeta) (key value : String) :
    (m.annotate key value).asWritten = m.asWritten.annotate key value := rfl

end ObjectMeta

/-! ### Secrets -/

namespace Secret

@[simp] theorem ref_asWritten (s : Secret) : s.asWritten.ref = s.ref := rfl

@[simp] theorem stamp?_asWritten (s : Secret) : s.asWritten.stamp? = s.stamp? := rfl

@[simp] theorem target?_asWritten (s : Secret) : s.asWritten.target? = s.target? := rfl

end Secret

/-! ### Workloads -/

/-- Nothing is lost of the names of secrets that a volume refers to. -/
@[simp] theorem Volume.secretNames_asWritten (v : Volume) :
    v.asWritten.secretNames = v.secretNames := rfl

@[simp] theorem PodSpec.consumes_asWritten (spec : PodSpec) (secretName : String) :
    spec.asWritten.consumes secretName = spec.consumes secretName := by
  have hvolumes : (spec.asWritten.volumes.getD []).flatMap Volume.secretNames =
      (spec.volumes.getD []).flatMap Volume.secretNames := by
    rw [asWritten]
    cases spec.volumes with
    | none => rfl
    | some volumes => simp [List.flatMap_map]
  rw [consumes, secretNames, hvolumes]
  rfl

theorem WorkloadSpec.asWritten_blank (k : Kind) : (blank k).asWritten = blank k := by
  cases k <;> rfl

namespace Workload

variable {k : Kind}

/-- Nothing is lost a second time. -/
@[simp] theorem asWritten_asWritten (w : Workload k) : w.asWritten.asWritten = w.asWritten :=
  (settles_codec k).idem w

/-- A workload is written like the workload as written. -/
@[simp] theorem write_asWritten (w : Workload k) :
    (codec k).write w.asWritten = (codec k).write w :=
  (settles_codec k).write_settled w

@[simp] theorem identity_asWritten (w : Workload k) : w.asWritten.identity = w.identity := rfl

@[simp] theorem title_asWritten (w : Workload k) : w.asWritten.title = w.title := rfl

@[simp] theorem optsIn_asWritten (w : Workload k) : w.asWritten.optsIn = w.optsIn := rfl

@[simp] theorem consumes_asWritten (w : Workload k) (secretName : String) :
    w.asWritten.consumes secretName = w.consumes secretName := by
  rw [consumes, consumes, podSpec?, podSpec?, template?, template?, asWritten]
  rcases w.spec with _ | ⟨⟨_, _ | pod⟩, _⟩
  · rfl
  · rfl
  · exact pod.consumes_asWritten secretName

@[simp] theorem stamp?_asWritten (w : Workload k) (key : String) :
    w.asWritten.stamp? key = w.stamp? key := rfl

@[simp] theorem templateStamp?_asWritten (w : Workload k) (key : String) :
    w.asWritten.templateStamp? key = w.templateStamp? key := by
  rw [templateStamp?, templateStamp?, template?, template?, asWritten]
  rcases w.spec with _ | ⟨⟨_ | m, _⟩, _⟩ <;> rfl

@[simp] theorem isCurrent_asWritten (w : Workload k) (t : Target) :
    w.asWritten.IsCurrent t ↔ w.IsCurrent t := by
  rw [IsCurrent, IsCurrent, stamp?_asWritten, templateStamp?_asWritten]

/-- **Stamping a workload before it is written** is like stamping the workload as written. -/
theorem asWritten_stamped (w : Workload k) (key : String) (stamp : Stamp) :
    (w.stamped key stamp).asWritten = w.asWritten.stamped key stamp := by
  have hmeta (m? : Option ObjectMeta) :
      (m?.map ObjectMeta.asWritten).getD {} = (m?.getD {}).asWritten := by
    cases m? <;> rfl
  have hspec (spec? : Option (WorkloadSpec k)) :
      (spec?.map WorkloadSpec.asWritten).getD (.blank k) =
        (spec?.getD (.blank k)).asWritten := by
    cases spec? with
    | none => exact (WorkloadSpec.asWritten_blank k).symm
    | some spec => rfl
  simp only [stamped, mapTemplate, asWritten, hspec, WorkloadSpec.asWritten,
    PodTemplate.asWritten, hmeta, Option.map_some, ObjectMeta.asWritten_annotate]

/-- A workload of which nothing is lost can be stamped without anything being lost. -/
theorem asWritten_stamped_of_eq {w : Workload k} (h : w.asWritten = w) (key : String)
    (stamp : Stamp) : (w.stamped key stamp).asWritten = w.stamped key stamp := by
  rw [asWritten_stamped, h]

end Workload

/-- A workload of some kind with all timestamps cut to whole seconds. -/
def AnyWorkload.asWritten (w : AnyWorkload) : AnyWorkload := ⟨w.1, w.2.asWritten⟩

end SecretRotation
