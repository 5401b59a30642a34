import SecretRotation.Pass.Selection
import SecretRotation.Proofs.OrderedMap

/-!
# Stamping a workload

A stamp is written in two places, under a key made from the name of the secret. It is read back from
both, stamps under other keys stay as they are, and so does all else that decides whether and where
a workload takes part in a pass: whether it opted in, what it consumes, and its identity.

## Main definitions

* `Workload.IsCurrent`: both stamps of a workload are those of a target.
* `Workload.SameBut`: workloads that differ at most in their stamps under a key.

## Main results

* `stampKey_injective`, `stampKey_ne_optInKey`: the keys of stamps do not collide.
* `Workload.stamp?_stamped`, `Workload.templateStamp?_stamped`: reading after writing.
* `Workload.stamped_comm`: stamps of different secrets can be written in either order.
* `Workload.isCurrent_stamped`, `Workload.isCurrent_stamped_iff`: what stamping means for a target.
* `Workload.sameBut_stamped`: stamping changes nothing else.
-/

namespace SecretRotation

/-! ### Keys -/

/-- Different secrets have different keys. -/
theorem stampKey_injective {a b : String} (h : stampKey a = stampKey b) : a = b := by
  simpa [stampKey] using h

/-- No stamp is mistaken for the consent of a workload. -/
theorem stampKey_ne_optInKey (name : String) : stampKey name ≠ optInKey := by
  intro h
  have hlist := congrArg String.toList h
  simp [stampKey, stampKeyStem, optInKey] at hlist

/-- The key that all secrets may use is not the key of any secret. -/
theorem stampKey_ne_versionKey (name : String) : stampKey name ≠ versionKey := by
  intro h
  have hlist := congrArg String.toList h
  simp [stampKey, stampKeyStem, versionKey] at hlist

/-! ### Targets -/

theorem Secret.of_target?_eq_some {s : Secret} {t : Target} (h : s.target? = some t) :
    s.knownAs = t.name ∧ s.stamp? = some t.stamp := by
  obtain ⟨stamp, hstamp, rfl⟩ := Option.map_eq_some_iff.1 h
  exact ⟨rfl, hstamp⟩

/-! ### Metadata -/

namespace ObjectMeta

theorem annotation?_annotate (m : ObjectMeta) (key key' value : String) :
    (m.annotate key value).annotation? key' =
      if key' = key then some value else m.annotation? key' := by
  cases h : m.annotations <;> simp [annotation?, annotate, h, OrderedMap.get?_insert]

/-- Annotations under different keys can be set in either order. -/
theorem annotate_comm (m : ObjectMeta) {key key' : String} (h : key ≠ key')
    (value value' : String) :
    (m.annotate key value).annotate key' value' = (m.annotate key' value').annotate key value := by
  simp only [annotate, Option.getD_some, OrderedMap.insert_comm _ h]

end ObjectMeta

/-! ### Workloads -/

namespace Workload

variable {k : Kind}

@[simp] theorem metadata_stamped (w : Workload k) (key : String) (stamp : Stamp) :
    (w.stamped key stamp).metadata = w.metadata.annotate key stamp.text := rfl

@[simp] theorem identity_stamped (w : Workload k) (key : String) (stamp : Stamp) :
    (w.stamped key stamp).identity = w.identity := rfl

/-- Reading the stamp of a workload after one has been written. -/
theorem stamp?_stamped (w : Workload k) (key key' : String) (stamp : Stamp) :
    (w.stamped key stamp).stamp? key' = if key' = key then some stamp else w.stamp? key' := by
  simp only [stamp?, metadata_stamped, ObjectMeta.annotation?_annotate]
  split <;> rfl

/-- Reading the stamp of a pod template after one has been written. -/
theorem templateStamp?_stamped (w : Workload k) (key key' : String) (stamp : Stamp) :
    (w.stamped key stamp).templateStamp? key' =
      if key' = key then some stamp else w.templateStamp? key' := by
  have hread : (w.stamped key stamp).templateStamp? key' =
      (((((w.spec.getD (.blank k)).template.metadata.getD {}).annotate key stamp.text).annotation?
        key').map .mk) := rfl
  rw [hread, ObjectMeta.annotation?_annotate]
  split
  · rfl
  · cases hspec : w.spec with
    | none => simp [templateStamp?, template?, hspec, WorkloadSpec.blank, ObjectMeta.annotation?]
    | some spec =>
      cases hmeta : spec.template.metadata <;>
        simp [templateStamp?, template?, hspec, hmeta, ObjectMeta.annotation?]

/-- Stamps under different keys can be written in either order. -/
theorem stamped_comm (w : Workload k) {key key' : String} (h : key ≠ key') (stamp stamp' : Stamp) :
    (w.stamped key stamp).stamped key' stamp' = (w.stamped key' stamp').stamped key stamp := by
  simp only [stamped, mapTemplate, Option.getD_some, ObjectMeta.annotate_comm _ h]

@[simp] theorem optsIn_stamped (w : Workload k) (secretName : String) (stamp : Stamp) :
    (w.stamped (stampKey secretName) stamp).optsIn = w.optsIn := by
  simp only [optsIn, metadata_stamped, ObjectMeta.annotation?_annotate]
  rw [if_neg (stampKey_ne_optInKey secretName).symm]

@[simp] theorem consumes_stamped (w : Workload k) (key : String) (stamp : Stamp)
    (secretName : String) : (w.stamped key stamp).consumes secretName = w.consumes secretName := by
  cases hspec : w.spec <;>
    simp [consumes, podSpec?, template?, stamped, mapTemplate, hspec, WorkloadSpec.blank]

/-! ### Current workloads -/

/-- Both stamps of a workload are those of a target. -/
def IsCurrent (w : Workload k) (t : Target) : Prop :=
  w.stamp? t.key = some t.stamp ∧ w.templateStamp? t.key = some t.stamp

instance (w : Workload k) (t : Target) : Decidable (w.IsCurrent t) :=
  inferInstanceAs (Decidable (_ ∧ _))

theorem verdict_of_isCurrent {w : Workload k} {t : Target} (h : w.IsCurrent t) :
    w.verdict t = .current :=
  if_pos h

theorem verdict_of_not_isCurrent {w : Workload k} {t : Target} (h : ¬ w.IsCurrent t) :
    w.verdict t = .outdated (w.stamp? t.key) (w.stamped t.key t.stamp) :=
  if_neg h

/-- A workload that has been given the stamps of a target is current. -/
theorem isCurrent_stamped (w : Workload k) (t : Target) :
    (w.stamped t.key t.stamp).IsCurrent t := by
  simp [IsCurrent, stamp?_stamped, templateStamp?_stamped]

/-- Stamps of one secret do not make a workload current or outdated for another. -/
theorem isCurrent_stamped_iff (w : Workload k) {t : Target} {key : String} (h : t.key ≠ key)
    (stamp : Stamp) : (w.stamped key stamp).IsCurrent t ↔ w.IsCurrent t := by
  simp [IsCurrent, stamp?_stamped, templateStamp?_stamped, h]

theorem stamped_ne_self {w : Workload k} {t : Target} (h : ¬ w.IsCurrent t) :
    w.stamped t.key t.stamp ≠ w :=
  fun heq => h (heq ▸ w.isCurrent_stamped t)

end Workload

/-! ### What stamping leaves alone -/

/-- Metadata that differ at most in the annotation under a key. -/
structure ObjectMeta.SameBut (key : String) (m m' : ObjectMeta) : Prop where
  rest_eq : { m' with annotations := m.annotations } = m
  annotation?_eq {key' : String} (h : key' ≠ key) : m'.annotation? key' = m.annotation? key'

theorem ObjectMeta.sameBut_annotate (m : ObjectMeta) (key value : String) :
    m.SameBut key (m.annotate key value) where
  rest_eq := rfl
  annotation?_eq h := by rw [annotation?_annotate, if_neg h]

namespace Workload

variable {k : Kind}

/-- Workloads that differ at most in the annotation under a key, in their own metadata and in those
of their pod templates. Metadata that a template does not have count as empty. -/
structure SameBut (key : String) (w w' : Workload k) : Prop where
  metadata : w.metadata.SameBut key w'.metadata
  status_eq : w'.status = w.status
  spec : ∃ spec spec', w.spec = some spec ∧ w'.spec = some spec' ∧
    spec'.others = spec.others ∧ spec'.template.spec = spec.template.spec ∧
    (spec.template.metadata.getD {}).SameBut key (spec'.template.metadata.getD {})

/-- A stamp changes nothing but the two annotations under its key. -/
theorem sameBut_stamped {w : Workload k} (h : w.spec.isSome) (key : String) (stamp : Stamp) :
    w.SameBut key (w.stamped key stamp) where
  metadata := w.metadata.sameBut_annotate key stamp.text
  status_eq := rfl
  spec := by
    obtain ⟨spec, hspec⟩ := Option.isSome_iff_exists.1 h
    refine ⟨spec, { spec with template := { spec.template with
      metadata := some ((spec.template.metadata.getD {}).annotate key stamp.text) } },
      hspec, ?_, rfl, rfl, ObjectMeta.sameBut_annotate _ key stamp.text⟩
    rw [stamped, mapTemplate]
    simp only [hspec, Option.getD_some]

/-- The stamps under all other keys are the same. -/
theorem SameBut.stamps_eq {key key' : String} {w w' : Workload k} (h : w.SameBut key w')
    (hkey : key' ≠ key) :
    w'.stamp? key' = w.stamp? key' ∧ w'.templateStamp? key' = w.templateStamp? key' := by
  obtain ⟨spec, spec', hspec, hspec', -, -, htemplate⟩ := h.spec
  have hread (m? : Option ObjectMeta) : m?.bind (·.annotation? key') =
      (m?.getD {}).annotation? key' := by
    cases m? <;> rfl
  refine ⟨congrArg (Option.map _) (h.metadata.annotation?_eq hkey), ?_⟩
  rw [templateStamp?, templateStamp?, template?, template?, hspec, hspec', Option.map_some,
    Option.map_some, Option.bind_some, Option.bind_some, hread, hread,
    htemplate.annotation?_eq hkey]

/-- A workload that needs a secret has a spec. -/
theorem isSome_spec_of_consumes {w : Workload k} {secretName : String}
    (h : w.consumes secretName = true) : w.spec.isSome := by
  rw [consumes, podSpec?, template?] at h
  cases hspec : w.spec with
  | none =>
    rw [hspec] at h
    cases h
  | some spec => rfl

end Workload

end SecretRotation
