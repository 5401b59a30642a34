import SecretRotation.Proofs.Stamping

/-!
# The laws of a stamp

Writing a stamp is setting a key in two maps at once: the annotations of the workload and those of
its pod template. Either map may be missing, and so may what it is kept in. What is missing is
created with its default content first (`Workload.completed`), and after that the laws of a map
that is set at a key hold of the two places together.

## Main definitions

* `Workload.completed`: the workload with everything in place that a stamp is written to.
* `Workload.unstamped`: the workload without the two annotations under a key.

## Main results

* `Workload.stamped_stamped`, `Workload.stamped_eq_self`: of two stamps under a key the later one
  stands, and a stamp that both places already have changes nothing.
* `Workload.unstamped_stamped`: without the stamp, a stamped workload is the completed one.
* `Workload.stamped_laws`: stamping as the update of a map in two places.
-/

namespace SecretRotation

/-! ### Metadata -/

namespace ObjectMeta

/-- The metadata with a map of annotations, an empty one if there was none. -/
def completed (m : ObjectMeta) : ObjectMeta :=
  { m with annotations := some (m.annotations.getD .empty) }

/-- The metadata without the annotation under a key. -/
def unannotated (m : ObjectMeta) (key : String) : ObjectMeta :=
  { m with annotations := m.annotations.map (·.erase key) }

/-- The later of two annotations under a key stands. -/
theorem annotate_annotate (m : ObjectMeta) (key value value' : String) :
    (m.annotate key value).annotate key value' = m.annotate key value' := by
  simp only [annotate, Option.getD_some, OrderedMap.insert_insert]

/-- An annotation can be set again to the value that it has. -/
theorem annotate_eq_self {m : ObjectMeta} {key value : String}
    (h : m.annotation? key = some value) : m.annotate key value = m := by
  obtain ⟨annotations, hannotations, hvalue⟩ := Option.bind_eq_some_iff.1 h
  have hinsert : annotations.insert key value = annotations := OrderedMap.insert_eq_self hvalue
  rw [annotate, hannotations, Option.getD_some, hinsert, ← hannotations]

/-- Without the annotation that was set, all is as before but that there is a map. -/
theorem unannotated_annotate (m : ObjectMeta) (key value : String) :
    (m.annotate key value).unannotated key = m.completed.unannotated key := by
  simp only [annotate, unannotated, completed, Option.map_some, OrderedMap.erase_insert]

theorem completed_eq_self {m : ObjectMeta} (h : m.annotations.isSome) : m.completed = m := by
  obtain ⟨annotations, hannotations⟩ := Option.isSome_iff_exists.1 h
  rw [completed, hannotations, Option.getD_some, ← hannotations]

end ObjectMeta

/-! ### Workloads -/

namespace Workload

variable {k : Kind}

/-- The workload with everything in place that a stamp is written to. A missing spec is the one that
is created for the kind, missing metadata of the template have no entry, and a missing map of
annotations is empty. -/
def completed (w : Workload k) : Workload k :=
  let spec := w.spec.getD (.blank k)
  { w with
    metadata := w.metadata.completed
    spec := some { spec with template := { spec.template with
      metadata := some (spec.template.metadata.getD {}).completed } } }

/-- The workload without the annotations under a key, its own and that of its pod template. -/
def unstamped (w : Workload k) (key : String) : Workload k :=
  { w with
    metadata := w.metadata.unannotated key
    spec := w.spec.map fun spec => { spec with template := { spec.template with
      metadata := spec.template.metadata.map (·.unannotated key) } } }

/-- The later of two stamps under a key stands. -/
theorem stamped_stamped (w : Workload k) (key : String) (stamp stamp' : Stamp) :
    (w.stamped key stamp).stamped key stamp' = w.stamped key stamp' := by
  simp only [stamped, mapTemplate, Option.getD_some, ObjectMeta.annotate_annotate]

/-- A stamp that both places have already changes nothing: nothing was missing. -/
theorem stamped_eq_self {w : Workload k} {key : String} {stamp : Stamp}
    (hown : w.stamp? key = some stamp) (htemplate : w.templateStamp? key = some stamp) :
    w.stamped key stamp = w := by
  obtain ⟨value, hvalue, rfl⟩ := Option.map_eq_some_iff.1 hown
  obtain ⟨value', hread, hstamp⟩ := Option.map_eq_some_iff.1 htemplate
  obtain rfl : value' = value := congrArg Stamp.text hstamp
  obtain ⟨m, hm, hannotation⟩ := Option.bind_eq_some_iff.1 hread
  obtain ⟨template, htemplate, hmetadata⟩ := Option.bind_eq_some_iff.1 hm
  obtain ⟨spec, hspec, rfl⟩ := Option.map_eq_some_iff.1 htemplate
  have hnew : { spec.template with metadata := some (m.annotate key value') } = spec.template := by
    rw [ObjectMeta.annotate_eq_self hannotation, ← hmetadata]
  rw [stamped, mapTemplate]
  simp only [hspec, Option.getD_some, hmetadata, hnew, ObjectMeta.annotate_eq_self hvalue]
  rw [← hspec]

/-- Without the stamp that was written, all is as before but that nothing is missing. -/
theorem unstamped_stamped (w : Workload k) (key : String) (stamp : Stamp) :
    (w.stamped key stamp).unstamped key = w.completed.unstamped key := by
  simp only [stamped, completed, unstamped, mapTemplate, Option.map_some,
    ObjectMeta.unannotated_annotate]

/-- A workload that lacks nothing is complete as it is. -/
theorem completed_eq_self {w : Workload k} {spec : WorkloadSpec k} {m : ObjectMeta}
    (hspec : w.spec = some spec) (hm : spec.template.metadata = some m)
    (hown : w.metadata.annotations.isSome) (htemplate : m.annotations.isSome) :
    w.completed = w := by
  have hnew : { spec.template with metadata := some m.completed } = spec.template := by
    rw [ObjectMeta.completed_eq_self htemplate, ← hm]
  rw [completed]
  simp only [hspec, Option.getD_some, hm, hnew, ObjectMeta.completed_eq_self hown]
  rw [← hspec]

@[simp] theorem title_stamped (w : Workload k) (key : String) (stamp : Stamp) :
    (w.stamped key stamp).title = w.title := rfl

/-- **Stamping is the update of a map in two places.** What is written is read in both, all other
keys stay as they are in both; the later of two stamps under a key stands, stamps under different
keys can be written in either order, and a stamp that both places have already changes nothing. The
rest of the workload is as before, but that whatever was missing on the way to the two maps is there
with its default content. Under the key of a secret, nothing changes that a pass goes by: not the
consent of the workload, not the secrets that it consumes, not its title, and not its stamps of any
other secret. -/
theorem stamped_laws (w : Workload k) (key : String) (stamp : Stamp) :
    ((w.stamped key stamp).stamp? key = some stamp ∧
      (w.stamped key stamp).templateStamp? key = some stamp) ∧
    (∀ key', key' ≠ key →
      (w.stamped key stamp).stamp? key' = w.stamp? key' ∧
      (w.stamped key stamp).templateStamp? key' = w.templateStamp? key') ∧
    (∀ stamp', (w.stamped key stamp).stamped key stamp' = w.stamped key stamp') ∧
    (∀ key' stamp', key' ≠ key →
      (w.stamped key stamp).stamped key' stamp' = (w.stamped key' stamp').stamped key stamp) ∧
    (w.stamp? key = some stamp → w.templateStamp? key = some stamp → w.stamped key stamp = w) ∧
    (w.stamped key stamp).unstamped key = w.completed.unstamped key ∧
    (∀ spec m, w.spec = some spec → spec.template.metadata = some m →
      w.metadata.annotations.isSome → m.annotations.isSome → w.completed = w) ∧
    (∀ secretName, key = stampKey secretName →
      (w.stamped key stamp).optsIn = w.optsIn ∧
      (∀ other, (w.stamped key stamp).consumes other = w.consumes other) ∧
      (w.stamped key stamp).title = w.title ∧
      (∀ other, other ≠ secretName →
        (w.stamped key stamp).stamp? (stampKey other) = w.stamp? (stampKey other) ∧
        (w.stamped key stamp).templateStamp? (stampKey other) =
          w.templateStamp? (stampKey other))) := by
  have hother : ∀ key', key' ≠ key →
      (w.stamped key stamp).stamp? key' = w.stamp? key' ∧
      (w.stamped key stamp).templateStamp? key' = w.templateStamp? key' := fun key' h =>
    ⟨by rw [stamp?_stamped, if_neg h], by rw [templateStamp?_stamped, if_neg h]⟩
  refine ⟨⟨by rw [stamp?_stamped, if_pos rfl], by rw [templateStamp?_stamped, if_pos rfl]⟩, hother,
    w.stamped_stamped key stamp, fun key' stamp' h => w.stamped_comm h.symm stamp stamp',
    stamped_eq_self, w.unstamped_stamped key stamp, fun spec m => completed_eq_self, ?_⟩
  rintro secretName rfl
  exact ⟨w.optsIn_stamped secretName stamp, w.consumes_stamped _ stamp,
    w.title_stamped _ stamp, fun other hne => hother _ fun hkey => hne (stampKey_injective hkey)⟩

end Workload

end SecretRotation
