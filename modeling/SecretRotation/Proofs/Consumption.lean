import Mathlib.Data.List.Basic
import SecretRotation.Consumption

/-!
# What makes a workload consume a secret

A pod spec consumes a secret if one of its containers, init containers or volumes does so alone, and
nothing counts but the names of the secrets that these refer to. A pod spec is *stripped* by
forgetting everything else.

## Main definitions

* `PodSpec.reductions`: the pod specs with one part of a pod spec each.
* `PodSpec.stripped`: a pod spec of which nothing is left but the names of secrets, each in its
  place.

## Main results

* `Container.mem_secretNames`, `Volume.mem_secretNames`, `PodSpec.consumes_iff`: the references that
  count.
* `PodSpec.consumes_iff_reductions`: one part is enough, and one part there has to be.
* `PodSpec.consumes_stripped`, `Workload.consumes_congr`: nothing else counts.
-/

namespace SecretRotation

variable {secretName : String}

/-! ### The references that count -/

theorem Container.mem_secretNames {c : Container} : secretName ∈ c.secretNames ↔
    (∃ source ∈ c.envFrom.getD [], ∃ ref ∈ source.secretRef, ref.name = secretName) ∨
      ∃ var ∈ c.env.getD [], ∃ ref ∈ var.valueFrom.bind (·.secretKeyRef),
        ref.name = secretName := by
  simp only [secretNames, wholeSecretNames, keyedSecretNames, List.mem_append, List.mem_filterMap,
    Option.map_eq_some_iff, Option.mem_def]

theorem Volume.mem_secretNames {v : Volume} : secretName ∈ v.secretNames ↔
    v.secret.bind (·.secretName) = some secretName ∨
      ∃ source ∈ (v.projected.bind (·.sources)).getD [], ∃ keys ∈ source.secret,
        keys.name = secretName := by
  simp only [secretNames, projectedSecretNames, List.mem_append, List.mem_filterMap,
    Option.mem_toList, Option.map_eq_some_iff, Option.mem_def]

theorem PodSpec.consumes_iff {spec : PodSpec} : spec.consumes secretName = true ↔
    (∃ c ∈ spec.containers, secretName ∈ c.secretNames) ∨
      (∃ c ∈ spec.initContainers.getD [], secretName ∈ c.secretNames) ∨
        ∃ v ∈ spec.volumes.getD [], secretName ∈ v.secretNames := by
  simp only [consumes, secretNames, startedContainers, List.contains_iff_mem, List.flatMap_append,
    List.mem_append, List.mem_flatMap, or_assoc]

theorem Workload.consumes_iff {k : Kind} {w : Workload k} : w.consumes secretName = true ↔
    ∃ spec ∈ w.podSpec?, spec.consumes secretName = true := by
  rw [consumes]
  cases w.podSpec? <;> simp

/-! ### One part at a time -/

namespace PodSpec

/-- A pod spec without containers, init containers and volumes. -/
def bare (spec : PodSpec) : PodSpec :=
  { spec with containers := [], initContainers := none, volumes := none }

/-- The pod specs with one container, one init container or one volume of a pod spec each, and with
no other one. -/
def reductions (spec : PodSpec) : List PodSpec :=
  spec.containers.map (fun c => { spec.bare with containers := [c] }) ++
    (spec.initContainers.getD []).map (fun c => { spec.bare with initContainers := some [c] }) ++
      (spec.volumes.getD []).map fun v => { spec.bare with volumes := some [v] }

theorem mem_reductions {spec part : PodSpec} : part ∈ spec.reductions ↔
    (∃ c ∈ spec.containers, { spec.bare with containers := [c] } = part) ∨
      (∃ c ∈ spec.initContainers.getD [], { spec.bare with initContainers := some [c] } = part) ∨
        ∃ v ∈ spec.volumes.getD [], { spec.bare with volumes := some [v] } = part := by
  simp only [reductions, List.mem_append, List.mem_map, or_assoc]

/-- **One part is enough** to consume a secret, and one part there has to be. -/
theorem consumes_iff_reductions {spec : PodSpec} : spec.consumes secretName = true ↔
    ∃ part ∈ spec.reductions, part.consumes secretName = true := by
  constructor
  · intro h
    rcases consumes_iff.1 h with ⟨c, hc, hname⟩ | ⟨c, hc, hname⟩ | ⟨v, hv, hname⟩
    · exact ⟨_, mem_reductions.2 (.inl ⟨c, hc, rfl⟩), by simpa [consumes_iff, bare] using hname⟩
    · exact ⟨_, mem_reductions.2 (.inr (.inl ⟨c, hc, rfl⟩)),
        by simpa [consumes_iff, bare] using hname⟩
    · exact ⟨_, mem_reductions.2 (.inr (.inr ⟨v, hv, rfl⟩)),
        by simpa [consumes_iff, bare] using hname⟩
  · rintro ⟨part, hpart, h⟩
    rcases mem_reductions.1 hpart with ⟨c, hc, rfl⟩ | ⟨c, hc, rfl⟩ | ⟨v, hv, rfl⟩
    · exact consumes_iff.2 (.inl ⟨c, hc, by simpa [consumes_iff, bare] using h⟩)
    · exact consumes_iff.2 (.inr (.inl ⟨c, hc, by simpa [consumes_iff, bare] using h⟩))
    · exact consumes_iff.2 (.inr (.inr ⟨v, hv, by simpa [consumes_iff, bare] using h⟩))

end PodSpec

/-! ### Nothing else counts -/

/-- The secret that a variable refers to, if any. -/
def EnvVar.stripped (var : EnvVar) : EnvVar where
  valueFrom := var.valueFrom.map fun source =>
    { secretKeyRef := source.secretKeyRef.map fun ref => { name := ref.name } }

/-- The secret that a source of variables refers to, if any. -/
def EnvFrom.stripped (source : EnvFrom) : EnvFrom where
  secretRef := source.secretRef.map fun ref => { name := ref.name }

/-- The secrets that a container refers to. -/
def Container.stripped (c : Container) : Container where
  env := c.env.map (·.map EnvVar.stripped)
  envFrom := c.envFrom.map (·.map EnvFrom.stripped)

/-- The secret that a source of a projected volume refers to, if any. -/
def ProjectionSource.stripped (source : ProjectionSource) : ProjectionSource where
  secret := source.secret.map fun keys => { name := keys.name }

/-- The secrets that a volume refers to. -/
def Volume.stripped (v : Volume) : Volume where
  secret := v.secret.map fun volume => { secretName := volume.secretName }
  projected := v.projected.map fun volume =>
    { sources := volume.sources.map (·.map ProjectionSource.stripped) }

/-- A pod spec of which nothing is left but the names of the secrets that its containers, its init
containers and its volumes refer to, each in its place. -/
def PodSpec.stripped (spec : PodSpec) : PodSpec where
  containers := spec.containers.map Container.stripped
  initContainers := spec.initContainers.map (·.map Container.stripped)
  volumes := spec.volumes.map (·.map Volume.stripped)

theorem EnvVar.secret_stripped (var : EnvVar) :
    (var.stripped.valueFrom.bind (·.secretKeyRef)).map (·.name) =
      (var.valueFrom.bind (·.secretKeyRef)).map (·.name) := by
  rcases var with ⟨_ | ⟨_ | ref, _⟩, _⟩ <;> rfl

theorem EnvFrom.secret_stripped (source : EnvFrom) :
    source.stripped.secretRef.map (·.name) = source.secretRef.map (·.name) := by
  rcases source with ⟨_ | ref, _⟩ <;> rfl

theorem ProjectionSource.secret_stripped (source : ProjectionSource) :
    source.stripped.secret.map (·.name) = source.secret.map (·.name) := by
  rcases source with ⟨_ | keys, _⟩ <;> rfl

/-- What is collected of the items of a list that may be missing, each of them changed before. -/
theorem filterMap_getD_map {α β : Type} {f : α → α} {collect : α → Option β}
    (h : ∀ a, collect (f a) = collect a) (as? : Option (List α)) :
    ((as?.map (·.map f)).getD []).filterMap collect = (as?.getD []).filterMap collect := by
  cases as? with
  | none => rfl
  | some as => simp [List.filterMap_map, h]

@[simp] theorem Container.secretNames_stripped (c : Container) :
    c.stripped.secretNames = c.secretNames :=
  congrArg₂ (· ++ ·) (filterMap_getD_map EnvFrom.secret_stripped c.envFrom)
    (filterMap_getD_map EnvVar.secret_stripped c.env)

@[simp] theorem Volume.secretNames_stripped (v : Volume) :
    v.stripped.secretNames = v.secretNames := by
  have hdirect : v.stripped.secret.bind (·.secretName) = v.secret.bind (·.secretName) := by
    rw [stripped]
    cases v.secret <;> rfl
  have hsources : v.stripped.projected.bind (·.sources) =
      (v.projected.bind (·.sources)).map (·.map ProjectionSource.stripped) := by
    rw [stripped]
    cases v.projected <;> rfl
  rw [secretNames, projectedSecretNames, hdirect, hsources,
    filterMap_getD_map ProjectionSource.secret_stripped, secretNames, projectedSecretNames]

/-- **A stripped pod spec consumes the same secrets.** -/
theorem PodSpec.consumes_stripped (spec : PodSpec) :
    spec.stripped.consumes secretName = spec.consumes secretName := by
  rw [Bool.eq_iff_iff, consumes_iff, consumes_iff, stripped]
  cases spec.initContainers <;> cases spec.volumes <;> simp

/-- Containers that are added to a running pod are forgotten, and so are the secrets with which
images are pulled. -/
example (spec : PodSpec) (others : Schema.otherOfPodSpec.Value) :
    { spec with others := others }.stripped = spec.stripped := rfl

/-- **Nothing else counts**: workloads whose pod specs are stripped to the same consume the same
secrets. -/
theorem Workload.consumes_congr {k k' : Kind} {w : Workload k} {w' : Workload k'}
    (h : w'.podSpec?.map PodSpec.stripped = w.podSpec?.map PodSpec.stripped) :
    w'.consumes secretName = w.consumes secretName := by
  have hstripped {k : Kind} (w : Workload k) : w.consumes secretName =
      (w.podSpec?.map PodSpec.stripped).any fun spec => spec.consumes secretName := by
    rw [consumes]
    cases w.podSpec? with
    | none => rfl
    | some spec => exact spec.consumes_stripped.symm
  rw [hstripped, hstripped, h]

end SecretRotation
