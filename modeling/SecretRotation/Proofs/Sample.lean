import SecretRotation.Consumption
import SecretRotation.Proofs.Stamping
import SecretRotation.Sample

/-!
# Sample objects

A deployment that takes part in passes, and the managed secret that it consumes. A stateful set that
takes part, too, as a server may deliver it: it is written in other ways than it was delivered.

## Main definitions

* `Sample.consumer`: a deployment that takes part.
* `Sample.preciseDocument`: a stateful set as it is delivered; `Sample.precise`, as it is read.

## Main results

* `Sample.annotation?_consumer`, `Sample.consumes_consumer`: it takes part.
* `Sample.not_isCurrent_consumer`: it has no stamps yet.
* `Sample.target?_managedSecret`: what a managed secret says.
-/

namespace SecretRotation.Sample

/-- A deployment that takes part and has all keys of a secret in its environment. -/
def consumer (ns name secretName : String) : Workload .deployment where
  metadata := {
    name := some name
    ns := some ns
    annotations := some (OrderedMap.empty.insert optInKey "true") }
  spec := some {
    template := {
      spec := some {
        containers := [{ envFrom := some [{ secretRef := some { name := secretName } }] }] } } }

theorem annotation?_consumer (ns name secretName : String) :
    (consumer ns name secretName).metadata.annotation? optInKey = some "true" :=
  (OrderedMap.get?_insert ..).trans (if_pos rfl)

theorem consumes_consumer (ns name secretName : String) :
    (consumer ns name secretName).consumes secretName = true :=
  List.contains_iff_mem.2 List.mem_cons_self

theorem not_isCurrent_consumer (ns name secretName : String) (t : Target) :
    ¬ (consumer ns name secretName).IsCurrent t := by
  rintro ⟨-, htemplate⟩
  cases htemplate

/-- A managed secret has its version under its own key. -/
theorem version_managedSecret (ns name version : String) :
    ((managedSecret ns name version).metadata.annotation? (stampKey name) <|>
      (managedSecret ns name version).metadata.annotation? versionKey) = some version := by
  have hown : (managedSecret ns name version).metadata.annotation? (stampKey name) =
      some version := (OrderedMap.get?_insert ..).trans (if_pos rfl)
  rw [hown]
  rfl

theorem stamp?_managedSecret (ns name version : String) :
    (managedSecret ns name version).stamp? = some ⟨version⟩ := by
  have hname : (managedSecret ns name version).knownAs = name := rfl
  rw [Secret.stamp?, hname, version_managedSecret]
  rfl

theorem target?_managedSecret (ns name version : String) :
    (managedSecret ns name version).target? = some ⟨name, ⟨version⟩⟩ := by
  rw [Secret.target?, stamp?_managedSecret]
  rfl

end SecretRotation.Sample
