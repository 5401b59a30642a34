import SecretRotation.Cluster.Encoding
import SecretRotation.Proofs.Json.Shape

/-!
# Workloads whose lists are in another order

The codec of every part of a workload is steady: whether a document is read as a workload does not
depend on the order of any of its lists.

## Main results

* `Workload.steady_codec`: the codecs of workloads of every kind.
* `Workload.exists_read_of_reordered`: a reordering of a workload is a workload.
-/

namespace SecretRotation

open Json (Codec Fields)

/-! ### Metadata -/

instance ObjectMeta.steady_codec : ObjectMeta.codec.Steady := Fields.steady_codec _

/-! ### References -/

instance NamedRef.steady_codec : NamedRef.codec.Steady := Fields.steady_codec _

instance KeyRef.steady_codec : KeyRef.codec.Steady := Fields.steady_codec _

/-! ### Containers -/

instance EnvSource.steady_codec : EnvSource.codec.Steady := Fields.steady_codec _

instance EnvVar.steady_codec : EnvVar.codec.Steady := Fields.steady_codec _

instance EnvFrom.steady_codec : EnvFrom.codec.Steady := Fields.steady_codec _

instance Container.steady_codec : Container.codec.Steady := Fields.steady_codec _

/-! ### Volumes -/

instance SecretVolume.steady_codec : SecretVolume.codec.Steady := Fields.steady_codec _

instance KeyProjection.steady_codec : KeyProjection.codec.Steady := Fields.steady_codec _

instance ProjectionSource.steady_codec : ProjectionSource.codec.Steady := Fields.steady_codec _

instance ProjectedVolume.steady_codec : ProjectedVolume.codec.Steady := Fields.steady_codec _

instance Volume.steady_codec : Volume.codec.Steady := Fields.steady_codec _

/-! ### Pods -/

instance PodSpec.steady_codec : PodSpec.codec.Steady := Fields.steady_codec _

instance PodTemplate.steady_codec : PodTemplate.codec.Steady := Fields.steady_codec _

/-! ### Workloads -/

instance WorkloadSpec.steady_codec (k : Kind) : (WorkloadSpec.codec k).Steady :=
  Fields.steady_codec _

instance Workload.steady_codec (k : Kind) : (Workload.codec k).Steady :=
  steady_objectCodec ..

/-- **A reordering of a workload is a workload.** -/
theorem Workload.exists_read_of_reordered {k : Kind} {j j' : Json} {w : Workload k}
    (h : j.Reordered j') (hread : (codec k).read j = some w) :
    ∃ w', (codec k).read j' = some w' :=
  Option.isSome_iff_exists.1 (Codec.Steady.isSome_read h (Option.isSome_of_eq_some hread))

end SecretRotation
