import SecretRotation.Consumption
import SecretRotation.Stamp

/-!
# Selecting workloads

Of the workloads in a listing, those take part in a pass that opted in and consume the secret. A
listing that was read page by page may hold several copies of one workload; the last of them that
takes part is used, so that each workload has one unit of work. The units are ordered by namespace
and name.

A workload that takes part is left alone if both its stamps are current, and is given both stamps
otherwise.

## Main definitions

* `Listing`, `Listing.eligible`.
* `Verdict`, `Workload.verdict`.
-/

namespace SecretRotation

/-- The workloads of a kind as they were listed. -/
structure Listing where
  /-- The kind. -/
  kind : Kind
  /-- The workloads in the order of the list. -/
  workloads : List (Workload kind)

namespace Listing

/-- The workloads that take part in a pass for a secret, each once, by their identities. -/
def eligible (l : Listing) (secretName : String) : OrderedMap Identity (Workload l.kind) :=
  .ofList ((l.workloads.filter fun w => w.optsIn && w.consumes secretName).map fun w =>
    (w.identity, w))

end Listing

/-- What has to be done about a workload. -/
inductive Verdict (k : Kind)
  /-- Nothing: both stamps are current. -/
  | current
  /-- It is replaced by a workload with current stamps. `former` is the stamp it had. -/
  | outdated (former : Option Stamp) (replacement : Workload k)

/-- What has to be done about a workload so that both its stamps are current. -/
def Workload.verdict {k : Kind} (w : Workload k) (t : Target) : Verdict k :=
  if w.stamp? t.key = some t.stamp ∧ w.templateStamp? t.key = some t.stamp then .current
  else .outdated (w.stamp? t.key) (w.stamped t.key t.stamp)

end SecretRotation
