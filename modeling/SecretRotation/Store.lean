import SecretRotation.Cluster.Encoding
import SecretRotation.Pass.Access

/-!
# A cluster in memory

A store of workloads and secrets that answers like an API server. Workloads of all kinds are kept as
JSON documents, by kind, namespace and name; storing one again replaces it. Updates of workloads of
given names, and lists of all or of some kinds, can be made to fail.

Every update that reaches the store is noted by the name of its workload, whether or not it
succeeds.

## Main definitions

* `Slot`: where a workload is kept.
* `Store`, with `put`, `putSecret`, `find?`, `list`, `fetch` and `update`.
* `Store.access`: the store as a cluster that a pass can run against.
-/

namespace SecretRotation

/-- Where a workload is kept: its kind, its namespace and its name. -/
structure Slot where
  kind : Kind
  identity : Identity
  deriving DecidableEq

namespace Slot

/-- Slots are ordered by kind, and within one by namespace and name. -/
instance : Ord Slot :=
  ⟨compareLex (compareOn fun s => s.kind.rank) (compareOn Slot.identity)⟩

instance : Std.TransOrd Slot :=
  inferInstanceAs
    (Std.TransCmp (compareLex (compareOn fun s : Slot => s.kind.rank) (compareOn Slot.identity)))

theorem rank_injective : (k l : Kind) → k.rank = l.rank → k = l
  | .deployment, .deployment, _ => rfl
  | .statefulSet, .statefulSet, _ => rfl
  | .daemonSet, .daemonSet, _ => rfl

instance : Std.LawfulEqOrd Slot where
  compare_self := Std.ReflCmp.compare_self
  eq_of_compare := fun {a b} h => by
    have h : (compare a.kind.rank b.kind.rank).then (compare a.identity b.identity) = .eq := h
    have ⟨hkind, hidentity⟩ := Ordering.then_eq_eq.1 h
    cases a; cases b
    congr
    · exact rank_injective _ _ (Std.LawfulEqOrd.eq_of_compare hkind)
    · exact Std.LawfulEqOrd.eq_of_compare hidentity

end Slot

/-- A cluster in memory. -/
structure Store where
  /-- The workloads as documents. -/
  workloads : OrderedMap Slot Json := .empty
  /-- The secrets. -/
  secrets : OrderedMap Identity Secret := .empty
  /-- The names of the workloads whose updates fail. -/
  rejectedNames : List String := []
  /-- Whether all lists fail. -/
  listingFails : Bool := false
  /-- The names of the kinds whose lists fail. -/
  failingKinds : List String := []
  /-- The names of the workloads that an update was asked for, in order. -/
  updateCalls : List String := []

namespace Store

variable {k : Kind}

/-- The store with a workload put into its slot. -/
def put (s : Store) (w : Workload k) : Store :=
  { s with workloads := s.workloads.insert ⟨k, w.identity⟩ ((Workload.codec k).write w) }

/-- The store with a secret put in its place. -/
def putSecret (s : Store) (secret : Secret) : Store :=
  { s with secrets := s.secrets.insert secret.metadata.identity secret }

/-- The workload of a kind under a namespace and a name. -/
def find? (s : Store) (k : Kind) (identity : Identity) : Option (Workload k) :=
  (s.workloads.get? ⟨k, identity⟩).bind (Workload.codec k).read

/-- The documents of the workloads of a kind in a namespace, in the order of their names. -/
def documents (s : Store) (k : Kind) (ns : String) : List Json :=
  (s.workloads.entries.filter fun e => e.1.kind = k && e.1.identity.ns = ns).map Prod.snd

/-- The workloads of a kind in a namespace, in the order of their names. -/
def list (s : Store) (k : Kind) (ns : String) : Except Fault (List (Workload k)) :=
  if s.listingFails || s.failingKinds.contains k.name then
    .error (.refused (.failure 500 "InternalError" "etcd unavailable"))
  else
    match (s.documents k ns).mapM (Workload.codec k).read with
    | some workloads => .ok workloads
    | none => .error .unreadable

/-- The secret of a namespace and a name. -/
def fetch (s : Store) (secret : SecretRef) : Except Fault Secret :=
  match s.secrets.get? ⟨secret.ns, secret.name⟩ with
  | some found => .ok found
  | none => .error (.refused (.failure 404 "NotFound" "secret not found"))

/-- The result of an update, and the store after it. -/
def update (s : Store) (w : Workload k) : Except Fault (Workload k) × Store :=
  let noted := { s with updateCalls := s.updateCalls ++ [w.identity.name] }
  if s.rejectedNames.contains w.identity.name then
    (.error (.refused (.failure 409 "Conflict" "the object has been modified")), noted)
  else
    (.ok w, noted.put w)

/-- The store as a cluster; nothing in it takes time. -/
def access {m : Type → Type} [Monad m] [MonadStateOf Store m] (clock : Clock m)
    (report : Event → m Unit) : ClusterAccess m where
  clock
  fetch secret := return (← getThe Store).fetch secret
  list k ns := return (← getThe Store).list k ns
  update _ w := do
    let (result, after) := (← getThe Store).update w
    set after
    return .settled result
  report

end Store

end SecretRotation
