import SecretRotation.Cluster.Secret

/-!
# The schedule of a watch

A watch follows the secrets of a cluster and decides when a pass is run for which of them. It keeps
the latest object seen of every secret that exists, and at most one request per secret for a run at
some moment. Secrets are told apart by namespace and name, and a secret without a namespace from one
in the empty namespace (`WatchKey`).

* A secret that is added or modified asks for a run at once. A secret that is deleted is forgotten;
  a request for it that is still waiting comes to nothing, unless there is a secret of that name
  without a namespace, which then stands in for it.
* An earlier request takes the place of a later one, never the reverse.
* Runs for one secret do not overlap: a request that becomes due during a run waits for its end.
* A run that failed asks for another one after `retryDelay`; a run that succeeded asks for nothing.

## Main definitions

* `WatchKey`: what secrets are told apart by.
* `Watch`, with `observe`, `begin`, `finish` and `advance`.
* `Watch.object?`: the object that a run for a secret is about.
* `Watch.due`, `Watch.nextDue?`: what is to be run now, and when there is something to run.
-/

namespace SecretRotation

/-! ### Keys -/

/-- What a watch tells secrets apart by. -/
structure WatchKey where
  /-- The namespace, if there is one. -/
  ns : Option String
  /-- The name. -/
  name : String
  deriving DecidableEq

namespace WatchKey

/-- Keys are ordered by namespace, a missing one first, and within one by name. -/
instance : Ord WatchKey :=
  ⟨compareLex (compareOn WatchKey.ns) (compareOn WatchKey.name)⟩

instance : Std.TransOrd WatchKey :=
  inferInstanceAs (Std.TransCmp (compareLex (compareOn WatchKey.ns) (compareOn WatchKey.name)))

instance : Std.LawfulEqOrd WatchKey where
  compare_self := Std.ReflCmp.compare_self
  eq_of_compare := fun {a b} h => by
    have h : (compare a.ns b.ns).then (compare a.name b.name) = .eq := h
    have ⟨hns, hname⟩ := Ordering.then_eq_eq.1 h
    cases a; cases b
    congr
    · exact Std.LawfulEqOrd.eq_of_compare hns
    · exact Std.LawfulEqOrd.eq_of_compare hname

/-- The key of the secret of the same name without a namespace. -/
def unplaced (k : WatchKey) : WatchKey := { k with ns := none }

end WatchKey

/-- What a watch tells a secret apart by. -/
def Secret.watchKey (s : Secret) : WatchKey := ⟨s.metadata.ns, s.knownAs⟩

/-! ### Watches -/

/-- What is seen of the secrets of a cluster. -/
inductive Sighting
  /-- A secret exists, or has been changed. -/
  | applied (secret : Secret)
  /-- A secret has been deleted. -/
  | deleted (secret : Secret)

/-- How long after a failed run another one is due, in milliseconds. -/
def retryDelay : Nat := 60 * 1000

/-- The state of a watch. -/
structure Watch where
  /-- The present moment, in milliseconds. -/
  now : Nat := 0
  /-- The latest object of every secret that exists. -/
  cache : OrderedMap WatchKey Secret := .empty
  /-- When the next run is due for which secret. -/
  requests : OrderedMap WatchKey Nat := .empty
  /-- The secrets for which a run is in progress. -/
  running : List WatchKey := []

namespace Watch

/-- The watch with a run asked for, no later than at a moment. -/
def request (w : Watch) (key : WatchKey) (moment : Nat) : Watch :=
  { w with requests := w.requests.insert key (min moment ((w.requests.get? key).getD moment)) }

/-- The watch after a sighting. -/
def observe (w : Watch) : Sighting → Watch
  | .applied secret =>
    { w with cache := w.cache.insert secret.watchKey secret }.request secret.watchKey w.now
  | .deleted secret => { w with cache := w.cache.erase secret.watchKey }

/-- The watch at a later moment. -/
def advance (w : Watch) (moment : Nat) : Watch := { w with now := max w.now moment }

/-- The secrets for which a run is due. -/
def due (w : Watch) : List WatchKey :=
  (w.requests.entries.filter fun e => e.2 ≤ w.now && !w.running.contains e.1).map Prod.fst

/-- The moment when the first run is due. -/
def nextDue? (w : Watch) : Option Nat := w.requests.values.min?

/-- The object that a run for a secret is about. -/
def object? (w : Watch) (key : WatchKey) : Option Secret :=
  w.cache.get? key <|> w.cache.get? key.unplaced

/-- Takes up the request of a secret: the object to run for and the watch with the run in progress,
if there is such an object. -/
def begin (w : Watch) (key : WatchKey) : Option Secret × Watch :=
  let taken := { w with requests := w.requests.erase key }
  match w.object? key with
  | none => (none, taken)
  | some found => (some found, { taken with running := key :: w.running })

/-- The watch after the end of a run. -/
def finish (w : Watch) (key : WatchKey) (failed : Bool) : Watch :=
  let ended := { w with running := w.running.erase key }
  if failed then ended.request key (w.now + retryDelay) else ended

end Watch

end SecretRotation
