import SecretRotation.Operation
import SecretRotation.Store

/-!
# Drills

A cluster in memory on which the operator is put to the test. Beside what the store itself can be
made to fail, single requests can be given an error of their own, updates can be made to take time,
and an operation can be given a deadline. Time is virtual: it passes only while updates are waited
for.

* Every request is noted when it begins.
* An error scripted for a list or for fetching a secret takes the place of the answer. An update
  first takes its time, and only then meets its scripted error; then it does not reach the store.
* Errors scripted for the same request are used up one by one, in the order given.
* An operation that has not ended when its deadline comes is dropped where it stands: what has been
  stored stays, and the updates that are still waited for never happen.

## Main definitions

* `Drill`: the state of a drill.
* `DrillM`, `Drill.access`: operations on it, and the cluster that they see.
* `DrillStep`, `Drill.perform`: the steps of a drill.
* `DrillRecord`: what is known after a step.
-/

namespace SecretRotation

/-- The requests to a cluster. -/
inductive RequestKind
  | list
  | fetch
  | update
  deriving DecidableEq

/-- An error in store for one request. -/
structure ScriptedError where
  /-- The requests it is meant for. -/
  on : RequestKind
  /-- What they are about: a kind, a secret, or the name of a workload. -/
  target : String
  /-- The error. -/
  refusal : Refusal

/-- The state of a drill. -/
structure Drill where
  /-- The cluster. -/
  store : Store := {}
  /-- The errors still in store, in the order given. -/
  scripted : List ScriptedError := []
  /-- How long updates take, by the name of the workload. -/
  delays : OrderedMap String Nat := .empty
  /-- How many updates of a pass may be under way at a time. -/
  limit : Option Nat := none
  /-- The present moment, in milliseconds. -/
  now : Nat := 0
  /-- When the present operation is dropped. -/
  deadline : Option Nat := none
  /-- The requests of the present operation. -/
  calls : List String := []
  /-- The events of the present operation. -/
  events : List Event := []
  /-- How many updates are under way. -/
  underway : Nat := 0
  /-- How many updates of the present operation were under way at most. -/
  mostUnderway : Nat := 0

/-- An operation was dropped at its deadline. -/
inductive Dropped
  | dropped

/-- Operations on a drill. -/
abbrev DrillM := ExceptT Dropped (StateM Drill)

namespace Drill

instance : MonadStateOf Store DrillM where
  get := return (← getThe Drill).store
  set store := modifyThe Drill fun d => { d with store }
  modifyGet f := modifyGetThe Drill fun d =>
    let (a, store) := f d.store
    (a, { d with store })

/-- Takes the first error in store for a request. -/
def takeScripted (d : Drill) (on : RequestKind) (target : String) : Option Refusal × Drill :=
  match d.scripted.find? fun e => e.on = on && e.target = target with
  | none => (none, d)
  | some found =>
    (some found.refusal,
      { d with scripted := d.scripted.eraseP fun e => e.on = on && e.target = target })

/-- The drill with a request noted. -/
def noteCall (d : Drill) (call : String) : Drill := { d with calls := d.calls ++ [call] }

/-- The drill with one more update under way. -/
def takeOff (d : Drill) : Drill :=
  { d with
    underway := d.underway + 1
    mostUnderway := max d.mostUnderway (d.underway + 1) }

/-- The drill with one update less under way. -/
def land (d : Drill) : Drill := { d with underway := d.underway - 1 }

/-- The clock of a drill: waiting moves it on, but not beyond a deadline. -/
def clock : Clock DrillM where
  now := return (← getThe Drill).now
  waitUntil moment := do
    let d ← getThe Drill
    if moment ≤ d.now then
      return
    match d.deadline.filter fun deadline => deadline < moment with
    | some deadline =>
      set { d with now := deadline }
      throw .dropped
    | none => set { d with now := moment }

/-- Logs an event of a drill. -/
def report (e : Event) : DrillM Unit :=
  modifyThe Drill fun d => { d with events := d.events ++ [e] }

/-- The answer to a request, unless an error is in store for it. -/
def orScripted {α : Type} (on : RequestKind) (target : String) (answer : DrillM (Except Fault α)) :
    DrillM (Except Fault α) := do
  match ← modifyGetThe Drill fun d => d.takeScripted on target with
  | some refusal => return .error (.refused refusal)
  | none => answer

/-- The cluster that the operator sees in a drill. -/
def access : ClusterAccess DrillM :=
  let inner : ClusterAccess DrillM := Store.access clock report
  { inner with
    fetch := fun secret => do
      modifyThe Drill fun d => d.noteCall ("get " ++ secret.text)
      orScripted .fetch secret.text (inner.fetch secret)
    list := fun k ns => do
      modifyThe Drill fun d => d.noteCall ("list " ++ k.name ++ " " ++ ns)
      orScripted .list k.name (inner.list k ns)
    update := fun k w => do
      modifyThe Drill fun d => (d.noteCall ("update " ++ w.title)).takeOff
      let d ← getThe Drill
      return .underway (d.now + (d.delays.get? w.identity.name).getD 0) do
        modifyThe Drill land
        orScripted .update w.identity.name do (← inner.update k w).await clock }

end Drill

/-! ### Steps -/

/-- A step of a drill. -/
inductive DrillStep
  /-- Store a workload. -/
  | putWorkload (workload : AnyWorkload)
  /-- Store a secret. -/
  | putSecret (secret : Secret)
  /-- Let all updates of workloads of a name fail. -/
  | failUpdates (name : String)
  /-- Let all lists fail. -/
  | failListing
  /-- Let all lists of a kind fail. -/
  | failListingOf (kind : String)
  /-- Have an error in store for a request. -/
  | script (error : ScriptedError)
  /-- Let updates of workloads of a name take some milliseconds. -/
  | delay (name : String) (ms : Nat)
  /-- Limit how many updates of a pass may be under way at a time. -/
  | limit (limit : Option Nat)
  /-- Look at a stored workload. -/
  | look (kind : Kind) (identity : Identity)
  /-- Look at the updates that have reached the store. -/
  | lookAtUpdates
  /-- Perform an operation. -/
  | operate (operation : Operation)

/-- What comes of a step. -/
inductive DrillResult
  /-- The step is done. -/
  | done
  /-- The workload looked at, if it is stored. -/
  | found (workload : Option AnyWorkload)
  /-- The names of the workloads that updates were asked for. -/
  | updates (names : List String)
  /-- What comes of the operation. -/
  | answer (answer : Answer)
  /-- The operation was dropped. -/
  | dropped

/-- How the updates of a step were spread over time. -/
structure Timing where
  /-- How many updates were under way at most. -/
  mostUnderway : Nat
  /-- How long the step took. -/
  elapsed : Nat

/-- What is known after a step. -/
structure DrillRecord where
  /-- What came of it. -/
  result : DrillResult
  /-- The requests that were begun. -/
  calls : List String
  /-- How updates were spread over time, if there were any and some updates take time. -/
  timing : Option Timing
  /-- What was logged. -/
  events : List Event

namespace Drill

/-- What a step comes to, and the drill after it. -/
def enact (d : Drill) : DrillStep → DrillResult × Drill
  | .putWorkload ⟨_, w⟩ => (.done, { d with store := d.store.put w })
  | .putSecret secret => (.done, { d with store := d.store.putSecret secret })
  | .failUpdates name =>
    (.done, { d with store := { d.store with rejectedNames := name :: d.store.rejectedNames } })
  | .failListing => (.done, { d with store := { d.store with listingFails := true } })
  | .failListingOf kind =>
    (.done, { d with store := { d.store with failingKinds := kind :: d.store.failingKinds } })
  | .script error => (.done, { d with scripted := d.scripted ++ [error] })
  | .delay name ms => (.done, { d with delays := d.delays.insert name ms })
  | .limit limit => (.done, { d with limit := limitOfSetting limit })
  | .look kind identity => (.found ((d.store.find? kind identity).map fun w => ⟨kind, w⟩), d)
  | .lookAtUpdates => (.updates d.store.updateCalls, d)
  | .operate operation =>
    match (operation.perform access d.limit).run.run d with
    | (.ok answer, d) => (.answer answer, d)
    | (.error .dropped, d) => (.dropped, d)

/-- Performs a step, with a deadline some milliseconds away if there is one. -/
def perform (d : Drill) (step : DrillStep) (deadline : Option Nat) : DrillRecord × Drill :=
  let start := { d with
    deadline := deadline.map (d.now + ·)
    calls := []
    events := []
    underway := 0
    mostUnderway := 0 }
  let (result, after) := start.enact step
  ({ result
     calls := after.calls
     timing :=
       if after.delays.isEmpty || after.mostUnderway = 0 then none
       else some ⟨after.mostUnderway, after.now - d.now⟩
     events := after.events }, after)

end Drill

end SecretRotation
