import SecretRotation.Api.Session
import SecretRotation.Watch.Schedule

/-!
# Running a watch

A watch is run against a server with canned replies for some span of virtual time. The server shows
the secrets that exist at the beginning, those of the watched namespace if there is one, and later
whatever happens; passes take no time.

A run for a secret looks at the object that the watch has seen last. If it says no version, nothing
is done. Otherwise a pass over all kinds is run, which fetches the secret again.

## Main definitions

* `Outcome`: what a run for a watched secret comes to; `attend`: such a run.
* `WatchPlan`: what is watched, how, and what happens meanwhile.
* `WatchPlan.run`, `WatchRecord`.
-/

namespace SecretRotation

/-! ### A run for a secret -/

/-- What a run for a watched secret comes to. -/
inductive Outcome
  /-- The secret is not managed, and nothing has been done. -/
  | unmanaged
  /-- The pass has succeeded. -/
  | passed (report : Report)
  /-- The pass has failed. -/
  | failed (failure : Failure)

namespace Outcome

/-- Whether the run has failed. -/
def hasFailed : Outcome → Bool
  | .failed _ => true
  | _ => false

/-- What the result of a pass comes to. -/
def ofResult : Except Failure Report → Outcome
  | .ok report => .passed report
  | .error failure => .failed failure

end Outcome

section

variable {m : Type → Type} [Monad m] (access : ClusterAccess m) (limit : Option Nat)
  (secret : Secret)

/-- What is logged about the result of a pass for a watched secret. -/
def reportResult (stamp : Stamp) : Except Failure Report → m Unit
  | .ok report => do
    if 0 < report.updated then
      access.report (.passRestarted secret.ref stamp report.updated report.reconciled)
  | .error failure => access.report (.passFailed secret.metadata.identity failure)

/-- Runs a pass for a watched secret, unless it is not managed. -/
def attend : m Outcome :=
  match secret.stamp? with
  | none => do
    access.report (.notManaged secret.ref)
    return .unmanaged
  | some stamp => do
    access.report (.passBegins secret.ref stamp)
    let result ← runPass access limit .all secret.ref
    reportResult access secret stamp result
    return .ofResult result

end

/-! ### Watches -/

/-- Something that happens to a secret at some moment. -/
structure Happening where
  /-- The moment, in milliseconds. -/
  moment : Nat
  /-- What is seen. -/
  sighting : Sighting

/-- What is watched, how, and what happens meanwhile. -/
structure WatchPlan where
  /-- The namespace whose secrets are watched; those of all, if none. -/
  ns : Option String
  /-- How many updates of a pass may be under way at a time. -/
  limit : Option Nat
  /-- The secrets that exist at the beginning. -/
  secrets : List Secret
  /-- What happens to secrets later. -/
  happenings : List Happening
  /-- How long the watch is run, in milliseconds. It is over before anything that is due at its
  end. -/
  horizon : Nat

/-- A watch that is being run. -/
structure WatchRun where
  /-- The state of the watch. -/
  watch : Watch
  /-- The session in which passes are run. -/
  session : Session

namespace WatchRun

/-- Serves the request for a run for a secret. -/
def serve (limit : Option Nat) (run : WatchRun) (key : WatchKey) : WatchRun :=
  match run.watch.begin key with
  | (none, watch) => { run with watch }
  | (some found, watch) =>
    let session := { run.session with now := watch.now }
    match (attend session.access limit found).run.run session with
    | (.ok outcome, session) => { watch := watch.finish key outcome.hasFailed, session }
    | (.error .endless, session) => { watch, session }

/-- Serves all requests that are due. -/
def serveDue (limit : Option Nat) (run : WatchRun) : WatchRun :=
  run.watch.due.foldl (serve limit) run

/-- Lets time pass until a horizon is reached; what is due at the horizon does not happen any more.
Every turn is for a later moment than the one before; at most `turns` of them are taken. -/
def follow (limit : Option Nat) (horizon : Nat) :
    (turns : Nat) → List Happening → WatchRun → WatchRun
  | 0, _, run => run
  | turns + 1, happenings, run =>
    let moments := run.watch.nextDue?.toList ++ happenings.map Happening.moment
    match (moments.filter (· < horizon)).min? with
    | none => run
    | some moment =>
      let (present, later) := happenings.partition (·.moment ≤ moment)
      let watch := (present.map Happening.sighting).foldl Watch.observe (run.watch.advance moment)
      follow limit horizon turns later (serveDue limit { run with watch })

end WatchRun

/-- What is known after a watch has been run. -/
structure WatchRecord where
  /-- Whether the watch came to an end by itself. -/
  stopped : Bool
  /-- The requests by which secrets are watched. -/
  watchRequests : List String
  /-- All other requests with the seconds in which they were sent, in the order of the seconds and,
  within one, of the namespaces they are about. -/
  requests : List (Nat × Request)
  /-- What was logged. -/
  events : List Event

/-- The namespace that a path is about. -/
def namespaceOfPath (path : String) : String :=
  (((path.splitOn "/").dropWhile (· != "namespaces")).drop 1).headD ""

/-- The second that a moment in milliseconds is nearest to. -/
def nearestSecond (ms : Nat) : Nat := (ms + 500) / 1000

namespace WatchPlan

/-- Whether a secret is listed at the beginning. -/
def lists (p : WatchPlan) (secret : Secret) : Bool :=
  p.ns.all fun ns => secret.metadata.ns == some ns

/-- The path of the secrets that are watched. -/
def path (p : WatchPlan) : String :=
  match p.ns with
  | none => "/api/v1/secrets"
  | some ns => "/api/v1/namespaces/" ++ ns ++ "/secrets"

/-- Whether the secrets are ever asked for. With a namespace that no address can contain they cannot
be, and without any time they are not. Then nothing is seen of them. -/
def canWatch (p : WatchPlan) : Bool := decide (0 < p.horizon) && (Address.ofText p.path).isOk

/-- What is seen of the secrets: those listed at the beginning, and then all that happens. -/
def sightings (p : WatchPlan) : List Happening :=
  if p.canWatch then
    (p.secrets.filter p.lists).map (fun s => ⟨0, .applied s⟩) ++ p.happenings
  else []

/-- Whether a request comes before another in a record, or may do so. -/
def comesFirst (a b : Nat × Request) : Bool :=
  a.1 < b.1 || (a.1 == b.1 &&
    decide (namespaceOfPath a.2.address.path ≤ namespaceOfPath b.2.address.path))

/-- Runs a watch against a server. A watch never ends by itself. -/
def run (p : WatchPlan) (session : Session) : WatchRecord :=
  let done := WatchRun.follow (limitOfSetting p.limit) p.horizon p.horizon p.sightings
    { watch := {}, session }
  { stopped := false
    watchRequests := if p.canWatch then ["list " ++ p.path, "watch " ++ p.path] else []
    requests :=
      (done.session.sent.map fun s => (nearestSecond s.moment, s.request)).mergeSort comesFirst
    events := done.session.events }

end WatchPlan

end SecretRotation
