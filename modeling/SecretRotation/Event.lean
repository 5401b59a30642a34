import SecretRotation.Settings
import SecretRotation.Stamp
import SecretRotation.Text.Console

/-!
# Log events

Everything that is logged, with its level and its text. Events are data: what an operation reports
can be compared and counted before it is ever written down.

On a console an event is written so that no text in it can command the console. An event whose text
has line breaks in it takes several lines there, and only the first of them says its level.

## Main definitions

* `Level`, `Event`.
* `Event.level`, `Event.text`, `Event.line`.
* `Event.consoleText`, `Event.heading`: an event on a console, and the first line of it.
-/

namespace SecretRotation

/-- How important an event is. -/
inductive Level
  | debug
  | info
  | warning
  | error
  deriving DecidableEq

namespace Level

/-- The name of a level in a log. -/
def name : Level → String
  | .debug => "DEBUG"
  | .info => "INFO"
  | .warning => "WARN"
  | .error => "ERROR"

end Level

/-- What is logged. -/
inductive Event
  /-- The operator starts. -/
  | starting
  /-- The operator has its settings. -/
  | configured (settings : Settings)
  /-- A list goes on with a further page. -/
  | nextPage (kind : Kind)
  /-- A list has been read to its end. -/
  | listed (count : Nat) (kind : Kind)
  /-- None of the workloads of a kind is concerned. -/
  | noneEligible (listed : Nat) (kind : Kind) (secretName : String)
  /-- The workloads of a kind are being brought up to date. -/
  | rollingOut (eligible listed : Nat) (kind : Kind) (secretName : String)
  /-- A workload has the current version. -/
  | upToDate (stamp : Stamp)
  /-- A workload is given the current version. -/
  | restarting (former : Option Stamp) (stamp : Stamp) (workload : String)
  /-- A workload could not be brought up to date. -/
  | leftBehind (workload : String) (failure : Failure)
  /-- All workloads of a kind are up to date. -/
  | rolledOut (updated upToDate : Nat)
  /-- A watched secret has no version. -/
  | notManaged (secret : SecretRef)
  /-- A pass for a watched secret begins. -/
  | passBegins (secret : SecretRef) (stamp : Stamp)
  /-- A pass for a watched secret has restarted workloads. -/
  | passRestarted (secret : SecretRef) (stamp : Stamp) (updated eligible : Nat)
  /-- A pass for a watched secret has failed. -/
  | passFailed (secret : Identity) (failure : Failure)

/-- The name of the operator, in logs and as the author of updates. -/
def operatorName : String := "secret-rollout"

namespace Event

/-- How a limit is shown. -/
def limitText : Option Nat → String
  | none => "None"
  | some n => "Some(" ++ toString n ++ ")"

/-- How important an event is. -/
def level : Event → Level
  | .nextPage .. | .listed .. | .noneEligible .. | .upToDate .. => .debug
  | .notManaged .. | .passBegins .. => .debug
  | .starting | .configured .. => .info
  | .rollingOut .. | .restarting .. | .rolledOut .. | .passRestarted .. => .info
  | .leftBehind .. => .warning
  | .passFailed .. => .error

/-- What an event says. -/
def text : Event → String
  | .starting => "Starting " ++ operatorName ++ " operator"
  | .configured settings =>
    "Configuration loaded: watch_namespace=" ++ settings.watchNamespace.getD "<all>" ++
      ", max_concurrent_updates=" ++ limitText settings.maxConcurrentUpdates ++
      ", list_page_size=" ++ toString settings.listPageSize
  | .nextPage kind => "Fetching next page of " ++ kind.name ++ " workloads"
  | .listed count kind => "Listed " ++ toString count ++ " " ++ kind.name ++ " workloads"
  | .noneEligible total kind secretName =>
    "None of the " ++ toString total ++ " " ++ kind.name ++ " workloads consume secret " ++
      secretName
  | .rollingOut eligible total kind secretName =>
    "Reconciling " ++ toString eligible ++ " of " ++ toString total ++ " " ++ kind.name ++
      " workloads against secret " ++ secretName
  | .upToDate stamp =>
    "Already running secret version " ++ stamp.text ++ ", no action required"
  | .restarting former stamp workload =>
    "Secret version changed (" ++ (former.map Stamp.text).getD "<none>" ++ " -> " ++ stamp.text ++
      "), restarting " ++ workload
  | .leftBehind workload failure => "Failed to reconcile " ++ workload ++ ": " ++ failure.text
  | .rolledOut updated current =>
    "Restarted " ++ toString updated ++ " workloads, " ++ toString current ++
      " already up to date"
  | .notManaged secret => "Secret " ++ secret.text ++ " is not managed, skipping"
  | .passBegins secret stamp =>
    "Reconciling secret " ++ secret.text ++ " at version " ++ stamp.text
  | .passRestarted secret stamp updated eligible =>
    "Secret " ++ secret.text ++ " at version " ++ stamp.text ++ ": restarted " ++
      toString updated ++ " of " ++ toString eligible ++ " consuming workloads"
  | .passFailed secret failure =>
    "Reconciliation of secret " ++ secret.ns ++ "/" ++ secret.name ++ " failed: " ++ failure.text

/-- The line of an event in a log. -/
def line (e : Event) : String := e.level.name ++ " " ++ e.text

/-- An event as it is written to a console. -/
def consoleText (e : Event) : String := e.level.name ++ " " ++ Text.harmless e.text

/-- The first line of an event on a console. -/
def heading (e : Event) : String := Text.firstLine e.consoleText

end Event

end SecretRotation
