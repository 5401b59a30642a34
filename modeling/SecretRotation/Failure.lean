import SecretRotation.Text.Quoted

/-!
# Failures

What can go wrong, from a single request up to a whole pass.

* `Fault` is what a request to the API server ends in when it does not succeed: a refusal by the
  server, a broken connection, a reply that cannot be read, or a request that cannot even be put
  together.
* `Failure` says what the request was for. The failures of single workloads are collected into one
  failure of the pass, so failures nest.

The text of a failure is made of the texts of what it contains. What a reader of documents or of
addresses has to say about a malformed one is not part of any text here, so the texts of unreadable
replies and unsendable requests are not complete (`Failure.isWorded`).

## Main definitions

* `Refusal`, `SendFault`, `Fault`, `Failure`.
* `Failure.text`, `Failure.isWorded`, `Failure.causes`.
-/

namespace SecretRotation

/-! ### Faults of a request -/

/-- The answer of an API server that refuses a request. -/
structure Refusal where
  status : String
  message : String
  reason : String
  code : Nat
  deriving DecidableEq

namespace Refusal

/-- The refusal with which a server reports a failure. -/
def failure (code : Nat) (reason message : String) : Refusal := ⟨"Failure", message, reason, code⟩

/-- What a refusal says in short. -/
def summary (r : Refusal) : String := r.message ++ ": " ++ r.reason

/-- What a refusal says in full. -/
def text (r : Refusal) : String :=
  "ApiError: " ++ r.summary ++ " (ErrorResponse \x7b status: " ++ Text.quoted r.status ++
    ", message: " ++ Text.quoted r.message ++ ", reason: " ++ Text.quoted r.reason ++
    ", code: " ++ toString r.code ++ " \x7d)"

end Refusal

/-- Why a request cannot be put together. -/
inductive SendFault
  /-- The object it is about has an empty name. -/
  | unnamed
  /-- Its address contains a character that addresses cannot contain. -/
  | invalidAddress
  /-- Its address is too long. -/
  | longAddress
  deriving DecidableEq

namespace SendFault

/-- What is said about a request that cannot be put together. -/
def text : SendFault → String
  | .unnamed => "failed to validate request: A non-empty name is required"
  | .invalidAddress => "failed to build request: invalid uri character"
  | .longAddress => "failed to build request: uri too long"

end SendFault

/-- What a request ends in when it does not succeed. -/
inductive Fault
  /-- The server refused the request. -/
  | refused (refusal : Refusal)
  /-- The connection broke. -/
  | broken (message : String)
  /-- The reply is not the document expected. -/
  | unreadable
  /-- The request could not be put together, and nothing was sent. -/
  | unsendable (reason : SendFault)
  deriving DecidableEq

namespace Fault

/-- What a fault says. -/
def text : Fault → String
  | .refused refusal => refusal.text
  | .broken message => "ServiceError: " ++ message
  | .unreadable => "Error deserializing response"
  | .unsendable reason => "Failed to build request: " ++ reason.text

/-- Whether the text of a fault is complete. -/
def isWorded : Fault → Bool
  | .refused _ => true
  | .broken _ => true
  | .unreadable => false
  | .unsendable _ => false

/-- What a fault and the things behind it say, one after the other. -/
def chain : Fault → List String
  | .refused refusal => [refusal.text, refusal.summary]
  | fault => [fault.text]

end Fault

/-! ### Failures of an operation -/

/-- What an operation ends in when it does not succeed. -/
inductive Failure
  /-- The workloads of a kind could not be listed. -/
  | listing (kind ns : String) (fault : Fault)
  /-- The secret could not be fetched. -/
  | fetching (secret : String) (fault : Fault)
  /-- The secret does not say which version it is. -/
  | unversioned (secret : String)
  /-- A workload could not be updated. -/
  | updating (workload : String) (fault : Fault)
  /-- Some workloads of a pass could not be brought up to date. -/
  | workloads (eligible : Nat) (failures : List (String × Failure))
  /-- A setting cannot be used. -/
  | settings (reason : String)

namespace Failure

mutual

/-- What a failure says. -/
def text : Failure → String
  | .listing kind ns fault =>
    "Unable to list " ++ kind ++ " workloads in namespace " ++ ns ++ ": " ++ fault.text
  | .fetching secret fault => "Unable to fetch managed secret " ++ secret ++ ": " ++ fault.text
  | .unversioned secret => "Managed secret " ++ secret ++ " has no version annotation"
  | .updating workload fault => "Failed to update " ++ workload ++ ": " ++ fault.text
  | .workloads eligible failures =>
    "Unable to reconcile " ++ toString failures.length ++ " of " ++ toString eligible ++
      " workloads: " ++ ", ".intercalate (texts failures)
  | .settings reason => "Invalid configuration: " ++ reason

/-- What the failures of several workloads say. -/
def texts : List (String × Failure) → List String
  | [] => []
  | (workload, failure) :: rest =>
    ("[" ++ workload ++ ": " ++ failure.text ++ "]") :: texts rest

end

mutual

/-- Whether the text of a failure is complete. -/
def isWorded : Failure → Bool
  | .listing _ _ fault => fault.isWorded
  | .fetching _ fault => fault.isWorded
  | .unversioned _ => true
  | .updating _ fault => fault.isWorded
  | .workloads _ failures => areWorded failures
  | .settings _ => true

/-- Whether the texts of all failures of several workloads are complete. -/
def areWorded : List (String × Failure) → Bool
  | [] => true
  | (_, failure) :: rest => failure.isWorded && areWorded rest

end

/-- What the things behind a failure say, one after the other. The failures of single workloads
are part of a pass's failure, not behind it. -/
def causes : Failure → List String
  | .listing _ _ fault => fault.chain
  | .fetching _ fault => fault.chain
  | .updating _ fault => fault.chain
  | _ => []

end Failure

end SecretRotation
