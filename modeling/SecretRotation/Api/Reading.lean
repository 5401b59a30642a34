import SecretRotation.Api.Exchange
import SecretRotation.Api.StatusPhrase
import SecretRotation.Cluster.Encoding

/-!
# Reading replies

A reply with a status from 400 to 599 is a refusal. If its body describes the refusal, it is taken
from there, whatever the status; otherwise it is made up from the status and the text of the body.
A description is an object that has each of its parts at most once, or an array of the four parts.
Any other reply is a success and must carry the document expected.

A list is delivered in pages. A page carries items and, unless it is the last one, a token by which
the next page is asked for; an empty token says the same as none. Items and metadata must not be
given twice, and what is known of the metadata must be well formed. Nothing else about a list is
looked at, but it must have a normal form, with the list itself as outermost container.

## Main definitions

* `Refusal.ofDocument?`, `Refusal.ofReply`.
* `Reply.read`: the value that a reply carries, or the fault that it is.
* `Page`, `Page.ofDocument?`.
-/

namespace SecretRotation

open Json (Codec Fields)

/-! ### Refusals -/

namespace Refusal

/-- Whether a status is that of a refusal. -/
def isStatus (status : Nat) : Bool := decide (400 ≤ status) && decide (status < 600)

/-- A text, or the empty text in place of nothing. -/
def textOrEmpty? : Option Json → Option String
  | none => some ""
  | some value => value.text?

/-- The refusal with the parts given. -/
def ofParts? (status : Json) (message reason : Option Json) (code : Json) : Option Refusal := do
  let status ← status.text?
  let message ← textOrEmpty? message
  let reason ← textOrEmpty? reason
  let code ← code.count?
  if code < 0x10000 then some ⟨status, message, reason, code⟩ else none

/-- The refusal that a document describes. -/
def ofDocument? : Json → Option Refusal
  | .obj members => do
    let status ← Json.atMostOne? members "status"
    let message ← Json.atMostOne? members "message"
    let reason ← Json.atMostOne? members "reason"
    let code ← Json.atMostOne? members "code"
    ofParts? (← status) message reason (← code)
  | .arr [status, message, reason, code] => ofParts? status (some message) (some reason) code
  | _ => none

/-- The refusal that a reply is. -/
def ofReply (status : Nat) (body : Body) : Refusal :=
  (body.document?.bind ofDocument?).getD {
    status := toString status ++ " " ++ statusPhrase status
    message := Text.quoted body.toText
    reason := "Failed to parse error data"
    code := status }

end Refusal

/-! ### Successes -/

/-- What a reply carries, or the fault that it is. -/
def Reply.read {α : Type} (readDocument : Json → Option α) : Reply → Except Fault α
  | .broken message => .error (.broken message)
  | .response status body =>
    if Refusal.isStatus status then .error (.refused (.ofReply status body))
    else
      match body.document?.bind readDocument with
      | some value => .ok value
      | none => .error .unreadable

/-! ### Pages -/

/-- What is said about a page of a list. -/
structure PageMeta where
  continueToken : Option String := none
  remainingItemCount : Option Int64 := none
  resourceVersion : Option String := none
  selfLink : Option String := none

/-- What is said about a page, as JSON. -/
def PageMeta.codec : Codec PageMeta :=
  (PageMeta.mk
    <$> Fields.optional "continue" .string PageMeta.continueToken
    <*> Fields.optional "remainingItemCount" .int64 PageMeta.remainingItemCount
    <*> Fields.optional "resourceVersion" .string PageMeta.resourceVersion
    <*> Fields.optional "selfLink" .string PageMeta.selfLink).codec

/-- A page of a list of workloads. -/
structure Page (k : Kind) where
  /-- The workloads on the page. -/
  items : List (Workload k)
  /-- The token by which the next page is asked for, unless this is the last one. -/
  next : Option String

namespace Page

variable {k : Kind}

/-- The items of a page; `null` stands for none. -/
def readItems (k : Kind) : Json → Option (List (Workload k))
  | .null => some []
  | items => (Codec.list (Workload.codec k)).read items

/-- Whether a member of a list has a normal form, unless it is one that is looked at. -/
def isPassable (member : String × Json) : Bool :=
  member.1 == "metadata" || member.1 == "items" ||
    (member.2.normal? (Json.maxDepth - 1)).isSome

/-- The page that a document is. -/
def ofDocument? (k : Kind) : Json → Option (Page k)
  | .obj members => do
    guard (members.all isPassable)
    let items ← Json.atMostOne? members "items"
    let items ← readItems k (← items)
    let about ← match ← Json.atMostOne? members "metadata" with
      | none => some {}
      | some value => PageMeta.codec.read value
    return ⟨items, about.continueToken.filter fun token => token != ""⟩
  | _ => none

end Page

end SecretRotation
