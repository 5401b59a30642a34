import SecretRotation.Api.CannedServer
import SecretRotation.Api.Client
import SecretRotation.Operation

/-!
# Sessions with a canned server

Operations performed against a server with canned replies, together with everything that was sent to
it and everything that was logged.

A server that always repeats its last reply may deliver a list without an end. With as many pages as
there are replies, and one more, such a list begins to repeat itself; it is then given up, and the
operation has no answer.

## Main definitions

* `Session`, `SessionM`, `Session.access`.
* `Session.perform`, `Session.Record`: one operation of a session, and what is known after it.
-/

namespace SecretRotation

/-- A request that was sent, and when. -/
structure SentRequest where
  /-- The moment, in milliseconds. -/
  moment : Nat
  /-- The request. -/
  request : Request

/-- The state of a session. -/
structure Session where
  /-- The server. -/
  server : CannedServer
  /-- How many workloads a page of a list may hold. -/
  pageSize : Nat
  /-- How many pages of a list are read at most. -/
  pageBound : Nat
  /-- The present moment, in milliseconds. -/
  now : Nat := 0
  /-- How many round trips have been waited for. -/
  roundTrips : Nat := 0
  /-- What has been sent, in order. -/
  sent : List SentRequest := []
  /-- What has been logged, in order. -/
  events : List Event := []

/-- A list did not come to an end. -/
inductive Endless
  | endless

/-- Operations of a session. -/
abbrev SessionM := ExceptT Endless (StateM Session)

namespace Session

/-- A session with a server at its beginning. -/
def start (server : CannedServer) (pageSize : Nat) : Session :=
  { server, pageSize, pageBound := server.replies.length + 1 }

/-- Sends a request to the server of a session. -/
def send (request : Request) : SessionM Reply :=
  modifyGetThe Session fun s =>
    let (reply, server) := s.server.serve request.method request.address.path
    (reply, { s with server, sent := s.sent ++ [⟨s.now, request⟩] })

/-- The server of a session, as its clients see it. -/
def api : ApiServer SessionM where
  send := send
  clock := {
    now := return (← getThe Session).roundTrips
    waitUntil := fun n =>
      modifyThe Session fun s => { s with roundTrips := max s.roundTrips n } }
  report e := modifyThe Session fun s => { s with events := s.events ++ [e] }
  giveUp := throw .endless

/-- The cluster behind the server of a session. -/
def access (s : Session) : ClusterAccess SessionM := api.access s.pageSize s.pageBound

/-- What is known after an operation of a session. -/
structure Record where
  /-- What came of it; nothing, if a list did not come to an end. -/
  answer : Option Answer
  /-- What was sent. -/
  sent : List SentRequest
  /-- What was logged. -/
  events : List Event

/-- Performs an operation. -/
def perform (s : Session) (limit : Option Nat) (operation : Operation) : Record × Session :=
  let fresh := { s with sent := [], events := [] }
  let (answer, after) := (operation.perform fresh.access limit).run.run fresh
  ({ answer := answer.toOption, sent := after.sent, events := after.events }, after)

end Session

end SecretRotation
