import SecretRotation.Api.Exchange
import SecretRotation.Sample

/-!
# Canned replies

An API server that answers from a list of replies prepared beforehand. The replies for a method and
a path are used one after the other in the order in which they were prepared, the last of them for
ever; the query of a request does not matter. A request that nothing was prepared for is answered
as one for something that does not exist. For some methods and paths the connection may be set to
break, and then it always does; what was set last says how.

## Main definitions

* `CannedReply`, `CannedServer`, `CannedServer.serve`.
-/

namespace SecretRotation

/-- A reply prepared for a method and a path. -/
structure CannedReply where
  method : String
  path : String
  status : Nat
  body : Body

/-- A method and a path on which the connection breaks. -/
structure BrokenRoute where
  method : String
  path : String
  message : String

/-- A server with replies prepared beforehand. -/
structure CannedServer where
  /-- The replies that are left, in the order in which they were prepared. -/
  replies : List CannedReply := []
  /-- Where the connection breaks, in the order in which it was set. -/
  broken : List BrokenRoute := []

namespace CannedServer

/-- The answer where nothing was prepared. -/
def unknown : Reply := .response 404 (.document (Sample.notFound "resource" "unknown"))

/-- The reply to a request, and the server after it. -/
def serve (server : CannedServer) (method path : String) : Reply × CannedServer :=
  let isFor := fun r : CannedReply => r.method = method && r.path = path
  match (server.broken.filter fun r => r.method = method && r.path = path).getLast? with
  | some route => (.broken route.message, server)
  | none =>
    match server.replies.filter isFor with
    | [] => (unknown, server)
    | [last] => (.response last.status last.body, server)
    | next :: _ =>
      (.response next.status next.body, { server with replies := server.replies.eraseP isFor })

end CannedServer

end SecretRotation
