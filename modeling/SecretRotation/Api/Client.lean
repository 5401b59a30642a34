import SecretRotation.Api.Reading
import SecretRotation.Pass.Access
import SecretRotation.Text.FormEncoding

/-!
# The cluster behind an API server

The operations that a pass needs, as requests to an API server.

* Workloads are listed page by page. The first request says how many workloads a page may hold; each
  further one also carries the token of the page before it. The list ends with the first page
  without a token, or with the first request that does not succeed.
* A secret is fetched by its namespace and name.
* A workload is replaced as a whole, under its own namespace and name; the reply carries it as it is
  stored.

Namespaces and names go into paths as they are. A request about an object without a name, or with an
address that cannot be sent, is not sent, and fails at once; every other request takes a round
trip.

## Main definitions

* `Request.list`, `Request.fetch`, `Request.replace`.
* `readPages`: a list, page by page.
* `ApiServer`, `ApiServer.access`.
-/

namespace SecretRotation

/-! ### Requests -/

namespace Request

/-- The path of the workloads of a kind in a namespace. -/
def workloadsPath (k : Kind) (ns : String) : String :=
  "/apis/" ++ Kind.apiVersion ++ "/namespaces/" ++ ns ++ "/" ++ k.plural

/-- A request without a body. -/
def get (address : String) : Except SendFault Request := do
  return ⟨"GET", ← Address.ofText address, .empty⟩

/-- A name that can be part of a path. -/
def nonemptyName (name : String) : Except SendFault String :=
  if name = "" then .error .unnamed else .ok name

/-- The request for a page of a list. -/
def list (k : Kind) (ns : String) (pageSize : Nat) (token : Option String) :
    Except SendFault Request :=
  get (workloadsPath k ns ++ "?&limit=" ++ toString pageSize ++
    (token.elim "" fun t => "&continue=" ++ Text.formEncoded t))

/-- The request for a secret. -/
def fetch (secret : SecretRef) : Except SendFault Request := do
  let name ← nonemptyName secret.name
  get ("/api/v1/namespaces/" ++ secret.ns ++ "/secrets/" ++ name)

/-- The request to replace a workload. -/
def replace {k : Kind} (w : Workload k) : Except SendFault Request := do
  let name ← nonemptyName w.identity.name
  let address ← Address.ofText
    (workloadsPath k w.identity.ns ++ "/" ++ name ++ "?&fieldManager=" ++ operatorName)
  return ⟨"PUT", address, .document ((Workload.codec k).write w)⟩

end Request

/-! ### Operations -/

/-- An API server, as far as its clients see it. -/
structure ApiServer (m : Type → Type) where
  /-- Sends a request and receives the reply. -/
  send : Request → m Reply
  /-- A clock that counts round trips. -/
  clock : Clock m
  /-- Logs an event. -/
  report : Event → m Unit
  /-- Gives up on a list that does not come to an end. -/
  giveUp : {α : Type} → m α

variable {m : Type → Type} [Monad m]

/-- Sends a request, if it can be put together, and reads the reply. -/
def exchange {α : Type} (server : ApiServer m) (request : Except SendFault Request)
    (readDocument : Json → Option α) : m (Except Fault α) := do
  match request with
  | .error fault => return .error (.unsendable fault)
  | .ok request => return (← server.send request).read readDocument

/-- Reads a list from the page of a token on, at most `bound` pages of it. `items` are those of the
pages before. -/
def readPages (server : ApiServer m) (k : Kind) (ns : String) (pageSize : Nat) :
    (bound : Nat) → (token : Option String) → (items : List (Workload k)) →
      m (Except Fault (List (Workload k)))
  | 0, _, _ => server.giveUp
  | bound + 1, token, items => do
    match ← exchange server (Request.list k ns pageSize token) (Page.ofDocument? k) with
    | .error fault => return .error fault
    | .ok page =>
      match page.next with
      | none =>
        server.report (.listed (items ++ page.items).length k)
        return .ok (items ++ page.items)
      | some next =>
        server.report (.nextPage k)
        readPages server k ns pageSize bound (some next) (items ++ page.items)

/-- The cluster behind an API server, whose lists are read in pages of some size, at most `bound` of
them. A page holds at least one workload. -/
def ApiServer.access (server : ApiServer m) (pageSize bound : Nat) : ClusterAccess m where
  clock := server.clock
  report := server.report
  fetch secret := exchange server (Request.fetch secret) Secret.codec.read
  list k ns := readPages server k ns (max 1 pageSize) bound none []
  update k w := do
    match Request.replace w with
    | .error fault => return .settled (.error (.unsendable fault))
    | .ok request =>
      let reply ← server.send request
      return .underway ((← server.clock.now) + 1) (return reply.read (Workload.codec k).read)

end SecretRotation
