import SecretRotation.Api.Address
import SecretRotation.Json.Reader
import SecretRotation.Json.Writer

/-!
# Requests and replies

What is sent to an API server and what comes back. A body is either a JSON document, which is sent
compactly, or just a text, which may be that of a document.

## Main definitions

* `Body`, `Request`, `Reply`.
* `Body.document?`: the document that a body is.
* `Request.isMethod`: whether a text can be the method of a request.
-/

namespace SecretRotation

/-- The body of a request or a reply. -/
inductive Body
  /-- A JSON document. -/
  | document (value : Json)
  /-- A text. -/
  | plain (text : String)

namespace Body

/-- No body. -/
def empty : Body := .plain ""

/-- The text of a body. -/
def toText : Body → String
  | .document value => value.compact
  | .plain text => text

/-- The document that a body is, if it is one. -/
def document? : Body → Option Json
  | .document value => some value
  | .plain text => Json.read? text

end Body

/-- A request. -/
structure Request where
  /-- The method, such as `GET` or `PUT`. -/
  method : String
  /-- Where it is sent to. -/
  address : Address
  /-- Its body. -/
  body : Body

namespace Request

/-- Whether a character may stand in a method. -/
def isMethodChar (c : Char) : Bool :=
  c.isAlphanum || "!#$%&'*+-.^_`|~".toList.contains c

/-- Whether a text can be a method. -/
def isMethod (text : String) : Bool := text != "" && text.toList.all isMethodChar

end Request

/-- What comes back on a request. -/
inductive Reply
  /-- A reply with a status and a body. -/
  | response (status : Nat) (body : Body)
  /-- Nothing, since the connection broke. -/
  | broken (message : String)

end SecretRotation
