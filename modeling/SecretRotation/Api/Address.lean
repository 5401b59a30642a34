import SecretRotation.Failure

/-!
# Addresses

The address of a request, as it is sent on a connection that is already there: a path, and after the
first question mark a query. Whatever follows a number sign is not sent.

Not every character may stand in an address. In a path these are the characters that need no
percent-encoding, the braces and the quotation mark, and all characters beyond ASCII; a query
admits some more. An address with any other character, one that does not begin with a slash, or one
of more than 65534 bytes cannot be sent.

## Main definitions

* `Address`, `Address.ofText`.
-/

namespace SecretRotation

/-- The address of a request. -/
structure Address where
  /-- The path. -/
  path : String
  /-- The query, if there is one. -/
  query : Option String
  deriving DecidableEq

namespace Address

/-- The greatest number of bytes in an address. -/
def maxSize : Nat := 65534

/-- Whether a character may stand in a path. -/
def isPathChar (c : Char) : Bool :=
  let n := c.toNat
  n == 0x21 || n == 0x22 || (decide (0x24 ≤ n) && decide (n ≤ 0x3B)) || n == 0x3D ||
    (decide (0x40 ≤ n) && decide (n ≤ 0x5F)) || (decide (0x61 ≤ n) && n != 0x7F)

/-- Whether a character may stand in a query. -/
def isQueryChar (c : Char) : Bool :=
  let n := c.toNat
  n == 0x21 || (decide (0x24 ≤ n) && decide (n ≤ 0x3B)) || n == 0x3D ||
    (decide (0x3F ≤ n) && n != 0x7F)

/-- The path and the query that a text denotes, which may both be empty. -/
def split? (text : List Char) : Option (List Char × Option (List Char)) :=
  let sent := text.takeWhile (· != '#')
  let path := sent.takeWhile (· != '?')
  let query := (sent.dropWhile (· != '?')).tail?
  if path.all isPathChar && (query.getD []).all isQueryChar then some (path, query) else none

/-- The address that a text denotes. -/
def ofText (text : String) : Except SendFault Address :=
  if maxSize < text.utf8ByteSize then .error .longAddress
  else
    match split? text.toList with
    | some (path, query) =>
      if path.head? = some '/' then .ok ⟨String.ofList path, query.map String.ofList⟩
      else .error .invalidAddress
    | none => .error .invalidAddress

end Address

end SecretRotation
