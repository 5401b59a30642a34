import SecretRotation.Api.Address

/-!
# Addresses in full

A request may name the server it is meant for in front of its path: a scheme, a colon, two slashes,
and an authority, which ends before the next slash, question mark or number sign. The path may then
be left out, and is a slash. An authority alone, without a scheme, is an address with an empty
path, and an asterisk alone is one for a server as a whole.

A scheme has at most `maxScheme` characters. An authority is made of the characters that addresses
reserve and those that they need not encode. It may hold one pair of square brackets; at most one
colon may stand outside of them, and behind the last at sign. A percent sign must be followed by an
at sign or a closing bracket, and nothing ends with an at sign.

## Main definitions

* `Address.isAuthority`: whether a text is an authority.
* `Address.ofFullText?`: the address that a text denotes, in full or not.
-/

namespace SecretRotation.Address

/-! ### Schemes -/

/-- Whether a character may stand in a scheme. -/
def isSchemeChar (c : Char) : Bool := c.isAlphanum || "+-.~".toList.contains c

/-- The greatest number of characters in a scheme. -/
def maxScheme : Nat := 64

/-- The scheme of an address and what follows its two slashes, if it has a scheme. -/
def splitScheme? (text : List Char) : Option (List Char × List Char) :=
  match text.dropWhile isSchemeChar with
  | ':' :: '/' :: '/' :: rest => some (text.takeWhile isSchemeChar, rest)
  | _ => none

/-! ### Authorities -/

/-- Whether a character may stand in an authority. -/
def isAuthorityChar (c : Char) : Bool := c.isAlphanum || "!$&'()*+,-.:;=@[]_~%".toList.contains c

/-- Whether a character ends an authority. -/
def endsAuthority (c : Char) : Bool := c == '/' || c == '?' || c == '#'

/-- What has been seen of an authority. -/
structure AuthorityScan where
  /-- How many colons there are that may still turn out not to count. -/
  colons : Nat := 0
  /-- Whether the brackets have been opened. -/
  opened : Bool := false
  /-- Whether the brackets have been closed. -/
  closed : Bool := false
  /-- Whether there is a percent sign that nothing has allowed yet. -/
  percent : Bool := false

/-- How many colons there may be before it is known whether they count. -/
def maxColons : Nat := 8

/-- The scan after one more character. -/
def AuthorityScan.step (scan : AuthorityScan) (c : Char) : Option AuthorityScan :=
  if !isAuthorityChar c then none
  else
    match c with
    | ':' => if scan.colons < maxColons then some { scan with colons := scan.colons + 1 } else none
    | '[' => if scan.percent || scan.opened then none else some { scan with opened := true }
    | ']' =>
      if !scan.opened || scan.closed then none
      else some { scan with closed := true, colons := 0, percent := false }
    | '@' => some { scan with colons := 0, percent := false }
    | '%' => some { scan with percent := true }
    | _ => some scan

/-- Whether a text is an authority, which may be empty. -/
def isAuthority (text : List Char) : Bool :=
  text.getLast? != some '@' &&
    match text.foldlM AuthorityScan.step {} with
    | some scan => scan.opened == scan.closed && decide (scan.colons ≤ 1) && !scan.percent
    | none => false

/-! ### Addresses -/

/-- The address after an authority. -/
def afterAuthority? (text : List Char) : Option Address :=
  (split? text).map fun (path, query) =>
    ⟨if path.isEmpty then "/" else String.ofList path, query.map String.ofList⟩

/-- The address that a text without a path of its own denotes. -/
def ofServer? (text : List Char) : Option Address :=
  match splitScheme? text with
  | some (scheme, rest) =>
    let authority := rest.takeWhile (!endsAuthority ·)
    if scheme.length ≤ maxScheme && !authority.isEmpty && isAuthority authority then
      afterAuthority? (rest.dropWhile (!endsAuthority ·))
    else none
  | none => if !text.isEmpty && isAuthority text then some ⟨"", none⟩ else none

/-- The address that a text denotes. -/
def ofFullText? (text : String) : Option Address :=
  match text.toList with
  | ['*'] => some ⟨"*", none⟩
  | '/' :: _ => (ofText text).toOption
  | cs => if maxSize < text.utf8ByteSize then none else ofServer? cs

end SecretRotation.Address
