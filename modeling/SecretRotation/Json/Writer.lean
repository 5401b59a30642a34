import SecretRotation.Json.Value

/-!
# Writing JSON compactly

A JSON value is written without any blanks. In a string a quotation mark, a backslash and the
control characters below `U+0020` are escaped, the five of them that have a letter by that letter
and the others by four hexadecimal digits in lower case; everything else stands for itself. A
garbled part has no text of its own, so `null` takes its place; a normal form has no such part.

## Main definitions

* `Json.quote`: the JSON string of a text.
* `Json.compact`: the text of a value.
-/

namespace SecretRotation.Json

/-- The lower-case hexadecimal digit of a number below sixteen. -/
def hexDigit (n : Nat) : Char := "0123456789abcdef".toList.getD n '0'

/-- How a character stands in a JSON string. -/
def escaped (c : Char) : List Char :=
  match c with
  | '"' => ['\\', '"']
  | '\\' => ['\\', '\\']
  | '\n' => ['\\', 'n']
  | '\r' => ['\\', 'r']
  | '\t' => ['\\', 't']
  | c =>
    if c.toNat = 8 then ['\\', 'b']
    else if c.toNat = 12 then ['\\', 'f']
    else if c.toNat < 32 then
      ['\\', 'u', '0', '0', hexDigit (c.toNat / 16), hexDigit (c.toNat % 16)]
    else [c]

/-- The JSON string of a text. -/
def quote (s : String) : String :=
  "\"" ++ String.ofList (s.toList.flatMap escaped) ++ "\""

mutual

/-- The text of a value, without blanks. -/
def compact : Json → String
  | .null | .garbled => "null"
  | .bool b => if b then "true" else "false"
  | .int n => toString n
  | .numeral text => text
  | .str s => quote s
  | .arr items => "[" ++ ",".intercalate (compactItems items) ++ "]"
  | .obj members => "\x7b" ++ ",".intercalate (compactMembers members) ++ "\x7d"

/-- The texts of the items of an array. -/
def compactItems : List Json → List String
  | [] => []
  | item :: items => item.compact :: compactItems items

/-- The texts of the members of an object. -/
def compactMembers : List (String × Json) → List String
  | [] => []
  | (name, value) :: members =>
    (quote name ++ ":" ++ value.compact) :: compactMembers members

end

end SecretRotation.Json
