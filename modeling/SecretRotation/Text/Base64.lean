/-!
# Base64 texts

The payload of a secret travels as base64 with the standard alphabet: groups of four characters,
each standing for six bits, the last group padded with `=` to its length and the bits it has to
spare being zero. With these rules every sequence of bytes has exactly one text, so the text itself
is kept in place of the bytes: nothing here looks into a payload, and writing it again gives the
same text.

## Main definitions

* `Text.isBase64`: the texts that stand for some bytes.
* `Text.Base64`: such a text.
-/

namespace SecretRotation.Text

/-- The six bits that a character of the standard alphabet stands for. -/
def sextet? (c : Char) : Option Nat :=
  if 'A' ≤ c ∧ c ≤ 'Z' then some (c.toNat - 'A'.toNat)
  else if 'a' ≤ c ∧ c ≤ 'z' then some (c.toNat - 'a'.toNat + 26)
  else if '0' ≤ c ∧ c ≤ '9' then some (c.toNat - '0'.toNat + 52)
  else if c = '+' then some 62
  else if c = '/' then some 63
  else none

/-- Whether a character stands for six bits that, as a number, are a multiple of `unit`. -/
def isSextet (unit : Nat) (c : Char) : Bool := (sextet? c).any fun bits => bits % unit == 0

/-- Whether characters are the base64 text of some bytes. -/
def isBase64 : List Char → Bool
  | [] => true
  | [a, b, '=', '='] => isSextet 1 a && isSextet 16 b
  | [a, b, c, '='] => isSextet 1 a && isSextet 1 b && isSextet 4 c
  | a :: b :: c :: d :: rest =>
    isSextet 1 a && isSextet 1 b && isSextet 1 c && isSextet 1 d && isBase64 rest
  | _ => false

/-- The base64 text of some bytes. -/
structure Base64 where
  /-- The text. -/
  text : String
  /-- It stands for some bytes. -/
  isBase64 : Text.isBase64 text.toList = true
  deriving DecidableEq

/-- The text of no bytes at all. -/
def Base64.empty : Base64 := ⟨"", rfl⟩

/-- A text, if it is the base64 text of some bytes. -/
def Base64.ofText? (text : String) : Option Base64 :=
  if h : Text.isBase64 text.toList = true then some ⟨text, h⟩ else none

end SecretRotation.Text
