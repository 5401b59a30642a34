import SecretRotation.Text.Visible
import SecretRotation.Json.Writer

/-!
# Quoted text

The form in which a failure shows a text so that nothing in it can be mistaken or overlooked: the
text stands between quotation marks; a quotation mark, a backslash and the four control characters
that have a short name are escaped by a backslash; every other character that is not visible is
shown as its code point in hexadecimal digits between braces.

## Main definitions

* `Text.quoted`: the quoted form of a text.
-/

namespace SecretRotation.Text

/-- The hexadecimal digits of a number, without leading zeros, in lower case. -/
def hexDigits (n : Nat) : List Char :=
  if n < 16 then [Json.hexDigit n] else hexDigits (n / 16) ++ [Json.hexDigit (n % 16)]

/-- How a character is shown within quotation marks. -/
def shown (c : Char) : List Char :=
  match c with
  | '\x00' => ['\\', '0']
  | '\t' => ['\\', 't']
  | '\r' => ['\\', 'r']
  | '\n' => ['\\', 'n']
  | '\\' => ['\\', '\\']
  | '"' => ['\\', '"']
  | c => if isVisible c then [c] else ['\\', 'u', '\x7b'] ++ hexDigits c.toNat ++ ['\x7d']

/-- The quoted form of a text. -/
def quoted (text : String) : String :=
  "\"" ++ String.ofList (text.toList.flatMap shown) ++ "\""

end SecretRotation.Text
