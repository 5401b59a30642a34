import SecretRotation.Text.Quoted

/-!
# Text on a console

A console takes some control characters for commands: the escape character and what follows it, the
bell, backspace, form feed, delete, and the controls between `U+0080` and `U+009F`. Text that is
logged to a console has them shown as their code points, so that it cannot move the cursor or change
colours. Line breaks and everything else stand for themselves.

## Main definitions

* `Text.harmless`: a text as it is written to a console.
* `Text.firstLine`: the first line of a text.
-/

namespace SecretRotation.Text

/-- How a character is written to a console. -/
def onConsole (c : Char) : List Char :=
  let code := c.toNat
  if 0x80 ≤ code ∧ code < 0xA0 then ['\\', 'u', '\x7b'] ++ hexDigits code ++ ['\x7d']
  else if [0x07, 0x08, 0x0C, 0x1B, 0x7F].contains code then
    ['\\', 'x', Json.hexDigit (code / 16), Json.hexDigit (code % 16)]
  else [c]

/-- A text as it is written to a console. -/
def harmless (text : String) : String := String.ofList (text.toList.flatMap onConsole)

/-- The first line of a text. A carriage return in front of a line break belongs to it. -/
def firstLine (text : String) : String :=
  let line := text.toList.takeWhile (· != '\n')
  if line.length < text.toList.length ∧ line.getLast? = some '\r' then String.ofList line.dropLast
  else String.ofList line

end SecretRotation.Text
