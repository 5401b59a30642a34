/-!
# Form encoding

The encoding of a text as the value of a parameter in the query of a URI: letters and digits of
ASCII and the marks `*`, `-`, `.` and `_` stand for themselves, a space becomes a plus sign, and
every byte of anything else a percent sign with two hexadecimal digits in upper case.

## Main definitions

* `Text.formEncoded`: the encoded text.
-/

namespace SecretRotation.Text

/-- The upper-case hexadecimal digit of a number below sixteen. -/
def upperHexDigit (n : Nat) : Char := "0123456789ABCDEF".toList.getD n '0'

/-- Whether a byte is the code of a character that stands for itself. -/
def standsForItself (b : UInt8) : Bool :=
  let c := Char.ofNat b.toNat
  c.isAlphanum || c == '*' || c == '-' || c == '.' || c == '_'

/-- The encoding of a byte. -/
def formEncodedByte (b : UInt8) : List Char :=
  if standsForItself b then [Char.ofNat b.toNat]
  else if b = 0x20 then ['+']
  else ['%', upperHexDigit (b.toNat / 16), upperHexDigit (b.toNat % 16)]

/-- The encoding of a text. -/
def formEncoded (text : String) : String :=
  String.ofList ((text.toList.flatMap String.utf8EncodeChar).flatMap formEncodedByte)

end SecretRotation.Text
