/-!
# Decimal digits

The number that a list of ASCII digits denotes, the first digit counting most. Leading zeros add
nothing, and no digits at all denote zero.

## Main definitions

* `Text.decimalValue`.
-/

namespace SecretRotation.Text

/-- The number that decimal digits denote. -/
def decimalValue (digits : List Char) : Nat :=
  digits.foldl (fun n d => 10 * n + (d.toNat - '0'.toNat)) 0

end SecretRotation.Text
