import SecretRotation.Json.Value
import SecretRotation.Text.Decimal

/-!
# JSON numbers

Numbers follow the grammar of JSON. Those that are whole, not written `-0`, and fit into 64 bits
are integers; all others are kept as numerals.

A numeral stands for a number of double precision, so it must not be too large for one. Its digits
make a significand and a power of ten. The significand takes up digits as long as it fits into 64
bits; a digit of the whole part that it cannot take up counts for the power of ten, and one of the
fraction for nothing. Significand and power are each rounded to 53 bits, and it is their product
that has to be finite.

## Main definitions

* `Json.number?`: the number that a word denotes.
* `Json.isFinite`: whether a numeral is not too large.
-/

namespace SecretRotation.Json

/-! ### Grammar -/

/-- Whether the text is empty or an exponent. -/
def isExponent : List Char → Bool
  | [] => true
  | c :: rest =>
    let digits := match rest with
      | '+' :: ds => ds
      | '-' :: ds => ds
      | ds => ds
    (c == 'e' || c == 'E') && !digits.isEmpty && digits.all Char.isDigit

/-- Whether the text is a fraction, an exponent, or the one followed by the other. -/
def isFraction : List Char → Bool
  | '.' :: rest => (rest.head?.any Char.isDigit) && isExponent (rest.dropWhile Char.isDigit)
  | rest => isExponent rest

/-- The word without a minus sign in front. -/
def unsigned : List Char → List Char
  | '-' :: rest => rest
  | rest => rest

/-- What an integer has to stay below to fit into 64 bits. -/
def wordBound : Nat := 0x10000000000000000

/-- The number that a word denotes. A whole part has no needless zero in front. -/
def number? (word : List Char) : Option Json :=
  let negative := word.head? == some '-'
  let whole := (unsigned word).takeWhile Char.isDigit
  let rest := (unsigned word).dropWhile Char.isDigit
  let value := Text.decimalValue whole
  if whole.isEmpty || (whole.head? == some '0' && whole.length != 1) || !isFraction rest then
    none
  else if rest.isEmpty && negative && value != 0 && decide (value ≤ 0x8000000000000000) then
    some (.int (-value))
  else if rest.isEmpty && !negative && decide (value < wordBound) then
    some (.int value)
  else
    some (.numeral (String.ofList word))

/-! ### Magnitude -/

/-- The significand after as many further digits as it can take up, and the digits left over. -/
def takeDigits (significand : Nat) : List Char → Nat × List Char
  | [] => (significand, [])
  | d :: ds =>
    let next := 10 * significand + Text.decimalValue [d]
    if next < wordBound then takeDigits next ds else (significand, d :: ds)

/-- The digits of a fraction, and what follows it. -/
def splitFraction : List Char → List Char × List Char
  | '.' :: rest => (rest.takeWhile Char.isDigit, rest.dropWhile Char.isDigit)
  | rest => ([], rest)

/-- The number that an exponent says. -/
def exponentValue : List Char → Int
  | _ :: '-' :: ds => -(Text.decimalValue ds : Int)
  | _ :: '+' :: ds => Text.decimalValue ds
  | _ :: ds => Text.decimalValue ds
  | [] => 0

/-- A number rounded to 53 bits, a tie to the even neighbour. -/
def roundToDouble (n : Nat) : Nat :=
  let unit := 1 <<< (n.log2 - 52)
  let down := n / unit
  let excess := 2 * (n % unit)
  if unit < excess || (excess == unit && down % 2 == 1) then (down + 1) * unit else down * unit

/-- Whether a significand and a power of ten make a number of double precision. -/
def fitsDouble (significand : Nat) (exponent : Int) : Bool :=
  significand == 0 || decide (exponent < 0) ||
    (decide (exponent ≤ 308) &&
      decide (roundToDouble significand * roundToDouble (Nat.pow 10 exponent.toNat) <
        0x3FFFFFFFFFFFFF <<< 970))

/-- Whether a numeral is not too large. -/
def isFinite (word : List Char) : Bool :=
  let whole := takeDigits 0 ((unsigned word).takeWhile Char.isDigit)
  let fraction := splitFraction ((unsigned word).dropWhile Char.isDigit)
  let taken := takeDigits whole.1 fraction.1
  fitsDouble taken.1
    (whole.2.length - (fraction.1.length - taken.2.length : Nat) + exponentValue fraction.2)

end SecretRotation.Json
