import SecretRotation.Text.Blank
import SecretRotation.Text.Decimal

/-!
# Timestamps

A timestamp is a moment in universal time, to the nanosecond. It is read from texts in a loose form
of RFC 3339 and written in a strict one:

* On reading, blanks may stand around the parts of the text, and numbers need not be filled up with
  zeros. The date and the time of day are separated by a `T` or a single space. Fractions of a
  second have any number of digits, those after the ninth counting for nothing. The zone is `Z`,
  `UTC` or a distance from universal time in hours and minutes, and the moment is taken to universal
  time. A second may be a leap second, whatever the minute.
* On writing, fractions of a second are left out, and the zone is always `Z`. Years before the year
  0 and after the year 9999 have a sign.

## Main definitions

* `Text.Date`: the days of the calendar, with `Date.next` and `Date.previous`.
* `Text.Timestamp`, `Timestamp.ofText?`, `Timestamp.text`.
-/

namespace SecretRotation.Text

/-! ### Days -/

/-- A day of the calendar, or of no month at all. -/
structure Date where
  year : Int
  month : Nat
  day : Nat
  deriving DecidableEq

namespace Date

/-- Whether a year has 366 days. -/
def isLeapYear (year : Int) : Bool := year % 4 == 0 && (year % 100 != 0 || year % 400 == 0)

/-- How many days a month has. -/
def daysInMonth (year : Int) : Nat → Nat
  | 2 => if isLeapYear year then 29 else 28
  | 4 | 6 | 9 | 11 => 30
  | _ => 31

/-- The days that there are, in the range of years that is kept. -/
def Valid (d : Date) : Prop :=
  (-262143 ≤ d.year ∧ d.year ≤ 262142) ∧ (1 ≤ d.month ∧ d.month ≤ 12) ∧
    1 ≤ d.day ∧ d.day ≤ daysInMonth d.year d.month

instance (d : Date) : Decidable d.Valid := inferInstanceAs (Decidable (_ ∧ _))

/-- The day after. -/
def next (d : Date) : Date :=
  if d.day < daysInMonth d.year d.month then { d with day := d.day + 1 }
  else if d.month < 12 then ⟨d.year, d.month + 1, 1⟩
  else ⟨d.year + 1, 1, 1⟩

/-- The day before. -/
def previous (d : Date) : Date :=
  if 1 < d.day then { d with day := d.day - 1 }
  else if 1 < d.month then ⟨d.year, d.month - 1, daysInMonth d.year (d.month - 1)⟩
  else ⟨d.year - 1, 12, 31⟩

end Date

/-! ### Moments -/

/-- A moment, or no moment at all, in a zone that is known. -/
structure Moment where
  date : Date
  hour : Nat
  minute : Nat
  /-- The second; 60 is a leap second. -/
  second : Nat
  nanosecond : Nat
  deriving DecidableEq

namespace Moment

/-- The moments that there are. -/
def Valid (m : Moment) : Prop :=
  m.date.Valid ∧ m.hour < 24 ∧ m.minute < 60 ∧ m.second ≤ 60 ∧ m.nanosecond < 1000000000

instance (m : Moment) : Decidable m.Valid := inferInstanceAs (Decidable (_ ∧ _))

/-- A moment in a zone some minutes ahead of universal time, in universal time. -/
def earlier (m : Moment) (ahead : Int) : Moment :=
  let minutes : Int := 60 * m.hour + m.minute - ahead
  { m with
    date :=
      if minutes < 0 then m.date.previous
      else if minutes < 1440 then m.date
      else m.date.next
    hour := (minutes % 1440).toNat / 60
    minute := (minutes % 1440).toNat % 60 }

end Moment

/-- A moment in universal time. -/
structure Timestamp where
  moment : Moment
  valid : moment.Valid
  deriving DecidableEq

/-- The moment from which moments are counted. -/
def Timestamp.epoch : Timestamp := ⟨⟨⟨1970, 1, 1⟩, 0, 0, 0, 0⟩, by decide⟩

/-! ### Reading -/

namespace Timestamp

/-- The text without blanks in front. -/
def skipBlanks (cs : List Char) : List Char := cs.dropWhile isBlank

/-- The digits at the front of a text, at most so many, as a number. There must be one. -/
def number? (most : Nat) (cs : List Char) : Option (Nat × List Char) :=
  let digits := (cs.take most).takeWhile Char.isDigit
  if digits.isEmpty then none else some (decimalValue digits, cs.drop digits.length)

/-- A number of at most two digits, behind blanks. -/
def part? (cs : List Char) : Option (Nat × List Char) := number? 2 (skipBlanks cs)

/-- What follows a character, behind blanks. -/
def after? (c : Char) (cs : List Char) : Option (List Char) :=
  match skipBlanks cs with
  | d :: rest => if d = c then some rest else none
  | [] => none

/-- A year, behind blanks. With a sign it has any number of digits, otherwise at most four. -/
def year? (cs : List Char) : Option (Int × List Char) :=
  match skipBlanks cs with
  | '-' :: rest => (number? rest.length rest).map fun n => (-(n.1 : Int), n.2)
  | '+' :: rest => (number? rest.length rest).map fun n => ((n.1 : Int), n.2)
  | cs => (number? 4 cs).map fun n => ((n.1 : Int), n.2)

/-- A date. -/
def date? (cs : List Char) : Option (Date × List Char) := do
  let (year, cs) ← year? cs
  let (month, cs) ← part? (← after? '-' cs)
  let (day, cs) ← part? (← after? '-' cs)
  return (⟨year, month, day⟩, cs)

/-- What follows the sign between the date and the time of day. -/
def afterDate? : List Char → Option (List Char)
  | 'T' :: rest | 't' :: rest | ' ' :: rest => some rest
  | _ => none

/-- The fraction of a second in nanoseconds; nothing is none. -/
def nanosecond? : List Char → Option (Nat × List Char)
  | '.' :: cs =>
    (number? 9 cs).map fun n =>
      (n.1 * Nat.pow 10 (9 - (cs.length - n.2.length)), n.2.dropWhile Char.isDigit)
  | cs => some (0, cs)

/-- Two digits, as a number. -/
def twoDigits? : List Char → Option (Nat × List Char)
  | a :: b :: rest =>
    if a.isDigit && b.isDigit then some (decimalValue [a, b], rest) else none
  | _ => none

/-- The hours and minutes of a zone, as minutes. -/
def distance? (cs : List Char) : Option (Int × List Char) := do
  let (hours, cs) ← twoDigits? cs
  let (minutes, cs) ← twoDigits? (cs.dropWhile fun c => c == ':' || isBlank c)
  guard (hours < 24 ∧ minutes < 60)
  return (60 * hours + minutes, cs)

/-- How many minutes a zone is ahead of universal time. -/
def zone? (cs : List Char) : Option (Int × List Char) :=
  match skipBlanks cs with
  | 'Z' :: rest | 'z' :: rest => some (0, rest)
  | '+' :: rest => distance? rest
  | '-' :: rest | '−' :: rest => (distance? rest).map fun d => (-d.1, d.2)
  | a :: b :: c :: rest =>
    if [a, b, c].map Char.toLower = ['u', 't', 'c'] then some (0, rest) else none
  | _ => none

/-- A moment in its own zone, and how many minutes this zone is ahead of universal time. -/
def local? (cs : List Char) : Option ((Moment × Int) × List Char) := do
  let (date, cs) ← date? cs
  let (hour, cs) ← part? (← afterDate? cs)
  let (minute, cs) ← part? (← after? ':' cs)
  let (second, cs) ← part? (← after? ':' cs)
  let (nanosecond, cs) ← nanosecond? cs
  let (ahead, cs) ← zone? cs
  return ((⟨date, hour, minute, second, nanosecond⟩, ahead), cs)

/-- The moment that a text denotes. -/
def ofText? (text : String) : Option Timestamp := do
  let ((moment, ahead), rest) ← local? text.toList
  guard (skipBlanks rest = [] ∧ moment.Valid)
  if h : (moment.earlier ahead).Valid then some ⟨moment.earlier ahead, h⟩ else none

/-! ### Writing -/

/-- The last digits of a number, so many of them. -/
def digits : (width : Nat) → Nat → List Char
  | 0, _ => []
  | width + 1, n => digits width (n / 10) ++ [Char.ofNat ('0'.toNat + n % 10)]

/-- The digits of a year without its sign, at least four of them. -/
def yearDigits (n : Nat) : List Char :=
  digits (if n < 10000 then 4 else if n < 100000 then 5 else 6) n

/-- A year, with a sign unless it has four digits and is not negative. -/
def yearText (year : Int) : List Char :=
  if year < 0 then '-' :: yearDigits year.natAbs
  else if year < 10000 then yearDigits year.natAbs
  else '+' :: yearDigits year.natAbs

/-- The characters of a timestamp. -/
def chars (t : Timestamp) : List Char :=
  yearText t.moment.date.year ++ '-' :: digits 2 t.moment.date.month ++
    '-' :: digits 2 t.moment.date.day ++ 'T' :: digits 2 t.moment.hour ++
      ':' :: digits 2 t.moment.minute ++ ':' :: digits 2 t.moment.second ++ ['Z']

/-- The text of a timestamp, without fractions of a second. -/
def text (t : Timestamp) : String := String.ofList t.chars

end Timestamp

end SecretRotation.Text
