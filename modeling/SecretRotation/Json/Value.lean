/-!
# JSON values

Objects of a cluster travel and are stored as JSON. A JSON value is a finite tree; whole numbers
are kept as integers and every other numeral as the text it was written with, since nothing here
computes with fractions.

The members of an object are a list of names and values. A document that is read as it stands has
them in the order in which they were written, and a name may come more than once
(`Json.occurrences`). The normal form (`Json.normal?`) has each name once, in ascending order, so
that two documents differing only in the order of members have the same one.

A text can be well formed and still hold a part that denotes nothing: half of a character pair
makes a string, and an object with a member of that name, garbled. Whoever passes over a garbled
part need not care; the normal form of a document has none.

## Main definitions

* `SecretRotation.Json`: the values.
* `Json.member?`: the member of an object under a name.
* `Json.occurrences`, `Json.atMostOne?`: all values under a name, and the only one.
-/

namespace SecretRotation

/-- A JSON value. -/
inductive Json
  | null
  | bool (b : Bool)
  /-- A whole number between `-2^63` and `2^64 - 1`. -/
  | int (n : Int)
  /-- Any other number, as it was written. -/
  | numeral (text : String)
  | str (s : String)
  | arr (items : List Json)
  | obj (members : List (String × Json))
  /-- A string with half of a character pair in it, or an object with a name of that kind. -/
  | garbled
  deriving Inhabited

namespace Json

/-- The first member under a name, if the value is an object that has one. -/
def member? (name : String) : Json → Option Json
  | .obj members => members.lookup name
  | _ => none

/-- The values under a name among members, in their order. -/
def occurrences (members : List (String × Json)) (name : String) : List Json :=
  (members.filter fun m => m.1 == name).map Prod.snd

/-- The value under a name among members, if any; it must not come twice. -/
def atMostOne? (members : List (String × Json)) (name : String) : Option (Option Json) :=
  match occurrences members name with
  | [] => some none
  | [value] => some (some value)
  | _ => none

/-- Whether a value is `null`. -/
def isNull : Json → Bool
  | .null => true
  | _ => false

/-- The text of a JSON string. -/
def text? : Json → Option String
  | .str s => some s
  | _ => none

/-- The items of a JSON array. -/
def items? : Json → Option (List Json)
  | .arr items => some items
  | _ => none

/-- The value of a JSON number that is whole and not negative. -/
def count? : Json → Option Nat
  | .int n => n.toNat?
  | _ => none

end Json

end SecretRotation
