import SecretRotation.Failure
import SecretRotation.Text.Blank

/-!
# Settings

The operator is set up by three environment variables: the namespace whose secrets are watched, the
number of updates that may be under way at a time, and the number of workloads asked for per page
of a list. A variable whose value is not valid UTF-8 counts as not set.

A number is written in decimal digits, with one plus sign in front if need be and blanks around it;
it has to fit its word. No updates at all means no limit, while a page must not be empty.

## Main definitions

* `Environment`, `Environment.text?`.
* `Settings`, `Settings.read`.
* `readNumber`: the number that a text denotes; `readDigits`, how its digits are taken up.
-/

namespace SecretRotation

/-- The environment of the operator: variables with the bytes they are set to. -/
abbrev Environment := List (String × ByteArray)

/-- The text that a variable is set to. -/
def Environment.text? (env : Environment) (name : String) : Option String :=
  (env.lookup name).bind String.fromUTF8?

/-- What the operator is set up to do. -/
structure Settings where
  /-- The namespace whose secrets are watched; those of all namespaces, if none. -/
  watchNamespace : Option String
  /-- How many updates may be under way at a time; any number, if none. -/
  maxConcurrentUpdates : Option Nat
  /-- How many workloads are asked for per page of a list. -/
  listPageSize : Nat
  deriving DecidableEq

/-- The number of workloads per page where nothing is set. -/
def defaultPageSize : Nat := 500

/-- What a limit of updates has to stay below to fit its word of 64 bits. -/
def updatesBound : Nat := 0x10000000000000000

/-- What a page size has to stay below to fit its word of 32 bits. -/
def pageSizeBound : Nat := 0x100000000

/-- The number below a bound that characters denote behind the digits of a number. They are taken up
one after the other; there is no number if one of them is no digit, or takes it to the bound. -/
def readDigits (bound : Nat) : Nat → List Char → Option Nat
  | n, [] => some n
  | n, c :: cs =>
    let next := 10 * n + (c.toNat - '0'.toNat)
    if c.isDigit && next < bound then readDigits bound next cs else none

/-- The number below a bound that characters denote: digits, after at most one plus sign. -/
def readUnsigned (bound : Nat) (cs : List Char) : Option Nat :=
  let digits := match cs with
    | '+' :: rest => rest
    | rest => rest
  if digits.isEmpty then none else readDigits bound 0 digits

/-- The number below a bound that a text denotes, blanks around it aside. -/
def readNumber (bound : Nat) (text : String) : Option Nat :=
  readUnsigned bound (Text.trimmed text.toList)

namespace Settings

/-- A number from the environment; none if the variable is not set. -/
def number? (env : Environment) (name : String) (bound : Nat) : Except Failure (Option Nat) :=
  match env.text? name with
  | none => .ok none
  | some text =>
    match readNumber bound text with
    | some n => .ok (some n)
    | none =>
      .error (.settings (name ++ " must be a non-negative integer, got '" ++ text ++ "'"))

/-- The settings that an environment asks for. Of two unusable numbers, the limit of updates is
complained about. -/
def read (env : Environment) : Except Failure Settings := do
  let updates ← number? env "MAX_CONCURRENT_UPDATES" updatesBound
  let pageSize ← number? env "LIST_PAGE_SIZE" pageSizeBound
  let pageSize := pageSize.getD defaultPageSize
  if pageSize = 0 then
    throw (.settings "LIST_PAGE_SIZE must be greater than 0")
  return {
    watchNamespace := (env.text? "WATCH_NAMESPACE").filter fun ns => ns != ""
    maxConcurrentUpdates := updates.filter fun n => n != 0
    listPageSize := pageSize }

end Settings

end SecretRotation
