import SecretRotation.Json.Value
import SecretRotation.OrderedMap

/-!
# Typed values as JSON

A codec says how the values of a type are written as JSON and which JSON values are read as one of
them. For a structure it is put together from the members of a JSON object:

* `Fields σ α` describes some members of the object that stands for a value of type `σ`; reading
  those members gives an `α`. Descriptions are combined with `<$>` and `<*>`, so a structure is
  described by its constructor applied to one description per field.
* `Fields.optional` is a member that may be left out, and is left out on writing if the field is
  empty; `Fields.required` is always written and has a default on reading.
* A member that is `null` is read like one that is left out, and members that no description
  names are passed over, whatever they are.
* A name may come more than once. Every value under it has to be readable, and the last one counts.

## Main definitions

* `Json.Codec`, `Json.Fields`, `Json.Fields.codec`.
* `Codec.string`, `Codec.bool`, `Codec.int32`, `Codec.int64`, `Codec.list`, `Codec.dict`: the
  codecs of plain values, arrays, and objects with arbitrary names.
-/

namespace SecretRotation.Json

variable {σ α β : Type}

/-- How values of a type are written as JSON and read back. -/
structure Codec (α : Type) where
  /-- The JSON value that stands for a value of the type. -/
  write : α → Json
  /-- The value that a JSON value stands for, if any. -/
  read : Json → Option α

/-- Some members of the object that stands for a value of type `σ`. -/
structure Fields (σ α : Type) where
  /-- The names of the members. -/
  names : List String
  /-- What the members say, given the values under each name. -/
  read : (String → List Json) → Option α
  /-- The members as they are written. -/
  write : σ → List (String × Json)

/-! ### Plain values -/

namespace Codec

/-- Texts are JSON strings. -/
def string : Codec String where
  write := .str
  read
    | .str s => some s
    | _ => none

/-- Truth values are JSON's. -/
def bool : Codec Bool where
  write := .bool
  read
    | .bool b => some b
    | _ => none

/-- 32-bit integers are the whole numbers in their range. -/
def int32 : Codec Int32 where
  write n := .int n.toInt
  read
    | .int n => if -0x80000000 ≤ n ∧ n < 0x80000000 then some (Int32.ofInt n) else none
    | _ => none

/-- 64-bit integers are the whole numbers in their range. -/
def int64 : Codec Int64 where
  write n := .int n.toInt
  read
    | .int n =>
      if -0x8000000000000000 ≤ n ∧ n < 0x8000000000000000 then some (Int64.ofInt n) else none
    | _ => none

/-- Lists are arrays, every item of which has to be readable. -/
def list (c : Codec α) : Codec (List α) where
  write as := .arr (as.map c.write)
  read
    | .arr items => items.mapM c.read
    | _ => none

/-- Maps are objects with arbitrary names, every value of which has to be readable. -/
def dict (c : Codec α) : Codec (OrderedMap String α) where
  write m := .obj (m.entries.map fun e => (e.1, c.write e.2))
  read
    | .obj members =>
      (members.mapM fun m => (c.read m.2).map (m.1, ·)).map OrderedMap.ofList
    | _ => none

/-- Maps from texts to texts. -/
def strings : Codec (OrderedMap String String) := dict string

end Codec

/-! ### Members of an object -/

namespace Fields

instance : Functor (Fields σ) where
  map g f :=
    { names := f.names
      read := fun look => (f.read look).map g
      write := f.write }

instance : Applicative (Fields σ) where
  pure a :=
    { names := []
      read := fun _ => some a
      write := fun _ => [] }
  seq f g :=
    { names := f.names ++ (g ()).names
      read := fun look => (f.read look).bind fun h => ((g ()).read look).map h
      write := fun s => f.write s ++ (g ()).write s }

/-- What the values under a name say: what the last one says if all are readable, and the default
if there is none or the last one is `null`. -/
def lastOf (read : Json → Option β) (default : β) (values : List Json) : Option β :=
  values.foldlM (fun _ value =>
    match value with
    | .null => some default
    | value => read value) default

/-- A member that may be left out. -/
def optional (name : String) (c : Codec β) (get : σ → Option β) : Fields σ (Option β) where
  names := [name]
  read look := lastOf (fun value => (c.read value).map some) none (look name)
  write s :=
    match get s with
    | none => []
    | some b => [(name, c.write b)]

/-- A member that is always written, and that has a default where it is left out. -/
def required (name : String) (c : Codec β) (default : β) (get : σ → β) : Fields σ β where
  names := [name]
  read look := lastOf c.read default (look name)
  write s := [(name, c.write (get s))]

/-- Members of a part, as members of the whole that the part belongs to. -/
def within {τ : Type} (get : σ → τ) (f : Fields τ α) : Fields σ α where
  names := f.names
  read := f.read
  write s := f.write (get s)

/-- The codec of the objects that have the members described. -/
def codec (f : Fields σ σ) : Codec σ where
  write s := .obj (f.write s)
  read
    | .obj members => f.read (occurrences members)
    | _ => none

end Fields

end SecretRotation.Json
