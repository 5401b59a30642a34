import SecretRotation.Json.Codec
import SecretRotation.Json.Reader
import SecretRotation.Text.Timestamp

/-!
# Data by its shape

Most of what is in a document is passed on as it is: it is read as typed data and written again, and
nothing looks at it in between. Such data needs no structure of its own. It is enough to say of what
shape it is, and the type of its values, their defaults and their codec follow from the shape.

The members of an object are described one after the other, each with its name and the shape of its
value. A member is either optional, and then it may be left out, or required, and then it is always
written.

An object that stands on its own also says its API version and kind. They are always written; on
reading they may be missing, but must not name anything else.

## Main definitions

* `Json.Shape`, `Json.Members`: shapes of data, and of the members of an object.
* `Shape.Value`, `Members.Value`: the types of their values.
* `Shape.codec`, `Members.fields`: how the values are written and read.
* `objectCodec`: the codec of objects that stand on their own.
-/

namespace SecretRotation

/-! ### Objects that stand on their own -/

/-- Whether nothing but a given text stands under a name, if anything does. -/
def saysOnly (members : List (String × Json)) (name expected : String) : Bool :=
  (Json.occurrences members name).all fun value => value.text? == some expected

/-- The codec of the objects of an API version and kind that have the members described. -/
def objectCodec {σ : Type} (apiVersion kind : String) (f : Json.Fields σ σ) : Json.Codec σ where
  write s := .obj (("apiVersion", .str apiVersion) :: ("kind", .str kind) :: f.write s)
  read
    | .obj members =>
      if saysOnly members "apiVersion" apiVersion && saysOnly members "kind" kind then
        f.read (Json.occurrences members)
      else
        none
    | _ => none

namespace Json

/-! ### More plain values -/

/-- A number or a text. -/
inductive IntOrText
  | int (n : Int32)
  | text (s : String)

/-- Any value but `null`, in its normal form. -/
structure Anything where
  value : Json
  isNormal : ∃ j, normal? maxDepth j = some value
  ne_null : value.isNull = false

namespace Codec

/-- Timestamps are texts. -/
def timestamp : Codec Text.Timestamp where
  write t := .str t.text
  read
    | .str s => Text.Timestamp.ofText? s
    | _ => none

/-- A number or a text stands for itself. -/
def intOrText : Codec IntOrText where
  write
    | .int n => int32.write n
    | .text s => .str s
  read
    | .str s => some (.text s)
    | j => (int32.read j).map .int

/-- Any value but `null` is kept in its normal form. -/
def anything : Codec Anything where
  write a := a.value
  read j :=
    match h : j.normal? maxDepth with
    | some value => if hvalue : value.isNull = false then some ⟨value, ⟨j, h⟩, hvalue⟩ else none
    | none => none

end Codec

/-! ### Shapes -/

mutual

/-- The shape of data. -/
inductive Shape
  | text
  | truth
  | int32
  | int64
  | timestamp
  | intOrText
  | anything
  | list (item : Shape)
  /-- An object with arbitrary names and with texts as values. -/
  | strings
  /-- An object with known members. -/
  | record (ms : Members)
  /-- An object with known members that stands on its own. -/
  | object (apiVersion kind : String) (ms : Members)

/-- The members of an object. -/
inductive Members
  | nil
  /-- A member that may be left out, and further members. -/
  | optional (name : String) (s : Shape) (rest : Members)
  /-- A member that is always written, and further members. -/
  | required (name : String) (s : Shape) (rest : Members)

end

mutual

/-- The values of a shape. -/
def Shape.Value : Shape → Type
  | .text => String
  | .truth => Bool
  | .int32 => Int32
  | .int64 => Int64
  | .timestamp => Text.Timestamp
  | .intOrText => IntOrText
  | .anything => Anything
  | .list item => List item.Value
  | .strings => OrderedMap String String
  | .record ms => ms.Value
  | .object _ _ ms => ms.Value

/-- The values of members, one after the other. -/
def Members.Value : Members → Type
  | .nil => Unit
  | .optional _ s rest => Option s.Value × rest.Value
  | .required _ s rest => s.Value × rest.Value

end

mutual

/-- The value that stands for a required member that is left out. -/
def Shape.blank : (s : Shape) → s.Value
  | .text => ""
  | .truth => false
  | .int32 => (0 : Int32)
  | .int64 => (0 : Int64)
  | .timestamp => .epoch
  | .intOrText => .int 0
  | .anything => ⟨.obj [], ⟨.obj [], rfl⟩, rfl⟩
  | .list _ => []
  | .strings => .empty
  | .record ms => ms.blank
  | .object _ _ ms => ms.blank

/-- The values of members all of which are left out. -/
def Members.blank : (ms : Members) → ms.Value
  | .nil => ()
  | .optional _ _ rest => (none, rest.blank)
  | .required _ s rest => (s.blank, rest.blank)

end

mutual

/-- How the values of a shape are written and read. -/
def Shape.codec : (s : Shape) → Codec s.Value
  | .text => .string
  | .truth => .bool
  | .int32 => .int32
  | .int64 => .int64
  | .timestamp => .timestamp
  | .intOrText => .intOrText
  | .anything => .anything
  | .list item => .list item.codec
  | .strings => .strings
  | .record ms => ms.fields.codec
  | .object apiVersion kind ms => objectCodec apiVersion kind ms.fields

/-- Members as they are written and read. -/
def Members.fields : (ms : Members) → Fields ms.Value ms.Value
  | .nil => pure ()
  | .optional name s rest =>
    Prod.mk <$> Fields.optional name s.codec Prod.fst <*> rest.fields.within Prod.snd
  | .required name s rest =>
    Prod.mk <$> Fields.required name s.codec s.blank Prod.fst <*> rest.fields.within Prod.snd

end

end Json

end SecretRotation
