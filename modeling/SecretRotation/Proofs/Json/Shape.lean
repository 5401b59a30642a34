import SecretRotation.Proofs.Json.Anything
import SecretRotation.Proofs.Json.Standing
import SecretRotation.Proofs.Text.Timestamp

/-!
# The laws of data that is known by its shape

The codec of a shape has all the laws that codecs of structures have, by induction on the shape. In
one respect data is not read back as it was: a timestamp is written without its fractions of a
second. So the value that is read back is the value *as written*, with every timestamp in it cut to
whole seconds, and a shape without timestamps has a lawful codec.

## Main definitions

* `Shape.asWritten`, `Members.asWritten`: values with all timestamps cut to whole seconds.
* `Shape.isTimeless`, `Members.isTimeless`: shapes without timestamps.
* `Shape.isWellFormed`, `Members.isWellFormed`: no name comes twice in an object.
* `Shape.normal`, `Members.members`: normal forms.

## Main results

* `Shape.settles_codec`, `Members.settles_fields`: what is read back is the value as written.
* `Members.lawful_fields`: nothing is lost of a value without timestamps.
* `Shape.normalizes_codec`, `Members.described_fields`: normal forms by shape.
* `Shape.steady_codec`, `Members.steady_fields`: the order of lists does not matter.
-/

namespace SecretRotation

namespace Json

/-! ### Plain values -/

namespace Codec

/-- The normal form of a timestamp: in universal time, in whole seconds. -/
def normalTimestamp : Json → Json
  | .str s => (Text.Timestamp.ofText? s).elim (.str s) fun t => .str t.text
  | value => value

instance settles_timestamp : timestamp.Settles Text.Timestamp.wholeSeconds where
  read_write t := t.ofText?_text
  write_settled t := congrArg Json.str t.text_wholeSeconds
  write_ne_null _ := by simp [timestamp]

instance normalizes_timestamp : timestamp.Normalizes normalTimestamp where
  write_of_read {j t} h := by
    cases j
    case str s =>
      have hread : Text.Timestamp.ofText? s = some t := h
      simp only [normalTimestamp, hread, Option.elim_some, timestamp]
    all_goals cases h

instance steady_timestamp : timestamp.Steady := steady_of_plain (fun _ => rfl) fun _ => rfl

instance lawful_intOrText : intOrText.Lawful where
  read_write
    | .int n => congrArg (Option.map IntOrText.int) (lawful_int32.read_write n)
    | .text _ => rfl
  write_settled _ := rfl
  write_ne_null
    | .int n => lawful_int32.write_ne_null n
    | .text _ => by simp [intOrText]

instance normalizes_intOrText : intOrText.Normalizes id where
  write_of_read {j v} h := by
    cases j
    case str =>
      cases h
      rfl
    case int =>
      obtain ⟨n, hn, rfl⟩ := Option.map_eq_some_iff.1 h
      exact normalizes_int32.write_of_read hn
    all_goals cases h

instance steady_intOrText : intOrText.Steady := steady_of_plain (fun _ => rfl) fun _ => rfl

end Codec

/-! ### Values as they are written -/

mutual

/-- A value with all timestamps in it cut to whole seconds. -/
def Shape.asWritten : (s : Shape) → s.Value → s.Value
  | .text | .truth | .int32 | .int64 | .intOrText | .anything | .strings => id
  | .timestamp => Text.Timestamp.wholeSeconds
  | .list item => List.map item.asWritten
  | .record ms => ms.asWritten
  | .object _ _ ms => ms.asWritten

/-- The values of members with all timestamps in them cut to whole seconds. -/
def Members.asWritten : (ms : Members) → ms.Value → ms.Value
  | .nil => id
  | .optional _ s rest => fun v => (v.1.map s.asWritten, rest.asWritten v.2)
  | .required _ s rest => fun v => (s.asWritten v.1, rest.asWritten v.2)

end

mutual

/-- Whether there are no timestamps in the values of a shape. -/
def Shape.isTimeless : Shape → Bool
  | .timestamp => false
  | .list item => item.isTimeless
  | .record ms => ms.isTimeless
  | .object _ _ ms => ms.isTimeless
  | _ => true

/-- Whether there are no timestamps in the values of members. -/
def Members.isTimeless : Members → Bool
  | .nil => true
  | .optional _ s rest => s.isTimeless && rest.isTimeless
  | .required _ s rest => s.isTimeless && rest.isTimeless

end

mutual

/-- Without timestamps, nothing is cut. -/
theorem Shape.asWritten_of_isTimeless : {s : Shape} → s.isTimeless = true → s.asWritten = id
  | .text, _ | .truth, _ | .int32, _ | .int64, _ | .intOrText, _ | .anything, _ | .strings, _ => rfl
  | .list item, h => by
    have hitem := Shape.asWritten_of_isTimeless (s := item) h
    rw [Shape.asWritten, hitem]
    exact List.map_id_fun
  | .record ms, h => Members.asWritten_of_isTimeless (show ms.isTimeless = true from h)
  | .object _ _ ms, h => Members.asWritten_of_isTimeless (show ms.isTimeless = true from h)

theorem Members.asWritten_of_isTimeless : {ms : Members} → ms.isTimeless = true → ms.asWritten = id
  | .nil, _ => rfl
  | .optional _ s rest, h => by
    have ⟨hs, hrest⟩ := Bool.and_eq_true_iff.1 h
    have hs := Shape.asWritten_of_isTimeless hs
    have hrest := Members.asWritten_of_isTimeless hrest
    funext v
    rw [Members.asWritten, hs, hrest, Option.map_id]
    rfl
  | .required _ s rest, h => by
    have ⟨hs, hrest⟩ := Bool.and_eq_true_iff.1 h
    have hs := Shape.asWritten_of_isTimeless hs
    have hrest := Members.asWritten_of_isTimeless hrest
    funext v
    rw [Members.asWritten, hs, hrest]
    rfl

end

/-! ### Reading what has been written -/

mutual

/-- Whether no name comes twice in any object. -/
def Shape.isWellFormed : Shape → Bool
  | .list item => item.isWellFormed
  | .record ms => decide ms.fields.names.Nodup && ms.isWellFormed
  | .object _ _ ms =>
    decide ("apiVersion" :: "kind" :: ms.fields.names).Nodup && ms.isWellFormed
  | _ => true

/-- Whether no name comes twice in any object among the values of members. -/
def Members.isWellFormed : Members → Bool
  | .nil => true
  | .optional _ s rest => s.isWellFormed && rest.isWellFormed
  | .required _ s rest => s.isWellFormed && rest.isWellFormed

end

mutual

/-- **What is read back of data** is the data as it was written. -/
theorem Shape.settles_codec : {s : Shape} → s.isWellFormed = true → s.codec.Settles s.asWritten
  | .text, _ => Codec.lawful_string
  | .truth, _ => Codec.lawful_bool
  | .int32, _ => Codec.lawful_int32
  | .int64, _ => Codec.lawful_int64
  | .timestamp, _ => Codec.settles_timestamp
  | .intOrText, _ => Codec.lawful_intOrText
  | .anything, _ => Codec.lawful_anything
  | .strings, _ => Codec.lawful_strings
  | .list item, h =>
    have := Shape.settles_codec (s := item) h
    Codec.settles_list item.codec
  | .record ms, h =>
    have ⟨hnames, hms⟩ := Bool.and_eq_true_iff.1 h
    have := Members.settles_fields hms
    show ms.fields.codec.Settles ms.asWritten from
      Fields.settles_codec (of_decide_eq_true hnames) (fun _ => rfl) fun _ => rfl
  | .object apiVersion kind ms, h =>
    have ⟨hnames, hms⟩ := Bool.and_eq_true_iff.1 h
    have := Members.settles_fields hms
    show (objectCodec apiVersion kind ms.fields).Settles ms.asWritten from
      settles_objectCodec (of_decide_eq_true hnames) (fun _ => rfl) fun _ => rfl

theorem Members.settles_fields : {ms : Members} → ms.isWellFormed = true →
    ms.fields.Settles id id ms.asWritten
  | .nil, _ => Fields.settles_pure ()
  | .optional name s rest, h =>
    have ⟨hs, hrest⟩ := Bool.and_eq_true_iff.1 h
    have := Shape.settles_codec hs
    have := Members.settles_fields hrest
    Fields.settles_seq (Prod.mk <$> Fields.optional name s.codec Prod.fst)
      (rest.fields.within Prod.snd)
  | .required name s rest, h =>
    have ⟨hs, hrest⟩ := Bool.and_eq_true_iff.1 h
    have := Shape.settles_codec hs
    have := Members.settles_fields hrest
    Fields.settles_seq (Prod.mk <$> Fields.required name s.codec s.blank Prod.fst)
      (rest.fields.within Prod.snd)

end

/-- **Nothing is lost of data without timestamps.** -/
theorem Members.lawful_fields {ms : Members} (h : ms.isWellFormed = true)
    (htimeless : ms.isTimeless = true) : ms.fields.Settles id id id :=
  asWritten_of_isTimeless htimeless ▸ settles_fields h

/-- Where nothing is said, the members are blank. -/
theorem Members.read_nil : (ms : Members) → ms.fields.read (fun _ => []) = some ms.blank
  | .nil => rfl
  | .optional _ _ rest => congrArg (Option.map (none, ·)) rest.read_nil
  | .required _ s rest => congrArg (Option.map (s.blank, ·)) rest.read_nil

/-! ### Normal forms -/

mutual

/-- The normal form of data of a shape. -/
def Shape.normal : Shape → Json → Json
  | .text | .truth | .int32 | .int64 | .intOrText => id
  | .timestamp => Codec.normalTimestamp
  | .anything => fun j => (j.normal? maxDepth).getD j
  | .strings => normalDict id
  | .list item => normalList item.normal
  | .record ms => normalObject ms.members
  | .object apiVersion kind ms => normalStanding apiVersion kind ms.members

/-- The members that are kept of an object. -/
def Members.members : Members → List Member
  | .nil => []
  | .optional name s rest => .optional name s.normal :: rest.members
  | .required name s rest => .required name (s.codec.write s.blank) s.normal :: rest.members

end

mutual

/-- **Data is written in its normal form.** -/
instance Shape.normalizes_codec : (s : Shape) → s.codec.Normalizes s.normal
  | .text => Codec.normalizes_string
  | .truth => Codec.normalizes_bool
  | .int32 => Codec.normalizes_int32
  | .int64 => Codec.normalizes_int64
  | .timestamp => Codec.normalizes_timestamp
  | .intOrText => Codec.normalizes_intOrText
  | .anything => Codec.normalizes_anything
  | .strings => Codec.normalizes_strings
  | .list item =>
    have := Shape.normalizes_codec item
    Codec.normalizes_list item.codec
  | .record ms =>
    have := Members.described_fields ms
    show ms.fields.codec.Normalizes (normalObject ms.members) from
      Fields.normalizes_codec (fun _ => rfl) rfl
  | .object apiVersion kind ms =>
    have := Members.described_fields ms
    show (objectCodec apiVersion kind ms.fields).Normalizes
        (normalStanding apiVersion kind ms.members) from
      normalizes_objectCodec (fun _ => rfl) rfl

/-- Members are kept one after the other. -/
instance Members.described_fields : (ms : Members) → ms.fields.Described id id
    (fun look v => ms.fields.read look = some v) ms.members
  | .nil => Fields.described_whole (f := pure ()) fun _ => rfl
  | .optional name s rest =>
    have := Shape.normalizes_codec s
    have := Members.described_fields rest
    Fields.described_whole (f := Prod.mk <$> Fields.optional name s.codec Prod.fst <*>
      rest.fields.within Prod.snd) fun _ => rfl
  | .required name s rest =>
    have := Shape.normalizes_codec s
    have := Members.described_fields rest
    Fields.described_whole (f := Prod.mk <$> Fields.required name s.codec s.blank Prod.fst <*>
      rest.fields.within Prod.snd) fun _ => rfl

end

/-! ### Reorderings -/

mutual

/-- **The order of lists does not matter** for whether data can be read. -/
instance Shape.steady_codec : (s : Shape) → s.codec.Steady
  | .text => Codec.steady_string
  | .truth => Codec.steady_bool
  | .int32 => Codec.steady_int32
  | .int64 => Codec.steady_int64
  | .timestamp => Codec.steady_timestamp
  | .intOrText => Codec.steady_intOrText
  | .anything => Codec.steady_anything
  | .strings => Codec.steady_strings
  | .list item =>
    have := Shape.steady_codec item
    Codec.steady_list item.codec
  | .record ms =>
    have := Members.steady_fields ms
    Fields.steady_codec ms.fields
  | .object apiVersion kind ms =>
    have := Members.steady_fields ms
    steady_objectCodec apiVersion kind ms.fields

instance Members.steady_fields : (ms : Members) → ms.fields.Steady
  | .nil => Fields.steady_pure ()
  | .optional name s rest =>
    have := Shape.steady_codec s
    have := Members.steady_fields rest
    Fields.steady_seq (Prod.mk <$> Fields.optional name s.codec Prod.fst)
      (rest.fields.within Prod.snd)
  | .required name s rest =>
    have := Shape.steady_codec s
    have := Members.steady_fields rest
    Fields.steady_seq (Prod.mk <$> Fields.required name s.codec s.blank Prod.fst)
      (rest.fields.within Prod.snd)

end

end Json

end SecretRotation
