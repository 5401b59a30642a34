import SecretRotation.Proofs.Json.CodecLaws

/-!
# Normal forms of documents

What is written of a value that has been read from a document is the normal form of the document.
The normal form is described here without reading anything: of an object the members with known
names are kept, in a fixed order; a member that comes more than once is kept where it comes last;
`null` counts as nothing; and a member that must not be missing is written with its default. Members
with arbitrary names are kept in the order of their names. Everything else is kept as it is, so
empty lists and objects remain.

A codec made of members has a normal form made of members. A description of members that is applied
to a constructor reads one part after the other, so it is told apart from what the constructor makes
of the parts (`Fields.Described`).

## Main definitions

* `Json.Member`: a member of a normal form; `Json.normalObject`, `Json.normalList`,
  `Json.normalDict`: normal forms.
* `Json.Codec.Normalizes`: a codec writes what it has read in a normal form.
* `Json.Fields.Described`: what a description of members says, part by part.

## Main results

* `Json.Fields.read_codec_iff`: what is read from an object, member by member.
* `Json.Fields.normalizes_codec`: the normal form of a codec made of members.
-/

namespace SecretRotation

namespace Json

variable {σ τ τ' α β : Type}

/-! ### Normal forms -/

/-- A known member of an object. -/
structure Member where
  /-- The name. -/
  name : String
  /-- What is written where the member is missing, if anything. -/
  default : Option Json
  /-- The normal form of its value. -/
  normal : Json → Json

namespace Member

/-- A member that may be missing. -/
def optional (name : String) (normal : Json → Json) : Member := ⟨name, none, normal⟩

/-- A member that is always written. -/
def required (name : String) (default : Json) (normal : Json → Json) : Member :=
  ⟨name, some default, normal⟩

end Member

/-- The last value under a name; `null`, if there is none. -/
def lastValue (values : List Json) : Json := values.getLast?.getD .null

namespace Member

/-- What is kept of a member, given the values under its name. -/
def kept (m : Member) (values : List Json) : Option (String × Json) :=
  match lastValue values with
  | .null => m.default.map (m.name, ·)
  | value => some (m.name, m.normal value)

end Member

/-- What is kept of known members, given the values under each name. -/
def keptOf (ms : List Member) (look : String → List Json) : List (String × Json) :=
  ms.filterMap fun m => m.kept (look m.name)

/-- The normal form of an object with known members. -/
def normalObject (ms : List Member) : Json → Json
  | .obj members => .obj (keptOf ms (occurrences members))
  | value => value

/-- The normal form of a list. -/
def normalList (normal : Json → Json) : Json → Json
  | .arr items => .arr (items.map normal)
  | value => value

/-- The normal form of an object with arbitrary names. -/
def normalDict (normal : Json → Json) : Json → Json
  | .obj members => .obj (OrderedMap.ofList (members.map fun m => (m.1, normal m.2))).entries
  | value => value

/-! ### The value that counts -/

/-- The last value under a name counts. -/
theorem of_lastOf_eq_some {read : Json → Option β} {default b : β} {values : List Json}
    (h : Fields.lastOf read default values = some b) :
    (lastValue values = .null ∧ b = default) ∨
      (lastValue values ≠ .null ∧ read (lastValue values) = some b) := by
  rcases List.eq_nil_or_concat values with rfl | ⟨init, value, rfl⟩
  · cases h
    exact .inl ⟨rfl, rfl⟩
  · rw [List.concat_eq_append, Fields.lastOf, List.foldlM_append] at h
    have hlast : lastValue (init.concat value) = value := by
      rw [lastValue, List.concat_eq_append, List.getLast?_append]
      rfl
    rw [hlast]
    obtain ⟨b', -, hb⟩ := Option.bind_eq_some_iff.1 h
    cases value
    case null =>
      cases hb
      exact .inl ⟨rfl, rfl⟩
    all_goals exact .inr ⟨by rintro ⟨⟩, by simpa using hb⟩

/-! ### Codecs with a normal form -/

/-- A codec writes what it has read in a normal form. -/
class Codec.Normalizes (c : Codec α) (normal : outParam (Json → Json)) : Prop where
  write_of_read {j : Json} {a : α} (h : c.read j = some a) : c.write a = normal j

namespace Codec

instance normalizes_string : string.Normalizes id where
  write_of_read {j a} h := by
    cases j <;> cases h
    rfl

instance normalizes_bool : bool.Normalizes id where
  write_of_read {j a} h := by
    cases j <;> cases h
    rfl

instance normalizes_int32 : int32.Normalizes id where
  write_of_read {j a} h := by
    cases j
    case int n =>
      obtain ⟨⟨hle, hlt⟩, h⟩ := Option.ite_none_right_eq_some.1 h
      cases h
      exact congrArg Json.int (Int32.toInt_ofInt_of_le hle hlt)
    all_goals cases h

instance normalizes_int64 : int64.Normalizes id where
  write_of_read {j a} h := by
    cases j
    case int n =>
      obtain ⟨⟨hle, hlt⟩, h⟩ := Option.ite_none_right_eq_some.1 h
      cases h
      exact congrArg Json.int (Int64.toInt_ofInt_of_le hle hlt)
    all_goals cases h

variable {normal : Json → Json}

theorem map_write_of_mapM_read {c : Codec α} [hc : c.Normalizes normal] {items : List Json}
    {as : List α} (h : items.mapM c.read = some as) : as.map c.write = items.map normal := by
  have hall := forall₂_of_mapM_eq_some h
  clear h
  induction hall with
  | nil => rfl
  | cons ha _ ih => rw [List.map_cons, List.map_cons, hc.write_of_read ha, ih]

instance normalizes_list (c : Codec α) [hc : c.Normalizes normal] :
    (list c).Normalizes (normalList normal) where
  write_of_read {j as} h := by
    cases j
    case arr items => exact congrArg Json.arr (map_write_of_mapM_read h)
    all_goals cases h

theorem map_write_of_mapM_entries {c : Codec α} [hc : c.Normalizes normal]
    {members : List (String × Json)} {es : List (String × α)}
    (h : members.mapM (fun m => (c.read m.2).map (m.1, ·)) = some es) :
    (es.map fun e => (e.1, c.write e.2)) = members.map fun m => (m.1, normal m.2) := by
  have hall := forall₂_of_mapM_eq_some h
  clear h
  induction hall with
  | nil => rfl
  | cons he _ ih =>
    obtain ⟨a, ha, rfl⟩ := Option.map_eq_some_iff.1 he
    rw [List.map_cons, List.map_cons, hc.write_of_read ha, ih]

instance normalizes_dict (c : Codec α) [hc : c.Normalizes normal] :
    (dict c).Normalizes (normalDict normal) where
  write_of_read {j m} h := by
    cases j
    case obj members =>
      obtain ⟨es, hes, rfl⟩ := Option.map_eq_some_iff.1 h
      refine congrArg Json.obj ((OrderedMap.map_entries_ofList c.write es).trans ?_)
      rw [map_write_of_mapM_entries hes]
    all_goals cases h

instance normalizes_strings : strings.Normalizes (normalDict id) := normalizes_dict string

end Codec

/-! ### Descriptions of members -/

/-- What a description of members says, part by part: what is read is made of parts that the members
tell, and a whole whose parts they tell is written as what is kept of the members. -/
class Fields.Described (f : Fields σ α) {τ : outParam Type} (make : outParam (τ → α))
    (parts : outParam (σ → τ)) (tells : outParam ((String → List Json) → τ → Prop))
    (ms : outParam (List Member)) : Prop where
  read_iff {look : String → List Json} {a : α} :
    f.read look = some a ↔ ∃ t, a = make t ∧ tells look t
  write_eq {look : String → List Json} {s : σ} (h : tells look (parts s)) :
    f.write s = keptOf ms look

theorem keptOf_append (ms ms' : List Member) (look : String → List Json) :
    keptOf (ms ++ ms') look = keptOf ms look ++ keptOf ms' look :=
  List.filterMap_append

namespace Fields

variable {normal : Json → Json} {make : τ → α} {parts : σ → τ}
  {tells : (String → List Json) → τ → Prop} {ms : List Member}

/-- What an optional member tells. -/
abbrev tellsOptional (name : String) (c : Codec β) (look : String → List Json) (part : Option β) :
    Prop :=
  lastOf (fun value => (c.read value).map some) none (look name) = some part

/-- What a required member tells. -/
abbrev tellsRequired (name : String) (c : Codec β) (default : β) (look : String → List Json)
    (part : β) : Prop :=
  lastOf c.read default (look name) = some part

theorem kept_of_ne_null {m : Member} {values : List Json} (h : lastValue values ≠ .null) :
    m.kept values = some (m.name, m.normal (lastValue values)) := by
  rw [Member.kept]
  split
  next hnull => exact absurd hnull h
  next => rfl

instance described_optional (name : String) (c : Codec β) [hc : c.Normalizes normal]
    (get : σ → Option β) :
    (optional name c get).Described id get (tellsOptional name c) [.optional name normal] where
  read_iff := ⟨fun h => ⟨_, rfl, h⟩, fun ⟨_, ha, h⟩ => ha ▸ h⟩
  write_eq {look s} h := by
    simp only [optional, keptOf, List.filterMap_cons, List.filterMap_nil, Member.optional]
    rcases of_lastOf_eq_some h with ⟨hnull, hnone⟩ | ⟨hvalue, hread⟩
    · simp only [hnone, Member.kept, hnull, Option.map_none]
    · obtain ⟨b, hb, hsome⟩ := Option.map_eq_some_iff.1 hread
      rw [kept_of_ne_null hvalue, ← hsome]
      simp only [hc.write_of_read hb]

instance described_required (name : String) (c : Codec β) [hc : c.Normalizes normal] (default : β)
    (get : σ → β) :
    (required name c default get).Described id get (tellsRequired name c default)
      [.required name (c.write default) normal] where
  read_iff := ⟨fun h => ⟨_, rfl, h⟩, fun ⟨_, ha, h⟩ => ha ▸ h⟩
  write_eq {look s} h := by
    simp only [required, keptOf, List.filterMap_cons, List.filterMap_nil, Member.required]
    rcases of_lastOf_eq_some h with ⟨hnull, hdefault⟩ | ⟨hvalue, hread⟩
    · simp only [hdefault, Member.kept, hnull, Option.map_some]
    · rw [kept_of_ne_null hvalue]
      simp only [hc.write_of_read hread]

instance described_pure (a : α) :
    (pure a : Fields σ α).Described (fun _ : Unit => a) (fun _ => ()) (fun _ _ => True) [] where
  read_iff := ⟨fun h => ⟨(), (Option.some.inj h).symm, trivial⟩, fun ⟨_, ha, _⟩ => ha ▸ rfl⟩
  write_eq _ := rfl

instance described_map (g : α → β) (f : Fields σ α) [hf : f.Described make parts tells ms] :
    (g <$> f).Described (g ∘ make) parts tells ms where
  read_iff {look b} := by
    refine Option.map_eq_some_iff.trans ⟨?_, ?_⟩
    · rintro ⟨a, ha, rfl⟩
      obtain ⟨t, rfl, ht⟩ := hf.read_iff.1 ha
      exact ⟨t, rfl, ht⟩
    · rintro ⟨t, rfl, ht⟩
      exact ⟨make t, hf.read_iff.2 ⟨t, rfl, ht⟩, rfl⟩
  write_eq := hf.write_eq

/-- **Two descriptions side by side** tell two parts. -/
instance described_seq (f : Fields σ (α → β)) (g : Fields σ α) {makef : τ → α → β}
    [hf : f.Described makef parts tells ms] {maker : τ' → α} {parts' : σ → τ'}
    {tells' : (String → List Json) → τ' → Prop} {ms' : List Member}
    [hg : g.Described maker parts' tells' ms'] :
    (f <*> g).Described (fun t : τ × τ' => makef t.1 (maker t.2)) (fun s => (parts s, parts' s))
      (fun look t => tells look t.1 ∧ tells' look t.2) (ms ++ ms') where
  read_iff {look b} := by
    refine Option.bind_eq_some_iff.trans ⟨?_, ?_⟩
    · rintro ⟨h, hh, hb⟩
      obtain ⟨a, ha, rfl⟩ := Option.map_eq_some_iff.1 hb
      obtain ⟨t, rfl, ht⟩ := hf.read_iff.1 hh
      obtain ⟨t', rfl, ht'⟩ := hg.read_iff.1 ha
      exact ⟨(t, t'), rfl, ht, ht'⟩
    · rintro ⟨⟨t, t'⟩, rfl, ht, ht'⟩
      exact ⟨makef t, hf.read_iff.2 ⟨t, rfl, ht⟩,
        Option.map_eq_some_iff.2 ⟨maker t', hg.read_iff.2 ⟨t', rfl, ht'⟩, rfl⟩⟩
  write_eq {look s} h := by
    rw [keptOf_append, ← hf.write_eq h.1, ← hg.write_eq h.2]
    rfl

instance described_within {υ : Type} (get : υ → σ) (f : Fields σ α)
    [hf : f.Described make parts tells ms] :
    (f.within get).Described make (fun s => parts (get s)) tells ms where
  read_iff := hf.read_iff
  write_eq h := hf.write_eq h

/-- A description of all of a whole, taken as a single part. -/
theorem described_whole {f : Fields σ σ} {make : τ → σ} [hf : f.Described make parts tells ms]
    (hparts : ∀ t, parts (make t) = t) :
    f.Described id id (fun look s => f.read look = some s) ms where
  read_iff := ⟨fun h => ⟨_, rfl, h⟩, fun ⟨_, ha, h⟩ => ha ▸ h⟩
  write_eq {look s} h := by
    obtain ⟨t, hs, ht⟩ := hf.read_iff.1 h
    refine hf.write_eq ?_
    have hs : s = make t := hs
    rwa [hs, hparts]

/-- **What is read from an object**, member by member. -/
theorem read_codec_iff {f : Fields σ σ} {make : τ → σ} [hf : f.Described make parts tells ms]
    (hparts : ∀ t, parts (make t) = t) (hmake : ∀ s, make (parts s) = s)
    {members : List (String × Json)} {s : σ} :
    f.codec.read (.obj members) = some s ↔ tells (occurrences members) (parts s) := by
  refine hf.read_iff.trans ⟨?_, fun h => ⟨parts s, (hmake s).symm, h⟩⟩
  rintro ⟨t, rfl, ht⟩
  rwa [hparts]

/-- **The normal form of a codec made of members.** -/
theorem normalizes_codec {f : Fields σ σ} {make : τ → σ} [hf : f.Described make parts tells ms]
    {normal : Json → Json} (hparts : ∀ t, parts (make t) = t) (hnormal : normalObject ms = normal) :
    f.codec.Normalizes normal where
  write_of_read {j s} h := by
    subst hnormal
    cases j
    case obj members =>
      obtain ⟨t, rfl, ht⟩ := hf.read_iff.1 h
      exact congrArg Json.obj (hf.write_eq ((hparts t).symm ▸ ht))
    all_goals cases h

end Fields

end Json

end SecretRotation
