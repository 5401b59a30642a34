import SecretRotation.Proofs.Json.Setting

/-!
# What is read at a path

What a document says at a path, and what has been read there. A member that is missing is like one
that is `null`, so a property that `null` has exactly if the default has it is a property of the
member in the document exactly if it is one of the member as read.

## Main definitions

* `Json.elements`: the items of a list; a missing list has none.

## Main results

* `Json.Fields.tells_of_read`: what is read from a document, member by member.
* `Json.iff_of_lastOf`, `Json.iff_of_tellsOptional`: properties of a member.
* `Json.exists_element_iff_of_read`: properties of the items of a list.
-/

namespace SecretRotation

namespace Json

variable {σ τ β : Type}

/-- The items of a list; a missing list has none. -/
def elements (j : Json) : List Json := j.items?.getD []

@[simp] theorem elements_null : Json.null.elements = [] := rfl

@[simp] theorem valueAt_null : (path : List String) → Json.null.valueAt path = .null
  | [] => rfl
  | _ :: path => valueAt_null path

/-! ### Members -/

theorem Fields.ne_null_of_read {f : Fields σ σ} {j : Json} {s : σ}
    (h : f.codec.read j = some s) : j ≠ .null := by
  rintro rfl
  cases h

/-- What is read from a document, member by member. -/
theorem Fields.tells_of_read {f : Fields σ σ} {make : τ → σ} {parts : σ → τ}
    {tells : (String → List Json) → τ → Prop} {ms : List Member}
    [hf : f.Described make parts tells ms] (hparts : ∀ t, parts (make t) = t)
    (hmake : ∀ s, make (parts s) = s) {j : Json} {s : σ} (h : f.codec.read j = some s) :
    tells (occurrences j.members) (parts s) := by
  cases j
  case obj members => exact (read_codec_iff hparts hmake).1 h
  all_goals cases h

section

variable {c : Codec β} {j : Json} {name : String} {P : Json → Prop}

/-- A member has a property in the document as it has it as read. -/
theorem iff_of_lastOf {read : Json → Option β} {default part : β} {Q : β → Prop}
    (htold : Fields.lastOf read default (occurrences j.members name) = some part)
    (hnull : P .null ↔ Q default) (hread : ∀ {v b}, read v = some b → (P v ↔ Q b)) :
    P (j.valueAt [name]) ↔ Q part := by
  have hvalue : j.valueAt [name] = lastValue (occurrences j.members name) := rfl
  rw [hvalue]
  rcases of_lastOf_eq_some htold with ⟨hlast, rfl⟩ | ⟨-, hlast⟩
  · rw [hlast]
    exact hnull
  · exact hread hlast

/-- An optional member has a property in the document as it has it as read. -/
theorem iff_of_tellsOptional {part : Option β} {Q : Option β → Prop}
    (htold : Fields.tellsOptional name c (occurrences j.members) part)
    (hnull : P .null ↔ Q none) (hread : ∀ {v b}, c.read v = some b → (P v ↔ Q (some b))) :
    P (j.valueAt [name]) ↔ Q part :=
  iff_of_lastOf htold hnull fun {v b?} hv => by
    obtain ⟨b, hb, rfl⟩ := Option.map_eq_some_iff.1 hv
    exact hread hb

/-- An optional member is there and has a property in the document as it is and has it as read. -/
theorem iff_exists_of_tellsOptional {part : Option β} {Q : β → Prop}
    (htold : Fields.tellsOptional name c (occurrences j.members) part)
    (hnull : ¬ P .null) (hread : ∀ {v b}, c.read v = some b → (P v ↔ Q b)) :
    P (j.valueAt [name]) ↔ ∃ b ∈ part, Q b :=
  iff_of_tellsOptional (Q := fun part => ∃ b ∈ part, Q b) htold (by simpa using hnull) fun h => by
    simpa using hread h

theorem text?_of_read {v : Json} {text : String} (h : Codec.string.read v = some text) :
    v.text? = some text := by
  cases v <;> cases h
  rfl

/-- An optional text is that of the member. -/
theorem text?_of_tellsOptional {part : Option String}
    (htold : Fields.tellsOptional name .string (occurrences j.members) part) :
    (j.valueAt [name]).text? = part :=
  (iff_of_tellsOptional (P := fun v => v.text? = part) (Q := (· = part)) htold .rfl fun h => by
    rw [text?_of_read h]).2 rfl

/-- A required text is that of the member, and empty if the member is missing. -/
theorem getD_text?_of_tellsRequired {part : String}
    (htold : Fields.tellsRequired name .string "" (occurrences j.members) part) :
    (j.valueAt [name]).text?.getD "" = part :=
  (iff_of_lastOf (P := fun v => v.text?.getD "" = part) (Q := (· = part)) htold .rfl fun h => by
    rw [text?_of_read h, Option.getD_some]).2 rfl

/-! ### Lists -/

/-- A list has an item with a property in the document as it has one as read. -/
theorem exists_element_iff_of_read {as : List β} {Q : β → Prop}
    (h : (Codec.list c).read j = some as) (hread : ∀ {v b}, c.read v = some b → (P v ↔ Q b)) :
    (∃ v ∈ j.elements, P v) ↔ ∃ a ∈ as, Q a := by
  cases j
  case arr items =>
    have hall := forall₂_of_mapM_eq_some (show items.mapM c.read = some as from h)
    constructor
    · rintro ⟨v, hv, hP⟩
      obtain ⟨a, ha, hva⟩ := exists_mem_of_forall₂ hall hv
      exact ⟨a, ha, (hread hva).1 hP⟩
    · rintro ⟨a, ha, hQ⟩
      obtain ⟨v, hv, hva⟩ := exists_mem_of_forall₂ hall.flip ha
      exact ⟨v, hv, (hread hva).2 hQ⟩
  all_goals cases h

/-- An optional list has an item with a property in the document as it has one as read. -/
theorem exists_element_iff_of_tellsOptional {part : Option (List β)} {Q : β → Prop}
    (htold : Fields.tellsOptional name (.list c) (occurrences j.members) part)
    (hread : ∀ {v b}, c.read v = some b → (P v ↔ Q b)) :
    (∃ v ∈ (j.valueAt [name]).elements, P v) ↔ ∃ a ∈ part.getD [], Q a :=
  iff_of_tellsOptional (P := fun v => ∃ w ∈ v.elements, P w)
    (Q := fun part => ∃ a ∈ part.getD [], Q a) htold (by simp) fun h =>
      exists_element_iff_of_read h hread

end

end Json

end SecretRotation
