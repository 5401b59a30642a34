import SecretRotation.Proofs.Json.NormalForm

/-!
# Setting a value deep in a document

A value is set at a path of names: the objects on the way are created where they are missing, of a
member that comes more than once only the last one is kept, and all other members stay as they are.

## Main definitions

* `Json.setAt`: a document with a value set at a path; `Json.valueAt`: the value at a path.
* `Json.orEmpty`: a missing object, taken for an empty one.

## Main results

* `Json.occurrences_setMember`: the members after one has been set.
* `Json.valueAt_setAt`, `Json.valueAt_setAt_of_apart`: the values after one has been set.
* `Json.of_lastOf_optional`, `Json.of_lastOf_required`: the value that is replaced.
* `Json.Codec.read_strings_setAt`: an entry is set in a map.
-/

namespace SecretRotation

namespace Json

variable {α β : Type}

/-- The members of an object; a missing object has none. -/
def members : Json → List (String × Json)
  | .obj ms => ms
  | _ => []

/-- Some members, with one set in the place of all others of its name. -/
def setMember (name : String) (value : Json) (ms : List (String × Json)) : List (String × Json) :=
  ms.filter (fun m => m.1 != name) ++ [(name, value)]

/-- A document with a value set at a path of names. -/
def setAt : Json → (path : List String) → (value : Json) → Json
  | _, [], value => value
  | j, name :: path, value =>
    .obj (setMember name ((lastValue (occurrences j.members name)).setAt path value) j.members)

/-- The value at a path of names; `null`, if there is none. -/
def valueAt : Json → (path : List String) → Json
  | j, [] => j
  | j, name :: path => (lastValue (occurrences j.members name)).valueAt path

/-- A missing object, taken for an empty one. -/
def orEmpty : Json → Json
  | .null => .obj []
  | j => j

/-- The values under a name after a member has been set. -/
theorem occurrences_setMember (name name' : String) (value : Json) (ms : List (String × Json)) :
    occurrences (setMember name value ms) name' =
      if name' = name then [value] else occurrences ms name' := by
  rw [setMember, occurrences_append]
  by_cases h : name' = name
  · subst h
    have hnone : ∀ m ∈ ms.filter (fun m => m.1 != name'), m.1 ≠ name' := fun m hm =>
      bne_iff_ne.1 (List.mem_filter.1 hm).2
    rw [occurrences_eq_nil hnone, if_pos rfl, occurrences_singleton, List.nil_append]
  · have hother : occurrences [(name, value)] name' = [] :=
      occurrences_eq_nil (List.forall_mem_singleton.2 fun heq => h heq.symm)
    rw [hother, if_neg h, List.append_nil, occurrences, occurrences, List.filter_filter]
    refine congrArg (List.map Prod.snd) (List.filter_congr fun m _ => ?_)
    by_cases hm : m.1 = name'
    · simp [hm, h]
    · simp [hm]

/-- What other members say is not changed by one that is set. -/
theorem Fields.read_setMember {σ τ : Type} {f : Fields σ α} {make : τ → α} {parts : σ → τ}
    {settle : τ → τ} [hf : f.Settles make parts settle] {name : String} (hname : name ∉ f.names)
    (value : Json) (ms : List (String × Json)) :
    f.read (occurrences (setMember name value ms)) = f.read (occurrences ms) :=
  hf.read_congr fun name' hname' => by
    have hne : name' ≠ name := fun heq => hname (heq ▸ hname')
    rw [occurrences_setMember, if_neg hne]

/-- A value is found where it has been set. -/
theorem valueAt_setAt (value : Json) :
    (path : List String) → (j : Json) → (j.setAt path value).valueAt path = value
  | [], _ => rfl
  | name :: path, j => by
    rw [setAt, valueAt, members, occurrences_setMember, if_pos rfl]
    exact valueAt_setAt value path _

/-- **Nothing else is changed**: at a path that leaves the path of the value, what was there is
still there. -/
theorem valueAt_setAt_of_apart (value : Json) :
    {path path' : List String} → ¬ path <+: path' → ¬ path' <+: path → (j : Json) →
      (j.setAt path value).valueAt path' = j.valueAt path'
  | [], path', h, _, _ => absurd (List.nil_prefix) h
  | _ :: _, [], _, h', _ => absurd (List.nil_prefix) h'
  | name :: path, name' :: path', h, h', j => by
    rw [setAt, valueAt, valueAt, members, occurrences_setMember]
    by_cases hname : name' = name
    · subst hname
      rw [if_pos rfl]
      exact valueAt_setAt_of_apart value (fun hp => h (List.cons_prefix_cons.2 ⟨rfl, hp⟩))
        (fun hp => h' (List.cons_prefix_cons.2 ⟨rfl, hp⟩)) _
    · rw [if_neg hname]

/-! ### The value that is replaced -/

section

variable {c : Codec β} {default : β} {values : List Json}

/-- What an optional member tells is read from the value that counts. -/
theorem of_lastOf_optional {part : Option β}
    (h : Fields.lastOf (fun value => (c.read value).map some) none values = some part)
    (hempty : c.read (.obj []) = some default) :
    c.read (lastValue values).orEmpty = some (part.getD default) := by
  rcases of_lastOf_eq_some h with ⟨hnull, rfl⟩ | ⟨hvalue, hread⟩
  · rw [hnull]
    exact hempty
  · obtain ⟨b, hb, rfl⟩ := Option.map_eq_some_iff.1 hread
    cases hlast : lastValue values <;> simp_all [orEmpty]

/-- What a required member tells is read from the value that counts. -/
theorem of_lastOf_required {part : β} (h : Fields.lastOf c.read default values = some part)
    (hempty : c.read (.obj []) = some default) :
    c.read (lastValue values).orEmpty = some part := by
  rcases of_lastOf_eq_some h with ⟨hnull, rfl⟩ | ⟨hvalue, hread⟩
  · rw [hnull]
    exact hempty
  · cases hlast : lastValue values <;> simp_all [orEmpty]

end

/-- An object that is the only value under a name counts. -/
theorem lastOf_singleton {read : Json → Option β} {default : β} (ms : List (String × Json)) :
    Fields.lastOf read default [.obj ms] = read (.obj ms) :=
  Fields.lastOf_singleton_of_ne_null nofun

/-- What is read from an object, or from a missing one, is read from its members. -/
theorem read_obj_members {f : Fields α α} {j : Json} {a : α}
    (h : f.codec.read j.orEmpty = some a) : f.codec.read (.obj j.members) = some a := by
  cases j <;> first | exact h | cases h

/-! ### Entries of a map -/

namespace Codec

theorem mapM_filter {f : α → Option β} {p : α → Bool} {q : β → Bool}
    (hpq : ∀ a b, f a = some b → q b = p a) :
    {as : List α} → {bs : List β} → as.mapM f = some bs →
      (as.filter p).mapM f = some (bs.filter q)
  | [], bs, h => by
    cases h
    rfl
  | a :: as, bs, h => by
    rw [List.mapM_cons] at h
    obtain ⟨b, hb, h⟩ := Option.bind_eq_some_iff.1 h
    obtain ⟨bs, hbs, h⟩ := Option.bind_eq_some_iff.1 h
    cases h
    have hrest := mapM_filter hpq hbs
    rw [List.filter_cons, List.filter_cons, hpq a b hb]
    split
    · rw [List.mapM_cons, hb, hrest]
      rfl
    · exact hrest

/-- **An entry is set in a map.** -/
theorem read_strings_setAt {j : Json} {m : OrderedMap String String}
    (h : strings.read j.orEmpty = some m) (key value : String) :
    strings.read (j.setAt [key] (.str value)) = some (m.insert key value) := by
  have hmembers : strings.read (.obj j.members) = some m := by
    cases j <;> first | exact h | cases h
  obtain ⟨es, hes, rfl⟩ := Option.map_eq_some_iff.1 hmembers
  have hkept := mapM_filter (p := fun m => m.1 != key) (q := fun e => decide (e.1 ≠ key))
    (fun m e he => by
      obtain ⟨text, -, rfl⟩ := Option.map_eq_some_iff.1 he
      simp [bne, beq_eq_decide]) hes
  refine Option.map_eq_some_iff.2
    ⟨es.filter (fun e => decide (e.1 ≠ key)) ++ [(key, value)], ?_, ?_⟩
  · rw [setMember, List.mapM_append, hkept]
    rfl
  · rw [OrderedMap.ofList, List.foldl_append]
    exact OrderedMap.insert_foldl_insert_filter key value _ _ rfl

end Codec

end Json

end SecretRotation
