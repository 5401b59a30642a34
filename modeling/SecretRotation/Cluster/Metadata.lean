import SecretRotation.Cluster.Schema

/-!
# Object metadata

What every object of a cluster carries beside its content: its name and namespace, its annotations,
and what the API server notes about it.

An object is known by a name that the server may still have to complete: where `name` is absent,
`generateName` stands in for it (`ObjectMeta.knownAs`). A name that is present is used even if it
is empty.

## Main definitions

* `ObjectMeta`, `ObjectMeta.knownAs`, `ObjectMeta.identity`.
* `ObjectMeta.annotation?`, `ObjectMeta.annotate`: reading and setting one annotation.
* `Identity`: a namespace and a name, ordered by the namespace first.
-/

namespace SecretRotation

/-- Annotations and other maps from texts to texts. -/
abbrev StringMap := OrderedMap String String

/-- A namespace and a name in it. -/
structure Identity where
  /-- The namespace; empty where an object has none. -/
  ns : String
  /-- The name. -/
  name : String
  deriving DecidableEq

namespace Identity

/-- Identities are ordered by namespace, and within one by name. -/
instance : Ord Identity :=
  ⟨compareLex (compareOn Identity.ns) (compareOn Identity.name)⟩

instance : Std.TransOrd Identity :=
  inferInstanceAs (Std.TransCmp (compareLex (compareOn Identity.ns) (compareOn Identity.name)))

instance : Std.LawfulEqOrd Identity where
  compare_self := Std.ReflCmp.compare_self
  eq_of_compare := fun {a b} h => by
    have h : (compare a.ns b.ns).then (compare a.name b.name) = .eq := h
    have ⟨hns, hname⟩ := Ordering.then_eq_eq.1 h
    cases a; cases b
    congr
    · exact Std.LawfulEqOrd.eq_of_compare hns
    · exact Std.LawfulEqOrd.eq_of_compare hname

end Identity

/-- The metadata of an object. -/
structure ObjectMeta where
  name : Option String := none
  ns : Option String := none
  generateName : Option String := none
  resourceVersion : Option String := none
  annotations : Option StringMap := none
  /-- What else there is, from the labels to the time at which the object was made. -/
  others : Schema.otherOfObjectMeta.Value := Schema.otherOfObjectMeta.blank

namespace ObjectMeta

/-- The name an object is known by. -/
def knownAs (m : ObjectMeta) : String := (m.name <|> m.generateName).getD ""

/-- Where an object is kept: its namespace, empty if it has none, and the name it is known by. -/
def identity (m : ObjectMeta) : Identity := ⟨m.ns.getD "", m.knownAs⟩

/-- The annotation under a key. -/
def annotation? (m : ObjectMeta) (key : String) : Option String :=
  m.annotations.bind fun annotations => annotations.get? key

/-- The metadata with an annotation set; a missing map of annotations is created. -/
def annotate (m : ObjectMeta) (key value : String) : ObjectMeta :=
  { m with annotations := some ((m.annotations.getD .empty).insert key value) }

end ObjectMeta

end SecretRotation
