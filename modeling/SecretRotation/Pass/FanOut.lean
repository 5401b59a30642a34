/-!
# Bounded fan-out

Several units of work are taken up in a fixed order, at most `width` of them being under way at a
time. A unit is either settled as soon as it is begun, or is under way until some moment of a
clock.

Nothing is left idle: whenever a unit ends, the next one begins at the same moment. Where several
things can happen at one moment, units that are due end first, in the order in which they were
begun, and then further units begin. The clock moves on only when nothing else can be done, to the
moment when the first unit under way is due. The results come in the order in which the units end.

## Main definitions

* `Clock`: a clock that can be read and waited on.
* `Started`: a unit that has been begun.
* `Flight`, `Flight.first`: a unit that is under way, and the first of several to end.
* `FanOut.run`.
-/

namespace SecretRotation

variable {m : Type → Type} {α β γ : Type}

/-- A clock that can be read and waited on. -/
structure Clock (m : Type → Type) where
  /-- The present moment. -/
  now : m Nat
  /-- Waits for a moment; if it is not in the future, nothing happens. -/
  waitUntil : Nat → m Unit

/-- A unit of work that has been begun. -/
inductive Started (m : Type → Type) (β : Type)
  /-- It has ended at once. -/
  | settled (result : β)
  /-- It ends at some moment, by an action that gives the result. -/
  | underway (due : Nat) (finish : m β)

namespace Started

/-- A unit begun, with its result changed. -/
def map [Functor m] (f : β → γ) : Started m β → Started m γ
  | .settled result => .settled (f result)
  | .underway due finish => .underway due (f <$> finish)

end Started

/-- A unit that is under way. -/
structure Flight (m : Type → Type) (α β : Type) where
  /-- What is being worked on. -/
  item : α
  /-- When it ends. -/
  due : Nat
  /-- How it ends. -/
  finish : m β

namespace Flight

/-- The flight that ends first, and the others in their order. Of several that end at the same
moment it is the one that comes first. -/
def first (f : Flight m α β) : List (Flight m α β) → Flight m α β × List (Flight m α β)
  | [] => (f, [])
  | g :: rest =>
    if f.due ≤ (g.first rest).1.due then (f, g :: rest)
    else ((g.first rest).1, f :: (g.first rest).2)

theorem length_first (f : Flight m α β) :
    (fs : List (Flight m α β)) → (f.first fs).2.length = fs.length
  | [] => rfl
  | g :: rest => by
    simp only [first]
    split
    · rfl
    · simp [length_first g rest]

end Flight

namespace FanOut

variable [Monad m]

/-- Begins the units waiting and ends those under way, as far as the width and the clock allow. At
least one unit may be under way whatever the width. -/
def run (clock : Clock m) (begin : α → m (Started m β)) (width : Nat)
    (waiting : List α) (flying : List (Flight m α β)) : m (List (α × β)) :=
  match waiting, flying with
  | [], [] => pure []
  | a :: waiting, [] => do
    match ← begin a with
    | .settled result => return (a, result) :: (← run clock begin width waiting [])
    | .underway due finish => run clock begin width waiting [⟨a, due, finish⟩]
  | [], f :: fs => do
    clock.waitUntil (f.first fs).1.due
    let result ← (f.first fs).1.finish
    return ((f.first fs).1.item, result) :: (← run clock begin width [] (f.first fs).2)
  | a :: waiting, f :: fs => do
    if (f.first fs).1.due ≤ (← clock.now) ∨ width ≤ fs.length + 1 then
      clock.waitUntil (f.first fs).1.due
      let result ← (f.first fs).1.finish
      return ((f.first fs).1.item, result) :: (← run clock begin width (a :: waiting) (f.first fs).2)
    else
      match ← begin a with
      | .settled result => return (a, result) :: (← run clock begin width waiting (f :: fs))
      | .underway due finish => run clock begin width waiting (f :: fs ++ [⟨a, due, finish⟩])
termination_by 2 * waiting.length + flying.length
decreasing_by
  all_goals simp only [List.length_cons, List.length_append, List.length_nil, Flight.length_first]
  all_goals omega

end FanOut

end SecretRotation
