import Mathlib.Data.List.Basic
import Mathlib.Data.List.Perm.Basic
import SecretRotation.Pass.FanOut

/-!
# Schedules

In which order the units of a fan-out begin and end is up to whoever schedules them. All that is
asked of a schedule is that units begin in the order in which they are given, that no more of them
than the width allows are under way at a time, and that a unit ends after it has begun; any unit
that is under way may be the next one to end.

No unit is lost or run twice on the way: at every stage the units that wait, those under way and
those that have ended are together the units given. As long as something is left to do, a schedule
can go on, and every further mark brings it closer to its end.

## Main definitions

* `Stage`: how far a fan-out has come; `Mark`: a unit begins or ends.
* `Step`, `Path`: one mark and several of them.
* `Keeps`: marks by which at no time too many units are under way.

## Main results

* `Path.conserves`: no unit is lost or doubled.
* `Path.length_underway_le`, `Path.keeps`: the width is kept.
* `Path.begun_eq`, `Path.ended_eq`: what the marks of a path say.
* `exists_step`, `Path.work_eq`: a schedule comes to its end.
-/

namespace SecretRotation.FanOut

variable {α β : Type} {width : Nat}

/-! ### Stages and marks -/

/-- How far a fan-out has come. -/
structure Stage (α : Type) where
  /-- The units that have not begun, in order. -/
  waiting : List α
  /-- The units under way, in the order in which they have begun. -/
  underway : List α
  /-- The units that have ended, in the order in which they have ended. -/
  done : List α

/-- Something that happens in the course of a fan-out. -/
inductive Mark (α : Type)
  /-- A unit begins. -/
  | begun (a : α)
  /-- A unit ends. -/
  | ended (a : α)

namespace Mark

/-- The unit that begins. -/
def begun? : Mark α → Option α
  | .begun a => some a
  | .ended _ => none

/-- The unit that ends. -/
def ended? : Mark α → Option α
  | .begun _ => none
  | .ended a => some a

/-- A mark of the things that units stand for; some of them stand for nothing. -/
def filterMap (f : α → Option β) : Mark α → Option (Mark β)
  | .begun a => (f a).map .begun
  | .ended a => (f a).map .ended

theorem begun?_filterMap (f : α → Option β) (ms : List (Mark α)) :
    (ms.filterMap (filterMap f)).filterMap begun? = (ms.filterMap begun?).filterMap f := by
  rw [List.filterMap_filterMap, List.filterMap_filterMap]
  congr 1
  funext m
  cases m with
  | begun a => cases hf : f a <;> simp [filterMap, begun?, hf]
  | ended a => cases hf : f a <;> simp [filterMap, begun?, hf]

theorem ended?_filterMap (f : α → Option β) (ms : List (Mark α)) :
    (ms.filterMap (filterMap f)).filterMap ended? = (ms.filterMap ended?).filterMap f := by
  rw [List.filterMap_filterMap, List.filterMap_filterMap]
  congr 1
  funext m
  cases m with
  | begun a => cases hf : f a <;> simp [filterMap, ended?, hf]
  | ended a => cases hf : f a <;> simp [filterMap, ended?, hf]

end Mark

namespace Stage

/-- The stage at which nothing has begun. -/
def initial (items : List α) : Stage α := ⟨items, [], []⟩

/-- The stage at which everything has ended, in some order. -/
def final (done : List α) : Stage α := ⟨[], [], done⟩

/-- All units, wherever they are. -/
def units (s : Stage α) : List α := s.waiting ++ s.underway ++ s.done

/-- How many marks are missing to the end. -/
def work (s : Stage α) : Nat := 2 * s.waiting.length + s.underway.length

theorem units_initial (items : List α) : (initial items).units = items := by
  rw [units, initial, List.append_nil, List.append_nil]

theorem units_final (done : List α) : (final done).units = done := rfl

theorem work_initial (items : List α) : (initial items).work = 2 * items.length := rfl

end Stage

/-- One thing happens: the next unit begins, if the width allows it, or some unit under way ends. -/
inductive Step (width : Nat) : Stage α → Mark α → Stage α → Prop
  | start {a : α} {waiting underway done : List α} (h : underway.length < width) :
      Step width ⟨a :: waiting, underway, done⟩ (.begun a) ⟨waiting, underway ++ [a], done⟩
  | finish {a : α} {waiting before after done : List α} :
      Step width ⟨waiting, before ++ a :: after, done⟩ (.ended a)
        ⟨waiting, before ++ after, done ++ [a]⟩

/-- Several things happen one after the other. -/
inductive Path (width : Nat) : Stage α → List (Mark α) → Stage α → Prop
  | nil (s : Stage α) : Path width s [] s
  | cons {s s' s'' : Stage α} {m : Mark α} {ms : List (Mark α)} (h : Step width s m s')
      (hs : Path width s' ms s'') : Path width s (m :: ms) s''

/-! ### What a step preserves -/

namespace Step

variable {s s' : Stage α} {m : Mark α}

theorem conserves (h : Step width s m s') : s'.units.Perm s.units := by
  cases h with
  | @start a waiting underway done h =>
    simp only [Stage.units, List.append_assoc, List.cons_append, List.nil_append]
    rw [← List.append_assoc]
    exact List.perm_middle.trans (by simp [List.append_assoc])
  | @finish a waiting before after done =>
    simp only [Stage.units, List.append_assoc, List.cons_append]
    refine (List.Perm.append_left _ (List.Perm.append_left _ ?_))
    rw [← List.append_assoc]
    exact List.perm_append_singleton a _

theorem length_underway_le (h : Step width s m s') (hs : s.underway.length ≤ width) :
    s'.underway.length ≤ width := by
  cases h with
  | start h =>
    rw [List.length_append, List.length_singleton]
    omega
  | finish =>
    simp only [List.length_append, List.length_cons] at hs ⊢
    omega

theorem work_eq (h : Step width s m s') : s.work = s'.work + 1 := by
  cases h with
  | start =>
    simp only [Stage.work, List.length_cons, List.length_append, List.length_nil]
    omega
  | finish =>
    simp only [Stage.work, List.length_cons, List.length_append]
    omega

end Step

/-- As long as something is left to do, something can happen. -/
theorem exists_step (hwidth : 0 < width) (s : Stage α) (hs : 0 < s.work) :
    ∃ m s', Step width s m s' := by
  obtain ⟨waiting, underway, done⟩ := s
  cases underway with
  | cons a underway =>
    have hfinish : Step width ⟨waiting, [] ++ a :: underway, done⟩ (.ended a) _ := .finish
    exact ⟨_, _, hfinish⟩
  | nil =>
    cases waiting with
    | cons a waiting => exact ⟨_, _, .start hwidth⟩
    | nil => exact absurd hs (Nat.lt_irrefl 0)

/-! ### What holds along a path -/

namespace Path

variable {s s' s'' : Stage α} {ms ms' : List (Mark α)}

theorem trans (h : Path width s ms s') (h' : Path width s' ms' s'') :
    Path width s (ms ++ ms') s'' := by
  induction h with
  | nil s => exact h'
  | cons hstep _ ih => exact .cons hstep (ih h')

/-- No unit is lost or doubled. -/
theorem conserves (h : Path width s ms s') : s'.units.Perm s.units := by
  induction h with
  | nil s => exact .refl _
  | cons hstep _ ih => exact ih.trans hstep.conserves

/-- The width is kept. -/
theorem length_underway_le (h : Path width s ms s') (hs : s.underway.length ≤ width) :
    s'.underway.length ≤ width := by
  induction h with
  | nil s => exact hs
  | cons hstep _ ih => exact ih (hstep.length_underway_le hs)

/-- Every mark brings a schedule closer to its end. -/
theorem work_eq (h : Path width s ms s') : s.work = s'.work + ms.length := by
  induction h with
  | nil s => rfl
  | cons hstep _ ih =>
    rw [hstep.work_eq, ih, List.length_cons]
    omega

/-- The units begin in the order in which they are given. -/
theorem begun_eq (h : Path width s ms s') : s.waiting = ms.filterMap Mark.begun? ++ s'.waiting := by
  induction h with
  | nil s => rfl
  | cons hstep _ ih =>
    cases hstep with
    | start h => exact congrArg _ ih
    | finish => exact ih

/-- The units are done in the order in which they end. -/
theorem ended_eq (h : Path width s ms s') : s'.done = s.done ++ ms.filterMap Mark.ended? := by
  induction h with
  | nil s => exact (List.append_nil _).symm
  | cons hstep _ ih =>
    cases hstep with
    | start h => exact ih
    | @finish a => exact ih.trans (List.append_assoc _ [a] _)

end Path

/-- The units that have begun are those that have ended and those that are under way. -/
theorem Path.begun_perm {s s' : Stage α} {ms : List (Mark α)} (h : Path width s ms s') :
    (s.underway ++ ms.filterMap Mark.begun?).Perm (ms.filterMap Mark.ended? ++ s'.underway) := by
  induction h with
  | nil s => exact .of_eq (List.append_nil _)
  | @cons s s' s'' m ms hstep _ ih =>
    cases hstep with
    | @start a waiting underway done h =>
      rw [List.append_assoc] at ih
      exact ih
    | @finish a waiting before after done =>
      refine List.Perm.trans ?_ (ih.cons a)
      rw [List.append_assoc]
      exact List.perm_middle.trans (by rw [List.append_assoc]; rfl)

/-- A path can be followed up to any of its marks. -/
theorem Path.exists_of_append {s s'' : Stage α} {pre post : List (Mark α)}
    (h : Path width s (pre ++ post) s'') : ∃ s', Path width s pre s' := by
  induction pre generalizing s with
  | nil => exact ⟨s, .nil s⟩
  | cons m pre ih =>
    cases h with
    | cons hstep hrest =>
      obtain ⟨s', hpath⟩ := ih hrest
      exact ⟨s', .cons hstep hpath⟩

/-- The units that have ended when nothing is left to do are those given. -/
theorem Path.done_perm {items done : List α} {ms : List (Mark α)}
    (h : Path width (.initial items) ms (.final done)) : done.Perm items := by
  have hconserves := h.conserves
  rwa [Stage.units_initial, Stage.units_final] at hconserves

/-! ### How many units are under way -/

/-- At no time more than some number of units are under way. -/
def Keeps (n : Nat) (ms : List (Mark α)) : Prop :=
  ∀ pre, pre <+: ms →
    (pre.filterMap Mark.begun?).length ≤ (pre.filterMap Mark.ended?).length + n

/-- A path keeps its width; so do the things that its units stand for. -/
theorem Path.keeps {items : List α} {s : Stage α} {ms : List (Mark α)}
    (h : Path width (.initial items) ms s) (f : α → Option β) :
    Keeps width (ms.filterMap (Mark.filterMap f)) := by
  intro pre hpre
  obtain ⟨pre, ⟨post, rfl⟩, rfl⟩ := List.prefix_filterMap_iff.1 hpre
  obtain ⟨s', hpath⟩ := h.exists_of_append
  have hlength := (hpath.begun_perm.filterMap f).length_eq
  have hwidth := hpath.length_underway_le (Nat.zero_le width)
  have hunderway := List.length_filterMap_le f s'.underway
  rw [Stage.initial, List.nil_append, List.filterMap_append, List.length_append] at hlength
  rw [Mark.begun?_filterMap, Mark.ended?_filterMap]
  omega

namespace Keeps

variable {n : Nat} {ms ms' : List (Mark α)}

theorem nil : Keeps n ([] : List (Mark α)) := by
  intro pre hpre
  rw [List.prefix_nil.1 hpre]
  exact Nat.zero_le _

theorem mono {n' : Nat} (h : Keeps n ms) (hn : n ≤ n') : Keeps n' ms :=
  fun pre hpre => Nat.le_trans (h pre hpre) (Nat.add_le_add_left hn _)

/-- If everything that has begun has ended, more can follow. -/
theorem append (h : Keeps n ms)
    (hended : (ms.filterMap Mark.begun?).length = (ms.filterMap Mark.ended?).length)
    (h' : Keeps n ms') : Keeps n (ms ++ ms') := by
  rintro pre ⟨post, heq⟩
  rcases List.append_eq_append_iff.1 heq with ⟨rest, rfl, -⟩ | ⟨pre', rfl, hpre'⟩
  · exact h pre ⟨rest, rfl⟩
  · have hkeeps := h' pre' ⟨post, hpre'.symm⟩
    simp only [List.filterMap_append, List.length_append]
    omega

end Keeps

end SecretRotation.FanOut
