import SecretRotation.Pass.Access

/-!
# Computations that leave notes

A computation on some state does things that are noted on the state: `notes ns s` says that in the
state `s` the notes so far are `ns`. What a computation adds to the notes is known from its parts,
since the notes of its parts are added one after the other.

## Main definitions

* `Quietly`: a computation gives a result of some kind, and adds no note.
* `Leaves`: a computation gives a result, and adds notes, of some kind.
* `Fine`: a computation that may break off does not do so.
-/

namespace SecretRotation

variable {ν σ α β ε : Type} {notes : List ν → σ → Prop}

/-! ### Computations that add no note -/

/-- A computation gives a result of some kind, and nothing is noted meanwhile. -/
def Quietly (notes : List ν → σ → Prop) (p : α → Prop) (x : StateM σ α) : Prop :=
  ∀ ns s, notes ns s → p (x.run s).1 ∧ notes ns (x.run s).2

namespace Quietly

theorem pure {p : α → Prop} {a : α} (h : p a) : Quietly notes p (Pure.pure a) :=
  fun _ _ hs => ⟨h, hs⟩

theorem mono {p q : α → Prop} {x : StateM σ α} (hx : Quietly notes p x) (h : ∀ a, p a → q a) :
    Quietly notes q x := by
  intro ns s hs
  obtain ⟨hp, hs⟩ := hx ns s hs
  exact ⟨h _ hp, hs⟩

theorem bind {p : α → Prop} {q : β → Prop} {x : StateM σ α} {f : α → StateM σ β}
    (hx : Quietly notes p x) (hf : ∀ a, p a → Quietly notes q (f a)) :
    Quietly notes q (x >>= f) := by
  intro ns s hs
  obtain ⟨hp, hs⟩ := hx ns s hs
  exact hf _ hp ns _ hs

theorem forM {ι : Type} {f : ι → StateM σ Unit} (hf : ∀ i, Quietly notes (fun _ => True) (f i)) :
    (is : List ι) → Quietly notes (fun _ => True) (is.forM f)
  | [] => .pure trivial
  | i :: is => (hf i).bind fun _ _ => forM hf is

theorem run_bind {x : ExceptT ε (StateM σ) α} {f : α → ExceptT ε (StateM σ) β} {a : α} {b : β}
    (hx : Quietly notes (· = .ok a) x.run) (hf : Quietly notes (· = .ok b) (f a).run) :
    Quietly notes (· = .ok b) (x >>= f).run := by
  rw [ExceptT.run_bind]
  refine hx.bind ?_
  rintro _ rfl
  exact hf

theorem run_lift {x : StateM σ α} {a : α} (h : Quietly notes (· = a) x) :
    Quietly notes (· = .ok a) (liftM x : ExceptT ε (StateM σ) α).run := by
  intro ns s hs
  obtain ⟨ha, hs⟩ := h ns s hs
  exact ⟨congrArg Except.ok ha, hs⟩

theorem run_mapM {ι : Type} {f : ι → ExceptT ε (StateM σ) α} {g : ι → α}
    (hf : ∀ i, Quietly notes (· = .ok (g i)) (f i).run) :
    (is : List ι) → Quietly notes (· = .ok (is.map g)) (is.mapM f).run
  | [] => .pure rfl
  | i :: is => by
    rw [List.mapM_cons]
    exact run_bind (hf i) (run_bind (run_mapM hf is) (.pure rfl))

end Quietly

/-! ### Computations that add notes -/

/-- A computation gives a result of some kind, and leaves notes of some kind. -/
def Leaves (notes : List ν → σ → Prop) (p : α → List ν → Prop) (x : StateM σ α) : Prop :=
  ∀ ns s, notes ns s → ∃ new, p (x.run s).1 new ∧ notes (ns ++ new) (x.run s).2

theorem Quietly.leaves {p : α → List ν → Prop} {x : StateM σ α}
    (h : Quietly notes (fun a => p a []) x) : Leaves notes p x := by
  intro ns s hs
  refine ⟨[], ?_⟩
  rw [List.append_nil]
  exact h ns s hs

theorem Quietly.bind_leaves {p : α → Prop} {q : β → List ν → Prop} {x : StateM σ α}
    {f : α → StateM σ β} (hx : Quietly notes p x) (hf : ∀ a, p a → Leaves notes q (f a)) :
    Leaves notes q (x >>= f) := by
  intro ns s hs
  obtain ⟨hp, hs⟩ := hx ns s hs
  exact hf _ hp ns _ hs

namespace Leaves

theorem mono {p q : α → List ν → Prop} {x : StateM σ α} (hx : Leaves notes p x)
    (h : ∀ a new, p a new → q a new) : Leaves notes q x := by
  intro ns s hs
  obtain ⟨new, hp, hs⟩ := hx ns s hs
  exact ⟨new, h _ _ hp, hs⟩

/-- Notes are left one after the other. -/
theorem bind {p : α → List ν → Prop} {q : β → List ν → Prop} {x : StateM σ α} {f : α → StateM σ β}
    (hx : Leaves notes p x)
    (hf : ∀ a new, p a new → Leaves notes (fun b new' => q b (new ++ new')) (f a)) :
    Leaves notes q (x >>= f) := by
  intro ns s hs
  obtain ⟨new, hp, hs⟩ := hx ns s hs
  obtain ⟨new', hq, hs⟩ := hf _ new hp _ _ hs
  rw [List.append_assoc] at hs
  exact ⟨new ++ new', hq, hs⟩

theorem pure_append {p : α → List ν → Prop} {a : α} {new : List ν} (h : p a new) :
    Leaves notes (fun a new' => p a (new ++ new')) (Pure.pure a) := by
  refine Quietly.leaves (.pure ?_)
  rwa [List.append_nil]

/-- A computation that may break off leaves nothing more when it does so. -/
theorem run_bind {p : Except ε α → List ν → Prop} {q : Except ε β → List ν → Prop}
    {x : ExceptT ε (StateM σ) α} {f : α → ExceptT ε (StateM σ) β} (hx : Leaves notes p x.run)
    (hf : ∀ a new, p (.ok a) new → Leaves notes (fun b new' => q b (new ++ new')) (f a).run)
    (herror : ∀ e new, p (.error e) new → q (.error e) new) : Leaves notes q (x >>= f).run := by
  rw [ExceptT.run_bind]
  refine hx.bind fun result new hp => ?_
  cases result with
  | ok a => exact hf a new hp
  | error e => exact pure_append (herror e new hp)

end Leaves

/-! ### Computations that do not break off -/

/-- A computation that may break off does not do so, and gives a result of some kind. -/
def Fine (p : α → List ν → Prop) : Except ε α → List ν → Prop
  | .ok a, new => p a new
  | .error _, _ => False

theorem Fine.exists_eq_ok {p : α → List ν → Prop} {result : Except ε α} {new : List ν}
    (h : Fine p result new) : ∃ a, result = .ok a ∧ p a new := by
  cases result with
  | ok a => exact ⟨a, rfl, h⟩
  | error e => exact h.elim

/-- A computation that may break off does not do so, and adds no note. -/
def Silently (notes : List ν → σ → Prop) (x : ExceptT ε (StateM σ) α) : Prop :=
  Leaves notes (Fine fun _ new => new = []) x.run

theorem Leaves.pure_fine {p : α → List ν → Prop} {a : α} (h : p a []) :
    Leaves notes (Fine p) (Pure.pure a : ExceptT ε (StateM σ) α).run :=
  Quietly.leaves (.pure h)

theorem Leaves.bind_fine {p : α → List ν → Prop} {q : β → List ν → Prop}
    {x : ExceptT ε (StateM σ) α} {f : α → ExceptT ε (StateM σ) β}
    (hx : Leaves notes (Fine p) x.run)
    (hf : ∀ a new, p a new → Leaves notes (Fine fun b new' => q b (new ++ new')) (f a).run) :
    Leaves notes (Fine q) (x >>= f).run := by
  refine hx.run_bind (fun a new hp => (hf a new hp).mono ?_) fun _ _ h => h.elim
  rintro (e | b) new' hq
  · exact hq.elim
  · exact hq

theorem Silently.bind {p : Except ε β → List ν → Prop} {x : ExceptT ε (StateM σ) α}
    {f : α → ExceptT ε (StateM σ) β} (hx : Silently notes x)
    (hf : ∀ a, Leaves notes p (f a).run) : Leaves notes p (x >>= f).run := by
  refine Leaves.run_bind hx ?_ fun _ _ h => h.elim
  rintro a _ rfl
  exact hf a

theorem Silently.forM {ι : Type} {f : ι → ExceptT ε (StateM σ) Unit}
    (hf : ∀ i, Silently notes (f i)) : (is : List ι) → Silently notes (is.forM f)
  | [] => .pure_fine rfl
  | i :: is => (hf i).bind fun _ => Silently.forM hf is

end SecretRotation
