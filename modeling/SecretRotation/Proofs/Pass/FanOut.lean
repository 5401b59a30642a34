import SecretRotation.Proofs.Pass.Schedule

/-!
# The schedule of a fan-out

Whatever the clock shows and however long units take, a fan-out keeps to a schedule: its units begin
in the order in which they are given, no more of them than the width allows are under way at a time,
and the results come in the order in which the units end.

The beginnings and ends meant here are the real ones. A fan-out runs on some state, and whatever on
this state notes that units begin and end notes the marks of a path.

## Main definitions

* `Ends`, `Noted`: units whose results are known, and whose beginnings and ends are noted.

## Main results

* `run_follows`: a fan-out follows a path from its first to its last stage.
-/

namespace SecretRotation

variable {σ α β : Type}

/-- The first flight to end is one of the flights, and the others are left. -/
theorem Flight.exists_first {m : Type → Type} (f : Flight m α β) :
    (fs : List (Flight m α β)) → ∃ before after, f :: fs = before ++ (f.first fs).1 :: after ∧
      (f.first fs).2 = before ++ after
  | [] => ⟨[], [], rfl, rfl⟩
  | g :: fs => by
    obtain ⟨before, after, hall, hrest⟩ := g.exists_first fs
    simp only [Flight.first]
    split
    · exact ⟨[], g :: fs, rfl, rfl⟩
    · refine ⟨f :: before, after, ?_, ?_⟩
      · rw [hall, List.cons_append]
      · rw [hrest, List.cons_append]

theorem Flight.fst_first_mem {m : Type → Type} (f : Flight m α β) (fs : List (Flight m α β)) :
    (f.first fs).1 ∈ f :: fs := by
  obtain ⟨before, after, hall, -⟩ := f.exists_first fs
  rw [hall]
  exact List.mem_append_right _ List.mem_cons_self

theorem Flight.mem_of_mem_snd_first {m : Type → Type} {f g : Flight m α β}
    {fs : List (Flight m α β)} (hg : g ∈ (f.first fs).2) : g ∈ f :: fs := by
  obtain ⟨before, after, hall, hothers⟩ := f.exists_first fs
  rw [hothers] at hg
  rw [hall]
  rcases List.mem_append.1 hg with hg | hg
  · exact List.mem_append_left _ hg
  · exact List.mem_append_right _ (List.mem_cons_of_mem _ hg)

namespace FanOut

variable {result : α → β} {notes : List (Mark α) → σ → Prop}

/-! ### Units that are noted -/

/-- A unit under way ends with the result that is known, and its end is noted. -/
def Ends (result : α → β) (notes : List (Mark α) → σ → Prop) (a : α) (finish : StateM σ β) : Prop :=
  ∀ ms s, notes ms s → (finish.run s).1 = result a ∧ notes (ms ++ [.ended a]) (finish.run s).2

/-- Units whose results are known, and whose beginnings and ends are noted: `notes ms s` says that
`ms` is what has been noted so far in the state `s`. -/
structure Noted (clock : Clock (StateM σ)) (begin : α → StateM σ (Started (StateM σ) β))
    (result : α → β) (notes : List (Mark α) → σ → Prop) : Prop where
  now {ms : List (Mark α)} {s : σ} (h : notes ms s) : notes ms (clock.now.run s).2
  waitUntil (due : Nat) {ms : List (Mark α)} {s : σ} (h : notes ms s) :
    notes ms ((clock.waitUntil due).run s).2
  settled {a : α} {b : β} {ms : List (Mark α)} {s s' : σ} (h : notes ms s)
    (hbegin : (begin a).run s = (.settled b, s')) :
    b = result a ∧ notes (ms ++ [.begun a, .ended a]) s'
  underway {a : α} {due : Nat} {finish : StateM σ β} {ms : List (Mark α)} {s s' : σ}
    (h : notes ms s) (hbegin : (begin a).run s = (.underway due finish, s')) :
    notes (ms ++ [.begun a]) s' ∧ Ends result notes a finish

/-- A computation brings a fan-out from some stage to its end. -/
def Follows (result : α → β) (notes : List (Mark α) → σ → Prop) (width : Nat)
    (x : StateM σ (List (α × β))) (waiting underway : List α) : Prop :=
  ∀ done ms s, notes ms s → ∃ new done',
    Path width ⟨waiting, underway, done⟩ new (.final (done ++ done')) ∧
      (x.run s).1 = done'.map (fun a => (a, result a)) ∧ notes (ms ++ new) (x.run s).2

/-! ### One step of a fan-out -/

section

variable {clock : Clock (StateM σ)} {begin : α → StateM σ (Started (StateM σ) β)} {width : Nat}

/-- If nothing waits and nothing is under way, the end is reached. -/
theorem follows_nil : Follows result notes width (pure []) [] [] := by
  intro done ms s hs
  refine ⟨[], [], ?_, rfl, ?_⟩
  · rw [List.append_nil]
    exact .nil _
  · rwa [List.append_nil]

/-- A flight ends. -/
theorem follows_finish (h : Noted clock begin result notes) {a : α} {due : Nat}
    {finish : StateM σ β} (hends : Ends result notes a finish) {waiting before after : List α}
    {rest : StateM σ (List (α × β))}
    (hrest : Follows result notes width rest waiting (before ++ after)) :
    Follows result notes width
      (do
        clock.waitUntil due
        let b ← finish
        return (a, b) :: (← rest))
      waiting (before ++ a :: after) := by
  intro done ms s hs
  obtain ⟨hb, hended⟩ := hends ms _ (h.waitUntil due hs)
  obtain ⟨new, done', hpath, hresults, hnotes⟩ := hrest (done ++ [a]) _ _ hended
  refine ⟨.ended a :: new, a :: done', ?_, ?_, ?_⟩
  · rw [List.append_assoc] at hpath
    exact .cons .finish hpath
  · rw [List.map_cons, ← hb, ← hresults]
    rfl
  · rw [List.append_assoc] at hnotes
    exact hnotes

/-- A unit begins; `next` says how to go on. -/
theorem follows_begin (h : Noted clock begin result notes) (a : α) {waiting underway : List α}
    (hwidth : underway.length < width) {next : Started (StateM σ) β → StateM σ (List (α × β))}
    {rest : StateM σ (List (α × β))}
    (hsettled : ∀ b, next (.settled b) = do return (a, b) :: (← rest))
    (hrest : Follows result notes width rest waiting underway)
    (hunderway : ∀ due finish, Ends result notes a finish →
      Follows result notes width (next (.underway due finish)) waiting (underway ++ [a])) :
    Follows result notes width (begin a >>= next) (a :: waiting) underway := by
  intro done ms s hs
  have hstart : Step width ⟨a :: waiting, underway, done⟩ (.begun a)
      ⟨waiting, underway ++ [a], done⟩ := .start hwidth
  rcases hbegin : (begin a).run s with ⟨b | ⟨due, finish⟩, s'⟩
  · obtain ⟨hb, hnoted⟩ := h.settled hs hbegin
    obtain ⟨new, done', hpath, hresults, hnotes⟩ := hrest (done ++ [a]) _ _ hnoted
    have hfinish : Step width ⟨waiting, underway ++ a :: [], done⟩ (.ended a)
        ⟨waiting, underway ++ [], done ++ [a]⟩ := .finish
    rw [List.append_nil] at hfinish
    have hrun : (begin a >>= next).run s = ((a, b) :: (rest.run s').1, (rest.run s').2) := by
      rw [StateT.run_bind, hbegin]
      exact congrArg (fun x => StateT.run x s') (hsettled b)
    rw [hrun]
    refine ⟨.begun a :: .ended a :: new, a :: done', ?_, ?_, ?_⟩
    · rw [List.append_assoc] at hpath
      exact .cons hstart (.cons hfinish hpath)
    · rw [List.map_cons, ← hb, ← hresults]
    · rw [List.append_assoc] at hnotes
      exact hnotes
  · obtain ⟨hnoted, hends⟩ := h.underway hs hbegin
    obtain ⟨new, done', hpath, hresults, hnotes⟩ := hunderway due finish hends done _ _ hnoted
    rw [StateT.run_bind, hbegin]
    refine ⟨.begun a :: new, done', .cons hstart hpath, hresults, ?_⟩
    rw [List.append_assoc] at hnotes
    exact hnotes

/-- The clock is read. -/
theorem follows_now (h : Noted clock begin result notes) {waiting underway : List α}
    {x : Nat → StateM σ (List (α × β))}
    (hx : ∀ now, Follows result notes width (x now) waiting underway) :
    Follows result notes width (clock.now >>= x) waiting underway := by
  intro done ms s hs
  exact hx (clock.now.run s).1 done ms _ (h.now hs)

/-- The flight that is the first to end does so, and the others go on. -/
theorem follows_first (h : Noted clock begin result notes) {waiting : List α}
    {f : Flight (StateM σ) α β} {fs : List (Flight (StateM σ) α β)}
    (hflying : ∀ g ∈ f :: fs, Ends result notes g.item g.finish)
    (hlength : (f :: fs).length ≤ width) {rest : StateM σ (List (α × β))}
    (hrest : (∀ g ∈ (f.first fs).2, Ends result notes g.item g.finish) →
      (f.first fs).2.length ≤ width →
        Follows result notes width rest waiting ((f.first fs).2.map (·.item))) :
    Follows result notes width
      (do
        clock.waitUntil (f.first fs).1.due
        let b ← (f.first fs).1.finish
        return ((f.first fs).1.item, b) :: (← rest))
      waiting ((f :: fs).map (·.item)) := by
  have hends : Ends result notes (f.first fs).1.item (f.first fs).1.finish :=
    hflying _ (f.fst_first_mem fs)
  have hshorter : (f.first fs).2.length ≤ width := by
    rw [Flight.length_first]
    exact Nat.le_of_succ_le hlength
  have hrest := hrest (fun g hg => hflying g (Flight.mem_of_mem_snd_first hg)) hshorter
  obtain ⟨before, after, hall, hothers⟩ := f.exists_first fs
  rw [hothers, List.map_append] at hrest
  rw [hall, List.map_append, List.map_cons]
  exact follows_finish h hends hrest

/-! ### The whole -/

/-- A fan-out keeps to a schedule, wherever it starts from. -/
theorem follows_run (h : Noted clock begin result notes) (width : Nat) :
    (waiting : List α) → (flying : List (Flight (StateM σ) α β)) →
      (∀ f ∈ flying, Ends result notes f.item f.finish) → flying.length ≤ max 1 width →
        Follows result notes (max 1 width) (run clock begin width waiting flying) waiting
          (flying.map (·.item))
  | [], [], _, _ => by
    rw [run]
    exact follows_nil
  | a :: waiting, [], _, _ => by
    have hwidth : 0 < max 1 width := by omega
    have hsettled := follows_run h width waiting [] (fun f hf => absurd hf List.not_mem_nil)
      (Nat.zero_le _)
    rw [run]
    refine follows_begin h a hwidth (fun _ => rfl) hsettled fun due finish hends => ?_
    refine follows_run h width waiting [⟨a, due, finish⟩] (fun f hf => ?_) hwidth
    rw [List.mem_singleton.1 hf]
    exact hends
  | [], f :: fs, hflying, hlength => by
    rw [run]
    exact follows_first h hflying hlength (follows_run h width [] (f.first fs).2)
  | a :: waiting, f :: fs, hflying, hlength => by
    rw [run]
    refine follows_now h fun now => ?_
    split
    next =>
      exact follows_first h hflying hlength (follows_run h width (a :: waiting) (f.first fs).2)
    next hfull =>
      have hroom : (f :: fs).length < max 1 width := by
        rw [List.length_cons]
        omega
      have hwidth : ((f :: fs).map (·.item)).length < max 1 width := by
        rwa [List.length_map]
      have hsettled := follows_run h width waiting (f :: fs) hflying hlength
      refine follows_begin h a hwidth (fun _ => rfl) hsettled fun due finish hends => ?_
      have hmore : ∀ g ∈ f :: fs ++ [Flight.mk a due finish],
          Ends result notes g.item g.finish := by
        intro g hg
        rcases List.mem_append.1 hg with hg | hg
        · exact hflying g hg
        · rw [List.mem_singleton.1 hg]
          exact hends
      have hlonger : (f :: fs ++ [Flight.mk a due finish]).length ≤ max 1 width := by
        rw [List.length_append, List.length_singleton]
        exact hroom
      have hfollows := follows_run h width waiting _ hmore hlonger
      rwa [List.map_append] at hfollows
termination_by waiting flying => 2 * waiting.length + flying.length
decreasing_by
  all_goals simp only [List.length_cons, List.length_append, List.length_nil, Flight.length_first]
  all_goals omega

/-- **A fan-out keeps to a schedule.** Its units begin in the order in which they are given, no more
of them than the width allows are under way at a time, and the results come in the order in which
the units end. -/
theorem run_follows (h : Noted clock begin result notes) (width : Nat) (items : List α) {s : σ}
    (hs : notes [] s) :
    ∃ ms done, Path (max 1 width) (.initial items) ms (.final done) ∧
      ((run clock begin width items []).run s).1 = done.map (fun a => (a, result a)) ∧
      notes ms ((run clock begin width items []).run s).2 :=
  follows_run h width items [] (fun _ hf => absurd hf List.not_mem_nil) (Nat.zero_le _) [] [] s hs

end

end FanOut

end SecretRotation
