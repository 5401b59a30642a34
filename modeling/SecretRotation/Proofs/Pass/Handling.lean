import SecretRotation.Proofs.Notes
import SecretRotation.Proofs.Pass.Course
import SecretRotation.Proofs.Pass.FanOut

/-!
# Units that leave their notes when they begin

A client of a server sends the request of an update when the update begins. The reply is there by
then, and only has to be waited for; nothing more is noted. So the notes that a fan-out leaves are
those of its units, one after the other in the order in which they are given, whatever is due when,
and each result belongs to the notes of its own unit. Only the order of the results is open.

## Main definitions

* `Promises`: a unit that has been begun, and whose result is known.
* `Handled`: a unit with its result and its notes.
* `Writing`: a cluster on which an update leaves its notes when it begins.
* `Workload.Handles`, `Listing.Handles`: what is noted of a workload and of a listing, and what it
  comes to.

## Main results

* `FanOut.leaves_run`: the notes and the results of a fan-out.
* `Writing.leaves_mapM_bringUpToDate`: the notes of the writing part of a pass, and what it comes
  to.
-/

namespace SecretRotation

variable {ν σ α β γ ε : Type} {notes : List ν → σ → Prop} {k : Kind}

/-! ### Units -/

/-- A unit under way ends with a result that is known, and nothing is noted meanwhile. -/
def EndsWith (notes : List ν → σ → Prop) (b : β) (finish : ExceptT ε (StateM σ) β) : Prop :=
  Leaves notes (Fine fun b' new => b' = b ∧ new = []) finish.run

/-- A unit has been begun, and its result is known. -/
def Promises (notes : List ν → σ → Prop) (b : β) : Started (ExceptT ε (StateM σ)) β → Prop
  | .settled b' => b' = b
  | .underway _ finish => EndsWith notes b finish

theorem Promises.map {b : β} {started : Started (ExceptT ε (StateM σ)) β}
    (h : Promises notes b started) (f : β → γ) : Promises notes (f b) (started.map f) := by
  cases started with
  | settled b' => exact congrArg f h
  | underway due finish =>
    have h : EndsWith notes b finish := h
    change EndsWith notes (f b) (f <$> finish)
    rw [EndsWith, ← bind_pure_comp]
    refine Leaves.bind_fine h ?_
    rintro _ _ ⟨rfl, rfl⟩
    exact .pure_fine ⟨rfl, rfl⟩

/-- A unit with its result and with the notes that it left. -/
structure Handled (ν α β : Type) where
  /-- What was worked on. -/
  item : α
  /-- The result. -/
  result : β
  /-- The notes. -/
  notes : List ν

/-- A unit with its result. -/
def Handled.landed (p : Handled ν α β) : α × β := (p.item, p.result)

/-! ### Fan-outs -/

/-- Something that is known of each flight is known of the first to end and of the others. -/
theorem Flight.exists_forall₂_first {m : Type → Type} {R : Flight m α β → γ → Prop} :
    {f : Flight m α β} → (fs : List (Flight m α β)) → {rs : List γ} →
      List.Forall₂ R (f :: fs) rs → ∃ r rest, R (f.first fs).1 r ∧
        List.Forall₂ R (f.first fs).2 rest ∧ rs.Perm (r :: rest)
  | _, [], _, .cons h .nil => ⟨_, [], h, .nil, .refl _⟩
  | f, g :: fs, r :: rs, .cons hf hfs => by
    obtain ⟨r', rest, hr', hrest, hperm⟩ := exists_forall₂_first fs hfs
    simp only [first]
    split
    · exact ⟨r, rs, hf, hfs, .refl _⟩
    · exact ⟨r', r :: rest, hr', .cons hf hrest, (hperm.cons r).trans (.swap r' r rest)⟩

namespace FanOut

variable {clock : Clock (ExceptT ε (StateM σ))}
  {begin : α → ExceptT ε (StateM σ) (Started (ExceptT ε (StateM σ)) β)}
  {Handles : α → β → List ν → Prop}

/-- A computation brings a fan-out to its end. The units that wait leave their notes, and their
results come together with those of the units under way. -/
def Completes (notes : List ν → σ → Prop) (Handles : α → β → List ν → Prop) (waiting : List α)
    (landing : List (α × β)) (x : ExceptT ε (StateM σ) (List (α × β))) : Prop :=
  Leaves notes
    (Fine fun results new => ∃ parts : List (Handled ν α β), parts.map Handled.item = waiting ∧
      (∀ p ∈ parts, Handles p.item p.result p.notes) ∧ new = parts.flatMap Handled.notes ∧
      results.Perm (parts.map Handled.landed ++ landing))
    x.run

/-- The flights under way end with the results that are known. -/
abbrev Landing (notes : List ν → σ → Prop) (flying : List (Flight (ExceptT ε (StateM σ)) α β))
    (landing : List (α × β)) : Prop :=
  List.Forall₂ (fun f r => f.item = r.1 ∧ EndsWith notes r.2 f.finish) flying landing

/-- A unit begins; `next` says how to go on. -/
theorem completes_begin {a : α} {waiting : List α} {landing : List (α × β)}
    (hbegin : Leaves notes (Fine fun started new => ∃ b, Promises notes b started ∧
      Handles a b new) (begin a).run)
    {next : Started (ExceptT ε (StateM σ)) β → ExceptT ε (StateM σ) (List (α × β))}
    {rest : ExceptT ε (StateM σ) (List (α × β))}
    (hsettled : ∀ b, next (.settled b) = do return (a, b) :: (← rest))
    (hrest : Completes notes Handles waiting landing rest)
    (hunderway : ∀ b due finish, EndsWith notes b finish →
      Completes notes Handles waiting (landing ++ [(a, b)]) (next (.underway due finish))) :
    Completes notes Handles (a :: waiting) landing (begin a >>= next) := by
  refine Leaves.bind_fine hbegin ?_
  rintro started new ⟨b, hpromise, hhandles⟩
  -- What the other units leave comes after what this one has left.
  have hparts {results : List (α × β)} {new' : List ν} {parts : List (Handled ν α β)}
      (hitems : parts.map Handled.item = waiting)
      (hall : ∀ p ∈ parts, Handles p.item p.result p.notes)
      (hnew : new' = parts.flatMap Handled.notes)
      (hresults : results.Perm ((a, b) :: (parts.map Handled.landed ++ landing))) :
      ∃ parts : List (Handled ν α β), parts.map Handled.item = a :: waiting ∧
        (∀ p ∈ parts, Handles p.item p.result p.notes) ∧
        new ++ new' = parts.flatMap Handled.notes ∧
        results.Perm (parts.map Handled.landed ++ landing) := by
    refine ⟨⟨a, b, new⟩ :: parts, ?_, List.forall_mem_cons.2 ⟨hhandles, hall⟩, ?_, hresults⟩
    · rw [List.map_cons, hitems]
    · rw [hnew, List.flatMap_cons]
  cases started with
  | settled b' =>
    obtain rfl : b' = b := hpromise
    rw [hsettled]
    refine Leaves.bind_fine hrest ?_
    rintro results new' ⟨parts, hitems, hall, hnew, hresults⟩
    refine .pure_fine ?_
    rw [List.append_nil]
    exact hparts hitems hall hnew (hresults.cons _)
  | underway due finish =>
    refine (hunderway b due finish hpromise).mono ?_
    rintro (e | results) new' h
    · exact h
    · obtain ⟨parts, hitems, hall, hnew, hresults⟩ := h
      refine hparts hitems hall hnew (hresults.trans ?_)
      rw [← List.append_assoc]
      exact List.perm_append_singleton _ _

/-- The flight that is the first to end does so. -/
theorem completes_first (hwaitUntil : ∀ due, Silently notes (clock.waitUntil due))
    {waiting : List α} {f : Flight (ExceptT ε (StateM σ)) α β}
    {fs : List (Flight (ExceptT ε (StateM σ)) α β)} {landing : List (α × β)}
    (hflying : Landing notes (f :: fs) landing) {rest : ExceptT ε (StateM σ) (List (α × β))}
    (hrest : ∀ landing', Landing notes (f.first fs).2 landing' →
      Completes notes Handles waiting landing' rest) :
    Completes notes Handles waiting landing
      (do
        clock.waitUntil (f.first fs).1.due
        let b ← (f.first fs).1.finish
        return ((f.first fs).1.item, b) :: (← rest)) := by
  obtain ⟨⟨a, b⟩, landing', ⟨hitem, hends⟩, hothers, hperm⟩ :=
    Flight.exists_forall₂_first fs hflying
  refine (hwaitUntil _).bind fun _ => Leaves.bind_fine hends ?_
  rintro _ _ ⟨rfl, rfl⟩
  refine Leaves.bind_fine (hrest landing' hothers) ?_
  rintro results new ⟨parts, hitems, hall, hnew, hresults⟩
  refine .pure_fine ⟨parts, hitems, hall, ?_, ?_⟩
  · rw [List.nil_append, List.append_nil, hnew]
  · rw [hitem]
    refine (hresults.cons _).trans ?_
    exact List.perm_middle.symm.trans (hperm.symm.append_left _)

/-- **A fan-out leaves the notes of its units**, in the order in which they are given, and comes to
their results in some order. -/
theorem leaves_run (hnow : Silently notes clock.now)
    (hwaitUntil : ∀ due, Silently notes (clock.waitUntil due)) (width : Nat) :
    (waiting : List α) → (flying : List (Flight (ExceptT ε (StateM σ)) α β)) →
      (∀ a ∈ waiting, Leaves notes (Fine fun started new => ∃ b, Promises notes b started ∧
        Handles a b new) (begin a).run) →
      (landing : List (α × β)) → Landing notes flying landing →
        Completes notes Handles waiting landing (run clock begin width waiting flying)
  | [], [], _, _, .nil => by
    rw [run]
    exact .pure_fine ⟨[], rfl, fun _ h => absurd h List.not_mem_nil, rfl, .refl _⟩
  | a :: waiting, [], hbegin, _, .nil => by
    obtain ⟨ha, hbegin⟩ := List.forall_mem_cons.1 hbegin
    rw [run]
    refine completes_begin ha (fun _ => rfl)
      (leaves_run hnow hwaitUntil width waiting [] hbegin [] .nil) fun b due finish hends => ?_
    exact leaves_run hnow hwaitUntil width waiting _ hbegin _ (.cons ⟨rfl, hends⟩ .nil)
  | [], f :: fs, hbegin, _, hflying => by
    rw [run]
    exact completes_first hwaitUntil hflying fun landing hlanding =>
      leaves_run hnow hwaitUntil width [] _ hbegin landing hlanding
  | a :: waiting, f :: fs, hbegin, landing, hflying => by
    rw [run]
    refine hnow.bind fun now => ?_
    split
    · exact completes_first hwaitUntil hflying fun landing hlanding =>
        leaves_run hnow hwaitUntil width (a :: waiting) _ hbegin landing hlanding
    · obtain ⟨ha, hbegin⟩ := List.forall_mem_cons.1 hbegin
      refine completes_begin ha (fun _ => rfl)
        (leaves_run hnow hwaitUntil width waiting (f :: fs) hbegin landing hflying)
        fun b due finish hends => ?_
      refine leaves_run hnow hwaitUntil width waiting _ hbegin _ ?_
      exact List.rel_append hflying (.cons ⟨rfl, hends⟩ .nil)
termination_by waiting flying => 2 * waiting.length + flying.length
decreasing_by
  all_goals simp only [List.length_cons, List.length_append, List.length_nil, Flight.length_first]
  all_goals omega

end FanOut

/-! ### Workloads and listings -/

/-- What is known of an update: the workload, the answer, and the notes. -/
abbrev Answered (ν : Type) := (k : Kind) → Workload k → Except Fault (Workload k) → List ν → Prop

/-- What becomes of a workload that takes part, and what is noted of it. A current one is left
alone; any other is given new stamps if the answer to its update is not a fault. -/
inductive Workload.Handles (answered : Answered ν) (t : Target) (w : Workload k) :
    Except Failure Bool → List ν → Prop
  | current (h : w.IsCurrent t) : Handles answered t w (.ok false) []
  | updated {stored new} (h : ¬ w.IsCurrent t)
      (hanswer : answered k (w.stamped t.key t.stamp) (.ok stored) new) :
      Handles answered t w (.ok true) new
  | failed {fault new} (h : ¬ w.IsCurrent t)
      (hanswer : answered k (w.stamped t.key t.stamp) (.error fault) new) :
      Handles answered t w (.error (.updating w.title fault)) new

/-- What becomes of a listing, and what is noted of it. -/
def Listing.Handles (answered : Answered ν) (t : Target) (l : Listing) (tally : Tally)
    (new : List ν) : Prop :=
  ∃ parts : List (Handled ν (Workload l.kind) (Except Failure Bool)),
    parts.map Handled.item = (l.eligible t.name).values ∧
    (∀ p ∈ parts, p.item.Handles answered t p.result p.notes) ∧
    new = parts.flatMap Handled.notes ∧
    tally.Similar (.ofResults l.workloads.length (parts.map fun p => (p.item.title, p.result)))

/-- A cluster on which an update leaves its notes when it begins; nothing else is noted. What is
known of the updates is known of those that are admitted. -/
structure Writing (access : ClusterAccess (ExceptT ε (StateM σ))) (notes : List ν → σ → Prop)
    (admitted : AnyWorkload → Prop) (answered : Answered ν) : Prop where
  now : Silently notes access.clock.now
  waitUntil (due : Nat) : Silently notes (access.clock.waitUntil due)
  report (e : Event) : Silently notes (access.report e)
  update {k : Kind} {w : Workload k} (hw : admitted ⟨k, w⟩) :
    Leaves notes (Fine fun started new => ∃ answer, Promises notes answer started ∧
      answered k w answer new) (access.update k w).run

namespace Writing

variable {access : ClusterAccess (ExceptT ε (StateM σ))} {admitted : AnyWorkload → Prop}
  {answered : Answered ν} (h : Writing access notes admitted answered)

include h

/-- A workload that takes part is begun. -/
theorem leaves_beginUpdate {t : Target} {w : Workload k}
    (hw : ¬ w.IsCurrent t → admitted ⟨k, w.stamped t.key t.stamp⟩) :
    Leaves notes (Fine fun started new => ∃ result, Promises notes result started ∧
      w.Handles answered t result new) (beginUpdate access t w).run := by
  by_cases hcurrent : w.IsCurrent t
  · rw [beginUpdate, Workload.verdict_of_isCurrent hcurrent]
    exact (h.report _).bind fun _ => .pure_fine ⟨_, rfl, .current hcurrent⟩
  · rw [beginUpdate, Workload.verdict_of_not_isCurrent hcurrent]
    refine (h.report _).bind fun _ => (h.update (hw hcurrent)).bind_fine ?_
    rintro started new ⟨answer, hpromise, hanswer⟩
    refine .pure_fine ⟨_, hpromise.map _, ?_⟩
    rw [List.append_nil]
    cases answer with
    | ok stored => exact .updated hcurrent hanswer
    | error fault => exact .failed hcurrent hanswer

/-- A listing is worked off. -/
theorem leaves_bringUpToDate (limit : Option Nat) {t : Target} {l : Listing}
    (hl : ∀ w ∈ (l.eligible t.name).values, ¬ w.IsCurrent t →
      admitted ⟨l.kind, w.stamped t.key t.stamp⟩) :
    Leaves notes (Fine fun tally new => l.Handles answered t tally new)
      (bringUpToDate access limit t l).run := by
  rw [bringUpToDate]
  by_cases hempty : (l.eligible t.name).isEmpty
  · have hvalues := OrderedMap.values_eq_nil_of_isEmpty hempty
    rw [if_pos hempty]
    refine (h.report _).bind fun _ => .pure_fine ⟨[], hvalues.symm, ?_, rfl, .refl _⟩
    exact fun _ hp => absurd hp List.not_mem_nil
  · rw [if_neg hempty]
    have hrun : FanOut.Completes notes (fun w => w.Handles answered t) (l.eligible t.name).values []
        (FanOut.run access.clock (beginUpdate access t)
          (fanOutWidth limit (l.eligible t.name).size) (l.eligible t.name).values []) :=
      FanOut.leaves_run h.now h.waitUntil _ _ [] (fun w hw => h.leaves_beginUpdate (hl w hw)) []
        .nil
    refine (h.report _).bind fun _ => Leaves.bind_fine hrun ?_
    rintro results new ⟨parts, hitems, hall, hnew, hresults⟩
    have hhandles : l.Handles answered t (Tally.ofResults l.workloads.length
        (results.map fun r => (r.1.title, r.2))) (new ++ []) := by
      refine ⟨parts, hitems, hall, (List.append_nil _).trans hnew, .ofResults _ ?_⟩
      rw [List.append_nil] at hresults
      refine (hresults.map _).trans ?_
      rw [List.map_map]
      exact .refl _
    refine (Silently.forM (fun f => h.report _) _).bind fun _ => ?_
    split
    · exact (h.report _).bind fun _ => .pure_fine hhandles
    · exact .pure_fine hhandles

/-- **The writing part of a pass** leaves the notes of its updates, one after the other. -/
theorem leaves_mapM_bringUpToDate (limit : Option Nat) {t : Target} : (ls : List Listing) →
    (∀ l ∈ ls, ∀ w ∈ (l.eligible t.name).values, ¬ w.IsCurrent t →
      admitted ⟨l.kind, w.stamped t.key t.stamp⟩) →
    Leaves notes
      (Fine fun tallies new => ∃ parts : List (Tally × List ν),
        List.Forall₂ (fun l p => l.Handles answered t p.1 p.2) ls parts ∧
          tallies = parts.map Prod.fst ∧ new = parts.flatMap Prod.snd)
      (ls.mapM (bringUpToDate access limit t)).run
  | [], _ => .pure_fine ⟨[], .nil, rfl, rfl⟩
  | l :: ls, hls => by
    obtain ⟨hl, hls⟩ := List.forall_mem_cons.1 hls
    rw [List.mapM_cons]
    refine (h.leaves_bringUpToDate limit hl).bind_fine fun tally new hhandles => ?_
    refine (leaves_mapM_bringUpToDate limit ls hls).bind_fine ?_
    rintro _ _ ⟨parts, hparts, rfl, rfl⟩
    refine .pure_fine ⟨(tally, new) :: parts, .cons hhandles hparts, rfl, ?_⟩
    rw [List.append_nil, List.flatMap_cons]

end Writing

end SecretRotation
