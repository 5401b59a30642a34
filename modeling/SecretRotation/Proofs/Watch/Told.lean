import SecretRotation.Proofs.Watch.Chronicle

/-!
# A watch that is run, as a chronicle

When a watch is run against a server with canned replies, time goes on from one turn to the next,
what has happened by then is seen, and all requests that are due are served one after the other,
each by the beginning of a run and its end at the same moment. So everything that is known of
chronicles is known of the watch.

Only the runs use the session, each from where the one before has left it. The diaries tell of these
runs and of no others: on which object each was, when it was, and what it came to in the session.

## Main definitions

* `Attendance`: a run in a session; `Session.attendAt`, such a run and the session after it.
* `Session.Attended`: the runs of a session, one after the other.
* `Chronicle.TellsOf`: the diaries of a chronicle tell of some runs.
* `WatchRun.Told`: a watch that is run can be told as a chronicle.

## Main results

* `WatchRun.Told.serve`: the service of a request, step by step.
* `WatchRun.exists_reached_follow`: a watch that is run can be told as a chronicle of its runs.
-/

namespace SecretRotation

/-! ### The runs of a session -/

/-- A run for a secret in a session. -/
structure Attendance where
  key : WatchKey
  /-- The object that the run is on. -/
  object : Secret
  /-- The moment at which it begins and ends. -/
  moment : Nat
  /-- What it comes to, unless it does not come to an end. -/
  outcome? : Option Outcome

/-- What is noted of a run, the newest entry first. -/
def Attendance.entries (a : Attendance) : List Entry :=
  (a.outcome?.map (Entry.ended a.moment)).toList ++ [.begun a.object]

namespace Session

/-- A run in a session at a moment, and the session after it. -/
def attendAt (limit : Option Nat) (session : Session) (key : WatchKey) (object : Secret)
    (moment : Nat) : Attendance × Session :=
  let (result, after) := (attend session.access limit object).run.run
    { session with now := moment }
  (⟨key, object, moment, result.toOption⟩, after)

/-- Runs in a session, the latest first, each from where the one before has left the session. -/
inductive Attended (limit : Option Nat) (start : Session) : List Attendance → Session → Prop
  | none : Attended limit start [] start
  | run {as : List Attendance} {session : Session} (h : Attended limit start as session)
      (key : WatchKey) (object : Secret) (moment : Nat) :
      Attended limit start ((session.attendAt limit key object moment).1 :: as)
        (session.attendAt limit key object moment).2

/-- What a run comes to in a session is something that it may come to. -/
theorem of_attendAt {limit : Option Nat} {session : Session} {key : WatchKey} {object : Secret}
    {moment : Nat} {outcome : Outcome}
    (h : (session.attendAt limit key object moment).1.outcome? = some outcome) :
    outcome.Of limit object := by
  have hnotes : session.sent.map (·.request) =
      (session.sent.map fun s => Exchange.mk s.request (.broken "")).map (·.request) := by
    rw [List.map_map]
    rfl
  have hcomes : ((attend session.access limit object).run.run
      { session with now := moment }).1.toOption = some outcome := h
  generalize hresult : ((attend session.access limit object).run.run
      { session with now := moment }).1 = result at hcomes
  cases result with
  | error => cases hcomes
  | ok _ =>
    cases hcomes
    exact ⟨Session, _, _, _, _, _, { session with now := moment },
      Session.recording, hnotes, hresult⟩

end Session

/-! ### What diaries tell -/

/-- Whether an entry is about a run. -/
def Entry.isOfRun : Entry → Bool
  | .begun _ | .ended _ _ => true
  | .applied _ | .deleted => false

namespace Chronicle

/-- The diaries tell of some runs, each in the diary of its secret, and of no others. -/
def TellsOf (c : Chronicle) (as : List Attendance) : Prop :=
  ∀ key, (c.diary key).filter Entry.isOfRun =
    (as.filter fun a => a.key = key).flatMap Attendance.entries

variable {c c' : Chronicle} {as : List Attendance}

theorem TellsOf.seen (h : c.TellsOf as) (w : Watch) (s : Sighting) :
    (c.noting w s.key s.entry).TellsOf as := by
  intro key
  have hentry : s.entry.isOfRun = false := by cases s <;> rfl
  by_cases hkey : key = s.key
  · subst hkey
    rw [diary_noting_self, List.filter_cons_of_neg (by simp [hentry])]
    exact h s.key
  · rw [diary_noting_of_ne hkey]
    exact h key

theorem TellsOf.run (h : c.TellsOf as) {a : Attendance}
    (hself : c'.diary a.key = a.entries ++ c.diary a.key)
    (hothers : ∀ key, key ≠ a.key → c'.diary key = c.diary key) : c'.TellsOf (a :: as) := by
  intro key
  have hentries : a.entries.filter Entry.isOfRun = a.entries := by
    rw [Attendance.entries]
    cases a.outcome? <;> rfl
  by_cases hkey : key = a.key
  · subst hkey
    rw [hself, List.filter_append, hentries, h, List.filter_cons_of_pos (by simp)]
    rfl
  · rw [hothers key hkey, List.filter_cons_of_neg (by simpa using Ne.symm hkey)]
    exact h key

end Chronicle

namespace WatchRun

open Chronicle (Reached)
open Session (Attended)

variable {limit : Option Nat} {start : Session}

/-- A watch that is run from some session on can be told as a chronicle of the runs in it. -/
def Told (limit : Option Nat) (start : Session) (run : WatchRun) : Prop :=
  ∃ (c : Chronicle) (as : List Attendance), Reached limit c ∧ c.watch = run.watch ∧
    Attended limit start as run.session ∧ c.TellsOf as

/-- A request that is due is served by the beginning of a run and its end, at the same moment. -/
theorem Told.serve {run : WatchRun} (h : run.Told limit start) {key : WatchKey}
    (hdue : key ∈ run.watch.due) :
    (run.serve limit key).Told limit start ∧
      ∀ key', key' ≠ key → run.watch.SameFor key' (run.serve limit key).watch := by
  obtain ⟨c, as, hreached, hwatch, hattended, htells⟩ := h
  rw [← hwatch] at hdue ⊢
  simp only [WatchRun.serve, ← hwatch]
  split
  next watch hbegin =>
    exact ⟨⟨_, as, .step hreached (.dropped hdue hbegin), rfl, hattended, htells⟩,
      fun _ => Watch.sameFor_of_begin hbegin⟩
  next found watch hbegin =>
    have hbegun : Reached limit (c.noting watch key (.begun found)) :=
      .step hreached (.begun hdue hbegin)
    have hattended := hattended.run key found watch.now
    rw [Session.attendAt] at hattended
    split
    next outcome session hrun =>
      have hrun : (attend run.session.access limit found).run.run
        { run.session with now := watch.now } = (.ok outcome, session) := hrun
      rw [hrun] at hattended
      have hcomes : (run.session.attendAt limit key found watch.now).1.outcome? = some outcome := by
        rw [Session.attendAt, hrun]
        rfl
      have hended := Reached.step hbegun
        (.ended (congrArg underway? (Chronicle.diary_noting_self ..)) (Session.of_attendAt hcomes))
      refine ⟨⟨_, _, hended, rfl, hattended, htells.run ?_ fun key' hne => ?_⟩, fun _ hne =>
        (Watch.sameFor_of_begin hbegin hne).trans (Watch.sameFor_finish hne _)⟩
      · rw [Chronicle.diary_noting_self, Chronicle.diary_noting_self]
        rfl
      · rw [Chronicle.diary_noting_of_ne hne, Chronicle.diary_noting_of_ne hne]
    next session hrun =>
      have hrun : (attend run.session.access limit found).run.run
        { run.session with now := watch.now } = (.error .endless, session) := hrun
      rw [hrun] at hattended
      exact ⟨⟨_, _, hbegun, rfl, hattended, htells.run (Chronicle.diary_noting_self ..)
        fun _ hne => Chronicle.diary_noting_of_ne hne ..⟩,
        fun _ => Watch.sameFor_of_begin hbegin⟩

/-- Requests that are due are served one after the other. -/
theorem Told.foldl_serve {keys : List WatchKey} (hnodup : keys.Nodup) {run : WatchRun}
    (h : run.Told limit start) (hdue : ∀ key ∈ keys, key ∈ run.watch.due) :
    (keys.foldl (WatchRun.serve limit) run).Told limit start := by
  induction keys generalizing run with
  | nil => exact h
  | cons key keys ih =>
    obtain ⟨hnew, hnodup⟩ := List.nodup_cons.1 hnodup
    obtain ⟨hserved, hsame⟩ := h.serve (hdue key List.mem_cons_self)
    refine ih hnodup hserved fun key' hkey' => ?_
    have hne : key' ≠ key := fun heq => hnew (heq ▸ hkey')
    exact (hsame key' hne).mem_due (hdue key' (List.mem_cons_of_mem _ hkey'))

theorem Told.serveDue {run : WatchRun} (h : run.Told limit start) :
    (run.serveDue limit).Told limit start :=
  h.foldl_serve run.watch.nodup_due fun _ => id

theorem Told.observe {run : WatchRun} (h : run.Told limit start) (sightings : List Sighting) :
    Told limit start { run with watch := sightings.foldl Watch.observe run.watch } := by
  induction sightings generalizing run with
  | nil => exact h
  | cons s sightings ih =>
    obtain ⟨c, as, hreached, hwatch, hattended, htells⟩ := h
    have hseen : Told limit start { run with watch := run.watch.observe s } :=
      ⟨_, as, .step hreached (.seen s), congrArg (·.observe s) hwatch, hattended,
        htells.seen _ s⟩
    exact ih hseen

theorem Told.advance {run : WatchRun} (h : run.Told limit start) (moment : Nat) :
    Told limit start { run with watch := run.watch.advance moment } := by
  obtain ⟨c, as, hreached, hwatch, hattended, htells⟩ := h
  exact ⟨_, as, .step hreached (.elapsed moment), congrArg (·.advance moment) hwatch, hattended,
    htells⟩

/-- Turn by turn, the watch can be told as a chronicle. -/
theorem Told.follow {horizon turns : Nat} {happenings : List Happening} {run : WatchRun}
    (h : run.Told limit start) : (follow limit horizon turns happenings run).Told limit start := by
  induction turns generalizing happenings run with
  | zero => exact h
  | succ turns ih =>
    simp only [WatchRun.follow]
    split
    next => exact h
    next moment _ => exact ih ((h.advance moment).observe _).serveDue

/-- **A watch that is run can be told as a chronicle**, from its beginning. The runs that its
diaries tell of, with what they came to, are those by which the session has come to its end. -/
theorem exists_reached_follow (limit : Option Nat) (horizon turns : Nat)
    (happenings : List Happening) (session : Session) :
    let run := follow limit horizon turns happenings { watch := {}, session }
    ∃ (c : Chronicle) (as : List Attendance), Reached limit c ∧ c.watch = run.watch ∧
      Attended limit session as run.session ∧ c.TellsOf as :=
  Told.follow ⟨.initial, [], .initial, rfl, .none, fun _ => rfl⟩

end WatchRun

end SecretRotation
