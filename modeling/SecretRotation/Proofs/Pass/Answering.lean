import SecretRotation.Proofs.Notes
import SecretRotation.Proofs.Pass.Course
import SecretRotation.Proofs.Pass.FanOut
import SecretRotation.Proofs.Sample

/-!
# What a pass really does

A pass runs against a cluster that answers in a given way: it has the secret and the workloads of
each kind, and it accepts or refuses the update of each workload. When it answers is left open; the
state that it runs on may be anything, and decides how long every update takes.

Whatever the cluster does, the pass follows a course (`Course`), so what it comes to is known. The
beginnings and ends of updates on the way are the real ones: whatever the state of the cluster notes
of them are the marks of this course.

## Main definitions

* `Answering`: a cluster that answers in a given way, and notes the updates that begin and end.

## Main results

* `Answering.course_of_run`: a pass follows a course.
* `fan_out_complete`: what this means for the workloads, the limit, and the outcome.
-/

namespace SecretRotation

open FanOut (Ends Keeps Mark Noted Path Stage Step)

variable {σ : Type} {k : Kind} {notes : List (Mark AnyWorkload) → σ → Prop}

/-! ### Clusters that answer in a given way -/

/-- A cluster that answers in a given way, at whatever time: `notes ms s` says that in the state `s`
the beginnings and ends of updates so far are `ms`. -/
structure Answering (access : ClusterAccess (StateM σ)) (r : SecretRef) (secret : Secret)
    (found : (k : Kind) → List (Workload k)) (answer : Answers)
    (notes : List (Mark AnyWorkload) → σ → Prop) : Prop where
  now : Quietly notes (fun _ => True) access.clock.now
  waitUntil (due : Nat) : Quietly notes (fun _ => True) (access.clock.waitUntil due)
  report (e : Event) : Quietly notes (fun _ => True) (access.report e)
  fetch : Quietly notes (· = .ok secret) (access.fetch r)
  list (k : Kind) : Quietly notes (· = .ok (found k)) (access.list k r.ns)
  settled {k : Kind} {w : Workload k} {result : Except Fault (Workload k)}
    {ms : List (Mark AnyWorkload)} {s s' : σ} (hs : notes ms s)
    (hupdate : (access.update k w).run s = (.settled result, s')) :
    result = answer k w ∧ notes (ms ++ [.begun ⟨k, w⟩, .ended ⟨k, w⟩]) s'
  underway {k : Kind} {w : Workload k} {due : Nat} {finish : StateM σ (Except Fault (Workload k))}
    {ms : List (Mark AnyWorkload)} {s s' : σ} (hs : notes ms s)
    (hupdate : (access.update k w).run s = (.underway due finish, s')) :
    notes (ms ++ [.begun ⟨k, w⟩]) s' ∧
      ∀ ms s, notes ms s → (finish.run s).1 = answer k w ∧
        notes (ms ++ [.ended ⟨k, w⟩]) (finish.run s).2

namespace Answering

variable {access : ClusterAccess (StateM σ)} {r : SecretRef} {secret : Secret}
  {found : (k : Kind) → List (Workload k)} {answer : Answers}
  (h : Answering access r secret found answer notes)

include h

/-! ### Reading -/

/-- What is read is what the cluster answers. -/
theorem survey {t : Target} (ht : secret.target? = some t) :
    Quietly notes (· = .ok (t, Kind.all.map fun k => ⟨k, found k⟩))
      (SecretRotation.survey access .all r).run := by
  have hfetch : Quietly notes (· = .ok t) (fetchTarget access r).run := by
    refine h.fetch.run_lift.run_bind ?_
    dsimp only
    rw [ht]
    exact .pure rfl
  have hlist (k : Kind) : Quietly notes (· = .ok ⟨k, found k⟩) (listKind access r.ns k).run :=
    (h.list k).run_lift.run_bind (.pure rfl)
  exact hfetch.run_bind ((Quietly.run_mapM hlist Kind.all).run_bind (.pure rfl))

/-! ### Writing -/

/-- What is noted of the units of a listing, after some marks of updates: the marks of the updates
that they stand for. -/
def notesAfter (notes : List (Mark AnyWorkload) → σ → Prop) (t : Target)
    (before : List (Mark AnyWorkload)) (ms : List (Mark (Workload k))) (s : σ) : Prop :=
  notes (before ++ ms.filterMap (Mark.filterMap (Workload.replacement? t))) s

omit h in
theorem run_beginUpdate_of_isCurrent {t : Target} {w : Workload k} (hw : w.IsCurrent t) (s : σ) :
    (beginUpdate access t w).run s =
      (.settled (.ok false), ((access.report (.upToDate t.stamp)).run s).2) := by
  rw [beginUpdate, Workload.verdict_of_isCurrent hw]
  rfl

omit h in
/-- A unit that is not current begins as its update does. -/
theorem exists_update_of_beginUpdate (answer : Answers) {t : Target} {w : Workload k}
    (hw : ¬ w.IsCurrent t) {s s' : σ}
    {started : Started (StateM σ) (Except Failure Bool)}
    (hbegin : (beginUpdate access t w).run s = (started, s')) :
    ∃ (f : Except Fault (Workload k) → Except Failure Bool) (asked : Started (StateM σ) _),
      f (answer k (w.stamped t.key t.stamp)) = w.result answer t ∧
      (access.update k (w.stamped t.key t.stamp)).run
        ((access.report (.restarting (w.stamp? t.key) t.stamp w.title)).run s).2 = (asked, s') ∧
      asked.map f = started := by
  rw [beginUpdate, Workload.verdict_of_not_isCurrent hw] at hbegin
  obtain ⟨hstarted, hstate⟩ := Prod.mk.inj hbegin
  refine ⟨_, _, ?_, Prod.ext rfl hstate, hstarted⟩
  cases hanswer : answer k (w.stamped t.key t.stamp) with
  | ok stored => simp only [Workload.result, Workload.verdict_of_not_isCurrent hw, hanswer]
  | error fault => simp only [Workload.result, Workload.verdict_of_not_isCurrent hw, hanswer]

omit h in
theorem notesAfter_append_of_isCurrent {t : Target} {w : Workload k} (hw : w.IsCurrent t)
    {before : List (Mark AnyWorkload)} {ms : List (Mark (Workload k))} {s : σ} :
    notesAfter notes t before (ms ++ [.begun w, .ended w]) s ↔ notesAfter notes t before ms s := by
  simp [notesAfter, Mark.filterMap, Workload.replacement?, hw]

omit h in
theorem notesAfter_append_of_not_isCurrent {t : Target} {w : Workload k} (hw : ¬ w.IsCurrent t)
    {before : List (Mark AnyWorkload)} {ms : List (Mark (Workload k))} {s : σ} :
    let update : AnyWorkload := ⟨k, w.stamped t.key t.stamp⟩
    let sofar := before ++ ms.filterMap (Mark.filterMap (Workload.replacement? t))
    (notesAfter notes t before (ms ++ [.begun w]) s ↔ notes (sofar ++ [.begun update]) s) ∧
      (notesAfter notes t before (ms ++ [.ended w]) s ↔ notes (sofar ++ [.ended update]) s) ∧
      (notesAfter notes t before (ms ++ [.begun w, .ended w]) s ↔
        notes (sofar ++ [.begun update, .ended update]) s) := by
  simp [notesAfter, Mark.filterMap, Workload.replacement?, hw]

/-- The units of a listing are noted as the updates that they stand for. -/
theorem noted (t : Target) (k : Kind) (before : List (Mark AnyWorkload)) :
    Noted access.clock (beginUpdate access t) (Workload.result answer t)
      (notesAfter (k := k) notes t before) where
  now hs := (h.now _ _ hs).2
  waitUntil due _ _ hs := (h.waitUntil due _ _ hs).2
  settled {w b ms s s'} hs hbegin := by
    by_cases hw : w.IsCurrent t
    · have hresult : Workload.result answer t w = .ok false := by
        rw [Workload.result, Workload.verdict_of_isCurrent hw]
      rw [run_beginUpdate_of_isCurrent hw] at hbegin
      cases hbegin
      refine ⟨hresult.symm, ?_⟩
      exact (notesAfter_append_of_isCurrent hw).2 (h.report _ _ _ hs).2
    · have hreported := (h.report (.restarting (w.stamp? t.key) t.stamp w.title) _ _ hs).2
      obtain ⟨f, _ | _, hf, hasked, hstarted⟩ := exists_update_of_beginUpdate answer hw hbegin
      · cases hstarted
        obtain ⟨rfl, hnoted⟩ := h.settled hreported hasked
        exact ⟨hf, (notesAfter_append_of_not_isCurrent hw).2.2.2 hnoted⟩
      · cases hstarted
  underway {w due finish ms s s'} hs hbegin := by
    by_cases hw : w.IsCurrent t
    · rw [run_beginUpdate_of_isCurrent hw] at hbegin
      cases hbegin
    · have hreported := (h.report (.restarting (w.stamp? t.key) t.stamp w.title) _ _ hs).2
      obtain ⟨f, _ | _, hf, hasked, hstarted⟩ := exists_update_of_beginUpdate answer hw hbegin
      · cases hstarted
      · cases hstarted
        obtain ⟨hnoted, hends⟩ := h.underway hreported hasked
        refine ⟨(notesAfter_append_of_not_isCurrent hw).1.2 hnoted, fun ms s hs => ?_⟩
        obtain ⟨hanswer, hended⟩ := hends _ _ hs
        refine ⟨?_, (notesAfter_append_of_not_isCurrent hw).2.1.2 hended⟩
        rw [← hf, ← hanswer]
        rfl

/-- The units of a listing are worked off by a schedule. -/
theorem leaves_run (limit : Option Nat) (t : Target) (l : Listing) :
    Leaves notes
      (fun results new => ∃ ms done,
        Path (l.width limit t) (.initial (l.eligible t.name).values) ms (.final done) ∧
          results = done.map (fun w => (w, w.result answer t)) ∧
          new = ms.filterMap (Mark.filterMap (Workload.replacement? t)))
      (FanOut.run access.clock (beginUpdate access t) (l.width limit t)
        (l.eligible t.name).values []) := by
  intro before s hs
  have hwidth : max 1 (l.width limit t) = l.width limit t := Nat.max_eq_right (l.width_pos limit t)
  have hstart : notesAfter (k := l.kind) notes t before [] s := by
    rwa [notesAfter, List.filterMap_nil, List.append_nil]
  obtain ⟨ms, done, hpath, hresults, hnoted⟩ :=
    FanOut.run_follows (h.noted t l.kind before) (l.width limit t) (l.eligible t.name).values hstart
  rw [hwidth] at hpath
  exact ⟨_, ⟨ms, done, hpath, hresults, rfl⟩, hnoted⟩

/-- A listing is worked off. -/
theorem leaves_bringUpToDate (limit : Option Nat) (t : Target) (l : Listing) :
    Leaves notes (fun tally ms => l.WorkedOff limit t answer (tally, ms))
      (bringUpToDate access limit t l) := by
  rw [bringUpToDate]
  by_cases hempty : (l.eligible t.name).isEmpty
  · have hvalues := OrderedMap.values_eq_nil_of_isEmpty hempty
    rw [if_pos hempty]
    refine (h.report _).bind_leaves fun _ _ => Quietly.leaves (.pure ⟨[], [], ?_, rfl⟩)
    rw [hvalues]
    exact .nil _
  · rw [if_neg hempty]
    refine (h.report _).bind_leaves fun _ _ => (h.leaves_run limit t l).bind ?_
    rintro _ _ ⟨ms, done, hpath, rfl, rfl⟩
    have hworked : l.WorkedOff limit t answer (Tally.ofResults l.workloads.length
        ((done.map fun w => (w, w.result answer t)).map fun r => (r.1.title, r.2)),
          ms.filterMap (Mark.filterMap (Workload.replacement? t)) ++ []) := by
      rw [List.map_map, List.append_nil]
      exact ⟨ms, done, hpath, rfl⟩
    refine (Quietly.forM (fun f => h.report _) _).bind_leaves fun _ _ => Quietly.leaves ?_
    split
    · exact (h.report _).bind fun _ _ => .pure hworked
    · exact .pure hworked

theorem leaves_mapM_bringUpToDate (limit : Option Nat) (t : Target) : (ls : List Listing) →
    Leaves notes
      (fun tallies ms => ∃ parts, List.Forall₂ (Listing.WorkedOff limit t answer) ls parts ∧
        tallies = parts.map Prod.fst ∧ ms = parts.flatMap Prod.snd)
      (ls.mapM (bringUpToDate access limit t))
  | [] => Quietly.leaves (.pure ⟨[], .nil, rfl, rfl⟩)
  | l :: ls => by
    rw [List.mapM_cons]
    refine (h.leaves_bringUpToDate limit t l).bind fun tally ms hworked => ?_
    refine (leaves_mapM_bringUpToDate limit t ls).bind ?_
    rintro _ _ ⟨parts, hparts, rfl, rfl⟩
    refine Quietly.leaves (.pure ⟨(tally, ms) :: parts, .cons hworked hparts, rfl, ?_⟩)
    rw [List.append_nil, List.flatMap_cons]

/-! ### The whole -/

/-- **A pass follows a course**, whatever the cluster does. -/
theorem course_of_run {t : Target} (ht : secret.target? = some t) (limit : Option Nat) :
    Leaves notes (Course limit t answer (Kind.all.map fun k => ⟨k, found k⟩))
      (runPass access limit .all r) := by
  rw [runPass]
  refine (h.survey ht).bind_leaves ?_
  rintro _ rfl
  refine (h.leaves_mapM_bringUpToDate limit t _).bind ?_
  rintro _ _ ⟨parts, hparts, rfl, rfl⟩
  refine Quietly.leaves (.pure ⟨parts, hparts, rfl, ?_⟩)
  rw [List.append_nil]

/-- A workload by itself comes to what it comes to in a pass. -/
theorem result_of_reconcileOne {t : Target} (ht : secret.target? = some t) (w : Workload k)
    {s : σ} {ms : List (Mark AnyWorkload)} (hs : notes ms s) :
    ((reconcileOne access secret w).run s).1 = w.result answer t := by
  have hnoted := h.noted t k ms
  have hstart : notesAfter (k := k) notes t ms [] s := by
    rwa [notesAfter, List.filterMap_nil, List.append_nil]
  rw [reconcileOne, ht]
  rcases hbegin : (beginUpdate access t w).run s with ⟨result | ⟨due, finish⟩, s'⟩
  · rw [StateT.run_bind, hbegin]
    exact (hnoted.settled hstart hbegin).1
  · obtain ⟨hbegun, hends⟩ := hnoted.underway hstart hbegin
    rw [StateT.run_bind, hbegin]
    exact (hends _ _ (hnoted.waitUntil due hbegun)).1

end Answering

/-- **A fan-out is complete, and does not depend on how it is scheduled.** -/
theorem fan_out_complete {access : ClusterAccess (StateM σ)} {r : SecretRef} {secret : Secret}
    {found : (k : Kind) → List (Workload k)} {answer : Answers}
    (h : Answering access r secret found answer notes) {t : Target}
    (ht : secret.target? = some t) (setting : Option Nat) {s : σ} (hs : notes [] s) :
    let limit := limitOfSetting setting
    let ls : List Listing := Kind.all.map fun k => ⟨k, found k⟩
    let run := (runPass access limit .all r).run s
    (∀ l ∈ ls, 0 < l.width limit t ∧ (∀ n, 0 < n → setting = some n → l.width limit t = n) ∧
      ((l.eligible t.name).values.map Workload.identity).Nodup ∧
      ∀ ms stage, Path (l.width limit t) (.initial (l.eligible t.name).values) ms stage →
        stage.units.Perm (l.eligible t.name).values ∧
        stage.underway.length ≤ l.width limit t ∧
        2 * (l.eligible t.name).size = stage.work + ms.length ∧
        (0 < stage.work → ∃ m stage', Step (l.width limit t) stage m stage')) ∧
    (∀ k (w : Workload k), ((reconcileOne access secret w).run s).1 = w.result answer t) ∧
    (∃ ms, Course limit t answer ls run.1 ms ∧ notes ms run.2 ∧
      ms.filterMap Mark.begun? = ls.flatMap (Listing.replacements t) ∧
      (ms.filterMap Mark.ended?).Perm (ls.flatMap (Listing.replacements t)) ∧
      ∀ n, 0 < n → setting = some n → Keeps n ms) ∧
    (∀ setting' outcome ms, Course (limitOfSetting setting') t answer ls outcome ms →
      SameOutcome outcome (tallyOf t answer ls).outcome) ∧
    (tallyOf t answer ls).Balanced ∧
    (tallyOf t answer ls).Counts (ls.flatMap fun l => l.units t.name) (fun w => w.2.title)
      fun w => w.2.result answer t := by
  intro limit ls run
  obtain ⟨ms, hcourse, hnotes⟩ := h.course_of_run ht limit [] s hs
  have hwidth (l : Listing) (n : Nat) (hn : 0 < n) (hsetting : setting = some n) :
      l.width limit t = n := by
    subst hsetting
    exact l.width_eq t hn
  refine ⟨fun l _ => ⟨l.width_pos limit t, hwidth l, l.nodup_identity t.name, ?_⟩,
    fun k w => h.result_of_reconcileOne ht w hs,
    ⟨ms, hcourse, hnotes, hcourse.begun_eq, hcourse.ended_perm, ?_⟩,
    fun _ _ _ hcourse => hcourse.same, Tally.balanced_ofResults _ _, counts_tallyOf _ _ _⟩
  · intro ms stage hpath
    have hconserves := hpath.conserves
    rw [Stage.units_initial] at hconserves
    refine ⟨hconserves, hpath.length_underway_le (Nat.zero_le _), ?_,
      FanOut.exists_step (l.width_pos limit t) stage⟩
    rw [← hpath.work_eq, Stage.work_initial, OrderedMap.values, List.length_map]
    rfl
  · intro n hn hsetting
    exact hcourse.keeps fun l _ => Nat.le_of_eq (hwidth l n hn hsetting)

/-! ### A sample pass -/

/-- A cluster that answers in a given way, with a clock; how long an update takes depends on the
workload. The beginnings and ends of updates are noted. -/
def punctual (secret : Secret) (found : (k : Kind) → List (Workload k)) (answer : Answers)
    (delay : AnyWorkload → Nat) : ClusterAccess (StateM (Nat × List (Mark AnyWorkload))) where
  clock := {
    now := fun s => (s.1, s)
    waitUntil := fun due s => ((), (max s.1 due, s.2)) }
  fetch _ := pure (.ok secret)
  list k _ := pure (.ok (found k))
  update k w := fun s =>
    (.underway (s.1 + delay ⟨k, w⟩) fun s => (answer k w, (s.1, s.2 ++ [.ended ⟨k, w⟩])),
      (s.1, s.2 ++ [.begun ⟨k, w⟩]))
  report _ := pure ()

/-- Whatever the answers are, there are clusters that give them. -/
theorem answering_punctual (r : SecretRef) (secret : Secret)
    (found : (k : Kind) → List (Workload k)) (answer : Answers) (delay : AnyWorkload → Nat) :
    Answering (punctual secret found answer delay) r secret found answer
      (fun ms s => s.2 = ms) where
  now _ _ hs := ⟨trivial, hs⟩
  waitUntil _ _ _ hs := ⟨trivial, hs⟩
  report _ _ _ hs := ⟨trivial, hs⟩
  fetch _ _ hs := ⟨rfl, hs⟩
  list _ _ _ hs := ⟨rfl, hs⟩
  settled _ hupdate := by cases hupdate
  underway hs hupdate := by
    cases hupdate
    cases hs
    exact ⟨rfl, fun _ _ hs => ⟨rfl, hs ▸ rfl⟩⟩

/-- At most two updates are under way where two are allowed, of three that are asked for. -/
theorem Sample.keeps_two :
    let found : (k : Kind) → List (Workload k) := fun
      | .deployment => [consumer "prod" "web" "db", consumer "prod" "api" "db",
          consumer "prod" "mail" "db"]
      | _ => []
    let access := punctual (managedSecret "prod" "db" "v2") found (fun _ w => .ok w) fun _ => 5
    Keeps 2 ((runPass access (limitOfSetting (some 2)) .all ⟨"prod", "db"⟩).run (0, [])).2.2 := by
  intro found access
  have hanswering := answering_punctual ⟨"prod", "db"⟩ (managedSecret "prod" "db" "v2") found
    (fun _ w => .ok w) fun _ => 5
  obtain ⟨-, -, ⟨ms, -, hnotes, -, -, hkeeps⟩, -⟩ := fan_out_complete hanswering
    (target?_managedSecret ..) (some 2) (s := (0, [])) rfl
  have hnotes : ((runPass access (limitOfSetting (some 2)) .all ⟨"prod", "db"⟩).run (0, [])).2.2 =
    ms := hnotes
  rw [hnotes]
  exact hkeeps 2 (by omega) rfl

end SecretRotation
