import SecretRotation.Proofs.Api.SteadyServer
import SecretRotation.Proofs.Sample
import SecretRotation.Proofs.Watch.Outcome
import SecretRotation.Proofs.Watch.Requests

/-!
# What a watch has still to do

While a watch follows the secrets of a cluster, a diary is kept about each of them: what was seen of
it, which runs for it began, on which object, and what they came to. Sightings, the passage of time,
and the beginnings and ends of runs follow on each other in any order, and a run comes to whatever
the replies of the server make of it.

From its diary it is known of every secret in the cache of the watch what is still to be done for
it. Either a run is in progress or due, or the last one failed and another one is to come, or there
is nothing to do.

## Main definitions

* `Entry`, `latest?`, `underway?`: diaries, the newest entry first.
* `Chronicle`: a watch with the diaries of all secrets.
* `Chronicle.Step`, `Chronicle.Reached`: what can happen to a watch.
* `Stage`: how far a secret has come.
* `Chronicle.Attends`, `Chronicle.AwaitsRetry`, `Chronicle.Rests`: what is to be done for it.

## Main results

* `Chronicle.Reached.sound`: what holds of a watch and its diaries at any time.
* `Chronicle.exactly_one_situation`: every secret in the cache is in one of three situations.
* `Chronicle.Rests.of_step`: what has been done is not done again.
-/

namespace SecretRotation

/-! ### Diaries -/

/-- Something that is noted about a secret. -/
inductive Entry
  /-- The secret has been seen, as an object. -/
  | applied (secret : Secret)
  /-- The secret has been deleted. -/
  | deleted
  /-- A run has begun, on an object. -/
  | begun (object : Secret)
  /-- The run has come to an outcome, at a moment. -/
  | ended (moment : Nat) (outcome : Outcome)

/-- The object of the latest sighting of a secret that exists. -/
def latest? : List Entry → Option Secret
  | [] => none
  | .applied secret :: _ => some secret
  | .deleted :: _ => none
  | .begun _ :: es => latest? es
  | .ended _ _ :: es => latest? es

/-- The object of the run that is in progress. -/
def underway? : List Entry → Option Secret
  | [] => none
  | .applied _ :: es => underway? es
  | .deleted :: es => underway? es
  | .begun object :: _ => some object
  | .ended _ _ :: _ => none

/-- What is noted of a sighting. -/
def Sighting.entry : Sighting → Entry
  | .applied secret => .applied secret
  | .deleted _ => .deleted

/-- A watch with the diaries of all secrets. -/
structure Chronicle where
  watch : Watch
  diary : WatchKey → List Entry

namespace Chronicle

/-- A watch that has seen nothing yet. -/
def initial : Chronicle := ⟨{}, fun _ => []⟩

/-- A watch that has changed, with something noted about a secret. -/
def noting (c : Chronicle) (watch : Watch) (key : WatchKey) (entry : Entry) : Chronicle :=
  ⟨watch, Function.update c.diary key (entry :: c.diary key)⟩

/-- Something happens to a watch. -/
inductive Step (limit : Option Nat) (c : Chronicle) : Chronicle → Prop
  /-- Something is seen of a secret. -/
  | seen (s : Sighting) : Step limit c (c.noting (c.watch.observe s) s.key s.entry)
  /-- Time passes. -/
  | elapsed (moment : Nat) : Step limit c ⟨c.watch.advance moment, c.diary⟩
  /-- A run that is due begins. -/
  | begun {key : WatchKey} {object : Secret} {watch : Watch} (hdue : key ∈ c.watch.due)
      (hbegin : c.watch.begin key = (some object, watch)) :
      Step limit c (c.noting watch key (.begun object))
  /-- A run is due, but there is no object for it. -/
  | dropped {key : WatchKey} {watch : Watch} (hdue : key ∈ c.watch.due)
      (hbegin : c.watch.begin key = (none, watch)) : Step limit c ⟨watch, c.diary⟩
  /-- A run that is in progress ends. -/
  | ended {key : WatchKey} {object : Secret} {outcome : Outcome}
      (hobject : underway? (c.diary key) = some object) (houtcome : outcome.Of limit object) :
      Step limit c (c.noting (c.watch.finish key outcome.hasFailed) key
        (.ended c.watch.now outcome))

/-- What a watch can come to. -/
inductive Reached (limit : Option Nat) : Chronicle → Prop
  | initial : Reached limit initial
  | step {c c' : Chronicle} (h : Reached limit c) (hstep : Step limit c c') : Reached limit c'

/-! ### Situations -/

variable (c : Chronicle) (key : WatchKey) (object : Secret)

/-- A run for a secret is in progress, or a request for one is due. -/
def Attends : Prop :=
  key ∈ c.watch.running ∨ ∃ moment, c.watch.requests.get? key = some moment ∧ moment ≤ c.watch.now

/-- The last run for a secret has been on the object of its latest sighting, and nothing has been
seen of it since. -/
structure LastRun (moment : Nat) (outcome : Outcome) : Prop where
  not_running : key ∉ c.watch.running
  diary_eq : ∃ es, c.diary key = .ended moment outcome :: .begun object :: es ∧
    latest? es = some object
  fits : outcome.Fits object

/-- The last run for a secret has failed, and another one is to come. -/
def AwaitsRetry : Prop :=
  ∃ moment failure, c.LastRun key object moment (.failed failure) ∧
    c.watch.requests.get? key = some (moment + retryDelay) ∧ c.watch.now < moment + retryDelay

/-- The last run for a secret has not failed, and no other one is to come. -/
def Rests : Prop :=
  ∃ moment outcome, c.LastRun key object moment outcome ∧ outcome.hasFailed = false ∧
    c.watch.requests.get? key = none

/-! ### How far a secret has come -/

/-- How far a secret in the cache has come, by its request, the present moment and its diary. A
request that is due makes up for whatever happened; otherwise the newest run is on the object of the
latest sighting. -/
inductive Stage : Option Nat → Nat → List Entry → Prop
  | due {moment now es} (h : moment ≤ now) : Stage (some moment) now es
  | underway {now object es} (h : latest? es = some object) :
      Stage none now (.begun object :: es)
  | failed {moment now failure object es} (h : latest? es = some object)
      (hfits : (Outcome.failed failure).Fits object) :
      Stage (some (moment + retryDelay)) now
        (.ended moment (.failed failure) :: .begun object :: es)
  | done {moment now outcome object es} (h : latest? es = some object)
      (hfits : outcome.Fits object) (hdone : outcome.hasFailed = false) :
      Stage none now (.ended moment outcome :: .begun object :: es)

theorem Stage.later {request : Option Nat} {now now' : Nat} {es : List Entry}
    (h : Stage request now es) (hnow : now ≤ now') : Stage request now' es := by
  cases h with
  | due h => exact .due (Nat.le_trans h hnow)
  | underway h => exact .underway h
  | failed h hfits => exact .failed h hfits
  | done h hfits hdone => exact .done h hfits hdone

/-- The end of a run is a further stage. -/
theorem Stage.ended {request : Option Nat} {now : Nat} {es : List Entry} {object : Secret}
    {outcome : Outcome} (h : Stage request now es) (hobject : underway? es = some object)
    (hfits : outcome.Fits object) :
    Stage (if outcome.hasFailed then some (min (now + retryDelay) (request.getD (now + retryDelay)))
      else request) now (.ended now outcome :: es) := by
  cases h with
  | due h =>
    split
    · exact .due (Nat.le_trans (Nat.min_le_right ..) h)
    · exact .due h
  | underway hlatest =>
    cases hobject
    cases outcome with
    | failed failure =>
      simp only [Outcome.hasFailed, if_true, Option.getD_none, Nat.min_self]
      exact .failed hlatest hfits
    | unmanaged => exact .done hlatest hfits rfl
    | passed report => exact .done hlatest hfits rfl
  | failed _ _ => cases hobject
  | done _ _ _ => cases hobject

/-- A watch agrees with the diary of a secret: its cache has the latest sighting, a run is in
progress if one has begun and not ended, and if the secret is in the cache it has come to a
stage. -/
structure Agrees (w : Watch) (key : WatchKey) (es : List Entry) : Prop where
  cache_eq : w.cache.get? key = latest? es
  running_iff : key ∈ w.running ↔ (underway? es).isSome
  stage (h : (w.cache.get? key).isSome) : Stage (w.requests.get? key) w.now es

theorem Agrees.of_sameFor {w w' : Watch} {key : WatchKey} {es : List Entry} (h : Agrees w key es)
    (hsame : w.SameFor key w') : Agrees w' key es where
  cache_eq := hsame.cache_eq.trans h.cache_eq
  running_iff := hsame.running_iff.trans h.running_iff
  stage hcached := by
    rw [hsame.cache_eq] at hcached
    rw [hsame.requests_eq]
    exact (h.stage hcached).later hsame.now_le

/-- A watch agrees with all diaries, and runs for a secret do not overlap. -/
structure Sound (c : Chronicle) : Prop where
  agrees (key : WatchKey) : Agrees c.watch key (c.diary key)
  nodup_running : c.watch.running.Nodup

variable {c : Chronicle} {key : WatchKey} {limit : Option Nat}

@[simp] theorem diary_noting_self (watch : Watch) (entry : Entry) :
    (c.noting watch key entry).diary key = entry :: c.diary key :=
  Function.update_self ..

@[simp] theorem diary_noting_of_ne {key' : WatchKey} (h : key' ≠ key) (watch : Watch)
    (entry : Entry) : (c.noting watch key entry).diary key' = c.diary key' :=
  Function.update_of_ne h ..

theorem Sound.initial : Chronicle.initial.Sound where
  agrees _ := ⟨rfl, ⟨fun h => absurd h List.not_mem_nil, nofun⟩, nofun⟩
  nodup_running := .nil

namespace Sound

variable (h : c.Sound)

include h

/-- Something is noted about a secret, and nothing changes for the others. -/
theorem noting {w : Watch} {entry : Entry} (hkey : Agrees w key (entry :: c.diary key))
    (hothers : ∀ key', key' ≠ key → c.watch.SameFor key' w) (hnodup : w.running.Nodup) :
    (c.noting w key entry).Sound where
  agrees key' := by
    by_cases heq : key' = key
    · subst heq
      rw [diary_noting_self]
      exact hkey
    · rw [diary_noting_of_ne heq]
      exact (h.agrees key').of_sameFor (hothers key' heq)
  nodup_running := hnodup

/-- A sighting asks for a run at once. -/
theorem seen (s : Sighting) : (c.noting (c.watch.observe s) s.key s.entry).Sound := by
  have hagrees := h.agrees s.key
  refine h.noting ?_ (fun _ => Watch.sameFor_observe) ?_
  · cases s with
    | applied secret =>
      refine ⟨(OrderedMap.get?_insert ..).trans (if_pos rfl), hagrees.running_iff, fun _ => ?_⟩
      have hrequest := { c.watch with
        cache := c.watch.cache.insert secret.watchKey secret }.get?_request_self secret.watchKey
          c.watch.now
      exact hrequest ▸ .due (Nat.min_le_left ..)
    | deleted secret =>
      have hgone : (c.watch.cache.erase secret.watchKey).get? secret.watchKey = none :=
        (OrderedMap.get?_erase ..).trans (if_pos rfl)
      refine ⟨hgone, hagrees.running_iff, fun hcached => ?_⟩
      have hcached : ((c.watch.cache.erase secret.watchKey).get? secret.watchKey).isSome := hcached
      rw [hgone] at hcached
      cases hcached
  · cases s <;> exact h.nodup_running

theorem elapsed (moment : Nat) : Sound ⟨c.watch.advance moment, c.diary⟩ where
  agrees key := (h.agrees key).of_sameFor (Watch.sameFor_advance moment)
  nodup_running := h.nodup_running

/-- A run that begins takes up the request, and is on the latest object. -/
theorem begun {object : Secret} {w : Watch} (hdue : key ∈ c.watch.due)
    (hbegin : c.watch.begin key = (some object, w)) :
    (c.noting w key (.begun object)).Sound := by
  have hagrees := h.agrees key
  obtain ⟨hobject, hw⟩ := Watch.begin_eq_some hbegin
  have hrunning : key ∉ c.watch.running := (Watch.mem_due_iff.1 hdue).1
  refine h.noting ?_ (fun key' hne => ?_) ?_
  · subst hw
    refine ⟨hagrees.cache_eq, ⟨fun _ => rfl, fun _ => List.mem_cons_self⟩, fun hcached => ?_⟩
    obtain ⟨cached, hcached⟩ := Option.isSome_iff_exists.1 hcached
    have hcached : c.watch.cache.get? key = some cached := hcached
    have heq : cached = object := by
      rw [Watch.object?, hcached] at hobject
      exact Option.some.inj hobject
    have hrequest : (c.watch.requests.erase key).get? key = none :=
      (OrderedMap.get?_erase ..).trans (if_pos rfl)
    rw [hrequest]
    exact .underway (hagrees.cache_eq.symm.trans (heq ▸ hcached))
  · exact Watch.sameFor_of_begin hbegin hne
  · subst hw
    exact List.nodup_cons.2 ⟨hrunning, h.nodup_running⟩

/-- Only for a secret that is not in the cache there is no object. -/
theorem dropped {w : Watch} (hbegin : c.watch.begin key = (none, w)) : Sound ⟨w, c.diary⟩ where
  agrees key' := by
    obtain ⟨hobject, hw⟩ := Watch.begin_eq_none hbegin
    by_cases heq : key' = key
    · subst heq hw
      refine ⟨(h.agrees key').cache_eq, (h.agrees key').running_iff, fun hcached => ?_⟩
      obtain ⟨cached, hcached⟩ := Option.isSome_iff_exists.1 hcached
      have hcached : c.watch.cache.get? key' = some cached := hcached
      rw [Watch.object?, hcached] at hobject
      cases hobject
    · exact (h.agrees key').of_sameFor (Watch.sameFor_of_begin hbegin heq)
  nodup_running := by
    obtain ⟨-, rfl⟩ := Watch.begin_eq_none hbegin
    exact h.nodup_running

/-- A run that ends asks for another one if it has failed, unless one has been asked for. -/
theorem ended {object : Secret} {outcome : Outcome}
    (hobject : underway? (c.diary key) = some object) (houtcome : outcome.Of limit object) :
    (c.noting (c.watch.finish key outcome.hasFailed) key (.ended c.watch.now outcome)).Sound := by
  have hagrees := h.agrees key
  have hcache : (c.watch.finish key outcome.hasFailed).cache = c.watch.cache := by
    cases outcome.hasFailed <;> rfl
  have hnow : (c.watch.finish key outcome.hasFailed).now = c.watch.now := by
    cases outcome.hasFailed <;> rfl
  refine h.noting ⟨?_, ?_, fun hcached => ?_⟩ (fun _ hne => Watch.sameFor_finish hne _) ?_
  · rw [hcache]
    exact hagrees.cache_eq
  · rw [Watch.running_finish]
    exact ⟨fun hmem => absurd hmem h.nodup_running.not_mem_erase, nofun⟩
  · rw [hcache] at hcached
    rw [Watch.get?_finish, hnow]
    exact (hagrees.stage hcached).ended hobject houtcome.fits
  · rw [Watch.running_finish]
    exact h.nodup_running.erase key

/-- Whatever happens to a watch, it goes on to agree with all diaries. -/
theorem step {c' : Chronicle} (hstep : Step limit c c') : c'.Sound := by
  cases hstep with
  | seen s => exact h.seen s
  | elapsed moment => exact h.elapsed moment
  | begun hdue hbegin => exact h.begun hdue hbegin
  | dropped _ hbegin => exact h.dropped hbegin
  | ended hobject houtcome => exact h.ended hobject houtcome

end Sound

/-- **A watch always agrees with all diaries.** -/
theorem Reached.sound (h : Reached limit c) : c.Sound := by
  induction h with
  | initial => exact .initial
  | step _ hstep ih => exact ih.step hstep

/-! ### Situations -/

namespace Sound

/-- What follows from a stage for a secret in the cache. -/
theorem situation (h : c.Sound) {object : Secret}
    (hcached : c.watch.cache.get? key = some object) :
    c.Attends key ∨ c.AwaitsRetry key object ∨ c.Rests key object := by
  have hagrees := h.agrees key
  have hrunning := hagrees.running_iff
  have hlatest : latest? (c.diary key) = some object := hagrees.cache_eq.symm.trans hcached
  have hstage := hagrees.stage (Option.isSome_iff_exists.2 ⟨object, hcached⟩)
  generalize hrequest : c.watch.requests.get? key = request at hstage
  generalize hdiary : c.diary key = es at hstage hrunning hlatest
  cases hstage with
  | due hdue => exact .inl (.inr ⟨_, hrequest, hdue⟩)
  | underway _ => exact .inl (.inl (hrunning.2 rfl))
  | @failed moment _ failure _ es hobject hfits =>
    cases hlatest.symm.trans hobject
    by_cases hdue : moment + retryDelay ≤ c.watch.now
    · exact .inl (.inr ⟨_, hrequest, hdue⟩)
    · have hrun : c.LastRun key object moment (.failed failure) :=
        ⟨mt hrunning.1 nofun, ⟨es, hdiary, hobject⟩, hfits⟩
      exact .inr (.inl ⟨moment, failure, hrun, hrequest, Nat.lt_of_not_le hdue⟩)
  | @done moment _ outcome _ es hobject hfits hdone =>
    cases hlatest.symm.trans hobject
    have hrun : c.LastRun key object moment outcome :=
      ⟨mt hrunning.1 nofun, ⟨es, hdiary, hobject⟩, hfits⟩
    exact .inr (.inr ⟨moment, outcome, hrun, hdone, hrequest⟩)

end Sound

/-- What is to be done at once is not put off. -/
theorem Attends.not_awaitsRetry {object : Secret} (h : c.Attends key) :
    ¬ c.AwaitsRetry key object := by
  rintro ⟨moment, failure, hrun, hrequest, hlt⟩
  rcases h with hrunning | ⟨due, hdue, hle⟩
  · exact hrun.not_running hrunning
  · cases hdue.symm.trans hrequest
    exact Nat.not_le_of_lt hlt hle

theorem Attends.not_rests {object : Secret} (h : c.Attends key) : ¬ c.Rests key object := by
  rintro ⟨moment, outcome, hrun, -, hrequest⟩
  rcases h with hrunning | ⟨due, hdue, -⟩
  · exact hrun.not_running hrunning
  · cases hdue.symm.trans hrequest

theorem AwaitsRetry.not_rests {object object' : Secret} (h : c.AwaitsRetry key object) :
    ¬ c.Rests key object' := by
  rintro ⟨_, _, -, -, hnone⟩
  obtain ⟨_, _, -, hrequest, -⟩ := h
  cases hrequest.symm.trans hnone

theorem Rests.of_sameFor {object : Secret} {c' : Chronicle} (h : c.Rests key object)
    (hsame : c.watch.SameFor key c'.watch) (hdiary : c'.diary key = c.diary key) :
    c'.Rests key object := by
  obtain ⟨moment, outcome, ⟨hrunning, hes, hfits⟩, hdone, hrequest⟩ := h
  exact ⟨moment, outcome, ⟨mt hsame.running_iff.1 hrunning, hdiary ▸ hes, hfits⟩, hdone,
    hsame.requests_eq.trans hrequest⟩

/-- **What has been done is not done again.** A secret for which there is nothing to do stays so
until something is seen of it. -/
theorem Rests.of_step {object : Secret} {c' : Chronicle} (h : c.Rests key object)
    (hstep : Step limit c c') :
    c'.Rests key object ∨ ∃ s : Sighting, s.key = key ∧ c'.diary key = s.entry :: c.diary key := by
  have hnotDue : key ∉ c.watch.due := by
    obtain ⟨_, _, -, -, hnone⟩ := h
    intro hdue
    obtain ⟨-, moment, hrequest, -⟩ := Watch.mem_due_iff.1 hdue
    cases hrequest.symm.trans hnone
  cases hstep with
  | seen s =>
    by_cases hkey : key = s.key
    · subst hkey
      exact .inr ⟨s, rfl, diary_noting_self ..⟩
    · exact .inl (h.of_sameFor (Watch.sameFor_observe hkey) (diary_noting_of_ne hkey ..))
  | elapsed moment => exact .inl (h.of_sameFor (Watch.sameFor_advance moment) rfl)
  | @begun key' object' w hdue hbegin =>
    have hne : key ≠ key' := fun heq => hnotDue (heq ▸ hdue)
    have hsame := Watch.sameFor_of_begin hbegin hne
    exact .inl (h.of_sameFor hsame (diary_noting_of_ne hne ..))
  | @dropped key' w hdue hbegin =>
    have hne : key ≠ key' := fun heq => hnotDue (heq ▸ hdue)
    exact .inl (h.of_sameFor (Watch.sameFor_of_begin hbegin hne) rfl)
  | @ended key' object' outcome hobject houtcome =>
    have hne : key ≠ key' := by
      rintro rfl
      obtain ⟨_, _, ⟨-, ⟨es, hdiary, -⟩, -⟩, -, -⟩ := h
      rw [hdiary] at hobject
      cases hobject
    exact .inl (h.of_sameFor (Watch.sameFor_finish hne _) (diary_noting_of_ne hne ..))

/-- **Every secret in the cache of a watch is in exactly one situation.** A run for it is in
progress or due. Or the last run for it, on its latest object, has failed, nothing has been seen of
it since, and one request waits for the end of the delay after that run. Or the last run for it, on
its latest object, has found that it is not managed or its pass has succeeded, nothing has been seen
of it since, and nothing is asked for. -/
theorem exactly_one_situation (h : Reached limit c) {object : Secret}
    (hcached : c.watch.cache.get? key = some object) :
    (c.Attends key ∨ c.AwaitsRetry key object ∨ c.Rests key object) ∧
      ¬ (c.Attends key ∧ c.AwaitsRetry key object) ∧ ¬ (c.Attends key ∧ c.Rests key object) ∧
      ¬ (c.AwaitsRetry key object ∧ c.Rests key object) :=
  ⟨h.sound.situation hcached, fun ⟨h, h'⟩ => h.not_awaitsRetry h', fun ⟨h, h'⟩ => h.not_rests h',
    fun ⟨h, h'⟩ => h.not_rests h'⟩

end Chronicle

/-! ### A sample of a run that fails -/

namespace Sample

open Chronicle (Reached)

/-- A managed secret. -/
def watched : Secret := managedSecret "prod" "db" "v1"

/-- If the connection breaks, the run fails. -/
theorem of_broken (message : String) :
    (Outcome.failed (.fetching "prod/db" (.broken message))).Of none watched := by
  let b := Behaviour.steady fun _ => .broken message
  refine ⟨_, b.api, _, 1, 1, [], ((), []), b.recording, rfl, ?_⟩
  have hstamp : watched.stamp? = some ⟨"v1"⟩ := stamp?_managedSecret ..
  have hfetch : Request.fetch watched.ref = _ := Request.fetch_eq isName_prod isName_db
  simp only [attend, hstamp, runPass, survey, fetchTarget, ApiServer.access, exchange, hfetch]
  rfl

/-- The secret has been seen. -/
def seenOnce : Chronicle :=
  Chronicle.initial.noting (({} : Watch).observe (.applied watched)) watched.watchKey
    (.applied watched)

/-- A run for it has begun. -/
def begunOnce : Chronicle :=
  seenOnce.noting (seenOnce.watch.begin watched.watchKey).2 watched.watchKey (.begun watched)

/-- The run has come to an outcome. -/
def endedOnce (outcome : Outcome) : Chronicle :=
  begunOnce.noting (begunOnce.watch.finish watched.watchKey outcome.hasFailed) watched.watchKey
    (.ended begunOnce.watch.now outcome)

theorem reached_endedOnce {outcome : Outcome} (h : outcome.Of none watched) :
    Reached none (endedOnce outcome) :=
  .step (.step (.step .initial (.seen (.applied watched))) (.begun (by decide) rfl)) (.ended rfl h)

/-- A first run that cannot even fetch the secret is made up for after the delay. -/
theorem awaitsRetry_of_broken :
    (endedOnce (.failed (.fetching "prod/db" (.broken "reset")))).AwaitsRetry watched.watchKey
      watched := by
  have hcached : (begunOnce.watch.finish watched.watchKey true).cache.get? watched.watchKey =
      some watched := (OrderedMap.get?_insert ..).trans (if_pos rfl)
  have hrequest : (begunOnce.watch.finish watched.watchKey true).requests.get? watched.watchKey =
      some retryDelay := by decide +kernel
  obtain ⟨hone, -⟩ := Chronicle.exactly_one_situation (reached_endedOnce (of_broken "reset"))
    hcached
  rcases hone with (hrunning | ⟨moment, hmoment, hdue⟩) | hawaits | ⟨_, _, -, -, hnone⟩
  · exact absurd hrunning List.not_mem_nil
  · cases hrequest.symm.trans hmoment
    exact absurd hdue (Nat.not_le_of_lt (by decide : begunOnce.watch.now < retryDelay))
  · exact hawaits
  · cases hrequest.symm.trans hnone

end Sample

end SecretRotation
