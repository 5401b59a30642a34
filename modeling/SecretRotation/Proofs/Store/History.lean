import SecretRotation.Proofs.Store.Effect

/-!
# Passes over time

A store is used for a while: passes run against it for one secret or another, secrets are put into
it, and which updates and which lists fail changes. Workloads are changed by passes only. Whatever
happens in whichever order, no pass restarts a workload for a version that the workload has already
been restarted for.

This rests on one property of a slot that every step preserves as long as the version of a secret
stays what it is: that both stamps of the workload there are those of the version. A pass for the
same secret leaves such a workload alone; a pass for another secret writes under another key.
Whether a workload takes part does not change at all.

## Main definitions

* `Move`, `Episode`: what happens to a store, and what comes of it.
* `Store.perform`, `Store.episodes`: a move made, and several of them.
* `Episode.accepted`: the workloads restarted by a pass.
* `Episode.Completed`: a pass has read all it needed.

## Main results

* `Store.Orderly.current_perform`: current workloads stay current.
* `Store.no_redundant_update`: no workload is restarted twice for one version.
-/

namespace SecretRotation

/-! ### Moves and episodes -/

/-- What happens to a store in the course of time. -/
inductive Move
  /-- A pass runs. -/
  | pass (limit : Option Nat) (scope : Scope) (secret : SecretRef)
  /-- From now on exactly the updates of workloads of given names fail. -/
  | reject (names : List String)
  /-- From now on exactly the lists of given kinds fail, or all lists. -/
  | failLists (all : Bool) (kinds : List String)
  /-- A secret is stored, which may have another version than the one stored before. -/
  | putSecret (secret : Secret)

/-- A move, and what comes of it. -/
structure Episode where
  /-- The store before the move. -/
  before : Store
  /-- The move. -/
  move : Move
  /-- The outcome, if the move is a pass. -/
  outcome : Option (Except Failure Report) := none
  /-- The updates that were asked for, in order. -/
  attempts : List Attempt := []
  /-- The store after the move. -/
  after : Store

namespace Store

/-- A move is made. -/
def perform (s : Store) : Move → Episode
  | .pass limit scope secret =>
    let run := (runPass Ledger.instant.access limit scope secret).run ⟨s, []⟩
    { before := s
      move := .pass limit scope secret
      outcome := some run.1
      attempts := run.2.attempts
      after := run.2.store }
  | .reject names =>
    { before := s, move := .reject names, after := { s with rejectedNames := names } }
  | .failLists all kinds =>
    { before := s
      move := .failLists all kinds
      after := { s with listingFails := all, failingKinds := kinds } }
  | .putSecret secret =>
    { before := s, move := .putSecret secret, after := s.putSecret secret }

/-- Moves are made one after the other. -/
def episodes (s : Store) : List Move → List Episode
  | [] => []
  | m :: ms => s.perform m :: (s.perform m).after.episodes ms

/-- An episode of a pass is what the pass does to the store alone. -/
theorem run_runPass_eq_perform (s : Store) (limit : Option Nat) (scope : Scope)
    (secret : SecretRef) :
    (runPass Store.quiet limit scope secret).run s =
      (((runPass Ledger.instant.access limit scope secret).run ⟨s, []⟩).1,
        (s.perform (.pass limit scope secret)).after) := by
  rw [run_runPass, perform, Instant.run_runPass]

end Store

namespace Episode

/-- The workloads that were restarted, if the move is a pass for a secret. -/
def accepted (e : Episode) (secret : SecretRef) : List Slot :=
  match e.move with
  | .pass _ _ r => if r = secret then (e.attempts.filter (·.accepted)).map (·.slot) else []
  | _ => []

/-- The move is a pass for a secret. -/
def IsPassFor (e : Episode) (secret : SecretRef) : Prop :=
  ∃ limit scope, e.move = .pass limit scope secret

/-- A pass has read all it needed: it ended with a report, or with the failures of workloads. -/
def Completed (e : Episode) : Prop :=
  (∃ report, e.outcome = some (.ok report)) ∨
    ∃ eligible failures, e.outcome = some (.error (.workloads eligible failures))

theorem mem_accepted_iff {e : Episode} {secret : SecretRef} {slot : Slot} :
    slot ∈ e.accepted secret ↔
      e.IsPassFor secret ∧ ∃ a ∈ e.attempts, a.accepted = true ∧ a.slot = slot := by
  rw [accepted, IsPassFor]
  cases e.move with
  | pass limit scope r =>
    by_cases hr : r = secret
    · subst hr
      simp [and_assoc]
    · simp [hr]
  | _ => simp

end Episode

/-! ### One pass -/

namespace Store

variable {s : Store} {secret : SecretRef} {scope : Scope} {limit : Option Nat}

theorem perform_pass (s : Store) (limit : Option Nat) (scope : Scope) (secret : SecretRef) :
    s.perform (.pass limit scope secret) =
      { before := s
        move := .pass limit scope secret
        outcome := some (Ledger.instant.pass scope secret ⟨s, []⟩).1
        attempts := (Ledger.instant.pass scope secret ⟨s, []⟩).2.attempts
        after := (Ledger.instant.pass scope secret ⟨s, []⟩).2.store } := by
  rw [perform, Instant.run_runPass]

/-- A pass either ends while it reads, and then does nothing, or it works off all workloads that
take part. -/
theorem Orderly.perform_cases (hs : s.Orderly) (limit : Option Nat) (scope : Scope)
    (secret : SecretRef) :
    (∃ failure : Failure, failure.OfReading ∧
      s.perform (.pass limit scope secret) =
        ⟨s, .pass limit scope secret, some (.error failure), [], s⟩) ∨
    ∃ t, s.target? secret = some t ∧
      s.perform (.pass limit scope secret) =
        ⟨s, .pass limit scope secret,
          some (Tally.total ((s.listings scope secret).map (s.tally t))).outcome,
          (outdated t (s.units scope secret)).map fun w => ⟨w.2.slot, s.Accepts w.2⟩,
          (Ledger.workedOff ⟨s, []⟩ t (s.units scope secret)).store⟩ := by
  rw [perform_pass]
  by_cases hlists : ∀ k ∈ scope.kinds, s.Lists k
  · cases htarget : s.target? secret with
    | some t =>
      refine .inr ⟨t, rfl, ?_⟩
      rw [Ledger.pass_of_found (l := ⟨s, []⟩) hs hlists htarget]
      rfl
    | none =>
      have hfound : s.found? scope secret = none := by
        rw [found?_of_lists hlists, htarget]
        rfl
      obtain ⟨failure, hfailure, hpass⟩ := Ledger.pass_of_not_found (l := ⟨s, []⟩) hs hfound
      exact .inl ⟨failure, hfailure, by rw [hpass]⟩
  · obtain ⟨failure, hfailure, hpass⟩ :=
      Ledger.pass_of_not_found (l := ⟨s, []⟩) hs (found?_of_not_lists hlists secret)
    exact .inl ⟨failure, hfailure, by rw [hpass]⟩

/-- A pass leaves the secrets alone. -/
theorem Orderly.secrets_perform_pass (hs : s.Orderly) (limit : Option Nat) (scope : Scope)
    (secret : SecretRef) : (s.perform (.pass limit scope secret)).after.secrets = s.secrets := by
  rcases hs.perform_cases limit scope secret with ⟨failure, -, heq⟩ | ⟨t, -, heq⟩
  · rw [heq]
  · rw [heq]
    rfl

end Store

/-! ### One slot during one move -/

namespace Store

variable {s : Store} {r : SecretRef} {slot : Slot}

/-- A move leaves a slot as it is, or it is a pass that finds the workload outdated and gives it new
stamps. -/
theorem Orderly.get?_perform (hs : s.Orderly) (m : Move) (slot : Slot) :
    (s.perform m).after.workloads.get? slot = s.workloads.get? slot ∨
      ∃ limit scope secret t w, m = .pass limit scope secret ∧ s.target? secret = some t ∧
        s.Outdated secret t slot ∧ s.find? slot.kind slot.identity = some w ∧
        (s.perform m).after.workloads.get? slot =
          some ((Workload.codec slot.kind).write (w.stamped t.key t.stamp)) := by
  cases m with
  | reject names => exact .inl rfl
  | failLists all kinds => exact .inl rfl
  | putSecret secret => exact .inl rfl
  | pass limit scope secret =>
    rcases hs.perform_cases limit scope secret with ⟨failure, -, heq⟩ | ⟨t, htarget, heq⟩
    · rw [heq]
      exact .inl rfl
    · rw [heq]
      by_cases hchanged : slot.kind ∈ scope.kinds ∧ s.Outdated secret t slot ∧
          slot.identity.name ∉ s.rejectedNames
      · obtain ⟨hk, houtdated, haccepted⟩ := hchanged
        obtain ⟨w, hfind, -, hget⟩ :=
          Ledger.get?_workedOff_of_outdated (l := ⟨s, []⟩) hs hk houtdated haccepted
        exact .inr ⟨limit, scope, secret, t, w, rfl, htarget, houtdated, hfind, hget⟩
      · exact .inl (Ledger.get?_workedOff_of_not_outdated (l := ⟨s, []⟩) hs hchanged)

theorem Orderly.find?_perform (hs : s.Orderly) (m : Move) (slot : Slot) :
    (s.perform m).after.find? slot.kind slot.identity = s.find? slot.kind slot.identity ∨
      ∃ limit scope secret t w, m = .pass limit scope secret ∧ s.target? secret = some t ∧
        s.Outdated secret t slot ∧ s.find? slot.kind slot.identity = some w ∧
        (s.perform m).after.find? slot.kind slot.identity = some (w.stamped t.key t.stamp) := by
  rcases hs.get?_perform m slot with hget | ⟨limit, scope, secret, t, w, hm, ht, ho, hw, hget⟩
  · exact .inl (find?_congr hget)
  · exact .inr ⟨limit, scope, secret, t, w, hm, ht, ho, hw,
      find?_of_get?_stamped (hs.asWritten_of_find? hw) hget⟩

/-- Everything stays in its own place. -/
theorem Orderly.perform (hs : s.Orderly) (m : Move) : (s.perform m).after.Orderly where
  exists_workload {slot json} h := by
    rcases hs.get?_perform m slot with hget | ⟨limit, scope, secret, t, w, -, -, -, hw, hget⟩
    · exact hs.exists_workload (hget ▸ h)
    · have hjson := Option.some.inj (h.symm.trans hget)
      have hidentity := (w.identity_stamped t.key t.stamp).trans (hs.identity_of_find? hw)
      exact ⟨w.stamped t.key t.stamp,
        Workload.asWritten_stamped_of_eq (hs.asWritten_of_find? hw) _ _, hjson, hidentity⟩
  identity_secret {identity secret} h := by
    cases m with
    | reject names => exact hs.identity_secret h
    | failLists all kinds => exact hs.identity_secret h
    | putSecret secret' => exact (hs.putSecret secret').identity_secret h
    | pass limit scope secret' =>
      rw [hs.secrets_perform_pass] at h
      exact hs.identity_secret h

theorem eligible_iff_of_find? {w : Workload slot.kind}
    (h : s.find? slot.kind slot.identity = some w) :
    s.Eligible r slot ↔ slot.identity.ns = r.ns ∧
      w.metadata.annotation? optInKey = some "true" ∧ w.consumes r.name = true := by
  refine and_congr_right fun _ => ⟨?_, fun hw => ⟨w, h, hw⟩⟩
  rintro ⟨v, hv, htakesPart⟩
  cases hv.symm.trans h
  exact htakesPart

/-- Whether a workload takes part does not change. -/
theorem Orderly.eligible_perform (hs : s.Orderly) (m : Move) :
    (s.perform m).after.Eligible r slot ↔ s.Eligible r slot := by
  rcases hs.find?_perform m slot with hfind | ⟨_, _, _, t, w, -, -, -, hw, hfind⟩
  · rw [Eligible, Eligible, hfind]
  · have hkey : optInKey ≠ t.key := (stampKey_ne_optInKey t.name).symm
    have hoptIn : (w.stamped t.key t.stamp).metadata.annotation? optInKey =
        w.metadata.annotation? optInKey := by
      rw [Workload.metadata_stamped, ObjectMeta.annotation?_annotate, if_neg hkey]
    rw [eligible_iff_of_find? hfind, eligible_iff_of_find? hw, hoptIn, Workload.consumes_stamped]

/-- **Current workloads stay current** as long as the version of their secret stays what it is. -/
theorem Orderly.current_perform (hs : s.Orderly) (m : Move) {t : Target}
    (htarget : s.target? r = some t) (hns : slot.identity.ns = r.ns) (h : s.Current t slot) :
    (s.perform m).after.Current t slot := by
  obtain ⟨v, hv, hcurrent⟩ := h
  rcases hs.find?_perform m slot with hfind | ⟨_, _, secret, t', w, -, ht', houtdated, hw, hfind⟩
  · exact ⟨v, hfind.trans hv, hcurrent⟩
  · cases hv.symm.trans hw
    have hkey : t.key ≠ t'.key := by
      intro hkey
      have hname : secret.name = r.name := by
        rw [← hs.name_of_target? ht', ← hs.name_of_target? htarget]
        exact (stampKey_injective hkey).symm
      have hsecret : secret = r := by
        cases secret
        cases r
        cases hname
        cases houtdated.1.1.symm.trans hns
        rfl
      cases ht'.symm.trans (hsecret ▸ htarget)
      exact houtdated.2 ⟨v, hv, hcurrent⟩
    exact ⟨_, hfind, (Workload.isCurrent_stamped_iff v hkey t'.stamp).2 hcurrent⟩

end Store

/-! ### The updates of one pass -/

namespace Store

variable {s : Store} {r : SecretRef} {scope : Scope} {limit : Option Nat} {t : Target}

/-- A pass asks for updates of workloads that take part and are not current, of each one once. -/
theorem Orderly.attempts_perform (hs : s.Orderly) (limit : Option Nat) (scope : Scope)
    (r : SecretRef) :
    let e := s.perform (.pass limit scope r)
    (e.attempts.map (·.slot)).Nodup ∧ ∀ a ∈ e.attempts, a.slot.kind ∈ scope.kinds ∧
      ∃ t, s.target? r = some t ∧ s.Outdated r t a.slot ∧
        (a.accepted = true → e.after.Current t a.slot) := by
  intro e
  rcases hs.perform_cases limit scope r with ⟨failure, -, heq⟩ | ⟨t, htarget, heq⟩
  · have hattempts : e.attempts = [] := congrArg Episode.attempts heq
    rw [hattempts]
    exact ⟨List.nodup_nil, fun a ha => absurd ha List.not_mem_nil⟩
  · have hattempts : e.attempts = (outdated t (s.units scope r)).map fun w =>
        ⟨w.2.slot, s.Accepts w.2⟩ := congrArg Episode.attempts heq
    have hafter : e.after = (Ledger.workedOff ⟨s, []⟩ t (s.units scope r)).store :=
      congrArg Episode.after heq
    rw [hattempts]
    refine ⟨?_, fun a ha => ?_⟩
    · rw [List.map_map]
      exact List.pairwise_map.2 ((hs.pairwise_ne_units scope r).filter _)
    · obtain ⟨w, hw, rfl⟩ := List.mem_map.1 ha
      obtain ⟨hk, houtdated⟩ := hs.exists_outdated_iff.1 ⟨w, hw, rfl⟩
      refine ⟨hk, t, htarget, houtdated, fun haccepted => ?_⟩
      have hget := Ledger.get?_workedOff_of_mem (l := ⟨s, []⟩) (hs.pairwise_ne_units scope r) hw
        (of_decide_eq_true haccepted)
      rw [hafter]
      have hfind := (hs.mem_units_iff.1 (mem_outdated_iff.1 hw).1).2.1
      exact ⟨_, find?_of_get?_stamped (hs.asWritten_of_find? hfind) hget, w.2.isCurrent_stamped t⟩

/-- A pass that has read all it needed asks for an update of every workload that takes part and is
not current. -/
theorem Orderly.attempted_of_outdated (hs : s.Orderly) {slot : Slot}
    (hcompleted : (s.perform (.pass limit scope r)).Completed) (hk : slot.kind ∈ scope.kinds)
    (heligible : s.Eligible r slot)
    (hnot : slot ∉ (s.perform (.pass limit scope r)).attempts.map (·.slot)) :
    ∃ t, s.target? r = some t ∧ s.Current t slot := by
  rcases hs.perform_cases limit scope r with ⟨failure, hfailure, heq⟩ | ⟨t, htarget, heq⟩
  · rw [heq] at hcompleted
    rcases hcompleted with ⟨report, hreport⟩ | ⟨eligible, failures, hreport⟩
    · cases hreport
    · cases hreport
      exact hfailure.elim
  · refine ⟨t, htarget, ?_⟩
    by_contra hcurrent
    obtain ⟨w, hw, rfl⟩ := hs.exists_outdated_iff.2 ⟨hk, heligible, hcurrent⟩
    rw [heq, List.map_map] at hnot
    exact hnot (List.mem_map_of_mem hw)

/-- A pass that has not read all it needed does nothing. -/
theorem Orderly.idle_of_not_completed (hs : s.Orderly)
    (h : ¬ (s.perform (.pass limit scope r)).Completed) :
    (s.perform (.pass limit scope r)).attempts = [] ∧
      (s.perform (.pass limit scope r)).after = s := by
  rcases hs.perform_cases limit scope r with ⟨failure, -, heq⟩ | ⟨t, htarget, heq⟩
  · rw [heq]
    exact ⟨rfl, rfl⟩
  · refine absurd ?_ h
    rw [heq]
    rcases (Tally.total ((s.listings scope r).map (s.tally t))).outcome_cases with hok | herror
    · exact .inl ⟨_, congrArg some hok⟩
    · exact .inr ⟨_, _, congrArg some herror⟩

/-- After a pass that ends with a report no update has failed. -/
theorem Orderly.accepted_of_ok (hs : s.Orderly) {report : Report}
    (hok : (s.perform (.pass limit scope r)).outcome = some (.ok report)) :
    ∀ a ∈ (s.perform (.pass limit scope r)).attempts, a.accepted = true := by
  rcases hs.perform_cases limit scope r with ⟨failure, -, heq⟩ | ⟨t, htarget, heq⟩
  · rw [heq]
    exact fun a ha => absurd ha List.not_mem_nil
  · rw [heq] at hok ⊢
    intro a ha
    obtain ⟨w, hw, rfl⟩ := List.mem_map.1 ha
    by_contra haccepts
    have hfailures := (Tally.outcome_eq_ok_iff.1 (Option.some.inj hok)).1
    obtain ⟨hunit, hcurrent⟩ := mem_outdated_iff.1 hw
    rw [← hs.flatMap_units_listings scope r, List.mem_flatMap] at hunit
    obtain ⟨l, hl, hunit⟩ := hunit
    obtain ⟨v, hv, rfl⟩ := List.mem_map.1 hunit
    rw [← hs.name_of_target? htarget] at hv
    have hmem : (v.title, .updating v.title conflict) ∈
        (s.listings scope r).flatMap fun l => (s.tally t l).failures :=
      List.mem_flatMap.2
        ⟨l, hl, mem_failures_tally hv hcurrent fun h => haccepts (decide_eq_true h)⟩
    rw [Tally.failures_total, List.flatMap_map] at hfailures
    rw [hfailures] at hmem
    exact List.not_mem_nil hmem

/-- What a pass that has read all it needed leaves behind: a workload that takes part either had its
update rejected or is current. -/
theorem Orderly.rejected_or_current (hs : s.Orderly) {slot : Slot} (htarget : s.target? r = some t)
    (hcompleted : (s.perform (.pass limit scope r)).Completed) (hk : slot.kind ∈ scope.kinds)
    (heligible : s.Eligible r slot) :
    ⟨slot, false⟩ ∈ (s.perform (.pass limit scope r)).attempts ∨
      (s.perform (.pass limit scope r)).after.Current t slot := by
  by_cases hattempted : slot ∈ (s.perform (.pass limit scope r)).attempts.map (·.slot)
  · obtain ⟨⟨slot, accepted⟩, ha, rfl⟩ := List.mem_map.1 hattempted
    obtain ⟨-, t', ht', -, haccepted⟩ := (hs.attempts_perform limit scope r).2 _ ha
    cases ht'.symm.trans htarget
    cases accepted with
    | false => exact .inl ha
    | true => exact .inr (haccepted rfl)
  · obtain ⟨t', ht', hcurrent⟩ := hs.attempted_of_outdated hcompleted hk heligible hattempted
    cases ht'.symm.trans htarget
    exact .inr (hs.current_perform _ htarget heligible.1 hcurrent)

end Store

/-! ### Several moves -/

namespace Store

variable {s : Store} {r : SecretRef} {t : Target} {slot : Slot}

theorem move_perform (s : Store) (m : Move) : (s.perform m).move = m := by
  cases m <;> rfl

theorem before_perform (s : Store) (m : Move) : (s.perform m).before = s := by
  cases m <;> rfl

theorem episodes_eq_cons {ms : List Move} {e : Episode} {es : List Episode}
    (h : s.episodes ms = e :: es) :
    ∃ m ms', e = s.perform m ∧ (s.perform m).after.episodes ms' = es := by
  cases ms with
  | nil => cases h
  | cons m ms =>
    obtain ⟨rfl, rfl⟩ := List.cons.inj h
    exact ⟨m, ms, rfl, rfl⟩

/-- What follows after some episodes are the episodes of another store. -/
theorem Orderly.exists_of_episodes_eq_append {es fs : List Episode} : {s : Store} → s.Orderly →
    {ms : List Move} → s.episodes ms = es ++ fs →
      ∃ s' : Store, s'.Orderly ∧ ∃ ms', s'.episodes ms' = fs := by
  induction es with
  | nil => exact fun hs ms h => ⟨_, hs, ms, h⟩
  | cons e es ih =>
    intro s hs ms h
    obtain ⟨m, ms', -, hrest⟩ := episodes_eq_cons h
    exact ih (hs.perform m) hrest

/-- Over time the same workloads take part. -/
theorem Orderly.eligible_before {es fs : List Episode} : {s : Store} → s.Orderly →
    {ms : List Move} → s.episodes ms = es ++ fs →
      ∀ e ∈ es, e.before.Eligible r slot ↔ s.Eligible r slot := by
  induction es with
  | nil => exact fun _ _ _ e he => absurd he List.not_mem_nil
  | cons d es ih =>
    intro s hs ms h e he
    obtain ⟨m, ms', rfl, hrest⟩ := episodes_eq_cons h
    rcases List.mem_cons.1 he with rfl | he
    · rw [before_perform]
    · exact (ih (hs.perform m) hrest e he).trans (hs.eligible_perform m)

/-- A current workload is not updated again as long as the version of the secret stays what it
is. -/
theorem Orderly.not_attempted_of_current {es fs : List Episode} : {s : Store} → s.Orderly →
    {ms : List Move} → s.episodes ms = es ++ fs → (∀ e ∈ es, e.before.target? r = some t) →
      slot.identity.ns = r.ns → s.Current t slot →
        ∀ e ∈ es, e.IsPassFor r → slot ∉ e.attempts.map (·.slot) := by
  induction es with
  | nil => exact fun _ _ _ _ _ _ e he => absurd he List.not_mem_nil
  | cons d es ih =>
    intro s hs ms h hcalm hns hcurrent e he hpass hslot
    obtain ⟨m, ms', rfl, hrest⟩ := episodes_eq_cons h
    have htarget := hcalm _ List.mem_cons_self
    rw [before_perform] at htarget
    rcases List.mem_cons.1 he with rfl | he
    · obtain ⟨limit, scope, hmove⟩ := hpass
      rw [move_perform] at hmove
      subst hmove
      obtain ⟨a, ha, rfl⟩ := List.mem_map.1 hslot
      obtain ⟨-, t', ht', houtdated, -⟩ := (hs.attempts_perform limit scope r).2 a ha
      cases ht'.symm.trans htarget
      exact houtdated.2 hcurrent
    · exact ih (hs.perform m) hrest (fun e he => hcalm e (List.mem_cons_of_mem _ he)) hns
        (hs.current_perform m htarget hns hcurrent) e he hpass hslot

/-- A workload that has been restarted is current, in a namespace of the secret. -/
theorem Orderly.current_of_accepted (hs : s.Orderly) {m : Move}
    (h : slot ∈ (s.perform m).accepted r) :
    ∃ t, s.target? r = some t ∧ slot.identity.ns = r.ns ∧ (s.perform m).after.Current t slot := by
  obtain ⟨⟨limit, scope, hmove⟩, a, ha, haccepted, rfl⟩ := Episode.mem_accepted_iff.1 h
  rw [move_perform] at hmove
  subst hmove
  obtain ⟨-, t, htarget, houtdated, hcurrent⟩ := (hs.attempts_perform limit scope r).2 a ha
  exact ⟨t, htarget, houtdated.1.1, hcurrent haccepted⟩

theorem Orderly.nodup_accepted_perform (hs : s.Orderly) (m : Move) (r : SecretRef) :
    ((s.perform m).accepted r).Nodup := by
  rw [Episode.accepted, move_perform]
  cases m with
  | pass limit scope secret =>
    by_cases hsecret : secret = r
    · have hnodup := (hs.attempts_perform limit scope secret).1
      simp only [if_pos hsecret]
      exact hnodup.sublist (List.filter_sublist.map _)
    · simp only [if_neg hsecret]
      exact List.nodup_nil
  | _ => exact List.nodup_nil

/-- While the version of a secret stays what it is, each workload is restarted for it at most
once. -/
theorem Orderly.nodup_accepted {version : Option Target} {es fs : List Episode} :
    {s : Store} → s.Orderly → {ms : List Move} → s.episodes ms = es ++ fs →
      (∀ e ∈ es, e.before.target? r = version) → (es.flatMap (·.accepted r)).Nodup := by
  induction es with
  | nil => exact fun _ _ _ _ => List.nodup_nil
  | cons d es ih =>
    intro s hs ms h hcalm
    obtain ⟨m, ms', rfl, hrest⟩ := episodes_eq_cons h
    have hcalm' : ∀ e ∈ es, e.before.target? r = version :=
      fun e he => hcalm e (List.mem_cons_of_mem _ he)
    rw [List.flatMap_cons, List.nodup_append]
    refine ⟨hs.nodup_accepted_perform m r, ih (hs.perform m) hrest hcalm', ?_⟩
    rintro slot hslot _ hlater rfl
    obtain ⟨t, htarget, hns, hcurrent⟩ := hs.current_of_accepted hslot
    have hversion := hcalm _ List.mem_cons_self
    rw [before_perform, htarget] at hversion
    subst hversion
    obtain ⟨e, he, haccepted⟩ := List.mem_flatMap.1 hlater
    obtain ⟨hpass, a, ha, -, rfl⟩ := Episode.mem_accepted_iff.1 haccepted
    exact (hs.perform m).not_attempted_of_current hrest hcalm' hns hcurrent e he hpass
      (List.mem_map_of_mem ha)

/-- An episode that follows on others is one of a store in which everything lies in its place. -/
theorem Orderly.exists_perform (hs : s.Orderly) {ms : List Move} {es fs : List Episode}
    {e : Episode} (h : s.episodes ms = es ++ e :: fs) :
    ∃ s' : Store, s'.Orderly ∧
      ∃ m ms', e = s'.perform m ∧ (s'.perform m).after.episodes ms' = fs := by
  obtain ⟨s', hs', ms', h'⟩ := hs.exists_of_episodes_eq_append h
  obtain ⟨m, ms'', rfl, hrest⟩ := episodes_eq_cons h'
  exact ⟨s', hs', m, ms'', rfl, hrest⟩

/-- What an earlier episode means for a pass, as long as the version of the secret stays what it is:
the same workloads take part, and those that the episode has left current are not updated again. -/
theorem Orderly.exists_earlier (hs : s.Orderly) {ms : List Move} {calm future : List Episode}
    {d e : Episode} {version : Option Target} (h : s.episodes ms = calm ++ e :: future)
    (hpass : e.IsPassFor r) (hcalm : ∀ d ∈ calm ++ [e], d.before.target? r = version)
    (hd : d ∈ calm) :
    ∃ s' : Store, s'.Orderly ∧ s'.target? r = version ∧ ∃ m, d = s'.perform m ∧
      (∀ slot, e.before.Eligible r slot → s'.Eligible r slot) ∧
      ∀ slot t, version = some t → slot.identity.ns = r.ns → d.after.Current t slot →
        slot ∉ e.attempts.map (·.slot) := by
  obtain ⟨calm₁, calm₂, rfl⟩ := List.append_of_mem hd
  rw [List.append_assoc, List.cons_append] at h
  obtain ⟨s', hs', m, ms', rfl, hrest⟩ := hs.exists_perform h
  have hrun : (s'.perform m).after.episodes ms' = (calm₂ ++ [e]) ++ future := by
    rw [hrest, List.append_assoc]
    rfl
  have he : e ∈ calm₂ ++ [e] := List.mem_append_right _ List.mem_cons_self
  have hversion := hcalm (s'.perform m) (List.mem_append_left _ hd)
  rw [before_perform] at hversion
  refine ⟨s', hs', hversion, m, rfl, fun slot heligible => ?_, fun slot t ht hns hcurrent => ?_⟩
  · rw [(hs'.perform m).eligible_before hrun e he, hs'.eligible_perform m] at heligible
    exact heligible
  · subst ht
    refine (hs'.perform m).not_attempted_of_current hrun (fun d hd => hcalm d ?_) hns hcurrent e he
      hpass
    rw [List.append_assoc, List.cons_append]
    exact List.mem_append_right _ (List.mem_cons_of_mem _ hd)

/-- A pass that follows on one for the same version asks only for updates that were rejected
before. -/
theorem Orderly.rejected_earlier (hs : s.Orderly) {ms : List Move} {calm future : List Episode}
    {d e : Episode} {version : Option Target} (h : s.episodes ms = calm ++ e :: future)
    (hcalm : ∀ d ∈ calm ++ [e], d.before.target? r = version) (hd : d ∈ calm)
    {limit limit' : Option Nat} {scope scope' : Scope} (hmove : e.move = .pass limit scope r)
    (hmove' : d.move = .pass limit' scope' r) (hcompleted : d.Completed) {a : Attempt}
    (ha : a ∈ e.attempts) (hk : a.slot.kind ∈ scope'.kinds) : ⟨a.slot, false⟩ ∈ d.attempts := by
  obtain ⟨s', hs', hversion, m, rfl, heligible, hlater⟩ :=
    hs.exists_earlier h ⟨limit, scope, hmove⟩ hcalm hd
  obtain ⟨s₁, hs₁, m₁, -, rfl, -⟩ := hs.exists_perform h
  rw [move_perform] at hmove hmove'
  subst hmove hmove'
  obtain ⟨-, t, htarget, houtdated, -⟩ := (hs₁.attempts_perform limit scope r).2 a ha
  have hversion₁ := hcalm _ (List.mem_append_right _ List.mem_cons_self)
  rw [before_perform, htarget] at hversion₁
  subst hversion₁
  rcases hs'.rejected_or_current hversion hcompleted hk (heligible _ houtdated.1) with
    hrejected | hcurrent
  · exact hrejected
  · exact absurd (List.mem_map_of_mem ha) (hlater _ t rfl houtdated.1.1 hcurrent)

/-- **No workload is restarted twice for one version.** -/
theorem no_redundant_update {s : Store} (hs : s.Built) {moves : List Move}
    {past calm future : List Episode} {e : Episode}
    (hrun : s.episodes moves = past ++ (calm ++ e :: future)) {limit : Option Nat} {scope : Scope}
    {r : SecretRef} (hmove : e.move = .pass limit scope r) {version : Option Target}
    (hcalm : ∀ d ∈ calm ++ [e], d.before.target? r = version) :
    ((calm ++ [e]).flatMap (·.accepted r)).Nodup ∧
    (e.attempts.map (·.slot)).Nodup ∧
    (∀ a ∈ e.attempts, a.slot.kind ∈ scope.kinds ∧ e.before.Eligible r a.slot ∧
      ∀ d ∈ calm, a.slot ∉ d.accepted r) ∧
    (∀ d ∈ calm, ∀ limit' scope', d.move = .pass limit' scope' r → d.Completed →
      ∀ a ∈ e.attempts, a.slot.kind ∈ scope'.kinds → ⟨a.slot, false⟩ ∈ d.attempts) ∧
    (e.Completed → ∀ slot, slot.kind ∈ scope.kinds → e.before.Eligible r slot →
      slot ∉ e.attempts.map (·.slot) → ∃ t, version = some t ∧ e.before.Current t slot) ∧
    (¬ e.Completed → e.attempts = [] ∧ e.after = e.before) ∧
    (∀ d ∈ calm, (∃ limit', d.move = .pass limit' .all r) →
      (∃ report, d.outcome = some (.ok report)) → e.attempts = []) := by
  obtain ⟨s₀, hs₀, ms₀, hrun₀⟩ := hs.orderly.exists_of_episodes_eq_append hrun
  have hrun₁ : s₀.episodes ms₀ = (calm ++ [e]) ++ future := by
    rw [hrun₀, List.append_assoc]
    rfl
  have hearlier (d : Episode) (hd : d ∈ calm) :=
    hs₀.exists_earlier hrun₀ ⟨limit, scope, hmove⟩ hcalm hd
  have hrejected : ∀ d ∈ calm, ∀ limit' scope', d.move = .pass limit' scope' r → d.Completed →
      ∀ a ∈ e.attempts, a.slot.kind ∈ scope'.kinds → ⟨a.slot, false⟩ ∈ d.attempts :=
    fun d hd _ _ hmove' hcompleted _ ha =>
      hs₀.rejected_earlier hrun₀ hcalm hd hmove hmove' hcompleted ha
  obtain ⟨s₁, hs₁, m, -, rfl, -⟩ := hs₀.exists_perform hrun₀
  have hversion := hcalm _ (List.mem_append_right _ List.mem_cons_self)
  rw [before_perform] at hversion ⊢
  rw [move_perform] at hmove
  subst hmove
  obtain ⟨hnodup, hattempts⟩ := hs₁.attempts_perform limit scope r
  refine ⟨hs₀.nodup_accepted hrun₁ hcalm, hnodup, fun a ha => ?_, hrejected, ?_, ?_, ?_⟩
  · obtain ⟨hk, t, -, houtdated, -⟩ := hattempts a ha
    refine ⟨hk, houtdated.1, fun d hd haccepted => ?_⟩
    obtain ⟨s', hs', hversion', m', rfl, -, hlater⟩ := hearlier d hd
    obtain ⟨t, htarget, hns, hcurrent⟩ := hs'.current_of_accepted haccepted
    exact hlater a.slot t (hversion'.symm.trans htarget) hns hcurrent (List.mem_map_of_mem ha)
  · intro hcompleted slot hk heligible hnot
    obtain ⟨t, htarget, hcurrent⟩ := hs₁.attempted_of_outdated hcompleted hk heligible hnot
    exact ⟨t, hversion.symm.trans htarget, hcurrent⟩
  · exact hs₁.idle_of_not_completed
  · rintro d hd ⟨limit', hmove'⟩ ⟨report, hok⟩
    refine List.eq_nil_iff_forall_not_mem.2 fun a ha => ?_
    have hfalse := hrejected d hd limit' .all hmove' (.inl ⟨report, hok⟩) a ha
      (Scope.mem_kinds_all a.slot.kind)
    obtain ⟨s', hs', -, m', rfl, -⟩ := hearlier d hd
    rw [move_perform] at hmove'
    subst hmove'
    cases hs'.accepted_of_ok hok _ hfalse

theorem target?_perform_reject (s : Store) (names : List String) (r : SecretRef) :
    (s.perform (.reject names)).after.target? r = s.target? r :=
  target?_congr rfl r

end Store

/-! ### Sample histories -/

namespace Sample

/-- Of two passes, with a change of what is rejected between them, the second one does not restart
what the first one has restarted. -/
theorem no_redundant_update_single :
    let r : SecretRef := ⟨"prod", "db"⟩
    let first := single.perform (.pass none .all r)
    let between := first.after.perform (.reject ["web"])
    let second := between.after.perform (.pass (some 1) (.only .deployment) r)
    ∀ a ∈ second.attempts, a.slot ∉ first.accepted r := by
  intro r first between second a ha
  have hafter : first.after.target? r = single.target? r :=
    Store.target?_congr (built_single.orderly.secrets_perform_pass none .all r) r
  have hbetween : between.after.target? r = single.target? r :=
    (Store.target?_perform_reject _ _ r).trans hafter
  have hcalm : ∀ d ∈ [first, between] ++ [second], d.before.target? r = single.target? r := by
    intro d hd
    rcases List.mem_cons.1 hd with rfl | hd
    · rw [Store.before_perform]
    · rcases List.mem_cons.1 hd with rfl | hd
      · rw [Store.before_perform, hafter]
      · rw [List.mem_singleton.1 hd, Store.before_perform, hbetween]
  have hrun : single.episodes [.pass none .all r, .reject ["web"],
      .pass (some 1) (.only .deployment) r] = [] ++ ([first, between] ++ second :: []) := rfl
  have hmove : second.move = .pass (some 1) (.only .deployment) r := Store.move_perform _ _
  obtain ⟨-, -, hattempts, -⟩ := Store.no_redundant_update built_single hrun hmove hcalm
  exact (hattempts a ha).2.2 first List.mem_cons_self

/-- A pass that cannot list the workloads asks for no update, although there is a workload that
takes part and is not current. -/
theorem outdated_of_failing_list :
    let r : SecretRef := ⟨"prod", "db"⟩
    let t : Target := ⟨"db", ⟨"v2"⟩⟩
    let slot : Slot := ⟨.deployment, ⟨"prod", "web"⟩⟩
    ∃ d e, single.episodes [.failLists true [], .pass none .all r] = [d, e] ∧
      e.before.target? r = some t ∧ slot.kind ∈ Scope.all.kinds ∧ e.before.Eligible r slot ∧
      slot ∉ e.attempts.map (·.slot) ∧ ¬ e.before.Current t slot := by
  intro r t slot
  let failing := (single.perform (.failLists true [])).after
  have hfailing : failing.Orderly := (built_single.failLists true []).orderly
  have hnot : ¬ ∀ k ∈ Scope.all.kinds, failing.Lists k := by
    intro hlists
    cases (hlists .deployment (Scope.mem_kinds_all .deployment)).1
  obtain ⟨failure, -, hpass⟩ :=
    Ledger.pass_of_not_found (l := ⟨failing, []⟩) hfailing (Store.found?_of_not_lists hnot r)
  have hattempts : (failing.perform (.pass none .all r)).attempts = [] := by
    rw [Store.perform_pass, hpass]
  have htarget : failing.target? r = some t :=
    hfailing.target?_eq secret_single (version_managedSecret ..)
  refine ⟨_, failing.perform (.pass none .all r), rfl, htarget, Scope.mem_kinds_all .deployment,
    outdated_single.1, ?_, outdated_single.2⟩
  rw [hattempts]
  exact List.not_mem_nil

end Sample

end SecretRotation
