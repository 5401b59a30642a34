import SecretRotation.Proofs.Store.Effect

/-!
# Errands

Once a pass has read all it needs, what it does to the store is an errand: the workloads of some
kinds in a namespace are to be brought to the version of a secret. An errand is carried out on each
workload by itself. Whether a workload is due, and what becomes of it, is decided by the workload
and by which updates fail, and by nothing else in the store.

So a store after a pass is the store before it, workload by workload, and two errands interfere only
if they interfere on a single workload. They do not if they write under different keys, or go about
different namespaces.

## Main definitions

* `Errand`, `Errand.Due`, `Errand.applied`: what is to be done, to which workloads, and what becomes
  of one of them.
* `Errand.Apart`: errands that cannot meet at a stamp.
* `Store.errand`: the errand of a pass.

## Main results

* `Errand.due_applied`, `Errand.applied_comm`: errands that are apart do not interfere.
* `Store.Orderly.find?_workedOff`, `Store.Orderly.members_workedOff`: a store after a pass.
* `Store.Orderly.run_runPass_cases`: what a pass does on stores that differ only in their workloads.
-/

namespace SecretRotation

variable {k : Kind}

/-- What a pass sets out to do once it has read all it needs. -/
structure Errand where
  /-- The kinds of the workloads. -/
  scope : Scope
  /-- Their namespace. -/
  ns : String
  /-- The version to which they are brought. -/
  target : Target

namespace Errand

/-! ### Single workloads -/

/-- A workload is to be brought to the version of an errand: it takes part, and not both its stamps
are current. -/
def Due (e : Errand) (w : Workload k) : Prop :=
  k ∈ e.scope.kinds ∧ w.identity.ns = e.ns ∧ w.optsIn = true ∧
    w.consumes e.target.name = true ∧ ¬ w.IsCurrent e.target

instance (e : Errand) (w : Workload k) : Decidable (e.Due w) :=
  inferInstanceAs (Decidable (_ ∧ _))

/-- What becomes of a workload, if the updates of workloads of given names fail. -/
def applied (e : Errand) (rejected : List String) (w : Workload k) : Workload k :=
  if e.Due w ∧ w.identity.name ∉ rejected then w.stamped e.target.key e.target.stamp else w

variable {e e' : Errand} {rejected : List String}

theorem applied_of_due {w : Workload k} (h : e.Due w) (hname : w.identity.name ∉ rejected) :
    e.applied rejected w = w.stamped e.target.key e.target.stamp :=
  if_pos ⟨h, hname⟩

theorem applied_of_not_due {w : Workload k} (h : ¬ (e.Due w ∧ w.identity.name ∉ rejected)) :
    e.applied rejected w = w :=
  if_neg h

/-- A workload becomes what it was, or is given new stamps. -/
theorem applied_cases (e : Errand) (rejected : List String) (w : Workload k) :
    e.applied rejected w = w ∨
      e.Due w ∧ e.applied rejected w = w.stamped e.target.key e.target.stamp := by
  by_cases h : e.Due w ∧ w.identity.name ∉ rejected
  · exact .inr ⟨h.1, applied_of_due h.1 h.2⟩
  · exact .inl (applied_of_not_due h)

@[simp] theorem identity_applied (e : Errand) (rejected : List String) (w : Workload k) :
    (e.applied rejected w).identity = w.identity := by
  rcases e.applied_cases rejected w with h | ⟨-, h⟩ <;> rw [h]
  exact w.identity_stamped _ _

@[simp] theorem optsIn_applied (e : Errand) (rejected : List String) (w : Workload k) :
    (e.applied rejected w).optsIn = w.optsIn := by
  rcases e.applied_cases rejected w with h | ⟨-, h⟩ <;> rw [h]
  exact w.optsIn_stamped _ _

@[simp] theorem consumes_applied (e : Errand) (rejected : List String) (w : Workload k)
    (secretName : String) :
    (e.applied rejected w).consumes secretName = w.consumes secretName := by
  rcases e.applied_cases rejected w with h | ⟨-, h⟩ <;> rw [h]
  exact w.consumes_stamped _ _ _

@[simp] theorem title_applied (e : Errand) (rejected : List String) (w : Workload k) :
    (e.applied rejected w).title = w.title := by
  rw [Workload.title, identity_applied, Workload.title]

/-! ### Errands that are apart -/

/-- Errands cannot meet at a stamp: they write under different keys, or are about different
namespaces. -/
def Apart (e e' : Errand) : Prop := e.target.key ≠ e'.target.key ∨ e.ns ≠ e'.ns

theorem Apart.symm (h : e.Apart e') : e'.Apart e := h.imp Ne.symm Ne.symm

/-- A workload in the namespace of an errand is as current after another one as before. -/
theorem isCurrent_applied (h : e.Apart e') (rejected : List String) {w : Workload k}
    (hns : w.identity.ns = e.ns) :
    (e'.applied rejected w).IsCurrent e.target ↔ w.IsCurrent e.target := by
  rcases e'.applied_cases rejected w with heq | ⟨hdue, heq⟩
  · rw [heq]
  · have hkey : e.target.key ≠ e'.target.key :=
      h.resolve_right fun hne => hne (hns.symm.trans hdue.2.1)
    rw [heq]
    exact w.isCurrent_stamped_iff hkey _

/-- What is due for an errand is due whether or not another one has been carried out before. -/
theorem due_applied (h : e.Apart e') (rejected : List String) (w : Workload k) :
    e.Due (e'.applied rejected w) ↔ e.Due w := by
  simp only [Due, identity_applied, optsIn_applied, consumes_applied]
  refine and_congr_right fun _ => and_congr_right fun hns => ?_
  rw [isCurrent_applied h rejected hns]

/-- A workload that takes part in an errand is current after it, unless its updates fail. -/
theorem isCurrent_applied_self {w : Workload k} (hk : k ∈ e.scope.kinds)
    (hns : w.identity.ns = e.ns) (hoptsIn : w.optsIn = true)
    (hconsumes : w.consumes e.target.name = true) (hname : w.identity.name ∉ rejected) :
    (e.applied rejected w).IsCurrent e.target := by
  by_cases hcurrent : w.IsCurrent e.target
  · rwa [applied_of_not_due fun h => h.1.2.2.2.2 hcurrent]
  · rw [applied_of_due ⟨hk, hns, hoptsIn, hconsumes, hcurrent⟩ hname]
    exact w.isCurrent_stamped e.target

/-- **Errands that are apart can be carried out in either order.** -/
theorem applied_comm (h : e.Apart e') (rejected : List String) (w : Workload k) :
    e'.applied rejected (e.applied rejected w) = e.applied rejected (e'.applied rejected w) := by
  have hdue := e.due_applied h rejected w
  have hdue' := e'.due_applied h.symm rejected w
  by_cases hname : w.identity.name ∈ rejected
  · have hnot (f : Errand) (v : Workload k) (hv : v.identity = w.identity) :
        f.applied rejected v = v :=
      applied_of_not_due fun hv' => hv'.2 (hv ▸ hname)
    rw [hnot e w rfl, hnot e' w rfl, hnot e w rfl]
  · by_cases he : e.Due w
    · by_cases he' : e'.Due w
      · have hkey : e.target.key ≠ e'.target.key :=
          h.resolve_right fun hne => hne (he.2.1.symm.trans he'.2.1)
        rw [applied_of_due (hdue'.2 he') (by rwa [identity_applied]), applied_of_due he hname,
          applied_of_due (hdue.2 he) (by rwa [identity_applied]), applied_of_due he' hname,
          Workload.stamped_comm w hkey]
      · have hsame : e'.applied rejected w = w := applied_of_not_due fun h => he' h.1
        rw [hsame, applied_of_not_due fun h => he' (hdue'.1 h.1)]
    · have hsame : e.applied rejected w = w := applied_of_not_due fun h => he h.1
      rw [hsame, applied_of_not_due fun h => he (hdue.1 h.1)]

end Errand

/-! ### Stores -/

namespace Store

theorem workedOff_append (s : Store) (t : Target) (units units' : List AnyWorkload) :
    s.workedOff t (units ++ units') = (s.workedOff t units).workedOff t units' := by
  rw [workedOff, Ledger.workedOff_append]
  rfl

theorem alike_workedOff (s : Store) (t : Target) (units : List AnyWorkload) :
    s.Alike (s.workedOff t units) := ⟨rfl, rfl, rfl, rfl⟩

/-- The errand of a pass over a store. -/
def errand (scope : Scope) (secret : SecretRef) (t : Target) : Errand := ⟨scope, secret.ns, t⟩

namespace Orderly

variable {s : Store} {scope : Scope} {secret : SecretRef} {t : Target} (hs : s.Orderly)

include hs

/-- The workloads for which an update is asked are those that are due. -/
theorem mem_outdated_iff_due (ht : t.name = secret.name) {w : AnyWorkload} :
    w ∈ outdated t (s.units scope secret) ↔
      s.find? w.1 w.2.identity = some w.2 ∧ (errand scope secret t).Due w.2 := by
  rw [mem_outdated_iff, hs.mem_units_iff, Errand.Due, errand, Workload.optsIn, beq_iff_eq, ht]
  tauto

/-- **A store after a pass**, workload by workload. -/
theorem find?_workedOff (ht : t.name = secret.name) (k : Kind) (identity : Identity) :
    (s.workedOff t (s.units scope secret)).find? k identity =
      (s.find? k identity).map ((errand scope secret t).applied s.rejectedNames) := by
  cases hfind : s.find? k identity with
  | none =>
    have hsame : (s.workedOff t (s.units scope secret)).workloads.get? ⟨k, identity⟩ =
        s.workloads.get? ⟨k, identity⟩ :=
      Ledger.get?_workedOff_of_forall_ne fun w hw _ hslot => by
        have hw := ((hs.mem_outdated_iff_due ht).1 hw).1
        cases hslot
        rw [hfind] at hw
        cases hw
    rw [@find?_congr _ _ ⟨k, identity⟩ hsame, hfind, Option.map_none]
  | some w =>
    have hidentity := hs.identity_of_find? hfind
    subst hidentity
    by_cases hdue : (errand scope secret t).Due w ∧ w.identity.name ∉ s.rejectedNames
    · have hmem : (⟨k, w⟩ : AnyWorkload) ∈ outdated t (s.units scope secret) :=
        (hs.mem_outdated_iff_due ht).2 ⟨hfind, hdue.1⟩
      have hget : (s.workedOff t (s.units scope secret)).workloads.get? ⟨k, w.identity⟩ =
          some ((Workload.codec k).write (w.stamped t.key t.stamp)) :=
        Ledger.get?_workedOff_of_mem (hs.pairwise_ne_units scope secret) hmem hdue.2
      rw [find?_of_get?_stamped (hs.asWritten_of_find? hfind) hget, Option.map_some,
        Errand.applied_of_due hdue.1 hdue.2]
      rfl
    · have hsame : (s.workedOff t (s.units scope secret)).workloads.get? ⟨k, w.identity⟩ =
          s.workloads.get? ⟨k, w.identity⟩ :=
        Ledger.get?_workedOff_of_forall_ne fun v hv haccepts hslot => by
          obtain ⟨k', v⟩ := v
          obtain ⟨hv, hdue'⟩ := (hs.mem_outdated_iff_due ht).1 hv
          obtain rfl : k' = k := congrArg Slot.kind hslot
          have hidentity : v.identity = w.identity := congrArg Slot.identity hslot
          rw [hidentity, hfind] at hv
          cases hv
          exact hdue ⟨hdue', haccepts⟩
      rw [@find?_congr _ _ ⟨k, w.identity⟩ hsame, hfind, Option.map_some,
        Errand.applied_of_not_due hdue]

/-- After a pass everything is still in its own place. -/
theorem workedOff : (s.workedOff t (s.units scope secret)).Orderly where
  exists_workload {slot json} hget := by
    by_cases hchanged : slot.kind ∈ scope.kinds ∧ s.Outdated secret t slot ∧
        slot.identity.name ∉ s.rejectedNames
    · obtain ⟨hk, houtdated, haccepted⟩ := hchanged
      obtain ⟨w, hfind, -, hstored⟩ :=
        Ledger.get?_workedOff_of_outdated (l := ⟨s, []⟩) hs hk houtdated haccepted
      exact ⟨w.stamped t.key t.stamp,
        Workload.asWritten_stamped_of_eq (hs.asWritten_of_find? hfind) _ _,
        Option.some.inj (hget.symm.trans hstored),
        (w.identity_stamped t.key t.stamp).trans (hs.identity_of_find? hfind)⟩
    · have hsame := Ledger.get?_workedOff_of_not_outdated (l := ⟨s, []⟩) hs hchanged
      exact hs.exists_workload (hsame.symm.trans hget)
  identity_secret hget := hs.identity_secret hget

/-- What is listed after a pass, workload by workload. -/
theorem members_workedOff (ht : t.name = secret.name) (k : Kind) (ns : String) :
    (s.workedOff t (s.units scope secret)).members k ns =
      (s.members k ns).map ((errand scope secret t).applied s.rejectedNames) :=
  hs.members_eq_map hs.workedOff (fun w => Errand.identity_applied _ _ w)
    (fun identity => hs.find?_workedOff ht k identity) ns

end Orderly

/-! ### Passes -/

variable {s : Store} {scope : Scope} {secret : SecretRef}

/-- A pass either ends with the same failure on all stores that are alike, and changes none of them,
or it reads the same version in all of them and works off the workloads that take part. -/
theorem Orderly.run_runPass_cases (hs : s.Orderly) (limit : Option Nat) (scope : Scope)
    (secret : SecretRef) :
    (¬ ((∀ k ∈ scope.kinds, s.Lists k) ∧ ∃ t, s.target? secret = some t) ∧
      ∃ failure : Failure, ∀ s' : Store, s'.Orderly → s.Alike s' →
        (runPass quiet limit scope secret).run s' = (.error failure, s')) ∨
    ∃ t, s.target? secret = some t ∧ ∀ s' : Store, s'.Orderly → s.Alike s' →
      (runPass quiet limit scope secret).run s' =
        ((Tally.total ((s'.listings scope secret).map (s'.tally t))).outcome,
          s'.workedOff t (s'.units scope secret)) := by
  by_cases hfound : (∀ k ∈ scope.kinds, s.Lists k) ∧ ∃ t, s.target? secret = some t
  · obtain ⟨hlists, t, htarget⟩ := hfound
    refine .inr ⟨t, htarget, fun s' hs' h => hs'.run_runPass_of_found (fun k hk => ?_) ?_ _⟩
    · exact (h.lists_iff k).2 (hlists k hk)
    · rw [h.target?_eq, htarget]
  · have hnone : s.found? scope secret = none := by
      by_cases hlists : ∀ k ∈ scope.kinds, s.Lists k
      · rw [found?_of_lists hlists, Option.map_eq_none_iff]
        exact Option.eq_none_iff_forall_ne_some.2 fun t ht => hfound ⟨hlists, t, ht⟩
      · exact found?_of_not_lists hlists secret
    have hreads := hs.reads_survey scope secret
    rw [hnone] at hreads
    obtain ⟨failure, -, hread⟩ := hreads
    refine .inl ⟨hfound, failure, fun s' hs' h => ?_⟩
    have hread' : (survey (Store.instant.view s') scope secret).run = .error failure := by
      rcases h.failAlike_survey hs hs' scope secret with ⟨failure', hx, hy⟩ | ⟨a, b, hx, -⟩
      · cases hread.symm.trans hx
        exact hy
      · cases hread.symm.trans hx
    rw [Store.quiet_eq, Instant.run_runPass, Instant.pass, hread']

end Store

end SecretRotation
