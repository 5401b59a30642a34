import SecretRotation.Proofs.Store.Errand

/-!
# Passes for different secrets

Two passes for different secrets do not get in each other's way: they can run in either order. Their
errands are apart, since secrets of one namespace have different names and therefore different keys.
So the one pass finds the same workloads due whether or not the other one has run before, asks for
the same updates, and comes to the same result. A pass that cannot read all it needs fails in the
same way in either order, for no pass changes what is read besides workloads.

## Main results

* `Store.Orderly.asked_workedOff`, `Store.Orderly.tally_workedOff`: the updates that a pass asks for
  and what it counts, after another one.
* `Store.passes_commute`: passes for different secrets can run in either order.
-/

namespace SecretRotation

namespace Store

variable {s : Store} {scope scope' : Scope} {r r' : SecretRef} {t t' : Target}

/-- The errands of passes for different secrets are apart. -/
theorem apart_errand (hne : r ≠ r') (ht : t.name = r.name) (ht' : t'.name = r'.name) :
    (errand scope r t).Apart (errand scope' r' t') := by
  by_cases hns : r.ns = r'.ns
  · refine .inl fun hkey => hne ?_
    have hname : r.name = r'.name := by
      rw [← ht, ← ht']
      exact stampKey_injective hkey
    cases r
    cases r'
    cases hns
    cases hname
    rfl
  · exact .inr hns

/-! ### One pass after another -/

/-- What becomes of a workload in a pass is the same after another one that is apart. -/
theorem fate_workedOff (h : (errand scope r t).Apart (errand scope' r' t')) {k : Kind}
    {w : Workload k} (hns : w.identity.ns = r.ns) :
    (s.workedOff t' (s.units scope' r')).fate t
        ((errand scope' r' t').applied s.rejectedNames w) = s.fate t w := by
  have hcurrent : ((errand scope' r' t').applied s.rejectedNames w).IsCurrent t ↔ w.IsCurrent t :=
    Errand.isCurrent_applied h s.rejectedNames hns
  have haccepts : (s.workedOff t' (s.units scope' r')).Accepts
      ((errand scope' r' t').applied s.rejectedNames w) ↔ s.Accepts w := by
    rw [Accepts, Accepts, Errand.identity_applied]
    rfl
  simp only [fate, hcurrent, haccepts, Errand.title_applied]

namespace Orderly

variable (hs : s.Orderly)

include hs

/-- What takes part in a pass after another one, workload by workload. -/
theorem units_workedOff (ht' : t'.name = r'.name) (scope : Scope) (r : SecretRef) :
    (s.workedOff t' (s.units scope' r')).units scope r =
      (s.units scope r).map fun w => ⟨w.1, (errand scope' r' t').applied s.rejectedNames w.2⟩ := by
  have hmembers (k : Kind) : (s.workedOff t' (s.units scope' r')).members k r.ns = _ :=
    hs.members_workedOff ht' k r.ns
  generalize s.workedOff t' (s.units scope' r') = after at hmembers ⊢
  simp only [units, hmembers, List.filter_map, List.map_map, List.map_flatMap, Function.comp_def,
    Errand.optsIn_applied, Errand.consumes_applied]

/-- What is not current for a pass is the same after another one that is apart. -/
theorem outdated_workedOff (h : (errand scope r t).Apart (errand scope' r' t'))
    (ht' : t'.name = r'.name) :
    outdated t ((s.workedOff t' (s.units scope' r')).units scope r) =
      (outdated t (s.units scope r)).map
        fun w => ⟨w.1, (errand scope' r' t').applied s.rejectedNames w.2⟩ := by
  rw [hs.units_workedOff ht', outdated, List.filter_map, outdated]
  refine congrArg (List.map _) (List.filter_congr fun w hw => ?_)
  have hns : w.2.identity.ns = r.ns := (hs.mem_units_iff.1 hw).2.2.1
  have hcurrent := Errand.isCurrent_applied h s.rejectedNames hns
  exact decide_eq_decide.2 (not_congr hcurrent)

/-- A pass asks for the same updates whether or not another one that is apart has run before. -/
theorem asked_workedOff (h : (errand scope r t).Apart (errand scope' r' t'))
    (ht' : t'.name = r'.name) :
    (outdated t ((s.workedOff t' (s.units scope' r')).units scope r)).map
        (fun w => w.2.identity.name) =
      (outdated t (s.units scope r)).map fun w => w.2.identity.name := by
  rw [hs.outdated_workedOff h ht', List.map_map]
  exact List.map_congr_left fun w _ => by simp

/-- A pass counts and collects the same whether or not another one that is apart has run before. -/
theorem tally_workedOff (h : (errand scope r t).Apart (errand scope' r' t'))
    (ht' : t'.name = r'.name) (k : Kind) :
    (s.workedOff t' (s.units scope' r')).tally t
        ⟨k, (s.workedOff t' (s.units scope' r')).members k r.ns⟩ =
      s.tally t ⟨k, s.members k r.ns⟩ := by
  have hafter : (s.workedOff t' (s.units scope' r')).Orderly := hs.workedOff
  have hvalues := Listing.values_eligible (hs.pairwise_members k r.ns) t.name
  have hvalues' := Listing.values_eligible (hafter.pairwise_members k r.ns) t.name
  rw [tally, tally, hvalues, hvalues', hs.members_workedOff ht', List.length_map, List.filter_map,
    List.map_map]
  simp only [Function.comp_def, Errand.optsIn_applied, Errand.consumes_applied,
    Errand.title_applied]
  refine congrArg (Tally.ofResults _) (List.map_congr_left fun w hw => ?_)
  have hns : w.identity.ns = r.ns := (hs.mem_members_iff.1 (List.mem_of_mem_filter hw)).2
  rw [fate_workedOff h hns]

/-- The outcome of a pass is the same after another one that is apart. -/
theorem outcome_workedOff (h : (errand scope r t).Apart (errand scope' r' t'))
    (ht' : t'.name = r'.name) :
    ((s.workedOff t' (s.units scope' r')).listings scope r).map
        ((s.workedOff t' (s.units scope' r')).tally t) =
      (s.listings scope r).map (s.tally t) := by
  simp only [listings, List.map_map, Function.comp_def, hs.tally_workedOff h ht']

/-- After two passes that are apart the same is stored in either order. -/
theorem workloads_workedOff_comm (h : (errand scope r t).Apart (errand scope' r' t'))
    (ht : t.name = r.name) (ht' : t'.name = r'.name) :
    let s₁ := s.workedOff t (s.units scope r)
    let s₂ := s.workedOff t' (s.units scope' r')
    (s₁.workedOff t' (s₁.units scope' r')).workloads =
      (s₂.workedOff t (s₂.units scope r)).workloads := by
  intro s₁ s₂
  have hs₁ : s₁.Orderly := hs.workedOff
  have hs₂ : s₂.Orderly := hs.workedOff
  refine hs₁.workedOff.workloads_eq hs₂.workedOff fun k identity => ?_
  rw [hs₁.find?_workedOff ht', hs.find?_workedOff ht, hs₂.find?_workedOff ht,
    hs.find?_workedOff ht', Option.map_map, Option.map_map]
  refine congrArg (Option.map · (s.find? k identity)) (funext fun w => ?_)
  exact Errand.applied_comm h s.rejectedNames w

/-- After two passes that are apart a workload that takes part in both is current for both, unless
its updates fail. -/
theorem current_workedOff (h : (errand scope r t).Apart (errand scope' r' t'))
    (ht : t.name = r.name) (ht' : t'.name = r'.name) {slot : Slot}
    (hk : slot.kind ∈ scope.kinds) (hk' : slot.kind ∈ scope'.kinds) (heligible : s.Eligible r slot)
    (heligible' : s.Eligible r' slot) (hname : slot.identity.name ∉ s.rejectedNames) :
    let s₁ := s.workedOff t (s.units scope r)
    (s₁.workedOff t' (s₁.units scope' r')).Current t slot ∧
      (s₁.workedOff t' (s₁.units scope' r')).Current t' slot := by
  intro s₁
  have hs₁ : s₁.Orderly := hs.workedOff
  obtain ⟨hns, w, hfind, hoptsIn, hconsumes⟩ := heligible
  obtain ⟨hns', w', hfind', -, hconsumes'⟩ := heligible'
  cases hfind.symm.trans hfind'
  have hidentity := hs.identity_of_find? hfind
  rw [← hidentity] at hns hns' hname
  have hoptsIn : w.optsIn = true := beq_iff_eq.2 hoptsIn
  have hfinal : (s₁.workedOff t' (s₁.units scope' r')).find? slot.kind slot.identity =
      some ((errand scope' r' t').applied s.rejectedNames
        ((errand scope r t).applied s.rejectedNames w)) := by
    rw [hs₁.find?_workedOff ht', hs.find?_workedOff ht, hfind, Option.map_some, Option.map_some]
    rfl
  refine ⟨⟨_, hfinal, ?_⟩, ⟨_, hfinal, ?_⟩⟩
  · refine (Errand.isCurrent_applied h s.rejectedNames ?_).2 ?_
    · rwa [Errand.identity_applied]
    · exact Errand.isCurrent_applied_self hk hns hoptsIn (ht.symm ▸ hconsumes) hname
  · exact Errand.isCurrent_applied_self hk' (by rwa [Errand.identity_applied])
      (by rwa [Errand.optsIn_applied])
      (by rw [Errand.consumes_applied]; exact ht'.symm ▸ hconsumes')
      (by rwa [Errand.identity_applied])

end Orderly

/-! ### Two passes -/

/-- **Passes for different secrets can run in either order.** Each comes to the same result, they
ask for the same updates, and the same is stored afterwards. A workload that takes part in both is
current for both in the end, unless its updates fail. -/
theorem passes_commute {s : Store} (hs : s.Built) {r r' : SecretRef} (hne : r ≠ r')
    (limit limit' : Option Nat) (scope scope' : Scope) :
    let p := runPass Store.quiet limit scope r
    let q := runPass Store.quiet limit' scope' r'
    let afterP := p.run s
    let afterQ := q.run s
    let afterPQ := q.run afterP.2
    let afterQP := p.run afterQ.2
    afterP.1 = afterQP.1 ∧ afterQ.1 = afterPQ.1 ∧
    afterPQ.2.workloads = afterQP.2.workloads ∧
    afterPQ.2.secrets = s.secrets ∧ afterQP.2.secrets = s.secrets ∧
    (∃ asked asked' : List String,
      afterP.2.updateCalls = s.updateCalls ++ asked ∧
      afterPQ.2.updateCalls = s.updateCalls ++ asked ++ asked' ∧
      afterQ.2.updateCalls = s.updateCalls ++ asked' ∧
      afterQP.2.updateCalls = s.updateCalls ++ asked' ++ asked) ∧
    ∀ t t', s.target? r = some t → s.target? r' = some t' →
      (∀ k ∈ scope.kinds, s.Lists k) → (∀ k ∈ scope'.kinds, s.Lists k) →
      ∀ slot : Slot, slot.kind ∈ scope.kinds → slot.kind ∈ scope'.kinds →
        s.Eligible r slot → s.Eligible r' slot → slot.identity.name ∉ s.rejectedNames →
          afterPQ.2.Current t slot ∧ afterPQ.2.Current t' slot := by
  have hs := hs.orderly
  have hsame : s.Alike s := .refl s
  intro p q afterP afterQ afterPQ afterQP
  rcases hs.run_runPass_cases limit scope r with ⟨hp, f, hrunP⟩ | ⟨t, ht, hrunP⟩ <;>
    rcases hs.run_runPass_cases limit' scope' r' with ⟨hq, f', hrunQ⟩ | ⟨t', ht', hrunQ⟩
  -- neither pass can read all it needs
  · have hP : afterP = (.error f, s) := hrunP s hs hsame
    have hQ : afterQ = (.error f', s) := hrunQ s hs hsame
    have hPQ : afterPQ = (.error f', s) := (congrArg (q.run ·.2) hP).trans hQ
    have hQP : afterQP = (.error f, s) := (congrArg (p.run ·.2) hQ).trans hP
    rw [hP, hQ, hPQ, hQP]
    refine ⟨rfl, rfl, rfl, rfl, rfl, ⟨[], [], by simp⟩, fun t t' ht _ hlists _ => ?_⟩
    exact absurd ⟨hlists, t, ht⟩ hp
  -- only the second one can
  · have hP : afterP = (.error f, s) := hrunP s hs hsame
    have hQ : afterQ = _ := hrunQ s hs hsame
    have hPQ : afterPQ = _ := (congrArg (q.run ·.2) hP).trans hQ
    have hQP : afterQP = (.error f, afterQ.2) := by
      rw [hQ]
      exact (congrArg (p.run ·.2) hQ).trans (hrunP _ hs.workedOff (s.alike_workedOff _ _))
    rw [hP, hPQ, hQP, hQ]
    refine ⟨rfl, rfl, rfl, rfl, rfl,
      ⟨[], (outdated t' (s.units scope' r')).map fun w => w.2.identity.name, ?_⟩,
      fun t t' ht _ hlists _ => ?_⟩
    · simp [workedOff, Ledger.workedOff]
    · exact absurd ⟨hlists, t, ht⟩ hp
  -- only the first one can
  · have hP : afterP = _ := hrunP s hs hsame
    have hQ : afterQ = (.error f', s) := hrunQ s hs hsame
    have hQP : afterQP = _ := (congrArg (p.run ·.2) hQ).trans hP
    have hPQ : afterPQ = (.error f', afterP.2) := by
      rw [hP]
      exact (congrArg (q.run ·.2) hP).trans (hrunQ _ hs.workedOff (s.alike_workedOff _ _))
    rw [hQ, hPQ, hQP, hP]
    refine ⟨rfl, rfl, rfl, rfl, rfl,
      ⟨(outdated t (s.units scope r)).map fun w => w.2.identity.name, [], ?_⟩,
      fun t t' _ ht' _ hlists' => ?_⟩
    · simp [workedOff, Ledger.workedOff]
    · exact absurd ⟨hlists', t', ht'⟩ hq
  -- both can: their errands are apart
  · have hname := hs.name_of_target? ht
    have hname' := hs.name_of_target? ht'
    have hapart : (errand scope r t).Apart (errand scope' r' t') := apart_errand hne hname hname'
    have hP : afterP = _ := hrunP s hs hsame
    have hQ : afterQ = _ := hrunQ s hs hsame
    have hPQ : afterPQ = _ :=
      (congrArg (q.run ·.2) hP).trans (hrunQ _ hs.workedOff (s.alike_workedOff _ _))
    have hQP : afterQP = _ :=
      (congrArg (p.run ·.2) hQ).trans (hrunP _ hs.workedOff (s.alike_workedOff _ _))
    rw [hP, hQ, hPQ, hQP]
    refine ⟨?_, ?_, hs.workloads_workedOff_comm hapart hname hname', rfl, rfl,
      ⟨(outdated t (s.units scope r)).map fun w => w.2.identity.name,
        (outdated t' (s.units scope' r')).map fun w => w.2.identity.name, rfl, ?_, rfl, ?_⟩, ?_⟩
    · rw [hs.outcome_workedOff hapart hname']
    · rw [hs.outcome_workedOff hapart.symm hname]
    · rw [← hs.asked_workedOff hapart.symm hname]
      rfl
    · rw [← hs.asked_workedOff hapart hname']
      rfl
    · intro u u' hu hu' _ _ slot hk hk' heligible heligible' hnotRejected
      cases ht.symm.trans hu
      cases ht'.symm.trans hu'
      exact hs.current_workedOff hapart hname hname' hk hk' heligible heligible' hnotRejected

end Store

/-! ### A sample of two passes -/

namespace Sample

/-- A deployment that takes part and has all keys of two secrets in its environment. -/
def sharedConsumer : Workload .deployment :=
  (consumer "prod" "web" "db").mapTemplate fun template =>
    { template with
      spec := some {
        containers := [{
          envFrom := some [{ secretRef := some { name := "db" } },
            { secretRef := some { name := "cache" } }] }] } }

/-- A store with a deployment that takes part, and the two secrets that it consumes. -/
def shared : Store :=
  ((Store.put {} sharedConsumer).putSecret (managedSecret "prod" "db" "v2")).putSecret
    (managedSecret "prod" "cache" "v7")

theorem built_shared : shared.Built := ((Store.Built.empty.put _).putSecret _).putSecret _

theorem find?_shared : shared.find? .deployment ⟨"prod", "web"⟩ = some sharedConsumer :=
  Store.find?_of_get? ((Store.get?_workloads_put ..).trans (if_pos rfl))

theorem target?_db_shared : shared.target? ⟨"prod", "db"⟩ = some ⟨"db", ⟨"v2"⟩⟩ := by
  have hother : shared.secrets.get? ⟨"prod", "db"⟩ =
      (((Store.put {} sharedConsumer).putSecret (managedSecret "prod" "db" "v2")).secrets.get?
        ⟨"prod", "db"⟩) := (OrderedMap.get?_insert ..).trans (if_neg (by decide))
  have hown : shared.secrets.get? ⟨"prod", "db"⟩ = some (managedSecret "prod" "db" "v2") :=
    hother.trans ((OrderedMap.get?_insert ..).trans (if_pos rfl))
  rw [Store.target?, hown, Option.bind_some, target?_managedSecret]

theorem target?_cache_shared : shared.target? ⟨"prod", "cache"⟩ = some ⟨"cache", ⟨"v7"⟩⟩ := by
  have hown : shared.secrets.get? ⟨"prod", "cache"⟩ = some (managedSecret "prod" "cache" "v7") :=
    (OrderedMap.get?_insert ..).trans (if_pos rfl)
  rw [Store.target?, hown, Option.bind_some, target?_managedSecret]

theorem eligible_shared {name : String} (h : name = "db" ∨ name = "cache") :
    shared.Eligible ⟨"prod", name⟩ ⟨.deployment, ⟨"prod", "web"⟩⟩ := by
  refine ⟨rfl, sharedConsumer, find?_shared, annotation?_consumer "prod" "web" "db", ?_⟩
  refine List.contains_iff_mem.2 (?_ : name ∈ ["db", "cache"])
  simpa using h

/-- In either order, two passes leave the deployment with the versions of both secrets. -/
theorem current_shared_of_passes :
    let p := runPass Store.quiet none .all ⟨"prod", "db"⟩
    let q := runPass Store.quiet (some 1) (.only .deployment) ⟨"prod", "cache"⟩
    let afterPQ := (q.run (p.run shared).2).2
    let afterQP := (p.run (q.run shared).2).2
    let slot : Slot := ⟨.deployment, ⟨"prod", "web"⟩⟩
    afterPQ.workloads = afterQP.workloads ∧
      afterPQ.Current ⟨"db", ⟨"v2"⟩⟩ slot ∧ afterPQ.Current ⟨"cache", ⟨"v7"⟩⟩ slot := by
  have hne : (⟨"prod", "db"⟩ : SecretRef) ≠ ⟨"prod", "cache"⟩ := by decide
  have hlists (k : Kind) : shared.Lists k := ⟨rfl, List.not_mem_nil⟩
  obtain ⟨-, -, hworkloads, -, -, -, hcurrent⟩ :=
    Store.passes_commute built_shared hne none (some 1) .all (.only .deployment)
  exact ⟨hworkloads, hcurrent _ _ target?_db_shared target?_cache_shared (fun k _ => hlists k)
    (fun k _ => hlists k) ⟨.deployment, ⟨"prod", "web"⟩⟩ (Scope.mem_kinds_all .deployment)
    List.mem_cons_self (eligible_shared (.inl rfl)) (eligible_shared (.inr rfl)) List.not_mem_nil⟩

end Sample

end SecretRotation
