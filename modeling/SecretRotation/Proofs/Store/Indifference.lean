import SecretRotation.Proofs.Store.Errand
import SecretRotation.Proofs.Store.History

/-!
# What a pass knows of a secret

A pass fetches a whole secret, but all that it keeps of it is the name and the current version. The
content of the secret, its type, its labels and all its other annotations make no difference to what
a pass does or says, and neither does the key under which the secret carries its version. So a
version can be moved from the key that all secrets may use to the key of the secret, and nothing is
restarted.

The store is split into the secret and the rest: a pass over the store is one over the rest, on a
cluster where fetching gives the secret.

## Main definitions

* `Secret.SameVersion`: two secrets of one name and namespace that say the same version, or both
  none.
* `Secret.versionMoved`: a secret with its version moved to its own key.

## Main results

* `Instant.pass_congr`: clusters on which secrets say the same versions.
* `Store.pass_indifferent_to_content`: passes over stores that differ in the content of a secret.
-/

namespace SecretRotation

variable {σ : Type} {k : Kind}

/-! ### Secrets that say the same version -/

namespace Secret

/-- Two secrets are found in the same place and say the same version, or both say none. -/
structure SameVersion (a b : Secret) : Prop where
  identity_eq : b.metadata.identity = a.metadata.identity
  stamp?_eq : b.stamp? = a.stamp?

/-- The secret with the version moved from the key that all secrets may use to its own key. -/
def versionMoved (a : Secret) : Secret :=
  { a with metadata := { a.metadata with
      annotations := a.metadata.annotations.map fun annotations =>
        match annotations.get? versionKey with
        | none => annotations
        | some version => (annotations.erase versionKey).insert (stampKey a.knownAs) version } }

variable {a b : Secret}

theorem SameVersion.target?_eq (h : a.SameVersion b) : b.target? = a.target? := by
  have hname : b.knownAs = a.knownAs := congrArg Identity.name h.identity_eq
  rw [target?, target?, h.stamp?_eq, hname]

/-- A secret that has no version under its own key says the same one after it has been moved
there. -/
theorem sameVersion_versionMoved (h : a.metadata.annotation? (stampKey a.knownAs) = none) :
    a.SameVersion a.versionMoved where
  identity_eq := rfl
  stamp?_eq := by
    have hname : a.versionMoved.knownAs = a.knownAs := rfl
    rw [stamp?, stamp?, hname, h]
    obtain ⟨⟨_, _, _, _, annotations, _⟩, _⟩ := a
    cases annotations with
    | none => rfl
    | some annotations =>
      simp only [ObjectMeta.annotation?, versionMoved, Option.map_some, Option.bind_some] at h ⊢
      cases hversion : annotations.get? versionKey with
      | none => simp [h, hversion]
      | some version => simp [OrderedMap.get?_insert]

end Secret

/-! ### Clusters on which secrets say the same -/

namespace Instant

variable {I J : Instant σ}

theorem reconcile_congr (hupdate : I.update = J.update) (t : Target) (s : σ) (w : Workload k) :
    I.reconcile t s w = J.reconcile t s w := by
  simp only [reconcile, hupdate]

theorem rollOut_congr (hupdate : I.update = J.update) (t : Target) (s : σ)
    (ws : List (Workload k)) : I.rollOut t s ws = J.rollOut t s ws := by
  induction ws generalizing s with
  | nil => rfl
  | cons w ws ih => simp only [rollOut, reconcile_congr hupdate, ih]

theorem bringAll_congr (hupdate : I.update = J.update) (t : Target) (s : σ) (ls : List Listing) :
    I.bringAll t s ls = J.bringAll t s ls := by
  induction ls generalizing s with
  | nil => rfl
  | cons l ls ih => simp only [bringAll, bring, rollOut_congr hupdate, ih]

/-- A secret that is fetched is only asked for what it says. -/
theorem fetchTarget_view (I : Instant σ) (s : σ) (secret : SecretRef) :
    fetchTarget (I.view s) secret =
      match (I.fetch s secret).map Secret.target? with
      | .error fault => throw (.fetching secret.text fault)
      | .ok none => throw (.unversioned secret.text)
      | .ok (some t) => pure t := by
  cases hfetch : I.fetch s secret with
  | error fault =>
    have hview : (I.view s).fetch secret = .error fault := hfetch
    rw [fetchTarget, hview]
    rfl
  | ok found =>
    rw [fetchTarget_view_of_fetched I hfetch, Except.map]
    cases found.target? <;> rfl

/-- What a pass does depends on the secret only through what it says: its name and its version. -/
theorem pass_congr (hlist : I.list = J.list) (hupdate : I.update = J.update)
    (hfetch : ∀ s r, (I.fetch s r).map Secret.target? = (J.fetch s r).map Secret.target?)
    (scope : Scope) (secret : SecretRef) (s : σ) :
    I.pass scope secret s = J.pass scope secret s := by
  have htarget : fetchTarget (I.view s) secret = fetchTarget (J.view s) secret := by
    rw [fetchTarget_view, fetchTarget_view, hfetch]
  have hlists (ns : String) : listKind (I.view s) ns = listKind (J.view s) ns := by
    have hview (k : Kind) : (I.view s).list k ns = (J.view s).list k ns :=
      congrFun (congrFun (congrFun hlist s) k) ns
    funext k
    rw [listKind, hview, listKind]
  have hsurvey : survey (I.view s) scope secret = survey (J.view s) scope secret := by
    cases scope <;> simp only [survey, htarget, hlists]
  simp only [pass, hsurvey, bringAll_congr hupdate]

end Instant

namespace Store

/-! ### A secret and the rest of a store -/

/-- Stores as a cluster on which one secret is always what is given. -/
def instantWith (secret : Secret) : Instant Store where
  fetch s := (s.putSecret secret).fetch
  list s := s.list
  update s _ w := s.update w

theorem update_putSecret (s : Store) (secret : Secret) (w : Workload k) :
    (s.putSecret secret).update w = ((s.update w).1, (s.update w).2.putSecret secret) := by
  by_cases h : s.Accepts w
  · rw [update_of_accepts h, update_of_accepts (s := s.putSecret secret) h]
    rfl
  · rw [update_of_not_accepts h, update_of_not_accepts (s := s.putSecret secret) h]
    rfl

/-- A store with a secret is the rest of it, on a cluster with the secret. -/
theorem refines_instantWith (secret : Secret) :
    (instantWith secret).Refines Store.instant (putSecret · secret) where
  fetch _ := rfl
  list _ _ := rfl
  update s _ w := update_putSecret s secret w

/-- Fetching finds secrets that say the same, if the two secrets do. -/
theorem map_target?_fetch_putSecret {a b : Secret} (h : a.SameVersion b) (s : Store)
    (r : SecretRef) :
    ((s.putSecret b).fetch r).map Secret.target? =
      ((s.putSecret a).fetch r).map Secret.target? := by
  have hget (c : Secret) : (s.putSecret c).secrets.get? ⟨r.ns, r.name⟩ =
      if ⟨r.ns, r.name⟩ = c.metadata.identity then some c else s.secrets.get? ⟨r.ns, r.name⟩ :=
    OrderedMap.get?_insert ..
  rw [fetch, fetch, hget, hget, h.identity_eq]
  by_cases hfound : ⟨r.ns, r.name⟩ = a.metadata.identity
  · rw [if_pos hfound, if_pos hfound]
    exact congrArg Except.ok h.target?_eq
  · rw [if_neg hfound, if_neg hfound]

theorem pass_instantWith {a b : Secret} (h : a.SameVersion b) (scope : Scope) (r : SecretRef)
    (s : Store) : (instantWith b).pass scope r s = (instantWith a).pass scope r s :=
  Instant.pass_congr (I := instantWith b) (J := instantWith a) rfl rfl
    (fun s r => map_target?_fetch_putSecret h s r) scope r s

/-- A pass over a store with a secret is one over the rest of it. -/
theorem run_runPass_putSecret (s : Store) (secret : Secret) (limit : Option Nat) (scope : Scope)
    (r : SecretRef) :
    (runPass Store.quiet limit scope r).run (s.putSecret secret) =
      (((instantWith secret).pass scope r s).1,
        ((instantWith secret).pass scope r s).2.putSecret secret) := by
  rw [Store.quiet_eq, Instant.run_runPass]
  exact (refines_instantWith secret).pass scope r s

/-- Putting a secret in the place of another one. -/
theorem putSecret_putSecret (s : Store) {a b : Secret}
    (h : b.metadata.identity = a.metadata.identity) :
    (s.putSecret a).putSecret b = s.putSecret b := by
  have hsecrets : (s.secrets.insert a.metadata.identity a).insert a.metadata.identity b =
      s.secrets.insert a.metadata.identity b := by
    refine OrderedMap.ext_get? fun identity => ?_
    simp only [OrderedMap.get?_insert]
    by_cases hfound : identity = a.metadata.identity
    · rw [if_pos hfound, if_pos hfound]
    · simp only [if_neg hfound]
  simp only [putSecret, h, hsecrets]

/-- On two stores that differ only in a secret of which both say the same version, a pass comes to
the same result, and the stores differ in nothing else afterwards. -/
theorem run_runPass_of_sameVersion {a b : Secret} (h : a.SameVersion b) (s : Store)
    (limit : Option Nat) (scope : Scope) (r : SecretRef) :
    (runPass Store.quiet limit scope r).run (s.putSecret b) =
      (((runPass Store.quiet limit scope r).run (s.putSecret a)).1,
        ((runPass Store.quiet limit scope r).run (s.putSecret a)).2.putSecret b) := by
  rw [run_runPass_putSecret, run_runPass_putSecret, pass_instantWith h,
    putSecret_putSecret _ h.identity_eq]

/-! ### A second pass -/

/-- A pass that can read all it needs ends with a report if no updates fail. -/
theorem Orderly.exists_report {s : Store} (hs : s.Orderly) {scope : Scope} {r : SecretRef}
    {t : Target} (hlists : ∀ k ∈ scope.kinds, s.Lists k) (htarget : s.target? r = some t)
    (haccepts : s.rejectedNames = []) (limit : Option Nat) :
    ∃ report, ((runPass Store.quiet limit scope r).run s).1 = .ok report := by
  rw [hs.run_runPass_of_found hlists htarget]
  refine ⟨_, Tally.outcome_eq_ok_iff.2 ⟨?_, rfl⟩⟩
  rw [Tally.failures_total, List.flatMap_map, List.flatMap_eq_nil_iff]
  intro l _
  have hfate (w : Workload l.kind) : ∃ changed, s.fate t w = .ok changed := by
    have hw : s.Accepts w := by
      rw [Accepts, haccepts]
      exact List.not_mem_nil
    by_cases hcurrent : w.IsCurrent t
    · exact ⟨false, if_pos hcurrent⟩
    · exact ⟨true, (if_neg hcurrent).trans (if_pos hw)⟩
  refine List.filterMap_eq_nil_iff.2 fun result hresult => ?_
  obtain ⟨w, -, rfl⟩ := List.mem_map.1 hresult
  obtain ⟨changed, hchanged⟩ := hfate w
  simp only [hchanged]

/-- After a pass that ends with a report a second one, of the same kinds or fewer, finds nothing to
do. -/
theorem Orderly.after_second_pass {s : Store} (hs : s.Orderly) {limit : Option Nat} {scope : Scope}
    {r : SecretRef} {report : Report}
    (hok : ((runPass Store.quiet limit scope r).run s).1 = .ok report) (limit' : Option Nat)
    {scope' : Scope} (hscope : scope'.kinds ⊆ scope.kinds) :
    ((runPass Store.quiet limit' scope' r).run ((runPass Store.quiet limit scope r).run s).2).2 =
      ((runPass Store.quiet limit scope r).run s).2 := by
  rw [run_runPass_eq_perform] at hok ⊢
  rw [run_runPass_eq_perform]
  have hfirst : (s.perform (.pass limit scope r)).outcome = some (.ok report) := congrArg some hok
  have hafter : (s.perform (.pass limit scope r)).after.Orderly := hs.perform _
  dsimp only
  rcases hafter.perform_cases limit' scope' r with ⟨failure, -, heq⟩ | ⟨t, htarget, heq⟩
  · rw [heq]
  · have hnone : outdated t ((s.perform (.pass limit scope r)).after.units scope' r) = [] := by
      refine List.eq_nil_iff_forall_not_mem.2 fun w hw => ?_
      obtain ⟨hk, heligible, hcurrent⟩ := hafter.exists_outdated_iff.1 ⟨w, hw, rfl⟩
      rw [hs.eligible_perform] at heligible
      have htarget' : s.target? r = some t :=
        (target?_congr (hs.secrets_perform_pass limit scope r) r).symm.trans htarget
      rcases hs.rejected_or_current htarget' (.inl ⟨report, hfirst⟩) (hscope hk) heligible with
        hrejected | hdone
      · cases hs.accepted_of_ok hfirst _ hrejected
      · exact hcurrent hdone
    rw [heq]
    simp [Ledger.workedOff, hnone]

/-! ### Passes over stores with different secrets -/

/-- **A pass knows nothing of a secret but its name and its version.** On two stores that differ
only in a secret of which both say the same version, a pass comes to the same result, asks for the
same updates, and leaves the same workloads; afterwards the stores differ only in the secret. Moving
the version of a secret to its own key is such a difference, and when a pass has ended with a report
before, nothing is restarted after it. -/
theorem pass_indifferent_to_content (s : Store) (a : Secret) (limit : Option Nat) (scope : Scope)
    (r : SecretRef) :
    let before := (runPass Store.quiet limit scope r).run (s.putSecret a)
    (∀ b : Secret, a.SameVersion b →
      let instead := (runPass Store.quiet limit scope r).run (s.putSecret b)
      instead.1 = before.1 ∧ instead.2.workloads = before.2.workloads ∧
        instead.2.updateCalls = before.2.updateCalls ∧ instead.2 = before.2.putSecret b) ∧
    (a.metadata.annotation? (stampKey a.knownAs) = none → a.SameVersion a.versionMoved ∧
      (s.Built → ∀ report, before.1 = .ok report →
        ∀ (limit' : Option Nat) (scope' : Scope), scope'.kinds ⊆ scope.kinds →
          let moved := before.2.putSecret a.versionMoved
          ((runPass Store.quiet limit' scope' r).run moved).2 = moved)) := by
  intro before
  refine ⟨fun b h => ?_, fun hown => ⟨Secret.sameVersion_versionMoved hown, ?_⟩⟩
  · have hinstead := run_runPass_of_sameVersion h s limit scope r
    intro instead
    have hinstead : instead = (before.1, before.2.putSecret b) := hinstead
    rw [hinstead]
    exact ⟨rfl, rfl, rfl, rfl⟩
  · intro hs report hok limit' scope' hscope moved
    have hmoved :=
      run_runPass_of_sameVersion (Secret.sameVersion_versionMoved hown) s limit scope r
    have hafter := (hs.putSecret a.versionMoved).orderly.after_second_pass
      ((congrArg Prod.fst hmoved).trans hok) limit' hscope
    rwa [hmoved] at hafter

end Store

/-! ### A sample of a secret that changes -/

namespace Sample

/-- A secret with other content than the managed one, and its version under the key that all secrets
may use. -/
def sharedKeySecret : Secret where
  metadata := {
    name := some "db"
    ns := some "prod"
    annotations := some (OrderedMap.empty.insert versionKey "v2") }
  secretType := some "Opaque"

theorem own_sharedKeySecret :
    sharedKeySecret.metadata.annotation? (stampKey sharedKeySecret.knownAs) = none :=
  (OrderedMap.get?_insert ..).trans (if_neg (stampKey_ne_versionKey _))

theorem stamp?_sharedKeySecret : sharedKeySecret.stamp? = some ⟨"v2"⟩ := by
  have hshared : sharedKeySecret.metadata.annotation? versionKey = some "v2" :=
    (OrderedMap.get?_insert ..).trans (if_pos rfl)
  rw [Secret.stamp?, own_sharedKeySecret, hshared]
  rfl

theorem sameVersion_sharedKeySecret :
    sharedKeySecret.SameVersion (managedSecret "prod" "db" "v2") where
  identity_eq := rfl
  stamp?_eq := by
    have hname : (managedSecret "prod" "db" "v2").knownAs = "db" := rfl
    rw [stamp?_sharedKeySecret, Secret.stamp?, hname, version_managedSecret]
    rfl

/-- A deployment is restarted for the one secret as for the other, and not again after the version
has been moved. -/
theorem pass_indifferent_to_content_single :
    let s : Store := Store.put {} (consumer "prod" "web" "db")
    let r : SecretRef := ⟨"prod", "db"⟩
    let shared := (runPass Store.quiet none .all r).run (s.putSecret sharedKeySecret)
    let own := (runPass Store.quiet none .all r).run (s.putSecret (managedSecret "prod" "db" "v2"))
    let moved := shared.2.putSecret sharedKeySecret.versionMoved
    own.1 = shared.1 ∧ own.2.workloads = shared.2.workloads ∧
      ((runPass Store.quiet (some 1) (.only .deployment) r).run moved).2 = moved := by
  intro s r shared own moved
  have hs : s.Built := Store.Built.empty.put _
  obtain ⟨hsame, hmoved⟩ := Store.pass_indifferent_to_content s sharedKeySecret none .all r
  obtain ⟨hresult, hworkloads, -⟩ := hsame _ sameVersion_sharedKeySecret
  have htarget : (s.putSecret sharedKeySecret).target? r = some ⟨"db", ⟨"v2"⟩⟩ := by
    have hsecret : (s.putSecret sharedKeySecret).secrets.get? ⟨"prod", "db"⟩ =
        some sharedKeySecret := (OrderedMap.get?_insert ..).trans (if_pos rfl)
    rw [Store.target?, hsecret, Option.bind_some, Secret.target?, stamp?_sharedKeySecret]
    rfl
  have hlists (k : Kind) (_ : k ∈ Scope.all.kinds) : (s.putSecret sharedKeySecret).Lists k :=
    ⟨rfl, List.not_mem_nil⟩
  obtain ⟨report, hreport⟩ :=
    (hs.putSecret sharedKeySecret).orderly.exists_report hlists htarget rfl none
  exact ⟨hresult, hworkloads, (hmoved own_sharedKeySecret).2 hs report hreport (some 1)
    (.only .deployment) fun k _ => Scope.mem_kinds_all k⟩

end Sample

end SecretRotation
