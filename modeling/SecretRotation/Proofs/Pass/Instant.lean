import SecretRotation.Pass.Run
import SecretRotation.Proofs.OrderedMap

/-!
# Clusters on which nothing takes time

If every update ends at the moment at which it begins, the units of a pass do not overlap: they are
worked off one after the other, whatever limit there is on updates under way. A pass is then a
function of the state of the cluster, which this file gives (`Instant.pass`).

## Main definitions

* `Instant`: a cluster as three functions of its state; `Instant.access`, the cluster that a pass
  sees.
* `Instant.reconcile`, `Instant.rollOut`, `Instant.bring`, `Instant.bringAll`: the writing part of a
  pass for one workload, for several, for a listing, and for all listings.
* `Instant.pass`: a whole pass.

* `Instant.Refines`: one cluster is another one with more to its states.

## Main results

* `Instant.run_runPass`: what a pass does on such a cluster.
* `Instant.Refines.pass`: passes on clusters that answer the same.
-/

namespace SecretRotation

variable {σ τ α β : Type} {k : Kind}

/-- A clock on which no time passes. -/
def Clock.still {m : Type → Type} [Pure m] : Clock m where
  now := pure 0
  waitUntil _ := pure ()

/-- A cluster on which nothing takes time: what is read of its state, and what becomes of an update
and of the state. -/
structure Instant (σ : Type) where
  /-- The answer when a secret is fetched. -/
  fetch : σ → SecretRef → Except Fault Secret
  /-- The answer when workloads are listed. -/
  list : σ → (k : Kind) → (ns : String) → Except Fault (List (Workload k))
  /-- The answer to an update, and the state after it. -/
  update : σ → (k : Kind) → Workload k → Except Fault (Workload k) × σ

namespace Instant

/-- The cluster as a pass sees it. -/
def access (I : Instant σ) : ClusterAccess (StateM σ) where
  clock := .still
  fetch secret := fun s => (I.fetch s secret, s)
  list k ns := fun s => (I.list s k ns, s)
  update k w := fun s => (.settled (I.update s k w).1, (I.update s k w).2)
  report _ := pure ()

/-- The cluster as it is seen in one state. -/
def view (I : Instant σ) (s : σ) : ClusterAccess Id where
  clock := .still
  fetch secret := I.fetch s secret
  list k ns := I.list s k ns
  update k w := .settled (I.update s k w).1
  report _ := ()

variable (I : Instant σ)

/-! ### A pass as a function of the state -/

/-- A workload is brought up to date: whether it was given new stamps, and the state after it. -/
def reconcile (t : Target) (s : σ) (w : Workload k) : Except Failure Bool × σ :=
  match w.verdict t with
  | .current => (.ok false, s)
  | .outdated _ replacement =>
    match I.update s k replacement with
    | (.ok _, s) => (.ok true, s)
    | (.error fault, s) => (.error (.updating w.title fault), s)

/-- Workloads are brought up to date one after the other. -/
def rollOut (t : Target) (s : σ) :
    List (Workload k) → List (Workload k × Except Failure Bool) × σ
  | [] => ([], s)
  | w :: ws =>
    let (result, s) := I.reconcile t s w
    let (results, s) := rollOut t s ws
    ((w, result) :: results, s)

/-- The eligible workloads of a listing are brought up to date. -/
def bring (t : Target) (s : σ) (l : Listing) : Tally × σ :=
  let (results, s) := I.rollOut t s (l.eligible t.name).values
  (.ofResults l.workloads.length (results.map fun r => (r.1.title, r.2)), s)

/-- Listings are worked off one after the other. -/
def bringAll (t : Target) (s : σ) : List Listing → List Tally × σ
  | [] => ([], s)
  | l :: ls =>
    let (tally, s) := I.bring t s l
    let (tallies, s) := bringAll t s ls
    (tally :: tallies, s)

/-- A pass: its outcome, and the state after it. -/
def pass (scope : Scope) (secret : SecretRef) (s : σ) : Except Failure Report × σ :=
  match (survey (I.view s) scope secret).run with
  | .error failure => (.error failure, s)
  | .ok (target, listings) =>
    let (tallies, s) := I.bringAll target s listings
    ((Tally.total tallies).outcome, s)

/-! ### Reading -/

/-- A computation only looks at a state, and finds what another finds without one. -/
def Looks (s : σ) (x : ExceptT Failure (StateM σ) α) (y : ExceptT Failure Id α) : Prop :=
  x.run.run s = (y.run, s)

variable {I}

theorem Looks.pure (s : σ) (a : α) : Looks s (Pure.pure a) (Pure.pure a) := rfl

theorem Looks.bind {s : σ} {x : ExceptT Failure (StateM σ) α} {y : ExceptT Failure Id α}
    {f : α → ExceptT Failure (StateM σ) β} {g : α → ExceptT Failure Id β} (hx : Looks s x y)
    (hf : ∀ a, Looks s (f a) (g a)) : Looks s (x >>= f) (y >>= g) := by
  have hx : x.run.run s = (y.run, s) := hx
  simp only [Looks, ExceptT.run_bind, StateT.run_bind, hx]
  cases y.run with
  | error failure => rfl
  | ok a => exact hf a

theorem Looks.mapM {ι : Type} {s : σ} {f : ι → ExceptT Failure (StateM σ) α}
    {g : ι → ExceptT Failure Id α} (hf : ∀ i, Looks s (f i) (g i)) :
    (is : List ι) → Looks s (is.mapM f) (is.mapM g)
  | [] => by simpa using Looks.pure s []
  | i :: is => by
    simp only [List.mapM_cons]
    exact (hf i).bind fun a => (Looks.mapM hf is).bind fun as => Looks.pure s (a :: as)

variable (I)

/-- What a secret says once it has been fetched. -/
theorem fetchTarget_view_of_fetched {s : σ} {secret : SecretRef} {found : Secret}
    (h : I.fetch s secret = .ok found) :
    fetchTarget (I.view s) secret =
      match found.target? with
      | none => throw (.unversioned secret.text)
      | some t => pure t := by
  have hfetch : (I.view s).fetch secret = .ok found := h
  rw [fetchTarget, hfetch]
  rfl

theorem looks_fetchTarget (s : σ) (secret : SecretRef) :
    Looks s (fetchTarget I.access secret) (fetchTarget (I.view s) secret) := by
  have hfetch : Looks s (liftM (I.access.fetch secret)) (liftM ((I.view s).fetch secret)) := rfl
  refine hfetch.bind fun answer => ?_
  cases answer with
  | error fault => rfl
  | ok found =>
    dsimp only
    cases found.target? <;> rfl

theorem looks_listKind (s : σ) (ns : String) (k : Kind) :
    Looks s (listKind I.access ns k) (listKind (I.view s) ns k) := by
  have hlist : Looks s (liftM (I.access.list k ns)) (liftM ((I.view s).list k ns)) := rfl
  refine hlist.bind fun answer => ?_
  cases answer <;> rfl

/-- The reading part of a pass only looks at the state. -/
theorem looks_survey (s : σ) (scope : Scope) (secret : SecretRef) :
    Looks s (survey I.access scope secret) (survey (I.view s) scope secret) := by
  cases scope with
  | all =>
    exact (I.looks_fetchTarget s secret).bind fun target =>
      (Looks.mapM (I.looks_listKind s secret.ns) Kind.all).bind fun ls => Looks.pure s (target, ls)
  | only k =>
    exact (I.looks_listKind s secret.ns k).bind fun l =>
      (I.looks_fetchTarget s secret).bind fun target => Looks.pure s (target, [l])

end Instant

/-! ### Writing -/

/-- Units that are settled as soon as they are begun are worked off one after the other. -/
theorem FanOut.run_of_settled {m : Type → Type} [Monad m] [LawfulMonad m] (clock : Clock m)
    {begin : α → m (Started m β)} {unit : α → m β}
    (hbegin : ∀ a, begin a = Started.settled <$> unit a) (width : Nat) :
    (items : List α) →
      FanOut.run clock begin width items [] = items.mapM fun a => (a, ·) <$> unit a
  | [] => by rw [FanOut.run, List.mapM_nil]
  | a :: items => by
    rw [FanOut.run, hbegin, List.mapM_cons]
    simp only [bind_map_left, FanOut.run_of_settled clock hbegin width items]

namespace Instant

variable (I : Instant σ)

/-- A workload brought up to date, as an operation on the state. -/
def unit (t : Target) (w : Workload k) : StateM σ (Except Failure Bool) :=
  fun s => I.reconcile t s w

theorem beginUpdate_access (t : Target) (w : Workload k) :
    beginUpdate I.access t w = Started.settled <$> I.unit t w := by
  funext s
  change beginUpdate I.access t w s =
    (Started.settled (I.reconcile t s w).1, (I.reconcile t s w).2)
  unfold beginUpdate reconcile
  cases w.verdict t with
  | current => rfl
  | outdated former replacement =>
    rcases hupdate : I.update s k replacement with ⟨answer, after⟩
    have haccess : I.access.update k replacement s = (.settled answer, after) := by
      simp only [access, hupdate]
    change (Started.map _ (I.access.update k replacement s).1,
      (I.access.update k replacement s).2) = _
    rw [haccess]
    simp only [hupdate]
    cases answer <;> rfl

theorem run_mapM_unit (t : Target) :
    (ws : List (Workload k)) → (s : σ) →
      (ws.mapM fun w => (w, ·) <$> I.unit t w).run s = I.rollOut t s ws
  | [], _ => rfl
  | w :: ws, s => by
    have hrest := run_mapM_unit t ws (I.reconcile t s w).2
    have hunit : ((w, ·) <$> I.unit t w : StateM σ _).run s =
      ((w, (I.reconcile t s w).1), (I.reconcile t s w).2) := rfl
    rw [List.mapM_cons, StateT.run_bind, hunit]
    simp only [StateT.run_bind, rollOut]
    rw [← hrest]
    rfl

omit I in
theorem forM_pure {ι : Type} :
    (is : List ι) → (is.forM fun _ => (pure () : StateM σ Unit)) = pure ()
  | [] => rfl
  | _ :: is => by rw [List.forM, pure_bind, forM_pure is]

theorem run_bringUpToDate (limit : Option Nat) (t : Target) (l : Listing) (s : σ) :
    (bringUpToDate I.access limit t l).run s = I.bring t s l := by
  have hrun : FanOut.run I.access.clock (beginUpdate I.access t)
      (fanOutWidth limit (l.eligible t.name).size) (l.eligible t.name).values [] =
      (l.eligible t.name).values.mapM fun w => (w, ·) <$> I.unit t w :=
    FanOut.run_of_settled _ (I.beginUpdate_access t) _ _
  have hrollOut := I.run_mapM_unit t (l.eligible t.name).values s
  have hreport (e : Event) : I.access.report e = pure () := rfl
  unfold bringUpToDate
  by_cases hempty : (l.eligible t.name).isEmpty
  · have hvalues := OrderedMap.values_eq_nil_of_isEmpty hempty
    simp only [hempty, if_true, hreport, bring, hvalues, rollOut]
    rfl
  · simp only [hempty, Bool.false_eq_true, if_false, hrun, hreport, pure_bind, ite_self,
      forM_pure, StateT.run_bind, hrollOut, bring]
    rfl

theorem run_mapM_bringUpToDate (limit : Option Nat) (t : Target) :
    (ls : List Listing) → (s : σ) →
      (ls.mapM (bringUpToDate I.access limit t)).run s = I.bringAll t s ls
  | [], _ => rfl
  | l :: ls, s => by
    have hrest := run_mapM_bringUpToDate limit t ls (I.bring t s l).2
    rw [List.mapM_cons, StateT.run_bind, I.run_bringUpToDate limit t l s]
    simp only [StateT.run_bind, bringAll]
    rw [← hrest]
    rfl

/-- **What a pass does where nothing takes time.** -/
theorem run_runPass (limit : Option Nat) (scope : Scope) (secret : SecretRef) (s : σ) :
    (runPass I.access limit scope secret).run s = I.pass scope secret s := by
  have hsurvey : (survey I.access scope secret).run.run s =
    ((survey (I.view s) scope secret).run, s) := I.looks_survey s scope secret
  rw [runPass, StateT.run_bind, hsurvey, pass]
  cases (survey (I.view s) scope secret).run with
  | error failure => rfl
  | ok found =>
    obtain ⟨t, ls⟩ := found
    have hbring := I.run_mapM_bringUpToDate limit t ls s
    change (do
      let p ← (ls.mapM (bringUpToDate I.access limit t)).run s
      (pure (Tally.total p.1).outcome : StateM σ _).run p.2 : Id _) = _
    rw [hbring]
    rfl

end Instant

/-! ### Comparing clusters -/

/-- One cluster is another one seen through a function of its states: it answers the same, and its
states are taken to those of the other. -/
structure Instant.Refines (I : Instant σ) (J : Instant τ) (φ : σ → τ) : Prop where
  fetch (s : σ) : I.fetch s = J.fetch (φ s)
  list (s : σ) (k : Kind) : I.list s k = J.list (φ s) k
  update (s : σ) (k : Kind) (w : Workload k) :
    J.update (φ s) k w = ((I.update s k w).1, φ (I.update s k w).2)

namespace Instant.Refines

variable {I : Instant σ} {J : Instant τ} {φ : σ → τ} (h : I.Refines J φ)

include h

theorem view (s : σ) : I.view s = J.view (φ s) := by
  have hlist : I.list s = J.list (φ s) := funext (h.list s)
  have hupdate : (fun k w => (I.update s k w).1) = fun k w => (J.update (φ s) k w).1 := by
    funext k w
    rw [h.update]
  simp only [Instant.view, h.fetch s, hlist, funext_iff.1 (funext_iff.1 hupdate _)]

theorem reconcile (t : Target) (s : σ) (w : Workload k) :
    J.reconcile t (φ s) w = ((I.reconcile t s w).1, φ (I.reconcile t s w).2) := by
  simp only [Instant.reconcile]
  cases w.verdict t with
  | current => rfl
  | outdated former replacement =>
    dsimp only
    rw [h.update]
    rcases I.update s k replacement with ⟨_ | _, _⟩ <;> rfl

theorem rollOut (t : Target) : (s : σ) → (ws : List (Workload k)) →
    J.rollOut t (φ s) ws = ((I.rollOut t s ws).1, φ (I.rollOut t s ws).2)
  | _, [] => rfl
  | s, w :: ws => by
    have hrest := rollOut t (I.reconcile t s w).2 ws
    simp only [Instant.rollOut, h.reconcile, hrest]

theorem bringAll (t : Target) : (s : σ) → (ls : List Listing) →
    J.bringAll t (φ s) ls = ((I.bringAll t s ls).1, φ (I.bringAll t s ls).2)
  | _, [] => rfl
  | s, l :: ls => by
    have hrest := bringAll t (I.bring t s l).2 ls
    have hbring : J.bring t (φ s) l = ((I.bring t s l).1, φ (I.bring t s l).2) := by
      simp only [Instant.bring, h.rollOut]
    simp only [Instant.bringAll, hbring, hrest]

/-- **A pass gives the same result on both clusters**, and their states still correspond. -/
theorem pass (scope : Scope) (secret : SecretRef) (s : σ) :
    J.pass scope secret (φ s) = ((I.pass scope secret s).1, φ (I.pass scope secret s).2) := by
  simp only [Instant.pass, ← h.view]
  cases (survey (I.view s) scope secret).run with
  | error failure => rfl
  | ok found => simp only [h.bringAll]

end Instant.Refines

end SecretRotation
