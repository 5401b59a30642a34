import Mathlib.Data.List.Induction
import SecretRotation.Proofs.Interleaving.Stamps

/-!
# Passes while a secret is rotated

Several passes for one secret run at the same time, and they are the only ones to write workloads.
Meanwhile the secret is given one version after the other. Whoever fetches it is told the version
that it has at this moment.

A pass over one kind lists the workloads before it fetches the secret. The stamp that an accepted
update replaces was listed, so it was written by then, and it is no younger than the version that
the pass has fetched: stamps do not go back. A pass over all kinds fetches the secret first. What it
lists may have been stamped with a younger version since, and then its update takes the older one
back.

## Main definitions

* `Turn`, `Scene`: what happens while a secret is rotated, and the server together with the number
  of rotations.
* `Scene.Step`, `Scene.Run`: what a turn does to a scene.
* `Rotated`: passes while a secret is rotated.

## Main results

* `Rotated.exists_fetch`: when the version was fetched that an accepted update writes.
* `Rotated.timely`: no workload is stamped with a version that the secret has not had yet.
* `stamp_goes_back_only_past_fetch`: which updates can take a stamp back.
-/

namespace SecretRotation

open Archive (Fresh)

/-! ### Scenes -/

/-- Something that happens while passes run and a secret is rotated. -/
inductive Turn (ι : Type)
  /-- The secret is given the next version. -/
  | rotation
  /-- Something happens at the server. -/
  | incident (m : Incident ι)

variable {ι : Type}

/-- What happens at the server, if anything does. -/
def Turn.incident? : Turn ι → Option (Incident ι)
  | .rotation => none
  | .incident m => some m

/-- All that happens at the server. -/
def incidents (ts : List (Turn ι)) : List (Incident ι) := ts.filterMap Turn.incident?

theorem incidents_append_incident (ts ts' : List (Turn ι)) (m : Incident ι) :
    incidents (ts ++ .incident m :: ts') = incidents ts ++ m :: incidents ts' :=
  List.filterMap_append ..

/-- It is a pass that is answered or writes, and nobody else. -/
def Incident.OfPass : Incident ι → Prop
  | .answered _ _ => True
  | .replaced _ _ _ _ => True
  | .written _ _ => False
  | .removed _ => False

/-- What a server stores, and how often the secret has been rotated. -/
structure Scene where
  archive : Archive
  round : Nat

/-- What is fetched as a secret is the secret, at one version. -/
def Tells (r : SecretRef) (version : String) (e : Exchange) : Prop :=
  ∀ secret, Request.fetch r = .ok e.request → e.reply.read Secret.codec.read = .ok secret →
    secret.knownAs = r.name ∧ secret.stamp? = some ⟨version⟩

theorem Tells.target_eq {r : SecretRef} {version : String} {e : Exchange} (h : Tells r version e)
    {secret : Secret} (hrequest : Request.fetch r = .ok e.request)
    (hread : e.reply.read Secret.codec.read = .ok secret) {t : Target}
    (ht : secret.target? = some t) : t = ⟨r.name, ⟨version⟩⟩ := by
  obtain ⟨hname, hstamp⟩ := h secret hrequest hread
  rw [Secret.target?, hstamp, hname] at ht
  exact (Option.some.inj ht).symm

namespace Scene

/-- A scene at the beginning. -/
def initial (start : (slot : Slot) → Option (Filed slot)) : Scene := ⟨.initial start, 0⟩

section

variable [DecidableEq ι]

/-- A turn changes the version of the secret, or what is stored. Whoever fetches the secret is told
the version that it has at this moment. -/
inductive Step (versions : Nat → String) (r : SecretRef) : Scene → Turn ι → Scene → Prop
  | rotation {s : Scene} : Step versions r s .rotation ⟨s.archive, s.round + 1⟩
  | incident {s : Scene} {m : Incident ι} {a : Archive} (h : Archive.Step s.archive m a)
      (hpass : m.OfPass)
      (htells : ∀ i e, m.exchange? i = some e → Tells r (versions s.round) e) :
      Step versions r s (.incident m) ⟨a, s.round⟩

/-- Several turns are taken one after the other. -/
inductive Run (versions : Nat → String) (r : SecretRef) : Scene → List (Turn ι) → Scene → Prop
  | nil (s : Scene) : Run versions r s [] s
  | cons {s s' s'' : Scene} {t : Turn ι} {ts : List (Turn ι)} (h : Step versions r s t s')
      (hs : Run versions r s' ts s'') : Run versions r s (t :: ts) s''

variable {versions : Nat → String} {r : SecretRef} {s s' s'' : Scene} {t : Turn ι}
  {ts ts' : List (Turn ι)}

namespace Step

theorem round_le (h : Step versions r s t s') : s.round ≤ s'.round := by
  cases h with
  | rotation => exact Nat.le_succ _
  | incident _ _ _ => exact Nat.le_refl _

theorem sound (h : Step versions r s t s') (hs : s.archive.Sound) : s'.archive.Sound := by
  cases h with
  | rotation => exact hs
  | incident h _ _ => exact h.sound hs

theorem mem_past (h : Step versions r s t s') {slot : Slot} {f : Filed slot}
    (hf : f ∈ s.archive.past slot) : f ∈ s'.archive.past slot := by
  cases h with
  | rotation => exact hf
  | incident h _ _ => exact h.mem_past hf

theorem eq_of_step (h : Step versions r s t s') (h' : Step versions r s t s'') : s' = s'' := by
  cases h with
  | rotation =>
    cases h'
    rfl
  | incident h _ _ =>
    cases h' with
    | incident h' _ _ => rw [h.eq_of_step h']

end Step

namespace Run

theorem append (h : Run versions r s ts s') (h' : Run versions r s' ts' s'') :
    Run versions r s (ts ++ ts') s'' := by
  induction h with
  | nil => exact h'
  | cons hstep _ ih => exact .cons hstep (ih h')

/-- A run can be stopped at any time. -/
theorem exists_append (h : Run versions r s (ts ++ ts') s'') :
    ∃ s', Run versions r s ts s' ∧ Run versions r s' ts' s'' := by
  induction ts generalizing s with
  | nil => exact ⟨s, .nil s, h⟩
  | cons t ts ih =>
    cases h with
    | cons hstep hrest =>
      obtain ⟨s', hrun, hrest⟩ := ih hrest
      exact ⟨s', .cons hstep hrun, hrest⟩

theorem round_le (h : Run versions r s ts s') : s.round ≤ s'.round := by
  induction h with
  | nil => exact Nat.le_refl _
  | cons hstep _ ih => exact hstep.round_le.trans ih

theorem sound (h : Run versions r s ts s') (hs : s.archive.Sound) : s'.archive.Sound := by
  induction h with
  | nil => exact hs
  | cons hstep _ ih => exact ih (hstep.sound hs)

theorem mem_past (h : Run versions r s ts s') {slot : Slot} {f : Filed slot}
    (hf : f ∈ s.archive.past slot) : f ∈ s'.archive.past slot := by
  induction h with
  | nil => exact hf
  | cons hstep _ ih => exact ih (hstep.mem_past hf)

/-- What happens at the server in the course of a run is a run of the server. -/
theorem incidents (h : Run versions r s ts s') :
    Archive.Run s.archive (incidents ts) s'.archive := by
  induction h with
  | nil => exact .nil _
  | cons hstep _ ih =>
    cases hstep with
    | rotation => exact ih
    | incident h _ _ => exact .cons h ih

/-- What a pass exchanges in the course of a run is exchanged at some time. -/
theorem exists_exchange (h : Run versions r s ts s') {i : ι} {ahead behind : List Exchange}
    {e : Exchange}
    (hexchanges : exchangesOf i (SecretRotation.incidents ts) = ahead ++ e :: behind) :
    ∃ before m after s₁ s₂, ts = before ++ .incident m :: after ∧ Run versions r s before s₁ ∧
      Step versions r s₁ (.incident m) s₂ ∧ Run versions r s₂ after s' ∧
      m.exchange? i = some e ∧ exchangesOf i (SecretRotation.incidents before) = ahead := by
  simp only [exchangesOf, SecretRotation.incidents, List.filterMap_filterMap] at hexchanges ⊢
  obtain ⟨ts₁, ts₂, rfl, hahead, hrest⟩ := List.filterMap_eq_append_iff.1 hexchanges
  obtain ⟨quiet, t, after, rfl, hquiet, ht, -⟩ := List.filterMap_eq_cons_iff.1 hrest
  obtain ⟨m, hm, he⟩ := Option.bind_eq_some_iff.1 ht
  cases t with
  | rotation => cases hm
  | incident m' =>
    cases hm
    rw [← List.append_assoc] at h ⊢
    obtain ⟨s₁, hbefore, hrest⟩ := h.exists_append
    cases hrest with
    | cons hstep hafter =>
      refine ⟨ts₁ ++ quiet, m, after, s₁, _, rfl, hbefore, hstep, hafter, he, ?_⟩
      rw [List.filterMap_append, hahead, List.filterMap_eq_nil_iff.2 hquiet, List.append_nil]

/-- What is stored in the end is determined by the turns. -/
theorem eq_of_run (h : Run versions r s ts s') (h' : Run versions r s ts s'') : s' = s'' := by
  induction h with
  | nil =>
    cases h'
    rfl
  | cons hstep _ ih =>
    cases h' with
    | cons hstep' hrest => exact ih (hstep.eq_of_step hstep' ▸ hrest)

end Run

end

end Scene

/-! ### Passes -/

variable [DecidableEq ι]

/-- Passes for one secret run at the same time, while the secret is given one version after the
other, and nobody else writes workloads. -/
structure Rotated (versions : Nat → String) (r : SecretRef) (plans : ι → Plan)
    (start : (slot : Slot) → Option (Filed slot)) (ts : List (Turn ι)) : Prop where
  run : ∃ finish, Scene.Run versions r (.initial start) ts finish
  inOrder (i : ι) : ∃ es, (plans i).Transcript es ∧ InOrder es (exchangesOf i (incidents ts))
  secret_eq (i : ι) : (plans i).secret = r

/-- Everything that has ever been stored has been there from the beginning, or has both stamps at a
version that the secret has had by now. -/
def Scene.Timely (versions : Nat → String) (r : SecretRef)
    (start : (slot : Slot) → Option (Filed slot)) (s : Scene) : Prop :=
  ∀ slot, ∀ f ∈ s.archive.past slot, start slot = some f ∨
    ∃ n ≤ s.round, f.workload.IsCurrent ⟨r.name, ⟨versions n⟩⟩

namespace Rotated

open Scene (Run Step)

variable {versions : Nat → String} {r : SecretRef} {plans : ι → Plan}
  {start : (slot : Slot) → Option (Filed slot)} {before after : List (Turn ι)} {i : ι}
  {e : Exchange} {slot : Slot} {f : Filed slot} {s s' : Scene}

/-- **The version that an accepted update writes** is the one that the secret had when the pass
fetched it. A pass over one kind had already listed by then what the update replaces. -/
theorem exists_fetch
    (h : Rotated versions r plans start (before ++ .incident (.replaced i e slot f) :: after))
    (hbefore : Run versions r (.initial start) before s)
    (hstep : Step versions r s (.incident (.replaced i e slot f)) s') :
    ∃ (old : Filed slot) (earlier later : List (Turn ι)) (m : Incident ι) (x : Exchange)
      (s₁ s₂ : Scene),
      s.archive.stored slot = some old ∧ before = earlier ++ .incident m :: later ∧
      Run versions r (.initial start) earlier s₁ ∧ Step versions r s₁ (.incident m) s₂ ∧
      Run versions r s₂ later s ∧ m.exchange? i = some x ∧ Request.fetch r = .ok x.request ∧
      f.workload =
        (old.workload.stamped (stampKey r.name) ⟨versions s₁.round⟩).atVersion f.version ∧
      ((plans i).scope ≠ .all → old ∈ s₁.archive.past slot) := by
  have hput : e.request.method = "PUT" := by
    cases hstep with
    | incident hstep _ _ =>
      cases hstep with
      | replaced hmethod _ _ _ _ _ _ => exact hmethod
  obtain ⟨es, htranscript, hin⟩ := h.inOrder i
  rw [incidents_append_incident, exchangesOf_append_replaced] at hin
  obtain ⟨survey, result, reads, updates, rest, hsurveyed, hconcluded, hmem, hexchanges, hreads⟩ :=
    htranscript.surveyed hin hput
  obtain ⟨t, ls, rfl, ⟨k, ws⟩, hl, w, heligible, -, hreplace⟩ := hconcluded.exists_eligible hmem
  have hw : w ∈ ws := (Listing.of_mem_eligible heligible).1
  obtain ⟨ahead, x, behind, secret, rfl, hfetch, hread, htarget, hlisted⟩ := hsurveyed.exists_fetch
  rw [h.secret_eq i] at hfetch
  obtain ⟨earlier, m, later, s₁, s₂, rfl, hearlier, hfetched, hlater, hx, hahead⟩ :=
    hbefore.exists_exchange (hexchanges.trans (List.append_assoc ..))
  obtain rfl : t = ⟨r.name, ⟨versions s₁.round⟩⟩ := by
    cases hfetched with
    | incident _ _ htells => exact (htells i x hx).target_eq hfetch hread htarget
  -- what the update was made from has been stored, before the fetch if the pass is about one kind
  obtain ⟨slot', g, hg, hlistedAs, hgEarly⟩ : ∃ slot', ∃ g ∈ s.archive.past slot',
      (⟨k, w⟩ : AnyWorkload) = ⟨slot'.kind, g.workload⟩ ∧
        ((plans i).scope ≠ .all → g ∈ s₁.archive.past slot') := by
    by_cases hscope : (plans i).scope = .all
    · obtain ⟨slot', g, hg, hgw⟩ := (hsurveyed.carried hl hw).exists_past hbefore.incidents
        (i := i) fun y hy => ⟨hexchanges ▸ List.mem_append_left _ hy, hreads y hy⟩
      exact ⟨slot', g, hg, hgw, fun hne => absurd hscope hne⟩
    · obtain ⟨slot', g, hg, hgw⟩ := (hlisted hscope _ hl w hw).exists_past hearlier.incidents
        (i := i) fun y hy => ⟨hahead ▸ hy, hreads y (List.mem_append_left _ hy)⟩
      exact ⟨slot', g, hlater.mem_past (hfetched.mem_past hg), hgw, fun _ => hg⟩
  cases hlistedAs
  cases hstep with
  | incident hstep _ _ =>
    obtain ⟨old, hstored, hold, hworkload⟩ :=
      hstep.eq_of_update (hbefore.sound (Archive.sound_initial start)) hg hreplace
    cases hold
    exact ⟨old, earlier, later, m, x, s₁, s₂, hstored, rfl, hearlier, hfetched, hlater, hx, hfetch,
      hworkload, hgEarly⟩

/-- What an accepted update writes is current for the version that it was made for. -/
theorem isCurrent_of_workload_eq {old : Filed slot} {version : String}
    (h : f.workload = (old.workload.stamped (stampKey r.name) ⟨version⟩).atVersion f.version) :
    f.workload.IsCurrent ⟨r.name, ⟨version⟩⟩ := by
  rw [h]
  exact old.workload.isCurrent_stamped ⟨r.name, ⟨version⟩⟩

/-- **No workload is stamped with a version to come.** -/
theorem timely (h : Rotated versions r plans start (before ++ after))
    (hbefore : Run versions r (.initial start) before s) : s.Timely versions r start := by
  induction before using List.reverseRecOn generalizing s after with
  | nil =>
    cases hbefore
    exact fun slot f hf => .inl (Option.mem_toList.1 hf)
  | append_singleton ts t ih =>
    rw [List.append_assoc] at h
    obtain ⟨s₀, hts, hlast⟩ := hbefore.exists_append
    have htimely : s₀.Timely versions r start := ih h hts
    cases hlast with
    | cons hstep hnil =>
      cases hnil
      cases hstep with
      | rotation =>
        exact fun slot f hf => (htimely slot f hf).imp_right fun ⟨n, hn, hcurrent⟩ =>
          ⟨n, hn.trans (Nat.le_succ _), hcurrent⟩
      | incident harchive hpass htells =>
        cases harchive with
        | answered _ => exact htimely
        | written _ => exact hpass.elim
        | removed => exact hpass.elim
        | @replaced i e slot f _ _ hmethod hpath hstored hbody hversion hworkload hfresh =>
          have hstep : Step versions r s₀ (.incident (.replaced i e slot f)) _ :=
            .incident (.replaced hmethod hpath hstored hbody hversion hworkload hfresh) hpass htells
          obtain ⟨_, _, _, _, _, s₁, s₂, -, -, -, hfetched, hlater, -, -, hstamped, -⟩ :=
            h.exists_fetch hts hstep
          intro slot' g hg
          by_cases heq : slot' = slot
          · subst heq
            rw [Archive.past_store_self, List.mem_cons] at hg
            rcases hg with rfl | hg
            · exact .inr ⟨s₁.round, hfetched.round_le.trans hlater.round_le,
                isCurrent_of_workload_eq hstamped⟩
            · exact htimely _ g hg
          · rw [Archive.past_store_of_ne heq] at hg
            exact htimely slot' g hg

end Rotated

/-- **A stamp goes back only past a fetch.** An accepted update writes the version that the secret
had when the pass fetched it. If it replaces the stamp of a younger version, then either the
workload has been stored unchanged from the beginning, with this stamp, or the pass is one over all
kinds, and the workload was given this stamp only after the pass had fetched the secret. -/
theorem stamp_goes_back_only_past_fetch {versions : Nat → String}
    (hversions : Function.Injective versions) {r : SecretRef} {plans : ι → Plan}
    {start : (slot : Slot) → Option (Filed slot)} {before after : List (Turn ι)} {i : ι}
    {e : Exchange} {slot : Slot} {f : Filed slot}
    (h : Rotated versions r plans start (before ++ .incident (.replaced i e slot f) :: after)) :
    ∃ (s s₁ : Scene) (old : Filed slot) (earlier later : List (Turn ι)) (m : Incident ι)
      (x : Exchange),
      Scene.Run versions r (.initial start) before s ∧ s.archive.stored slot = some old ∧
      before = earlier ++ .incident m :: later ∧ m.exchange? i = some x ∧
      Request.fetch r = .ok x.request ∧ Scene.Run versions r (.initial start) earlier s₁ ∧
      f.workload.stamp? (stampKey r.name) = some ⟨versions s₁.round⟩ ∧
      f.workload.templateStamp? (stampKey r.name) = some ⟨versions s₁.round⟩ ∧
      ∀ j, (old.workload.stamp? (stampKey r.name) = some ⟨versions j⟩ ∨
          old.workload.templateStamp? (stampKey r.name) = some ⟨versions j⟩) → s₁.round < j →
        start slot = some old ∨
          (plans i).scope = .all ∧ old ∉ s₁.archive.past slot := by
  obtain ⟨finish, hrun⟩ := h.run
  obtain ⟨s, hbefore, hrest⟩ := hrun.exists_append
  cases hrest with
  | cons hstep _ =>
    obtain ⟨old, earlier, later, m, x, s₁, s₂, hstored, rfl, hearlier, hfetched, hlater, hx, hfetch,
      hworkload, hlisted⟩ := h.exists_fetch hbefore hstep
    have hcurrent := Rotated.isCurrent_of_workload_eq hworkload
    refine ⟨s, s₁, old, earlier, later, m, x, hbefore, hstored, rfl, hx, hfetch, hearlier,
      hcurrent.1, hcurrent.2, fun j hj hlt => ?_⟩
    by_contra hnot
    obtain ⟨hstart, hpast⟩ := not_or.1 hnot
    have hpast : old ∈ s₁.archive.past slot := by
      by_contra hnew
      exact hnew (hlisted fun hscope => hpast ⟨hscope, hnew⟩)
    rw [List.append_assoc] at h
    rcases h.timely hearlier slot old hpast with hold | ⟨n, hn, hold⟩
    · exact hstart hold
    · have hsame : versions j = versions n := by
        rcases hj with hj | hj
        · exact congrArg Stamp.text (Option.some.inj (hj.symm.trans hold.1))
        · exact congrArg Stamp.text (Option.some.inj (hj.symm.trans hold.2))
      have := hversions hsame
      omega

/-! ### A sample of a stamp that goes back -/

/-- Whoever fetches the secret is told what the server offers. -/
theorem Offers.tells {answer : Request → Reply} {scope : Scope} {r : SecretRef} {pageSize : Nat}
    {secret : Secret} {t : Target} {ws : (k : Kind) → List (Workload k)}
    (h : Offers answer scope r pageSize secret t ws) (hname : t.name = r.name) (request : Request) :
    Tells r t.stamp.text (exchangeBy answer request) := by
  intro found hrequest hread
  have hfound : found = secret :=
    h.eq_of_fetched (answeredBy_map answer [request]) ⟨_, List.mem_cons_self, hrequest, hread⟩
  rw [hfound, ← hname]
  exact Secret.of_target?_eq_some h.target

/-- A request with a query does not fetch the secret. -/
theorem tells_of_query {r : SecretRef} (hns : IsName r.ns) (hname : IsName r.name) {e : Exchange}
    (h : e.request.address.query ≠ none) (version : String) : Tells r version e := by
  intro _ hrequest _
  have hfetch := (Request.fetch_eq hns hname).symm.trans hrequest
  rw [← Except.ok.inj hfetch] at h
  exact absurd rfl h

namespace Scene

variable {versions : Nat → String} {r : SecretRef} {s : Scene} {a : Archive} {i : ι} {e : Exchange}

theorem step_answered (h : Archive.Step s.archive (.answered i e) a)
    (htells : Tells r (versions s.round) e) :
    Step versions r s (.incident (.answered i e)) ⟨a, s.round⟩ := by
  refine .incident h trivial fun j e' he' => ?_
  obtain ⟨-, he'⟩ := Option.ite_none_right_eq_some.1 he'
  cases he'
  exact htells

theorem step_replaced {slot : Slot} {f : Filed slot}
    (h : Archive.Step s.archive (.replaced i e slot f) a) (htells : Tells r (versions s.round) e) :
    Step versions r s (.incident (.replaced i e slot f)) ⟨a, s.round⟩ := by
  refine .incident h trivial fun j e' he' => ?_
  obtain ⟨-, he'⟩ := Option.ite_none_right_eq_some.1 he'
  cases he'
  exact htells

end Scene

namespace Sample

/-- The versions of a secret: one letter more with every rotation. -/
def rotatedVersion (n : Nat) : String := String.ofList (List.replicate (n + 1) 'v')

theorem rotatedVersion_injective : Function.Injective rotatedVersion := by
  intro m n h
  have hlength := congrArg String.length h
  simpa [rotatedVersion] using hlength

/-- The secret after some rotations. -/
def rotatedSecret (n : Nat) : Secret := managedSecret "prod" "db" (rotatedVersion n)

/-- The version that the secret has after some rotations. -/
def rotatedTarget (n : Nat) : Target := ⟨"db", ⟨rotatedVersion n⟩⟩

/-- A deployment that consumes the secret, as it is stored at first. -/
def unstamped : Filed webSlot :=
  ⟨(consumer "prod" "web" "db").atVersion "1", "1", rfl, rfl, rfl, rfl⟩

/-- The deployment, stamped by a pass that has fetched the secret after a rotation. -/
def stampedYoung : Filed webSlot :=
  ⟨(unstamped.workload.stamped (stampKey "db") ⟨rotatedVersion 1⟩).atVersion "2", "2",
    rfl, rfl, rfl, rfl⟩

/-- The deployment, stamped once more by a pass that had fetched the secret before. -/
def stampedOld : Filed webSlot :=
  ⟨(stampedYoung.workload.stamped (stampKey "db") ⟨rotatedVersion 0⟩).atVersion "3", "3",
    rfl, rfl, rfl, rfl⟩

/-- A pass over all kinds fetches the secret before the rotation and lists the deployment after the
update of the other pass, which is about deployments only. -/
def rotatedPlan : Bool → Plan
  | true => ⟨.all, ⟨"prod", "db"⟩, none, 1, 1⟩
  | false => ⟨.only .deployment, ⟨"prod", "db"⟩, none, 1, 1⟩

/-- What the two passes are told. -/
def rotatedAnswer : Bool → Request → Reply
  | true => offering (rotatedSecret 0) stampedYoung.workload
      (.response 200 (.document stampedOld.document))
  | false => offering (rotatedSecret 1) unstamped.workload
      (.response 200 (.document stampedYoung.document))

/-- What happens up to the update of the pass over all kinds. -/
def rotatedBefore : List (Turn Bool) :=
  [.incident (.answered true (fetched (rotatedAnswer true) ⟨"prod", "db"⟩)),
    .rotation,
    .incident (.answered false (listed (rotatedAnswer false) .deployment)),
    .incident (.answered false (fetched (rotatedAnswer false) ⟨"prod", "db"⟩)),
    .incident (.replaced false
      (updated (rotatedAnswer false) unstamped.workload (rotatedTarget 1)) webSlot stampedYoung),
    .incident (.answered true (listed (rotatedAnswer true) .deployment)),
    .incident (.answered true (listed (rotatedAnswer true) .statefulSet)),
    .incident (.answered true (listed (rotatedAnswer true) .daemonSet))]

/-- The update of the pass over all kinds. -/
def rotatedUpdate : Turn Bool :=
  .incident (.replaced true
    (updated (rotatedAnswer true) stampedYoung.workload (rotatedTarget 0)) webSlot stampedOld)

theorem optsIn_unstamped : unstamped.workload.optsIn = true :=
  beq_iff_eq.2 (annotation?_consumer "prod" "web" "db")

theorem optsIn_stampedYoung : stampedYoung.workload.optsIn = true :=
  (unstamped.workload.optsIn_stamped "db" ⟨rotatedVersion 1⟩).trans optsIn_unstamped

theorem consumes_unstamped : unstamped.workload.consumes "db" = true :=
  consumes_consumer "prod" "web" "db"

theorem consumes_stampedYoung : stampedYoung.workload.consumes "db" = true :=
  (unstamped.workload.consumes_stamped (stampKey "db") ⟨rotatedVersion 1⟩ "db").trans
    consumes_unstamped

theorem isCurrent_stampedYoung : stampedYoung.workload.IsCurrent (rotatedTarget 1) :=
  unstamped.workload.isCurrent_stamped (rotatedTarget 1)

theorem isCurrent_stampedOld : stampedOld.workload.IsCurrent (rotatedTarget 0) :=
  stampedYoung.workload.isCurrent_stamped (rotatedTarget 0)

theorem not_isCurrent_unstamped : ¬ unstamped.workload.IsCurrent (rotatedTarget 1) := by
  rintro ⟨-, htemplate⟩
  cases htemplate

theorem not_isCurrent_stampedYoung : ¬ stampedYoung.workload.IsCurrent (rotatedTarget 0) := by
  rintro ⟨hstamp, -⟩
  have hsame := Option.some.inj (isCurrent_stampedYoung.1.symm.trans hstamp)
  exact absurd (rotatedVersion_injective (congrArg Stamp.text hsame)) (by decide)

theorem offers_rotated_false : Offers (rotatedAnswer false) (.only .deployment) ⟨"prod", "db"⟩ 1
    (rotatedSecret 1) (rotatedTarget 1) (alone unstamped.workload) :=
  offers_offering _ (target?_managedSecret ..) rfl isName_db _

theorem offers_rotated_true : Offers (rotatedAnswer true) .all ⟨"prod", "db"⟩ 1
    (rotatedSecret 0) (rotatedTarget 0) (alone stampedYoung.workload) :=
  offers_offering _ (target?_managedSecret ..) rfl isName_db _

/-- What the pass over the deployments exchanges. -/
theorem transcript_rotated_false : (rotatedPlan false).Transcript
    [listed (rotatedAnswer false) .deployment, fetched (rotatedAnswer false) ⟨"prod", "db"⟩,
      updated (rotatedAnswer false) unstamped.workload (rotatedTarget 1)] := by
  have hexchanges := exchanges_only (rotatedAnswer false) "db" optsIn_unstamped
    (t := rotatedTarget 1) consumes_unstamped not_isCurrent_unstamped rfl
  have htranscript := Plan.transcript_of_offers offers_rotated_false none
  exact (congrArg (rotatedPlan false).Transcript hexchanges).mp htranscript

/-- What the pass over all kinds exchanges. -/
theorem transcript_rotated_true : (rotatedPlan true).Transcript
    [fetched (rotatedAnswer true) ⟨"prod", "db"⟩, listed (rotatedAnswer true) .deployment,
      listed (rotatedAnswer true) .statefulSet, listed (rotatedAnswer true) .daemonSet,
      updated (rotatedAnswer true) stampedYoung.workload (rotatedTarget 0)] := by
  have hexchanges := exchanges_all (rotatedAnswer true) "db" optsIn_stampedYoung
    (t := rotatedTarget 0) consumes_stampedYoung not_isCurrent_stampedYoung rfl
  have htranscript := Plan.transcript_of_offers offers_rotated_true none
  exact (congrArg (rotatedPlan true).Transcript hexchanges).mp htranscript

theorem fresh_unstamped : (Archive.initial (startingWith unstamped)).Fresh webSlot "2" := by
  intro g hg
  rw [past_startingWith] at hg
  rw [List.mem_singleton.1 hg]
  decide

theorem fresh_stampedYoung :
    ((Archive.initial (startingWith unstamped)).store webSlot stampedYoung).Fresh webSlot "3" := by
  intro g hg
  rw [Archive.past_store_self, past_startingWith] at hg
  rcases List.mem_cons.1 hg with rfl | hg
  · decide
  · rw [List.mem_singleton.1 hg]
    decide

theorem mem_past_unstamped :
    unstamped ∈ (Archive.initial (startingWith unstamped)).past webSlot := by
  rw [past_startingWith]
  exact List.mem_cons_self

/-- Any server may answer a request for a secret. -/
theorem step_fetched (a : Archive) (i : Bool) (secret : Secret) (w : Workload .deployment)
    (update : Reply) (r : SecretRef) :
    Archive.Step a (.answered i (fetched (offering secret w update) r)) a := by
  refine .answered fun _ item hitem => ?_
  have hitems : (offering secret w update (.forSecret r)).items = [] := Reply.items_secret secret
  have hitem : item ∈ (offering secret w update (.forSecret r)).items := hitem
  rw [hitems] at hitem
  cases hitem

/-- Up to the update of the pass over all kinds, the other pass has stamped the deployment. -/
theorem run_rotatedBefore : Scene.Run rotatedVersion ⟨"prod", "db"⟩
    (.initial (startingWith unstamped)) rotatedBefore
    ⟨(Archive.initial (startingWith unstamped)).store webSlot stampedYoung, 1⟩ := by
  have htells {i : Bool} {k : Kind} {n : Nat} :
      Tells ⟨"prod", "db"⟩ (rotatedVersion n) (listed (rotatedAnswer i) k) :=
    tells_of_query isName_prod isName_db (Option.some_ne_none _) _
  have hfetched : Tells ⟨"prod", "db"⟩ (rotatedVersion 0)
      (fetched (rotatedAnswer true) ⟨"prod", "db"⟩) := offers_rotated_true.tells rfl _
  have hfetchedLate : Tells ⟨"prod", "db"⟩ (rotatedVersion 1)
      (fetched (rotatedAnswer false) ⟨"prod", "db"⟩) := offers_rotated_false.tells rfl _
  have hupdated : Tells ⟨"prod", "db"⟩ (rotatedVersion 1)
      (updated (rotatedAnswer false) unstamped.workload (rotatedTarget 1)) :=
    tells_of_query isName_prod isName_db (Option.some_ne_none _) _
  have hyoung : stampedYoung ∈
      ((Archive.initial (startingWith unstamped)).store webSlot stampedYoung).past webSlot := by
    rw [Archive.past_store_self]
    exact List.mem_cons_self
  exact .cons (Scene.step_answered (step_fetched ..) hfetched)
    (.cons .rotation
      (.cons (Scene.step_answered (step_offering mem_past_unstamped _ _ _ _) htells)
        (.cons (Scene.step_answered (step_offering mem_past_unstamped _ _ _ _) hfetchedLate)
          (.cons (Scene.step_replaced
            (step_updated (stored_startingWith unstamped) fresh_unstamped rfl _ _) hupdated)
            (.cons (Scene.step_answered (step_offering hyoung _ _ _ _) htells)
              (.cons (Scene.step_answered (step_offering hyoung _ _ _ _) htells)
                (.cons (Scene.step_answered (step_offering hyoung _ _ _ _) htells) (.nil _))))))))

theorem rotated : Rotated rotatedVersion ⟨"prod", "db"⟩ rotatedPlan (startingWith unstamped)
    (rotatedBefore ++ rotatedUpdate :: []) where
  run := by
    have htells : Tells ⟨"prod", "db"⟩ (rotatedVersion 1)
        (updated (rotatedAnswer true) stampedYoung.workload (rotatedTarget 0)) :=
      tells_of_query isName_prod isName_db (Option.some_ne_none _) _
    exact ⟨_, run_rotatedBefore.append (.cons (Scene.step_replaced
      (step_updated (Archive.stored_store_self _) fresh_stampedYoung rfl _ _) htells) (.nil _))⟩
  inOrder i := by
    cases i with
    | true =>
      refine ⟨_, transcript_rotated_true, [_, _, _, _], [_], rfl, ?_, ?_,
        .inr ⟨[_], .refl _, rfl⟩⟩
      · refine List.forall_mem_cons.2 ⟨rfl, List.forall_mem_cons.2 ⟨rfl,
          List.forall_mem_cons.2 ⟨rfl, List.forall_mem_singleton.2 rfl⟩⟩⟩
      · exact List.forall_mem_singleton.2 rfl
    | false =>
      refine ⟨_, transcript_rotated_false, [_, _], [_], rfl, ?_, ?_, .inr ⟨[_], .refl _, rfl⟩⟩
      · exact List.forall_mem_cons.2 ⟨rfl, List.forall_mem_singleton.2 rfl⟩
      · exact List.forall_mem_singleton.2 rfl
  secret_eq i := by cases i <;> rfl

/-- **A stamp goes back.** The pass over all kinds replaces the younger stamp by the older one. -/
theorem stamp_goes_back :
    Rotated rotatedVersion ⟨"prod", "db"⟩ rotatedPlan (startingWith unstamped)
      (rotatedBefore ++ rotatedUpdate :: []) ∧
    (∃ s, Scene.Run rotatedVersion ⟨"prod", "db"⟩ (.initial (startingWith unstamped))
      rotatedBefore s ∧ s.archive.stored webSlot = some stampedYoung) ∧
    stampedYoung.workload.stamp? (stampKey "db") = some ⟨rotatedVersion 1⟩ ∧
    stampedYoung.workload.templateStamp? (stampKey "db") = some ⟨rotatedVersion 1⟩ ∧
    stampedOld.workload.stamp? (stampKey "db") = some ⟨rotatedVersion 0⟩ ∧
    stampedOld.workload.templateStamp? (stampKey "db") = some ⟨rotatedVersion 0⟩ :=
  ⟨rotated, ⟨_, run_rotatedBefore, Archive.stored_store_self _⟩, isCurrent_stampedYoung.1,
    isCurrent_stampedYoung.2, isCurrent_stampedOld.1, isCurrent_stampedOld.2⟩

/-- It goes back only because the younger stamp was written after the pass had fetched the secret,
which had not been rotated then. -/
theorem stamped_after_fetch :
    ∃ (s₁ : Scene) (earlier later : List (Turn Bool)), rotatedBefore = earlier ++ later ∧
      Scene.Run rotatedVersion ⟨"prod", "db"⟩ (.initial (startingWith unstamped)) earlier s₁ ∧
      s₁.round = 0 ∧ stampedYoung ∉ s₁.archive.past webSlot := by
  obtain ⟨s, s₁, old, earlier, later, m, x, hrun, hstored, hbefore, -, -, hearlier, hstamp, -,
    hback⟩ := stamp_goes_back_only_past_fetch rotatedVersion_injective rotated
  have hround : s₁.round = 0 := by
    have hsame := Option.some.inj (hstamp.symm.trans isCurrent_stampedOld.1)
    exact rotatedVersion_injective (congrArg Stamp.text hsame)
  have hold : old = stampedYoung := by
    rw [hrun.eq_of_run run_rotatedBefore, Archive.stored_store_self] at hstored
    exact (Option.some.inj hstored).symm
  subst hold
  rcases hback 1 (.inl isCurrent_stampedYoung.1) (by omega) with hstart | ⟨-, hpast⟩
  · have hsame := Option.some.inj ((stored_startingWith unstamped).symm.trans hstart)
    exact absurd (congrArg Filed.version hsame) (by decide)
  · exact ⟨s₁, earlier, _, hbefore, hearlier, hround, hpast⟩

end Sample

end SecretRotation
