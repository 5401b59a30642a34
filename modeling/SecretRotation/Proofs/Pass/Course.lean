import SecretRotation.Pass.Run
import SecretRotation.Proofs.OrderedMap
import SecretRotation.Proofs.Pass.Schedule
import SecretRotation.Proofs.Pass.Tally
import SecretRotation.Proofs.Stamping

/-!
# The course of a pass

The writing part of a pass over given listings, whatever the answers to its updates are and whoever
schedules its units. For each listing in turn, the workloads that take part are the units of a
fan-out, and any schedule of it is a possible course; what becomes of a workload depends on the
answer to its own update only.

All courses come to the same: which schedules they follow, and what limit there is on updates under
way, shows in nothing but the order of the failures.

## Main definitions

* `Answers`, `Workload.result`: the answers to updates, and what becomes of a workload.
* `Listing.units`: the workloads of a listing that take part.
* `Workload.replacement?`: the update of a workload, unless it is current.
* `Listing.WorkedOff`, `Course`: a listing is worked off by some schedule, and so are several.
* `SameOutcome`: outcomes that differ at most in the order of failures.

## Main results

* `counts_tallyOf`: what is counted of the units.
* `Course.same`: all courses come to the same.
* `Course.begun_eq`, `Course.ended_perm`: every update is asked for once, and comes to its end.
* `Course.keeps`: at no time are more updates under way than there may be.
-/

namespace SecretRotation

open FanOut (Keeps Mark Path)

variable {k : Kind}

/-! ### Single workloads -/

/-- The answers to updates, for each workload that may be asked for. -/
abbrev Answers := (k : Kind) → Workload k → Except Fault (Workload k)

namespace Workload

/-- What becomes of a workload that takes part, if updates are answered in a given way. -/
def result (answer : Answers) (t : Target) (w : Workload k) : Except Failure Bool :=
  match w.verdict t with
  | .current => .ok false
  | .outdated _ replacement =>
    match answer k replacement with
    | .ok _ => .ok true
    | .error fault => .error (.updating w.title fault)

/-- The workload that an update is asked for with; none, if a workload is current. -/
def replacement? (t : Target) (w : Workload k) : Option AnyWorkload :=
  if w.IsCurrent t then none else some ⟨k, w.stamped t.key t.stamp⟩

theorem replacement?_eq_some_iff {w : Workload k} {t : Target} {u : AnyWorkload} :
    w.replacement? t = some u ↔ ¬ w.IsCurrent t ∧ u = ⟨k, w.stamped t.key t.stamp⟩ := by
  rw [replacement?]
  by_cases h : w.IsCurrent t
  · simp [h]
  · simp [h, eq_comm]

end Workload

/-! ### Courses -/

namespace Listing

/-- How many units of a listing may be under way at a time. -/
def width (limit : Option Nat) (t : Target) (l : Listing) : Nat :=
  fanOutWidth limit (l.eligible t.name).size

theorem width_pos (limit : Option Nat) (t : Target) (l : Listing) : 0 < l.width limit t :=
  Nat.le_max_left 1 _

/-- A limit that asks for some number of units allows that many. -/
theorem width_eq (t : Target) (l : Listing) {n : Nat} (hn : 0 < n) :
    l.width (limitOfSetting (some n)) t = n := by
  have hlimit : limitOfSetting (some n) = some n := by
    simp [limitOfSetting, Nat.pos_iff_ne_zero.1 hn]
  rw [width, hlimit]
  exact Nat.max_eq_right hn

/-- The units of a listing: the workloads that take part in a pass for a secret. -/
def units (l : Listing) (secretName : String) : List AnyWorkload :=
  (l.eligible secretName).values.map (Sigma.mk l.kind)

/-- The units of a listing are workloads of it, kept under their identities. -/
theorem of_mem_entries {l : Listing} {secretName : String} {e : Identity × Workload l.kind}
    (he : e ∈ (l.eligible secretName).entries) : e.2 ∈ l.workloads ∧ e.2.identity = e.1 := by
  refine OrderedMap.forall_mem_entries_ofList
    (p := fun e => e.2 ∈ l.workloads ∧ e.2.identity = e.1) (fun e he => ?_) e he
  obtain ⟨w, hw, rfl⟩ := List.mem_map.1 he
  exact ⟨List.mem_of_mem_filter hw, rfl⟩

theorem map_identity_units (l : Listing) (secretName : String) :
    (l.eligible secretName).values.map Workload.identity = (l.eligible secretName).keys := by
  rw [OrderedMap.values, List.map_map]
  exact List.map_congr_left fun e he => (of_mem_entries he).2

/-- No two units of a listing are about the same workload. -/
theorem nodup_identity (l : Listing) (secretName : String) :
    ((l.eligible secretName).values.map Workload.identity).Nodup := by
  rw [map_identity_units]
  exact OrderedMap.nodup_keys _

/-- What becomes of the workloads that take part, in their order. -/
def results (t : Target) (answer : Answers) (l : Listing) : List (String × Except Failure Bool) :=
  (l.eligible t.name).values.map fun w => (w.title, w.result answer t)

/-- The updates of the workloads that take part, in their order. -/
def replacements (t : Target) (l : Listing) : List AnyWorkload :=
  (l.eligible t.name).values.filterMap (Workload.replacement? t)

/-- A listing is worked off by some schedule, which leaves a tally and the marks of updates. -/
def WorkedOff (limit : Option Nat) (t : Target) (answer : Answers) (l : Listing)
    (part : Tally × List (Mark AnyWorkload)) : Prop :=
  ∃ ms done, Path (l.width limit t) (.initial (l.eligible t.name).values) ms (.final done) ∧
    part = (.ofResults l.workloads.length (done.map fun w => (w.title, w.result answer t)),
      ms.filterMap (Mark.filterMap (Workload.replacement? t)))

end Listing

/-- Listings are worked off one after the other; the pass comes to an outcome, and leaves the marks
of updates. -/
def Course (limit : Option Nat) (t : Target) (answer : Answers) (ls : List Listing)
    (outcome : Except Failure Report) (ms : List (Mark AnyWorkload)) : Prop :=
  ∃ parts, List.Forall₂ (Listing.WorkedOff limit t answer) ls parts ∧
    outcome = (Tally.total (parts.map Prod.fst)).outcome ∧ ms = parts.flatMap Prod.snd

/-! ### All courses come to the same -/

/-- What a pass over listings counts and collects, in the order of the workloads. -/
def tallyOf (t : Target) (answer : Answers) (ls : List Listing) : Tally :=
  .ofResults (ls.map (·.workloads.length)).sum (ls.flatMap (Listing.results t answer))

/-- It counts what becomes of the units of all listings. -/
theorem counts_tallyOf (t : Target) (answer : Answers) (ls : List Listing) :
    (tallyOf t answer ls).Counts (ls.flatMap fun l => l.units t.name) (fun w => w.2.title)
      fun w => w.2.result answer t := by
  have hresults : ls.flatMap (Listing.results t answer) =
      (ls.flatMap fun l => l.units t.name).map fun w => (w.2.title, w.2.result answer t) := by
    rw [List.map_flatMap]
    refine List.flatMap_congr fun l _ => ?_
    rw [Listing.units, List.map_map]
    rfl
  rw [tallyOf, hresults]
  exact Tally.counts_ofResults _ _ _ _

/-- Outcomes that differ at most in the order of failures. There is no third way for a pass that has
read all it needed. -/
inductive SameOutcome : Except Failure Report → Except Failure Report → Prop
  | report (report : Report) : SameOutcome (.ok report) (.ok report)
  | failures (eligible : Nat) {failures failures' : List (String × Failure)}
      (h : failures.Perm failures') :
      SameOutcome (.error (.workloads eligible failures)) (.error (.workloads eligible failures'))

theorem Tally.Similar.outcome {a b : Tally} (h : a.Similar b) :
    SameOutcome a.outcome b.outcome := by
  have hempty : a.failures.isEmpty = b.failures.isEmpty := h.failures_perm.isEmpty_eq
  rw [Tally.outcome, Tally.outcome, hempty, h.report_eq]
  split
  · exact .report _
  · exact .failures _ h.failures_perm

section

variable {limit : Option Nat} {t : Target} {answer : Answers}

theorem Listing.similar_of_workedOff {l : Listing} {part : Tally × List (Mark AnyWorkload)}
    (h : l.WorkedOff limit t answer part) :
    part.1.Similar (.ofResults l.workloads.length (l.results t answer)) := by
  obtain ⟨ms, done, hpath, rfl⟩ := h
  exact .ofResults _ (hpath.done_perm.map _)

theorem forall₂_similar : {ls : List Listing} → {parts : List (Tally × List (Mark AnyWorkload))} →
    List.Forall₂ (Listing.WorkedOff limit t answer) ls parts →
      List.Forall₂ Tally.Similar (parts.map Prod.fst)
        (ls.map fun l => .ofResults l.workloads.length (l.results t answer))
  | _, _, .nil => .nil
  | _, _, .cons h hs => .cons (Listing.similar_of_workedOff h) (forall₂_similar hs)

/-- **All courses come to the same**, whatever the limit: to what the workloads come to in their
order. -/
theorem Course.same {ls : List Listing} {outcome : Except Failure Report}
    {ms : List (Mark AnyWorkload)} (h : Course limit t answer ls outcome ms) :
    SameOutcome outcome (tallyOf t answer ls).outcome := by
  obtain ⟨parts, hparts, rfl, -⟩ := h
  have hsimilar := Tally.Similar.total (forall₂_similar hparts)
  rw [Tally.total_map_ofResults] at hsimilar
  exact hsimilar.outcome

end

/-! ### Updates -/

section

variable {limit : Option Nat} {t : Target} {answer : Answers}

theorem Listing.begun_of_workedOff {l : Listing} {part : Tally × List (Mark AnyWorkload)}
    (h : l.WorkedOff limit t answer part) : part.2.filterMap Mark.begun? = l.replacements t := by
  obtain ⟨ms, done, hpath, rfl⟩ := h
  have hbegun : (l.eligible t.name).values = ms.filterMap Mark.begun? ++ [] := hpath.begun_eq
  rw [List.append_nil] at hbegun
  rw [Mark.begun?_filterMap, ← hbegun, replacements]

theorem Listing.ended_of_workedOff {l : Listing} {part : Tally × List (Mark AnyWorkload)}
    (h : l.WorkedOff limit t answer part) :
    (part.2.filterMap Mark.ended?).Perm (l.replacements t) := by
  obtain ⟨ms, done, hpath, rfl⟩ := h
  have hended : done = [] ++ ms.filterMap Mark.ended? := hpath.ended_eq
  rw [List.nil_append] at hended
  rw [Mark.ended?_filterMap, ← hended]
  exact hpath.done_perm.filterMap _

/-- Every update is asked for once, in the order of the workloads. -/
theorem Course.begun_eq {ls : List Listing} {outcome : Except Failure Report}
    {ms : List (Mark AnyWorkload)} (h : Course limit t answer ls outcome ms) :
    ms.filterMap Mark.begun? = ls.flatMap (Listing.replacements t) := by
  obtain ⟨parts, hparts, -, rfl⟩ := h
  induction hparts with
  | nil => rfl
  | cons hpart _ ih =>
    rw [List.flatMap_cons, List.flatMap_cons, List.filterMap_append,
      Listing.begun_of_workedOff hpart, ih]

/-- Every update comes to its end. -/
theorem Course.ended_perm {ls : List Listing} {outcome : Except Failure Report}
    {ms : List (Mark AnyWorkload)} (h : Course limit t answer ls outcome ms) :
    (ms.filterMap Mark.ended?).Perm (ls.flatMap (Listing.replacements t)) := by
  obtain ⟨parts, hparts, -, rfl⟩ := h
  induction hparts with
  | nil => exact .refl _
  | cons hpart _ ih =>
    rw [List.flatMap_cons, List.flatMap_cons, List.filterMap_append]
    exact (Listing.ended_of_workedOff hpart).append ih

/-- At no time are more updates under way than the widths of all listings allow. -/
theorem Course.keeps {n : Nat} {ls : List Listing} {outcome : Except Failure Report}
    {ms : List (Mark AnyWorkload)} (h : Course limit t answer ls outcome ms)
    (hn : ∀ l ∈ ls, l.width limit t ≤ n) : Keeps n ms := by
  obtain ⟨parts, hparts, -, rfl⟩ := h
  induction hparts with
  | nil => exact .nil
  | @cons l part ls parts hpart _ ih =>
    obtain ⟨hl, hls⟩ := List.forall_mem_cons.1 hn
    have hended : (part.2.filterMap Mark.begun?).length =
        (part.2.filterMap Mark.ended?).length := by
      rw [Listing.begun_of_workedOff hpart, (Listing.ended_of_workedOff hpart).length_eq]
    obtain ⟨ms, done, hpath, rfl⟩ := hpart
    exact ((hpath.keeps _).mono hl).append hended (ih hls)

end

end SecretRotation
