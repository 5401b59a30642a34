import Mathlib.Data.List.Nodup
import SecretRotation.Proofs.Api.Provenance
import SecretRotation.Proofs.Api.Recording
import SecretRotation.Proofs.Store.Units

/-!
# Several copies of a workload in a listing

A list that is read page by page may hold a workload more than once, and its copies may differ: one
may have opted in and another not, one may consume the secret and another not. Of the copies that
take part in a pass the last one is the unit of work, whatever copies come after it that do not take
part. So there is one unit for each identity, and the order of a listing matters only among copies
of one workload that take part.

## Main definitions

* `Workload.TakesPart`, `Listing.copies`: the copies of a workload that take part.

## Main results

* `Listing.get?_eligible`: the unit of an identity is the last of its copies that take part.
* `Listing.mem_units_iff`: the units, by where they stand in the listing.
* `Listing.bringUpToDate_eq`: which changes of a listing do not matter.
* `Listing.one_unit_per_identity`: the units of a listing, and what is done about them.
-/

namespace SecretRotation

variable {k : Kind}

/-- A workload takes part in passes for a secret: it opted in, and it consumes the secret. -/
def Workload.TakesPart (w : Workload k) (secretName : String) : Prop :=
  w.optsIn = true ∧ w.consumes secretName = true

instance (w : Workload k) (secretName : String) : Decidable (w.TakesPart secretName) :=
  inferInstanceAs (Decidable (_ ∧ _))

theorem Workload.decide_takesPart (w : Workload k) (secretName : String) :
    decide (w.TakesPart secretName) = (w.optsIn && w.consumes secretName) := by
  rw [Bool.eq_iff_iff, decide_eq_true_iff, TakesPart, Bool.and_eq_true_iff]

namespace Listing

variable {l : Listing} {secretName : String}

/-- The copies of a workload that take part in passes for a secret, in the order of the listing. -/
def copies (l : Listing) (secretName : String) (i : Identity) : List (Workload l.kind) :=
  l.workloads.filter fun w => w.TakesPart secretName ∧ w.identity = i

/-! ### Units -/

/-- **The unit of an identity is the last of its copies that take part.** -/
theorem get?_eligible (l : Listing) (secretName : String) (i : Identity) :
    (l.eligible secretName).get? i = (l.copies secretName i).getLast? := by
  rw [eligible, OrderedMap.get?_ofList, List.filter_map, List.filter_filter, List.getLast?_map,
    Option.map_map]
  have hcopies : (l.workloads.filter fun w =>
      decide (w.identity = i) && (w.optsIn && w.consumes secretName)) = l.copies secretName i :=
    List.filter_congr fun w _ => by
      rw [Bool.decide_and, Workload.decide_takesPart, Bool.and_comm]
  exact (congrArg (fun ws => Option.map id (List.getLast? ws)) hcopies).trans Option.map_id'

/-- The units are in ascending order of their identities. -/
theorem pairwise_units (l : Listing) (secretName : String) :
    (l.eligible secretName).values.Pairwise fun v w => compare v.identity w.identity = .lt := by
  refine List.pairwise_map.2 ((l.eligible secretName).ascending.imp_of_mem fun hd he hlt => ?_)
  rwa [(of_mem_entries hd).2, (of_mem_entries he).2]

/-- A workload is a unit if it takes part and no later copy of it does. -/
theorem mem_units_iff {w : Workload l.kind} :
    w ∈ (l.eligible secretName).values ↔
      ∃ before after, l.workloads = before ++ w :: after ∧ w.TakesPart secretName ∧
        ∀ v ∈ after, v.TakesPart secretName → v.identity ≠ w.identity := by
  constructor
  · intro h
    obtain ⟨before, after, hsplit, hoptsIn, hconsumes, hafter⟩ := exists_last_of_mem_eligible h
    exact ⟨before, after, hsplit, ⟨hoptsIn, hconsumes⟩, fun v hv ⟨hv', hv''⟩ =>
      hafter v hv hv' hv''⟩
  · rintro ⟨before, after, hsplit, hw, hafter⟩
    have hlater : after.filter (fun v => v.TakesPart secretName ∧ v.identity = w.identity) = [] :=
      List.filter_eq_nil_iff.2 fun v hv h => (of_decide_eq_true h).elim (hafter v hv)
    have hget : (l.eligible secretName).get? w.identity = some w := by
      rw [get?_eligible, copies, hsplit, List.filter_append, List.filter_cons,
        if_pos (decide_eq_true ⟨hw, rfl⟩), hlater, List.getLast?_concat]
    exact List.mem_map.2 ⟨(w.identity, w), OrderedMap.mem_entries_iff.2 hget, rfl⟩

/-- An identity has a unit if some copy takes part. -/
theorem exists_unit_iff {i : Identity} :
    (∃ w ∈ (l.eligible secretName).values, w.identity = i) ↔
      ∃ w ∈ l.workloads, w.TakesPart secretName ∧ w.identity = i := by
  rw [← List.mem_map, map_identity_units, eligible, OrderedMap.mem_keys_ofList, List.map_map,
    List.mem_map]
  simp only [List.mem_filter, Bool.and_eq_true, Workload.TakesPart, Function.comp_apply, and_assoc]

/-- There are as many units as there are identities with a copy that takes part. -/
theorem length_units (l : Listing) (secretName : String) :
    (l.eligible secretName).values.length = ((l.workloads.filter fun w =>
      w.TakesPart secretName).map Workload.identity).dedup.length := by
  have hfilter : (l.workloads.filter fun w => decide (w.TakesPart secretName)) =
      l.workloads.filter fun w => w.optsIn && w.consumes secretName :=
    List.filter_congr fun w _ => w.decide_takesPart secretName
  have hsize := OrderedMap.size_ofList ((l.workloads.filter fun w =>
    w.optsIn && w.consumes secretName).map fun w => (w.identity, w))
  rw [List.map_map] at hsize
  rw [hfilter, OrderedMap.values, List.length_map]
  exact hsize

/-! ### Changes of a listing that do not matter -/

/-- Only the copies that take part decide about the units. -/
theorem eligible_eq_of_copies {ws : List (Workload l.kind)}
    (h : ∀ i, (Listing.mk l.kind ws).copies secretName i = l.copies secretName i) :
    (Listing.mk l.kind ws).eligible secretName = l.eligible secretName :=
  OrderedMap.ext_get? fun i => by
    rw [get?_eligible, get?_eligible]
    exact congrArg List.getLast? (h i)

/-- **In which order a listing comes matters only among copies of one workload that take part.** -/
theorem bringUpToDate_eq {ws : List (Workload l.kind)} {t : Target}
    (hperm : ws.Perm l.workloads)
    (hcopies : ∀ i, (Listing.mk l.kind ws).copies t.name i = l.copies t.name i)
    {m : Type → Type} [Monad m] (access : ClusterAccess m) (limit : Option Nat) :
    bringUpToDate access limit t ⟨l.kind, ws⟩ = bringUpToDate access limit t l := by
  simp only [bringUpToDate, eligible_eq_of_copies hcopies, hperm.length_eq]

/-! ### Updates -/

theorem nodup_slots_replacements (t : Target) (l : Listing) :
    ((l.replacements t).map fun w => w.2.slot).Nodup := by
  refine List.pairwise_map.2 ((l.pairwise_units t.name).filterMap (Workload.replacement? t) ?_)
  intro v w hlt v' hv w' hw heq
  rw [(Workload.replacement?_eq_some_iff.1 hv).2, (Workload.replacement?_eq_some_iff.1 hw).2] at heq
  have hidentity : v.identity = w.identity := congrArg Slot.identity heq
  have hself : compare w.identity w.identity = .eq := Std.ReflCmp.compare_self
  rw [hidentity, hself] at hlt
  cases hlt

/-- Listings of different kinds have no slot in common. -/
theorem nodup_slots_flatMap (t : Target) {ls : List Listing} (h : (ls.map Listing.kind).Nodup) :
    ((ls.flatMap (Listing.replacements t)).map fun w => w.2.slot).Nodup := by
  rw [List.map_flatMap]
  refine List.nodup_flatMap.2 ⟨fun l _ => l.nodup_slots_replacements t, ?_⟩
  refine (List.pairwise_map.1 h).imp fun {l l'} hne slot hl hl' => hne ?_
  have hkind (l : Listing) (hl : slot ∈ (l.replacements t).map fun w => w.2.slot) :
      slot.kind = l.kind := by
    obtain ⟨w, hw, rfl⟩ := List.mem_map.1 hl
    obtain ⟨v, -, hv⟩ := List.mem_filterMap.1 hw
    rw [(Workload.replacement?_eq_some_iff.1 hv).2]
    rfl
  rw [← hkind l hl, hkind l' hl']

end Listing

/-- The kind of the workloads that are read, if it is workloads that are read. -/
def Reading.kind? : Reading → Option Kind
  | .secret => none
  | .workloads k => some k

/-- A pass that has read what it needs has a listing of each kind that it is about. -/
theorem kinds_of_found {r : SecretRef} {pageSize bound : Nat} {readings : List Reading}
    {parts : List (Finding × List Exchange)} (h : Found r pageSize bound readings parts) :
    ((parts.map Prod.fst).filterMap Finding.listing?).map Listing.kind =
      readings.filterMap Reading.kind? := by
  induction h with
  | nil => rfl
  | @cons reading part readings parts hpart _ ih =>
    obtain ⟨finding, es⟩ := part
    cases hpart with
    | target => exact ih
    | listing => exact congrArg (_ :: ·) ih

theorem Surveyed.map_kind {r : SecretRef} {pageSize bound : Nat} {scope : Scope} {t : Target}
    {ls : List Listing} {reads : List Exchange}
    (h : Surveyed r pageSize bound Gathered scope.readings (.ok (.ok (t, ls))) reads) :
    ls.map Listing.kind = scope.kinds := by
  generalize hreadings : scope.readings = readings at h
  cases h with
  | complete hfound hmade =>
    have hls : _ = ls := hmade.2
    rw [← hls, kinds_of_found hfound, ← hreadings]
    cases scope <;> rfl

/-- Some exchanges are updates of workloads, at most one for each slot. -/
def AtMostOnce (updates : List Exchange) : Prop :=
  ∃ asked : List AnyWorkload, updates.map (·.request) = asked.filterMap AnyWorkload.request? ∧
    (asked.map fun w => w.2.slot).Nodup

theorem Concluded.atMostOnce {r : SecretRef} {pageSize bound : Nat} {scope : Scope}
    {survey : Except Endless (Except Failure (Target × List Listing))}
    {result : Except Endless (Except Failure Report)} {reads updates : List Exchange}
    (h : Surveyed r pageSize bound Gathered scope.readings survey reads)
    (hconcluded : Concluded survey result updates) : AtMostOnce updates := by
  rcases survey with ⟨⟩ | failure | ⟨t, ls⟩
  · exact ⟨[], congrArg _ (hconcluded.eq_nil nofun), List.nodup_nil⟩
  · exact ⟨[], congrArg _ (hconcluded.eq_nil nofun), List.nodup_nil⟩
  · have hkinds : (ls.map Listing.kind).Nodup := by
      rw [h.map_kind]
      exact scope.pairwise_kinds.imp fun hlt heq => Nat.ne_of_lt hlt (congrArg Kind.rank heq)
    refine ⟨ls.flatMap (Listing.replacements t), ?_, Listing.nodup_slots_flatMap t hkinds⟩
    rw [hconcluded.map_request, List.filterMap_flatMap]
    rfl

/-- **One unit for each identity.** The units of a listing are the last copies, in ascending order
of their identities, of the workloads of which a copy takes part. Each of them is worked off once,
in this order, against any server: a current one is left alone, any other is updated. All that was
listed and all that has a unit is counted. Listings in a different order come to the same, as long
as the copies of each workload that take part are in the same order. No workload is updated twice in
a pass, be it over one kind or over all. -/
theorem Listing.one_unit_per_identity (t : Target) (l : Listing) :
    let units := (l.eligible t.name).values
    (∀ w, w ∈ units ↔ ∃ before after, l.workloads = before ++ w :: after ∧ w.TakesPart t.name ∧
      ∀ v ∈ after, v.TakesPart t.name → v.identity ≠ w.identity) ∧
    (∀ i, (∃ w ∈ units, w.identity = i) ↔
      ∃ w ∈ l.workloads, w.TakesPart t.name ∧ w.identity = i) ∧
    units.Pairwise (fun v w => compare v.identity w.identity = .lt) ∧
    (∀ (σ : Type) (b : Behaviour σ) (pageSize bound : Nat) (limit : Option Nat) (s : σ),
      let run := (bringUpToDate (b.api.access pageSize bound) limit t l).run.run (s, [])
      ∃ (tally : Tally) (parts : List (Handled Exchange (Workload l.kind) (Except Failure Bool))),
        run.1 = .ok tally ∧ parts.map Handled.item = units ∧
        (∀ p ∈ parts, p.item.Handles exchangedFor t p.result p.notes) ∧
        run.2.2 = parts.flatMap Handled.notes ∧
        tally.Similar (.ofResults l.workloads.length
          (parts.map fun p => (p.item.title, p.result))) ∧
        tally.report.listed = l.workloads.length ∧
        tally.report.eligible = ((l.workloads.filter fun w => w.TakesPart t.name).map
          Workload.identity).dedup.length) ∧
    (∀ ws : List (Workload l.kind), ws.Perm l.workloads →
      (∀ i, (Listing.mk l.kind ws).copies t.name i = l.copies t.name i) →
      ∀ (m : Type → Type) [Monad m] (access : ClusterAccess m) (limit : Option Nat),
        bringUpToDate access limit t ⟨l.kind, ws⟩ = bringUpToDate access limit t l) ∧
    (∀ (σ : Type) (b : Behaviour σ) (pageSize bound : Nat) (limit : Option Nat) (scope : Scope)
      (r : SecretRef) (s : σ),
      let run := (runPass (b.api.access pageSize bound) limit scope r).run.run (s, [])
      ∃ reads updates, run.2.2 = reads ++ updates ∧ HaveMethod "GET" reads ∧
        AtMostOnce updates) := by
  intro units
  refine ⟨fun w => mem_units_iff, fun i => exists_unit_iff, l.pairwise_units t.name, ?_,
    fun ws hperm hcopies m _ access limit => bringUpToDate_eq hperm hcopies access limit, ?_⟩
  · intro σ b pageSize bound limit s run
    obtain ⟨new, hrun, hnotes⟩ := (b.recording.writing pageSize bound).leaves_bringUpToDate limit
      (t := t) (l := l) (fun _ _ _ => trivial) [] (s, []) rfl
    obtain ⟨tally, htally, parts, hitems, hall, rfl, hsimilar⟩ := hrun.exists_eq_ok
    refine ⟨tally, parts, htally, hitems, hall, hnotes, hsimilar, ?_, ?_⟩
    · rw [hsimilar.report_eq]
      rfl
    · rw [hsimilar.report_eq, ← l.length_units, ← hitems, List.length_map, Tally.ofResults,
        List.length_map]
  · intro σ b pageSize bound limit scope r s run
    obtain ⟨es, ⟨survey, reads, updates, rfl, hreads, hconcluded⟩, hnotes⟩ :=
      b.recording.leaves_runPass pageSize bound limit scope r [] (s, []) rfl
    exact ⟨reads, updates, hnotes, hreads.haveMethod, hconcluded.atMostOnce hreads⟩

end SecretRotation
