import SecretRotation.Proofs.Api.Service
import SecretRotation.Proofs.Store.Errand

/-!
# Server and store agree

A server that serves a store and takes updates as the store does is a mirror of it: an update that
the store would accept is stored and sent back, and one that it would reject is refused. A pass
against such a server comes to what the same pass over the store comes to, asks for the same
updates, and leaves the same workloads behind. Only the failures of single workloads may come in
another order, since updates may end in another order than they begin.

What keeps the two apart is a token for a further page that is too long for the address of a
request: then the page cannot be asked for, and the list fails, while a store lists everything at
once.

## Main definitions

* `Mirrors`: a server takes updates as a store does.
* `putPaths`: where updates are sent to.

## Main results

* `Mirrors.writing`: how updates end.
* `Mirrors.agrees`: what a pass comes to.
-/

namespace SecretRotation

variable {σ : Type} {k : Kind}

/-! ### Mirrors -/

/-- A server that serves a store, as far as passes for a secret are concerned, and takes updates as
the store does. -/
structure Mirrors (usable : Kind → String → Prop) (b : Behaviour σ)
    (held : σ → OrderedMap Slot Json) (s : Store) (r : SecretRef) (pageSize pages : Nat) : Prop
    extends Serves usable b held s r pageSize pages where
  /-- Reading the clock changes nothing that is held. -/
  now (x : σ) : held (b.now x).2 = held x
  /-- Waiting changes nothing that is held. -/
  waitUntil (due : Nat) (x : σ) : held (b.waitUntil due x) = held x
  /-- An update that the store accepts is stored and sent back. -/
  accept {k : Kind} {w : Workload k} (hns : w.identity.ns = r.ns) (hname : IsName w.identity.name)
    (haccepts : s.Accepts w) (x : σ) :
    let document := (Workload.codec k).write w
    let (reply, after) := b.reply (.forUpdate w.slot document) x
    reply.Carries document ∧ held after = (held x).insert w.slot document
  /-- An update that the store rejects is refused. -/
  reject {k : Kind} {w : Workload k} (hns : w.identity.ns = r.ns) (hname : IsName w.identity.name)
    (haccepts : ¬ s.Accepts w) (x : σ) :
    let (reply, after) := b.reply (.forUpdate w.slot ((Workload.codec k).write w)) x
    reply.Reports 409 "Conflict" "the object has been modified" ∧ held after = held x

namespace Store

/-- The workloads of a store after updates have been asked for. -/
def updated (s : Store) (ws : List AnyWorkload) : OrderedMap Slot Json :=
  (ws.filter fun w => s.Accepts w.2).foldl
    (fun m w => m.insert w.2.slot ((Workload.codec w.1).write w.2)) s.workloads

/-- An update is answered as the store answers it, and noted. -/
abbrev answeredBy (s : Store) : Answered AnyWorkload :=
  fun k w answer new => answer = (s.update w).1 ∧ new = [⟨k, w⟩]

theorem updated_concat_of_accepts {s : Store} {w : Workload k} (h : s.Accepts w)
    (ws : List AnyWorkload) :
    s.updated (ws ++ [⟨k, w⟩]) = (s.updated ws).insert w.slot ((Workload.codec k).write w) := by
  simp [updated, List.filter_append, h]

theorem updated_concat_of_not_accepts {s : Store} {w : Workload k} (h : ¬ s.Accepts w)
    (ws : List AnyWorkload) : s.updated (ws ++ [⟨k, w⟩]) = s.updated ws := by
  simp [updated, List.filter_append, h]

theorem accepts_stamped (s : Store) (t : Target) (w : Workload k) :
    s.Accepts (w.stamped t.key t.stamp) ↔ s.Accepts w := by
  rw [Accepts, Accepts, Workload.identity_stamped]

/-- What becomes of a workload if its update is answered by a store. -/
theorem fate_of_handles {s : Store} {t : Target} {w : Workload k} {result : Except Failure Bool}
    {new : List AnyWorkload} (h : w.Handles s.answeredBy t result new) :
    result = s.fate t w ∧ new = (w.replacement? t).toList := by
  have haccepts := accepts_stamped s t w
  cases h with
  | current h => simp [fate, Workload.replacement?, h]
  | updated h hanswer =>
    obtain ⟨hanswer, rfl⟩ := hanswer
    by_cases hw : s.Accepts w
    · simp [fate, Workload.replacement?, h, hw]
    · rw [update_of_not_accepts (haccepts.not.2 hw)] at hanswer
      cases hanswer
  | failed h hanswer =>
    obtain ⟨hanswer, rfl⟩ := hanswer
    by_cases hw : s.Accepts w
    · rw [update_of_accepts (haccepts.2 hw)] at hanswer
      cases hanswer
    · rw [update_of_not_accepts (haccepts.not.2 hw)] at hanswer
      cases hanswer
      simp [fate, Workload.replacement?, h, hw]

/-- What a listing comes to if its updates are answered by a store. -/
theorem tally_of_handles {s : Store} {t : Target} {l : Listing} {tally : Tally}
    {new : List AnyWorkload} (h : l.Handles s.answeredBy t tally new) :
    tally.Similar (s.tally t l) ∧ new = l.replacements t := by
  obtain ⟨parts, hitems, hall, rfl, hsimilar⟩ := h
  have hresults : (parts.map fun p => (p.item.title, p.result)) =
      (l.eligible t.name).values.map fun w => (w.title, s.fate t w) := by
    rw [← hitems, List.map_map]
    exact List.map_congr_left fun p hp => Prod.ext rfl (fate_of_handles (hall p hp)).1
  rw [hresults] at hsimilar
  refine ⟨hsimilar, ?_⟩
  rw [Listing.replacements, ← hitems, List.filterMap_map, List.filterMap_eq_flatMap_toList]
  exact List.flatMap_congr fun p hp => (fate_of_handles (hall p hp)).2

/-- What listings come to if their updates are answered by a store. -/
theorem similar_of_handles {s : Store} {t : Target} {ls : List Listing}
    {parts : List (Tally × List AnyWorkload)}
    (h : List.Forall₂ (fun l p => l.Handles s.answeredBy t p.1 p.2) ls parts) :
    List.Forall₂ Tally.Similar (parts.map Prod.fst) (ls.map (s.tally t)) ∧
      parts.flatMap Prod.snd = ls.flatMap (Listing.replacements t) := by
  induction h with
  | nil => exact ⟨.nil, rfl⟩
  | cons hpart _ ih =>
    obtain ⟨hsimilar, hnew⟩ := tally_of_handles hpart
    rw [List.flatMap_cons, List.flatMap_cons, hnew, ih.2]
    exact ⟨.cons hsimilar ih.1, rfl⟩

end Store

namespace Mirrors

variable {usable : Kind → String → Prop} {b : Behaviour σ} {held : σ → OrderedMap Slot Json}
  {s : Store} {r : SecretRef} {n pages : Nat}

/-- What is held after updates have been asked for. -/
def Held (held : σ → OrderedMap Slot Json) (s : Store) :
    List AnyWorkload → σ × List Exchange → Prop :=
  fun ws x => held x.1 = s.updated ws

/-- An update is answered as the store answers it. -/
theorem leaves_send (h : Mirrors usable b held s r n pages) {w : Workload k}
    (hwritten : w.asWritten = w) (hns : w.identity.ns = r.ns) (hname : IsName w.identity.name) :
    Leaves (Held held s)
      (Fine fun reply new => reply.read (Workload.codec k).read = (s.update w).1 ∧ new = [⟨k, w⟩])
      (b.api.send (.forUpdate w.slot ((Workload.codec k).write w))).run := by
  intro ws x hx
  have hx : held x.1 = s.updated ws := hx
  by_cases haccepts : s.Accepts w
  · obtain ⟨hcarries, hheld⟩ := h.accept hns hname haccepts x.1
    refine ⟨[⟨k, w⟩], ⟨?_, rfl⟩, ?_⟩
    · rw [Store.update_of_accepts haccepts]
      have hread := (Workload.settles_codec k).read_write w
      rw [hwritten] at hread
      exact Reply.read_of_carries hcarries hread
    · rw [hx] at hheld
      exact hheld.trans (Store.updated_concat_of_accepts haccepts ws).symm
  · obtain ⟨hreports, hheld⟩ := h.reject hns hname haccepts x.1
    refine ⟨[⟨k, w⟩], ⟨?_, rfl⟩, ?_⟩
    · rw [Store.update_of_not_accepts haccepts]
      exact Reply.read_of_reports hreports (by decide) _
    · rw [hx] at hheld
      exact hheld.trans (Store.updated_concat_of_not_accepts haccepts ws).symm

/-- **Updates end as they do at the store**, and what is held is what the store would hold. -/
theorem writing (h : Mirrors usable b held s r n pages) (hns : IsName r.ns) (pageSize bound : Nat) :
    Writing (b.api.access pageSize bound) (Held held s)
      (fun w => w.2.asWritten = w.2 ∧ w.2.identity.ns = r.ns ∧ IsName w.2.identity.name)
      s.answeredBy := by
  have hnow : Silently (Held held s) b.api.clock.now := fun ws x hx =>
    ⟨[], rfl, (List.append_nil ws).symm ▸ (h.now x.1).trans hx⟩
  refine ⟨hnow, fun due ws x hx => ⟨[], rfl, ?_⟩, fun e ws x hx => ⟨[], rfl, ?_⟩,
    fun {k w} hw => ?_⟩
  · rw [List.append_nil]
    exact (h.waitUntil due x.1).trans hx
  · rw [List.append_nil]
    exact (h.report e x.1).trans hx
  · obtain ⟨hwritten, hw, hname⟩ := hw
    simp only [ApiServer.access, Request.replace_eq (hw ▸ hns) hname]
    refine (h.leaves_send hwritten hw hname).bind_fine ?_
    rintro reply _ ⟨hreply, rfl⟩
    refine hnow.bind fun now => .pure_fine ?_
    exact ⟨_, .pure_fine ⟨hreply, rfl⟩, rfl, rfl⟩

end Mirrors

/-! ### Updates of a pass -/

/-- A workload with the stamps of a target. -/
def AnyWorkload.stamped (t : Target) (w : AnyWorkload) : AnyWorkload :=
  ⟨w.1, w.2.stamped t.key t.stamp⟩

/-- The updates of a listing are those of its units that are not current. -/
theorem Listing.replacements_eq (t : Target) (l : Listing) :
    l.replacements t = (outdated t (l.units t.name)).map (AnyWorkload.stamped t) := by
  rw [replacements, units]
  induction (l.eligible t.name).values with
  | nil => rfl
  | cons w ws ih =>
    by_cases hw : w.IsCurrent t
    · simp [outdated, Workload.replacement?, hw] at ih ⊢
      exact ih
    · simp [outdated, Workload.replacement?, hw] at ih ⊢
      exact ⟨rfl, ih⟩

/-- Where updates have been sent to. -/
def putPaths (es : List Exchange) : List String :=
  (es.filter fun e => e.request.method == "PUT").map fun e => e.request.address.path

theorem putPaths_append {reads updates : List Exchange} (hreads : HaveMethod "GET" reads)
    (hupdates : HaveMethod "PUT" updates) :
    putPaths (reads ++ updates) = updates.map fun e => e.request.address.path := by
  have hnone : reads.filter (fun e => e.request.method == "PUT") = [] := by
    refine List.filter_eq_nil_iff.2 fun e he => ?_
    rw [hreads e he]
    decide
  have hall : updates.filter (fun e => e.request.method == "PUT") = updates :=
    List.filter_eq_self.2 fun e he => beq_iff_eq.2 (hupdates e he)
  rw [putPaths, List.filter_append, hnone, hall, List.nil_append]

namespace Store

/-- The objects of a store have names as a cluster admits them. -/
def Named (s : Store) : Prop :=
  ∀ slot json, s.workloads.get? slot = some json →
    IsName slot.identity.ns ∧ IsName slot.identity.name

/-- What is held after the updates of a pass is what the store holds then. -/
theorem updated_stamped (s : Store) (t : Target) (units : List AnyWorkload) :
    s.updated ((outdated t units).map (AnyWorkload.stamped t)) =
      (s.workedOff t units).workloads := by
  have haccepts : (fun w : AnyWorkload => decide (s.Accepts w.2)) ∘ AnyWorkload.stamped t =
      fun w => decide (s.Accepts w.2) := by
    funext w
    exact decide_eq_decide.2 (accepts_stamped s t w.2)
  rw [updated, List.filter_map, haccepts, List.foldl_map]
  rfl

variable {s : Store} {scope : Scope} {r : SecretRef} {t : Target}

/-- What a pass reads is what there is to be read. -/
theorem eq_of_found? {found : Target × List Listing} (h : s.found? scope r = some found) :
    (∀ k ∈ scope.kinds, s.Lists k) ∧ s.target? r = some found.1 ∧
      found.2 = s.listings scope r := by
  by_cases hlists : ∀ k ∈ scope.kinds, s.Lists k
  · rw [found?_of_lists hlists] at h
    obtain ⟨t, ht, rfl⟩ := Option.map_eq_some_iff.1 h
    exact ⟨hlists, ht, rfl⟩
  · rw [found?_of_not_lists hlists] at h
    cases h

/-- Nothing is lost of the workloads that take part, and they are addressed by names. -/
theorem Orderly.isName_of_mem_units (hs : s.Orderly) (hnamed : s.Named) {w : AnyWorkload}
    (hw : w ∈ s.units scope r) :
    w.2.asWritten = w.2 ∧ w.2.identity.ns = r.ns ∧ IsName w.2.identity.name := by
  obtain ⟨-, hfind, hns, -⟩ := hs.mem_units_iff.1 hw
  exact ⟨hs.asWritten_of_find? hfind, hns, (hnamed _ _ (hs.get?_of_find? hfind)).2⟩

/-- The updates of a pass are those of the workloads that are not current. -/
theorem Orderly.flatMap_replacements (hs : s.Orderly) (ht : t.name = r.name) (scope : Scope) :
    (s.listings scope r).flatMap (Listing.replacements t) =
      (outdated t (s.units scope r)).map (AnyWorkload.stamped t) := by
  have hunits := hs.flatMap_units_listings scope r
  rw [← ht] at hunits
  rw [← hunits, outdated, List.filter_flatMap, List.map_flatMap]
  exact List.flatMap_congr fun l _ => l.replacements_eq t

/-- The requests of a pass are those for the workloads that are not current. -/
theorem Orderly.flatMap_requests (hs : s.Orderly) (hnamed : s.Named) (hns : IsName r.ns)
    (ht : t.name = r.name) (scope : Scope) :
    (s.listings scope r).flatMap (Listing.requests t) =
      (outdated t (s.units scope r)).map fun w =>
        Request.forUpdate w.2.slot (w.stamped t).toJson := by
  have hrequest : ∀ w ∈ outdated t (s.units scope r), (w.stamped t).request? =
      some (.forUpdate w.2.slot (w.stamped t).toJson) := by
    intro w hw
    obtain ⟨-, hw, hname⟩ := hs.isName_of_mem_units hnamed (mem_outdated_iff.1 hw).1
    have hidentity : (w.stamped t).2.identity = w.2.identity := w.2.identity_stamped t.key t.stamp
    rw [AnyWorkload.request?, Request.replace_eq (by rwa [hidentity, hw]) (by rwa [hidentity]),
      hidentity]
    rfl
  have hrequests : (s.listings scope r).flatMap (Listing.requests t) =
      ((s.listings scope r).flatMap (Listing.replacements t)).filterMap AnyWorkload.request? :=
    List.filterMap_flatMap.symm
  rw [hrequests, hs.flatMap_replacements ht, List.filterMap_map, ← List.filterMap_eq_map]
  exact List.filterMap_congr hrequest

/-- The updates of a transcript go to the slots of the workloads that are not current. -/
theorem Orderly.map_path_of_concluded (hs : s.Orderly) (hnamed : s.Named) (hns : IsName r.ns)
    (ht : t.name = r.name) {result : Except Endless (Except Failure Report)}
    {updates : List Exchange}
    (h : Concluded (.ok (.ok (t, s.listings scope r))) result updates) :
    updates.map (fun e => e.request.address.path) =
      ((outdated t (s.units scope r)).map fun w => w.2.slot).map Slot.path := by
  have hrequests := h.map_request
  rw [hs.flatMap_requests hnamed hns ht] at hrequests
  have hpaths := congrArg (List.map fun request => request.address.path) hrequests
  rw [List.map_map, List.map_map] at hpaths
  rw [List.map_map]
  exact hpaths

end Store

namespace Mirrors

variable {usable : Kind → String → Prop} {b : Behaviour σ} {held : σ → OrderedMap Slot Json}
  {s : Store} {r : SecretRef} {n pages : Nat}

/-- The writing part of a pass comes to what it comes to over the store. -/
theorem leaves_outcome (h : Mirrors usable b held s r n pages) (hs : s.Orderly)
    (hnamed : s.Named) (hns : IsName r.ns) {t : Target} (ht : t.name = r.name)
    (pageSize bound : Nat) (limit : Option Nat) (scope : Scope) :
    Leaves (Held held s)
      (Fine fun outcome new =>
        SameOutcome outcome (Tally.total ((s.listings scope r).map (s.tally t))).outcome ∧
          new = (s.listings scope r).flatMap (Listing.replacements t))
      (do return (Tally.total (← (s.listings scope r).mapM
        (bringUpToDate (b.api.access pageSize bound) limit t))).outcome).run := by
  have hadmitted : ∀ l ∈ s.listings scope r, ∀ w ∈ (l.eligible t.name).values,
      ¬ w.IsCurrent t → (w.stamped t.key t.stamp).asWritten = w.stamped t.key t.stamp ∧
        (w.stamped t.key t.stamp).identity.ns = r.ns ∧
          IsName (w.stamped t.key t.stamp).identity.name := by
    intro l hl w hw _
    have hunit : (⟨l.kind, w⟩ : AnyWorkload) ∈ s.units scope r := by
      rw [← hs.flatMap_units_listings, ← ht]
      exact List.mem_flatMap.2 ⟨l, hl, List.mem_map_of_mem hw⟩
    obtain ⟨hwritten, hname⟩ := hs.isName_of_mem_units hnamed hunit
    rw [Workload.identity_stamped]
    exact ⟨Workload.asWritten_stamped_of_eq hwritten _ _, hname⟩
  refine Leaves.bind_fine
    ((h.writing hns pageSize bound).leaves_mapM_bringUpToDate limit _ hadmitted) ?_
  rintro _ _ ⟨parts, hparts, rfl, rfl⟩
  refine .pure_fine ?_
  rw [List.append_nil]
  obtain ⟨hsimilar, hnew⟩ := Store.similar_of_handles hparts
  exact ⟨(Tally.Similar.total hsimilar).outcome, hnew⟩

end Mirrors

/-- **A pass through a server comes to what it comes to over the store.** -/
theorem Mirrors.agrees {b : Behaviour σ} {held : σ → OrderedMap Slot Json} {s : Store}
    {r : SecretRef} {pageSize pages bound : Nat}
    (h : Mirrors (fun k t => Request.Fits k r.ns (max 1 pageSize) t) b held s r (max 1 pageSize)
      pages)
    (hs : s.Built) (hnamed : s.Named) (hns : IsName r.ns) (hname : IsName r.name)
    (hpageSize : pageSize < 2 ^ 32) (hpages : max 1 pages ≤ bound) (limit limit' : Option Nat)
    (scope : Scope) {x : σ} (hx : held x = s.workloads) :
    let run := (runPass (b.api.access pageSize bound) limit scope r).run.run (x, [])
    let kept := (runPass Store.quiet limit' scope r).run s
    let asked := (Ledger.instant.pass scope r ⟨s, []⟩).2.attempts.map (·.slot)
    (∃ outcome, run.1 = .ok outcome ∧ (outcome = kept.1 ∨ SameOutcome outcome kept.1)) ∧
    putPaths run.2.2 = asked.map Slot.path ∧
    kept.2.updateCalls = s.updateCalls ++ asked.map (·.identity.name) ∧
    held run.2.1 = kept.2.workloads ∧ kept.2.secrets = s.secrets := by
  have hs := hs.orderly
  intro run kept asked
  obtain ⟨reads, updates, hreads, hconcluded, hes⟩ :=
    b.recording.exists_transcript pageSize bound limit scope r (x := (x, [])) rfl
  have hputs : putPaths run.2.2 = updates.map fun e => e.request.address.path := by
    have hes : run.2.2 = reads ++ updates := hes
    rw [hes, putPaths_append hreads.haveMethod hconcluded.haveMethod]
  obtain ⟨hsurvey, hheld⟩ :=
    h.finds_survey hs hns hname (fun _ _ ht => ht) hpageSize hpages scope [] (x, []) hx
  have hkept : kept = _ := s.run_runPass limit' scope r
  have hread := hs.reads_survey scope r
  rw [hputs]
  cases hfound : s.found? scope r with
  | none =>
    rw [hfound] at hread
    obtain ⟨failure, -, hread⟩ := hread
    rw [hread] at hsurvey
    rw [hsurvey] at hconcluded
    have hrun : run = _ := run_runPass_of_failed (Prod.ext hsurvey rfl)
    have hledger : Ledger.instant.pass scope r ⟨s, []⟩ = (.error failure, ⟨s, []⟩) := by
      rw [Instant.pass, Ledger.refines.view, hread]
    have hasked : asked = [] := by
      simp only [asked, hledger, List.map_nil]
    rw [hkept, hledger, hrun, hasked, hconcluded.eq_nil fun _ h => by cases h]
    exact ⟨⟨_, rfl, .inl rfl⟩, rfl, (List.append_nil _).symm, hheld, rfl⟩
  | some found =>
    obtain ⟨t, ls⟩ := found
    obtain ⟨hlists, htarget, rfl⟩ := Store.eq_of_found? hfound
    rw [hfound] at hread
    have hread : (survey (Store.instant.view s) scope r).run = .ok (t, s.listings scope r) := hread
    rw [hread] at hsurvey
    rw [hsurvey] at hconcluded
    have hrun : run = _ := run_runPass_of_found (Prod.ext hsurvey rfl)
    have hledger := Ledger.pass_of_found (l := ⟨s, []⟩) hs hlists htarget
    have ht := hs.name_of_target? htarget
    obtain ⟨new, houtcome, hafter⟩ :=
      h.leaves_outcome hs hnamed hns ht pageSize bound limit scope [] _ hheld
    rw [← hrun] at houtcome hafter
    have hasked : asked = (outdated t (s.units scope r)).map fun w => w.2.slot := by
      simp only [asked, hledger, Ledger.workedOff, List.nil_append, List.map_map]
      rfl
    have hpaths := hs.map_path_of_concluded hnamed hns ht hconcluded
    have hcalls : asked.map (·.identity.name) =
        (outdated t (s.units scope r)).map fun w => w.2.identity.name := by
      rw [hasked, List.map_map]
      rfl
    obtain ⟨outcome, hresult, hsame, rfl⟩ := houtcome.exists_eq_ok
    have hleft : held run.2.1 = (s.workedOff t (s.units scope r)).workloads := by
      rw [← s.updated_stamped, ← hs.flatMap_replacements ht]
      exact hafter
    rw [hkept, hledger, hcalls]
    exact ⟨⟨outcome, hresult, .inr hsame⟩, hpaths.trans (congrArg _ hasked.symm), rfl, hleft, rfl⟩

end SecretRotation
