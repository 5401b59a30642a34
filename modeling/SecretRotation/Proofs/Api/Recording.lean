import SecretRotation.Proofs.Api.Transcript
import SecretRotation.Proofs.Pass.Handling

/-!
# Passes against any API server

Nothing is assumed about the server here: a request may be answered in any way, which may depend on
all that happened before. What is exchanged with it is noted. Then the notes that a pass leaves are
a transcript: nothing is read after the first thing that cannot be read, and nothing is written
unless all has been read.

## Main definitions

* `Recording`: a server whose exchanges are noted.
* `Behaviour`: a server of which nothing is known.
* `Surveys`: computations that read some things.
* `exchangedFor`: what is exchanged for an update.

## Main results

* `Recording.surveys_survey`: the transcript of the reading part of a pass.
* `Recording.writing`, `Listing.Handles.map_request`: the transcript of the writing part.
* `Recording.leaves_runPass`: the transcript of a pass.
* `first_failure_decides`: what this means for a server of which nothing is known.
* `Session.transcript_of_perform_pass`: the same for a session.
-/

namespace SecretRotation

variable {α β σ : Type} {k : Kind}

/-! ### Servers -/

/-- A server whose exchanges are noted. It gives up on a list by breaking off. -/
structure Recording (server : ApiServer (ExceptT Endless (StateM σ)))
    (notes : List Exchange → σ → Prop) : Prop where
  send (request : Request) :
    Leaves notes (Fine fun reply es => es = [⟨request, reply⟩]) (server.send request).run
  now : Silently notes server.clock.now
  waitUntil (due : Nat) : Silently notes (server.clock.waitUntil due)
  report (e : Event) : Silently notes (server.report e)
  giveUp {γ : Type} :
    Leaves notes (fun result es => result = .error .endless ∧ es = [])
      (server.giveUp (α := γ)).run

/-- A server of which nothing is known. Whatever it does may depend on all that happened before. -/
structure Behaviour (σ : Type) where
  /-- Replies to a request. -/
  reply : Request → σ → Reply × σ
  /-- Reads its clock. -/
  now : σ → Nat × σ
  /-- Waits for a moment. -/
  waitUntil : Nat → σ → σ
  /-- Logs an event. -/
  report : Event → σ → σ

/-- A server of which nothing is known, as its clients see it, together with all that has been
exchanged with it. -/
def Behaviour.api (b : Behaviour σ) :
    ApiServer (ExceptT Endless (StateM (σ × List Exchange))) where
  send request := modifyGetThe (σ × List Exchange) fun s =>
    let (reply, after) := b.reply request s.1
    (reply, (after, s.2 ++ [⟨request, reply⟩]))
  clock := {
    now := modifyGetThe (σ × List Exchange) fun s => ((b.now s.1).1, ((b.now s.1).2, s.2))
    waitUntil := fun due => modifyThe (σ × List Exchange) fun s => (b.waitUntil due s.1, s.2) }
  report e := modifyThe (σ × List Exchange) fun s => (b.report e s.1, s.2)
  giveUp := throw .endless

theorem Behaviour.recording (b : Behaviour σ) : Recording b.api (fun es s => s.2 = es) where
  send _ _ _ hs := ⟨_, rfl, congrArg (· ++ _) hs⟩
  now _ _ hs := ⟨[], rfl, hs.trans (List.append_nil _).symm⟩
  waitUntil _ _ _ hs := ⟨[], rfl, hs.trans (List.append_nil _).symm⟩
  report _ _ _ hs := ⟨[], rfl, hs.trans (List.append_nil _).symm⟩
  giveUp _ _ hs := ⟨[], ⟨rfl, rfl⟩, hs.trans (List.append_nil _).symm⟩

/-! ### The reading part of a pass -/

/-- A computation of a pass reads some things, and makes something of what it finds. -/
def Surveys (notes : List Exchange → σ → Prop) (r : SecretRef) (pageSize bound : Nat)
    (made : α → List Finding → Prop) (readings : List Reading)
    (x : ExceptT Failure (ExceptT Endless (StateM σ)) α) : Prop :=
  Leaves notes (Surveyed r pageSize bound made readings) x.run.run

namespace Surveys

variable {notes : List Exchange → σ → Prop} {r : SecretRef} {pageSize bound : Nat}

theorem pure {p : α → List Finding → Prop} {a : α} (h : p a []) :
    Surveys notes r pageSize bound p [] (Pure.pure a) :=
  Quietly.leaves (.pure (.complete .nil h))

theorem bind {p : α → List Finding → Prop} {q : β → List Finding → Prop}
    {readings readings' : List Reading} {x : ExceptT Failure (ExceptT Endless (StateM σ)) α}
    {f : α → ExceptT Failure (ExceptT Endless (StateM σ)) β}
    (hx : Surveys notes r pageSize bound p readings x)
    (hf : ∀ a fs, p a fs →
      Surveys notes r pageSize bound (fun b fs' => q b (fs ++ fs')) readings' (f a)) :
    Surveys notes r pageSize bound q (readings ++ readings') (x >>= f) := by
  rw [Surveys, ExceptT.run_bind]
  refine Leaves.run_bind hx (fun result es h => ?_) fun _ _ h => h.append_endless
  cases result with
  | ok a =>
    cases h with
    | complete hfound hmade => exact (hf a _ hmade).mono fun _ _ h' => .append hfound h'
  | error failure => exact .pure_append h.append_failed

/-- A request is exchanged, or several, and something is made of the answer. -/
theorem of_lift {made : β → List Finding → Prop} {p : Except Endless α → List Exchange → Prop}
    {readings : List Reading} {x : ExceptT Endless (StateM σ) α}
    {f : α → ExceptT Failure (ExceptT Endless (StateM σ)) β} (hx : Leaves notes p x.run)
    (hf : ∀ a es, p (.ok a) es → Leaves notes
      (fun result es' => Surveyed r pageSize bound made readings result (es ++ es')) (f a).run.run)
    (herror : ∀ e es, p (.error e) es → Surveyed r pageSize bound made readings (.error e) es) :
    Surveys notes r pageSize bound made readings (liftM x >>= f) := by
  have hrun : (liftM x >>= f).run = x >>= fun a => (f a).run := ExceptT.run_bind_lift x f
  rw [Surveys, hrun]
  exact hx.run_bind hf herror

theorem mapM {ι : Type} {f : ι → ExceptT Failure (ExceptT Endless (StateM σ)) α}
    {reading : ι → Reading} {found : α → Finding}
    (hf : ∀ i, Surveys notes r pageSize bound (fun a fs => fs = [found a]) [reading i] (f i)) :
    (is : List ι) →
      Surveys notes r pageSize bound (fun as fs => fs = as.map found) (is.map reading) (is.mapM f)
  | [] => .pure rfl
  | i :: is => by
    rw [List.mapM_cons, List.map_cons, ← List.singleton_append]
    refine (hf i).bind ?_
    rintro a _ rfl
    rw [← List.append_nil (is.map reading)]
    refine (mapM hf is).bind ?_
    rintro as _ rfl
    refine .pure ?_
    rw [List.append_nil]
    rfl

end Surveys

namespace Recording

variable {server : ApiServer (ExceptT Endless (StateM σ))} {notes : List Exchange → σ → Prop}
  (h : Recording server notes)

include h

theorem leaves_exchange (request : Except SendFault Request) (readDocument : Json → Option α) :
    Leaves notes (Fine (Exchanged request readDocument))
      (exchange server request readDocument).run := by
  cases hrequest : request with
  | error fault => exact .pure_fine (.unsendable rfl)
  | ok request =>
    refine (h.send request).bind_fine ?_
    rintro reply _ rfl
    exact .pure_fine (.sent rfl reply)

theorem leaves_readPages (k : Kind) (ns : String) (pageSize : Nat) :
    (bound : Nat) → (token : Option String) → (items : List (Workload k)) →
      Leaves notes (Paged k ns pageSize bound token items)
        (readPages server k ns pageSize bound token items).run
  | 0, token, items => by
    refine h.giveUp.mono ?_
    rintro _ _ ⟨rfl, rfl⟩
    exact .endless
  | bound + 1, token, items => by
    rw [readPages]
    refine (h.leaves_exchange _ _).run_bind ?_ fun _ _ h => h.elim
    rintro (fault | page) es hes
    · exact .pure_append (.failed hes)
    · dsimp only
      split
      next hnext => exact (h.report _).bind fun _ => .pure_append (.last hes hnext)
      next next hnext =>
        refine (h.report _).bind fun _ => ?_
        exact (leaves_readPages k ns pageSize bound (some next) _).mono fun _ _ hrest =>
          .more hes hnext hrest

/-- The secret is fetched. -/
theorem surveys_fetchTarget (r : SecretRef) (pageSize bound : Nat) :
    Surveys notes r (max 1 pageSize) bound (fun t fs => fs = [.target t]) [.secret]
      (fetchTarget (server.access pageSize bound) r) := by
  refine .of_lift (h.leaves_exchange _ _) ?_ fun _ _ h => h.elim
  rintro (fault | secret) es hes
  · exact .pure_append (.failed .nil (.unfetched hes))
  · dsimp only
    split
    next ht => exact .pure_append (.failed .nil (.unversioned hes ht))
    next t ht => exact .pure_append (.found (.target hes ht) rfl)

/-- The workloads of a kind are listed. -/
theorem surveys_listKind (r : SecretRef) (pageSize bound : Nat) (k : Kind) :
    Surveys notes r (max 1 pageSize) bound (fun l fs => fs = [.listing l]) [.workloads k]
      (listKind (server.access pageSize bound) r.ns k) := by
  refine .of_lift (h.leaves_readPages _ _ _ _ _ _) ?_ fun e _ h => ?_
  · rintro (fault | ws) es hes
    · exact .pure_append (.failed .nil (.unlisted hes))
    · exact .pure_append (.found (.listing hes) rfl)
  · cases e
    exact .endless .nil (.endless h)

/-- **The reading part of a pass** reads what its scope asks for, in order. -/
theorem surveys_survey (r : SecretRef) (pageSize bound : Nat) (scope : Scope) :
    Surveys notes r (max 1 pageSize) bound Gathered scope.readings
      (survey (server.access pageSize bound) scope r) := by
  cases scope with
  | all =>
    show Surveys _ _ _ _ _ ([.secret] ++ (Kind.all.map .workloads ++ [])) _
    refine (h.surveys_fetchTarget r pageSize bound).bind ?_
    rintro t _ rfl
    refine (Surveys.mapM (h.surveys_listKind r pageSize bound) _).bind ?_
    rintro ls _ rfl
    refine .pure ⟨?_, ?_⟩
    · rw [List.append_nil, List.filterMap_append, Finding.filterMap_target?_map]
      rfl
    · rw [List.append_nil, List.filterMap_append, Finding.filterMap_listing?_map]
      rfl
  | only k =>
    show Surveys _ _ _ _ _ ([.workloads k] ++ ([.secret] ++ [])) _
    refine (h.surveys_listKind r pageSize bound k).bind ?_
    rintro l _ rfl
    refine (h.surveys_fetchTarget r pageSize bound).bind ?_
    rintro t _ rfl
    exact .pure ⟨rfl, rfl⟩

end Recording

/-! ### The writing part of a pass -/

/-- What is exchanged for an update, and the answer to it. -/
abbrev exchangedFor : Answered Exchange :=
  fun k w => Exchanged (Request.replace w) (Workload.codec k).read

/-- An update is asked for, and its request is sent, when it begins. -/
theorem Recording.writing {server : ApiServer (ExceptT Endless (StateM σ))}
    {notes : List Exchange → σ → Prop} (h : Recording server notes) (pageSize bound : Nat) :
    Writing (server.access pageSize bound) notes (fun _ => True) exchangedFor where
  now := h.now
  waitUntil := h.waitUntil
  report := h.report
  update {k w} _ := by
    simp only [ApiServer.access]
    cases hrequest : Request.replace w with
    | error fault => exact .pure_fine ⟨_, rfl, .unsendable hrequest⟩
    | ok request =>
      refine (h.send request).bind_fine ?_
      rintro reply _ rfl
      refine Silently.bind h.now fun now => .pure_fine ?_
      exact ⟨_, .pure_fine ⟨rfl, rfl⟩, .sent hrequest reply⟩

/-- What is exchanged for an update is its request, if it can be put together. -/
theorem Exchanged.map_request {w : AnyWorkload} {answer : Except Fault (Workload w.1)}
    {es : List Exchange} (h : exchangedFor w.1 w.2 answer es) :
    es.map (·.request) = w.request?.toList := by
  cases h with
  | unsendable h => rw [AnyWorkload.request?, h]; rfl
  | sent h reply => rw [AnyWorkload.request?, h]; rfl

/-- A workload is asked for unless it is current. -/
theorem Workload.Handles.map_request {t : Target} {w : Workload k} {result : Except Failure Bool}
    {es : List Exchange} (h : w.Handles exchangedFor t result es) :
    es.map (·.request) = ((w.replacement? t).bind AnyWorkload.request?).toList := by
  cases h with
  | current h => simp [replacement?, h]
  | updated h hanswer =>
    rw [replacement?, if_neg h]
    exact Exchanged.map_request (w := ⟨k, _⟩) hanswer
  | failed h hanswer =>
    rw [replacement?, if_neg h]
    exact Exchanged.map_request (w := ⟨k, _⟩) hanswer

/-- **A listing is worked off** by the requests of its updates. -/
theorem Listing.Handles.map_request {t : Target} {l : Listing} {tally : Tally} {es : List Exchange}
    (h : l.Handles exchangedFor t tally es) : es.map (·.request) = l.requests t := by
  obtain ⟨parts, hitems, hall, rfl, -⟩ := h
  have hrequests : l.requests t = (l.eligible t.name).values.flatMap fun w =>
      ((w.replacement? t).bind AnyWorkload.request?).toList := by
    rw [Listing.requests, Listing.replacements, List.filterMap_filterMap,
      List.filterMap_eq_flatMap_toList]
  rw [hrequests, ← hitems, List.flatMap_map, List.map_flatMap]
  exact List.flatMap_congr fun p hp => (hall p hp).map_request

/-- Listings are worked off one after the other. -/
theorem map_request_of_handles {t : Target} {ls : List Listing}
    {parts : List (Tally × List Exchange)}
    (h : List.Forall₂ (fun l p => l.Handles exchangedFor t p.1 p.2) ls parts) :
    (parts.flatMap Prod.snd).map (·.request) = ls.flatMap (Listing.requests t) := by
  induction h with
  | nil => rfl
  | cons hpart _ ih => rw [List.flatMap_cons, List.map_append, hpart.map_request, ih,
      List.flatMap_cons]

/-! ### A whole pass -/

section

variable {access : ClusterAccess (ExceptT Endless (StateM σ))} {limit : Option Nat} {scope : Scope}
  {r : SecretRef} {x x' : σ}

/-- A pass whose reading part does not come to an end. -/
theorem run_runPass_of_endless
    (h : (survey access scope r).run.run.run x = (.error .endless, x')) :
    (runPass access limit scope r).run.run x = (.error .endless, x') := by
  simp only [runPass, ExceptT.run_bind, StateT.run_bind, h]
  rfl

/-- A pass that cannot read what it needs. -/
theorem run_runPass_of_failed {failure : Failure}
    (h : (survey access scope r).run.run.run x = (.ok (.error failure), x')) :
    (runPass access limit scope r).run.run x = (.ok (.error failure), x') := by
  simp only [runPass, ExceptT.run_bind, StateT.run_bind, h]
  rfl

theorem fst_run_runPass_of_failed {failure : Failure}
    (h : ((survey access scope r).run.run.run x).1 = .ok (.error failure)) :
    ((runPass access limit scope r).run.run x).1 = .ok (.error failure) :=
  congrArg Prod.fst (run_runPass_of_failed (Prod.ext h rfl))

/-- A pass that has read what it needs. -/
theorem run_runPass_of_found {t : Target} {ls : List Listing}
    (h : (survey access scope r).run.run.run x = (.ok (.ok (t, ls)), x')) :
    (runPass access limit scope r).run.run x =
      (do return (Tally.total (← ls.mapM (bringUpToDate access limit t))).outcome).run.run x' := by
  simp only [runPass, ExceptT.run_bind, StateT.run_bind, h]
  rfl

end

namespace Recording

variable {server : ApiServer (ExceptT Endless (StateM σ))} {notes : List Exchange → σ → Prop}
  (h : Recording server notes) (pageSize bound : Nat) (limit : Option Nat)

include h

/-- The updates of listings are asked for, and come to an outcome. -/
theorem leaves_outcome (t : Target) (ls : List Listing) :
    Leaves notes (Concluded (.ok (.ok (t, ls))))
      (do return (Tally.total
        (← ls.mapM (bringUpToDate (server.access pageSize bound) limit t))).outcome).run := by
  refine Leaves.run_bind ((h.writing pageSize bound).leaves_mapM_bringUpToDate limit ls
    fun _ _ _ _ _ => trivial) ?_ fun _ _ h => h.elim
  rintro _ _ ⟨parts, hparts, rfl, rfl⟩
  refine Quietly.leaves (.pure ?_)
  rw [List.append_nil]
  exact .complete (map_request_of_handles hparts)

/-- What a pass exchanges after what it has exchanged to read what it needs. -/
theorem exists_transcript (scope : Scope) (r : SecretRef) {es : List Exchange} {x : σ}
    (hx : notes es x) :
    let access := server.access pageSize bound
    let found := (survey access scope r).run.run.run x
    let run := (runPass access limit scope r).run.run x
    ∃ reads updates, Surveyed r (max 1 pageSize) bound Gathered scope.readings found.1 reads ∧
      Concluded found.1 run.1 updates ∧ notes (es ++ (reads ++ updates)) run.2 := by
  intro access found run
  obtain ⟨reads, hreads, hnotes⟩ := h.surveys_survey r pageSize bound scope es x hx
  rcases hfound : found with ⟨⟨⟩ | failure | ⟨t, ls⟩, x'⟩
  all_goals have hsurvey : (survey access scope r).run.run.run x = _ := hfound
  all_goals rw [hsurvey] at hreads hnotes
  · have hrun : run = _ := run_runPass_of_endless hsurvey
    rw [hrun]
    exact ⟨reads, [], hreads, .endless, by rwa [List.append_nil]⟩
  · have hrun : run = _ := run_runPass_of_failed hsurvey
    rw [hrun]
    exact ⟨reads, [], hreads, .failed, by rwa [List.append_nil]⟩
  · have hrun : run = _ := run_runPass_of_found hsurvey
    obtain ⟨updates, hconcluded, hnotes⟩ :=
      h.leaves_outcome pageSize bound limit t ls (es ++ reads) x' hnotes
    rw [List.append_assoc] at hnotes
    rw [hrun]
    exact ⟨reads, updates, hreads, hconcluded, hnotes⟩

/-- **The transcript of a pass**: first what is read, then the updates. -/
theorem leaves_runPass (scope : Scope) (r : SecretRef) :
    Leaves notes
      (fun result es => ∃ survey reads updates, es = reads ++ updates ∧
        Surveyed r (max 1 pageSize) bound Gathered scope.readings survey reads ∧
        Concluded survey result updates)
      (runPass (server.access pageSize bound) limit scope r).run := by
  intro es x hx
  obtain ⟨reads, updates, hreads, hconcluded, hnotes⟩ :=
    h.exists_transcript pageSize bound limit scope r hx
  exact ⟨_, ⟨_, reads, updates, rfl, hreads, hconcluded⟩, hnotes⟩

end Recording

/-- **The first failure decides, and nothing has been written then.** A pass reads what its scope
asks for, in order, up to the first thing that cannot be read; only if all has been read it goes on,
with the updates. It fails for a reason of reading exactly if something could not be read, and then
for what the first such thing comes to. -/
theorem first_failure_decides (b : Behaviour σ) (pageSize bound : Nat) (limit : Option Nat)
    (scope : Scope) (r : SecretRef) (s : σ) :
    let run := (runPass (b.api.access pageSize bound) limit scope r).run.run (s, [])
    ∃ survey reads updates, run.2.2 = reads ++ updates ∧
      HaveMethod "GET" reads ∧ HaveMethod "PUT" updates ∧
      Surveyed r (max 1 pageSize) bound Gathered scope.readings survey reads ∧
      Concluded survey run.1 updates ∧
      (∀ failure, survey = .ok (.error failure) ↔
        run.1 = .ok (.error failure) ∧ failure.OfReading) ∧
      ((∀ found, survey ≠ .ok (.ok found)) → updates = []) := by
  intro run
  obtain ⟨es, ⟨survey, reads, updates, rfl, hreads, hconcluded⟩, hnotes⟩ :=
    b.recording.leaves_runPass pageSize bound limit scope r [] (s, []) rfl
  refine ⟨survey, reads, updates, hnotes, hreads.haveMethod, hconcluded.haveMethod, hreads,
    hconcluded, fun failure => ⟨?_, ?_⟩, hconcluded.eq_nil⟩
  · rintro rfl
    exact ⟨hconcluded.eq_of_failed, hreads.ofReading⟩
  · rintro ⟨hrun, hreading⟩
    exact hconcluded.failed_of_eq hrun hreading

/-! ### Sessions -/

/-- What is sent in a session is noted. -/
theorem Session.recording :
    Recording Session.api (fun es s => s.sent.map (·.request) = es.map (·.request)) where
  send request es s hs := by
    have hsent : s.sent.map (·.request) = es.map (·.request) := hs
    refine ⟨[⟨request, (s.server.serve request.method request.address.path).1⟩], rfl, ?_⟩
    show List.map SentRequest.request (s.sent ++ [⟨s.now, request⟩]) =
      List.map Exchange.request (es ++ [⟨request, _⟩])
    rw [List.map_append, List.map_append, hsent]
    rfl
  now es _ hs := ⟨[], rfl, hs.trans (congrArg _ (List.append_nil es).symm)⟩
  waitUntil _ es _ hs := ⟨[], rfl, hs.trans (congrArg _ (List.append_nil es).symm)⟩
  report _ es _ hs := ⟨[], rfl, hs.trans (congrArg _ (List.append_nil es).symm)⟩
  giveUp es _ hs := ⟨[], ⟨rfl, rfl⟩, hs.trans (congrArg _ (List.append_nil es).symm)⟩

/-- What a session knows after a pass. -/
theorem Session.fst_perform_pass (s : Session) (limit : Option Nat) (scope : Scope)
    (r : SecretRef) :
    let fresh := { s with sent := [], events := [] }
    let run := (runPass fresh.access limit scope r).run.run fresh
    (s.perform limit (.pass scope r)).1 =
      ⟨(run.1.map (Answer.ofResult .report)).toOption, run.2.sent, run.2.events⟩ := by
  intro fresh run
  rw [Session.perform, Operation.perform, ExceptT.run_bind, StateT.run_bind]
  rcases hrun : run with ⟨e | outcome, after⟩
  · have h : (runPass fresh.access limit scope r).run.run fresh = _ := hrun
    rw [h]
    rfl
  · have h : (runPass fresh.access limit scope r).run.run fresh = _ := hrun
    rw [h]
    rfl

/-- The record of a pass of a session agrees with a transcript. -/
theorem Session.transcript_of_perform_pass (s : Session) (limit : Option Nat) (scope : Scope)
    (r : SecretRef) :
    let record := (s.perform limit (.pass scope r)).1
    ∃ survey result reads updates,
      record.sent.map (·.request) = (reads ++ updates).map (·.request) ∧
      record.answer = (result.map (Answer.ofResult .report)).toOption ∧
      Surveyed r (max 1 s.pageSize) s.pageBound Gathered scope.readings survey reads ∧
      Concluded survey result updates := by
  intro record
  obtain ⟨es, ⟨survey, reads, updates, rfl, hreads, hconcluded⟩, hnotes⟩ :=
    Session.recording.leaves_runPass s.pageSize s.pageBound limit scope r []
      { s with sent := [], events := [] } rfl
  have hrecord : record = _ := s.fst_perform_pass limit scope r
  refine ⟨survey, _, reads, updates, ?_, ?_, hreads, hconcluded⟩
  · rw [hrecord]
    exact hnotes
  · rw [hrecord]
    rfl

end SecretRotation
