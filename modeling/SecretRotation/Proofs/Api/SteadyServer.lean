import SecretRotation.Proofs.Api.Addresses
import SecretRotation.Proofs.Api.Documents
import SecretRotation.Proofs.Api.Provenance
import SecretRotation.Proofs.Api.Recording
import SecretRotation.Proofs.Store.Units

/-!
# A server that always answers in the same way

The reply to a request depends on nothing but the request. If such a server offers a secret that
says a version, and every list on a single page, then the transcript of a pass is not only of a
known form, it is known: the things that the pass reads are asked for one after the other, and then
the updates of the workloads that are listed follow.

## Main definitions

* `Behaviour.steady`: a server that answers by a function.
* `Offers`: all that a pass needs can be read.
* `AnsweredBy`: exchanges with the replies that a function gives.
* `Scope.exchanges`: what is exchanged with such a server in a pass.

## Main results

* `Offers.transcript`: the transcript of a pass.
-/

namespace SecretRotation

/-- A server that answers by a function of the request. -/
def Behaviour.steady (answer : Request → Reply) : Behaviour Unit where
  reply request _ := (answer request, ())
  now _ := (0, ())
  waitUntil _ _ := ()
  report _ _ := ()

/-- Some exchanges have the replies that a function gives. -/
def AnsweredBy (answer : Request → Reply) (es : List Exchange) : Prop :=
  ∀ e ∈ es, e.reply = answer e.request

/-- A request, with the reply that a function gives. -/
def exchangeBy (answer : Request → Reply) (request : Request) : Exchange :=
  ⟨request, answer request⟩

theorem answeredBy_map (answer : Request → Reply) (requests : List Request) :
    AnsweredBy answer (requests.map (exchangeBy answer)) := by
  rintro e he
  obtain ⟨request, -, rfl⟩ := List.mem_map.1 he
  rfl

theorem AnsweredBy.eq_map {answer : Request → Reply} {es : List Exchange}
    (h : AnsweredBy answer es) : es = (es.map (·.request)).map (exchangeBy answer) := by
  rw [List.map_map]
  refine (List.map_id es).symm.trans (List.map_congr_left fun e he => ?_)
  obtain ⟨request, reply⟩ := e
  exact congrArg (Exchange.mk request) (h _ he)

theorem Behaviour.recording_steady (answer : Request → Reply) :
    Recording (Behaviour.steady answer).api (fun es s => s.2 = es ∧ AnsweredBy answer es) where
  send request es s hs := by
    refine ⟨_, rfl, congrArg (· ++ _) hs.1, List.forall_mem_append.2 ⟨hs.2, ?_⟩⟩
    rintro e he
    rw [List.mem_singleton.1 he]
  now es _ hs := ⟨[], rfl, by rwa [List.append_nil]⟩
  waitUntil _ es _ hs := ⟨[], rfl, by rwa [List.append_nil]⟩
  report _ es _ hs := ⟨[], rfl, by rwa [List.append_nil]⟩
  giveUp es _ hs := ⟨[], ⟨rfl, rfl⟩, by rwa [List.append_nil]⟩

/-! ### Servers that offer all that is needed -/

/-- The request for something that a pass reads. -/
def Reading.request (r : SecretRef) (pageSize : Nat) : Reading → Request
  | .secret => .forSecret r
  | .workloads k => .forPage k r.ns pageSize none

/-- All that a pass reads is offered: a secret that says a version, and lists on single pages. -/
structure Offers (answer : Request → Reply) (scope : Scope) (r : SecretRef) (pageSize : Nat)
    (secret : Secret) (t : Target) (ws : (k : Kind) → List (Workload k)) : Prop where
  isName_ns : IsName r.ns
  isName_name : IsName r.name
  pageSize_lt : pageSize < 2 ^ 32
  fetch : (answer (.forSecret r)).read Secret.codec.read = .ok secret
  target : secret.target? = some t
  page {k : Kind} (hk : k ∈ scope.kinds) :
    (answer (.forPage k r.ns pageSize none)).read (Page.ofDocument? k) = .ok ⟨ws k, none⟩

/-- What is exchanged with a server that answers by a function, when all that is needed can be
read. -/
def Scope.exchanges (answer : Request → Reply) (scope : Scope) (r : SecretRef) (pageSize : Nat)
    (t : Target) (ws : (k : Kind) → List (Workload k)) : List Exchange :=
  (scope.readings.map (Reading.request r pageSize) ++
    scope.kinds.flatMap fun k => (Listing.mk k (ws k)).requests t).map (exchangeBy answer)

theorem Exchanged.eq_of_answeredBy {α : Type} {answer : Request → Reply}
    {request : Except SendFault Request} {readDocument : Json → Option α}
    {result : Except Fault α} {es : List Exchange} {q : Request} {a : α}
    (h : Exchanged request readDocument result es) (hes : AnsweredBy answer es)
    (hrequest : request = .ok q) (hreply : (answer q).read readDocument = .ok a) :
    result = .ok a ∧ es = [exchangeBy answer q] := by
  cases h with
  | unsendable h => cases hrequest.symm.trans h
  | sent h reply =>
    cases hrequest.symm.trans h
    have hsame : reply = answer q := hes _ List.mem_cons_self
    subst hsame
    exact ⟨hreply, rfl⟩

namespace Offers

variable {answer : Request → Reply} {scope : Scope} {r : SecretRef} {pageSize bound : Nat}
  {secret : Secret} {t : Target} {ws : (k : Kind) → List (Workload k)}
  (h : Offers answer scope r pageSize secret t ws)

/-- What is found for something that a pass reads. -/
def finding (t : Target) (ws : (k : Kind) → List (Workload k)) : Reading → Finding
  | .secret => .target t
  | .workloads k => .listing ⟨k, ws k⟩

include h

/-- The only secret that is fetched is the one that is offered. -/
theorem eq_of_fetched {es : List Exchange} (hes : AnsweredBy answer es) {fetched : Secret}
    (hfetched : Fetched r es fetched) : fetched = secret := by
  obtain ⟨e, he, hrequest, hread⟩ := hfetched
  have hfetch := (Request.fetch_eq h.isName_ns h.isName_name).symm.trans hrequest
  rw [hes e he, ← Except.ok.inj hfetch] at hread
  exact Except.ok.inj (hread.symm.trans h.fetch)

/-- A list consists of its only page. -/
theorem eq_of_paged {k : Kind} (hk : k ∈ scope.kinds)
    {result : Except Endless (Except Fault (List (Workload k)))} {es : List Exchange}
    (hpaged : Paged k r.ns pageSize (bound + 1) none [] result es) (hes : AnsweredBy answer es) :
    result = .ok (.ok (ws k)) ∧ es = [exchangeBy answer (.forPage k r.ns pageSize none)] := by
  have hrequest : Request.list k r.ns pageSize none = .ok (.forPage k r.ns pageSize none) :=
    Request.list_eq h.isName_ns h.pageSize_lt nofun
  cases hpaged with
  | failed hexchanged => cases (hexchanged.eq_of_answeredBy hes hrequest (h.page hk)).1
  | last hexchanged _ =>
    obtain ⟨hpage, hes⟩ := hexchanged.eq_of_answeredBy hes hrequest (h.page hk)
    cases hpage
    exact ⟨rfl, hes⟩
  | more hexchanged hnext _ =>
    obtain ⟨hpage, -⟩ := hexchanged.eq_of_answeredBy
      (fun e he => hes e (List.mem_append_left _ he)) hrequest (h.page hk)
    cases hpage
    cases hnext

/-- What a pass reads is found. -/
theorem eq_of_gives {reading : Reading} (hreading : reading ∈ scope.readings)
    {result : Except Endless (Except Failure Finding)} {es : List Exchange}
    (hgives : reading.Gives r pageSize (bound + 1) result es) (hes : AnsweredBy answer es) :
    result = .ok (.ok (finding t ws reading)) ∧
      es = [exchangeBy answer (reading.request r pageSize)] := by
  have hfetch := Request.fetch_eq h.isName_ns h.isName_name
  have hkind {k : Kind} (hk : Reading.workloads k ∈ scope.readings) : k ∈ scope.kinds := by
    cases scope with
    | all => exact Scope.mem_kinds_all k
    | only k' =>
      rcases List.mem_cons.1 hk with hk | hk
      · cases hk
        exact List.mem_cons_self
      · cases List.mem_singleton.1 hk
  cases hgives with
  | target hexchanged ht =>
    obtain ⟨hsecret, hes⟩ := hexchanged.eq_of_answeredBy hes hfetch h.fetch
    cases hsecret
    cases ht.symm.trans h.target
    exact ⟨rfl, hes⟩
  | unversioned hexchanged ht =>
    cases (hexchanged.eq_of_answeredBy hes hfetch h.fetch).1
    cases ht.symm.trans h.target
  | unfetched hexchanged => cases (hexchanged.eq_of_answeredBy hes hfetch h.fetch).1
  | listing hpaged =>
    obtain ⟨hlist, hes⟩ := h.eq_of_paged (hkind hreading) hpaged hes
    cases hlist
    exact ⟨rfl, hes⟩
  | unlisted hpaged => cases (h.eq_of_paged (hkind hreading) hpaged hes).1
  | endless hpaged => cases (h.eq_of_paged (hkind hreading) hpaged hes).1

theorem eq_of_found {readings : List Reading} (hreadings : ∀ x ∈ readings, x ∈ scope.readings)
    {parts : List (Finding × List Exchange)} (hfound : Found r pageSize (bound + 1) readings parts)
    (hes : AnsweredBy answer (parts.flatMap Prod.snd)) :
    parts = readings.map fun x =>
      (finding t ws x, [exchangeBy answer (x.request r pageSize)]) := by
  induction hfound with
  | nil => rfl
  | @cons reading part readings parts hpart _ ih =>
    rw [List.flatMap_cons] at hes
    obtain ⟨hfinding, hpartEs⟩ := h.eq_of_gives (hreadings _ List.mem_cons_self) hpart
      fun e he => hes e (List.mem_append_left _ he)
    have hrest := ih (fun x hx => hreadings x (List.mem_cons_of_mem _ hx))
      fun e he => hes e (List.mem_append_right _ he)
    have hpart : part = (finding t ws reading, [exchangeBy answer (reading.request r pageSize)]) :=
      Prod.ext (Except.ok.inj (Except.ok.inj hfinding)) hpartEs
    rw [List.map_cons, ← hrest, ← hpart]

/-- All is read, and everything is found. -/
theorem eq_of_surveyed {survey : Except Endless (Except Failure (Target × List Listing))}
    {reads : List Exchange}
    (hsurveyed : Surveyed r pageSize (bound + 1) Gathered scope.readings survey reads)
    (hes : AnsweredBy answer reads) :
    survey = .ok (.ok (t, scope.kinds.map fun k => ⟨k, ws k⟩)) ∧
      reads = (scope.readings.map (Reading.request r pageSize)).map (exchangeBy answer) := by
  have hnever {before after : List Reading} {reading : Reading}
      {result : Except Endless (Except Failure Finding)} {es' es : List Exchange}
      (hreadings : before ++ reading :: after = scope.readings)
      (hgives : reading.Gives r pageSize (bound + 1) result es)
      (hes : AnsweredBy answer (es' ++ es)) : result = .ok (.ok (finding t ws reading)) :=
    (h.eq_of_gives (hreadings ▸ List.mem_append_right _ List.mem_cons_self) hgives
      fun e he => hes e (List.mem_append_right _ he)).1
  generalize hreadings : scope.readings = readings at hsurveyed
  cases hsurveyed with
  | failed _ hfailed => cases hnever hreadings.symm hfailed hes
  | endless _ hendless => cases hnever hreadings.symm hendless hes
  | @complete _ parts found hfound hmade =>
    obtain ⟨t', ls⟩ := found
    have hparts := h.eq_of_found (fun x hx => hreadings.symm ▸ hx) hfound hes
    have hgathered : Gathered (t, scope.kinds.map fun k => ⟨k, ws k⟩)
        (readings.map (finding t ws)) := by
      rw [← hreadings]
      cases scope <;> exact ⟨rfl, rfl⟩
    have hfindings : parts.map Prod.fst = readings.map (finding t ws) := by
      rw [hparts, List.map_map]
      rfl
    have hreads : parts.flatMap Prod.snd =
        (readings.map (Reading.request r pageSize)).map (exchangeBy answer) := by
      rw [hparts, List.flatMap_map, List.map_map]
      exact List.map_eq_flatMap.symm
    rw [hfindings] at hmade
    have htarget : [t] = [t'] := hgathered.1.symm.trans hmade.1
    have hls : scope.kinds.map _ = ls := hgathered.2.symm.trans hmade.2
    cases htarget
    cases hls
    exact ⟨rfl, hreads⟩

/-- **The transcript of a pass** against a server that offers all that the pass needs: its readings,
and then the updates of what is listed. -/
theorem transcript {size : Nat} (hsize : max 1 size = pageSize) (bound : Nat) (limit : Option Nat) :
    ((runPass ((Behaviour.steady answer).api.access size (bound + 1)) limit scope
      r).run.run ((), [])).2.2 = scope.exchanges answer r pageSize t ws := by
  obtain ⟨es, ⟨survey, reads, updates, rfl, hreads, hconcluded⟩, hnotes, hes⟩ :=
    (Behaviour.recording_steady answer).leaves_runPass size (bound + 1) limit scope r [] ((), [])
      ⟨rfl, fun _ h => absurd h List.not_mem_nil⟩
  rw [hsize] at hreads
  rw [List.nil_append] at hnotes hes
  obtain ⟨hreads', hupdates⟩ := List.forall_mem_append.1 hes
  obtain ⟨rfl, hknown⟩ := h.eq_of_surveyed hreads hreads'
  have hupdates : updates = _ := AnsweredBy.eq_map hupdates
  rw [hnotes, Scope.exchanges, List.map_append, ← hknown, hupdates, hconcluded.map_request,
    List.flatMap_map]

end Offers

/-! ### A single workload -/

/-- The only workload of a listing is updated if it takes part and is not current. -/
theorem Listing.requests_singleton {k : Kind} {w : Workload k} {t : Target}
    (hoptsIn : w.optsIn = true) (hconsumes : w.consumes t.name = true) (hcurrent : ¬ w.IsCurrent t)
    (hns : IsName w.identity.ns) (hname : IsName w.identity.name) :
    (Listing.mk k [w]).requests t =
      [.forUpdate ⟨k, w.identity⟩ ((Workload.codec k).write (w.stamped t.key t.stamp))] := by
  have heligible : ((Listing.mk k [w]).eligible t.name).values = [w] := by
    rw [Listing.values_eligible (List.pairwise_singleton _ w)]
    exact List.filter_cons_of_pos (Bool.and_eq_true_iff.2 ⟨hoptsIn, hconsumes⟩)
  have hreplacement : w.replacement? t = some ⟨k, w.stamped t.key t.stamp⟩ := if_neg hcurrent
  have hrequest : AnyWorkload.request? ⟨k, w.stamped t.key t.stamp⟩ =
      some (.forUpdate ⟨k, w.identity⟩ ((Workload.codec k).write (w.stamped t.key t.stamp))) := by
    have hidentity := w.identity_stamped t.key t.stamp
    rw [AnyWorkload.request?, Request.replace_eq (hidentity ▸ hns) (hidentity ▸ hname), hidentity]
    rfl
  rw [Listing.requests, Listing.replacements, heligible, List.filterMap_cons_some hreplacement,
    List.filterMap_cons_some hrequest]
  rfl

/-! ### A sample server -/

/-- The items of a page are the documents that it carries. -/
theorem Reply.items_page (k : Kind) (items : List Json) (about : PageMeta) :
    (Reply.response 200 (.document (Page.document k items about))).items = items := rfl

/-- A secret carries no items. -/
theorem Reply.items_secret (secret : Secret) :
    (Reply.response 200 (.document (Secret.codec.write secret))).items = [] := by
  obtain ⟨_, data, stringData, secretType, immutable⟩ := secret
  cases data <;> cases stringData <;> cases secretType <;> cases immutable <;> rfl

namespace Sample

/-- A server that offers a secret and the document of a workload of a kind, and has one answer to
all updates. -/
def offeringDocument (secret : Secret) (k : Kind) (document : Json) (update : Reply)
    (request : Request) : Reply :=
  if request.method = "PUT" then update
  else
    match request.address.query with
    | none => .response 200 (.document (Secret.codec.write secret))
    | some _ =>
      .response 200 (.document (Page.document k
        (if request.address.path = Request.workloadsPath k "prod" then [document] else []) {}))

/-- It carries no other items. -/
theorem eq_of_mem_items_offeringDocument {secret : Secret} {k : Kind} {document : Json}
    {update : Reply} {request : Request} (hget : request.method ≠ "PUT") {item : Json}
    (hitem : item ∈ (offeringDocument secret k document update request).items) :
    item = document := by
  rw [offeringDocument, if_neg hget] at hitem
  split at hitem
  next =>
    rw [Reply.items_secret] at hitem
    cases hitem
  next =>
    rw [Reply.items_page] at hitem
    split at hitem
    next => exact List.mem_singleton.1 hitem
    next => cases hitem

/-- A server that offers a secret and a workload, and has one answer to all updates. -/
def offering {k : Kind} (secret : Secret) (w : Workload k) : Reply → Request → Reply :=
  offeringDocument secret k ((Workload.codec k).write w)

/-- The list of a workload's kind holds the workload; the other lists are empty. -/
def alone {k : Kind} (w : Workload k) (k' : Kind) : List (Workload k') :=
  if h : k = k' then [h ▸ w] else []

theorem alone_self {k : Kind} (w : Workload k) : alone w k = [w] := dif_pos rfl

theorem offers_offeringDocument (scope : Scope) {secret : Secret} {t : Target}
    (ht : secret.target? = some t) {k : Kind} {document : Json} {w : Workload k}
    (hread : (Workload.codec k).read document = some w) {name : String} (hname : IsName name)
    (update : Reply) :
    Offers (offeringDocument secret k document update) scope ⟨"prod", name⟩ 1 secret.asWritten t
      (alone w) where
  isName_ns := isName_prod
  isName_name := hname
  pageSize_lt := by decide
  fetch := Reply.read_of_carries (Reply.carries_response _) (Json.Codec.Settles.read_write secret)
  target := ht
  page {k'} _ := by
    have hpath : Request.workloadsPath k' "prod" = Request.workloadsPath k "prod" ↔ k' = k := by
      cases k <;> cases k' <;> decide
    have hitems : (if Request.workloadsPath k' "prod" = Request.workloadsPath k "prod" then
        [document] else []).mapM (Workload.codec k').read = some (alone w k') := by
      by_cases h : k' = k
      · subst h
        rw [if_pos rfl, alone_self, List.mapM_cons, hread]
        rfl
      · rw [if_neg (hpath.not.2 h), alone, dif_neg (Ne.symm h)]
        rfl
    exact Reply.read_of_carries (Reply.carries_response _) (Page.ofDocument?_document hitems {})

theorem offers_offering (scope : Scope) {secret : Secret} {t : Target}
    (ht : secret.target? = some t) {k : Kind} {w : Workload k} (hw : w.asWritten = w)
    {name : String} (hname : IsName name) (update : Reply) :
    Offers (offering secret w update) scope ⟨"prod", name⟩ 1 secret.asWritten t (alone w) :=
  offers_offeringDocument scope ht
    ((Json.Codec.Settles.read_write w).trans (congrArg some hw)) hname update

/-- A list of a kind is asked for. -/
def listed (answer : Request → Reply) (k : Kind) : Exchange :=
  exchangeBy answer (.forPage k "prod" 1 none)

/-- A secret is asked for. -/
def fetched (answer : Request → Reply) (r : SecretRef) : Exchange :=
  exchangeBy answer (.forSecret r)

/-- The update of a workload is asked for. -/
def updated {k : Kind} (answer : Request → Reply) (w : Workload k) (t : Target) : Exchange :=
  exchangeBy answer (.forUpdate ⟨k, w.identity⟩
    ((Workload.codec k).write (w.stamped t.key t.stamp)))

section

variable (answer : Request → Reply) (name : String) {k : Kind} {w : Workload k} {t : Target}
  (hoptsIn : w.optsIn = true) (hconsumes : w.consumes t.name = true) (hcurrent : ¬ w.IsCurrent t)
  (hidentity : w.identity = ⟨"prod", "web"⟩)

include hoptsIn hconsumes hcurrent hidentity

theorem requests_alone :
    (Listing.mk k (alone w k)).requests t =
      [.forUpdate ⟨k, w.identity⟩ ((Workload.codec k).write (w.stamped t.key t.stamp))] := by
  have hweb : IsName "web" := .of_all (by decide) (by decide) (by decide)
  rw [alone_self]
  exact Listing.requests_singleton hoptsIn hconsumes hcurrent (hidentity ▸ isName_prod)
    (hidentity ▸ hweb)

/-- What is exchanged in a pass over the kind of the workload. -/
theorem exchanges_only :
    (Scope.only k).exchanges answer ⟨"prod", name⟩ 1 t (alone w) =
      [listed answer k, fetched answer ⟨"prod", name⟩, updated answer w t] := by
  have hrequests := requests_alone hoptsIn hconsumes hcurrent hidentity
  have hupdates : (Scope.only k).kinds.flatMap (fun k' =>
      (Listing.mk k' (alone w k')).requests t) = _ :=
    (List.flatMap_singleton ..).trans hrequests
  rw [Scope.exchanges, hupdates]
  rfl

end

/-- What is exchanged in a pass over all kinds. -/
theorem exchanges_all (answer : Request → Reply) (name : String) {w : Workload .deployment}
    {t : Target} (hoptsIn : w.optsIn = true) (hconsumes : w.consumes t.name = true)
    (hcurrent : ¬ w.IsCurrent t) (hidentity : w.identity = ⟨"prod", "web"⟩) :
    Scope.all.exchanges answer ⟨"prod", name⟩ 1 t (alone w) =
      [fetched answer ⟨"prod", name⟩, listed answer .deployment, listed answer .statefulSet,
        listed answer .daemonSet, updated answer w t] := by
  have hrequests := requests_alone hoptsIn hconsumes hcurrent hidentity
  have hupdates : Scope.all.kinds.flatMap (fun k => (Listing.mk k (alone w k)).requests t) = _ :=
    (congrArg (· ++ []) hrequests :)
  rw [Scope.exchanges, hupdates]
  rfl

end Sample

end SecretRotation
