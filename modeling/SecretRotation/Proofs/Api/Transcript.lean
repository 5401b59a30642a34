import SecretRotation.Api.Session
import SecretRotation.Proofs.Pass.Course

/-!
# Transcripts of passes

The transcript of a pass against an API server is what it exchanges with it: its requests with their
replies, in order. Whatever the server does, the transcript is of a known form.

A pass first reads what its scope asks for, one thing after the other. The first thing that cannot
be read ends the pass, which fails for this reason, and nothing is written. Otherwise the transcript
goes on with the updates of the workloads that are not current, and nothing is read any more; then
the pass comes to a report, or to the failures of workloads. If the list of some kind does not come
to an end, neither does the pass, and again nothing is written.

## Main definitions

* `Exchange`, `Exchanged`, `Paged`: what is exchanged for a request, and for a list.
* `Reading`, `Scope.readings`: the things that a pass reads, in order.
* `Reading.Gives`, `Surveyed`: what is exchanged for one of them, and for all of them.
* `Listing.requests`: the updates of a listing.
* `Concluded`: what is exchanged after all has been read.

## Main results

* `Surveyed.append`, `Surveyed.append_failed`: some things are read, and then others.
* `Surveyed.ofReading`: why nothing is written.
* `Surveyed.haveMethod`, `Concluded.haveMethod`: what is read is not written, and vice versa.
-/

namespace SecretRotation

variable {α β : Type} {k : Kind}

/-! ### Exchanges -/

/-- A request that was sent, and the reply. -/
structure Exchange where
  request : Request
  reply : Reply

/-- What is exchanged for a request, and what it comes to. A request that cannot be put together is
not sent. -/
inductive Exchanged (request : Except SendFault Request) (readDocument : Json → Option α) :
    Except Fault α → List Exchange → Prop
  | unsendable {fault : SendFault} (h : request = .error fault) :
      Exchanged request readDocument (.error (.unsendable fault)) []
  | sent {r : Request} (h : request = .ok r) (reply : Reply) :
      Exchanged request readDocument (reply.read readDocument) [⟨r, reply⟩]

/-- What is exchanged for a list, from the page of a token on, and what it comes to: at most `bound`
pages, up to the first that fails or has no token. `items` are those of the pages before. -/
inductive Paged (k : Kind) (ns : String) (pageSize : Nat) :
    (bound : Nat) → (token : Option String) → (items : List (Workload k)) →
      Except Endless (Except Fault (List (Workload k))) → List Exchange → Prop
  | endless {token items} : Paged k ns pageSize 0 token items (.error .endless) []
  | failed {bound token items fault es}
      (h : Exchanged (Request.list k ns pageSize token) (Page.ofDocument? k) (.error fault) es) :
      Paged k ns pageSize (bound + 1) token items (.ok (.error fault)) es
  | last {bound token items page es}
      (h : Exchanged (Request.list k ns pageSize token) (Page.ofDocument? k) (.ok page) es)
      (hnext : page.next = none) :
      Paged k ns pageSize (bound + 1) token items (.ok (.ok (items ++ page.items))) es
  | more {bound token items page next result es es'}
      (h : Exchanged (Request.list k ns pageSize token) (Page.ofDocument? k) (.ok page) es)
      (hnext : page.next = some next)
      (hrest : Paged k ns pageSize bound (some next) (items ++ page.items) result es') :
      Paged k ns pageSize (bound + 1) token items result (es ++ es')

/-! ### Reading -/

/-- Something that a pass reads. -/
inductive Reading
  /-- The secret. -/
  | secret
  /-- The workloads of a kind. -/
  | workloads (k : Kind)

/-- What a pass reads, in order. -/
def Scope.readings : Scope → List Reading
  | .all => .secret :: Kind.all.map .workloads
  | .only k => [.workloads k, .secret]

/-- Something that a pass has read. -/
inductive Finding
  /-- What the secret says. -/
  | target (t : Target)
  /-- The workloads of a kind. -/
  | listing (l : Listing)

namespace Finding

/-- What the secret says, if this has been read. -/
def target? : Finding → Option Target
  | .target t => some t
  | .listing _ => none

/-- The workloads of a kind, if these have been read. -/
def listing? : Finding → Option Listing
  | .target _ => none
  | .listing l => some l

theorem filterMap_target?_map : (ls : List Listing) → (ls.map listing).filterMap target? = []
  | [] => rfl
  | _ :: ls => filterMap_target?_map ls

theorem filterMap_listing?_map : (ls : List Listing) → (ls.map listing).filterMap listing? = ls
  | [] => rfl
  | l :: ls => congrArg (l :: ·) (filterMap_listing?_map ls)

end Finding

section

variable (r : SecretRef) (pageSize bound : Nat)

/-- What is exchanged for something that a pass reads, and what it comes to. -/
inductive Reading.Gives :
    Reading → Except Endless (Except Failure Finding) → List Exchange → Prop
  | target {secret t es} (h : Exchanged (Request.fetch r) Secret.codec.read (.ok secret) es)
      (ht : secret.target? = some t) : Gives .secret (.ok (.ok (.target t))) es
  | unversioned {secret es}
      (h : Exchanged (Request.fetch r) Secret.codec.read (.ok secret) es)
      (ht : secret.target? = none) : Gives .secret (.ok (.error (.unversioned r.text))) es
  | unfetched {fault es}
      (h : Exchanged (Request.fetch r) Secret.codec.read (.error fault) es) :
      Gives .secret (.ok (.error (.fetching r.text fault))) es
  | listing {k ws es} (h : Paged k r.ns pageSize bound none [] (.ok (.ok ws)) es) :
      Gives (.workloads k) (.ok (.ok (.listing ⟨k, ws⟩))) es
  | unlisted {k fault es} (h : Paged k r.ns pageSize bound none [] (.ok (.error fault)) es) :
      Gives (.workloads k) (.ok (.error (.listing k.name r.ns fault))) es
  | endless {k es} (h : Paged k r.ns pageSize bound none [] (.error .endless) es) :
      Gives (.workloads k) (.error .endless) es

/-- Several things have been read, with what is found and exchanged for each. -/
abbrev Found (readings : List Reading) (parts : List (Finding × List Exchange)) : Prop :=
  List.Forall₂ (fun reading part => reading.Gives r pageSize bound (.ok (.ok part.1)) part.2)
    readings parts

/-- What is exchanged for several things, and what they come to: to something made of all that is
found, or else to what the first comes to that cannot be read. Nothing after this one is asked
for. -/
inductive Surveyed (made : α → List Finding → Prop) :
    List Reading → Except Endless (Except Failure α) → List Exchange → Prop
  | complete {readings parts a} (h : Found r pageSize bound readings parts)
      (hmade : made a (parts.map Prod.fst)) :
      Surveyed made readings (.ok (.ok a)) (parts.flatMap Prod.snd)
  | failed {before reading after parts failure es} (h : Found r pageSize bound before parts)
      (hfailed : reading.Gives r pageSize bound (.ok (.error failure)) es) :
      Surveyed made (before ++ reading :: after) (.ok (.error failure))
        (parts.flatMap Prod.snd ++ es)
  | endless {before reading after parts es} (h : Found r pageSize bound before parts)
      (hendless : reading.Gives r pageSize bound (.error .endless) es) :
      Surveyed made (before ++ reading :: after) (.error .endless) (parts.flatMap Prod.snd ++ es)

end

namespace Surveyed

variable {r : SecretRef} {pageSize bound : Nat} {p : α → List Finding → Prop}
  {q : β → List Finding → Prop} {readings readings' : List Reading} {es es' : List Exchange}

/-- A single thing is read. -/
theorem found {reading : Reading} {finding : Finding} {a : α}
    (h : reading.Gives r pageSize bound (.ok (.ok finding)) es) (ha : p a [finding]) :
    Surveyed r pageSize bound p [reading] (.ok (.ok a)) es := by
  have hcomplete : Surveyed r pageSize bound p [reading] (.ok (.ok a))
      ([(finding, es)].flatMap Prod.snd) := .complete (.cons h .nil) ha
  rwa [List.flatMap_singleton] at hcomplete

/-- After some things have been found, the others are read. -/
theorem append {parts : List (Finding × List Exchange)} {result : Except Endless (Except Failure β)}
    (h : Found r pageSize bound readings parts)
    (h' : Surveyed r pageSize bound (fun b fs => q b (parts.map Prod.fst ++ fs)) readings' result
      es') :
    Surveyed r pageSize bound q (readings ++ readings') result (parts.flatMap Prod.snd ++ es') := by
  cases h' with
  | complete hfound hmade =>
    rw [← List.map_append] at hmade
    rw [← List.flatMap_append]
    exact .complete (List.rel_append h hfound) hmade
  | failed hfound hfailed =>
    rw [← List.append_assoc, ← List.append_assoc, ← List.flatMap_append]
    exact .failed (List.rel_append h hfound) hfailed
  | endless hfound hendless =>
    rw [← List.append_assoc, ← List.append_assoc, ← List.flatMap_append]
    exact .endless (List.rel_append h hfound) hendless

/-- What cannot be read keeps all further things from being read. -/
theorem append_failed {failure : Failure}
    (h : Surveyed r pageSize bound p readings (.ok (.error failure)) es) :
    Surveyed r pageSize bound q (readings ++ readings') (.ok (.error failure)) es := by
  cases h with
  | failed hfound hfailed =>
    rw [List.append_assoc]
    exact .failed hfound hfailed

theorem append_endless {e : Endless}
    (h : Surveyed r pageSize bound p readings (.error e) es) :
    Surveyed r pageSize bound q (readings ++ readings') (.error e) es := by
  cases h with
  | endless hfound hendless =>
    rw [List.append_assoc]
    exact .endless hfound hendless

end Surveyed

/-! ### Writing -/

/-- What a pass makes of all that it has read. -/
def Gathered (survey : Target × List Listing) (findings : List Finding) : Prop :=
  findings.filterMap Finding.target? = [survey.1] ∧
    findings.filterMap Finding.listing? = survey.2

/-- The request for an update, if it can be put together. -/
def AnyWorkload.request? (w : AnyWorkload) : Option Request := (Request.replace w.2).toOption

/-- The requests for the updates of a listing that can be put together, in order. -/
def Listing.requests (t : Target) (l : Listing) : List Request :=
  (l.replacements t).filterMap AnyWorkload.request?

/-- What a pass comes to after it has read what it could, and what is exchanged for its updates. If
something could not be read there are none. -/
inductive Concluded : Except Endless (Except Failure (Target × List Listing)) →
    Except Endless (Except Failure Report) → List Exchange → Prop
  | endless : Concluded (.error .endless) (.error .endless) []
  | failed {failure} : Concluded (.ok (.error failure)) (.ok (.error failure)) []
  | complete {t ls tally updates}
      (h : updates.map (·.request) = List.flatMap (Listing.requests t) ls) :
      Concluded (.ok (.ok (t, ls))) (.ok (Tally.outcome tally)) updates

/-! ### Methods -/

/-- All of some exchanges are for requests with a method. -/
def HaveMethod (method : String) (es : List Exchange) : Prop :=
  ∀ e ∈ es, e.request.method = method

theorem HaveMethod.nil {method : String} : HaveMethod method [] :=
  fun _ he => absurd he List.not_mem_nil

theorem HaveMethod.append {method : String} {es es' : List Exchange} (h : HaveMethod method es)
    (h' : HaveMethod method es') : HaveMethod method (es ++ es') :=
  List.forall_mem_append.2 ⟨h, h'⟩

theorem Request.method_of_get {address : String} {request : Request}
    (h : get address = .ok request) : request.method = "GET" := by
  rw [get] at h
  cases haddress : Address.ofText address with
  | error fault =>
    rw [haddress] at h
    cases h
  | ok address =>
    rw [haddress] at h
    cases h
    rfl

theorem Request.method_of_fetch {r : SecretRef} {request : Request}
    (h : fetch r = .ok request) : request.method = "GET" := by
  rw [fetch] at h
  cases hname : nonemptyName r.name with
  | error fault =>
    rw [hname] at h
    cases h
  | ok name =>
    rw [hname] at h
    exact method_of_get h

theorem AnyWorkload.replace_of_request? {w : AnyWorkload} {request : Request}
    (h : w.request? = some request) : Request.replace w.2 = .ok request := by
  rw [request?] at h
  cases hreplace : Request.replace w.2 with
  | error fault =>
    rw [hreplace] at h
    cases h
  | ok request' =>
    rw [hreplace] at h
    cases h
    rfl

/-- A request to replace a workload carries its document, to an address made from its identity. -/
theorem Request.eq_of_replace {w : Workload k} {request : Request} (h : replace w = .ok request) :
    ∃ address, Address.ofText (workloadsPath k w.identity.ns ++ "/" ++ w.identity.name ++
        "?&fieldManager=" ++ operatorName) = .ok address ∧
      request = ⟨"PUT", address, .document ((Workload.codec k).write w)⟩ := by
  rw [replace, nonemptyName] at h
  split at h
  next => cases h
  next =>
    cases haddress : Address.ofText (workloadsPath k w.identity.ns ++ "/" ++ w.identity.name ++
        "?&fieldManager=" ++ operatorName) with
    | error fault =>
      simp only [bind, Except.bind, haddress] at h
      cases h
    | ok address =>
      simp only [bind, Except.bind, haddress] at h
      cases h
      exact ⟨address, rfl, rfl⟩

theorem AnyWorkload.method_of_request? {w : AnyWorkload} {request : Request}
    (h : w.request? = some request) : request.method = "PUT" := by
  obtain ⟨_, -, rfl⟩ := Request.eq_of_replace (replace_of_request? h)
  rfl

theorem Exchanged.haveMethod {request : Except SendFault Request} {readDocument : Json → Option α}
    {result : Except Fault α} {es : List Exchange} {method : String}
    (h : Exchanged request readDocument result es)
    (hmethod : ∀ r, request = .ok r → r.method = method) : HaveMethod method es := by
  cases h with
  | unsendable _ => exact .nil
  | sent hr reply =>
    intro e he
    rw [List.mem_singleton.1 he]
    exact hmethod _ hr

/-- A list is read. -/
theorem Paged.haveMethod {ns : String} {pageSize bound : Nat} {token : Option String}
    {items : List (Workload k)} {result : Except Endless (Except Fault (List (Workload k)))}
    {es : List Exchange} (h : Paged k ns pageSize bound token items result es) :
    HaveMethod "GET" es := by
  induction h with
  | endless => exact .nil
  | failed h => exact h.haveMethod fun _ => Request.method_of_get
  | last h _ => exact h.haveMethod fun _ => Request.method_of_get
  | more h _ _ ih => exact (h.haveMethod fun _ => Request.method_of_get).append ih

section

variable {r : SecretRef} {pageSize bound : Nat}

theorem Reading.Gives.haveMethod {reading : Reading}
    {result : Except Endless (Except Failure Finding)} {es : List Exchange}
    (h : reading.Gives r pageSize bound result es) : HaveMethod "GET" es := by
  cases h with
  | target h _ => exact h.haveMethod fun _ => Request.method_of_fetch
  | unversioned h _ => exact h.haveMethod fun _ => Request.method_of_fetch
  | unfetched h => exact h.haveMethod fun _ => Request.method_of_fetch
  | listing h => exact h.haveMethod
  | unlisted h => exact h.haveMethod
  | endless h => exact h.haveMethod

theorem haveMethod_of_found {readings : List Reading} {parts : List (Finding × List Exchange)}
    (h : Found r pageSize bound readings parts) : HaveMethod "GET" (parts.flatMap Prod.snd) := by
  induction h with
  | nil => exact .nil
  | cons h _ ih => exact h.haveMethod.append ih

/-- Whatever a pass reads is read. -/
theorem Surveyed.haveMethod {made : α → List Finding → Prop} {readings : List Reading}
    {result : Except Endless (Except Failure α)} {es : List Exchange}
    (h : Surveyed r pageSize bound made readings result es) : HaveMethod "GET" es := by
  cases h with
  | complete h _ => exact haveMethod_of_found h
  | failed h hfailed => exact (haveMethod_of_found h).append hfailed.haveMethod
  | endless h hendless => exact (haveMethod_of_found h).append hendless.haveMethod

/-- What keeps a pass from reading is a failure of reading. -/
theorem Surveyed.ofReading {made : α → List Finding → Prop} {readings : List Reading}
    {failure : Failure} {es : List Exchange}
    (h : Surveyed r pageSize bound made readings (.ok (.error failure)) es) :
    failure.OfReading := by
  cases h with
  | failed _ hfailed => cases hfailed <;> exact trivial

end

/-! ### Conclusions -/

namespace Concluded

variable {survey : Except Endless (Except Failure (Target × List Listing))}
  {result : Except Endless (Except Failure Report)} {updates : List Exchange}

/-- What follows when all has been read is written. -/
theorem haveMethod (h : Concluded survey result updates) : HaveMethod "PUT" updates := by
  cases h with
  | endless => exact .nil
  | failed => exact .nil
  | @complete t ls _ _ h =>
    intro e he
    have hrequest : e.request ∈ ls.flatMap (Listing.requests t) := by
      rw [← h]
      exact List.mem_map_of_mem he
    obtain ⟨l, -, hl⟩ := List.mem_flatMap.1 hrequest
    obtain ⟨w, -, hw⟩ := List.mem_filterMap.1 hl
    exact AnyWorkload.method_of_request? hw

theorem eq_nil (h : Concluded survey result updates) (hsurvey : ∀ found, survey ≠ .ok (.ok found)) :
    updates = [] := by
  cases h with
  | endless => rfl
  | failed => rfl
  | complete _ => exact absurd rfl (hsurvey _)

theorem map_request {t : Target} {ls : List Listing}
    (h : Concluded (.ok (.ok (t, ls))) result updates) :
    updates.map (·.request) = ls.flatMap (Listing.requests t) := by
  cases h with
  | complete h => exact h

theorem eq_of_failed {failure : Failure}
    (h : Concluded (.ok (.error failure)) result updates) : result = .ok (.error failure) := by
  cases h with
  | failed => rfl

/-- A failure of reading can only come from reading. -/
theorem failed_of_eq {failure : Failure} (h : Concluded survey result updates)
    (hresult : result = .ok (.error failure)) (hreading : failure.OfReading) :
    survey = .ok (.error failure) := by
  cases h with
  | endless => cases hresult
  | failed =>
    cases hresult
    rfl
  | complete _ => exact absurd hreading (Tally.not_ofReading_of_outcome (Except.ok.inj hresult))

end Concluded

end SecretRotation
