import SecretRotation.Proofs.Api.Addresses
import SecretRotation.Proofs.Api.Documents
import SecretRotation.Proofs.Api.Recording
import SecretRotation.Proofs.Store.Reading

/-!
# Servers that serve a store

A server serves a store if it answers from what the store holds. The secret is delivered as it is
stored. A list is delivered in pages of the workloads that are stored, in their order; a page that
leaves something out carries a token for the next page. Where the store refuses, the server refuses
with a report of the same failure.

A client of such a server reads what a pass over the store reads, whatever the pages are, as long as
it can ask for them: their tokens have to fit into the addresses of requests.

## Main definitions

* `Behaviour.Answers`: how a server answers a request.
* `Delivers`: a server delivers a list in pages.
* `Serves`: a server serves what a pass reads of a store.
* `Finds`: a computation finds what another finds without a server.

## Main results

* `quietly_readPages`: a list is read from its pages.
* `Serves.finds_survey`: what a pass reads.
-/

namespace SecretRotation

variable {ν σ τ α β : Type} {k : Kind}

/-! ### Answers of a server -/

/-- As long as a server holds some workloads, it answers a request in a certain way, and goes on to
hold them. -/
def Behaviour.Answers (b : Behaviour σ) (held : σ → OrderedMap Slot Json)
    (m : OrderedMap Slot Json) (request : Request) (p : Reply → Prop) : Prop :=
  ∀ x, held x = m → p (b.reply request x).1 ∧ held (b.reply request x).2 = m

/-- A server delivers the documents of a list, from the page of a token on, in some number of pages.
A page carries up to `pageSize` documents, which are the next ones, and it has a token exactly if
there are more. `usable` says which tokens the server may hand out. -/
def Delivers (usable : String → Prop) (b : Behaviour σ) (held : σ → OrderedMap Slot Json)
    (m : OrderedMap Slot Json) (k : Kind) (ns : String) (pageSize : Nat) :
    (pages : Nat) → (token : Option String) → (documents : List Json) → Prop
  | 0, _, _ => False
  | pages + 1, token, documents =>
    b.Answers held m (.forPage k ns pageSize token) fun reply =>
      ∃ count about, count ≤ pageSize ∧
        reply.Carries (Page.document k (documents.take count) about) ∧
        (documents.drop count = [] ∧ about.continueToken.getD "" = "" ∨
          ∃ next, documents.drop count ≠ [] ∧ about.continueToken = some next ∧ next ≠ "" ∧
            usable next ∧
            Delivers usable b held m k ns pageSize pages (some next) (documents.drop count))

/-- A server serves what passes for a secret read of a store. It delivers each list in at most so
many pages. -/
structure Serves (usable : Kind → String → Prop) (b : Behaviour σ)
    (held : σ → OrderedMap Slot Json) (s : Store) (r : SecretRef) (pageSize pages : Nat) :
    Prop where
  /-- Logging changes nothing that is held. -/
  report (e : Event) (x : σ) : held (b.report e x) = held x
  /-- The secret is delivered if it is stored. -/
  fetch : b.Answers held s.workloads (.forSecret r) fun reply =>
    match s.secrets.get? ⟨r.ns, r.name⟩ with
    | some secret => reply.Carries (Secret.codec.write secret)
    | none => reply.Reports 404 "NotFound" "secret not found"
  /-- A list is delivered in pages. -/
  list {k : Kind} (h : s.Lists k) :
    Delivers (usable k) b held s.workloads k r.ns pageSize pages none (s.documents k r.ns)
  /-- A list that fails is refused. -/
  refuse {k : Kind} (h : ¬ s.Lists k) :
    b.Answers held s.workloads (.forPage k r.ns pageSize none) fun reply =>
      reply.Reports 500 "InternalError" "etcd unavailable"

/-! ### Computations that find what is there -/

/-- A server holds some workloads all the time. -/
def Holding (held : σ → OrderedMap Slot Json) (m : OrderedMap Slot Json) :
    List Unit → σ × List Exchange → Prop :=
  fun _ x => held x.1 = m

/-- A computation finds what another one finds without a server, and changes nothing that is
known. -/
def Finds (known : List Unit → τ → Prop) (x : ExceptT Failure (ExceptT Endless (StateM τ)) α)
    (y : ExceptT Failure Id α) : Prop :=
  Quietly known (· = .ok y.run) x.run.run

namespace Finds

variable {known : List Unit → τ → Prop}

theorem pure (a : α) : Finds known (Pure.pure a) (Pure.pure a) := Quietly.pure rfl

theorem throw (failure : Failure) :
    Finds known (α := α) (throwThe Failure failure) (throwThe Failure failure) := Quietly.pure rfl

theorem bind {x : ExceptT Failure (ExceptT Endless (StateM τ)) α} {y : ExceptT Failure Id α}
    {f : α → ExceptT Failure (ExceptT Endless (StateM τ)) β} {g : α → ExceptT Failure Id β}
    (hx : Finds known x y) (hf : ∀ a, Finds known (f a) (g a)) :
    Finds known (x >>= f) (y >>= g) := by
  rw [Finds, ExceptT.run_bind, ExceptT.run_bind]
  refine Quietly.run_bind hx ?_
  cases y.run with
  | error failure => exact Quietly.pure rfl
  | ok a => exact hf a

theorem mapM {ι : Type} {f : ι → ExceptT Failure (ExceptT Endless (StateM τ)) α}
    {g : ι → ExceptT Failure Id α} (hf : ∀ i, Finds known (f i) (g i)) :
    (is : List ι) → Finds known (is.mapM f) (is.mapM g)
  | [] => Finds.pure []
  | i :: is => by
    rw [List.mapM_cons, List.mapM_cons]
    exact (hf i).bind fun a => (mapM hf is).bind fun as => Finds.pure (a :: as)

/-- What fails keeps all further things from being found. -/
theorem bind_throw {x : ExceptT Failure (ExceptT Endless (StateM τ)) α} {failure : Failure}
    (hx : Finds known x (throwThe Failure failure))
    (f : α → ExceptT Failure (ExceptT Endless (StateM τ)) β) :
    Finds known (x >>= f) (throwThe Failure failure) := by
  rw [Finds, ExceptT.run_bind]
  exact Quietly.run_bind hx (Quietly.pure rfl)

/-- A computation whose result is known. -/
theorem lift {x : ExceptT Endless (StateM τ) α} {a : Id α}
    (h : Quietly known (· = .ok a) x.run) : Finds known (liftM x) (liftM a) := by
  have hrun : (liftM x : ExceptT Failure (ExceptT Endless (StateM τ)) α).run =
      x >>= fun a => Pure.pure (Except.ok a) := bind_pure_comp Except.ok x
  rw [Finds, hrun]
  exact Quietly.run_bind h (Quietly.pure rfl)

end Finds

/-- A list that fails. -/
theorem finds_listKind_of_failed {known : List Unit → τ → Prop}
    {access : ClusterAccess (ExceptT Endless (StateM τ))} {ns : String} {fault : Fault}
    (h : Quietly known (· = .ok (.error fault)) (access.list k ns).run) :
    Finds known (listKind access ns k) (throwThe Failure (.listing k.name ns fault)) := by
  rw [Finds, listKind, ExceptT.run_bind]
  exact Quietly.run_bind (Finds.lift h) (Quietly.pure rfl)

/-! ### Requests and pages -/

section

variable {b : Behaviour σ} {held : σ → OrderedMap Slot Json} {m : OrderedMap Slot Json}

/-- A request is answered, and its reply is read. -/
theorem quietly_exchange {request : Except SendFault Request} {sent : Request} {p : Reply → Prop}
    (hrequest : request = .ok sent) (h : b.Answers held m sent p) (readDocument : Json → Option α) :
    Quietly (Holding held m)
      (fun result => ∃ reply, p reply ∧ result = .ok (reply.read readDocument))
      (exchange b.api request readDocument).run := by
  subst hrequest
  intro _ x hx
  obtain ⟨hreply, hheld⟩ := h x.1 hx
  exact ⟨⟨_, hreply, rfl⟩, hheld⟩

/-- **A list is read from its pages.** -/
theorem quietly_readPages (hreport : ∀ e x, held (b.report e x) = held x) {usable : String → Prop}
    {ns : String} (hns : IsName ns) {pageSize : Nat} (hpageSize : pageSize < 2 ^ 32)
    (husable : ∀ t, usable t → Request.Fits k ns pageSize t) :
    (pages bound : Nat) → pages ≤ bound → (token : Option String) →
      (∀ t, token = some t → usable t) → (ws : List (Workload k)) →
      Delivers usable b held m k ns pageSize pages token (ws.map (Workload.codec k).write) →
      (items : List (Workload k)) →
        Quietly (Holding held m) (· = .ok (.ok (items ++ ws.map Workload.asWritten)))
          (readPages b.api k ns pageSize bound token items).run
  | 0, _, _, _, _, _, h, _ => h.elim
  | pages + 1, 0, hbound, _, _, _, _, _ => absurd hbound (Nat.not_succ_le_zero pages)
  | pages + 1, bound + 1, hbound, token, htoken, ws, h, items => by
    have hlogged (e : Event) : Quietly (Holding held m) (· = .ok ()) (b.api.report e).run :=
      fun _ x hx => ⟨rfl, (hreport e x.1).trans hx⟩
    have hlist := Request.list_eq (k := k) hns hpageSize fun t ht => husable t (htoken t ht)
    rw [readPages, ExceptT.run_bind]
    refine (quietly_exchange hlist h (Page.ofDocument? k)).bind ?_
    rintro _ ⟨reply, ⟨count, about, -, hcarries, hnext⟩, rfl⟩
    -- The page carries the next workloads.
    have hpage : reply.read (Page.ofDocument? k) =
        .ok ⟨(ws.take count).map Workload.asWritten,
          about.continueToken.filter fun token => token != ""⟩ := by
      refine Reply.read_of_carries hcarries (Page.ofDocument?_document ?_ about)
      rw [← List.map_take, Json.Codec.mapM_read_map_write]
    rw [hpage]
    rw [← List.map_drop] at hnext
    rcases hnext with ⟨hdone, habout⟩ | ⟨next, -, habout, hnonempty, hfits, hmore⟩
    · have hnone : about.continueToken.filter (fun token => token != "") = none := by
        cases hcontinue : about.continueToken with
        | none => rfl
        | some t =>
          rw [hcontinue, Option.getD_some] at habout
          rw [habout]
          rfl
      have hall : ws.take count = ws :=
        List.take_of_length_le (List.drop_eq_nil_iff.1 (List.map_eq_nil_iff.1 hdone))
      simp only [hnone, hall]
      exact (hlogged _).run_bind (Quietly.pure rfl)
    · have hsome : about.continueToken.filter (fun token => token != "") = some next := by
        rw [habout, Option.filter_some, if_pos (bne_iff_ne.2 hnonempty)]
      simp only [hsome]
      refine (hlogged _).run_bind ?_
      have hrest := quietly_readPages hreport hns hpageSize husable pages bound
        (Nat.le_of_succ_le_succ hbound) (some next) (fun t ht => ?_) (ws.drop count) hmore
        (items ++ (ws.take count).map Workload.asWritten)
      · rwa [List.append_assoc, ← List.map_append, List.take_append_drop] at hrest
      · cases ht
        exact hfits

end

/-! ### The reading part of a pass -/

namespace Serves

variable {usable : Kind → String → Prop} {b : Behaviour σ} {held : σ → OrderedMap Slot Json}
  {s : Store} {r : SecretRef} {pageSize pages bound : Nat}
  (h : Serves usable b held s r (max 1 pageSize) pages)

include h

/-- The secret is fetched as it is stored, and says what it says there. -/
theorem finds_fetchTarget (bound : Nat) (hns : IsName r.ns) (hname : IsName r.name) :
    Finds (Holding held s.workloads) (fetchTarget (b.api.access pageSize bound) r)
      (fetchTarget (Store.instant.view s) r) := by
  have hfetch : Quietly (Holding held s.workloads)
      (· = .ok ((s.fetch r).map Secret.asWritten))
      ((b.api.access pageSize bound).fetch r).run := by
    refine (quietly_exchange (Request.fetch_eq hns hname) h.fetch Secret.codec.read).mono ?_
    rintro _ ⟨reply, hreply, rfl⟩
    rw [Store.fetch]
    cases hget : s.secrets.get? ⟨r.ns, r.name⟩ with
    | none =>
      rw [hget] at hreply
      exact congrArg Except.ok (Reply.read_of_reports hreply (by decide) _)
    | some secret =>
      rw [hget] at hreply
      exact congrArg Except.ok
        (Reply.read_of_carries hreply (Json.Codec.Settles.read_write secret))
  have hsays : fetchTarget { Store.instant.view s with
      fetch := fun _ => (s.fetch r).map Secret.asWritten } r =
        fetchTarget (Store.instant.view s) r := by
    have hview : (Store.instant.view s).fetch r = s.fetch r := rfl
    rw [fetchTarget, fetchTarget, hview]
    cases s.fetch r <;> rfl
  rw [← hsays]
  refine (Finds.lift hfetch).bind fun answer => ?_
  cases answer with
  | error fault => exact .throw _
  | ok found =>
    dsimp only
    cases found.target? with
    | none => exact .throw _
    | some target => exact .pure target

/-- The workloads of a kind are listed as they are stored. -/
theorem finds_listKind (hs : s.Orderly) (hns : IsName r.ns)
    (husable : ∀ k t, usable k t → Request.Fits k r.ns (max 1 pageSize) t)
    (hpageSize : pageSize < 2 ^ 32) (hpages : max 1 pages ≤ bound) (k : Kind) :
    Finds (Holding held s.workloads) (listKind (b.api.access pageSize bound) r.ns k)
      (listKind (Store.instant.view s) r.ns k) := by
  have hlist : Quietly (Holding held s.workloads) (· = .ok (s.list k r.ns))
      ((b.api.access pageSize bound).list k r.ns).run := by
    have hsize : max 1 pageSize < 2 ^ 32 := by omega
    by_cases hlists : s.Lists k
    · have hdelivers := h.list hlists
      rw [hs.documents_eq] at hdelivers
      rw [hs.list_eq hlists, ← hs.map_asWritten_members]
      exact quietly_readPages h.report hns hsize (husable k) pages bound
        (le_of_max_le_right hpages) none nofun _
        hdelivers []
    · rw [Store.list_of_not_lists hlists]
      obtain ⟨bound, rfl⟩ : ∃ n, bound = n + 1 := Nat.exists_eq_add_one.2 (by omega)
      have hrequest : Request.list k r.ns (max 1 pageSize) none = _ :=
        Request.list_eq hns hsize nofun
      change Quietly _ _ (readPages b.api k r.ns (max 1 pageSize) (bound + 1) none []).run
      rw [readPages, ExceptT.run_bind]
      refine (quietly_exchange hrequest (h.refuse hlists) (Page.ofDocument? k)).bind ?_
      rintro _ ⟨reply, hreply, rfl⟩
      rw [Reply.read_of_reports hreply (by decide)]
      exact Quietly.pure rfl
  refine (Finds.lift hlist).bind fun answer => ?_
  cases answer with
  | error fault => exact .throw _
  | ok workloads => exact .pure _

/-- **A client reads what is stored.** -/
theorem finds_survey (hs : s.Orderly) (hns : IsName r.ns) (hname : IsName r.name)
    (husable : ∀ k t, usable k t → Request.Fits k r.ns (max 1 pageSize) t)
    (hpageSize : pageSize < 2 ^ 32) (hpages : max 1 pages ≤ bound) (scope : Scope) :
    Finds (Holding held s.workloads) (survey (b.api.access pageSize bound) scope r)
      (survey (Store.instant.view s) scope r) := by
  have hfetch := h.finds_fetchTarget bound hns hname
  have hlist := h.finds_listKind hs hns husable hpageSize hpages
  cases scope with
  | all => exact hfetch.bind fun t => (Finds.mapM hlist Kind.all).bind fun ls => .pure (t, ls)
  | only k => exact (hlist k).bind fun l => hfetch.bind fun t => .pure (t, [l])

end Serves

end SecretRotation
