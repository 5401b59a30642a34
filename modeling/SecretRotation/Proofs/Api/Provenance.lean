import SecretRotation.Proofs.Api.Transcript
import SecretRotation.Proofs.Json.CodecLaws

/-!
# Where updates come from

Every update that a pass asks for can be traced back to two of its readings. A page of a list has
carried a document, and the workload was read from this document. The secret has been fetched, and
it says under which key and at which version the workload is stamped. Nothing else goes into the
update: its body is the document of the workload as it was listed, with new stamps.

## Main definitions

* `Reply.items`, `carriedItems`: the documents that a page carries, and those of several pages.
* `Traced`: an update goes back to a document and to a secret.

## Main results

* `Paged.mapM_read_items`: the workloads of a list are read from the documents that its pages carry.
* `Listing.exists_last_of_mem_eligible`: which of several copies of a workload takes part.
* `traced_of_mem_updates`: every update of a transcript can be traced back.
-/

namespace SecretRotation

variable {k : Kind}

/-! ### The documents on a page -/

/-- The documents that a reply carries as items of a list. A refusal carries none. -/
def Reply.items : Reply → List Json
  | .broken _ => []
  | .response status body =>
    if Refusal.isStatus status then []
    else ((body.document?.bind (Json.member? "items")).bind Json.items?).getD []

theorem Json.lookup_eq_head? (name : String) :
    (members : List (String × Json)) → members.lookup name = (occurrences members name).head?
  | [] => rfl
  | (name', value) :: members => by
    have ih := lookup_eq_head? name members
    rw [occurrences] at ih ⊢
    by_cases h : name' = name
    · subst h
      rw [List.lookup_cons_self, List.filter_cons, beq_self_eq_true, if_pos rfl, List.map_cons,
        List.head?_cons]
    · have hne : (name == name') = false := beq_false_of_ne (Ne.symm h)
      have hne' : (name' == name) = false := beq_false_of_ne h
      rw [List.filter_cons, hne', List.lookup_cons, hne]
      exact ih

/-- A member that must not come twice is the first of its name. -/
theorem Json.member?_of_atMostOne? {members : List (String × Json)} {name : String} {value : Json}
    (h : atMostOne? members name = some (some value)) :
    (Json.obj members).member? name = some value := by
  rw [atMostOne?] at h
  split at h
  next => cases h
  next value' hvalue =>
    cases h
    rw [member?, lookup_eq_head?, hvalue]
    rfl
  next => cases h

theorem Page.exists_items {members : List (String × Json)} {page : Page k}
    (h : ofDocument? k (.obj members) = some page) :
    ∃ value, Json.atMostOne? members "items" = some (some value) ∧
      readItems k value = some page.items := by
  rw [ofDocument?] at h
  obtain ⟨-, -, hpassed⟩ := Option.bind_eq_some_iff.1 h
  obtain ⟨items?, hmember, hrest⟩ := Option.bind_eq_some_iff.1 hpassed
  obtain ⟨value, rfl, hread⟩ := Option.bind_eq_some_iff.1 hrest
  obtain ⟨items, hitems, habout⟩ := Option.bind_eq_some_iff.1 hread
  obtain ⟨about?, -, h⟩ := Option.bind_eq_some_iff.1 habout
  refine ⟨value, hmember, hitems.trans (congrArg some ?_)⟩
  split at h
  all_goals
    obtain ⟨about, -, hpage⟩ := Option.bind_eq_some_iff.1 h
    cases hpage
    rfl

/-- The workloads on a page are read from the documents that it carries. -/
theorem Page.mapM_read_items {reply : Reply} {page : Page k}
    (h : reply.read (Page.ofDocument? k) = .ok page) :
    reply.items.mapM (Workload.codec k).read = some page.items := by
  cases reply with
  | broken message => cases h
  | response status body =>
    rw [Reply.read] at h
    rw [Reply.items]
    split at h
    next => cases h
    next hstatus =>
      rw [if_neg hstatus]
      cases hpage : body.document?.bind (ofDocument? k) with
      | none =>
        rw [hpage] at h
        cases h
      | some page' =>
        rw [hpage] at h
        cases h
        obtain ⟨document, hdocument, hpage⟩ := Option.bind_eq_some_iff.1 hpage
        rw [hdocument, Option.bind_some]
        cases document with
        | obj members =>
          obtain ⟨value, hmember, hitems⟩ := exists_items hpage
          rw [Json.member?_of_atMostOne? hmember, Option.bind_some]
          cases value with
          | null => exact hitems
          | arr items => exact hitems
          | _ => cases hitems
        | _ => cases hpage

/-! ### Listed workloads -/

/-- An exchange among some has carried a document from which a workload is read. -/
def Carried (es : List Exchange) (w : Workload k) : Prop :=
  ∃ e ∈ es, ∃ item ∈ e.reply.items, (Workload.codec k).read item = some w

theorem Carried.mono {es es' : List Exchange} {w : Workload k} (h : Carried es w)
    (hes : ∀ e ∈ es, e ∈ es') : Carried es' w :=
  h.imp fun e ⟨he, hw⟩ => ⟨hes e he, hw⟩

/-- The documents that some exchanges carry as items of lists. -/
def carriedItems (es : List Exchange) : List Json := es.flatMap fun e => e.reply.items

theorem Exchanged.mapM_read_items {request : Except SendFault Request} {page : Page k}
    {es : List Exchange} (h : Exchanged request (Page.ofDocument? k) (.ok page) es) :
    (carriedItems es).mapM (Workload.codec k).read = some page.items := by
  generalize hpage : (Except.ok page : Except Fault (Page k)) = result at h
  cases h with
  | unsendable _ => cases hpage
  | sent _ reply =>
    rw [carriedItems, List.flatMap_singleton]
    exact Page.mapM_read_items hpage.symm

/-- **The workloads of a list are read from the documents that its pages carry**, in order. -/
theorem Paged.exists_mapM_read_items {ns : String} {pageSize bound : Nat} {token : Option String}
    {items ws : List (Workload k)} {es : List Exchange}
    (h : Paged k ns pageSize bound token items (.ok (.ok ws)) es) :
    ∃ ws', ws = items ++ ws' ∧ (carriedItems es).mapM (Workload.codec k).read = some ws' := by
  generalize hresult : (Except.ok (Except.ok ws) :
    Except Endless (Except Fault (List (Workload k)))) = result at h
  induction h with
  | endless => cases hresult
  | failed _ => cases hresult
  | last hpage _ =>
    cases hresult
    exact ⟨_, rfl, hpage.mapM_read_items⟩
  | @more _ _ items page _ _ _ _ hpage _ _ ih =>
    obtain ⟨ws', rfl, hread⟩ := ih hresult
    refine ⟨page.items ++ ws', List.append_assoc .., ?_⟩
    rw [carriedItems, List.flatMap_append, ← carriedItems, ← carriedItems, List.mapM_append,
      hpage.mapM_read_items, hread]
    rfl

theorem Paged.mapM_read_items {ns : String} {pageSize bound : Nat} {token : Option String}
    {ws : List (Workload k)} {es : List Exchange}
    (h : Paged k ns pageSize bound token [] (.ok (.ok ws)) es) :
    (carriedItems es).mapM (Workload.codec k).read = some ws := by
  obtain ⟨ws', rfl, hread⟩ := h.exists_mapM_read_items
  exact hread

/-- A workload that is listed has been carried by a page. -/
theorem Paged.carried {ns : String} {pageSize bound : Nat} {token : Option String}
    {ws : List (Workload k)} {es : List Exchange}
    (h : Paged k ns pageSize bound token [] (.ok (.ok ws)) es) {w : Workload k} (hw : w ∈ ws) :
    Carried es w := by
  have hread := Json.forall₂_of_mapM_eq_some h.mapM_read_items
  obtain ⟨item, hitem, hread⟩ := Json.exists_mem_of_forall₂ hread.flip hw
  obtain ⟨e, he, hitem⟩ := List.mem_flatMap.1 hitem
  exact ⟨e, he, item, hitem, hread⟩

/-- A workload that takes part is the last of its identity in the list that does. -/
theorem Listing.exists_last_of_mem_eligible {l : Listing} {secretName : String}
    {w : Workload l.kind} (h : w ∈ (l.eligible secretName).values) :
    ∃ ahead behind, l.workloads = ahead ++ w :: behind ∧
      w.optsIn = true ∧ w.consumes secretName = true ∧
      ∀ w' ∈ behind, w'.optsIn = true → w'.consumes secretName = true →
        w'.identity ≠ w.identity := by
  obtain ⟨e, he, rfl⟩ := List.mem_map.1 h
  obtain ⟨ahead, behind, hsplit, hbehind⟩ := OrderedMap.exists_last_of_mem_ofList he
  obtain ⟨ahead', rest, hsplit, -, hrest⟩ := List.map_eq_append_iff.1 hsplit
  obtain ⟨w, behind', rfl, hw, hbehind'⟩ := List.map_eq_cons_iff.1 hrest
  obtain ⟨before, after, hworkloads, -, hafter⟩ := List.filter_eq_append_iff.1 hsplit
  obtain ⟨between, after, rfl, -, htakesPart, hafter⟩ := List.filter_eq_cons_iff.1 hafter
  obtain ⟨hoptsIn, hconsumes⟩ := Bool.and_eq_true_iff.1 htakesPart
  subst hw
  refine ⟨before ++ between, after, by rw [hworkloads, List.append_assoc], hoptsIn, hconsumes, ?_⟩
  intro w' hw' hoptsIn' hconsumes'
  have hmem : w' ∈ behind' := hafter ▸ List.mem_filter.2
    ⟨hw', Bool.and_eq_true_iff.2 ⟨hoptsIn', hconsumes'⟩⟩
  exact hbehind _ (hbehind' ▸ List.mem_map_of_mem hmem)

/-- The workloads that take part have been listed. -/
theorem Listing.of_mem_eligible {l : Listing} {secretName : String} {w : Workload l.kind}
    (h : w ∈ (l.eligible secretName).values) :
    w ∈ l.workloads ∧ w.optsIn = true ∧ w.consumes secretName = true := by
  obtain ⟨ahead, behind, hsplit, hoptsIn, hconsumes, -⟩ := exists_last_of_mem_eligible h
  exact ⟨hsplit ▸ List.mem_append_right _ List.mem_cons_self, hoptsIn, hconsumes⟩

/-! ### The reading part of a pass -/

/-- An exchange among some has fetched a secret. -/
def Fetched (r : SecretRef) (es : List Exchange) (secret : Secret) : Prop :=
  ∃ e ∈ es, Request.fetch r = .ok e.request ∧ e.reply.read Secret.codec.read = .ok secret

section

variable {r : SecretRef} {pageSize bound : Nat} {readings : List Reading}

theorem exists_gives_of_found {parts : List (Finding × List Exchange)}
    (h : Found r pageSize bound readings parts) {finding : Finding}
    (hfinding : finding ∈ parts.map Prod.fst) :
    ∃ (reading : Reading) (es : List Exchange),
      reading.Gives r pageSize bound (.ok (.ok finding)) es ∧
        ∀ e ∈ es, e ∈ parts.flatMap Prod.snd := by
  induction h with
  | nil => cases hfinding
  | @cons reading part readings parts hpart _ ih =>
    rcases List.mem_cons.1 hfinding with rfl | hfinding
    · exact ⟨reading, part.2, hpart, fun e he => List.mem_append_left _ he⟩
    · obtain ⟨reading', es, hgives, hes⟩ := ih hfinding
      exact ⟨reading', es, hgives, fun e he => List.mem_append_right _ (hes e he)⟩

/-- The secret is fetched by a single request. -/
theorem Reading.Gives.exists_fetch {finding : Finding} {es : List Exchange}
    (h : Reading.secret.Gives r pageSize bound (.ok (.ok finding)) es) :
    ∃ e secret t, es = [e] ∧ Request.fetch r = .ok e.request ∧
      e.reply.read Secret.codec.read = .ok secret ∧ secret.target? = some t ∧
      finding = .target t := by
  cases h with
  | @target secret t _ hsecret ht =>
    generalize hresult : (Except.ok secret : Except Fault Secret) = result at hsecret
    cases hsecret with
    | unsendable _ => cases hresult
    | sent hrequest reply => exact ⟨_, secret, t, rfl, hrequest, hresult.symm, ht, rfl⟩

theorem Reading.Gives.fetched {reading : Reading} {t : Target} {es : List Exchange}
    (h : reading.Gives r pageSize bound (.ok (.ok (.target t))) es) :
    ∃ secret, Fetched r es secret ∧ secret.target? = some t := by
  cases reading with
  | secret =>
    obtain ⟨e, secret, t, rfl, hrequest, hread, ht, heq⟩ := h.exists_fetch
    cases heq
    exact ⟨secret, ⟨e, List.mem_cons_self, hrequest, hread⟩, ht⟩
  | workloads k => cases h

theorem Reading.Gives.paged {reading : Reading} {l : Listing} {es : List Exchange}
    (h : reading.Gives r pageSize bound (.ok (.ok (.listing l))) es) :
    Paged l.kind r.ns pageSize bound none [] (.ok (.ok l.workloads)) es := by
  cases h with
  | listing hpages => exact hpages

variable {t : Target} {ls : List Listing} {reads : List Exchange}
  (h : Surveyed r pageSize bound Gathered readings (.ok (.ok (t, ls))) reads)

include h

/-- The version to which workloads are brought is that of a secret that has been fetched. -/
theorem Surveyed.fetched : ∃ secret, Fetched r reads secret ∧ secret.target? = some t := by
  cases h with
  | @complete _ parts _ hfound hmade =>
    have ht : t ∈ (parts.map Prod.fst).filterMap Finding.target? := by
      rw [hmade.1]
      exact List.mem_singleton_self t
    obtain ⟨finding, hfinding, htarget⟩ := List.mem_filterMap.1 ht
    cases finding with
    | listing l => cases htarget
    | target t' =>
      cases htarget
      obtain ⟨reading, es, hgives, hes⟩ := exists_gives_of_found hfound hfinding
      obtain ⟨secret, ⟨e, he, hsecret⟩, ht⟩ := hgives.fetched
      exact ⟨secret, ⟨e, hes e he, hsecret⟩, ht⟩

/-- A listing has been read from its pages. -/
theorem Surveyed.exists_pages {l : Listing} (hl : l ∈ ls) :
    ∃ pages, (∀ e ∈ pages, e ∈ reads) ∧
      Paged l.kind r.ns pageSize bound none [] (.ok (.ok l.workloads)) pages := by
  cases h with
  | @complete _ parts _ hfound hmade =>
    have hl : l ∈ (parts.map Prod.fst).filterMap Finding.listing? := by
      rw [hmade.2]
      exact hl
    obtain ⟨finding, hfinding, hlisting⟩ := List.mem_filterMap.1 hl
    cases finding with
    | target t' => cases hlisting
    | listing l' =>
      cases hlisting
      obtain ⟨reading, es, hgives, hes⟩ := exists_gives_of_found hfound hfinding
      exact ⟨es, hes, hgives.paged⟩

/-- A workload of a listing has been carried by a page. -/
theorem Surveyed.carried {l : Listing} (hl : l ∈ ls) {w : Workload l.kind}
    (hw : w ∈ l.workloads) : Carried reads w := by
  obtain ⟨pages, hpages, hpaged⟩ := h.exists_pages hl
  exact (hpaged.carried hw).mono hpages

end

/-- A pass fetches the secret once, and a pass over one kind has listed its workloads by then. -/
theorem Surveyed.exists_fetch {r : SecretRef} {pageSize bound : Nat} {scope : Scope} {t : Target}
    {ls : List Listing} {reads : List Exchange}
    (h : Surveyed r pageSize bound Gathered scope.readings (.ok (.ok (t, ls))) reads) :
    ∃ ahead e behind secret, reads = ahead ++ e :: behind ∧ Request.fetch r = .ok e.request ∧
      e.reply.read Secret.codec.read = .ok secret ∧ secret.target? = some t ∧
      (scope ≠ .all → ∀ l ∈ ls, ∀ w ∈ l.workloads, Carried ahead w) := by
  generalize hreadings : scope.readings = readings at h
  cases h with
  | complete hfound hmade =>
    subst hreadings
    cases scope with
    | all =>
      cases hfound with
      | @cons _ part _ parts hsecret _ =>
        obtain ⟨finding, es⟩ := part
        obtain ⟨e, secret, t', rfl, hrequest, hread, ht, rfl⟩ := hsecret.exists_fetch
        obtain rfl : t' = t := (List.cons.inj hmade.1).1
        exact ⟨[], e, parts.flatMap Prod.snd, secret, rfl, hrequest, hread, ht,
          fun hscope => absurd rfl hscope⟩
    | only k =>
      cases hfound with
      | @cons _ part _ _ hlist hrest =>
        cases hrest with
        | @cons _ part' _ _ hsecret hnil =>
          obtain ⟨finding, pages⟩ := part
          obtain ⟨finding', es⟩ := part'
          cases hnil
          obtain ⟨e, secret, t', rfl, hrequest, hread, ht, rfl⟩ := hsecret.exists_fetch
          cases finding with
          | target t' => cases hlist
          | listing l =>
            obtain rfl : t' = t := (List.cons.inj hmade.1).1
            obtain rfl : [l] = ls := hmade.2
            refine ⟨pages, e, [], secret, rfl, hrequest, hread, ht, fun _ l' hl' w hw => ?_⟩
            cases List.mem_singleton.1 hl'
            exact hlist.paged.carried hw

/-! ### Updates -/

/-- An update goes back to a document that a page has carried, and to a secret that has been
fetched: it is that of the workload that the document is read as, which takes part and is not
current, with the stamps of the secret. -/
def Traced (r : SecretRef) (reads : List Exchange) (request : Request) : Prop :=
  ∃ (k : Kind) (w : Workload k) (secret : Secret) (t : Target),
    Carried reads w ∧ Fetched r reads secret ∧ secret.target? = some t ∧ w.optsIn = true ∧
      w.consumes t.name = true ∧ ¬ w.IsCurrent t ∧
      Request.replace (w.stamped t.key t.stamp) = .ok request

/-- Where there are updates, all has been read. Every update is that of a workload of a listing,
which takes part and is not current, with the stamps of the secret. -/
theorem Concluded.exists_eligible
    {survey : Except Endless (Except Failure (Target × List Listing))}
    {result : Except Endless (Except Failure Report)} {updates : List Exchange}
    (h : Concluded survey result updates) {e : Exchange} (he : e ∈ updates) :
    ∃ t ls, survey = .ok (.ok (t, ls)) ∧
      ∃ l ∈ ls, ∃ w ∈ (l.eligible t.name).values, ¬ w.IsCurrent t ∧
        Request.replace (w.stamped t.key t.stamp) = .ok e.request := by
  rcases survey with ⟨⟩ | failure | ⟨t, ls⟩
  · cases h
    cases he
  · cases h
    cases he
  refine ⟨t, ls, rfl, ?_⟩
  have hrequest : e.request ∈ ls.flatMap (Listing.requests t) :=
    h.map_request ▸ List.mem_map_of_mem he
  obtain ⟨l, hl, hrequest⟩ := List.mem_flatMap.1 hrequest
  obtain ⟨replacement, hreplacement, hrequest⟩ := List.mem_filterMap.1 hrequest
  obtain ⟨w, hw, hreplacement⟩ := List.mem_filterMap.1 hreplacement
  obtain ⟨hcurrent, rfl⟩ := Workload.replacement?_eq_some_iff.1 hreplacement
  exact ⟨l, hl, w, hw, hcurrent, AnyWorkload.replace_of_request? hrequest⟩

/-- **Every update of a pass can be traced back** to what the pass has read. -/
theorem traced_of_mem_updates {r : SecretRef} {pageSize bound : Nat} {readings : List Reading}
    {survey : Except Endless (Except Failure (Target × List Listing))}
    {result : Except Endless (Except Failure Report)} {reads updates : List Exchange}
    (h : Surveyed r pageSize bound Gathered readings survey reads)
    (hconcluded : Concluded survey result updates) {e : Exchange} (he : e ∈ updates) :
    Traced r reads e.request := by
  obtain ⟨t, ls, rfl, l, hl, w, hw, hcurrent, hreplace⟩ := hconcluded.exists_eligible he
  obtain ⟨hw, hoptsIn, hconsumes⟩ := Listing.of_mem_eligible hw
  obtain ⟨secret, hfetched, htarget⟩ := h.fetched
  exact ⟨l.kind, w, secret, t, h.carried hl hw, hfetched, htarget, hoptsIn, hconsumes, hcurrent,
    hreplace⟩

end SecretRotation
