import SecretRotation.Proofs.Api.PageAddresses
import SecretRotation.Proofs.Api.PagingServer
import SecretRotation.Proofs.Api.Provenance
import SecretRotation.Proofs.Api.Recording
import SecretRotation.Proofs.Json.ValueAt
import SecretRotation.Proofs.Text.FormDecoding

/-!
# Lists that are read page by page

What becomes of a list depends on nothing but the replies to its requests. As long as each reply is
a page with a token that fits into an address, the next page is asked for by this token. The list
ends with the first reply of which this is not true: it is complete with a page without a token, and
all workloads of all pages are there, in order; it fails with a reply that is not a page, or with a
token that is too long. If there is no such reply, the list does not come to an end.

## Main definitions

* `Replies`, `Behaviour.reciting`: a server that gives certain replies in order.
* `Replies.page`, `Replies.token`, `Replies.items`: what the replies are as pages.
* `Replies.GoesOn`: a page that is followed by another one.
* `Replies.listed`: a list that is read from such a server.

## Main results

* `Page.next_eq_of_read`: the token of a page.
* `Replies.run_readPages_of_goesOn`: what a list has exchanged and collected as long as it goes on.
* `Replies.listed_of_last`, `Replies.listed_of_error`, `Replies.listed_of_not_fits`: how it ends.
* `Replies.listing_is_lossless`: all of this for any sequence of replies.
-/

namespace SecretRotation

variable {k : Kind}

/-! ### The token on a page -/

/-- The token that a reply carries as a page of a list, which may be empty. -/
def Reply.continueToken? : Reply → Option String
  | .broken _ => none
  | .response _ body => body.document?.bind fun d => (d.valueAt ["metadata", "continue"]).text?

theorem PageMeta.continueToken_of_read {j : Json} {about : PageMeta}
    (h : PageMeta.codec.read j = some about) :
    about.continueToken = (j.valueAt ["continue"]).text? := by
  have htold := Json.Fields.tells_of_read (fun _ => rfl) (fun _ => rfl) h
  exact (Json.text?_of_tellsOptional htold.1.1.1).symm

theorem Page.next_eq_of_document {members : List (String × Json)} {page : Page k}
    (h : ofDocument? k (.obj members) = some page) :
    page.next = ((Json.obj members).valueAt ["metadata", "continue"]).text?.filter
      fun t => t != "" := by
  rw [ofDocument?] at h
  obtain ⟨-, -, hpassed⟩ := Option.bind_eq_some_iff.1 h
  obtain ⟨items?, -, hrest⟩ := Option.bind_eq_some_iff.1 hpassed
  obtain ⟨value, rfl, hread⟩ := Option.bind_eq_some_iff.1 hrest
  obtain ⟨items, -, habout⟩ := Option.bind_eq_some_iff.1 hread
  obtain ⟨about?, hmember, h⟩ := Option.bind_eq_some_iff.1 habout
  have hvalue : (Json.obj members).valueAt ["metadata", "continue"] =
      (Json.lastValue (Json.occurrences members "metadata")).valueAt ["continue"] := rfl
  rw [Json.atMostOne?] at hmember
  split at hmember
  next hnone =>
    cases hmember
    obtain ⟨about, habout, hpage⟩ := Option.bind_eq_some_iff.1 h
    cases habout
    cases hpage
    rw [hvalue, hnone]
    rfl
  next value hone =>
    cases hmember
    obtain ⟨about, hmeta, hpage⟩ := Option.bind_eq_some_iff.1 h
    cases hpage
    have hlast : Json.lastValue [value] = value := rfl
    rw [hvalue, hone, hlast, ← PageMeta.continueToken_of_read hmeta]
  next => cases hmember

/-- **The token of a page** is the one that the reply carries, unless it is empty. -/
theorem Page.next_eq_of_read {reply : Reply} {page : Page k}
    (h : reply.read (Page.ofDocument? k) = .ok page) :
    page.next = reply.continueToken?.filter fun t => t != "" := by
  cases reply with
  | broken message => cases h
  | response status body =>
    rw [Reply.read] at h
    split at h
    next => cases h
    next =>
      cases hpage : body.document?.bind (ofDocument? k) with
      | none =>
        rw [hpage] at h
        cases h
      | some page' =>
        rw [hpage] at h
        cases h
        obtain ⟨document, hdocument, hpage⟩ := Option.bind_eq_some_iff.1 hpage
        rw [Reply.continueToken?, hdocument, Option.bind_some]
        cases document with
        | obj members => exact next_eq_of_document hpage
        | _ => cases hpage

/-! ### Sequences of replies -/

/-- The replies of a server, in order. -/
abbrev Replies := Nat → Reply

/-- A server that gives certain replies in order, whatever it is asked. -/
def Behaviour.reciting (replies : Replies) : Behaviour Nat where
  reply _ i := (replies i, i + 1)
  now i := (0, i)
  waitUntil _ i := i
  report _ i := i

namespace Replies

variable (replies : Replies) (k : Kind) (ns : String) (pageSize : Nat)

/-- What a reply is as a page of a list, or the fault that it is. -/
def page (i : Nat) : Except Fault (Page k) := (replies i).read (Page.ofDocument? k)

/-- The token by which a page is asked for: none for the first page, and for any other the token of
the page before it. -/
def token : Nat → Option String
  | 0 => none
  | i + 1 => (replies.page k i).toOption.bind Page.next

/-- The workloads of a page. -/
def items (i : Nat) : List (Workload k) := (replies.page k i).toOption.elim [] Page.items

/-- The workloads of the first pages. -/
def itemsOf (n : Nat) : List (Workload k) := (List.range n).flatMap (replies.items k)

/-- After a page the next one is asked for: it is a page with a token that fits into an address. -/
def GoesOn (i : Nat) : Prop :=
  ∃ t, replies.token k (i + 1) = some t ∧ Request.Fits k ns pageSize t

/-- A list is read from a server that gives these replies, at most `bound` pages of it. -/
def listed (bound : Nat) : Except Endless (Except Failure Listing) × (Nat × List Exchange) :=
  (listKind ((Behaviour.reciting replies).api.access pageSize bound) ns k).run.run.run (0, [])

variable {replies k ns pageSize}

theorem page_of_token {i : Nat} {t : String} (h : replies.token k (i + 1) = some t) :
    ∃ page, replies.page k i = .ok page ∧ page.next = some t := by
  obtain ⟨page, hpage, hnext⟩ := Option.bind_eq_some_iff.1 h
  cases hread : replies.page k i with
  | error fault =>
    rw [hread] at hpage
    cases hpage
  | ok page' =>
    rw [hread] at hpage
    cases hpage
    exact ⟨page, rfl, hnext⟩

theorem token_succ {i : Nat} {page : Page k} (h : replies.page k i = .ok page) :
    replies.token k (i + 1) = page.next := by
  rw [token, h]
  rfl

theorem items_eq {i : Nat} {page : Page k} (h : replies.page k i = .ok page) :
    replies.items k i = page.items := by
  rw [items, h]
  rfl

theorem itemsOf_succ (n : Nat) :
    replies.itemsOf k (n + 1) = replies.itemsOf k n ++ replies.items k n := by
  rw [itemsOf, List.range_succ, List.flatMap_append, List.flatMap_singleton, itemsOf]

/-! ### A single page -/

theorem run_exchange {α : Type} (request : Request) (readDocument : Json → Option α) (i : Nat)
    (es : List Exchange) :
    (exchange (Behaviour.reciting replies).api (.ok request) readDocument).run.run (i, es) =
      (.ok ((replies i).read readDocument), (i + 1, es ++ [⟨request, replies i⟩])) := rfl

section

variable {request : Request} {bound i : Nat} {token : Option String} {items : List (Workload k)}
  {es : List Exchange} (h : Request.list k ns pageSize token = .ok request)

include h

/-- The list ends with a reply that is not a page. -/
theorem run_readPages_of_error {fault : Fault} (hpage : replies.page k i = .error fault) :
    (readPages (Behaviour.reciting replies).api k ns pageSize (bound + 1) token items).run.run
      (i, es) = (.ok (.error fault), (i + 1, es ++ [⟨request, replies i⟩])) := by
  have hread : (replies i).read (Page.ofDocument? k) = .error fault := hpage
  simp only [readPages, h, ExceptT.run_bind, StateT.run_bind, run_exchange, hread]
  rfl

/-- The list ends with a page without a token. -/
theorem run_readPages_of_last {page : Page k} (hpage : replies.page k i = .ok page)
    (hnext : page.next = none) :
    (readPages (Behaviour.reciting replies).api k ns pageSize (bound + 1) token items).run.run
      (i, es) = (.ok (.ok (items ++ page.items)), (i + 1, es ++ [⟨request, replies i⟩])) := by
  obtain ⟨shown, next⟩ := page
  cases hnext
  have hread : (replies i).read (Page.ofDocument? k) = .ok ⟨shown, _⟩ := hpage
  simp only [readPages, h, ExceptT.run_bind, StateT.run_bind, run_exchange, hread]
  rfl

/-- The list goes on after a page with a token. -/
theorem run_readPages_of_more {page : Page k} {t : String} (hpage : replies.page k i = .ok page)
    (hnext : page.next = some t) :
    (readPages (Behaviour.reciting replies).api k ns pageSize (bound + 1) token items).run.run
      (i, es) =
    (readPages (Behaviour.reciting replies).api k ns pageSize bound (some t)
      (items ++ page.items)).run.run (i + 1, es ++ [⟨request, replies i⟩]) := by
  obtain ⟨shown, next⟩ := page
  cases hnext
  have hread : (replies i).read (Page.ofDocument? k) = .ok ⟨shown, _⟩ := hpage
  simp only [readPages, h, ExceptT.run_bind, StateT.run_bind, run_exchange, hread]
  rfl

end

/-! ### A whole list -/

/-- The requests for the pages; `first` is that for the first page. -/
def request (replies : Replies) (k : Kind) (ns : String) (pageSize : Nat) (first : Request)
    (i : Nat) : Request :=
  (Request.list k ns pageSize (replies.token k i)).toOption.getD first

/-- The exchanges for the first pages. -/
def exchanges (replies : Replies) (k : Kind) (ns : String) (pageSize : Nat) (first : Request)
    (n : Nat) : List Exchange :=
  (List.range n).map fun i => ⟨replies.request k ns pageSize first i, replies i⟩

theorem exchanges_succ (first : Request) (n : Nat) :
    replies.exchanges k ns pageSize first (n + 1) =
      replies.exchanges k ns pageSize first n ++
        [⟨replies.request k ns pageSize first n, replies n⟩] := by
  rw [exchanges, List.range_succ, List.map_append, exchanges]
  rfl

section

variable {first : Request} (hfirst : Request.list k ns pageSize none = .ok first)

include hfirst

/-- Every page is asked for, up to the first that is not followed by another one. -/
theorem list_token {n : Nat} (hgoes : ∀ i < n, replies.GoesOn k ns pageSize i) :
    Request.list k ns pageSize (replies.token k n) =
      .ok (replies.request k ns pageSize first n) := by
  have hok : ∃ request, Request.list k ns pageSize (replies.token k n) = .ok request := by
    cases n with
    | zero => exact ⟨first, hfirst⟩
    | succ n =>
      obtain ⟨t, ht, hfits⟩ := hgoes n (Nat.lt_succ_self n)
      rw [ht]
      exact Request.exists_list_eq_ok hfirst hfits
  obtain ⟨request, hrequest⟩ := hok
  rw [Replies.request, hrequest]
  rfl

/-- **As long as the list goes on**, each page is asked for once, in order, and its workloads come
after those of the pages before. -/
theorem run_readPages_of_goesOn {n : Nat} (hgoes : ∀ i < n, replies.GoesOn k ns pageSize i)
    (bound : Nat) :
    (readPages (Behaviour.reciting replies).api k ns pageSize (n + bound) none []).run.run (0, []) =
    (readPages (Behaviour.reciting replies).api k ns pageSize bound (replies.token k n)
      (replies.itemsOf k n)).run.run (n, replies.exchanges k ns pageSize first n) := by
  induction n generalizing bound with
  | zero => rw [Nat.zero_add]; rfl
  | succ n ih =>
    have hbefore : ∀ i < n, replies.GoesOn k ns pageSize i := fun i hi =>
      hgoes i (Nat.lt_succ_of_lt hi)
    obtain ⟨t, ht, -⟩ := hgoes n (Nat.lt_succ_self n)
    obtain ⟨page, hpage, hnext⟩ := page_of_token ht
    rw [Nat.add_right_comm, Nat.add_assoc, ih hbefore (bound + 1),
      run_readPages_of_more (list_token hfirst hbefore) hpage hnext, ht, itemsOf_succ,
      items_eq hpage, exchanges_succ]

end

/-! ### What a list comes to -/

theorem run_readPages_of_unsendable {fault : SendFault} {token : Option String}
    (h : Request.list k ns pageSize token = .error fault) (bound : Nat)
    (items : List (Workload k)) (s : Nat × List Exchange) :
    (readPages (Behaviour.reciting replies).api k ns pageSize (bound + 1) token items).run.run s =
      (.ok (.error (.unsendable fault)), s) := by
  simp only [readPages, h]
  rfl

/-- What a list comes to is told with its kind and its namespace. -/
def told (k : Kind) (ns : String) : Except Fault (List (Workload k)) → Except Failure Listing
  | .ok ws => .ok ⟨k, ws⟩
  | .error fault => .error (.listing k.name ns fault)

theorem listed_eq {bound : Nat} {r : Except Endless (Except Fault (List (Workload k)))}
    {s : Nat × List Exchange}
    (h : (readPages (Behaviour.reciting replies).api k ns (max 1 pageSize) bound none []).run.run
      (0, []) = (r, s)) :
    replies.listed k ns pageSize bound = (r.map (told k ns), s) := by
  let access := (Behaviour.reciting replies).api.access pageSize bound
  have hrun : (listKind access ns k).run = access.list k ns >>= fun answer =>
      pure (told k ns answer) := by
    refine (ExceptT.run_bind_lift _ _).trans ?_
    congr 1
    funext answer
    cases answer <;> rfl
  have hlist : access.list k ns =
      readPages (Behaviour.reciting replies).api k ns (max 1 pageSize) bound none [] := rfl
  rw [listed, hrun, hlist, ExceptT.run_bind, StateT.run_bind, h]
  cases r <;> rfl

section

variable {first : Request} (hfirst : Request.list k ns (max 1 pageSize) none = .ok first)
  {n : Nat} (hgoes : ∀ i < n, replies.GoesOn k ns (max 1 pageSize) i)

include hfirst hgoes

/-- A list that goes on for all pages that may be read does not come to an end. -/
theorem listed_of_goesOn : replies.listed k ns pageSize n =
    (.error .endless, (n, replies.exchanges k ns (max 1 pageSize) first n)) :=
  listed_eq (run_readPages_of_goesOn hfirst hgoes 0)

/-- A list fails for the first reply that is not a page. -/
theorem listed_of_error {fault : Fault} (hpage : replies.page k n = .error fault) {bound : Nat}
    (hbound : n < bound) : replies.listed k ns pageSize bound =
      (.ok (.error (.listing k.name ns fault)),
        (n + 1, replies.exchanges k ns (max 1 pageSize) first (n + 1))) := by
  obtain ⟨rest, rfl⟩ := Nat.exists_eq_add_of_lt hbound
  refine listed_eq (r := .ok (.error fault)) ?_
  rw [Nat.add_assoc, run_readPages_of_goesOn hfirst hgoes (rest + 1),
    run_readPages_of_error (list_token hfirst hgoes) hpage, exchanges_succ]

/-- A list is complete with the first page without a token. -/
theorem listed_of_last {page : Page k} (hpage : replies.page k n = .ok page)
    (hnext : page.next = none) {bound : Nat} (hbound : n < bound) :
    replies.listed k ns pageSize bound = (.ok (.ok ⟨k, replies.itemsOf k (n + 1)⟩),
      (n + 1, replies.exchanges k ns (max 1 pageSize) first (n + 1))) := by
  obtain ⟨rest, rfl⟩ := Nat.exists_eq_add_of_lt hbound
  refine listed_eq (r := .ok (.ok (replies.itemsOf k (n + 1)))) ?_
  rw [Nat.add_assoc, run_readPages_of_goesOn hfirst hgoes (rest + 1),
    run_readPages_of_last (list_token hfirst hgoes) hpage hnext, exchanges_succ, itemsOf_succ,
    items_eq hpage]

/-- A list fails if the token of a page does not fit into an address. -/
theorem listed_of_not_fits {t : String} (ht : replies.token k (n + 1) = some t)
    (hfits : ¬ Request.Fits k ns (max 1 pageSize) t) {bound : Nat} (hbound : n + 1 < bound) :
    replies.listed k ns pageSize bound =
      (.ok (.error (.listing k.name ns (.unsendable .longAddress))),
        (n + 1, replies.exchanges k ns (max 1 pageSize) first (n + 1))) := by
  obtain ⟨rest, rfl⟩ := Nat.exists_eq_add_of_lt hbound
  obtain ⟨page, hpage, hnext⟩ := page_of_token ht
  refine listed_eq (r := .ok (.error (.unsendable .longAddress))) ?_
  rw [Nat.add_assoc, Nat.add_assoc, Nat.add_comm 1, run_readPages_of_goesOn hfirst hgoes,
    run_readPages_of_more (list_token hfirst hgoes) hpage hnext,
    run_readPages_of_unsendable (Request.list_of_not_fits hfits), exchanges_succ]

/-- **A list ends after the first page that is not followed by another one.** -/
theorem listed_of_not_goesOn (hends : ¬ replies.GoesOn k ns (max 1 pageSize) n) {bound : Nat}
    (hbound : n + 1 < bound) :
    ∃ result, replies.listed k ns pageSize bound =
      (.ok result, (n + 1, replies.exchanges k ns (max 1 pageSize) first (n + 1))) := by
  have hlt : n < bound := by omega
  cases hpage : replies.page k n with
  | error fault => exact ⟨_, listed_of_error hfirst hgoes hpage hlt⟩
  | ok page =>
    cases hnext : page.next with
    | none => exact ⟨_, listed_of_last hfirst hgoes hpage hnext hlt⟩
    | some t =>
      have ht : replies.token k (n + 1) = some t := (token_succ hpage).trans hnext
      exact ⟨_, listed_of_not_fits hfirst hgoes ht (fun hfits => hends ⟨t, ht, hfits⟩) hbound⟩

end

/-- The request for a page goes to the path of all others; a server reads its query as the limit and
the token, unless the namespace divides the address. -/
theorem of_mem_exchanges {first : Request} (hfirst : Request.list k ns pageSize none = .ok first)
    {n : Nat} (hgoes : ∀ i < n, replies.GoesOn k ns pageSize i) {i : Nat} {e : Exchange}
    (he : (replies.exchanges k ns pageSize first (n + 1))[i]? = some e) :
    e.reply = replies i ∧ e.request.method = "GET" ∧ e.request.body = .empty ∧
      e.request.address.path = first.address.path ∧
      ('?' ∉ ns.toList → '#' ∉ ns.toList →
        e.request.address.path = Request.workloadsPath k ns ∧
        ∃ query, e.request.address.query = some query ∧
          Text.formParameters? query = some
            (("limit", toString pageSize) :: (replies.token k i).toList.map ("continue", ·))) := by
  obtain ⟨j, hj, rfl⟩ := Option.map_eq_some_iff.1 (List.getElem?_map.symm.trans he)
  obtain ⟨hi, rfl⟩ := List.getElem?_eq_some_iff.1 hj
  rw [List.length_range] at hi
  rw [List.getElem_range]
  have hlist : Request.list k ns pageSize (replies.token k i) =
      .ok (replies.request k ns pageSize first i) :=
    list_token hfirst fun j hj => hgoes j (by omega)
  obtain ⟨hmethod, hbody, hpath⟩ := Request.of_list_eq_ok hfirst hlist
  refine ⟨rfl, hmethod, hbody, hpath, fun hquestion hhash => ?_⟩
  have hpage := Request.eq_forPage_of_list hquestion hhash hlist
  exact ⟨congrArg (·.address.path) hpage, _, congrArg (·.address.query) hpage,
    Request.formParameters?_pageQuery _ _⟩

/-- A list comes to an end exactly if some page is not followed by another one. -/
theorem exists_listed_iff {first : Request}
    (hfirst : Request.list k ns (max 1 pageSize) none = .ok first) :
    (∃ bound result, (replies.listed k ns pageSize bound).1 = .ok result) ↔
      ∃ n, ¬ replies.GoesOn k ns (max 1 pageSize) n := by
  classical
  constructor
  · rintro ⟨bound, result, h⟩
    by_contra hgoes
    rw [not_exists_not] at hgoes
    rw [listed_of_goesOn hfirst fun i _ => hgoes i] at h
    cases h
  · intro hends
    have hbefore : ∀ i < Nat.find hends, replies.GoesOn k ns (max 1 pageSize) i := fun i hi =>
      not_not.1 (Nat.find_min hends hi)
    obtain ⟨result, h⟩ := listed_of_not_goesOn hfirst hbefore (Nat.find_spec hends)
      (Nat.lt_succ_self _)
    exact ⟨_, result, congrArg Prod.fst h⟩

/-- The list is complete with a page: it is the first that is not followed by another one, and it
has no token. -/
def CompleteWith (replies : Replies) (k : Kind) (ns : String) (pageSize n : Nat) : Prop :=
  (∀ i < n, replies.GoesOn k ns pageSize i) ∧ ∃ page, replies.page k n = .ok page ∧ page.next = none

/-- **A list that is read page by page is lossless, and stops where it should.** Let the first `n`
pages be followed by others, and the next one not. Then there are `n + 1` requests, all to the same
path, each with the limit and, but for the first, with the token of the page before. The list fails
for the reply that is not a page, with its kind and its namespace; it is complete with a page that
has no token, and consists of the workloads of all pages in order; and it fails if the token does
not fit into an address. Without such a page it does not come to an end. What a page carries is read
from its reply. How a list is cut into pages makes no difference. -/
theorem listing_is_lossless (replies : Replies) (k : Kind) (ns : String) (pageSize : Nat)
    {first : Request} (hfirst : Request.list k ns (max 1 pageSize) none = .ok first) :
    let size := max 1 pageSize
    let run := replies.listed k ns pageSize
    (∀ n, (∀ i < n, replies.GoesOn k ns size i) → ¬ replies.GoesOn k ns size n →
      ∀ bound, n + 1 < bound →
        (run bound).2.2.length = n + 1 ∧
        (∀ i e, (run bound).2.2[i]? = some e →
          e.reply = replies i ∧ e.request.method = "GET" ∧ e.request.body = .empty ∧
          e.request.address.path = first.address.path ∧
          ('?' ∉ ns.toList → '#' ∉ ns.toList →
            e.request.address.path = Request.workloadsPath k ns ∧
            ∃ query, e.request.address.query = some query ∧
              Text.formParameters? query = some
                (("limit", toString size) :: (replies.token k i).toList.map ("continue", ·)))) ∧
        (∀ fault, replies.page k n = .error fault →
          (run bound).1 = .ok (.error (.listing k.name ns fault))) ∧
        (∀ page, replies.page k n = .ok page → page.next = none →
          (run bound).1 = .ok (.ok ⟨k, (List.range (n + 1)).flatMap (replies.items k)⟩)) ∧
        (∀ page t, replies.page k n = .ok page → page.next = some t →
          ¬ Request.Fits k ns size t ∧
          (run bound).1 = .ok (.error (.listing k.name ns (.unsendable .longAddress))))) ∧
    ((∀ n, replies.GoesOn k ns size n) → ∀ bound,
      (run bound).2.2.length = bound ∧ (run bound).1 = .error .endless) ∧
    ((∃ bound result, (run bound).1 = .ok result) ↔ ∃ n, ¬ replies.GoesOn k ns size n) ∧
    (∀ i page, replies.page k i = .ok page →
      (replies i).items.mapM (Workload.codec k).read = some page.items ∧
      page.next = (replies i).continueToken?.filter fun t => t != "") ∧
    (∀ (replies' : Replies) (n n' : Nat), replies.CompleteWith k ns size n →
      replies'.CompleteWith k ns size n' →
      (List.range (n + 1)).flatMap (replies.items k) =
        (List.range (n' + 1)).flatMap (replies'.items k) →
      ∀ bound bound', n < bound → n' < bound' →
        (run bound).1 = (replies'.listed k ns pageSize bound').1) := by
  intro size run
  refine ⟨fun n hgoes hends bound hbound => ?_, fun hgoes bound => ?_, exists_listed_iff hfirst,
    fun i page hpage => ⟨Page.mapM_read_items hpage, Page.next_eq_of_read hpage⟩, ?_⟩
  · obtain ⟨result, hrun⟩ := listed_of_not_goesOn hfirst hgoes hends hbound
    have hexchanges : (run bound).2.2 = _ := congrArg (·.2.2) hrun
    have hlt : n < bound := by omega
    refine ⟨?_, fun i e he => ?_, fun fault hpage => ?_, fun page hpage hnext => ?_,
      fun page t hpage hnext => ?_⟩
    · rw [hexchanges, exchanges, List.length_map, List.length_range]
    · rw [hexchanges] at he
      exact of_mem_exchanges hfirst hgoes he
    · exact congrArg Prod.fst (listed_of_error hfirst hgoes hpage hlt)
    · exact congrArg Prod.fst (listed_of_last hfirst hgoes hpage hnext hlt)
    · have ht : replies.token k (n + 1) = some t := (token_succ hpage).trans hnext
      have hfits : ¬ Request.Fits k ns size t := fun hfits => hends ⟨t, ht, hfits⟩
      exact ⟨hfits, congrArg Prod.fst (listed_of_not_fits hfirst hgoes ht hfits hbound)⟩
  · have hrun : run bound = _ := listed_of_goesOn hfirst fun i _ => hgoes i
    rw [hrun, exchanges, List.length_map, List.length_range]
    exact ⟨rfl, rfl⟩
  · rintro replies' n n' ⟨hgoes, page, hpage, hnext⟩ ⟨hgoes', page', hpage', hnext'⟩ hitems bound
      bound' hbound hbound'
    have hitems : replies.itemsOf k (n + 1) = replies'.itemsOf k (n' + 1) := hitems
    have hrun : run bound = _ := listed_of_last hfirst hgoes hpage hnext hbound
    rw [hrun, listed_of_last hfirst hgoes' hpage' hnext' hbound', hitems]

end Replies

/-! ### Sample lists -/

namespace Sample

/-- The reply with a page of deployments. -/
def pageReply (ws : List (Workload .deployment)) (token : Option String) : Reply :=
  .response 200 (.document (Page.document .deployment
    (ws.map (Workload.codec .deployment).write) { continueToken := token }))

theorem read_pageReply (ws : List (Workload .deployment)) (token : Option String) :
    (pageReply ws token).read (Page.ofDocument? .deployment) =
      .ok ⟨ws.map Workload.asWritten, token.filter fun t => t != ""⟩ :=
  Reply.read_of_carries (Reply.carries_response _)
    (Page.ofDocument?_document (Json.Codec.mapM_read_map_write _ ws) _)

/-- Two pages with a deployment each; the first has a token. -/
def twoPages (token : String) : Replies
  | 0 => pageReply [consumer "prod" "api" "db"] (some token)
  | _ => pageReply [consumer "prod" "web" "db"] none

theorem page_twoPages_zero (token : String) (h : token ≠ "") :
    (twoPages token).page .deployment 0 =
      .ok ⟨[consumer "prod" "api" "db"], some token⟩ := by
  have hread := read_pageReply [consumer "prod" "api" "db"] (some token)
  rw [Option.filter_some, if_pos (bne_iff_ne.2 h)] at hread
  exact hread

theorem page_twoPages_one (token : String) :
    (twoPages token).page .deployment 1 = .ok ⟨[consumer "prod" "web" "db"], none⟩ :=
  read_pageReply _ none

/-- A list is complete after two requests. -/
theorem listing_is_lossless_two_pages :
    Request.list .deployment "prod" (max 1 1) none = .ok (.forPage .deployment "prod" 1 none) ∧
    ((twoPages "a b").listed .deployment "prod" 1 3).2.2.length = 2 ∧
    ((twoPages "a b").listed .deployment "prod" 1 3).1 =
      .ok (.ok ⟨.deployment, [consumer "prod" "api" "db", consumer "prod" "web" "db"]⟩) := by
  have hfirst : Request.list .deployment "prod" (max 1 1) none =
      .ok (.forPage .deployment "prod" 1 none) := Request.list_eq isName_prod (by decide) nofun
  have hzero := page_twoPages_zero "a b" (by decide)
  have hone := page_twoPages_one "a b"
  have hgoes : ∀ i < 1, (twoPages "a b").GoesOn .deployment "prod" (max 1 1) i := fun i hi => by
    obtain rfl : i = 0 := by omega
    exact ⟨"a b", Replies.token_succ hzero, by decide +kernel⟩
  have hends : ¬ (twoPages "a b").GoesOn .deployment "prod" (max 1 1) 1 := by
    rintro ⟨t, ht, -⟩
    cases (Replies.token_succ hone).symm.trans ht
  obtain ⟨hstops, -⟩ := Replies.listing_is_lossless (twoPages "a b") .deployment "prod" 1 hfirst
  obtain ⟨hlength, -, -, hcomplete, -⟩ := hstops 1 hgoes hends 3 (by decide)
  refine ⟨hfirst, hlength, (hcomplete _ hone rfl).trans ?_⟩
  have hrange : List.range (1 + 1) = [0, 1] := rfl
  rw [hrange, List.flatMap_cons, List.flatMap_singleton, Replies.items_eq hzero,
    Replies.items_eq hone]
  rfl

/-- **A list may stop before its last page, and a namespace may hide the limit.** A token that is
too long for an address ends a list after one request, although the next reply would be the last
page. In a namespace with a number sign the request goes to another path, and without a query. -/
theorem listing_stops_before_last_page :
    Request.list .deployment "prod" (max 1 1) none = .ok (.forPage .deployment "prod" 1 none) ∧
    (twoPages longToken).page .deployment 0 =
      .ok ⟨[consumer "prod" "api" "db"], some longToken⟩ ∧
    (twoPages longToken).page .deployment 1 = .ok ⟨[consumer "prod" "web" "db"], none⟩ ∧
    (∀ bound, 1 < bound → ((twoPages longToken).listed .deployment "prod" 1 bound).2.2.length = 1 ∧
      ((twoPages longToken).listed .deployment "prod" 1 bound).1 =
        .ok (.error (.listing "Deployment" "prod" (.unsendable .longAddress)))) ∧
    ∀ bound, 0 < bound →
      (Replies.listed (fun _ => pageReply [] none) .deployment "a#b" 1 bound).2.2.map
        (·.request.address) = [⟨"/apis/apps/v1/namespaces/a", none⟩] := by
  have hfirst : Request.list .deployment "prod" (max 1 1) none =
      .ok (.forPage .deployment "prod" 1 none) := Request.list_eq isName_prod (by decide) nofun
  have hzero := page_twoPages_zero longToken longToken_ne_empty
  have hlong : ¬ Request.Fits .deployment "prod" (max 1 1) longToken :=
    Request.not_fits_of_size (by rw [utf8ByteSize_longToken]; decide)
  refine ⟨hfirst, hzero, page_twoPages_one _, fun bound hbound => ?_, fun bound hbound => ?_⟩
  · have hrun := Replies.listed_of_not_fits hfirst (n := 0) nofun (Replies.token_succ hzero) hlong
      hbound
    rw [hrun]
    exact ⟨rfl, rfl⟩
  · have hhash : Request.list .deployment "a#b" (max 1 1) none =
        .ok ⟨"GET", ⟨"/apis/apps/v1/namespaces/a", none⟩, .empty⟩ :=
      Request.list_eq_ok_iff.2 ⟨by decide +kernel, ("/apis/apps/v1/namespaces/a".toList, none),
        by decide +kernel, by decide +kernel, rfl⟩
    have hpage : Replies.page (fun _ => pageReply [] none) .deployment 0 = .ok ⟨[], none⟩ :=
      read_pageReply [] none
    have hrun := Replies.listed_of_last hhash (n := 0) nofun hpage rfl hbound
    have hrequest : Replies.request (fun _ => pageReply [] none) .deployment "a#b" (max 1 1)
        ⟨"GET", ⟨"/apis/apps/v1/namespaces/a", none⟩, .empty⟩ 0 = _ :=
      congrArg (fun r => (Except.toOption r).getD _) hhash
    rw [hrun]
    exact congrArg (fun r : Request => [r.address]) hrequest

end Sample

end SecretRotation
