import SecretRotation.Proofs.Api.Agreement
import SecretRotation.Proofs.Sample

/-!
# A server that is a mirror of a store

For every store there is a server that mirrors it. The one given here delivers a list in up to two
pages. Which text it uses as the token of the second page is left open, and this is where server and
store can come apart: a token that makes the address too long is of no use to a client.

## Main definitions

* `Store.server`: the server.

## Main results

* `Store.mirrors_server`: it mirrors the store.
* `Request.not_fits_of_size`: a token that does not fit.
* `Sample.listing_fails_of_long_token`: a list fails although the store lists everything.
-/

namespace SecretRotation

variable {k : Kind}

/-! ### Addresses -/

theorem Kind.plural_injective {k k' : Kind} (h : k.plural = k'.plural) : k = k' := by
  revert h
  cases k <;> cases k' <;> decide

theorem Request.workloadsPath_injective {k k' : Kind} {ns : String}
    (h : workloadsPath k ns = workloadsPath k' ns) : k = k' := by
  have htext := congrArg String.toList h
  simp only [workloadsPath, String.toList_append, List.append_cancel_left_eq] at htext
  exact Kind.plural_injective (String.toList_injective htext)

theorem Request.workloadsPath_ne_path (k : Kind) (ns : String) (r : SecretRef) :
    workloadsPath k ns ≠ r.path := by
  intro h
  have hpath : r.path.toList = ("/api/v1/namespaces/" ++ r.ns ++ "/secrets/" ++ r.name).toList :=
    rfl
  have htext := congrArg (fun text => text.toList.take 5) h
  simp only [hpath, workloadsPath, String.toList_append, List.append_assoc] at htext
  rw [List.take_append_of_le_length (by decide),
    List.take_append_of_le_length (by decide)] at htext
  exact absurd htext (by decide)

theorem Request.pageQuery_ne (pageSize : Nat) (token : String) :
    pageQuery pageSize none ≠ pageQuery pageSize (some token) := by
  intro h
  have htext := congrArg String.toList h
  simp [pageQuery] at htext

/-! ### Tokens that are too long -/

theorem Text.formEncodedByte_ne_nil (b : UInt8) : formEncodedByte b ≠ [] := by
  rw [formEncodedByte]
  split
  · exact List.cons_ne_nil _ _
  · split <;> exact List.cons_ne_nil _ _

/-- A text does not get shorter when it is encoded. -/
theorem Text.utf8ByteSize_le_utf8ByteSize_formEncoded (text : String) :
    text.utf8ByteSize ≤ (formEncoded text).utf8ByteSize := by
  have hgrows {ι : Type} {f : ι → List Char} (hf : ∀ i, f i ≠ []) (is : List ι) :
      is.length ≤ (is.flatMap f).length := by
    induction is with
    | nil => exact Nat.zero_le _
    | cons i is ih =>
      have hi := List.length_pos_iff.2 (hf i)
      rw [List.flatMap_cons, List.length_append, List.length_cons]
      omega
  have hbytes (cs : List Char) : cs.length ≤ String.utf8Len cs ∧
      (cs.flatMap String.utf8EncodeChar).length = String.utf8Len cs := by
    induction cs with
    | nil => exact ⟨Nat.zero_le _, rfl⟩
    | cons c cs ih =>
      have hc := c.utf8Size_pos
      rw [List.flatMap_cons, List.length_append, String.length_utf8EncodeChar, String.utf8Len_cons,
        List.length_cons]
      omega
  calc text.utf8ByteSize = String.utf8Len text.toList := by
        rw [← String.utf8ByteSize_ofList, String.ofList_toList]
    _ = (text.toList.flatMap String.utf8EncodeChar).length := (hbytes _).2.symm
    _ ≤ ((text.toList.flatMap String.utf8EncodeChar).flatMap formEncodedByte).length :=
        hgrows formEncodedByte_ne_nil _
    _ ≤ (formEncoded text).utf8ByteSize := by
        rw [formEncoded, String.utf8ByteSize_ofList]
        exact (hbytes _).1

/-- A token that is too long by itself does not fit. -/
theorem Request.not_fits_of_size {k : Kind} {ns : String} {pageSize : Nat} {token : String}
    (h : Address.maxSize < token.utf8ByteSize) : ¬ Fits k ns pageSize token := by
  have hencoded := Text.utf8ByteSize_le_utf8ByteSize_formEncoded token
  simp only [Fits, pageQuery, Option.elim_some, String.utf8ByteSize_append]
  omega

/-! ### A server for every store -/

/-- The workload that a document describes, of whichever kind. -/
def AnyWorkload.ofJson? (json : Json) : Option AnyWorkload :=
  Kind.all.findSome? fun k => ((Workload.codec k).read json).map (Sigma.mk k)

theorem AnyWorkload.ofJson?_toJson (w : AnyWorkload) :
    ofJson? w.toJson = some w.asWritten := by
  have hself : (Workload.codec w.1).read w.toJson = some w.2.asWritten :=
    Json.Codec.Settles.read_write w.2
  have hsome : ofJson? w.toJson ≠ none := fun hnone => by
    have hk := List.findSome?_eq_none_iff.1 hnone w.1 (Scope.mem_kinds_all w.1)
    rw [hself] at hk
    cases hk
  obtain ⟨v, hv⟩ := Option.ne_none_iff_exists'.1 hsome
  obtain ⟨k, -, hk⟩ := List.exists_of_findSome?_eq_some hv
  obtain ⟨v', hread, rfl⟩ := Option.map_eq_some_iff.1 hk
  obtain ⟨k', w⟩ := w
  obtain rfl : k' = k := Workload.kind_eq_of_read_write hread
  rw [hv, Workload.eq_of_read_write hread]
  rfl

namespace Store

/-- How the server answers a request to replace a workload. -/
def answerUpdate (s : Store) (held : OrderedMap Slot Json) (body : Body) :
    Reply × OrderedMap Slot Json :=
  match body.document?.bind AnyWorkload.ofJson? with
  | none => (CannedServer.unknown, held)
  | some w =>
    if s.Accepts w.2 then (.response 200 (.document w.toJson), held.insert w.2.slot w.toJson)
    else
      (.response 409 (.document (Sample.status 409 "Conflict" "the object has been modified")),
        held)

/-- How the server answers a request for a page. -/
def answerPage (s : Store) (held : OrderedMap Slot Json) (ns : String) (pageSize : Nat)
    (token : String) (k : Kind) (query : Option String) : Reply :=
  if s.Lists k then
    let documents := { s with workloads := held }.documents k ns
    if query = some (Request.pageQuery pageSize (some token)) then
      .response 200 (.document (Page.document k (documents.drop pageSize) {}))
    else
      .response 200 (.document (Page.document k (documents.take pageSize)
        { continueToken := if documents.length ≤ pageSize then none else some token }))
  else .response 500 (.document (Sample.status 500 "InternalError" "etcd unavailable"))

/-- How the server answers a request to read something. -/
def answerReading (s : Store) (held : OrderedMap Slot Json) (r : SecretRef) (pageSize : Nat)
    (token : String) (address : Address) : Reply :=
  if address.path = r.path then
    match s.secrets.get? ⟨r.ns, r.name⟩ with
    | some secret => .response 200 (.document (Secret.codec.write secret))
    | none => .response 404 (.document (Sample.status 404 "NotFound" "secret not found"))
  else
    match Kind.all.find? fun k => Request.workloadsPath k r.ns = address.path with
    | some k => s.answerPage held r.ns pageSize token k address.query
    | none => CannedServer.unknown

/-- A server that serves a store to passes for a secret, and delivers each list in up to two
pages. -/
def server (s : Store) (r : SecretRef) (pageSize : Nat) (token : String) :
    Behaviour (OrderedMap Slot Json) where
  reply request held :=
    if request.method = "PUT" then s.answerUpdate held request.body
    else (s.answerReading held r pageSize token request.address, held)
  now held := (0, held)
  waitUntil _ held := held
  report _ held := held

section

variable (s : Store) (r : SecretRef) (pageSize : Nat) (token : String)

theorem reply_server_of_get {request : Request} (h : request.method = "GET")
    (held : OrderedMap Slot Json) :
    (s.server r pageSize token).reply request held =
      (s.answerReading held r pageSize token request.address, held) := by
  have hput : request.method ≠ "PUT" := by
    rw [h]
    decide
  exact if_neg hput

theorem reply_server_of_put {request : Request} (h : request.method = "PUT")
    (held : OrderedMap Slot Json) :
    (s.server r pageSize token).reply request held = s.answerUpdate held request.body :=
  if_pos h

/-- Pages are found under the path of their kind. -/
theorem reply_server_forPage (held : OrderedMap Slot Json) (k : Kind) (token' : Option String) :
    (s.server r pageSize token).reply (.forPage k r.ns pageSize token') held =
      (s.answerPage held r.ns pageSize token k (some (Request.pageQuery pageSize token')),
        held) := by
  have hfind : Kind.all.find? (fun k' => decide (Request.workloadsPath k' r.ns =
      (Request.forPage k r.ns pageSize token').address.path)) = some k := by
    have hiff (k' : Kind) : Request.workloadsPath k' r.ns =
        (Request.forPage k r.ns pageSize token').address.path ↔ k' = k :=
      ⟨Request.workloadsPath_injective, congrArg (Request.workloadsPath · r.ns)⟩
    simp only [hiff]
    cases k <;> rfl
  have hpath : (Request.forPage k r.ns pageSize token').address.path ≠ r.path :=
    Request.workloadsPath_ne_path k r.ns r
  rw [s.reply_server_of_get r pageSize token rfl, answerReading, if_neg hpath, hfind]
  rfl

theorem reply_server_forSecret (held : OrderedMap Slot Json) :
    (s.server r pageSize token).reply (.forSecret r) held =
      (match s.secrets.get? ⟨r.ns, r.name⟩ with
        | some secret => .response 200 (.document (Secret.codec.write secret))
        | none => .response 404 (.document (Sample.status 404 "NotFound" "secret not found")),
        held) := by
  have hpath : (Request.forSecret r).address.path = r.path := rfl
  rw [s.reply_server_of_get r pageSize token rfl, answerReading, if_pos hpath]

/-- An update is answered as the document in it asks for. -/
theorem reply_server_forUpdate (held : OrderedMap Slot Json) (w : Workload k) :
    let document := (Workload.codec k).write w
    (s.server r pageSize token).reply (.forUpdate w.slot document) held =
      if s.Accepts w then (.response 200 (.document document), held.insert w.slot document)
      else
        (.response 409 (.document (Sample.status 409 "Conflict" "the object has been modified")),
          held) := by
  intro document
  have hread : AnyWorkload.ofJson? document = some (AnyWorkload.asWritten ⟨k, w⟩) :=
    AnyWorkload.ofJson?_toJson ⟨k, w⟩
  have hsame : (AnyWorkload.asWritten ⟨k, w⟩).toJson = document := w.write_asWritten
  have hbody : (Request.forUpdate w.slot document).body.document? = some document := rfl
  rw [s.reply_server_of_put r pageSize token rfl, answerUpdate, hbody, Option.bind_some, hread]
  simp only [hsame]
  rfl

/-- A list is delivered in up to two pages. -/
theorem delivers_server {usable : String → Prop} (hlists : s.Lists k)
    (hlength : (s.documents k r.ns).length ≤ 2 * pageSize) (htoken : token ≠ "")
    (husable : pageSize < (s.documents k r.ns).length → usable token) :
    Delivers usable (s.server r pageSize token) id s.workloads k r.ns pageSize 2 none
      (s.documents k r.ns) := by
  rintro held rfl
  rw [reply_server_forPage, answerPage, if_pos hlists,
    if_neg fun h => Request.pageQuery_ne pageSize token (Option.some.inj h)]
  refine ⟨⟨pageSize, _, le_rfl, Reply.carries_response _, ?_⟩, rfl⟩
  by_cases hone : (s.documents k r.ns).length ≤ pageSize
  · refine .inl ⟨List.drop_eq_nil_iff.2 hone, ?_⟩
    rw [if_pos hone]
    rfl
  · refine .inr ⟨token, fun hnil => hone (List.drop_eq_nil_iff.1 hnil), if_neg hone, htoken,
      husable (Nat.lt_of_not_le hone), ?_⟩
    -- The second page carries the rest.
    rintro held rfl
    rw [reply_server_forPage, answerPage, if_pos hlists, if_pos rfl]
    have hrest : ((s.documents k r.ns).drop pageSize).length ≤ pageSize := by
      rw [List.length_drop]
      omega
    refine ⟨⟨pageSize, {}, le_rfl, ?_, .inl ⟨List.drop_eq_nil_iff.2 hrest, rfl⟩⟩, rfl⟩
    rw [List.take_of_length_le hrest]
    exact Reply.carries_response _

/-- **Every store has a mirror.** -/
theorem mirrors_server {usable : Kind → String → Prop}
    (hlength : ∀ k, (s.documents k r.ns).length ≤ 2 * pageSize) (htoken : token ≠ "")
    (husable : ∀ k, pageSize < (s.documents k r.ns).length → usable k token) :
    Mirrors usable (s.server r pageSize token) id s r pageSize 2 where
  report _ _ := rfl
  now _ := rfl
  waitUntil _ _ := rfl
  fetch := by
    rintro held rfl
    rw [reply_server_forSecret]
    refine ⟨?_, rfl⟩
    cases s.secrets.get? ⟨r.ns, r.name⟩ with
    | none => exact Reply.reports_response (by decide) _ _ _
    | some secret => exact Reply.carries_response _
  list hlists := s.delivers_server r pageSize token hlists (hlength _) htoken (husable _)
  refuse hlists := by
    rintro held rfl
    rw [reply_server_forPage, answerPage, if_neg hlists]
    exact ⟨Reply.reports_response (by decide) _ _ _, rfl⟩
  accept _ _ haccepts held := by
    simp only [reply_server_forUpdate, if_pos haccepts]
    exact ⟨Reply.carries_response _, rfl⟩
  reject _ _ haccepts held := by
    simp only [reply_server_forUpdate, if_neg haccepts, and_true]
    exact Reply.reports_response (by decide) _ _ _

end

end Store

/-! ### A store with two workloads -/

theorem OrderedMap.length_set_le {κ α : Type} [Ord κ] (key : κ) (v : α) :
    (es : List (κ × α)) → (set key v es).length ≤ es.length + 1
  | [] => le_rfl
  | e :: es => by
    have ih := length_set_le key v es
    rw [set]
    split <;> simp only [List.length_cons] <;> omega

namespace Store

/-- No list holds more workloads than are stored. -/
theorem length_documents_le (s : Store) (k : Kind) (ns : String) :
    (s.documents k ns).length ≤ s.workloads.size := by
  rw [documents, List.length_map]
  exact List.length_filter_le ..

theorem size_workloads_put_le (s : Store) (w : Workload k) :
    (s.put w).workloads.size ≤ s.workloads.size + 1 :=
  OrderedMap.length_set_le ..

end Store

namespace Sample

/-- A store with two deployments, which take part, and the secret that they consume. -/
def pair : Store := single.put (consumer "prod" "api" "db")

theorem built_pair : pair.Built := built_single.put _

theorem lists_pair (k : Kind) : pair.Lists k := ⟨rfl, List.not_mem_nil⟩

theorem find?_pair_api :
    pair.find? .deployment ⟨"prod", "api"⟩ = some (consumer "prod" "api" "db") :=
  Store.find?_of_get? ((Store.get?_workloads_put ..).trans (if_pos rfl))

theorem get?_pair_of_ne {slot : Slot} (h : slot ≠ ⟨.deployment, ⟨"prod", "api"⟩⟩) :
    pair.workloads.get? slot = single.workloads.get? slot :=
  (Store.get?_workloads_put ..).trans (if_neg h)

theorem find?_pair_web :
    pair.find? .deployment ⟨"prod", "web"⟩ = some (consumer "prod" "web" "db") := by
  have hsame := get?_pair_of_ne (by decide :
    (⟨.deployment, ⟨"prod", "web"⟩⟩ : Slot) ≠ ⟨.deployment, ⟨"prod", "api"⟩⟩)
  exact (Store.find?_congr hsame).trans find?_single

theorem target?_pair : pair.target? ⟨"prod", "db"⟩ = some ⟨"db", ⟨"v2"⟩⟩ :=
  built_pair.orderly.target?_eq secret_single (version_managedSecret "prod" "db" "v2")

theorem outdated_pair :
    pair.Outdated ⟨"prod", "db"⟩ ⟨"db", ⟨"v2"⟩⟩ ⟨.deployment, ⟨"prod", "web"⟩⟩ := by
  refine ⟨⟨rfl, _, find?_pair_web, annotation?_consumer .., consumes_consumer ..⟩, ?_⟩
  rintro ⟨w, hw, -, htemplate⟩
  cases hw.symm.trans find?_pair_web
  cases htemplate

/-- There are two deployments at most, and no other workloads. -/
theorem length_documents_pair_le (k : Kind) : (pair.documents k "prod").length ≤ 2 := by
  have hempty : (Store.put {} (consumer "prod" "web" "db")).workloads.size ≤ 0 + 1 :=
    Store.size_workloads_put_le ..
  have hsingle : pair.workloads.size ≤
      (Store.put {} (consumer "prod" "web" "db")).workloads.size + 1 :=
    Store.size_workloads_put_le ..
  have hpair := pair.length_documents_le k "prod"
  omega

/-- They do not fit on a page for one. -/
theorem one_lt_length_documents_pair : 1 < (pair.documents .deployment "prod").length := by
  have hs := built_pair.orderly
  have hapi : consumer "prod" "api" "db" ∈ pair.members .deployment "prod" :=
    hs.mem_members_iff.2 ⟨find?_pair_api, rfl⟩
  have hweb : consumer "prod" "web" "db" ∈ pair.members .deployment "prod" :=
    hs.mem_members_iff.2 ⟨find?_pair_web, rfl⟩
  rw [hs.documents_eq, List.length_map]
  by_contra hlength
  obtain ⟨w, hw⟩ : ∃ w, pair.members .deployment "prod" = [w] := by
    refine List.length_eq_one_iff.1 ?_
    have hpos := List.length_pos_of_mem hapi
    omega
  rw [hw] at hapi hweb
  have hname := congrArg (fun w => w.metadata.name)
    ((List.mem_singleton.1 hapi).trans (List.mem_singleton.1 hweb).symm)
  exact absurd hname (by decide)

/-- All objects have names as a cluster admits them. -/
theorem named_pair : pair.Named := by
  have hweb : IsName "web" := .of_all (by decide) (by decide) (by decide)
  have hapi : IsName "api" := .of_all (by decide) (by decide) (by decide)
  intro slot json hget
  by_cases h : slot = ⟨.deployment, ⟨"prod", "api"⟩⟩
  · subst h
    exact ⟨isName_prod, hapi⟩
  · rw [get?_pair_of_ne h] at hget
    have hsingle : single.workloads.get? slot =
        if slot = ⟨.deployment, ⟨"prod", "web"⟩⟩ then some _ else none :=
      Store.get?_workloads_put {} (consumer "prod" "web" "db") slot
    rw [hsingle] at hget
    obtain ⟨rfl, -⟩ := Option.ite_none_right_eq_some.1 hget
    exact ⟨isName_prod, hweb⟩

/-- A deployment from the second page is restarted at the server as it is in the store. -/
theorem get?_pair_of_pass :
    ((runPass ((pair.server ⟨"prod", "db"⟩ 1 "next").api.access 1 2) (some 1) .all
      ⟨"prod", "db"⟩).run.run (pair.workloads, [])).2.1.get? ⟨.deployment, ⟨"prod", "web"⟩⟩ =
    some ((Workload.codec .deployment).write
      ((consumer "prod" "web" "db").stamped (stampKey "db") ⟨"v2"⟩)) := by
  have hfits (k : Kind) : Request.Fits k "prod" 1 "next" := by
    cases k <;> decide +kernel
  have hmirrors : Mirrors (fun k t => Request.Fits k (SecretRef.mk "prod" "db").ns (max 1 1) t)
      (pair.server ⟨"prod", "db"⟩ 1 "next") id pair ⟨"prod", "db"⟩ (max 1 1) 2 :=
    pair.mirrors_server ⟨"prod", "db"⟩ 1 "next" length_documents_pair_le (by decide)
      fun k _ => hfits k
  have hbound : max 1 2 ≤ 2 := by decide
  have hstart : id pair.workloads = pair.workloads := rfl
  obtain ⟨-, -, -, hheld, -⟩ := hmirrors.agrees built_pair named_pair isName_prod isName_db
    (by decide) hbound (some 1) none .all hstart
  have hs := built_pair.orderly
  have hread : ∀ k ∈ Scope.all.kinds, pair.Lists k := fun k _ => lists_pair k
  have hafter := hs.run_runPass_of_found hread target?_pair none
  obtain ⟨w, hfind, -, hget⟩ := Ledger.get?_workedOff_of_outdated (l := ⟨pair, []⟩) hs
    (Scope.mem_kinds_all .deployment) outdated_pair List.not_mem_nil
  cases find?_pair_web.symm.trans hfind
  rw [id_eq, hafter] at hheld
  rw [hheld]
  exact hget

/-! ### A token that is too long -/

/-- A text of 70000 letters. -/
def longToken : String := String.ofList (List.replicate 70000 'a')

theorem utf8ByteSize_longToken : longToken.utf8ByteSize = 70000 := by
  have hbytes (n : Nat) : String.utf8Len (List.replicate n 'a') = n := by
    induction n with
    | zero => rfl
    | succ n ih =>
      rw [List.replicate_succ, String.utf8Len_cons, ih]
      rfl
  exact (String.utf8ByteSize_ofList _).trans (hbytes 70000)

theorem longToken_ne_empty : longToken ≠ "" := by
  intro h
  have hsize := utf8ByteSize_longToken
  rw [h] at hsize
  cases hsize

/-- A list fails if its second page cannot be asked for. -/
theorem quietly_list_longToken :
    Quietly (Holding id pair.workloads) (· = .ok (.error (.unsendable .longAddress)))
      (((pair.server ⟨"prod", "db"⟩ 1 longToken).api.access 1 2).list .deployment "prod").run := by
  have hfirst : Behaviour.Answers (pair.server ⟨"prod", "db"⟩ 1 longToken) id pair.workloads
      (.forPage .deployment "prod" 1 none) fun reply =>
        reply.read (Page.ofDocument? .deployment) =
          .ok ⟨(pair.members .deployment "prod").take 1, some longToken⟩ := by
    rintro held rfl
    have hmore : ¬ (pair.documents .deployment "prod").length ≤ 1 :=
      Nat.not_le.2 one_lt_length_documents_pair
    have hquery : some (Request.pageQuery 1 none) ≠ some (Request.pageQuery 1 (some longToken)) :=
      fun h => Request.pageQuery_ne 1 longToken (Option.some.inj h)
    have hitems :
        ((pair.documents .deployment "prod").take 1).mapM (Workload.codec .deployment).read =
          some ((pair.members .deployment "prod").take 1) := by
      rw [built_pair.orderly.documents_eq, ← List.map_take, Json.Codec.mapM_read_map_write,
        List.map_take, built_pair.orderly.map_asWritten_members]
    have hpage := Page.ofDocument?_document hitems { continueToken := some longToken }
    rw [Option.filter_some, if_pos (bne_iff_ne.2 longToken_ne_empty)] at hpage
    refine ⟨?_, rfl⟩
    rw [pair.reply_server_forPage ⟨"prod", "db"⟩ 1 longToken, Store.answerPage,
      if_pos (lists_pair _), if_neg hquery, if_neg hmore]
    exact Reply.read_of_carries (Reply.carries_response _) hpage
  have hrequest : Request.list .deployment "prod" 1 none =
      .ok (.forPage .deployment "prod" 1 none) :=
    Request.list_eq isName_prod (by decide) nofun
  have hnext : Request.list .deployment "prod" 1 (some longToken) = .error .longAddress :=
    Request.list_of_not_fits (Request.not_fits_of_size (by rw [utf8ByteSize_longToken]; decide))
  change Quietly _ _
    (readPages (pair.server ⟨"prod", "db"⟩ 1 longToken).api .deployment "prod" 1 2 none []).run
  rw [readPages, ExceptT.run_bind]
  refine (quietly_exchange hrequest hfirst (Page.ofDocument? .deployment)).bind ?_
  rintro _ ⟨reply, hreply, rfl⟩
  rw [hreply]
  refine Quietly.run_bind (a := ()) (fun _ x hx => ⟨rfl, hx⟩) ?_
  rw [readPages, hnext]
  exact Quietly.pure rfl

/-- No update is rejected. -/
theorem failures_tally_pair (t : Target) (l : Listing) : (pair.tally t l).failures = [] := by
  have hfate (w : Workload l.kind) : pair.fate t w = .ok (decide (¬ w.IsCurrent t)) := by
    have haccepts : pair.Accepts w := List.not_mem_nil
    by_cases hcurrent : w.IsCurrent t
    · rw [Store.fate, if_pos hcurrent, decide_eq_false (not_not.2 hcurrent)]
    · rw [Store.fate, if_neg hcurrent, if_pos haccepts, decide_eq_true hcurrent]
  refine List.filterMap_eq_nil_iff.2 fun e he => ?_
  obtain ⟨w, -, rfl⟩ := List.mem_map.1 he
  rw [hfate]

/-- **A list fails although the store lists everything.** The server mirrors the store, but its
token for the second page is too long for an address. -/
theorem listing_fails_of_long_token :
    Mirrors (fun _ _ => True) (pair.server ⟨"prod", "db"⟩ 1 longToken) id pair ⟨"prod", "db"⟩ 1 2 ∧
    ((runPass ((pair.server ⟨"prod", "db"⟩ 1 longToken).api.access 1 2) none (.only .deployment)
      ⟨"prod", "db"⟩).run.run (pair.workloads, [])).1 =
        .ok (.error (.listing "Deployment" "prod" (.unsendable .longAddress))) ∧
    ∃ report, ((runPass Store.quiet none (.only .deployment) ⟨"prod", "db"⟩).run pair).1 =
      .ok report := by
  refine ⟨pair.mirrors_server _ 1 longToken length_documents_pair_le longToken_ne_empty
    fun _ _ => trivial, ?_, ?_⟩
  · have hsurvey : Finds (Holding id pair.workloads)
        (survey ((pair.server ⟨"prod", "db"⟩ 1 longToken).api.access 1 2) (.only .deployment)
          ⟨"prod", "db"⟩)
        (throwThe Failure (.listing "Deployment" "prod" (.unsendable .longAddress))) :=
      (finds_listKind_of_failed quietly_list_longToken).bind_throw _
    have hstart : Holding id pair.workloads [] (pair.workloads, ([] : List Exchange)) := rfl
    obtain ⟨hfailed, -⟩ := hsurvey [] _ hstart
    exact fst_run_runPass_of_failed hfailed
  · have hread : ∀ k ∈ (Scope.only .deployment).kinds, pair.Lists k := fun k _ => lists_pair k
    have hkept := built_pair.orderly.run_runPass_of_found hread target?_pair none
    simp only [hkept]
    refine ⟨_, Tally.outcome_eq_ok_iff.2 ⟨?_, rfl⟩⟩
    rw [Tally.failures_total, List.flatMap_map]
    exact List.flatMap_eq_nil_iff.2 fun l _ => failures_tally_pair _ l

end Sample

end SecretRotation
