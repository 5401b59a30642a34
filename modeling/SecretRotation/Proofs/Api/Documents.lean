import SecretRotation.Api.Reading
import SecretRotation.Proofs.Cluster.RoundTrip
import SecretRotation.Sample

/-!
# What replies are read as

A server answers with documents: with the object that was asked for, with a page of a list, or with
a report of what went wrong. Read as a client reads them, a document of an object gives the object,
a page gives the workloads that it carries and the token for the next one, and a report gives the
refusal that is described in it, whatever the status of the reply.

## Main definitions

* `Reply.Carries`, `Reply.Reports`: a reply with a document, and one with a report.
* `Page.document`: the document of a page.

## Main results

* `Reply.read_of_carries`, `Reply.read_of_reports`: how a reply is read.
* `Page.ofDocument?_document`: how a page is read.
-/

namespace SecretRotation

open Json (Codec Fields)

/-! ### Replies -/

namespace Reply

/-- A reply is a success and carries a document. -/
def Carries (reply : Reply) (document : Json) : Prop :=
  ∃ status body, reply = .response status body ∧ Refusal.isStatus status = false ∧
    body.document? = some document

/-- A reply is a refusal and carries the report of a failure. -/
def Reports (reply : Reply) (code : Nat) (reason message : String) : Prop :=
  ∃ status body, reply = .response status body ∧ Refusal.isStatus status = true ∧
    body.document? = some (Sample.status code reason message)

theorem carries_response (document : Json) : (response 200 (.document document)).Carries document :=
  ⟨200, .document document, rfl, by decide, rfl⟩

theorem reports_response {status : Nat} (h : Refusal.isStatus status = true) (code : Nat)
    (reason message : String) :
    (response status (.document (Sample.status code reason message))).Reports code reason message :=
  ⟨status, _, rfl, h, rfl⟩

variable {α : Type} {reply : Reply} {readDocument : Json → Option α}

theorem read_of_carries {document : Json} {a : α} (h : reply.Carries document)
    (hread : readDocument document = some a) : reply.read readDocument = .ok a := by
  obtain ⟨status, body, rfl, hstatus, hbody⟩ := h
  simp only [read, hstatus, hbody, Option.bind_some, hread, Bool.false_eq_true, if_false]

end Reply

/-- A report describes the failure. -/
theorem Refusal.ofDocument?_status {code : Nat} (hcode : code < 0x10000)
    (reason message : String) :
    ofDocument? (Sample.status code reason message) = some (.failure code reason message) := by
  have hcount : (Json.int code).count? = some code := by simp [Json.count?, Int.toNat?]
  have hparts : ofParts? (.str "Failure") (some (.str message)) (some (.str reason))
      (.int code) = some (.failure code reason message) := by
    simp only [ofParts?, Json.text?, textOrEmpty?, hcount, Option.bind_eq_bind, Option.bind_some,
      if_pos hcode]
    rfl
  exact hparts

theorem Reply.read_of_reports {α : Type} {reply : Reply} {code : Nat} {reason message : String}
    (h : reply.Reports code reason message) (hcode : code < 0x10000)
    (readDocument : Json → Option α) :
    reply.read readDocument = .error (.refused (.failure code reason message)) := by
  obtain ⟨status, body, rfl, hstatus, hbody⟩ := h
  simp only [read, hstatus, if_true, Refusal.ofReply, hbody, Option.bind_some,
    Refusal.ofDocument?_status hcode, Option.getD_some]

/-! ### Pages -/

instance PageMeta.lawful_codec : PageMeta.codec.Lawful :=
  Fields.settles_codec (by decide) (fun _ => rfl) fun _ => rfl

/-- The document of a page that carries some items, with what is said about it. -/
def Page.document (k : Kind) (items : List Json) (about : PageMeta) : Json :=
  .obj [
    ("apiVersion", .str Kind.apiVersion),
    ("items", .arr items),
    ("kind", .str (k.name ++ "List")),
    ("metadata", PageMeta.codec.write about)]

/-- **A page is read** as the workloads that it carries and the token for the next one. -/
theorem Page.ofDocument?_document {k : Kind} {items : List Json} {ws : List (Workload k)}
    (h : items.mapM (Workload.codec k).read = some ws) (about : PageMeta) :
    ofDocument? k (document k items about) =
      some ⟨ws, about.continueToken.filter fun token => token != ""⟩ := by
  have hitems : readItems k (.arr items) = some ws := h
  have habout : PageMeta.codec.read (PageMeta.codec.write about) = some about :=
    PageMeta.lawful_codec.read_write about
  have hread : ofDocument? k (document k items about) =
      (readItems k (.arr items)).bind fun ws =>
        (PageMeta.codec.read (PageMeta.codec.write about)).bind fun about =>
          some ⟨ws, about.continueToken.filter fun token => token != ""⟩ := rfl
  rw [hread, hitems, Option.bind_some, habout, Option.bind_some]

end SecretRotation
