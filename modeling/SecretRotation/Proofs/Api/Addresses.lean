import Mathlib.Data.List.TakeWhile
import Mathlib.Data.String.Basic
import SecretRotation.Api.Client
import SecretRotation.Store

/-!
# Requests that can be sent

A request is sent if its address is one: it may only contain certain characters, and must not be
too long. The names that a cluster gives to objects and namespaces are harmless in both respects, so
secrets can be fetched, workloads replaced, and first pages of lists asked for. What a server makes
the token of a page is up to the server. Any character of it can be sent, since it is encoded, but
it may be too long; then the next page cannot be asked for.

## Main definitions

* `IsName`: a text that a cluster admits as the name of an object or a namespace.
* `Slot.path`: where the workload of a slot is found.
* `Request.forPage`, `Request.forSecret`, `Request.forUpdate`: the requests of a client.
* `Request.Fits`: a token with which the next page can be asked for.

## Main results

* `Address.ofText_path`, `Address.ofText_query`: which addresses can be sent.
* `Request.list_eq`, `Request.fetch_eq`, `Request.replace_eq`: the requests that are sent.
* `Request.list_of_not_fits`: a page that cannot be asked for.
-/

namespace SecretRotation

open Text (formEncoded formEncodedByte standsForItself)

/-! ### Texts as addresses -/

namespace Address

theorem ne_hash_of_isPathChar {c : Char} (h : isPathChar c = true) : c ≠ '#' := by
  rintro rfl
  exact absurd h (by decide)

theorem ne_question_of_isPathChar {c : Char} (h : isPathChar c = true) : c ≠ '?' := by
  rintro rfl
  exact absurd h (by decide)

theorem ne_hash_of_isQueryChar {c : Char} (h : isQueryChar c = true) : c ≠ '#' := by
  rintro rfl
  exact absurd h (by decide)

variable {path query : List Char}

/-- A path by itself. -/
theorem split?_path (hpath : ∀ c ∈ path, isPathChar c = true) :
    split? path = some (path, none) := by
  have hhash : ∀ c ∈ path, (c != '#') = true := fun c hc =>
    bne_iff_ne.2 (ne_hash_of_isPathChar (hpath c hc))
  have hquestion : ∀ c ∈ path, (c != '?') = true := fun c hc =>
    bne_iff_ne.2 (ne_question_of_isPathChar (hpath c hc))
  simp only [split?, List.takeWhile_eq_self_iff.2 hhash, List.takeWhile_eq_self_iff.2 hquestion,
    List.dropWhile_eq_nil_iff.2 hquestion, List.tail?_nil, Option.getD_none, List.all_nil,
    Bool.and_true, List.all_eq_true.2 hpath, if_true]

/-- A path with a query. -/
theorem split?_query (hpath : ∀ c ∈ path, isPathChar c = true)
    (hquery : ∀ c ∈ query, isQueryChar c = true) :
    split? (path ++ '?' :: query) = some (path, some query) := by
  have hhash : ∀ c ∈ path ++ '?' :: query, (c != '#') = true := by
    intro c hc
    refine bne_iff_ne.2 ?_
    rcases List.mem_append.1 hc with hc | hc
    · exact ne_hash_of_isPathChar (hpath c hc)
    · rcases List.mem_cons.1 hc with rfl | hc
      · decide
      · exact ne_hash_of_isQueryChar (hquery c hc)
  have hquestion : ∀ c ∈ path, (c != '?') = true := fun c hc =>
    bne_iff_ne.2 (ne_question_of_isPathChar (hpath c hc))
  have htake : (path ++ '?' :: query).takeWhile (· != '?') = path := by
    rw [List.takeWhile_append_of_pos hquestion, List.takeWhile_cons_of_neg (by decide),
      List.append_nil]
  have hdrop : (path ++ '?' :: query).dropWhile (· != '?') = '?' :: query := by
    rw [List.dropWhile_append_of_pos hquestion, List.dropWhile_cons_of_neg (by decide)]
  simp only [split?, List.takeWhile_eq_self_iff.2 hhash, htake, hdrop, List.tail?_cons,
    Option.getD_some, List.all_eq_true.2 hpath, List.all_eq_true.2 hquery, Bool.and_true, if_true]

variable {text rest : String}

/-- The address of a path without a query. -/
theorem ofText_path (hpath : ∀ c ∈ text.toList, isPathChar c = true)
    (hslash : text.toList.head? = some '/') (hsize : text.utf8ByteSize ≤ maxSize) :
    ofText text = .ok ⟨text, none⟩ := by
  rw [ofText, if_neg (Nat.not_lt.2 hsize), split?_path hpath]
  simp only [hslash, if_true, String.ofList_toList, Option.map_none]

/-- The address of a path with a query. -/
theorem ofText_query (hpath : ∀ c ∈ text.toList, isPathChar c = true)
    (hslash : text.toList.head? = some '/') (hquery : ∀ c ∈ rest.toList, isQueryChar c = true)
    (hsize : (text ++ "?" ++ rest).utf8ByteSize ≤ maxSize) :
    ofText (text ++ "?" ++ rest) = .ok ⟨text, some rest⟩ := by
  have hchars : (text ++ "?" ++ rest).toList = text.toList ++ '?' :: rest.toList := by
    rw [String.toList_append, String.toList_append, List.append_assoc]
    rfl
  rw [ofText, if_neg (Nat.not_lt.2 hsize), hchars, split?_query hpath hquery]
  simp only [hslash, if_true, String.ofList_toList, Option.map_some]

end Address

/-! ### Names -/

/-- Whether a character may stand in a name. -/
def isNameChar (c : Char) : Bool := c.isLower || c.isDigit || c == '-' || c == '.'

/-- A text that a cluster admits as the name of an object or a namespace. -/
structure IsName (text : String) : Prop where
  ne_empty : text ≠ ""
  size_le : text.utf8ByteSize ≤ 253
  chars : ∀ c ∈ text.toList, isNameChar c = true

theorem IsName.of_all {text : String} (hne : text ≠ "") (hsize : text.utf8ByteSize ≤ 253)
    (hchars : text.toList.all isNameChar = true) : IsName text :=
  ⟨hne, hsize, List.all_eq_true.1 hchars⟩

namespace Sample

theorem isName_prod : IsName "prod" := .of_all (by decide) (by decide) (by decide)

theorem isName_db : IsName "db" := .of_all (by decide) (by decide) (by decide)

end Sample

theorem isLower_iff {c : Char} : c.isLower = true ↔ 0x61 ≤ c.toNat ∧ c.toNat ≤ 0x7A := by
  have hdef : c.isLower = (decide (c.val ≥ 0x61) && decide (c.val ≤ 0x7A)) := rfl
  simp [hdef, UInt32.le_iff_toNat_le, ← Char.toNat_val]

theorem isUpper_iff {c : Char} : c.isUpper = true ↔ 0x41 ≤ c.toNat ∧ c.toNat ≤ 0x5A := by
  have hdef : c.isUpper = decide (c.val ≥ 0x41 ∧ c.val ≤ 0x5A) := rfl
  simp [hdef, UInt32.le_iff_toNat_le, ← Char.toNat_val]

theorem isPathChar_of_isNameChar {c : Char} (h : isNameChar c = true) :
    Address.isPathChar c = true := by
  simp only [isNameChar, Bool.or_eq_true, beq_iff_eq, isLower_iff,
    Char.isDigit_iff_toNat, Char.reduceToNat] at h
  rcases h with ((h | h) | rfl) | rfl
  · simp [Address.isPathChar]
    omega
  · simp [Address.isPathChar]
    omega
  · decide
  · decide

theorem isQueryChar_of_isAlphanum {c : Char} (h : c.isAlphanum = true) :
    Address.isQueryChar c = true := by
  have hdef : c.isAlphanum = (c.isUpper || c.isLower || c.isDigit) := rfl
  simp only [hdef, Bool.or_eq_true, isLower_iff, isUpper_iff, Char.isDigit_iff_toNat,
    Char.reduceToNat] at h
  simp [Address.isQueryChar]
  omega

/-! ### Encoded tokens -/

theorem isQueryChar_of_standsForItself {b : UInt8} (h : standsForItself b = true) :
    Address.isQueryChar (Char.ofNat b.toNat) = true := by
  simp only [standsForItself, Bool.or_eq_true, beq_iff_eq] at h
  rcases h with (((h | h) | h) | h) | h
  · exact isQueryChar_of_isAlphanum h
  all_goals
    rw [h]
    decide

theorem isQueryChar_upperHexDigit (n : Nat) :
    Address.isQueryChar (Text.upperHexDigit n) = true := by
  have hdigits : ∀ c ∈ "0123456789ABCDEF".toList, Address.isQueryChar c = true :=
    List.all_eq_true.1 (by decide)
  rw [Text.upperHexDigit, List.getD_eq_getElem?_getD]
  cases hget : "0123456789ABCDEF".toList[n]? with
  | none => decide
  | some c => exact hdigits c (List.mem_of_getElem? hget)

/-- An encoded text can stand in a query. -/
theorem isQueryChar_of_mem_formEncoded {text : String} {c : Char}
    (h : c ∈ (formEncoded text).toList) : Address.isQueryChar c = true := by
  rw [formEncoded, String.toList_ofList, List.mem_flatMap] at h
  obtain ⟨b, -, hc⟩ := h
  rw [formEncodedByte] at hc
  split at hc
  next hself =>
    rw [List.mem_singleton.1 hc]
    exact isQueryChar_of_standsForItself hself
  next =>
    split at hc
    next =>
      rw [List.mem_singleton.1 hc]
      decide
    next =>
      simp only [List.mem_cons, List.not_mem_nil, or_false] at hc
      rcases hc with rfl | rfl | rfl
      · decide
      · exact isQueryChar_upperHexDigit _
      · exact isQueryChar_upperHexDigit _

/-! ### Paths -/

/-- The path under which the workload of a slot is addressed. -/
def Slot.path (slot : Slot) : String :=
  Request.workloadsPath slot.kind slot.identity.ns ++ "/" ++ slot.identity.name

/-- The path under which a secret is addressed. -/
def SecretRef.path (r : SecretRef) : String :=
  "/api/v1/namespaces/" ++ r.ns ++ "/secrets/" ++ r.name

/-- A text can stand in an address and takes up to some number of bytes there. -/
structure IsPath (text : String) (size : Nat) : Prop where
  chars : ∀ c ∈ text.toList, Address.isPathChar c = true
  size_le : text.utf8ByteSize ≤ size

theorem IsPath.of_all {text : String} {size : Nat}
    (hchars : text.toList.all Address.isPathChar = true) (hsize : text.utf8ByteSize ≤ size) :
    IsPath text size :=
  ⟨List.all_eq_true.1 hchars, hsize⟩

theorem IsPath.append {a b : String} {m n : Nat} (ha : IsPath a m) (hb : IsPath b n) :
    IsPath (a ++ b) (m + n) where
  chars := by
    rw [String.toList_append]
    exact List.forall_mem_append.2 ⟨ha.chars, hb.chars⟩
  size_le := by
    rw [String.utf8ByteSize_append]
    exact Nat.add_le_add ha.size_le hb.size_le

theorem IsName.isPath {text : String} (h : IsName text) : IsPath text 253 where
  chars c hc := isPathChar_of_isNameChar (h.chars c hc)
  size_le := h.size_le

theorem isPath_workloadsPath (k : Kind) {ns : String} (hns : IsName ns) :
    IsPath (Request.workloadsPath k ns) 291 := by
  have hbefore : IsPath ("/apis/" ++ Kind.apiVersion ++ "/namespaces/") 25 :=
    .of_all (by decide) (by decide)
  have hslash : IsPath "/" 1 := .of_all (by decide) (by decide)
  have hplural : IsPath k.plural 12 := by
    cases k <;> exact .of_all (by decide) (by decide)
  exact ((hbefore.append hns.isPath).append hslash).append hplural

theorem isPath_slot (slot : Slot) (hns : IsName slot.identity.ns)
    (hname : IsName slot.identity.name) : IsPath slot.path 545 := by
  have hslash : IsPath "/" 1 := .of_all (by decide) (by decide)
  exact ((isPath_workloadsPath slot.kind hns).append hslash).append hname.isPath

theorem isPath_secret {r : SecretRef} (hns : IsName r.ns) (hname : IsName r.name) :
    IsPath r.path 534 := by
  have hbefore : IsPath "/api/v1/namespaces/" 19 := .of_all (by decide) (by decide)
  have hbetween : IsPath "/secrets/" 9 := .of_all (by decide) (by decide)
  exact ((hbefore.append hns.isPath).append hbetween).append hname.isPath

theorem head?_append {a : String} (h : a.toList.head? = some '/') (b : String) :
    (a ++ b).toList.head? = some '/' := by
  rw [String.toList_append, List.head?_append, h, Option.some_or]

theorem head?_workloadsPath (k : Kind) (ns : String) :
    (Request.workloadsPath k ns).toList.head? = some '/' := by
  have hbefore : ("/apis/" ++ Kind.apiVersion ++ "/namespaces/").toList.head? = some '/' := by
    decide
  exact head?_append (head?_append (head?_append hbefore ns) "/") k.plural

theorem head?_slot (slot : Slot) : slot.path.toList.head? = some '/' :=
  head?_append (head?_append (head?_workloadsPath slot.kind slot.identity.ns) "/") _

theorem head?_secret (r : SecretRef) : r.path.toList.head? = some '/' := by
  have hbefore : "/api/v1/namespaces/".toList.head? = some '/' := by decide
  exact head?_append (head?_append (head?_append hbefore r.ns) "/secrets/") r.name

/-! ### Requests -/

namespace Request

/-- The query with which a page is asked for. -/
def pageQuery (pageSize : Nat) (token : Option String) : String :=
  "&limit=" ++ toString pageSize ++ token.elim "" fun t => "&continue=" ++ formEncoded t

/-- The request for a page of a list. -/
def forPage (k : Kind) (ns : String) (pageSize : Nat) (token : Option String) : Request :=
  ⟨"GET", ⟨workloadsPath k ns, some (pageQuery pageSize token)⟩, .empty⟩

/-- The request for a secret. -/
def forSecret (r : SecretRef) : Request := ⟨"GET", ⟨r.path, none⟩, .empty⟩

/-- The request to store a document in a slot. -/
def forUpdate (slot : Slot) (document : Json) : Request :=
  ⟨"PUT", ⟨slot.path, some ("&fieldManager=" ++ operatorName)⟩, .document document⟩

/-- The next page of a list can be asked for with a token: the address does not get too long. -/
def Fits (k : Kind) (ns : String) (pageSize : Nat) (token : String) : Prop :=
  (workloadsPath k ns ++ "?" ++ pageQuery pageSize (some token)).utf8ByteSize ≤ Address.maxSize

instance (k : Kind) (ns : String) (pageSize : Nat) (token : String) :
    Decidable (Fits k ns pageSize token) :=
  inferInstanceAs (Decidable (_ ≤ _))

theorem list_eq_get (k : Kind) (ns : String) (pageSize : Nat) (token : Option String) :
    list k ns pageSize token = get (workloadsPath k ns ++ "?" ++ pageQuery pageSize token) := by
  have hquery : ("?&limit=" : String) = "?" ++ "&limit=" := by decide
  rw [list, pageQuery, hquery]
  simp only [String.append_assoc]

theorem isQueryChar_toString {n : Nat} {c : Char} (h : c ∈ (toString n).toList) :
    Address.isQueryChar c = true := by
  rw [Nat.toString_eq_ofList_toDigits, String.toList_ofList] at h
  have hdigit := Nat.isDigit_of_mem_toDigits (by decide) (by decide) h
  exact isQueryChar_of_isAlphanum (Bool.or_eq_true_iff.2 (.inr hdigit))

theorem isQueryChar_pageQuery {pageSize : Nat} {token : Option String} {c : Char}
    (h : c ∈ (pageQuery pageSize token).toList) : Address.isQueryChar c = true := by
  have hlimit : ∀ c ∈ "&limit=".toList, Address.isQueryChar c = true :=
    List.all_eq_true.1 (by decide)
  have hcontinue : ∀ c ∈ "&continue=".toList, Address.isQueryChar c = true :=
    List.all_eq_true.1 (by decide)
  rw [pageQuery, String.toList_append, String.toList_append] at h
  rcases List.mem_append.1 h with h | h
  · rcases List.mem_append.1 h with h | h
    · exact hlimit c h
    · exact isQueryChar_toString h
  · cases token with
    | none => cases h
    | some t =>
      have h : c ∈ ("&continue=" ++ formEncoded t).toList := h
      rw [String.toList_append] at h
      rcases List.mem_append.1 h with h | h
      · exact hcontinue c h
      · exact isQueryChar_of_mem_formEncoded h

/-- The digits of a page size do not take much room. -/
theorem utf8ByteSize_toString_le {n : Nat} (hn : n < 2 ^ 32) : (toString n).utf8ByteSize ≤ 40 := by
  have hlen (cs : List Char) : String.utf8Len cs ≤ 4 * cs.length := by
    induction cs with
    | nil => exact Nat.zero_le _
    | cons c cs ih =>
      have hc := c.utf8Size_le_four
      rw [String.utf8Len_cons, List.length_cons]
      omega
  have hdigits : (Nat.toDigits 10 n).length ≤ 10 :=
    (Nat.length_toDigits_le_iff (by decide) (by decide)).2 (by omega)
  rw [Nat.toString_eq_ofList_toDigits, String.utf8ByteSize_ofList]
  have := hlen (Nat.toDigits 10 n)
  omega

/-- The first page of a list can be asked for, and each further page if its token fits. -/
theorem list_eq {k : Kind} {ns : String} (hns : IsName ns) {pageSize : Nat}
    (hpageSize : pageSize < 2 ^ 32) {token : Option String}
    (htoken : ∀ t, token = some t → Fits k ns pageSize t) :
    list k ns pageSize token = .ok (forPage k ns pageSize token) := by
  have hpath := isPath_workloadsPath k hns
  have hsize : (workloadsPath k ns ++ "?" ++ pageQuery pageSize token).utf8ByteSize ≤
      Address.maxSize := by
    cases token with
    | some t => exact htoken t rfl
    | none =>
      have hlimit : ("&limit=" : String).utf8ByteSize = 7 := by decide
      have hmark : ("?" : String).utf8ByteSize = 1 := by decide
      have hdigits := utf8ByteSize_toString_le hpageSize
      have hsize := hpath.size_le
      simp only [pageQuery, Option.elim_none, String.utf8ByteSize_append, hlimit, hmark,
        String.utf8ByteSize_empty, Address.maxSize]
      omega
  rw [list_eq_get, get, Address.ofText_query hpath.chars (head?_workloadsPath k ns)
    (fun _ => isQueryChar_pageQuery) hsize]
  rfl

/-- A page cannot be asked for with a token that does not fit. -/
theorem list_of_not_fits {k : Kind} {ns : String} {pageSize : Nat} {token : String}
    (h : ¬ Fits k ns pageSize token) :
    list k ns pageSize (some token) = .error .longAddress := by
  rw [list_eq_get, get, Address.ofText, if_pos (Nat.lt_of_not_le h)]
  rfl

theorem fetch_eq {r : SecretRef} (hns : IsName r.ns) (hname : IsName r.name) :
    fetch r = .ok (forSecret r) := by
  have hpath := isPath_secret hns hname
  have hsize : r.path.utf8ByteSize ≤ Address.maxSize := by
    have hsize := hpath.size_le
    rw [Address.maxSize]
    omega
  rw [fetch, nonemptyName, if_neg hname.ne_empty]
  change get r.path = _
  rw [get, Address.ofText_path hpath.chars (head?_secret r) hsize]
  rfl

theorem replace_eq {k : Kind} {w : Workload k} (hns : IsName w.identity.ns)
    (hname : IsName w.identity.name) :
    replace w = .ok (forUpdate ⟨k, w.identity⟩ ((Workload.codec k).write w)) := by
  have hpath := isPath_slot ⟨k, w.identity⟩ hns hname
  have hmanager : ∀ c ∈ ("&fieldManager=" ++ operatorName).toList,
      Address.isQueryChar c = true := List.all_eq_true.1 (by decide)
  have hsize : (Slot.path ⟨k, w.identity⟩ ++ "?" ++ ("&fieldManager=" ++ operatorName)).utf8ByteSize
      ≤ Address.maxSize := by
    have hsize := hpath.size_le
    have hmark : ("?" : String).utf8ByteSize = 1 := by decide
    have hquery : ("&fieldManager=" ++ operatorName).utf8ByteSize = 28 := by decide
    rw [String.utf8ByteSize_append, String.utf8ByteSize_append, hmark, hquery, Address.maxSize]
    omega
  have htext : Slot.path ⟨k, w.identity⟩ ++ "?" ++ ("&fieldManager=" ++ operatorName) =
      workloadsPath k w.identity.ns ++ "/" ++ w.identity.name ++ "?&fieldManager=" ++
        operatorName := by
    have hmark : ("?&fieldManager=" : String) = "?" ++ "&fieldManager=" := by decide
    rw [hmark, Slot.path]
    simp only [String.append_assoc]
  have haddress := Address.ofText_query hpath.chars (head?_slot ⟨k, w.identity⟩) hmanager hsize
  rw [htext] at haddress
  rw [replace, nonemptyName, if_neg hname.ne_empty]
  change (do
    let address ← Address.ofText (workloadsPath k w.identity.ns ++ "/" ++ w.identity.name ++
      "?&fieldManager=" ++ operatorName)
    return ⟨"PUT", address, .document ((Workload.codec k).write w)⟩ : Except SendFault Request) = _
  rw [haddress]
  rfl

end Request

end SecretRotation
