import SecretRotation.Proofs.Api.Addresses

/-!
# The addresses of pages

The pages of a list are asked for by addresses that differ in their queries only: the query is
appended to the path of the namespace. So all requests of a list are sent to one path, and once the
first page can be asked for, a further one can be unless its address gets too long.

A question mark or a number sign in a namespace divides the address before its query. What comes
after a question mark goes in front of the query, and after a number sign nothing is sent at all.
Without these marks the path is that of the namespace.

## Main definitions

* `Request.pageParts`: what the address of a page is divided into.

## Main results

* `Address.split?_append_query`: what a text with a query is divided into.
* `Address.ofText_eq_ok_iff`, `Request.list_eq_ok_iff`: when a page can be asked for, and how.
* `Request.of_list_eq_ok`: what the requests for all pages have in common.
* `Request.eq_forPage_of_list`: the requests in a namespace without marks.
-/

namespace SecretRotation

variable {k : Kind}

/-! ### Texts with a query -/

namespace Address

variable {path query : List Char}

/-- A text without question mark and number sign is a path. -/
theorem split?_of_not_mem (hquestion : '?' ∉ path) (hhash : '#' ∉ path) :
    split? path = if path.all isPathChar then some (path, none) else none := by
  have hkeep {mark : Char} (hmark : mark ∉ path) : ∀ c ∈ path, (c != mark) = true :=
    fun c hc => bne_iff_ne.2 fun heq => hmark (heq ▸ hc)
  simp only [split?, List.takeWhile_eq_self_iff.2 (hkeep hhash),
    List.takeWhile_eq_self_iff.2 (hkeep hquestion), List.dropWhile_eq_nil_iff.2 (hkeep hquestion),
    List.tail?_nil, Option.getD_none, List.all_nil, Bool.and_true]

/-- The first question mark divides a text without number sign. -/
theorem split?_append (hquestion : '?' ∉ path) (hhash : '#' ∉ path ++ '?' :: query) :
    split? (path ++ '?' :: query) =
      if path.all isPathChar && query.all isQueryChar then some (path, some query) else none := by
  have hsent : ∀ c ∈ path ++ '?' :: query, (c != '#') = true :=
    fun c hc => bne_iff_ne.2 fun heq => hhash (heq ▸ hc)
  have hpath : ∀ c ∈ path, (c != '?') = true :=
    fun c hc => bne_iff_ne.2 fun heq => hquestion (heq ▸ hc)
  have htake : (path ++ '?' :: query).takeWhile (· != '?') = path := by
    rw [List.takeWhile_append_of_pos hpath, List.takeWhile_cons_of_neg (by decide),
      List.append_nil]
  have hdrop : (path ++ '?' :: query).dropWhile (· != '?') = '?' :: query := by
    rw [List.dropWhile_append_of_pos hpath, List.dropWhile_cons_of_neg (by decide)]
  simp only [split?, List.takeWhile_eq_self_iff.2 hsent, htake, hdrop, List.tail?_cons,
    Option.getD_some]

/-- **A query that is appended to a text** is appended to the query that the text has already. What
comes after a number sign is not sent. -/
theorem split?_append_query {text : List Char} (hquery : ∀ c ∈ query, isQueryChar c = true) :
    split? (text ++ '?' :: query) = (split? text).map fun address =>
      if '#' ∈ text then address
      else (address.1, some (address.2.elim query fun before => before ++ '?' :: query)) := by
  have hhash : '#' ∉ '?' :: query := by
    intro h
    rcases List.mem_cons.1 h with h | h
    · exact absurd h (by decide)
    · exact ne_hash_of_isQueryChar (hquery _ h) rfl
  have hall : ('?' :: query).all isQueryChar = true :=
    List.all_eq_true.2 (List.forall_mem_cons.2 ⟨by decide, hquery⟩)
  have hallquery : query.all isQueryChar = true := List.all_eq_true.2 hquery
  by_cases hmem : '#' ∈ text
  · obtain ⟨sent, rest, rfl, hsent⟩ := List.eq_append_cons_of_mem hmem
    have hkeep : ∀ c ∈ sent, (c != '#') = true :=
      fun c hc => bne_iff_ne.2 fun heq => hsent (heq ▸ hc)
    have hcut (rest : List Char) : (sent ++ '#' :: rest).takeWhile (· != '#') = sent := by
      rw [List.takeWhile_append_of_pos hkeep, List.takeWhile_cons_of_neg (by decide),
        List.append_nil]
    simp only [if_pos hmem, Option.map_id', List.append_assoc, List.cons_append, split?, hcut]
  · simp only [if_neg hmem]
    have hsent : '#' ∉ text ++ '?' :: query := fun h => (List.mem_append.1 h).elim hmem hhash
    by_cases hquestion : '?' ∈ text
    · obtain ⟨path, before, rfl, hpath⟩ := List.eq_append_cons_of_mem hquestion
      rw [List.append_assoc, List.cons_append, split?_append hpath (by simpa using hsent),
        split?_append hpath hmem, List.all_append, hall, Bool.and_true]
      split <;> rfl
    · rw [split?_append hquestion hsent, split?_of_not_mem hquestion hmem, hallquery, Bool.and_true]
      split <;> rfl

/-- When a text is an address, and which. -/
theorem ofText_eq_ok_iff {text : String} {address : Address} :
    ofText text = .ok address ↔ text.utf8ByteSize ≤ maxSize ∧
      ∃ parts, split? text.toList = some parts ∧ parts.1.head? = some '/' ∧
        address = ⟨String.ofList parts.1, parts.2.map String.ofList⟩ := by
  rw [ofText]
  by_cases hsize : text.utf8ByteSize ≤ maxSize
  · rw [if_neg (Nat.not_lt.2 hsize)]
    cases hsplit : split? text.toList with
    | none =>
      refine iff_of_false (by simp) ?_
      rintro ⟨-, _, hparts, -⟩
      cases hparts
    | some parts =>
      obtain ⟨path, query⟩ := parts
      by_cases hslash : path.head? = some '/'
      · simp only [if_pos hslash]
        constructor
        · rintro ⟨⟩
          exact ⟨hsize, _, rfl, hslash, rfl⟩
        · rintro ⟨-, _, ⟨⟩, -, rfl⟩
          rfl
      · simp only [if_neg hslash]
        refine iff_of_false (by simp) ?_
        rintro ⟨-, _, ⟨⟩, h, -⟩
        exact hslash h
  · rw [if_pos (Nat.lt_of_not_le hsize)]
    exact iff_of_false (by simp) fun h => hsize h.1

end Address

/-! ### Requests for pages -/

namespace Request

theorem get_eq_ok_iff {text : String} {request : Request} :
    get text = .ok request ↔
      ∃ address, Address.ofText text = .ok address ∧ request = ⟨"GET", address, .empty⟩ := by
  rw [get]
  cases Address.ofText text with
  | error fault =>
    refine iff_of_false (by simp) ?_
    rintro ⟨_, haddress, -⟩
    cases haddress
  | ok address =>
    constructor
    · rintro ⟨⟩
      exact ⟨address, rfl, rfl⟩
    · rintro ⟨_, ⟨⟩, rfl⟩
      rfl

variable {ns : String} {pageSize : Nat} {token : Option String}

/-- What the address of a page is divided into, given what the path of the namespace is divided into
by itself. -/
def pageParts (k : Kind) (ns : String) (pageSize : Nat) (token : Option String)
    (parts : List Char × Option (List Char)) : List Char × Option (List Char) :=
  if '#' ∈ (workloadsPath k ns).toList then parts
  else
    (parts.1, some (parts.2.elim (pageQuery pageSize token).toList
      fun before => before ++ '?' :: (pageQuery pageSize token).toList))

theorem fst_pageParts (parts : List Char × Option (List Char)) :
    (pageParts k ns pageSize token parts).1 = parts.1 := by
  rw [pageParts]
  split <;> rfl

/-- **When a page can be asked for, and how.** The path of the namespace has to be one, and the
address must not be too long. -/
theorem list_eq_ok_iff {request : Request} :
    list k ns pageSize token = .ok request ↔
      (workloadsPath k ns ++ "?" ++ pageQuery pageSize token).utf8ByteSize ≤ Address.maxSize ∧
      ∃ parts, Address.split? (workloadsPath k ns).toList = some parts ∧
        parts.1.head? = some '/' ∧
        request = ⟨"GET", ⟨String.ofList parts.1,
          (pageParts k ns pageSize token parts).2.map String.ofList⟩, .empty⟩ := by
  have hchars : (workloadsPath k ns ++ "?" ++ pageQuery pageSize token).toList =
      (workloadsPath k ns).toList ++ '?' :: (pageQuery pageSize token).toList := by
    rw [String.toList_append, String.toList_append, List.append_assoc]
    rfl
  have hsplit : Address.split? (workloadsPath k ns ++ "?" ++ pageQuery pageSize token).toList =
      (Address.split? (workloadsPath k ns).toList).map (pageParts k ns pageSize token) := by
    rw [hchars, Address.split?_append_query fun _ => isQueryChar_pageQuery]
    rfl
  rw [list_eq_get, get_eq_ok_iff]
  simp only [Address.ofText_eq_ok_iff, hsplit, Option.map_eq_some_iff]
  constructor
  · rintro ⟨_, ⟨hsize, _, ⟨parts, hparts, rfl⟩, hslash, rfl⟩, rfl⟩
    rw [fst_pageParts] at hslash ⊢
    exact ⟨hsize, parts, hparts, hslash, rfl⟩
  · rintro ⟨hsize, parts, hparts, hslash, rfl⟩
    refine ⟨_, ⟨hsize, _, ⟨parts, hparts, rfl⟩, ?_, rfl⟩, ?_⟩
    all_goals rw [fst_pageParts]
    exact hslash

/-- If the first page can be asked for, any further one can be if its token fits. -/
theorem exists_list_eq_ok {first : Request} (hfirst : list k ns pageSize none = .ok first)
    {t : String} (ht : Fits k ns pageSize t) :
    ∃ request, list k ns pageSize (some t) = .ok request := by
  obtain ⟨-, parts, hparts, hslash, -⟩ := list_eq_ok_iff.1 hfirst
  exact ⟨_, list_eq_ok_iff.2 ⟨ht, parts, hparts, hslash, rfl⟩⟩

/-- All requests of a list are sent to one path. -/
theorem of_list_eq_ok {token' : Option String} {first request : Request}
    (hfirst : list k ns pageSize token' = .ok first)
    (hrequest : list k ns pageSize token = .ok request) :
    request.method = "GET" ∧ request.body = .empty ∧ request.address.path = first.address.path := by
  obtain ⟨-, parts, hparts, -, rfl⟩ := list_eq_ok_iff.1 hfirst
  obtain ⟨-, parts', hparts', -, rfl⟩ := list_eq_ok_iff.1 hrequest
  cases hparts.symm.trans hparts'
  exact ⟨rfl, rfl, rfl⟩

theorem not_mem_workloadsPath {mark : Char} (hns : mark ∉ ns.toList)
    (hmark : mark = '?' ∨ mark = '#') : mark ∉ (workloadsPath k ns).toList := by
  have hbefore : '?' ∉ ("/apis/" ++ Kind.apiVersion ++ "/namespaces/").toList ∧
      '#' ∉ ("/apis/" ++ Kind.apiVersion ++ "/namespaces/").toList := by decide
  have hafter : '?' ∉ ("/" ++ k.plural).toList ∧ '#' ∉ ("/" ++ k.plural).toList := by
    cases k <;> decide
  have htext : (workloadsPath k ns).toList =
      ("/apis/" ++ Kind.apiVersion ++ "/namespaces/").toList ++ ns.toList ++
        ("/" ++ k.plural).toList := by
    simp only [workloadsPath, String.toList_append, List.append_assoc]
  rw [htext]
  simp only [List.mem_append, not_or]
  rcases hmark with rfl | rfl
  · exact ⟨⟨hbefore.1, hns⟩, hafter.1⟩
  · exact ⟨⟨hbefore.2, hns⟩, hafter.2⟩

/-- Without a mark in the namespace, a page is asked for under the path of the namespace, by the
query of the page. -/
theorem eq_forPage_of_list {request : Request} (hquestion : '?' ∉ ns.toList)
    (hhash : '#' ∉ ns.toList) (h : list k ns pageSize token = .ok request) :
    request = forPage k ns pageSize token := by
  have hquestion := not_mem_workloadsPath (k := k) hquestion (.inl rfl)
  have hhash := not_mem_workloadsPath (k := k) hhash (.inr rfl)
  obtain ⟨-, parts, hparts, -, rfl⟩ := list_eq_ok_iff.1 h
  rw [Address.split?_of_not_mem hquestion hhash] at hparts
  obtain ⟨-, hparts⟩ := Option.ite_none_right_eq_some.1 hparts
  cases hparts
  simp only [pageParts, if_neg hhash, Option.elim_none, Option.map_some, String.ofList_toList,
    forPage]

end Request

end SecretRotation
