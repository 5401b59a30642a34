import Mathlib.Data.List.DropRight
import Mathlib.Data.Nat.Digits.Defs
import SecretRotation.Settings

/-!
# Which settings are accepted

A number is written in one way only, leading zeros, the plus sign and blanks around it aside: in
decimal digits. That is a grammar (`Denotes`), and it says nothing of how a number is read: of the
blanks that are cut off at both ends, of the sign that is looked at first, of the digits that are
taken up one after the other until one of them takes the number to its bound. All the same, reading
a text gives the number that the text denotes, and gives none only if the text denotes none or one
that does not fit its word.

So an environment has settings if each of its numbers is one and fits, and the page size is not
zero. Otherwise the first number that cannot be used is complained about.

## Main definitions

* `Text.decimal`: the number that digits denote, each of them counting by its place.
* `Denotes`: the number that a text denotes.
* `Accepted`: the texts that denote a number below a bound.
* `Settings.Says`, `Settings.Usable`: what a variable says of a number.
* `Settings.AskedFor`, `Settings.Refused`: the settings of an environment, or what is wrong with it.

## Main results

* `Text.exists_trimmed`, `Text.trimmed_of_blank_around`: what is left of a text without the blanks
  at its ends.
* `readDigits_eq_some_iff`: digits taken up one after the other.
* `readNumber_eq_some_iff`: the numbers that are read are those that are denoted.
* `Settings.read_cases`: an environment has settings or is refused.
* `Settings.accepts_exactly`: which environments have settings, and which.
-/

namespace SecretRotation

/-! ### Blanks at the ends of a text -/

namespace Text

/-- Nothing but blanks is cut off. -/
theorem exists_trimmed (cs : List Char) :
    ∃ before after, cs = before ++ trimmed cs ++ after ∧
      ∀ c ∈ before ++ after, isBlank c = true := by
  refine ⟨cs.takeWhile isBlank, (cs.dropWhile isBlank).rtakeWhile isBlank, ?_, ?_⟩
  · have hright : trimmed cs ++ (cs.dropWhile isBlank).rtakeWhile isBlank =
        cs.dropWhile isBlank := List.rdropWhile_append_rtakeWhile ..
    rw [List.append_assoc, hright, List.takeWhile_append_dropWhile]
  · refine List.forall_mem_append.2 ⟨fun c hc => List.mem_takeWhile_imp hc, fun c hc => ?_⟩
    exact List.mem_rtakeWhile_imp hc

theorem dropWhile_of_blank_before {before core after : List Char}
    (hbefore : ∀ c ∈ before, isBlank c = true) (hne : core ≠ [])
    (hcore : ∀ c ∈ core, isBlank c = false) :
    (before ++ (core ++ after)).dropWhile isBlank = core ++ after := by
  obtain ⟨c, cs, rfl⟩ := List.exists_cons_of_ne_nil hne
  have hc : ¬ isBlank c = true := by simp [hcore c List.mem_cons_self]
  rw [List.dropWhile_append_of_pos hbefore, List.cons_append, List.dropWhile_cons_of_neg hc]

/-- All blanks are cut off around a text without blanks. -/
theorem trimmed_of_blank_around {before core after : List Char}
    (hblank : ∀ c ∈ before ++ after, isBlank c = true) (hne : core ≠ [])
    (hcore : ∀ c ∈ core, isBlank c = false) : trimmed (before ++ core ++ after) = core := by
  have ⟨hbefore, hafter⟩ := List.forall_mem_append.1 hblank
  have hleft : (before ++ (core ++ after)).dropWhile isBlank = core ++ after :=
    dropWhile_of_blank_before hbefore hne hcore
  have hright : (after.reverse ++ (core.reverse ++ [])).dropWhile isBlank = core.reverse ++ [] :=
    dropWhile_of_blank_before (fun c hc => hafter c (List.mem_reverse.1 hc))
      (List.reverse_ne_nil_iff.2 hne) fun c hc => hcore c (List.mem_reverse.1 hc)
  rw [List.append_nil] at hright
  rw [trimmed, List.append_assoc, hleft, List.reverse_append, hright, List.reverse_reverse]

theorem isBlank_of_isDigit {c : Char} (h : c.isDigit = true) : isBlank c = false := by
  rw [Char.isDigit_iff_toNat] at h
  simp only [Char.reduceToNat] at h
  simp [isBlank, blankCodes]
  omega

/-! ### Digits -/

/-- The number that a digit denotes. -/
def digitValue (c : Char) : Nat := c.toNat - '0'.toNat

/-- The number that digits denote: the last one counts once, the one before it ten times, and so
on. -/
def decimal (digits : List Char) : Nat := Nat.ofDigits 10 (digits.map digitValue).reverse

@[simp] theorem decimal_nil : decimal [] = 0 := rfl

theorem decimal_cons (c : Char) (cs : List Char) :
    decimal (c :: cs) = digitValue c * 10 ^ cs.length + decimal cs := by
  rw [decimal, List.map_cons, Nat.ofDigits_reverse_cons, List.length_map, ← decimal]
  ring

end Text

open Text (decimal decimal_cons decimal_nil digitValue)

theorem readDigits_cons_of_fits {bound n : Nat} {c : Char} {cs : List Char}
    (hdigit : c.isDigit = true) (hfits : 10 * n + digitValue c < bound) :
    readDigits bound n (c :: cs) = readDigits bound (10 * n + digitValue c) cs :=
  if_pos (Bool.and_eq_true_iff.2 ⟨hdigit, decide_eq_true hfits⟩)

theorem readDigits_cons_of_not_fits {bound n : Nat} {c : Char} {cs : List Char}
    (h : ¬ (c.isDigit = true ∧ 10 * n + digitValue c < bound)) :
    readDigits bound n (c :: cs) = none :=
  if_neg fun hand =>
    have ⟨hdigit, hfits⟩ := Bool.and_eq_true_iff.1 hand
    h ⟨hdigit, of_decide_eq_true hfits⟩

/-- **Digits taken up one after the other** are read behind those of a number. There is no step at
which a number that fits in the end is given up, since it only grows. -/
theorem readDigits_eq_some_iff {bound n m : Nat} {cs : List Char} (hn : n < bound) :
    readDigits bound n cs = some m ↔
      (∀ c ∈ cs, c.isDigit = true) ∧ m = n * 10 ^ cs.length + decimal cs ∧ m < bound := by
  induction cs generalizing n with
  | nil =>
    simp only [readDigits, Option.some.injEq, List.not_mem_nil, false_implies, implies_true,
      List.length_nil, pow_zero, mul_one, decimal_nil, add_zero, true_and]
    exact ⟨fun h => ⟨h.symm, h ▸ hn⟩, fun h => h.1.symm⟩
  | cons c cs ih =>
    have hvalue : n * 10 ^ (c :: cs).length + decimal (c :: cs) =
        (10 * n + digitValue c) * 10 ^ cs.length + decimal cs := by
      rw [decimal_cons, List.length_cons, pow_succ]
      ring
    rw [hvalue, List.forall_mem_cons]
    by_cases h : c.isDigit = true ∧ 10 * n + digitValue c < bound
    · rw [readDigits_cons_of_fits h.1 h.2, ih h.2]
      simp only [h.1, true_and]
    · rw [readDigits_cons_of_not_fits h]
      -- the number only grows behind this digit
      have hgrows : 10 * n + digitValue c ≤
          (10 * n + digitValue c) * 10 ^ cs.length + decimal cs :=
        Nat.le_add_right_of_le (Nat.le_mul_of_pos_right _ (Nat.pow_pos (by decide)))
      constructor
      · intro hnone
        cases hnone
      · rintro ⟨⟨hdigit, -⟩, hm, hlt⟩
        exact absurd ⟨hdigit, by omega⟩ h

/-! ### Numbers -/

/-- The number that a text denotes: its digits in decimal notation, after a plus sign or none, and
with blanks around it. -/
def Denotes (text : String) (n : Nat) : Prop :=
  ∃ before sign digits after, text.toList = before ++ (sign ++ digits) ++ after ∧
    (∀ c ∈ before ++ after, Text.isBlank c = true) ∧ (sign = [] ∨ sign = ['+']) ∧
    digits ≠ [] ∧ (∀ c ∈ digits, c.isDigit = true) ∧ decimal digits = n

/-- A text denotes a number below a bound. -/
def Accepted (bound : Nat) (text : String) : Prop := ∃ n, Denotes text n ∧ n < bound

/-- Digits by themselves, of which there must be one. -/
theorem readDigits_zero_eq_some_iff {bound n : Nat} {digits : List Char} :
    (if digits.isEmpty then none else readDigits bound 0 digits) = some n ↔
      digits ≠ [] ∧ (∀ c ∈ digits, c.isDigit = true) ∧ decimal digits = n ∧ n < bound := by
  cases digits with
  | nil => simp
  | cons c cs =>
    rw [List.isEmpty_cons, if_neg Bool.false_ne_true]
    rcases Nat.eq_zero_or_pos bound with rfl | hbound
    · rw [readDigits_cons_of_not_fits fun h => Nat.not_lt_zero _ h.2]
      simp
    · rw [readDigits_eq_some_iff hbound, Nat.zero_mul, Nat.zero_add]
      exact ⟨fun ⟨hdigits, hn, hlt⟩ => ⟨List.cons_ne_nil c cs, hdigits, hn.symm, hlt⟩,
        fun ⟨_, hdigits, hn, hlt⟩ => ⟨hdigits, hn.symm, hlt⟩⟩

theorem readUnsigned_of_forall_ne {cs : List Char} (h : ∀ digits, cs ≠ '+' :: digits)
    (bound : Nat) :
    readUnsigned bound cs = if cs.isEmpty then none else readDigits bound 0 cs := by
  rw [readUnsigned]
  exact h

/-- What stands between the blanks is a sign or none, and digits. -/
theorem readUnsigned_eq_some_iff {bound n : Nat} {cs : List Char} :
    readUnsigned bound cs = some n ↔
      ∃ sign digits, cs = sign ++ digits ∧ (sign = [] ∨ sign = ['+']) ∧ digits ≠ [] ∧
        (∀ c ∈ digits, c.isDigit = true) ∧ decimal digits = n ∧ n < bound := by
  by_cases hsigned : ∃ digits, cs = '+' :: digits
  · obtain ⟨digits, rfl⟩ := hsigned
    have hread : readUnsigned bound ('+' :: digits) =
        if digits.isEmpty then none else readDigits bound 0 digits := rfl
    rw [hread, readDigits_zero_eq_some_iff]
    constructor
    · exact fun h => ⟨['+'], digits, rfl, .inr rfl, h⟩
    · rintro ⟨sign, digits', hcs, rfl | rfl, h⟩
      · -- the sign is not a digit itself
        have hmem : '+' ∈ digits' := by
          rw [List.nil_append] at hcs
          exact hcs ▸ List.mem_cons_self
        exact absurd (h.2.1 '+' hmem) (by decide)
      · cases hcs
        exact h
  · rw [readUnsigned_of_forall_ne (fun digits hcs => hsigned ⟨digits, hcs⟩),
      readDigits_zero_eq_some_iff]
    constructor
    · exact fun h => ⟨[], cs, rfl, .inl rfl, h⟩
    · rintro ⟨sign, digits, rfl, rfl | rfl, h⟩
      · exact h
      · exact absurd ⟨digits, rfl⟩ hsigned

/-- **The numbers that are read are those that are denoted**, if they stay below the bound. -/
theorem readNumber_eq_some_iff {bound n : Nat} {text : String} :
    readNumber bound text = some n ↔ Denotes text n ∧ n < bound := by
  rw [readNumber, readUnsigned_eq_some_iff]
  constructor
  · rintro ⟨sign, digits, htrimmed, hsign, hne, hdigits, hvalue, hn⟩
    obtain ⟨before, after, htext, hblank⟩ := Text.exists_trimmed text.toList
    rw [htrimmed] at htext
    exact ⟨⟨before, sign, digits, after, htext, hblank, hsign, hne, hdigits, hvalue⟩, hn⟩
  · rintro ⟨⟨before, sign, digits, after, htext, hblank, hsign, hne, hdigits, hvalue⟩, hn⟩
    have hcore : ∀ c ∈ sign ++ digits, Text.isBlank c = false := by
      refine List.forall_mem_append.2 ⟨fun c hc => ?_, fun c hc =>
        Text.isBlank_of_isDigit (hdigits c hc)⟩
      rcases hsign with rfl | rfl
      · cases hc
      · rw [List.mem_singleton.1 hc]
        decide
    rw [htext, Text.trimmed_of_blank_around hblank (List.append_ne_nil_of_right_ne_nil _ hne) hcore]
    exact ⟨sign, digits, rfl, hsign, hne, hdigits, hvalue, hn⟩

example : readNumber (2 ^ 32) " \t+007\n" = some 7 := by decide

/-- A text denotes one number at most. -/
theorem Denotes.unique {text : String} {m n : Nat} (hm : Denotes text m) (hn : Denotes text n) :
    m = n := by
  have hreadm : readNumber (max m n + 1) text = some m :=
    readNumber_eq_some_iff.2 ⟨hm, by omega⟩
  have hreadn : readNumber (max m n + 1) text = some n :=
    readNumber_eq_some_iff.2 ⟨hn, by omega⟩
  exact Option.some.inj (hreadm.symm.trans hreadn)

/-! ### Variables -/

/-- A variable is set to a text if its bytes are those of the text. Any other bytes count as
none. -/
theorem Environment.text?_eq_some_iff {env : Environment} {name text : String} :
    env.text? name = some text ↔ env.lookup name = some text.toUTF8 := by
  rw [Environment.text?, Option.bind_eq_some_iff]
  constructor
  · rintro ⟨bytes, hlookup, htext⟩
    rw [String.fromUTF8?] at htext
    split at htext
    next => exact Option.some.inj htext ▸ hlookup
    next => cases htext
  · intro hlookup
    refine ⟨text.toUTF8, hlookup, ?_⟩
    exact dif_pos text.isValidUTF8

namespace Settings

variable {env : Environment} {name : String} {bound : Nat}

/-- What a variable says of a number below a bound: nothing if it is not set. -/
def Says (env : Environment) (name : String) (bound : Nat) : Option Nat → Prop
  | none => env.text? name = none
  | some n => ∃ text, env.text? name = some text ∧ Denotes text n ∧ n < bound

/-- The complaint about a number that cannot be used. It quotes the text with the blanks around
it. -/
def unusable (name text : String) : Failure :=
  .settings (name ++ " must be a non-negative integer, got '" ++ text ++ "'")

/-- A variable is either not set or set to a number below a bound. -/
def Usable (env : Environment) (name : String) (bound : Nat) : Prop :=
  ∀ text, env.text? name = some text → Accepted bound text

/-- A variable says something unless it is set to a text that is not accepted. -/
theorem exists_says_iff : (∃ v, Says env name bound v) ↔ Usable env name bound := by
  constructor
  · rintro ⟨_ | n, hsaid⟩ text htext
    · cases htext.symm.trans hsaid
    · obtain ⟨text', htext', hn, hlt⟩ := hsaid
      cases htext.symm.trans htext'
      exact ⟨n, hn, hlt⟩
  · intro husable
    cases htext : env.text? name with
    | none => exact ⟨none, htext⟩
    | some text =>
      obtain ⟨n, hn, hlt⟩ := husable text htext
      exact ⟨some n, text, htext, hn, hlt⟩

theorem Says.eq_none_iff {v : Option Nat} (h : Says env name bound v) :
    v = none ↔ env.text? name = none := by
  cases v with
  | none => exact iff_of_true rfl h
  | some n =>
    obtain ⟨text, htext, -⟩ := h
    exact iff_of_false nofun fun hnone => nomatch htext.symm.trans hnone

theorem Says.eq_some_iff {v : Option Nat} (h : Says env name bound v) {n : Nat} :
    v = some n ↔ ∃ text, env.text? name = some text ∧ Denotes text n := by
  cases v with
  | none => exact iff_of_false nofun fun ⟨_, htext, _⟩ => nomatch h.symm.trans htext
  | some m =>
    obtain ⟨text, htext, hm, -⟩ := h
    constructor
    · rintro ⟨⟩
      exact ⟨text, htext, hm⟩
    · rintro ⟨text', htext', hn⟩
      cases htext.symm.trans htext'
      rw [hm.unique hn]

theorem Says.lt {n : Nat} (h : Says env name bound (some n)) : n < bound :=
  have ⟨_, _, _, hlt⟩ := h
  hlt

/-- What a variable says is read. -/
theorem number?_of_said {v : Option Nat} (h : Says env name bound v) :
    number? env name bound = .ok v := by
  cases v with
  | none =>
    have hunset : env.text? name = none := h
    rw [number?, hunset]
  | some n =>
    obtain ⟨text, htext, hdenotes, hlt⟩ := h
    have hread : readNumber bound text = some n := readNumber_eq_some_iff.2 ⟨hdenotes, hlt⟩
    rw [number?, htext]
    simp only [hread]

/-- A variable that says nothing of the kind is complained about. -/
theorem number?_of_not_accepted {text : String} (htext : env.text? name = some text)
    (hrejected : ¬ Accepted bound text) : number? env name bound = .error (unusable name text) := by
  have hread : readNumber bound text = none := Option.eq_none_iff_forall_ne_some.2 fun n hn =>
    hrejected ⟨n, readNumber_eq_some_iff.1 hn⟩
  rw [number?, htext]
  simp only [hread]
  rfl

/-- There is no third way for a variable. -/
theorem exists_says_or_not_accepted (env : Environment) (name : String) (bound : Nat) :
    (∃ v, Says env name bound v) ∨
      ∃ text, env.text? name = some text ∧ ¬ Accepted bound text := by
  rw [exists_says_iff, Usable]
  by_cases husable : ∀ text, env.text? name = some text → Accepted bound text
  · exact .inl husable
  · push Not at husable
    exact .inr husable

/-! ### Settings -/

/-- The settings that numbers make, together with the namespace that is set. -/
def ofNumbers (env : Environment) (updates pageSize : Option Nat) : Settings where
  watchNamespace := (env.text? "WATCH_NAMESPACE").filter fun ns => ns != ""
  maxConcurrentUpdates := updates.filter fun n => n != 0
  listPageSize := pageSize.getD defaultPageSize

/-- What the settings of an environment are. -/
structure AskedFor (env : Environment) (s : Settings) : Prop where
  /-- There is no limit if none is set, or zero. -/
  updates_eq_none_iff : s.maxConcurrentUpdates = none ↔
    ∀ text, env.text? "MAX_CONCURRENT_UPDATES" = some text → Denotes text 0
  /-- A limit is the number that is set. -/
  updates_eq_some_iff : ∀ n, s.maxConcurrentUpdates = some n ↔
    n ≠ 0 ∧ ∃ text, env.text? "MAX_CONCURRENT_UPDATES" = some text ∧ Denotes text n
  updates_lt : ∀ n, s.maxConcurrentUpdates = some n → n < 2 ^ 64
  /-- A page is as big as is set, or as big as pages are where nothing is set. -/
  pageSize_of_unset : env.text? "LIST_PAGE_SIZE" = none → s.listPageSize = 500
  pageSize_of_set :
    ∀ text, env.text? "LIST_PAGE_SIZE" = some text → Denotes text s.listPageSize
  pageSize_pos : 0 < s.listPageSize
  pageSize_lt : s.listPageSize < 2 ^ 32
  /-- The namespace is the one that is set, unless its name is empty. -/
  namespace_eq_none_iff : s.watchNamespace = none ↔
    env.text? "WATCH_NAMESPACE" = none ∨ env.text? "WATCH_NAMESPACE" = some ""
  namespace_eq_some_iff : ∀ ns, s.watchNamespace = some ns ↔
    env.text? "WATCH_NAMESPACE" = some ns ∧ ns ≠ ""

/-- What is complained about in an environment. The page size comes into it only if the limit of
updates can be used. -/
inductive Refused (env : Environment) : Failure → Prop
  /-- The limit of updates is not a number, or does not fit its word. -/
  | updates {text : String} :
      env.text? "MAX_CONCURRENT_UPDATES" = some text → ¬ Accepted (2 ^ 64) text →
      Refused env (unusable "MAX_CONCURRENT_UPDATES" text)
  /-- The page size is not a number, or does not fit its word. -/
  | pageSize {text : String} :
      Usable env "MAX_CONCURRENT_UPDATES" (2 ^ 64) →
      env.text? "LIST_PAGE_SIZE" = some text → ¬ Accepted (2 ^ 32) text →
      Refused env (unusable "LIST_PAGE_SIZE" text)
  /-- The page size is zero, in whatever way it is written. -/
  | emptyPage {text : String} :
      Usable env "MAX_CONCURRENT_UPDATES" (2 ^ 64) →
      env.text? "LIST_PAGE_SIZE" = some text → Denotes text 0 →
      Refused env (.settings "LIST_PAGE_SIZE must be greater than 0")

/-- Reading the settings, once the numbers are there. -/
theorem read_of_said {updates pageSize : Option Nat}
    (hupdates : Says env "MAX_CONCURRENT_UPDATES" updatesBound updates)
    (hpageSize : Says env "LIST_PAGE_SIZE" pageSizeBound pageSize) :
    read env =
      if pageSize = some 0 then .error (.settings "LIST_PAGE_SIZE must be greater than 0")
      else .ok (ofNumbers env updates pageSize) := by
  have hzero : pageSize.getD defaultPageSize = 0 ↔ pageSize = some 0 := by
    cases pageSize <;> simp [defaultPageSize]
  simp only [read, number?_of_said hupdates, number?_of_said hpageSize, bind, Except.bind, hzero]
  split <;> rfl

theorem read_of_updates_not_accepted {text : String}
    (htext : env.text? "MAX_CONCURRENT_UPDATES" = some text)
    (hrejected : ¬ Accepted updatesBound text) :
    read env = .error (unusable "MAX_CONCURRENT_UPDATES" text) := by
  rw [read, number?_of_not_accepted htext hrejected]
  rfl

theorem read_of_pageSize_not_accepted {updates : Option Nat} {text : String}
    (hupdates : Says env "MAX_CONCURRENT_UPDATES" updatesBound updates)
    (htext : env.text? "LIST_PAGE_SIZE" = some text)
    (hrejected : ¬ Accepted pageSizeBound text) :
    read env = .error (unusable "LIST_PAGE_SIZE" text) := by
  rw [read, number?_of_said hupdates, number?_of_not_accepted htext hrejected]
  rfl

/-- **What becomes of an environment**: either its numbers make settings, or it is refused. -/
theorem read_cases (env : Environment) :
    (∃ updates pageSize, Says env "MAX_CONCURRENT_UPDATES" updatesBound updates ∧
      Says env "LIST_PAGE_SIZE" pageSizeBound pageSize ∧ pageSize ≠ some 0 ∧
      read env = .ok (ofNumbers env updates pageSize)) ∨
    ∃ failure, Refused env failure ∧ read env = .error failure := by
  obtain ⟨updates, hupdates⟩ | ⟨text, htext, hrejected⟩ :=
    exists_says_or_not_accepted env "MAX_CONCURRENT_UPDATES" updatesBound
  · have husable : Usable env "MAX_CONCURRENT_UPDATES" (2 ^ 64) :=
      exists_says_iff.1 ⟨updates, hupdates⟩
    obtain ⟨pageSize, hpageSize⟩ | ⟨text, htext, hrejected⟩ :=
      exists_says_or_not_accepted env "LIST_PAGE_SIZE" pageSizeBound
    · have hread := read_of_said hupdates hpageSize
      by_cases hzero : pageSize = some 0
      · rw [if_pos hzero] at hread
        obtain ⟨text, htext, hdenotes⟩ := hpageSize.eq_some_iff.1 hzero
        exact .inr ⟨_, .emptyPage husable htext hdenotes, hread⟩
      · rw [if_neg hzero] at hread
        exact .inl ⟨updates, pageSize, hupdates, hpageSize, hzero, hread⟩
    · exact .inr ⟨_, .pageSize husable htext hrejected,
        read_of_pageSize_not_accepted hupdates htext hrejected⟩
  · exact .inr ⟨_, .updates htext hrejected, read_of_updates_not_accepted htext hrejected⟩

/-- An environment that is refused is complained about as it is refused. -/
theorem Refused.read_eq {failure : Failure} (h : Refused env failure) :
    read env = .error failure := by
  cases h with
  | updates htext hrejected => exact read_of_updates_not_accepted htext hrejected
  | pageSize husable htext hrejected =>
    obtain ⟨updates, hupdates⟩ := exists_says_iff.2 husable
    exact read_of_pageSize_not_accepted hupdates htext hrejected
  | emptyPage husable htext hdenotes =>
    obtain ⟨updates, hupdates⟩ := exists_says_iff.2 husable
    have hzero : Says env "LIST_PAGE_SIZE" pageSizeBound (some 0) :=
      ⟨_, htext, hdenotes, by decide⟩
    exact (read_of_said hupdates hzero).trans (if_pos rfl)

theorem read_eq_ok_iff {s : Settings} :
    read env = .ok s ↔
      ∃ updates pageSize, Says env "MAX_CONCURRENT_UPDATES" updatesBound updates ∧
        Says env "LIST_PAGE_SIZE" pageSizeBound pageSize ∧ pageSize ≠ some 0 ∧
        s = ofNumbers env updates pageSize := by
  constructor
  · intro hread
    obtain ⟨updates, pageSize, hupdates, hpageSize, hne, hok⟩ | ⟨failure, -, herror⟩ :=
      read_cases env
    · cases hok.symm.trans hread
      exact ⟨updates, pageSize, hupdates, hpageSize, hne, rfl⟩
    · cases herror.symm.trans hread
  · rintro ⟨updates, pageSize, hupdates, hpageSize, hne, rfl⟩
    exact (read_of_said hupdates hpageSize).trans (if_neg hne)

theorem read_eq_error_iff {failure : Failure} :
    read env = .error failure ↔ Refused env failure := by
  refine ⟨fun hread => ?_, Refused.read_eq⟩
  obtain ⟨updates, pageSize, -, -, -, hok⟩ | ⟨failure', hrefused, herror⟩ := read_cases env
  · cases hok.symm.trans hread
  · cases herror.symm.trans hread
    exact hrefused

theorem askedFor_ofNumbers {updates pageSize : Option Nat}
    (hupdates : Says env "MAX_CONCURRENT_UPDATES" updatesBound updates)
    (hpageSize : Says env "LIST_PAGE_SIZE" pageSizeBound pageSize) (hne : pageSize ≠ some 0) :
    AskedFor env (ofNumbers env updates pageSize) where
  updates_eq_none_iff := by
    have hunlimited : (ofNumbers env updates pageSize).maxConcurrentUpdates = none ↔
        ∀ n, updates = some n → n = 0 := by
      simp [ofNumbers, Option.filter_eq_none_iff]
    rw [hunlimited]
    constructor
    · intro hzero text htext
      obtain ⟨n, hn, -⟩ := exists_says_iff.1 ⟨updates, hupdates⟩ text htext
      exact hzero n (hupdates.eq_some_iff.2 ⟨text, htext, hn⟩) ▸ hn
    · intro hzero n hn
      obtain ⟨text, htext, hdenotes⟩ := hupdates.eq_some_iff.1 hn
      exact hdenotes.unique (hzero text htext)
  updates_eq_some_iff n := by
    rw [← hupdates.eq_some_iff]
    simp [ofNumbers, Option.filter_eq_some_iff, and_comm]
  updates_lt n hn := by
    obtain ⟨hn, -⟩ := Option.filter_eq_some_iff.1 hn
    exact (hn ▸ hupdates).lt
  pageSize_of_unset hunset := by
    rw [ofNumbers, hpageSize.eq_none_iff.2 hunset]
    rfl
  pageSize_of_set text htext := by
    obtain ⟨n, hn, -⟩ := exists_says_iff.1 ⟨pageSize, hpageSize⟩ text htext
    have hsize := hpageSize.eq_some_iff.2 ⟨text, htext, hn⟩
    rwa [ofNumbers, hsize, Option.getD_some]
  pageSize_pos := by
    cases pageSize with
    | none => exact (by decide : 0 < defaultPageSize)
    | some n => exact Nat.pos_of_ne_zero fun hzero => hne (hzero ▸ rfl)
  pageSize_lt := by
    cases pageSize with
    | none => exact (by decide : defaultPageSize < 2 ^ 32)
    | some n => exact hpageSize.lt
  namespace_eq_none_iff := by
    cases hns : env.text? "WATCH_NAMESPACE" <;> simp [ofNumbers, hns]
  namespace_eq_some_iff ns := by
    simp [ofNumbers, Option.filter_eq_some_iff]

/-- **Which environments have settings, and which.** A number is one that its text denotes, and it
has to fit its word; the page size must not be zero either. Where that is so, the settings are those
that are asked for, and otherwise the first number that cannot be used is complained about. -/
theorem accepts_exactly (env : Environment) :
    (∀ name text, env.text? name = some text ↔ env.lookup name = some text.toUTF8) ∧
    (∀ bound text n, readNumber bound text = some n ↔ Denotes text n ∧ n < bound) ∧
    ((∃ s, read env = .ok s) ↔
      Usable env "MAX_CONCURRENT_UPDATES" (2 ^ 64) ∧ Usable env "LIST_PAGE_SIZE" (2 ^ 32) ∧
        ∀ text, env.text? "LIST_PAGE_SIZE" = some text → ¬ Denotes text 0) ∧
    (∀ s, read env = .ok s → AskedFor env s) ∧
    (∀ failure, read env = .error failure ↔ Refused env failure) := by
  refine ⟨fun _ _ => Environment.text?_eq_some_iff, fun _ _ _ => readNumber_eq_some_iff, ?_, ?_,
    fun _ => read_eq_error_iff⟩
  · constructor
    · rintro ⟨s, hread⟩
      obtain ⟨updates, pageSize, hupdates, hpageSize, hne, -⟩ := read_eq_ok_iff.1 hread
      exact ⟨exists_says_iff.1 ⟨updates, hupdates⟩, exists_says_iff.1 ⟨pageSize, hpageSize⟩,
        fun text htext hzero => hne (hpageSize.eq_some_iff.2 ⟨text, htext, hzero⟩)⟩
    · rintro ⟨hupdates, hpageSize, hne⟩
      obtain ⟨updates, hupdates⟩ := exists_says_iff.2 hupdates
      obtain ⟨pageSize, hpageSize⟩ := exists_says_iff.2 hpageSize
      refine ⟨_, read_eq_ok_iff.2 ⟨updates, pageSize, hupdates, hpageSize, ?_, rfl⟩⟩
      intro hzero
      obtain ⟨text, htext, hdenotes⟩ := hpageSize.eq_some_iff.1 hzero
      exact hne text htext hdenotes
  · intro s hread
    obtain ⟨updates, pageSize, hupdates, hpageSize, hne, rfl⟩ := read_eq_ok_iff.1 hread
    exact askedFor_ofNumbers hupdates hpageSize hne

end Settings

end SecretRotation
