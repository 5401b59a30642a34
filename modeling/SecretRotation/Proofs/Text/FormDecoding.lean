import SecretRotation.Proofs.Api.Addresses

/-!
# Reading form-encoded queries

What a server makes of the query of a URI. The query is cut at its ampersands, and each piece that
is not empty is a parameter: a name, and after the first equals sign a value. In both a plus sign
stands for a space, a percent sign with two hexadecimal digits for a byte, and any other character
for itself; the bytes must be those of a text.

An encoded text is read as the text that it encodes, and it contains no character by which a query
is cut. So the query for a page of a list is read as the parameters that it is made of.

## Main definitions

* `Text.formDecoded?`, `Text.formParameters?`: the reading of a text, and of a query.
* `Text.formQuery`: the query made of some parameters.

## Main results

* `Text.formDecoded?_formEncoded`: an encoded text is read as the text.
* `Text.formParameters?_formQuery`: a query is read as the parameters that it is made of.
* `Request.formParameters?_pageQuery`: the parameters with which a page is asked for.
-/

namespace SecretRotation

namespace Text

/-! ### Reading -/

/-- The number that a hexadecimal digit stands for. -/
def hexValue? (c : Char) : Option Nat :=
  if c.isDigit then some (c.toNat - '0'.toNat)
  else if 'A' ≤ c ∧ c ≤ 'F' then some (c.toNat - 'A'.toNat + 10)
  else if 'a' ≤ c ∧ c ≤ 'f' then some (c.toNat - 'a'.toNat + 10)
  else none

/-- The bytes that an encoded text stands for. -/
def formBytes? : List Char → Option (List UInt8)
  | [] => some []
  | '+' :: cs => (formBytes? cs).map (0x20 :: ·)
  | '%' :: high :: low :: cs => do
    let high ← hexValue? high
    let low ← hexValue? low
    return UInt8.ofNat (16 * high + low) :: (← formBytes? cs)
  | '%' :: _ => none
  | c :: cs => (formBytes? cs).map (String.utf8EncodeChar c ++ ·)

/-- The text that an encoded text stands for. -/
def formDecoded? (text : List Char) : Option String :=
  (formBytes? text).bind fun bytes => String.fromUTF8? bytes.toByteArray

/-- The parameter that a piece of a query is, with its name and its value. -/
def formParameter? (piece : List Char) : Option (String × String) := do
  let name ← formDecoded? (piece.takeWhile (· != '='))
  let value ← formDecoded? (piece.dropWhile (· != '=')).tail
  return (name, value)

/-- The parameters of a query. -/
def formParameters? (query : String) : Option (List (String × String)) :=
  ((query.toList.splitOn '&').filter fun piece => !piece.isEmpty).mapM formParameter?

/-! ### Encoded texts -/

theorem hexValue?_upperHexDigit {n : Nat} (h : n < 16) : hexValue? (upperHexDigit n) = some n := by
  have hall : ∀ n : Fin 16, hexValue? (upperHexDigit n) = some n.val := by decide
  exact hall ⟨n, h⟩

/-- A byte that stands for itself is the code of a character of ASCII, which is none of the marks of
the encoding. -/
theorem formBytes?_of_standsForItself {b : UInt8} (h : standsForItself b = true)
    (rest : List Char) :
    formBytes? (Char.ofNat b.toNat :: rest) = (formBytes? rest).map (b :: ·) := by
  have hall : ∀ n : Fin 256, standsForItself (UInt8.ofNat n) = true →
      Char.ofNat n ≠ '+' ∧ Char.ofNat n ≠ '%' ∧
        String.utf8EncodeChar (Char.ofNat n) = [UInt8.ofNat n] := by
    decide +kernel
  have hb := hall ⟨b.toNat, b.toNat_lt⟩
  rw [UInt8.ofNat_toNat] at hb
  obtain ⟨hplus, hpercent, hbytes⟩ := hb h
  rw [formBytes?, hbytes]
  · rfl
  · exact hplus
  · exact fun _ _ _ heq => absurd heq hpercent
  · exact hpercent

theorem formBytes?_formEncodedByte_append (b : UInt8) (rest : List Char) :
    formBytes? (formEncodedByte b ++ rest) = (formBytes? rest).map (b :: ·) := by
  rw [formEncodedByte]
  split
  next hself => exact formBytes?_of_standsForItself hself rest
  next =>
    split
    next hspace =>
      rw [hspace]
      rfl
    next =>
      have hb : b.toNat < 256 := b.toNat_lt
      have hhigh : hexValue? (upperHexDigit (b.toNat / 16)) = some (b.toNat / 16) :=
        hexValue?_upperHexDigit (by omega)
      have hlow : hexValue? (upperHexDigit (b.toNat % 16)) = some (b.toNat % 16) :=
        hexValue?_upperHexDigit (by omega)
      have hbyte : UInt8.ofNat (16 * (b.toNat / 16) + b.toNat % 16) = b := by
        rw [Nat.div_add_mod, UInt8.ofNat_toNat]
      simp only [List.cons_append, List.nil_append, formBytes?, hhigh, hlow]
      cases formBytes? rest with
      | none => rfl
      | some bytes => exact congrArg (fun b => some (b :: bytes)) hbyte

theorem formBytes?_flatMap (bytes : List UInt8) :
    formBytes? (bytes.flatMap formEncodedByte) = some bytes := by
  induction bytes with
  | nil => rfl
  | cons b bytes ih =>
    rw [List.flatMap_cons, formBytes?_formEncodedByte_append, ih, Option.map_some]

/-- **An encoded text is read as the text that it encodes.** -/
theorem formDecoded?_formEncoded (text : String) :
    formDecoded? (formEncoded text).toList = some text := by
  have hbytes : (text.toList.flatMap String.utf8EncodeChar).toByteArray = text.toByteArray :=
    String.utf8Encode_toList
  rw [formDecoded?, formEncoded, String.toList_ofList, formBytes?_flatMap, Option.bind_some, hbytes,
    String.fromUTF8?, dif_pos text.isValidUTF8]
  rfl

/-! ### Queries made of parameters -/

/-- The piece of a query that a parameter makes. -/
def formPiece (p : String × String) : List Char :=
  (formEncoded p.1).toList ++ '=' :: (formEncoded p.2).toList

/-- The query made of some parameters, with an ampersand in front of each. -/
def formQuery (ps : List (String × String)) : List Char := ps.flatMap fun p => '&' :: formPiece p

/-- No character of an encoded text divides a query or a parameter. -/
theorem ne_of_mem_formEncoded {text : String} {c : Char} (h : c ∈ (formEncoded text).toList) :
    c ≠ '&' ∧ c ≠ '=' := by
  have hall : ∀ n : Fin 256,
      ((formEncodedByte (UInt8.ofNat n)).all fun c => c != '&' && c != '=') = true := by
    decide +kernel
  rw [formEncoded, String.toList_ofList, List.mem_flatMap] at h
  obtain ⟨b, -, hc⟩ := h
  have hb := hall ⟨b.toNat, b.toNat_lt⟩
  rw [UInt8.ofNat_toNat] at hb
  simpa using List.all_eq_true.1 hb c hc

theorem ne_of_mem_formPiece {p : String × String} {c : Char} (h : c ∈ formPiece p) : c ≠ '&' := by
  rcases List.mem_append.1 h with h | h
  · exact (ne_of_mem_formEncoded h).1
  · rcases List.mem_cons.1 h with rfl | h
    · decide
    · exact (ne_of_mem_formEncoded h).1

/-- A parameter is read from the piece that it makes. -/
theorem formParameter?_formPiece (p : String × String) : formParameter? (formPiece p) = some p := by
  have hname : ∀ c ∈ (formEncoded p.1).toList, (c != '=') = true := fun c hc =>
    bne_iff_ne.2 (ne_of_mem_formEncoded hc).2
  have htake : (formPiece p).takeWhile (· != '=') = (formEncoded p.1).toList := by
    rw [formPiece, List.takeWhile_append_of_pos hname, List.takeWhile_cons_of_neg (by decide),
      List.append_nil]
  have hdrop : (formPiece p).dropWhile (· != '=') = '=' :: (formEncoded p.2).toList := by
    rw [formPiece, List.dropWhile_append_of_pos hname, List.dropWhile_cons_of_neg (by decide)]
  rw [formParameter?, htake, hdrop, formDecoded?_formEncoded, List.tail_cons,
    formDecoded?_formEncoded]
  rfl

theorem mapM_formParameter? :
    (ps : List (String × String)) → (ps.map formPiece).mapM formParameter? = some ps
  | [] => rfl
  | p :: ps => by
    rw [List.map_cons, List.mapM_cons, formParameter?_formPiece, mapM_formParameter? ps]
    rfl

/-- A query is cut into the pieces that its parameters make. -/
theorem splitOn_append_formQuery (ps : List (String × String)) :
    (piece : List Char) → (∀ c ∈ piece, c ≠ '&') →
      (piece ++ formQuery ps).splitOn '&' = piece :: ps.map formPiece := by
  induction ps with
  | nil =>
    intro piece hpiece
    rw [formQuery, List.flatMap_nil, List.append_nil, List.splitOn_eq_splitOnP,
      List.splitOnP_eq_singleton fun c hc => beq_false_of_ne (hpiece c hc), List.map_nil]
  | cons p ps ih =>
    intro piece hpiece
    have hquery : formQuery (p :: ps) = '&' :: (formPiece p ++ formQuery ps) := rfl
    rw [hquery, List.splitOn_eq_splitOnP, List.splitOnP_append_cons_of_forall_mem
      (fun c hc => beq_false_of_ne (hpiece c hc)) '&' (beq_self_eq_true _),
      ← List.splitOn_eq_splitOnP, ih _ fun c => ne_of_mem_formPiece, List.map_cons]

/-- **A query is read as the parameters that it is made of.** -/
theorem formParameters?_formQuery (ps : List (String × String)) :
    formParameters? (String.ofList (formQuery ps)) = some ps := by
  have hsplit : (formQuery ps).splitOn '&' = [] :: ps.map formPiece :=
    splitOn_append_formQuery ps [] nofun
  have hpieces : ([] :: ps.map formPiece).filter (fun piece => !piece.isEmpty) =
      ps.map formPiece := by
    rw [List.filter_cons_of_neg (by decide)]
    refine List.filter_eq_self.2 fun piece hpiece => ?_
    obtain ⟨p, -, rfl⟩ := List.mem_map.1 hpiece
    simp [formPiece]
  rw [formParameters?, String.toList_ofList, hsplit, hpieces, mapM_formParameter?]

/-! ### Texts that need no encoding -/

/-- Letters and digits of ASCII are encoded as themselves. -/
theorem formEncoded_of_isAlphanum {text : String} (h : ∀ c ∈ text.toList, c.isAlphanum = true) :
    formEncoded text = text := by
  have hall : ∀ n : Fin 128, (Char.ofNat n).isAlphanum = true →
      (String.utf8EncodeChar (Char.ofNat n)).flatMap formEncodedByte = [Char.ofNat n] := by
    decide +kernel
  have hchar (c : Char) (hc : c.isAlphanum = true) :
      (String.utf8EncodeChar c).flatMap formEncodedByte = [c] := by
    have hdef : c.isAlphanum = (c.isUpper || c.isLower || c.isDigit) := rfl
    have hlt : c.toNat < 128 := by
      simp only [hdef, Bool.or_eq_true, isLower_iff, isUpper_iff, Char.isDigit_iff_toNat,
        Char.reduceToNat] at hc
      omega
    have hn := hall ⟨c.toNat, hlt⟩
    rw [Char.ofNat_toNat] at hn
    exact hn hc
  rw [formEncoded, List.flatMap_assoc]
  have hself : text.toList.flatMap (fun c => (String.utf8EncodeChar c).flatMap formEncodedByte) =
      text.toList.flatMap fun c => [c] := List.flatMap_congr fun c hc => hchar c (h c hc)
  rw [hself, List.flatMap_singleton', String.ofList_toList]

end Text

namespace Request

open Text (formEncoded formQuery formPiece formParameters?)

/-- **The parameters with which a page is asked for**: how many items it may hold, and the token of
the page before it, if there is one. -/
theorem formParameters?_pageQuery (pageSize : Nat) (token : Option String) :
    formParameters? (pageQuery pageSize token) =
      some (("limit", toString pageSize) :: token.toList.map fun t => ("continue", t)) := by
  have hlimit : formEncoded "limit" = "limit" := by decide +kernel
  have hcontinue : formEncoded "continue" = "continue" := by decide +kernel
  have hdigits : formEncoded (toString pageSize) = toString pageSize := by
    refine Text.formEncoded_of_isAlphanum fun c hc => ?_
    rw [Nat.toString_eq_ofList_toDigits, String.toList_ofList] at hc
    have hdigit := Nat.isDigit_of_mem_toDigits (by decide) (by decide) hc
    exact Bool.or_eq_true_iff.2 (.inr hdigit)
  have hquery : pageQuery pageSize token = String.ofList
      (formQuery (("limit", toString pageSize) :: token.toList.map fun t => ("continue", t))) := by
    refine String.toList_injective ?_
    rw [pageQuery]
    generalize toString pageSize = digits at hdigits
    cases token <;> simp [formQuery, formPiece, hlimit, hcontinue, hdigits]
  rw [hquery, Text.formParameters?_formQuery]

end Request

end SecretRotation
