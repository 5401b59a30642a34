import Mathlib.Data.List.Forall2
import SecretRotation.Json.Codec
import SecretRotation.Proofs.OrderedMap

/-!
# Laws of codecs

Reading what a codec has written of a value gives the value *settled*: without whatever of it is not
written. A settled value is written like the value that it comes from, so nothing is lost a second
time. A codec is *lawful* if nothing is lost at all.

A description of members settles the parts that it writes one by one, whatever other members stand
beside them. Settling is a class, and every way of putting descriptions together is an instance: a
codec described by its members settles them as soon as no name comes twice
(`Fields.settles_codec`).

## Main definitions

* `Json.Codec.Settles`, `Json.Codec.Lawful`, `Json.Fields.Settles`.

## Main results

* `Json.Fields.settles_seq`: two descriptions side by side.
* `Json.Fields.settles_codec`: a codec made of members.
-/

namespace SecretRotation

namespace Json

variable {σ τ α β : Type}

/-! ### The values under a name -/

theorem occurrences_append (ms ns : List (String × Json)) (name : String) :
    occurrences (ms ++ ns) name = occurrences ms name ++ occurrences ns name := by
  simp [occurrences]

theorem occurrences_eq_nil {ms : List (String × Json)} {name : String}
    (h : ∀ m ∈ ms, m.1 ≠ name) : occurrences ms name = [] := by
  simp only [occurrences, List.map_eq_nil_iff, List.filter_eq_nil_iff, beq_iff_eq]
  exact h

@[simp] theorem occurrences_singleton (name : String) (value : Json) :
    occurrences [(name, value)] name = [value] := by
  simp [occurrences]

/-! ### Reading several values -/

/-- What is read of several values is read of one after the other. -/
theorem forall₂_of_mapM_eq_some {f : α → Option β} :
    {as : List α} → {bs : List β} → as.mapM f = some bs →
      List.Forall₂ (fun a b => f a = some b) as bs
  | [], bs, h => by
    cases h
    exact .nil
  | a :: as, bs, h => by
    rw [List.mapM_cons] at h
    obtain ⟨b, hb, h⟩ := Option.bind_eq_some_iff.1 h
    obtain ⟨bs, hbs, h⟩ := Option.bind_eq_some_iff.1 h
    cases h
    exact .cons hb (forall₂_of_mapM_eq_some hbs)

theorem exists_mem_of_forall₂ {r : α → β → Prop} {as : List α} {bs : List β}
    (h : List.Forall₂ r as bs) {a : α} (ha : a ∈ as) : ∃ b ∈ bs, r a b := by
  induction h with
  | nil => cases ha
  | cons hab _ ih =>
    rcases List.mem_cons.1 ha with rfl | ha
    · exact ⟨_, List.mem_cons_self, hab⟩
    · obtain ⟨b, hb, hab⟩ := ih ha
      exact ⟨b, List.mem_cons_of_mem _ hb, hab⟩

/-- Reading what a codec has written of a value gives the value settled, which is written alike. The
codec never writes `null`, which an object takes for a member that is missing. -/
class Codec.Settles (c : Codec α) (settled : outParam (α → α)) : Prop where
  read_write (a : α) : c.read (c.write a) = some (settled a)
  write_settled (a : α) : c.write (settled a) = c.write a
  write_ne_null (a : α) : c.write a ≠ .null

/-- A codec is lawful if reading what it has written gives it back. -/
abbrev Codec.Lawful (c : Codec α) : Prop := c.Settles id

namespace Codec

variable {settled : α → α}

/-- A settled value is settled. -/
theorem Settles.idem {c : Codec α} (hc : c.Settles settled) (a : α) :
    settled (settled a) = settled a := by
  have hread := hc.read_write (settled a)
  rw [hc.write_settled, hc.read_write] at hread
  exact (Option.some.inj hread).symm

instance lawful_string : string.Lawful where
  read_write _ := rfl
  write_settled _ := rfl
  write_ne_null _ := by simp [string]

instance lawful_bool : bool.Lawful where
  read_write _ := rfl
  write_settled _ := rfl
  write_ne_null _ := by simp [bool]

instance lawful_int32 : int32.Lawful where
  read_write n := by
    have hle : -0x80000000 ≤ n.toInt := n.le_toInt
    have hlt : n.toInt < 0x80000000 := n.toInt_lt
    simp [int32, hle, hlt]
  write_settled _ := rfl
  write_ne_null _ := by simp [int32]

instance lawful_int64 : int64.Lawful where
  read_write n := by
    have hle : -0x8000000000000000 ≤ n.toInt := n.le_toInt
    have hlt : n.toInt < 0x8000000000000000 := n.toInt_lt
    simp [int64, hle, hlt]
  write_settled _ := rfl
  write_ne_null _ := by simp [int64]

/-- Several values that are written are read settled. -/
theorem mapM_read_map_write (c : Codec α) [hc : c.Settles settled] :
    (as : List α) → (as.map c.write).mapM c.read = some (as.map settled)
  | [] => rfl
  | a :: as => by
    simp [hc.read_write, mapM_read_map_write c as]

instance settles_list (c : Codec α) [hc : c.Settles settled] :
    (list c).Settles (List.map settled) where
  read_write as := c.mapM_read_map_write as
  write_settled as := by
    simp only [list, List.map_map]
    exact congrArg Json.arr (List.map_congr_left fun a _ => hc.write_settled a)
  write_ne_null _ := by simp [list]

instance (priority := high) lawful_list (c : Codec α) [c.Lawful] : (list c).Lawful := by
  have hlist := settles_list c
  rwa [List.map_id_fun] at hlist

theorem mapM_read_entries (c : Codec α) [c.Lawful] :
    (es : List (String × α)) →
      (es.map fun e => (e.1, c.write e.2)).mapM (fun m => (c.read m.2).map (m.1, ·)) = some es
  | [] => rfl
  | e :: es => by
    simp only [List.map_cons, List.mapM_cons, mapM_read_entries c es, Settles.read_write]
    rfl

instance lawful_dict (c : Codec α) [c.Lawful] : (dict c).Lawful where
  read_write m := by
    simp only [dict, mapM_read_entries, Option.map_some, OrderedMap.ofList_entries, id]
  write_settled _ := rfl
  write_ne_null _ := by simp [dict]

instance lawful_strings : strings.Lawful := lawful_dict string

end Codec

/-! ### Descriptions of members -/

/-- A description of members writes and reads only the names that it lists. It writes the parts of
the whole, and, provided that no name comes twice, reading what it has written gives what is made of
the parts settled; with its parts settled the whole is written alike. -/
class Fields.Settles (f : Fields σ α) {τ : outParam Type} (make : outParam (τ → α))
    (parts : outParam (σ → τ)) (settle : outParam (τ → τ)) : Prop where
  fst_mem_names (s : σ) : ∀ m ∈ f.write s, m.1 ∈ f.names
  read_congr {look look' : String → List Json} (h : ∀ n ∈ f.names, look n = look' n) :
    f.read look = f.read look'
  read_write (hnames : f.names.Nodup) (s : σ) :
    f.read (occurrences (f.write s)) = some (make (settle (parts s)))
  write_settled {s s' : σ} (h : parts s' = settle (parts s)) : f.write s' = f.write s

namespace Fields

variable {τ' υ : Type} {make : τ → α} {parts : σ → τ} {settle : τ → τ} {settled : β → β}

/-- Members with other names beside those described do not matter. -/
theorem read_occurrences_append {f : Fields σ α} [hf : f.Settles make parts settle]
    {ms ns : List (String × Json)} (h : ∀ n ∈ ns, n.1 ∉ f.names) :
    f.read (occurrences (ms ++ ns)) = f.read (occurrences ms) :=
  hf.read_congr fun name hname => by
    have hnil : occurrences ns name = [] :=
      occurrences_eq_nil fun n hn heq => h n hn (heq ▸ hname)
    rw [occurrences_append, hnil, List.append_nil]

theorem read_occurrences_prepend {f : Fields σ α} [hf : f.Settles make parts settle]
    {ms ns : List (String × Json)} (h : ∀ n ∈ ns, n.1 ∉ f.names) :
    f.read (occurrences (ns ++ ms)) = f.read (occurrences ms) :=
  hf.read_congr fun name hname => by
    have hnil : occurrences ns name = [] :=
      occurrences_eq_nil fun n hn heq => h n hn (heq ▸ hname)
    rw [occurrences_append, hnil, List.nil_append]

/-- The only value under a name is read. -/
theorem lastOf_singleton_of_ne_null {read : Json → Option β} {default : β} {value : Json}
    (h : value ≠ .null) : lastOf read default [value] = read value := by
  simp only [lastOf, List.foldlM_cons, List.foldlM_nil, Option.bind_eq_bind]
  cases value
  case null => exact absurd rfl h
  all_goals exact Option.bind_fun_some _

instance settles_optional (name : String) (c : Codec β) [hc : c.Settles settled]
    (get : σ → Option β) : (optional name c get).Settles id get (Option.map settled) where
  fst_mem_names s m hm := by
    simp only [optional] at hm ⊢
    split at hm <;> simp_all
  read_congr h := by
    simp only [optional, h name (List.mem_singleton_self name)]
  read_write _ s := by
    simp only [optional]
    cases hb : get s with
    | none => rfl
    | some b =>
      rw [occurrences_singleton, lastOf_singleton_of_ne_null (hc.write_ne_null b), hc.read_write]
      rfl
  write_settled {s s'} h := by
    simp only [optional, h]
    cases get s with
    | none => rfl
    | some b => simp only [Option.map_some, hc.write_settled]

instance (priority := high) lawful_optional (name : String) (c : Codec β) [c.Lawful]
    (get : σ → Option β) : (optional name c get).Settles id get id := by
  have hoptional := settles_optional name c get
  rwa [Option.map_id] at hoptional

instance settles_required (name : String) (c : Codec β) [hc : c.Settles settled] (default : β)
    (get : σ → β) : (required name c default get).Settles id get settled where
  fst_mem_names s m hm := by
    simp only [required, List.mem_singleton] at hm ⊢
    rw [hm]
  read_congr h := by
    simp only [required, h name (List.mem_singleton_self name)]
  read_write _ s := by
    simp only [required]
    rw [occurrences_singleton, lastOf_singleton_of_ne_null (hc.write_ne_null _), hc.read_write]
    rfl
  write_settled {s s'} h := by
    simp only [required, h, hc.write_settled]

instance settles_pure (a : α) :
    (pure a : Fields σ α).Settles (fun _ : Unit => a) (fun _ => ()) id where
  fst_mem_names _ m hm := by simp [pure] at hm
  read_congr _ := rfl
  read_write _ _ := rfl
  write_settled _ := rfl

instance settles_map (g : α → β) (f : Fields σ α) [hf : f.Settles make parts settle] :
    (g <$> f).Settles (g ∘ make) parts settle where
  fst_mem_names := hf.fst_mem_names
  read_congr h := congrArg (Option.map g) (hf.read_congr h)
  read_write hnames s := congrArg (Option.map g) (hf.read_write hnames s)
  write_settled := hf.write_settled

/-- **Two descriptions side by side** settle their parts side by side. -/
instance settles_seq (f : Fields σ (α → β)) (g : Fields σ α) {makef : τ → α → β}
    [hf : f.Settles makef parts settle] {makeg : τ' → α} {parts' : σ → τ'} {settle' : τ' → τ'}
    [hg : g.Settles makeg parts' settle'] :
    (f <*> g).Settles (fun t : τ × τ' => makef t.1 (makeg t.2)) (fun s => (parts s, parts' s))
      (fun t => (settle t.1, settle' t.2)) where
  fst_mem_names s m hm := by
    have hm : m ∈ f.write s ++ g.write s := hm
    change m.1 ∈ f.names ++ g.names
    rcases List.mem_append.1 hm with hm | hm
    · exact List.mem_append_left _ (hf.fst_mem_names s m hm)
    · exact List.mem_append_right _ (hg.fst_mem_names s m hm)
  read_congr {look look'} h := by
    have h : ∀ n ∈ f.names ++ g.names, look n = look' n := h
    have hfread := hf.read_congr fun n hn => h n (List.mem_append_left _ hn)
    have hgread := hg.read_congr fun n hn => h n (List.mem_append_right _ hn)
    change (f.read look).bind (fun a => (g.read look).map a) =
      (f.read look').bind fun a => (g.read look').map a
    rw [hfread, hgread]
  read_write hnames s := by
    have hnames : (f.names ++ g.names).Nodup := hnames
    have ⟨hfnames, hgnames, hdisjoint⟩ := List.nodup_append.1 hnames
    have hfread : f.read (occurrences (f.write s ++ g.write s)) =
        some (makef (settle (parts s))) := by
      rw [read_occurrences_append fun m hm hmem =>
        hdisjoint m.1 hmem m.1 (hg.fst_mem_names s m hm) rfl, hf.read_write hfnames]
    have hgread : g.read (occurrences (f.write s ++ g.write s)) =
        some (makeg (settle' (parts' s))) := by
      rw [read_occurrences_prepend fun m hm hmem =>
        hdisjoint m.1 (hf.fst_mem_names s m hm) m.1 hmem rfl, hg.read_write hgnames]
    change (f.read (occurrences (f.write s ++ g.write s))).bind
      (fun a => (g.read (occurrences (f.write s ++ g.write s))).map a) = _
    rw [hfread, hgread]
    rfl
  write_settled {s s'} h := by
    obtain ⟨hparts, hparts'⟩ := Prod.mk.inj h
    exact congrArg₂ (· ++ ·) (hf.write_settled hparts) (hg.write_settled hparts')

instance settles_within (get : υ → σ) (f : Fields σ α) [hf : f.Settles make parts settle] :
    (f.within get).Settles make (fun s => parts (get s)) settle where
  fst_mem_names s := hf.fst_mem_names (get s)
  read_congr := hf.read_congr
  read_write hnames s := hf.read_write hnames (get s)
  write_settled := hf.write_settled

/-- **A codec made of members** settles their values if their names differ and they make up the
whole. -/
theorem settles_codec {f : Fields σ σ} {make : τ → σ} [hf : f.Settles make parts settle]
    {settled : σ → σ} (hnames : f.names.Nodup) (hparts : ∀ t, parts (make t) = t)
    (hsettled : ∀ s, make (settle (parts s)) = settled s) : f.codec.Settles settled where
  read_write s := (hf.read_write hnames s).trans (congrArg some (hsettled s))
  write_settled s := congrArg Json.obj (hf.write_settled (hsettled s ▸ hparts _))
  write_ne_null _ := by simp [codec]

end Fields

end Json

end SecretRotation
