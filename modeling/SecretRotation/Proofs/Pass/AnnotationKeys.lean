import SecretRotation.Proofs.Pass.Course
import SecretRotation.Proofs.Pass.Instant
import SecretRotation.Proofs.Sample
import SecretRotation.Proofs.Store.Reading

/-!
# The annotation keys that updates write

An API server takes an object only if the keys of its annotations are well formed. What stands
behind the slash of a key may have 63 characters, while the name of a secret may have 253 of them.
The key of a stamp has the whole name of its secret behind the slash, after fifteen characters of
its own. So it is well formed for names of up to 48 characters, and for no other ones.

All other keys of a workload are left as they are by an update. A secret with a longer name can
still be managed, by the key that all secrets may use; no update for it is one that an API server
takes.

## Main definitions

* `IsSubdomain`, `IsAnnotationKey`: the names of secrets, and the keys of annotations.
* `Workload.annotationKeys`: the keys of a workload and of its pod template.
* `Instant.handedOver`: the updates that are asked for when a workload is brought up to date.

## Main results

* `isAnnotationKey_stampKey_iff`: for which names the key of a stamp is well formed.
* `Instant.handedOver_eq`: a workload that is not current is handed over once, with its stamps.
* `Instant.keys_of_handedOver`: the keys of what is handed over.
* `Course.keys_of_begun`: the keys of all updates of a pass.
-/

namespace SecretRotation

/-! ### Words -/

/-- A word of some characters that begins and ends with one of fewer. -/
structure IsWord (edge inner : Char → Bool) (cs : List Char) : Prop where
  inner_of_mem : ∀ c ∈ cs, inner c = true
  edge_head : cs.head?.any edge = true
  edge_last : cs.getLast?.any edge = true

namespace IsWord

variable {edge edge' inner inner' : Char → Bool} {cs ds mid : List Char}

instance : Decidable (IsWord edge inner cs) :=
  decidable_of_iff (cs.all inner = true ∧ cs.head?.any edge = true ∧ cs.getLast?.any edge = true)
    ⟨fun h => ⟨List.all_eq_true.1 h.1, h.2.1, h.2.2⟩,
      fun h => ⟨List.all_eq_true.2 h.1, h.2, h.3⟩⟩

theorem ne_nil (h : IsWord edge inner cs) : cs ≠ [] := by
  rintro rfl
  cases h.edge_head

theorem mono (h : IsWord edge inner cs) (hedge : ∀ c, edge c = true → edge' c = true)
    (hinner : ∀ c, inner c = true → inner' c = true) : IsWord edge' inner' cs where
  inner_of_mem c hc := hinner c (h.inner_of_mem c hc)
  edge_head := by
    obtain ⟨c, hc, hedge'⟩ := (Option.any_eq_true ..).1 h.edge_head
    exact (Option.any_eq_true ..).2 ⟨c, hc, hedge c hedge'⟩
  edge_last := by
    obtain ⟨c, hc, hedge'⟩ := (Option.any_eq_true ..).1 h.edge_last
    exact (Option.any_eq_true ..).2 ⟨c, hc, hedge c hedge'⟩

/-- Two words with characters between them make a word. -/
theorem append (hcs : IsWord edge inner cs) (hmid : mid.all inner = true)
    (hds : IsWord edge inner ds) : IsWord edge inner (cs ++ mid ++ ds) where
  inner_of_mem := by
    simp only [List.forall_mem_append]
    exact ⟨⟨hcs.inner_of_mem, List.all_eq_true.1 hmid⟩, hds.inner_of_mem⟩
  edge_head := by
    rw [List.append_assoc, List.head?_append_of_ne_nil _ hcs.ne_nil]
    exact hcs.edge_head
  edge_last := by
    rw [List.getLast?_append_of_ne_nil _ hds.ne_nil]
    exact hds.edge_last

end IsWord

/-! ### Names and keys -/

/-- Lower-case letters and digits. -/
def isLowerAlphanum (c : Char) : Bool := c.isLower || c.isDigit

/-- What a label is made of. -/
def isLabelChar (c : Char) : Bool := isLowerAlphanum c || c == '-'

/-- What the part of a key behind its slash is made of. -/
def isKeyChar (c : Char) : Bool := c.isAlphanum || ['-', '_', '.'].contains c

/-- What stands between the dots of a domain: lower-case letters, digits and inner dashes. -/
abbrev IsLabel : List Char → Prop := IsWord isLowerAlphanum isLabelChar

/-- Labels with dots between them. -/
inductive IsDomain : List Char → Prop
  | label {cs : List Char} : IsLabel cs → IsDomain cs
  | dot {cs rest : List Char} : IsLabel cs → IsDomain rest → IsDomain (cs ++ ['.'] ++ rest)

/-- A domain that is short enough for the name of an object, or for the front of a key. -/
def IsSubdomain (cs : List Char) : Prop := IsDomain cs ∧ cs.length ≤ 253

/-- What may stand behind the slash of a key: letters and digits, with dashes, underscores and dots
inside. -/
def IsNamePart (cs : List Char) : Prop := IsWord Char.isAlphanum isKeyChar cs ∧ cs.length ≤ 63

/-- A key of an annotation: a name part by itself, or behind a domain and a slash. -/
def IsAnnotationKey (key : String) : Prop :=
  IsNamePart key.toList ∨
    ∃ domain part, key.toList = domain ++ '/' :: part ∧ IsSubdomain domain ∧ IsNamePart part

theorem isAlphanum_of_isLowerAlphanum (c : Char) (h : isLowerAlphanum c = true) :
    c.isAlphanum = true := by
  rcases Bool.or_eq_true_iff.1 h with hlower | hdigit
  · exact Bool.or_eq_true_iff.2 (.inl (Bool.or_eq_true_iff.2 (.inr hlower)))
  · exact Bool.or_eq_true_iff.2 (.inr hdigit)

theorem isKeyChar_of_isLabelChar (c : Char) (h : isLabelChar c = true) : isKeyChar c = true := by
  rcases Bool.or_eq_true_iff.1 h with h | h
  · exact Bool.or_eq_true_iff.2 (.inl (isAlphanum_of_isLowerAlphanum c h))
  · rw [beq_iff_eq.1 h]
    decide

/-- A domain can stand behind the slash of a key, but for its length. -/
theorem IsDomain.isWord {cs : List Char} (h : IsDomain cs) :
    IsWord Char.isAlphanum isKeyChar cs := by
  induction h with
  | label h => exact h.mono isAlphanum_of_isLowerAlphanum isKeyChar_of_isLabelChar
  | dot h _ ih =>
    exact (h.mono isAlphanum_of_isLowerAlphanum isKeyChar_of_isLabelChar).append (by decide) ih

theorem IsWord.slash_not_mem {edge : Char → Bool} {cs : List Char} (h : IsWord edge isKeyChar cs) :
    '/' ∉ cs :=
  fun hmem => absurd (h.inner_of_mem '/' hmem) (by decide)

/-! ### The key of a stamp -/

theorem isSubdomain_stem : IsSubdomain "secret-rollout.geeko.me".toList := by
  refine ⟨?_, by decide⟩
  have hme : IsDomain "me".toList := .label (by decide)
  have hgeeko : IsDomain ("geeko".toList ++ ['.'] ++ "me".toList) := .dot (by decide) hme
  have hstem : IsDomain ("secret-rollout".toList ++ ['.'] ++
    ("geeko".toList ++ ['.'] ++ "me".toList)) := .dot (by decide) hgeeko
  exact hstem

/-- The name of the secret is behind the slash, after fifteen other characters. -/
theorem toList_stampKey (name : String) :
    (stampKey name).toList = "secret-rollout.geeko.me".toList ++
      '/' :: ("managed-secret".toList ++ ['.'] ++ name.toList) := by
  simp [stampKey, stampKeyStem]

theorem isNamePart_managedSecret_iff {cs : List Char} (h : IsDomain cs) :
    IsNamePart ("managed-secret".toList ++ ['.'] ++ cs) ↔ cs.length ≤ 48 := by
  have hword : IsWord Char.isAlphanum isKeyChar ("managed-secret".toList ++ ['.'] ++ cs) :=
    IsWord.append (by decide) (by decide) h.isWord
  have hlength : ("managed-secret".toList ++ ['.'] ++ cs).length = 15 + cs.length := by
    rw [List.length_append]
    rfl
  rw [IsNamePart, and_iff_right hword, hlength]
  omega

/-- **The key of a stamp is well formed for short names only.** -/
theorem isAnnotationKey_stampKey_iff {name : String} (h : IsDomain name.toList) :
    IsAnnotationKey (stampKey name) ↔ name.length ≤ 48 := by
  rw [← String.length_toList, ← isNamePart_managedSecret_iff h, IsAnnotationKey, toList_stampKey]
  constructor
  · rintro (hpart | ⟨domain, part, hkey, hdomain, hpart⟩)
    · exact absurd (List.mem_append_right _ List.mem_cons_self) hpart.1.slash_not_mem
    · -- there is one slash only, so the two parts are the same
      obtain ⟨-, -, rfl⟩ := (List.append_cons_inj_of_notMem hdomain.1.isWord.slash_not_mem
        hpart.1.slash_not_mem).1 hkey.symm
      exact hpart
  · exact fun hpart => .inr ⟨_, _, rfl, isSubdomain_stem, hpart⟩

/-! ### The keys of a workload -/

/-- The keys of the annotations of an object. -/
def ObjectMeta.annotationKeys (m : ObjectMeta) : List String := (m.annotations.getD .empty).keys

theorem ObjectMeta.mem_annotationKeys {m : ObjectMeta} {key : String} :
    key ∈ m.annotationKeys ↔ (m.annotation? key).isSome := by
  rw [annotationKeys, OrderedMap.keys, List.mem_map, Option.isSome_iff_exists]
  cases hannotations : m.annotations with
  | none => simp [annotation?, hannotations, OrderedMap.empty]
  | some annotations =>
    simp only [annotation?, hannotations, Option.getD_some, Option.bind_some,
      ← OrderedMap.mem_entries_iff]
    constructor
    · rintro ⟨e, he, rfl⟩
      exact ⟨e.2, he⟩
    · rintro ⟨v, hv⟩
      exact ⟨(key, v), hv, rfl⟩

namespace Workload

variable {k : Kind} {w : Workload k} {key key' : String}

/-- The keys of the annotations of the pod template. -/
def templateKeys (w : Workload k) : List String :=
  ((w.template?.bind (·.metadata)).getD {}).annotationKeys

/-- The keys of the annotations of a workload and of its pod template. -/
def annotationKeys (w : Workload k) : List String := w.metadata.annotationKeys ++ w.templateKeys

theorem mem_metadataKeys_iff : key ∈ w.metadata.annotationKeys ↔ (w.stamp? key).isSome := by
  rw [ObjectMeta.mem_annotationKeys, stamp?, Option.isSome_map]

theorem mem_templateKeys_iff : key ∈ w.templateKeys ↔ (w.templateStamp? key).isSome := by
  rw [templateKeys, ObjectMeta.mem_annotationKeys, templateStamp?, Option.isSome_map]
  cases w.template?.bind (·.metadata) <;> rfl

/-- A stamp adds its key to the keys of a workload. -/
theorem mem_metadataKeys_stamped (stamp : Stamp) :
    key' ∈ (w.stamped key stamp).metadata.annotationKeys ↔
      key' = key ∨ key' ∈ w.metadata.annotationKeys := by
  rw [mem_metadataKeys_iff, mem_metadataKeys_iff, stamp?_stamped]
  split <;> simp [*]

/-- A stamp adds its key to the keys of the pod template. -/
theorem mem_templateKeys_stamped (stamp : Stamp) :
    key' ∈ (w.stamped key stamp).templateKeys ↔ key' = key ∨ key' ∈ w.templateKeys := by
  rw [mem_templateKeys_iff, mem_templateKeys_iff, templateStamp?_stamped]
  split <;> simp [*]

theorem mem_annotationKeys_stamped (stamp : Stamp) :
    key' ∈ (w.stamped key stamp).annotationKeys ↔ key' = key ∨ key' ∈ w.annotationKeys := by
  rw [annotationKeys, annotationKeys, List.mem_append, List.mem_append, mem_metadataKeys_stamped,
    mem_templateKeys_stamped]
  tauto

/-- Whether all keys are well formed after a stamp is a matter of its own key. -/
theorem forall_mem_annotationKeys_stamped (stamp : Stamp) {p : String → Prop}
    (h : ∀ key ∈ w.annotationKeys, p key) :
    (∀ key' ∈ (w.stamped key stamp).annotationKeys, p key') ↔ p key := by
  simp only [mem_annotationKeys_stamped, forall_eq_or_imp]
  exact and_iff_left h

end Workload

/-! ### What is handed over -/

/-- A secret is managed if it has a version under either key. -/
theorem Secret.exists_target? {secret : Secret}
    (h : (secret.metadata.annotation? (stampKey secret.knownAs)).isSome ∨
      (secret.metadata.annotation? versionKey).isSome) : ∃ t, secret.target? = some t := by
  have hstamp : secret.stamp?.isSome := by
    rw [stamp?, Option.isSome_map]
    cases hown : secret.metadata.annotation? (stampKey secret.knownAs) with
    | some version => rfl
    | none =>
      rw [hown] at h
      exact h.resolve_left Bool.false_ne_true
  obtain ⟨stamp, hstamp⟩ := Option.isSome_iff_exists.1 hstamp
  exact ⟨⟨secret.knownAs, stamp⟩, by rw [target?, hstamp, Option.map_some]⟩

namespace Instant

variable {σ : Type} {k : Kind}

/-- A cluster together with a list of the updates that it is asked for. -/
def noting (I : Instant σ) : Instant (σ × List AnyWorkload) where
  fetch s := I.fetch s.1
  list s := I.list s.1
  update s k w := ((I.update s.1 k w).1, (I.update s.1 k w).2, s.2 ++ [⟨k, w⟩])

/-- The updates that a cluster is asked for when a workload is brought up to date with a secret. -/
def handedOver (I : Instant σ) (s : σ) (secret : Secret) (w : Workload k) : List AnyWorkload :=
  ((reconcileOne I.noting.access secret w).run (s, [])).2.2

/-- Whatever the cluster answers, a workload that is not current is handed over once, with the
stamps of the secret. -/
theorem handedOver_eq (I : Instant σ) (s : σ) {secret : Secret} {t : Target}
    (ht : secret.target? = some t) (w : Workload k) :
    I.handedOver s secret w = if w.IsCurrent t then [] else [⟨k, w.stamped t.key t.stamp⟩] := by
  have hrun : (reconcileOne I.noting.access secret w).run (s, []) =
      I.noting.reconcile t (s, []) w := by
    rw [reconcileOne, ht]
    dsimp only
    rw [I.noting.beginUpdate_access t w]
    rfl
  rw [handedOver, hrun, reconcile]
  by_cases hcurrent : w.IsCurrent t
  · rw [Workload.verdict_of_isCurrent hcurrent, if_pos hcurrent]
  · rw [Workload.verdict_of_not_isCurrent hcurrent, if_neg hcurrent]
    simp only [noting, List.nil_append]
    -- it is noted before there is an answer to it
    cases (I.update s k (w.stamped t.key t.stamp)).1 <;> rfl

/-- **The keys of what is handed over** when a workload with well-formed keys is brought up to date
with a secret. They are well formed, but for the key of the secret itself, which is there and is
well formed only if the name of the secret has no more than 48 characters. -/
theorem keys_of_handedOver (I : Instant σ) (s : σ) {secret : Secret} {w : Workload k}
    (hname : IsSubdomain secret.knownAs.toList)
    (hversion : (secret.metadata.annotation? (stampKey secret.knownAs)).isSome ∨
      (secret.metadata.annotation? versionKey).isSome)
    (hkeys : ∀ key ∈ w.annotationKeys, IsAnnotationKey key) :
    (∃ t, secret.target? = some t ∧
      I.handedOver s secret w = if w.IsCurrent t then [] else [⟨k, w.stamped t.key t.stamp⟩]) ∧
    (IsAnnotationKey (stampKey secret.knownAs) ↔ secret.knownAs.length ≤ 48) ∧
    ∀ v ∈ I.handedOver s secret w,
      stampKey secret.knownAs ∈ v.2.metadata.annotationKeys ∧
      stampKey secret.knownAs ∈ v.2.templateKeys ∧
      (∀ key ∈ v.2.annotationKeys, key ≠ stampKey secret.knownAs → IsAnnotationKey key) ∧
      ((∀ key ∈ v.2.annotationKeys, IsAnnotationKey key) ↔ secret.knownAs.length ≤ 48) := by
  have hstampKey := isAnnotationKey_stampKey_iff hname.1
  obtain ⟨t, ht⟩ := Secret.exists_target? hversion
  refine ⟨⟨t, ht, I.handedOver_eq s ht w⟩, hstampKey, fun v hv => ?_⟩
  have hkey : t.key = stampKey secret.knownAs := by
    rw [Target.key, (Secret.of_target?_eq_some ht).1]
  rw [I.handedOver_eq s ht w, hkey] at hv
  split at hv
  · cases hv
  · rw [List.mem_singleton.1 hv]
    refine ⟨(Workload.mem_metadataKeys_stamped _).2 (.inl rfl),
      (Workload.mem_templateKeys_stamped _).2 (.inl rfl), fun key hmem hne => ?_, ?_⟩
    · exact hkeys key (((Workload.mem_annotationKeys_stamped _).1 hmem).resolve_left hne)
    · rw [Workload.forall_mem_annotationKeys_stamped _ hkeys, hstampKey]

end Instant

/-- The same holds of all updates in the course of a pass, whatever is listed and answered. -/
theorem Course.keys_of_begun {limit : Option Nat} {t : Target} {answer : Answers}
    {ls : List Listing} {outcome : Except Failure Report} {ms : List (FanOut.Mark AnyWorkload)}
    (h : Course limit t answer ls outcome ms) (hname : IsDomain t.name.toList)
    (hkeys : ∀ l ∈ ls, ∀ w ∈ l.workloads, ∀ key ∈ w.annotationKeys, IsAnnotationKey key) :
    ∀ v ∈ ms.filterMap FanOut.Mark.begun?,
      (∀ key ∈ v.2.annotationKeys, IsAnnotationKey key) ↔ t.name.length ≤ 48 := by
  intro v hv
  rw [h.begun_eq] at hv
  obtain ⟨l, hl, hv⟩ := List.mem_flatMap.1 hv
  obtain ⟨w, hw, hv⟩ := List.mem_filterMap.1 hv
  obtain ⟨e, he, rfl⟩ := List.mem_map.1 hw
  have hlisted : e.2 ∈ l.workloads := (Listing.of_mem_entries he).1
  rw [(Workload.replacement?_eq_some_iff.1 hv).2,
    Workload.forall_mem_annotationKeys_stamped _ (hkeys l hl e.2 hlisted)]
  exact isAnnotationKey_stampKey_iff hname

/-! ### Sample objects -/

namespace Sample

theorem annotationKeys_consumer (ns name secretName : String) :
    (consumer ns name secretName).annotationKeys = [optInKey] := rfl

theorem isAnnotationKey_consumer (ns name secretName : String) :
    ∀ key ∈ (consumer ns name secretName).annotationKeys, IsAnnotationKey key := by
  rw [annotationKeys_consumer, List.forall_mem_singleton]
  exact .inr ⟨"secret-rollout.geeko.me".toList, "auto-reload".toList, by decide, isSubdomain_stem,
    by decide, by decide⟩

/-- A deployment is handed over with well-formed keys if its secret has a short name. -/
theorem keys_of_handedOver_short :
    IsSubdomain "db".toList ∧
    (Store.instant.handedOver {} (managedSecret "prod" "db" "v2") (consumer "prod" "web" "db") =
      [⟨.deployment, (consumer "prod" "web" "db").stamped (stampKey "db") ⟨"v2"⟩⟩]) ∧
    ∀ key ∈ ((consumer "prod" "web" "db").stamped (stampKey "db") ⟨"v2"⟩).annotationKeys,
      IsAnnotationKey key := by
  have hname : IsSubdomain (managedSecret "prod" "db" "v2").knownAs.toList :=
    ⟨.label (by decide), by decide⟩
  have hversion : ((managedSecret "prod" "db" "v2").metadata.annotation? (stampKey "db")).isSome :=
    Option.isSome_iff_exists.2 ⟨"v2", (OrderedMap.get?_insert ..).trans (if_pos rfl)⟩
  obtain ⟨⟨t, ht, hhanded⟩, -, hkeys⟩ := Store.instant.keys_of_handedOver {} hname (.inl hversion)
    (isAnnotationKey_consumer "prod" "web" "db")
  cases (target?_managedSecret "prod" "db" "v2").symm.trans ht
  rw [if_neg (not_isCurrent_consumer _ _ _ _)] at hhanded
  rw [hhanded] at hkeys
  have hshort : (managedSecret "prod" "db" "v2").knownAs.length ≤ 48 := by decide
  exact ⟨hname, hhanded, (hkeys _ List.mem_cons_self).2.2.2.2 hshort⟩

/-- A name of 49 characters. -/
def longName : String := "database-credentials-of-the-warehouse-in-the-barn"

/-- A secret with its version under the key that all secrets may use. -/
def versionedSecret (ns name version : String) : Secret where
  metadata := {
    name := some name
    ns := some ns
    annotations := some (OrderedMap.empty.insert versionKey version) }

theorem target?_versionedSecret (ns name version : String) :
    (versionedSecret ns name version).target? = some ⟨name, ⟨version⟩⟩ := by
  have hname : (versionedSecret ns name version).knownAs = name := rfl
  have hown : (versionedSecret ns name version).metadata.annotation? (stampKey name) = none :=
    (OrderedMap.get?_insert ..).trans (if_neg (stampKey_ne_versionKey name))
  have hshared : (versionedSecret ns name version).metadata.annotation? versionKey = some version :=
    (OrderedMap.get?_insert ..).trans (if_pos rfl)
  rw [Secret.target?, Secret.stamp?, hname, hown, hshared]
  rfl

/-- A deployment with well-formed keys is handed over with one that is not well formed, though the
name of its secret is one that secrets may have. -/
theorem ill_formed_key_of_longName :
    IsSubdomain longName.toList ∧
    ((versionedSecret "prod" longName "v2").metadata.annotation? versionKey).isSome ∧
    (∀ key ∈ (consumer "prod" "web" longName).annotationKeys, IsAnnotationKey key) ∧
    ¬ ∀ v ∈ Store.instant.handedOver {} (versionedSecret "prod" longName "v2")
        (consumer "prod" "web" longName), ∀ key ∈ v.2.annotationKeys, IsAnnotationKey key := by
  have hname : IsSubdomain longName.toList := ⟨.label (by decide), by decide⟩
  refine ⟨hname, rfl, isAnnotationKey_consumer "prod" "web" longName, fun hkeys => ?_⟩
  rw [Store.instant.handedOver_eq {} (target?_versionedSecret "prod" longName "v2"),
    if_neg (not_isCurrent_consumer _ _ _ _), List.forall_mem_singleton,
    Workload.forall_mem_annotationKeys_stamped _
      (isAnnotationKey_consumer "prod" "web" longName)] at hkeys
  have hlength := (isAnnotationKey_stampKey_iff hname.1).1 hkeys
  exact absurd hlength (by decide)

end Sample

end SecretRotation
