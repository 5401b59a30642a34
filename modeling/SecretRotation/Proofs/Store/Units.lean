import SecretRotation.Proofs.Pass.Course
import SecretRotation.Proofs.Store.Contents

/-!
# The workloads that take part

Whether a stored workload takes part in passes for a secret is decided by its slot and by what is
stored there: the namespace has to be that of the secret, and the workload has to have opted in and
to consume the secret. A pass finds these workloads in the order of their slots, which is the order
in which kinds are rolled out and, within a kind, the order of the names.

## Main definitions

* `Store.Eligible`, `Store.Current`, `Store.Outdated`: what is said of a slot.
* `Store.units`: the workloads that take part in a pass; `outdated`: those of them that are not
  current.
* `Store.target?`: a secret in the store, as the target of passes.

## Main results

* `Store.Orderly.exists_unit_iff`, `Store.Orderly.exists_outdated_iff`: from slots to workloads.
* `Store.Orderly.pairwise_units`: the order of the workloads that take part.
* `Store.Orderly.slots_units`, `Store.Orderly.slots_outdated`: a pass over all kinds, by slots.
-/

namespace SecretRotation

variable {k : Kind}

/-! ### Kinds and listings -/

/-- The kinds that a pass is about. -/
def Scope.kinds : Scope → List Kind
  | .all => Kind.all
  | .only k => [k]

theorem Scope.mem_kinds_all (k : Kind) : k ∈ Scope.all.kinds := by
  cases k <;> decide

/-- The kinds of a pass are in the order of the slots. -/
theorem Scope.pairwise_kinds : (scope : Scope) → scope.kinds.Pairwise fun a b => a.rank < b.rank
  | .all => by decide
  | .only k => List.pairwise_singleton _ k

/-- The workloads whose stamps are not both those of a target. -/
def outdated (t : Target) (units : List AnyWorkload) : List AnyWorkload :=
  units.filter fun w => ¬ w.2.IsCurrent t

theorem mem_outdated_iff {t : Target} {units : List AnyWorkload} {w : AnyWorkload} :
    w ∈ outdated t units ↔ w ∈ units ∧ ¬ w.2.IsCurrent t := by
  rw [outdated, List.mem_filter, decide_eq_true_iff]

namespace Store

/-- The version of a secret in the store. -/
def target? (s : Store) (secret : SecretRef) : Option Target :=
  (s.secrets.get? ⟨secret.ns, secret.name⟩).bind Secret.target?

theorem target?_congr {s s' : Store} (h : s.secrets = s'.secrets) (secret : SecretRef) :
    s.target? secret = s'.target? secret := by
  rw [target?, target?, h]

/-- The listings that a pass is about. -/
def listings (s : Store) (scope : Scope) (secret : SecretRef) : List Listing :=
  scope.kinds.map fun k => ⟨k, s.members k secret.ns⟩

/-- The workloads that take part in a pass, in the order of their slots. -/
def units (s : Store) (scope : Scope) (secret : SecretRef) : List AnyWorkload :=
  scope.kinds.flatMap fun k =>
    ((s.members k secret.ns).filter fun w => w.optsIn && w.consumes secret.name).map (Sigma.mk k)

end Store

/-! ### Slots -/

namespace Store

variable {s : Store} {secret : SecretRef} {scope : Scope}

/-- The workload of a slot takes part in passes for a secret. -/
def Eligible (s : Store) (secret : SecretRef) (slot : Slot) : Prop :=
  slot.identity.ns = secret.ns ∧ ∃ w, s.find? slot.kind slot.identity = some w ∧
    w.metadata.annotation? optInKey = some "true" ∧ w.consumes secret.name = true

/-- Both stamps of the workload of a slot are those of a target. -/
def Current (s : Store) (t : Target) (slot : Slot) : Prop :=
  ∃ w, s.find? slot.kind slot.identity = some w ∧ w.IsCurrent t

/-- The workload of a slot takes part, and not both its stamps are those of a target. -/
def Outdated (s : Store) (secret : SecretRef) (t : Target) (slot : Slot) : Prop :=
  s.Eligible secret slot ∧ ¬ s.Current t slot

namespace Orderly

variable (hs : s.Orderly)

include hs

/-- A secret is known by the name under which it is fetched. -/
theorem name_of_target? {t : Target} (h : s.target? secret = some t) : t.name = secret.name := by
  obtain ⟨found, hget, htarget⟩ := Option.bind_eq_some_iff.1 h
  obtain ⟨stamp, -, rfl⟩ := Option.map_eq_some_iff.1 htarget
  exact congrArg Identity.name (hs.identity_secret hget)

/-- The version of a secret that is stored, under its own key first. -/
theorem target?_eq {found : Secret} {version : String}
    (hsecret : s.secrets.get? ⟨secret.ns, secret.name⟩ = some found)
    (hversion : (found.metadata.annotation? (stampKey secret.name) <|>
      found.metadata.annotation? versionKey) = some version) :
    s.target? secret = some ⟨secret.name, ⟨version⟩⟩ := by
  have hname : found.knownAs = secret.name := congrArg Identity.name (hs.identity_secret hsecret)
  rw [target?, hsecret, Option.bind_some, Secret.target?, Secret.stamp?, hname, hversion]
  rfl

theorem flatMap_units_listings (scope : Scope) (secret : SecretRef) :
    (s.listings scope secret).flatMap (fun l => l.units secret.name) = s.units scope secret := by
  rw [listings, List.flatMap_map, units]
  congr 1
  funext k
  rw [Listing.units, Listing.values_eligible (hs.pairwise_members k secret.ns)]

theorem mem_units_iff {w : AnyWorkload} :
    w ∈ s.units scope secret ↔ w.1 ∈ scope.kinds ∧ s.find? w.1 w.2.identity = some w.2 ∧
      w.2.identity.ns = secret.ns ∧ w.2.metadata.annotation? optInKey = some "true" ∧
      w.2.consumes secret.name = true := by
  obtain ⟨k, w⟩ := w
  have hfilter : w ∈ (s.members k secret.ns).filter (fun w => w.optsIn && w.consumes secret.name) ↔
      s.find? k w.identity = some w ∧ w.identity.ns = secret.ns ∧
        w.metadata.annotation? optInKey = some "true" ∧ w.consumes secret.name = true := by
    rw [List.mem_filter, hs.mem_members_iff, Workload.optsIn, Bool.and_eq_true, beq_iff_eq,
      and_assoc]
  rw [units, List.mem_flatMap]
  constructor
  · rintro ⟨k', hk', hw⟩
    obtain ⟨v, hv, heq⟩ := List.mem_map.1 hw
    cases heq
    exact ⟨hk', hfilter.1 hv⟩
  · rintro ⟨hk, hw⟩
    exact ⟨k, hk, List.mem_map_of_mem (hfilter.2 hw)⟩

/-- The workloads that take part are those of the eligible slots. -/
theorem exists_unit_iff {slot : Slot} :
    (∃ w ∈ s.units scope secret, w.2.slot = slot) ↔
      slot.kind ∈ scope.kinds ∧ s.Eligible secret slot := by
  constructor
  · rintro ⟨w, hw, rfl⟩
    obtain ⟨hk, hfind, hns, htakesPart⟩ := hs.mem_units_iff.1 hw
    exact ⟨hk, hns, w.2, hfind, htakesPart⟩
  · rintro ⟨hk, hns, w, hfind, htakesPart⟩
    have hidentity := hs.identity_of_find? hfind
    refine ⟨⟨slot.kind, w⟩, hs.mem_units_iff.2 ⟨hk, ?_, ?_, htakesPart⟩, ?_⟩
    · rwa [hidentity]
    · rwa [hidentity]
    · rw [Workload.slot, hidentity]

end Orderly

/-- The workloads that are updated are those of the eligible slots that are not current. -/
theorem Orderly.exists_outdated_iff (hs : s.Orderly) {t : Target} {slot : Slot} :
    (∃ w ∈ outdated t (s.units scope secret), w.2.slot = slot) ↔
      slot.kind ∈ scope.kinds ∧ s.Outdated secret t slot := by
  constructor
  · rintro ⟨w, hw, rfl⟩
    obtain ⟨hunit, hcurrent⟩ := mem_outdated_iff.1 hw
    obtain ⟨hk, heligible⟩ := hs.exists_unit_iff.1 ⟨w, hunit, rfl⟩
    refine ⟨hk, heligible, ?_⟩
    rintro ⟨v, hfind, hv⟩
    have hvw : some v = some w.2 := hfind.symm.trans (hs.mem_units_iff.1 hunit).2.1
    cases hvw
    exact hcurrent hv
  · rintro ⟨hk, heligible, hcurrent⟩
    obtain ⟨w, hunit, rfl⟩ := hs.exists_unit_iff.2 ⟨hk, heligible⟩
    refine ⟨w, mem_outdated_iff.2 ⟨hunit, fun hw => ?_⟩, rfl⟩
    exact hcurrent ⟨w.2, (hs.mem_units_iff.1 hunit).2.1, hw⟩

/-- The workloads that take part are in the order of their slots. -/
theorem Orderly.pairwise_units (hs : s.Orderly) (scope : Scope) (secret : SecretRef) :
    (s.units scope secret).Pairwise fun v w => compare v.2.slot w.2.slot = .lt := by
  refine List.pairwise_flatMap.2 ⟨fun k _ => ?_, ?_⟩
  · rw [List.pairwise_map]
    refine ((hs.pairwise_members k secret.ns).filter _).imp fun {v w} hvw => ?_
    rwa [Workload.slot, Workload.slot, Slot.compare_mk]
  · refine scope.pairwise_kinds.imp fun {k k'} hrank v hv w hw => ?_
    obtain ⟨v, -, rfl⟩ := List.mem_map.1 hv
    obtain ⟨w, -, rfl⟩ := List.mem_map.1 hw
    exact Slot.compare_of_rank_lt hrank

/-- No two workloads that take part have the same slot. -/
theorem Orderly.pairwise_ne_units (hs : s.Orderly) (scope : Scope) (secret : SecretRef) :
    (s.units scope secret).Pairwise fun v w => v.2.slot ≠ w.2.slot :=
  (hs.pairwise_units scope secret).imp fun {v w} hlt heq => by
    have hself : compare w.2.slot w.2.slot = .eq := Std.ReflCmp.compare_self
    rw [heq, hself] at hlt
    cases hlt

/-- In a pass over all kinds, the workloads of the eligible slots take part, each once. -/
theorem Orderly.slots_units (hs : s.Orderly) (secret : SecretRef) :
    ((s.units .all secret).map fun w => w.2.slot).Nodup ∧
      ∀ slot, slot ∈ (s.units .all secret).map (fun w => w.2.slot) ↔ s.Eligible secret slot := by
  refine ⟨List.pairwise_map.2 (hs.pairwise_ne_units .all secret), fun slot => ?_⟩
  rw [List.mem_map, hs.exists_unit_iff]
  exact and_iff_right (Scope.mem_kinds_all slot.kind)

/-- In a pass over all kinds, the workloads of the eligible slots that are not current are updated,
each once. -/
theorem Orderly.slots_outdated (hs : s.Orderly) (secret : SecretRef) (t : Target) :
    ((outdated t (s.units .all secret)).map fun w => w.2.slot).Nodup ∧
      ∀ slot, slot ∈ (outdated t (s.units .all secret)).map (fun w => w.2.slot) ↔
        s.Outdated secret t slot := by
  refine ⟨List.pairwise_map.2 ((hs.pairwise_ne_units .all secret).filter _), fun slot => ?_⟩
  rw [List.mem_map, hs.exists_outdated_iff]
  exact and_iff_right (Scope.mem_kinds_all slot.kind)

end Store

end SecretRotation
