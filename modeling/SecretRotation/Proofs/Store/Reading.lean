import SecretRotation.Proofs.Pass.Instant
import SecretRotation.Proofs.Pass.Tally
import SecretRotation.Proofs.Store.Units

/-!
# Reading a store

What a pass reads of a store is what is stored: the version of the secret, and the workloads of the
kinds that the pass is about. If the secret is not there or has no version, or if one of the lists
fails, the pass ends there.

## Main definitions

* `Store.instant`: a store as a cluster on which nothing takes time.
* `Reads`: a computation reads what there is to be read, or ends the pass.
* `Store.found?`: what there is to be read.
* `Store.Alike`: stores that differ at most in their workloads.

## Main results

* `Store.Orderly.reads_survey`: a pass reads what there is to be read.
* `Store.Alike.failAlike_survey`: if it cannot, this does not depend on the workloads.
-/

namespace SecretRotation

/-- A store as a cluster on which nothing takes time. -/
def Store.instant : Instant Store where
  fetch s := s.fetch
  list s := s.list
  update s _ w := s.update w

/-! ### Reading -/

/-- A computation reads what there is to be read; if there is nothing, it ends the pass. -/
def Reads {α : Type} (x : ExceptT Failure Id α) : Option α → Prop
  | some a => x.run = .ok a
  | none => ∃ failure : Failure, failure.OfReading ∧ x.run = .error failure

namespace Reads

variable {α β ι : Type}

theorem pure (a : α) : Reads (Pure.pure a) (some a) := rfl

theorem bind {x : ExceptT Failure Id α} {a? : Option α} {f : α → ExceptT Failure Id β}
    {f? : α → Option β} (hx : Reads x a?) (hf : ∀ a, Reads (f a) (f? a)) :
    Reads (x >>= f) (a?.bind f?) := by
  cases a? with
  | none =>
    obtain ⟨failure, hfailure, hx⟩ := hx
    refine ⟨failure, hfailure, ?_⟩
    rw [ExceptT.run_bind, hx]
    rfl
  | some a =>
    have hx : x.run = .ok a := hx
    have hrun : (x >>= f).run = (f a).run := by
      rw [ExceptT.run_bind, hx]
      rfl
    have hfa := hf a
    rw [Option.bind_some]
    cases hb : f? a with
    | none =>
      rw [hb] at hfa
      obtain ⟨failure, hfailure, hfa⟩ := hfa
      exact ⟨failure, hfailure, hrun.trans hfa⟩
    | some b =>
      rw [hb] at hfa
      exact hrun.trans hfa

theorem mapM {f : ι → ExceptT Failure Id α} {f? : ι → Option α} (hf : ∀ i, Reads (f i) (f? i)) :
    (is : List ι) → Reads (is.mapM f) (is.mapM f?)
  | [] => rfl
  | i :: is => by
    rw [List.mapM_cons, List.mapM_cons]
    exact (hf i).bind fun a => (mapM hf is).bind fun as => pure (a :: as)

end Reads

namespace Store

variable {s : Store}

/-- The answer to fetching a secret that is not there. -/
def missing : Fault := .refused (.failure 404 "NotFound" "secret not found")

/-- A secret is read as the target that it is. -/
theorem reads_fetchTarget (s : Store) (secret : SecretRef) :
    Reads (fetchTarget (Store.instant.view s) secret) (s.target? secret) := by
  cases hget : s.secrets.get? ⟨secret.ns, secret.name⟩ with
  | none =>
    have hfetch : (Store.instant.view s).fetch secret = .error missing := by
      simp only [Instant.view, Store.instant, fetch, hget, missing]
    rw [target?, hget, fetchTarget, hfetch]
    exact ⟨.fetching secret.text missing, trivial, rfl⟩
  | some found =>
    have hfetch : Store.instant.fetch s secret = .ok found := by
      simp only [Store.instant, fetch, hget]
    rw [target?, hget, Option.bind_some, Instant.fetchTarget_view_of_fetched _ hfetch]
    cases found.target? with
    | none => exact ⟨.unversioned secret.text, trivial, rfl⟩
    | some t => exact rfl

namespace Orderly

variable (hs : s.Orderly)

include hs

/-- The workloads of a kind are read as they are stored. -/
theorem reads_listKind (ns : String) (k : Kind) :
    Reads (listKind (Store.instant.view s) ns k)
      (if s.Lists k then some ⟨k, s.members k ns⟩ else none) := by
  by_cases hlists : s.Lists k
  · have hlist : (Store.instant.view s).list k ns = .ok (s.members k ns) := hs.list_eq hlists ns
    rw [if_pos hlists, listKind, hlist]
    exact rfl
  · have hlist : (Store.instant.view s).list k ns = .error unavailable :=
      list_of_not_lists hlists ns
    rw [if_neg hlists, listKind, hlist]
    exact ⟨.listing k.name ns unavailable, trivial, rfl⟩

end Orderly

/-- What a pass reads; nothing, if the secret has no version or a list fails. -/
def found? (s : Store) (scope : Scope) (secret : SecretRef) : Option (Target × List Listing) :=
  if ∀ k ∈ scope.kinds, s.Lists k then
    (s.target? secret).map fun t => (t, s.listings scope secret)
  else none

theorem mapM_ite_lists (s : Store) (ns : String) (ks : List Kind) :
    (ks.mapM fun k => if s.Lists k then some (⟨k, s.members k ns⟩ : Listing) else none) =
      if ∀ k ∈ ks, s.Lists k then some (ks.map fun k => ⟨k, s.members k ns⟩) else none := by
  induction ks with
  | nil => rfl
  | cons k ks ih =>
    rw [List.mapM_cons, ih]
    by_cases hk : s.Lists k
    · rw [if_pos hk]
      by_cases hks : ∀ k ∈ ks, s.Lists k
      · rw [if_pos hks, if_pos (List.forall_mem_cons.2 ⟨hk, hks⟩)]
        rfl
      · rw [if_neg hks, if_neg fun h => hks (List.forall_mem_cons.1 h).2]
        rfl
    · rw [if_neg hk, if_neg fun h => hk (List.forall_mem_cons.1 h).1]
      rfl

theorem found?_of_lists {scope : Scope} (h : ∀ k ∈ scope.kinds, s.Lists k) (secret : SecretRef) :
    s.found? scope secret = (s.target? secret).map fun t => (t, s.listings scope secret) :=
  if_pos h

theorem found?_of_not_lists {scope : Scope} (h : ¬ ∀ k ∈ scope.kinds, s.Lists k)
    (secret : SecretRef) : s.found? scope secret = none :=
  if_neg h

/-- A pass reads what there is to be read. -/
theorem Orderly.reads_survey (hs : s.Orderly) (scope : Scope) (secret : SecretRef) :
    Reads (survey (Store.instant.view s) scope secret) (s.found? scope secret) := by
  have htarget := s.reads_fetchTarget secret
  cases scope with
  | all =>
    have hlist := Reads.mapM (hs.reads_listKind secret.ns) Kind.all
    have h := htarget.bind fun t => hlist.bind fun ls => Reads.pure (t, ls)
    rw [mapM_ite_lists] at h
    suffices heq : s.found? .all secret = _ from heq ▸ h
    by_cases hlists : ∀ k ∈ Kind.all, s.Lists k
    · rw [found?_of_lists (show ∀ k ∈ Scope.all.kinds, s.Lists k from hlists), if_pos hlists]
      cases s.target? secret <;> rfl
    · rw [found?_of_not_lists (show ¬ ∀ k ∈ Scope.all.kinds, s.Lists k from hlists), if_neg hlists]
      cases s.target? secret <;> rfl
  | only k =>
    have h := (hs.reads_listKind secret.ns k).bind fun l =>
      htarget.bind fun t => Reads.pure (t, [l])
    suffices heq : s.found? (.only k) secret = _ from heq ▸ h
    have hkinds : (∀ k' ∈ (Scope.only k).kinds, s.Lists k') ↔ s.Lists k := List.forall_mem_singleton
    by_cases hlists : s.Lists k
    · rw [found?_of_lists (hkinds.2 hlists), if_pos hlists]
      cases s.target? secret <;> rfl
    · rw [found?_of_not_lists (hkinds.not.2 hlists), if_neg hlists]
      rfl

end Store

/-! ### Stores that are read alike -/

/-- Two computations fail alike: both with the same failure, or neither of them. -/
def FailAlike {α : Type} (x y : ExceptT Failure Id α) : Prop :=
  (∃ failure, x.run = .error failure ∧ y.run = .error failure) ∨
    ∃ a b, x.run = .ok a ∧ y.run = .ok b

namespace FailAlike

variable {α β ι : Type}

theorem refl (x : ExceptT Failure Id α) : FailAlike x x := by
  cases h : x.run with
  | error failure => exact .inl ⟨failure, h, h⟩
  | ok a => exact .inr ⟨a, a, h, h⟩

theorem bind {x y : ExceptT Failure Id α} {f g : α → ExceptT Failure Id β} (h : FailAlike x y)
    (hfg : ∀ a b, FailAlike (f a) (g b)) : FailAlike (x >>= f) (y >>= g) := by
  rcases h with ⟨failure, hx, hy⟩ | ⟨a, b, hx, hy⟩
  · refine .inl ⟨failure, ?_, ?_⟩
    · rw [ExceptT.run_bind, hx]
      rfl
    · rw [ExceptT.run_bind, hy]
      rfl
  · have hxf : (x >>= f).run = (f a).run := by
      rw [ExceptT.run_bind, hx]
      rfl
    have hyg : (y >>= g).run = (g b).run := by
      rw [ExceptT.run_bind, hy]
      rfl
    rw [FailAlike, hxf, hyg]
    exact hfg a b

theorem mapM {f g : ι → ExceptT Failure Id α} (hfg : ∀ i, FailAlike (f i) (g i)) :
    (is : List ι) → FailAlike (is.mapM f) (is.mapM g)
  | [] => refl _
  | i :: is => by
    rw [List.mapM_cons, List.mapM_cons]
    exact (hfg i).bind fun a b => (mapM hfg is).bind fun as bs => .inr ⟨a :: as, b :: bs, rfl, rfl⟩

end FailAlike

namespace Store

/-- Two stores differ at most in their workloads and in what they were asked for: they have the same
secrets, and the same lists and updates fail. -/
structure Alike (s s' : Store) : Prop where
  secrets_eq : s'.secrets = s.secrets
  listingFails_eq : s'.listingFails = s.listingFails
  failingKinds_eq : s'.failingKinds = s.failingKinds
  rejectedNames_eq : s'.rejectedNames = s.rejectedNames

namespace Alike

variable {s s' s'' : Store} (h : s.Alike s')

theorem refl (s : Store) : s.Alike s := ⟨rfl, rfl, rfl, rfl⟩

include h

theorem trans (h' : s'.Alike s'') : s.Alike s'' where
  secrets_eq := h'.secrets_eq.trans h.secrets_eq
  listingFails_eq := h'.listingFails_eq.trans h.listingFails_eq
  failingKinds_eq := h'.failingKinds_eq.trans h.failingKinds_eq
  rejectedNames_eq := h'.rejectedNames_eq.trans h.rejectedNames_eq

theorem target?_eq (secret : SecretRef) : s'.target? secret = s.target? secret :=
  target?_congr h.secrets_eq secret

theorem lists_iff (k : Kind) : s'.Lists k ↔ s.Lists k := by
  rw [Lists, Lists, h.listingFails_eq, h.failingKinds_eq]

theorem failAlike_fetchTarget (secret : SecretRef) :
    FailAlike (fetchTarget (Store.instant.view s) secret)
      (fetchTarget (Store.instant.view s') secret) := by
  have hfetch : (Store.instant.view s').fetch secret = (Store.instant.view s).fetch secret := by
    simp only [Instant.view, Store.instant, fetch, h.secrets_eq]
  have hsame : fetchTarget (Store.instant.view s') secret =
      fetchTarget (Store.instant.view s) secret := by
    rw [fetchTarget, fetchTarget, hfetch]
  rw [hsame]
  exact .refl _

theorem failAlike_listKind (hs : s.Orderly) (hs' : s'.Orderly) (ns : String) (k : Kind) :
    FailAlike (listKind (Store.instant.view s) ns k) (listKind (Store.instant.view s') ns k) := by
  by_cases hlists : s.Lists k
  · have hread := hs.reads_listKind ns k
    have hread' := hs'.reads_listKind ns k
    rw [if_pos hlists] at hread
    rw [if_pos ((h.lists_iff k).2 hlists)] at hread'
    exact .inr ⟨_, _, hread, hread'⟩
  · have hlist : (Store.instant.view s).list k ns = .error unavailable :=
      list_of_not_lists hlists ns
    have hlist' : (Store.instant.view s').list k ns = .error unavailable :=
      list_of_not_lists ((h.lists_iff k).not.2 hlists) ns
    rw [listKind, listKind, hlist, hlist']
    exact .refl _

/-- Stores that are alike are read up to the same failure. -/
theorem failAlike_survey (hs : s.Orderly) (hs' : s'.Orderly) (scope : Scope) (secret : SecretRef) :
    FailAlike (survey (Store.instant.view s) scope secret)
      (survey (Store.instant.view s') scope secret) := by
  have hfetch := h.failAlike_fetchTarget secret
  have hlist := h.failAlike_listKind hs hs' secret.ns
  cases scope with
  | all =>
    exact hfetch.bind fun t t' => (FailAlike.mapM hlist Kind.all).bind fun ls ls' =>
      .inr ⟨(t, ls), (t', ls'), rfl, rfl⟩
  | only k =>
    exact (hlist k).bind fun l l' => hfetch.bind fun t t' =>
      .inr ⟨(t, [l]), (t', [l']), rfl, rfl⟩

end Alike

end Store

end SecretRotation
