import Mathlib.Logic.Function.Basic
import SecretRotation.Proofs.Api.Addresses
import SecretRotation.Proofs.Api.Provenance
import SecretRotation.Proofs.Store.Contents

/-!
# A server that checks versions

An API server that several clients use at the same time. Every workload that it stores has a
version, which is a new one each time the workload is stored. A client that wants to replace a
workload has to name the version that it replaces; if another one is stored by then, nothing
changes. What the server reads out may be out of date: a page carries documents of workloads as they
are stored or have been stored before.

Since versions are never used twice, a version stands for one document. So whoever replaces a
version that he has read replaces the workload that he has read, whatever happened in between.

## Main definitions

* `Filed`: a workload as it is stored, at a version.
* `Archive`: what is stored, and all that has ever been stored.
* `Incident`, `Archive.Step`, `Archive.Run`: what happens at the server, and what this does to an
  archive.

## Main results

* `Archive.Sound`, `Archive.Run.sound`: a version stands for one document, at all times.
* `Archive.Run.exists_past`: what has been read out has been stored.
* `Archive.Step.eq_of_replaced`: an accepted update replaces what it was made from.
-/

namespace SecretRotation

/-! ### Workloads at a version -/

/-- A workload at a version. -/
def Workload.atVersion {k : Kind} (w : Workload k) (version : String) : Workload k :=
  { w with metadata := { w.metadata with resourceVersion := some version } }

/-- A workload as it is stored in a slot: nothing more of it is lost in writing, and it carries its
own namespace and name, and a version. -/
structure Filed (slot : Slot) where
  /-- The workload. -/
  workload : Workload slot.kind
  /-- Its version. -/
  version : String
  /-- Its timestamps are in whole seconds, as its document has them. -/
  asWritten_eq : workload.asWritten = workload
  ns_eq : workload.metadata.ns = some slot.identity.ns
  name_eq : workload.metadata.name = some slot.identity.name
  version_eq : workload.metadata.resourceVersion = some version

theorem Filed.identity_eq {slot : Slot} (f : Filed slot) : f.workload.identity = slot.identity := by
  rw [Workload.identity, ObjectMeta.identity, ObjectMeta.knownAs, f.ns_eq, f.name_eq]
  rfl

/-- The document that is stored. -/
def Filed.document {slot : Slot} (f : Filed slot) : Json :=
  (Workload.codec slot.kind).write f.workload

/-! ### Archives -/

/-- What a server stores, and all that it has ever stored. -/
structure Archive where
  /-- What is stored in a slot. -/
  stored : (slot : Slot) → Option (Filed slot)
  /-- All that has been stored in a slot so far. -/
  past : (slot : Slot) → List (Filed slot)

namespace Archive

/-- The archive of a server at the beginning. -/
def initial (stored : (slot : Slot) → Option (Filed slot)) : Archive :=
  ⟨stored, fun slot => (stored slot).toList⟩

/-- A workload is stored in a slot. -/
def store (a : Archive) (slot : Slot) (f : Filed slot) : Archive :=
  ⟨Function.update a.stored slot (some f), Function.update a.past slot (f :: a.past slot)⟩

/-- The workload of a slot is removed. -/
def remove (a : Archive) (slot : Slot) : Archive :=
  ⟨Function.update a.stored slot none, a.past⟩

/-- A version has never been used for a slot. -/
def Fresh (a : Archive) (slot : Slot) (version : String) : Prop :=
  ∀ f ∈ a.past slot, f.version ≠ version

/-- What is stored has been stored, and a version stands for one document. -/
structure Sound (a : Archive) : Prop where
  mem_past {slot : Slot} {f : Filed slot} (h : a.stored slot = some f) : f ∈ a.past slot
  eq_of_version {slot : Slot} {f g : Filed slot} (hf : f ∈ a.past slot) (hg : g ∈ a.past slot)
    (h : f.version = g.version) : f = g

theorem sound_initial (stored : (slot : Slot) → Option (Filed slot)) : (initial stored).Sound where
  mem_past h := Option.mem_toList.2 h
  eq_of_version hf hg _ := Option.some.inj ((Option.mem_toList.1 hf).symm.trans
    (Option.mem_toList.1 hg))

section

variable {a : Archive} {slot slot' : Slot}

theorem stored_store_self (f : Filed slot) : (a.store slot f).stored slot = some f :=
  Function.update_self ..

theorem stored_store_of_ne (h : slot' ≠ slot) (f : Filed slot) :
    (a.store slot f).stored slot' = a.stored slot' :=
  Function.update_of_ne h ..

theorem past_store_self (f : Filed slot) : (a.store slot f).past slot = f :: a.past slot :=
  Function.update_self ..

theorem past_store_of_ne (h : slot' ≠ slot) (f : Filed slot) :
    (a.store slot f).past slot' = a.past slot' :=
  Function.update_of_ne h ..

theorem stored_remove_self (a : Archive) (slot : Slot) : (a.remove slot).stored slot = none :=
  Function.update_self ..

theorem stored_remove_of_ne (h : slot' ≠ slot) : (a.remove slot).stored slot' = a.stored slot' :=
  Function.update_of_ne h ..

theorem mem_past_store (f : Filed slot) {g : Filed slot'} (h : g ∈ a.past slot') :
    g ∈ (a.store slot f).past slot' := by
  by_cases heq : slot' = slot
  · subst heq
    rw [past_store_self]
    exact List.mem_cons_of_mem f h
  · rwa [past_store_of_ne heq]

theorem Sound.store (ha : a.Sound) {f : Filed slot} (hfresh : a.Fresh slot f.version) :
    (a.store slot f).Sound where
  mem_past {slot' g} h := by
    by_cases heq : slot' = slot
    · subst heq
      rw [stored_store_self] at h
      cases h
      rw [past_store_self]
      exact List.mem_cons_self
    · rw [stored_store_of_ne heq] at h
      exact mem_past_store f (ha.mem_past h)
  eq_of_version {slot' g g'} hg hg' h := by
    by_cases heq : slot' = slot
    · subst heq
      rw [past_store_self, List.mem_cons] at hg hg'
      rcases hg with rfl | hg <;> rcases hg' with rfl | hg'
      · rfl
      · exact absurd h.symm (hfresh g' hg')
      · exact absurd h (hfresh g hg)
      · exact ha.eq_of_version hg hg' h
    · rw [past_store_of_ne heq] at hg hg'
      exact ha.eq_of_version hg hg' h

theorem Sound.remove (ha : a.Sound) (slot : Slot) : (a.remove slot).Sound where
  mem_past {slot' f} h := by
    by_cases heq : slot' = slot
    · subst heq
      rw [stored_remove_self] at h
      cases h
    · rw [stored_remove_of_ne heq] at h
      exact ha.mem_past h
  eq_of_version := ha.eq_of_version

end

end Archive

/-! ### What happens at a server -/

/-- Something that happens at a server while clients `ι` use it. -/
inductive Incident (ι : Type)
  /-- A request of a client is answered, and nothing is stored. -/
  | answered (i : ι) (e : Exchange)
  /-- A request of a client to replace the workload of a slot is accepted. -/
  | replaced (i : ι) (e : Exchange) (slot : Slot) (f : Filed slot)
  /-- Somebody else stores a workload. -/
  | written (slot : Slot) (f : Filed slot)
  /-- Somebody else removes a workload. -/
  | removed (slot : Slot)

variable {ι : Type}

/-- What a client exchanges with a server when something happens. -/
def Incident.exchange? [DecidableEq ι] (i : ι) : Incident ι → Option Exchange
  | .answered j e => if j = i then some e else none
  | .replaced j e _ _ => if j = i then some e else none
  | .written _ _ => none
  | .removed _ => none

/-- What a client exchanges with a server in the course of what happens. -/
def exchangesOf [DecidableEq ι] (i : ι) (ms : List (Incident ι)) : List Exchange :=
  ms.filterMap (Incident.exchange? i)

theorem exchangesOf_append_replaced [DecidableEq ι] (i : ι) (ms ms' : List (Incident ι))
    (e : Exchange) (slot : Slot) (f : Filed slot) :
    exchangesOf i (ms ++ .replaced i e slot f :: ms') =
      exchangesOf i ms ++ e :: exchangesOf i ms' := by
  have he : (Incident.replaced i e slot f).exchange? i = some e := if_pos rfl
  rw [exchangesOf, List.filterMap_append, List.filterMap_cons_some he]
  rfl

namespace Archive

/-- What happens at a server that checks versions, and what it does to the archive. A request to
replace a workload is accepted only if it names the version that is stored; the workload is then
stored as it is sent, at a new version, and whether the client learns of this is left open. Whatever
else is answered, nothing changes; what a page carries is stored or has been stored. -/
inductive Step : Archive → Incident ι → Archive → Prop
  | answered {a : Archive} {i : ι} {e : Exchange}
      (hitems : e.request.method = "GET" → ∀ item ∈ e.reply.items,
        ∃ slot, ∃ f ∈ a.past slot, item = f.document) :
      Step a (.answered i e) a
  | replaced {a : Archive} {i : ι} {e : Exchange} {slot : Slot} {f old : Filed slot}
      {w : Workload slot.kind} (hmethod : e.request.method = "PUT")
      (hpath : e.request.address.path = slot.path) (hstored : a.stored slot = some old)
      (hbody : e.request.body.document?.bind (Workload.codec slot.kind).read = some w)
      (hversion : w.metadata.resourceVersion = some old.version)
      (hworkload : f.workload = w.atVersion f.version) (hfresh : a.Fresh slot f.version) :
      Step a (.replaced i e slot f) (a.store slot f)
  | written {a : Archive} {slot : Slot} {f : Filed slot} (hfresh : a.Fresh slot f.version) :
      Step a (.written slot f) (a.store slot f)
  | removed {a : Archive} {slot : Slot} : Step a (.removed slot) (a.remove slot)

/-- Several things happen one after the other. -/
inductive Run : Archive → List (Incident ι) → Archive → Prop
  | nil (a : Archive) : Run a [] a
  | cons {a a' a'' : Archive} {m : Incident ι} {ms : List (Incident ι)} (h : Step a m a')
      (hs : Run a' ms a'') : Run a (m :: ms) a''

/-! ### What a step preserves -/

namespace Step

variable {a a' : Archive} {m : Incident ι}

theorem sound (h : Step a m a') (ha : a.Sound) : a'.Sound := by
  cases h with
  | answered _ => exact ha
  | replaced _ _ _ _ _ _ hfresh => exact ha.store hfresh
  | written hfresh => exact ha.store hfresh
  | removed => exact ha.remove _

theorem mem_past (h : Step a m a') {slot : Slot} {f : Filed slot} (hf : f ∈ a.past slot) :
    f ∈ a'.past slot := by
  cases h with
  | answered _ => exact hf
  | replaced _ _ _ _ _ _ _ => exact mem_past_store _ hf
  | written _ => exact mem_past_store _ hf
  | removed => exact hf

theorem eq_of_step {a'' : Archive} (h : Step a m a') (h' : Step a m a'') : a' = a'' := by
  cases h <;> cases h' <;> rfl

end Step

/-! ### What holds along a run -/

namespace Run

variable {a a' a'' : Archive} {ms ms' : List (Incident ι)}

theorem sound (h : Run a ms a') (ha : a.Sound) : a'.Sound := by
  induction h with
  | nil => exact ha
  | cons hstep _ ih => exact ih (hstep.sound ha)

theorem mem_past (h : Run a ms a') {slot : Slot} {f : Filed slot} (hf : f ∈ a.past slot) :
    f ∈ a'.past slot := by
  induction h with
  | nil => exact hf
  | cons hstep _ ih => exact ih (hstep.mem_past hf)

/-- A run can be stopped before any of the things that happen. -/
theorem exists_step {m : Incident ι} (h : Run a (ms ++ m :: ms') a'') :
    ∃ b b', Run a ms b ∧ Step b m b' ∧ Run b' ms' a'' := by
  induction ms generalizing a with
  | nil =>
    cases h with
    | cons hstep hrest => exact ⟨a, _, .nil a, hstep, hrest⟩
  | cons m' ms ih =>
    cases h with
    | cons hstep hrest =>
      obtain ⟨b, b', hrun, hstep', hrest⟩ := ih hrest
      exact ⟨b, b', .cons hstep hrun, hstep', hrest⟩

end Run

/-- What is read out has been stored. -/
theorem Step.exists_past [DecidableEq ι] {a a' : Archive} {m : Incident ι} (h : Step a m a')
    {i : ι} {e : Exchange} (he : m.exchange? i = some e) (hmethod : e.request.method = "GET")
    {item : Json} (hitem : item ∈ e.reply.items) :
    ∃ slot, ∃ f ∈ a.past slot, item = f.document := by
  cases h with
  | answered hitems =>
    obtain ⟨-, he⟩ := Option.ite_none_right_eq_some.1 he
    cases he
    exact hitems hmethod item hitem
  | replaced hput _ _ _ _ _ _ =>
    obtain ⟨-, he⟩ := Option.ite_none_right_eq_some.1 he
    cases he
    exact absurd (hput.symm.trans hmethod) (by decide)
  | written _ => cases he
  | removed => cases he

/-- Whatever has been read out in the course of a run has been stored. -/
theorem Run.exists_past [DecidableEq ι] {a a' : Archive} {ms : List (Incident ι)}
    (h : Run a ms a') {i : ι} {e : Exchange} (he : e ∈ exchangesOf i ms)
    (hmethod : e.request.method = "GET") {item : Json} (hitem : item ∈ e.reply.items) :
    ∃ slot, ∃ f ∈ a'.past slot, item = f.document := by
  induction h with
  | nil => cases he
  | cons hstep hrest ih =>
    obtain ⟨m, hm, hme⟩ := List.mem_filterMap.1 he
    rcases List.mem_cons.1 hm with rfl | hm
    · obtain ⟨slot, f, hf, hdocument⟩ := hstep.exists_past hme hmethod hitem
      exact ⟨slot, f, hrest.mem_past (hstep.mem_past hf), hdocument⟩
    · exact ih (List.mem_filterMap.2 ⟨m, hm, hme⟩)

/-! ### Accepted updates -/

/-- **An accepted update replaces what it was made from.** If the body of a request has been made
from something that was stored at some time, by a change that keeps the namespace, the name and the
version and leaves nothing to be lost in writing, then it is this that is stored when the request is
accepted. -/
theorem Step.eq_of_replaced {a a' : Archive} {i : ι} {e : Exchange} {slot slot' : Slot}
    {f : Filed slot} (h : Step a (.replaced i e slot f) a') (ha : a.Sound) {g : Filed slot'}
    (hg : g ∈ a.past slot') (change : {k : Kind} → Workload k → Workload k)
    (hns : ∀ {k : Kind} (w : Workload k), (change w).metadata.ns = w.metadata.ns)
    (hname : ∀ {k : Kind} (w : Workload k), (change w).metadata.name = w.metadata.name)
    (hversion : ∀ {k : Kind} (w : Workload k),
      (change w).metadata.resourceVersion = w.metadata.resourceVersion)
    (hwritten : ∀ {k : Kind} (w : Workload k), w.asWritten = w → (change w).asWritten = change w)
    (hbody : e.request.body = .document ((Workload.codec slot'.kind).write (change g.workload))) :
    ∃ old : Filed slot, a.stored slot = some old ∧
      (⟨slot, old⟩ : (slot : Slot) × Filed slot) = ⟨slot', g⟩ ∧
      f.workload = (change old.workload).atVersion f.version := by
  cases h with
  | @replaced _ _ _ _ old w _ _ hstored hread hnames hworkload _ =>
    rw [hbody, Body.document?, Option.bind_some] at hread
    obtain ⟨k, identity⟩ := slot
    obtain ⟨k', identity'⟩ := slot'
    obtain rfl : k' = k := Workload.kind_eq_of_read_write hread
    obtain rfl : w = change g.workload :=
      (Workload.eq_of_read_write hread).trans (hwritten _ g.asWritten_eq)
    have hidentity : identity' = identity := by
      have hns' : f.workload.metadata.ns = g.workload.metadata.ns := hworkload ▸ hns g.workload
      have hname' : f.workload.metadata.name = g.workload.metadata.name :=
        hworkload ▸ hname g.workload
      rw [f.ns_eq, g.ns_eq] at hns'
      rw [f.name_eq, g.name_eq] at hname'
      cases identity
      cases identity'
      cases hns'
      cases hname'
      rfl
    subst hidentity
    rw [hversion, g.version_eq] at hnames
    obtain rfl : g = old := ha.eq_of_version hg (ha.mem_past hstored) (Option.some.inj hnames)
    exact ⟨g, hstored, rfl, hworkload⟩

end Archive

end SecretRotation
