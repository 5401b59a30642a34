import SecretRotation.Proofs.Api.SteadyServer
import SecretRotation.Proofs.Interleaving.Archive
import SecretRotation.Proofs.Store.Commuting

/-!
# Passes at the same time

Several passes run at the same time against one server that checks versions, and others write to the
server as well. The requests of the passes may be interleaved in any way. Each pass sends its
readings one after the other; its updates may overtake each other.

A pass makes its updates from what it has listed, which may be out of date when an update arrives.
Then the version that it names is not the one that is stored, and nothing changes. So an update that
is accepted replaces what it was made from: it changes the two stamps of its secret, and nothing
else that anybody may have written in the meantime.

## Main definitions

* `Plan`, `Plan.Transcript`: a pass, and what it may exchange with a server.
* `InOrder`: in which order a server may answer the requests of a pass.
* `Interleaved`: passes at the same time.

## Main results

* `concurrent_passes_keep_stamps`: what an accepted update changes.
-/

namespace SecretRotation

open Archive (Run Step)

/-! ### Passes -/

/-- A pass that is to be run. -/
structure Plan where
  /-- Which workloads it is about. -/
  scope : Scope
  /-- The secret. -/
  secret : SecretRef
  /-- How many updates may be under way at a time. -/
  limit : Option Nat
  /-- How many workloads are asked for per page. -/
  pageSize : Nat
  /-- How many pages of a list are read at most. -/
  bound : Nat

/-- What a pass may exchange with a server, in the order in which the requests are sent. -/
def Plan.Transcript (p : Plan) (es : List Exchange) : Prop :=
  ∃ (σ : Type) (b : Behaviour σ) (s : σ),
    ((runPass (b.api.access p.pageSize p.bound) p.limit p.scope p.secret).run.run (s, [])).2.2 = es

/-- The order in which a server answers the requests of a pass, as far as it has come. What is read
is asked for one thing after the other; then the updates follow, which may overtake each other. -/
def InOrder (es answered : List Exchange) : Prop :=
  ∃ reads updates, es = reads ++ updates ∧ HaveMethod "GET" reads ∧ HaveMethod "PUT" updates ∧
    (answered <+: reads ∨ ∃ us, us.Subperm updates ∧ answered = reads ++ us)

/-- When an update is answered, all readings have been answered before, in their order. -/
theorem InOrder.of_put {es before after : List Exchange} {e : Exchange}
    (h : InOrder es (before ++ e :: after)) (he : e.request.method = "PUT") :
    ∃ reads updates rest, es = reads ++ updates ∧ HaveMethod "GET" reads ∧
      HaveMethod "PUT" updates ∧ e ∈ updates ∧ before = reads ++ rest := by
  obtain ⟨reads, updates, rfl, hreads, hupdates, h⟩ := h
  have hnot : e ∉ reads := fun hmem => absurd (he.symm.trans (hreads e hmem)) (by decide)
  rcases h with hreading | ⟨us, hus, heq⟩
  · exact absurd (hreading.subset (List.mem_append_right _ List.mem_cons_self)) hnot
  · rcases List.append_eq_append_iff.1 heq with ⟨rest, hrest, hus'⟩ | ⟨rest, hrest, hus'⟩
    · cases rest with
      | nil =>
        rw [List.append_nil] at hrest
        rw [List.nil_append] at hus'
        have hmem : e ∈ us := hus' ▸ List.mem_cons_self
        exact ⟨reads, updates, [], rfl, hreads, hupdates, hus.subset hmem, by
          rw [List.append_nil, hrest]⟩
      | cons x rest =>
        obtain ⟨rfl, -⟩ := List.cons.inj hus'
        exact absurd (hrest ▸ List.mem_append_right _ List.mem_cons_self) hnot
    · have hmem : e ∈ us := hus' ▸ List.mem_append_right _ List.mem_cons_self
      exact ⟨reads, updates, rest, rfl, hreads, hupdates, hus.subset hmem, hrest⟩

/-- Exchanges fall into readings and updates in one way only. -/
theorem eq_of_append_eq_append {reads reads' updates updates' : List Exchange}
    (h : reads ++ updates = reads' ++ updates') (hreads : HaveMethod "GET" reads)
    (hreads' : HaveMethod "GET" reads') (hupdates : HaveMethod "PUT" updates)
    (hupdates' : HaveMethod "PUT" updates') : reads = reads' ∧ updates = updates' := by
  have hget (e : Exchange) (he : e.request.method = "GET") :
      decide (e.request.method = "GET") = true := decide_eq_true he
  have hput (e : Exchange) (he : e.request.method = "PUT") :
      ¬ decide (e.request.method = "GET") = true := by
    rw [he]
    decide
  have hfilter {rs us : List Exchange} (hrs : HaveMethod "GET" rs) (hus : HaveMethod "PUT" us) :
      (rs ++ us).filter (fun e => e.request.method = "GET") = rs := by
    rw [List.filter_append, List.filter_eq_self.2 fun e he => hget e (hrs e he),
      List.filter_eq_nil_iff.2 fun e he => hput e (hus e he), List.append_nil]
  have hsame : reads = reads' := by
    rw [← hfilter hreads hupdates, h, hfilter hreads' hupdates']
  subst hsame
  exact ⟨rfl, List.append_cancel_left h⟩

/-- Passes run at the same time against a server that checks versions, and that delivers secrets
under their own names. -/
structure Interleaved {ι : Type} [DecidableEq ι] (plans : ι → Plan)
    (start : (slot : Slot) → Option (Filed slot)) (ms : List (Incident ι)) : Prop where
  run : ∃ finish, Run (.initial start) ms finish
  inOrder (i : ι) : ∃ es, (plans i).Transcript es ∧ InOrder es (exchangesOf i ms)
  knownAs_eq {i : ι} {secret : Secret}
    (h : Fetched (plans i).secret (exchangesOf i ms) secret) :
    secret.knownAs = (plans i).secret.name

/-! ### Updates of a pass -/

/-- When an update of a pass is answered, the pass has read all it needs, and what it has read has
been answered before. -/
theorem Plan.Transcript.surveyed {p : Plan} {es before after : List Exchange} {e : Exchange}
    (h : p.Transcript es) (hin : InOrder es (before ++ e :: after))
    (he : e.request.method = "PUT") :
    ∃ survey result reads updates rest,
      Surveyed p.secret (max 1 p.pageSize) p.bound Gathered p.scope.readings survey reads ∧
      Concluded survey result updates ∧ e ∈ updates ∧ before = reads ++ rest ∧
      HaveMethod "GET" reads := by
  obtain ⟨σ, b, s, hrun⟩ := h
  obtain ⟨_, ⟨survey, reads, updates, rfl, hsurveyed, hconcluded⟩, hes⟩ :=
    b.recording.leaves_runPass p.pageSize p.bound p.limit p.scope p.secret [] (s, []) rfl
  rw [List.nil_append] at hes
  obtain ⟨reads', updates', rest, hes', hreads', hupdates', hmem, rfl⟩ := hin.of_put he
  obtain ⟨rfl, rfl⟩ := eq_of_append_eq_append ((hes.symm.trans hrun).trans hes')
    hsurveyed.haveMethod hreads' hconcluded.haveMethod hupdates'
  exact ⟨survey, _, reads, updates, rest, hsurveyed, hconcluded, hmem, rfl, hreads'⟩

/-- When an update of a pass is answered, it can be traced back to what the pass has read before. -/
theorem Plan.Transcript.traced {p : Plan} {es before after : List Exchange} {e : Exchange}
    (h : p.Transcript es) (hin : InOrder es (before ++ e :: after))
    (he : e.request.method = "PUT") :
    ∃ reads, (∀ x ∈ reads, x ∈ before ∧ x.request.method = "GET") ∧
      Traced p.secret reads e.request := by
  obtain ⟨survey, result, reads, updates, rest, hsurveyed, hconcluded, hmem, rfl, hreads⟩ :=
    h.surveyed hin he
  exact ⟨reads, fun x hx => ⟨List.mem_append_left _ hx, hreads x hx⟩,
    traced_of_mem_updates hsurveyed hconcluded hmem⟩

/-- A workload that is read from what was stored at some time is what was stored. -/
theorem Carried.exists_past {ι : Type} [DecidableEq ι] {a a' : Archive} {ms : List (Incident ι)}
    (h : Run a ms a') {i : ι} {reads : List Exchange}
    (hreads : ∀ x ∈ reads, x ∈ exchangesOf i ms ∧ x.request.method = "GET") {k : Kind}
    {w : Workload k} (hw : Carried reads w) :
    ∃ slot, ∃ g ∈ a'.past slot, (⟨k, w⟩ : AnyWorkload) = ⟨slot.kind, g.workload⟩ := by
  obtain ⟨x, hx, item, hitem, hread⟩ := hw
  obtain ⟨hx, hmethod⟩ := hreads x hx
  obtain ⟨slot, g, hg, rfl⟩ := h.exists_past hx hmethod hitem
  obtain rfl : slot.kind = k := Workload.kind_eq_of_read_write hread
  obtain rfl : w = g.workload := (Workload.eq_of_read_write hread).trans g.asWritten_eq
  exact ⟨slot, g, hg, rfl⟩

/-- An accepted update that was made from something that has been stored was made from what is
stored. -/
theorem Archive.Step.eq_of_update {ι : Type} {a a' : Archive} {i : ι} {e : Exchange}
    {slot slot' : Slot} {f : Filed slot} {g : Filed slot'} (h : Step a (.replaced i e slot f) a')
    (ha : a.Sound) (hg : g ∈ a.past slot') {t : Target}
    (hreplace : Request.replace (g.workload.stamped t.key t.stamp) = .ok e.request) :
    ∃ old, a.stored slot = some old ∧ (⟨slot, old⟩ : (slot : Slot) × Filed slot) = ⟨slot', g⟩ ∧
      f.workload = (old.workload.stamped t.key t.stamp).atVersion f.version := by
  obtain ⟨_, -, hrequest⟩ := Request.eq_of_replace hreplace
  have hbody : e.request.body =
      .document ((Workload.codec slot'.kind).write (g.workload.stamped t.key t.stamp)) := by
    rw [hrequest]
  exact h.eq_of_replaced ha hg (fun w => w.stamped t.key t.stamp) (fun _ => rfl) (fun _ => rfl)
    (fun _ => rfl) (fun _ hwritten => Workload.asWritten_stamped_of_eq hwritten _ _) hbody

/-- **Passes at the same time do not destroy each other's stamps.** When an update of a pass is
accepted, it changes the workload as it is stored at that moment in nothing but the version and the
two annotations under the key of the secret of the pass. Both of them then say the version at which
the pass has fetched the secret, and the stamps of all other secrets are as they were. -/
theorem concurrent_passes_keep_stamps {ι : Type} [DecidableEq ι] {plans : ι → Plan}
    {start : (slot : Slot) → Option (Filed slot)} {before after : List (Incident ι)} {i : ι}
    {e : Exchange} {slot : Slot} {f : Filed slot}
    (h : Interleaved plans start (before ++ .replaced i e slot f :: after)) :
    ∃ (a : Archive) (old : Filed slot) (secret : Secret) (stamp : Stamp),
      Run (.initial start) before a ∧ a.stored slot = some old ∧
      Fetched (plans i).secret (exchangesOf i before) secret ∧ secret.stamp? = some stamp ∧
      (old.workload.atVersion f.version).SameBut (stampKey (plans i).secret.name) f.workload ∧
      f.workload.stamp? (stampKey (plans i).secret.name) = some stamp ∧
      f.workload.templateStamp? (stampKey (plans i).secret.name) = some stamp ∧
      ∀ name, name ≠ (plans i).secret.name →
        f.workload.stamp? (stampKey name) = old.workload.stamp? (stampKey name) ∧
        f.workload.templateStamp? (stampKey name) = old.workload.templateStamp? (stampKey name) := by
  obtain ⟨finish, hrun⟩ := h.run
  obtain ⟨a, a', hbefore, hstep, -⟩ := hrun.exists_step
  have hput : e.request.method = "PUT" := by
    cases hstep with
    | replaced hmethod _ _ _ _ _ _ => exact hmethod
  obtain ⟨es, htranscript, hin⟩ := h.inOrder i
  rw [exchangesOf_append_replaced] at hin
  obtain ⟨reads, hreads, k, w, secret, t, hcarried, ⟨x, hx, hsecret⟩, htarget, -, hconsumes, -,
    hreplace⟩ := htranscript.traced hin hput
  have hfetched : Fetched (plans i).secret (exchangesOf i before) secret :=
    ⟨x, (hreads x hx).1, hsecret⟩
  have hname : secret.knownAs = (plans i).secret.name := by
    refine h.knownAs_eq ⟨x, ?_, hsecret⟩
    rw [exchangesOf_append_replaced]
    exact List.mem_append_left _ (hreads x hx).1
  obtain ⟨slot', g, hg, hw⟩ := hcarried.exists_past hbefore hreads
  cases hw
  obtain ⟨old, hstored, hold, hworkload⟩ :=
    hstep.eq_of_update (hbefore.sound (Archive.sound_initial start)) hg hreplace
  obtain ⟨stamp, hstamp, rfl⟩ := Option.map_eq_some_iff.1 htarget
  cases hold
  have hspec : (old.workload.atVersion f.version).spec.isSome :=
    Workload.isSome_spec_of_consumes hconsumes
  have hsame : (old.workload.atVersion f.version).SameBut (stampKey secret.knownAs) f.workload := by
    rw [hworkload]
    exact Workload.sameBut_stamped hspec _ _
  have hcurrent : f.workload.IsCurrent ⟨secret.knownAs, stamp⟩ := by
    rw [hworkload]
    exact Workload.isCurrent_stamped old.workload ⟨secret.knownAs, stamp⟩
  rw [← hname]
  exact ⟨a, old, secret, stamp, hbefore, hstored, hfetched, hstamp, hsame, hcurrent.1, hcurrent.2,
    fun name hname => hsame.stamps_eq fun hkey => hname (stampKey_injective hkey)⟩

/-! ### A sample of two passes at the same time -/

theorem Plan.transcript_of_offers {answer : Request → Reply} {scope : Scope} {r : SecretRef}
    {secret : Secret} {t : Target} {ws : (k : Kind) → List (Workload k)}
    (h : Offers answer scope r 1 secret t ws) (limit : Option Nat) :
    (Plan.mk scope r limit 1 1).Transcript (scope.exchanges answer r 1 t ws) :=
  ⟨Unit, .steady answer, (), h.transcript rfl _ limit⟩

namespace Sample

/-- The place of a deployment. -/
def webSlot : Slot := ⟨.deployment, ⟨"prod", "web"⟩⟩

/-- A single deployment is stored at first. -/
def startingWith (f : Filed webSlot) : (slot : Slot) → Option (Filed slot) :=
  Function.update (fun _ => none) webSlot (some f)

theorem stored_startingWith (f : Filed webSlot) : startingWith f webSlot = some f :=
  Function.update_self ..

theorem past_startingWith (f : Filed webSlot) :
    (Archive.initial (startingWith f)).past webSlot = [f] :=
  congrArg Option.toList (stored_startingWith f)

/-- A deployment that consumes two secrets, as it is stored at first. -/
def sharedFirst : Filed webSlot := ⟨sharedConsumer.atVersion "1", "1", rfl, rfl, rfl, rfl⟩

/-- The deployment with the stamps of one of the two secrets. -/
def sharedSecond : Filed webSlot :=
  ⟨(sharedFirst.workload.stamped (stampKey "db") ⟨"v2"⟩).atVersion "2", "2", rfl, rfl, rfl, rfl⟩

/-- What two passes are told: the first one is told that its update is accepted, the second one that
somebody else was faster. -/
def sharedAnswer : Bool → Request → Reply
  | true => offering (managedSecret "prod" "db" "v2") sharedFirst.workload
      (.response 200 (.document sharedSecond.document))
  | false => offering (managedSecret "prod" "cache" "v7") sharedFirst.workload
      (.response 409 (.document (status 409 "Conflict" "the object has been modified")))

/-- The secret that a pass is about. -/
def sharedRef (i : Bool) : SecretRef := ⟨"prod", if i then "db" else "cache"⟩

/-- The version at which a pass finds its secret. -/
def sharedTarget : Bool → Target
  | true => ⟨"db", ⟨"v2"⟩⟩
  | false => ⟨"cache", ⟨"v7"⟩⟩

theorem offers_shared (i : Bool) :
    ∃ secret, Offers (sharedAnswer i) (.only .deployment) (sharedRef i) 1 secret (sharedTarget i)
      (alone sharedFirst.workload) ∧ secret.knownAs = (sharedRef i).name := by
  cases i with
  | true =>
    exact ⟨_, offers_offering _ (target?_managedSecret ..) rfl isName_db _, rfl⟩
  | false =>
    have hcache : IsName "cache" := .of_all (by decide) (by decide) (by decide)
    exact ⟨_, offers_offering _ (target?_managedSecret ..) rfl hcache _, rfl⟩

theorem optsIn_sharedFirst : sharedFirst.workload.optsIn = true :=
  beq_iff_eq.2 (annotation?_consumer "prod" "web" "db")

theorem exchanges_shared (i : Bool) :
    (Scope.only .deployment).exchanges (sharedAnswer i) (sharedRef i) 1 (sharedTarget i)
        (alone sharedFirst.workload) =
      [listed (sharedAnswer i) .deployment, fetched (sharedAnswer i) (sharedRef i),
        updated (sharedAnswer i) sharedFirst.workload (sharedTarget i)] := by
  have hconsumes : sharedFirst.workload.consumes (sharedTarget i).name = true := by
    refine List.contains_iff_mem.2 (?_ : (sharedTarget i).name ∈ ["db", "cache"])
    cases i <;> decide
  have hcurrent : ¬ sharedFirst.workload.IsCurrent (sharedTarget i) := by
    rintro ⟨-, htemplate⟩
    cases htemplate
  exact exchanges_only _ _ optsIn_sharedFirst hconsumes hcurrent rfl

/-- The two passes. -/
def sharedPlan (i : Bool) : Plan := ⟨.only .deployment, sharedRef i, none, 1, 1⟩

/-- What happens before the update of the first pass: both passes list the deployment, and each of
them fetches its secret. -/
def sharedBefore : List (Incident Bool) :=
  [.answered false (listed (sharedAnswer false) .deployment),
    .answered true (listed (sharedAnswer true) .deployment),
    .answered true (fetched (sharedAnswer true) (sharedRef true)),
    .answered false (fetched (sharedAnswer false) (sharedRef false))]

/-- The update of the first pass. -/
def sharedUpdate : Incident Bool :=
  .replaced true (updated (sharedAnswer true) sharedFirst.workload (sharedTarget true)) webSlot
    sharedSecond

/-- What happens afterwards: the second pass asks for its update. -/
def sharedAfter : List (Incident Bool) :=
  [.answered false (updated (sharedAnswer false) sharedFirst.workload (sharedTarget false))]

/-- A server that offers what it has stored may answer so. -/
theorem step_offering {ι : Type} {a : Archive} {f : Filed webSlot} (hf : f ∈ a.past webSlot) (i : ι)
    (secret : Secret) (update : Reply) (request : Request) :
    Step a (.answered i (exchangeBy (offering secret f.workload update) request)) a := by
  refine .answered fun hmethod item hitem => ⟨webSlot, f, hf, ?_⟩
  have hget : request.method ≠ "PUT" := fun hput => absurd (hput.symm.trans hmethod) (by decide)
  exact eq_of_mem_items_offeringDocument hget hitem

/-- The update of a deployment as it is stored may be accepted, if the version is a new one. -/
theorem step_updated {ι : Type} {a : Archive} {f g : Filed webSlot}
    (hstored : a.stored webSlot = some f) (hfresh : a.Fresh webSlot g.version) {t : Target}
    (hg : g.workload = (f.workload.stamped t.key t.stamp).atVersion g.version) (i : ι)
    (answer : Request → Reply) :
    Step a (.replaced i (updated answer f.workload t) webSlot g) (a.store webSlot g) := by
  have hwritten := Workload.asWritten_stamped_of_eq f.asWritten_eq t.key t.stamp
  have hread := Json.Codec.Settles.read_write (c := Workload.codec webSlot.kind)
    (f.workload.stamped t.key t.stamp)
  refine .replaced rfl ?_ hstored (hread.trans (congrArg some hwritten)) f.version_eq hg hfresh
  exact congrArg (fun identity => Slot.path ⟨.deployment, identity⟩) f.identity_eq

theorem step_sharedAnswer {a : Archive} (ha : sharedFirst ∈ a.past webSlot) (i : Bool)
    (request : Request) : Step a (.answered i (exchangeBy (sharedAnswer i) request)) a := by
  cases i <;> exact step_offering ha _ _ _ _

theorem exchangesOf_shared (i : Bool) :
    exchangesOf i (sharedBefore ++ sharedUpdate :: sharedAfter) =
      [listed (sharedAnswer i) .deployment, fetched (sharedAnswer i) (sharedRef i),
        updated (sharedAnswer i) sharedFirst.workload (sharedTarget i)] := by
  cases i <;> rfl

/-- The update of the first pass is accepted, and nothing else is stored. -/
theorem run_shared : ∃ finish, Run (.initial (startingWith sharedFirst))
    (sharedBefore ++ sharedUpdate :: sharedAfter) finish := by
  have hpast : sharedFirst ∈ (Archive.initial (startingWith sharedFirst)).past webSlot := by
    rw [past_startingWith]
    exact List.mem_cons_self
  have hfresh : (Archive.initial (startingWith sharedFirst)).Fresh webSlot "2" := by
    intro g hg
    rw [past_startingWith] at hg
    rw [List.mem_singleton.1 hg]
    decide
  have hread := step_sharedAnswer hpast
  have hlate := step_sharedAnswer (Archive.mem_past_store sharedSecond hpast)
  exact ⟨_, .cons (hread _ _) (.cons (hread _ _) (.cons (hread _ _) (.cons (hread _ _)
    (.cons (step_updated (stored_startingWith sharedFirst) hfresh rfl _ _)
      (.cons (hlate _ _) (.nil _))))))⟩

theorem interleaved_shared : Interleaved sharedPlan (startingWith sharedFirst)
    (sharedBefore ++ sharedUpdate :: sharedAfter) where
  run := run_shared
  inOrder i := by
    obtain ⟨secret, hoffers, -⟩ := offers_shared i
    refine ⟨_, Plan.transcript_of_offers hoffers none, [_, _], [_], exchanges_shared i, ?_, ?_,
      .inr ⟨[_], .refl _, exchangesOf_shared i⟩⟩
    · exact List.forall_mem_cons.2 ⟨rfl, List.forall_mem_singleton.2 rfl⟩
    · exact List.forall_mem_singleton.2 rfl
  knownAs_eq {i secret} h := by
    obtain ⟨offered, hoffers, hname⟩ := offers_shared i
    rw [exchangesOf_shared] at h
    rw [hoffers.eq_of_fetched (answeredBy_map _ [_, _, _]) h, hname]
    rfl

/-- The accepted update leaves the stamps for the other secret as they were. -/
theorem stamps_shared_of_update :
    ∃ (a : Archive) (old : Filed webSlot),
      Run (.initial (startingWith sharedFirst)) sharedBefore a ∧ a.stored webSlot = some old ∧
      (old.workload.atVersion "2").SameBut (stampKey "db") sharedSecond.workload ∧
      sharedSecond.workload.stamp? (stampKey "cache") = old.workload.stamp? (stampKey "cache") := by
  obtain ⟨a, old, secret, stamp, hrun, hstored, -, -, hsame, -, -, hothers⟩ :=
    concurrent_passes_keep_stamps interleaved_shared
  exact ⟨a, old, hrun, hstored, hsame, (hothers "cache" (by decide)).1⟩

end Sample

end SecretRotation
