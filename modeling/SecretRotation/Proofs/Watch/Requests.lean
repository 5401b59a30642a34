import SecretRotation.Proofs.OrderedMap
import SecretRotation.Watch.Schedule

/-!
# What changes in a watch

What is asked for, what is due, and what the operations on a watch leave as it is. An operation is
about one secret; for all others nothing changes but that time may pass.

## Main definitions

* `Sighting.key`: the key of the secret that is seen.
* `Watch.SameFor`: a watch has changed in nothing that is about a secret.

## Main results

* `Watch.mem_due_iff`: what is due.
* `Watch.begin_eq_some`, `Watch.begin_eq_none`: what it means to take up a request.
* `Watch.get?_finish`: what is asked for after a run.
* `Watch.SameFor.mem_due`: what is due remains so while the watch is busy with other secrets.
-/

namespace SecretRotation

/-- The key of the secret that is seen. -/
def Sighting.key : Sighting → WatchKey
  | .applied secret => secret.watchKey
  | .deleted secret => secret.watchKey

namespace Watch

variable {w : Watch} {key key' : WatchKey}

/-- A request is for no later moment than the one asked for, and no earlier one is lost. -/
theorem get?_request_self (w : Watch) (key : WatchKey) (moment : Nat) :
    (w.request key moment).requests.get? key =
      some (min moment ((w.requests.get? key).getD moment)) :=
  (OrderedMap.get?_insert ..).trans (if_pos rfl)

theorem get?_request_of_ne (h : key' ≠ key) (moment : Nat) :
    (w.request key moment).requests.get? key' = w.requests.get? key' :=
  (OrderedMap.get?_insert ..).trans (if_neg h)

/-- The secrets that are due are those with a request that is not to wait any longer. -/
theorem mem_due_iff : key ∈ w.due ↔
    key ∉ w.running ∧ ∃ moment, w.requests.get? key = some moment ∧ moment ≤ w.now := by
  constructor
  · intro h
    obtain ⟨⟨key, moment⟩, he, rfl⟩ := List.mem_map.1 h
    obtain ⟨he, hdue⟩ := List.mem_filter.1 he
    obtain ⟨hmoment, hrunning⟩ := Bool.and_eq_true_iff.1 hdue
    refine ⟨fun hmem => ?_, moment, OrderedMap.mem_entries_iff.1 he, of_decide_eq_true hmoment⟩
    rw [List.contains_iff_mem.2 hmem] at hrunning
    cases hrunning
  · rintro ⟨hrunning, moment, hrequest, hmoment⟩
    refine List.mem_map.2 ⟨(key, moment), List.mem_filter.2
      ⟨OrderedMap.mem_entries_iff.2 hrequest, Bool.and_eq_true_iff.2 ⟨decide_eq_true hmoment, ?_⟩⟩,
      rfl⟩
    rw [Bool.eq_false_iff.2 (mt List.contains_iff_mem.1 hrunning)]
    rfl

/-- A run that begins is on the latest object of its secret, if there is one. -/
theorem begin_eq_some {object : Secret} {after : Watch}
    (h : w.begin key = (some object, after)) :
    w.object? key = some object ∧
      after = { w with requests := w.requests.erase key, running := key :: w.running } := by
  rw [Watch.begin] at h
  split at h
  next => cases h
  next found hfound =>
    cases h
    exact ⟨hfound, rfl⟩

/-- A run that has failed asks for another one, no later than after the delay. -/
theorem get?_finish (w : Watch) (key : WatchKey) (failed : Bool) :
    (w.finish key failed).requests.get? key =
      if failed then
        some (min (w.now + retryDelay) ((w.requests.get? key).getD (w.now + retryDelay)))
      else w.requests.get? key := by
  cases failed with
  | true => exact get?_request_self { w with running := w.running.erase key } key _
  | false => rfl

theorem running_finish (w : Watch) (key : WatchKey) (failed : Bool) :
    (w.finish key failed).running = w.running.erase key := by
  cases failed <;> rfl

theorem begin_eq_none {after : Watch} (h : w.begin key = (none, after)) :
    w.object? key = none ∧ after = { w with requests := w.requests.erase key } := by
  rw [Watch.begin] at h
  split at h
  next hnone =>
    cases h
    exact ⟨hnone, rfl⟩
  next => cases h

/-- A watch has changed in nothing that is about a secret, but time may have passed. -/
structure SameFor (key : WatchKey) (w w' : Watch) : Prop where
  cache_eq : w'.cache.get? key = w.cache.get? key
  requests_eq : w'.requests.get? key = w.requests.get? key
  running_iff : key ∈ w'.running ↔ key ∈ w.running
  now_le : w.now ≤ w'.now

theorem SameFor.trans {w' w'' : Watch} (h : SameFor key w w') (h' : SameFor key w' w'') :
    SameFor key w w'' :=
  ⟨h'.cache_eq.trans h.cache_eq, h'.requests_eq.trans h.requests_eq,
    h'.running_iff.trans h.running_iff, Nat.le_trans h.now_le h'.now_le⟩

theorem SameFor.mem_due {w' : Watch} (h : SameFor key w w') (hdue : key ∈ w.due) :
    key ∈ w'.due := by
  obtain ⟨hrunning, moment, hrequest, hle⟩ := mem_due_iff.1 hdue
  exact mem_due_iff.2 ⟨mt h.running_iff.1 hrunning, moment, h.requests_eq.trans hrequest,
    Nat.le_trans hle h.now_le⟩

theorem nodup_due (w : Watch) : w.due.Nodup :=
  w.requests.nodup_keys.sublist (List.filter_sublist.map Prod.fst)

theorem sameFor_observe {s : Sighting} (h : key ≠ s.key) : SameFor key w (w.observe s) := by
  cases s with
  | applied secret =>
    exact ⟨(OrderedMap.get?_insert ..).trans (if_neg h), get?_request_of_ne h _, .rfl,
      Nat.le_refl _⟩
  | deleted secret => exact ⟨(OrderedMap.get?_erase ..).trans (if_neg h), rfl, .rfl, Nat.le_refl _⟩

theorem sameFor_advance (moment : Nat) : SameFor key w (w.advance moment) :=
  ⟨rfl, rfl, .rfl, Nat.le_max_left ..⟩

theorem sameFor_begin (h : key ≠ key') : SameFor key w (w.begin key').2 := by
  have hrequests : (w.requests.erase key').get? key = w.requests.get? key :=
    (OrderedMap.get?_erase ..).trans (if_neg h)
  rw [Watch.begin]
  split
  next => exact ⟨rfl, hrequests, .rfl, Nat.le_refl _⟩
  next => exact ⟨rfl, hrequests, List.mem_cons.trans (or_iff_right h), Nat.le_refl _⟩

theorem sameFor_of_begin {found : Option Secret} {after : Watch}
    (hbegin : w.begin key' = (found, after)) (h : key ≠ key') : SameFor key w after := by
  have hsame := sameFor_begin (w := w) h
  rw [hbegin] at hsame
  exact hsame

theorem sameFor_finish (h : key ≠ key') (failed : Bool) : SameFor key w (w.finish key' failed) := by
  cases failed with
  | true => exact ⟨rfl, get?_request_of_ne h _, List.mem_erase_of_ne h, Nat.le_refl _⟩
  | false => exact ⟨rfl, rfl, List.mem_erase_of_ne h, Nat.le_refl _⟩

end Watch

end SecretRotation
