import SecretRotation.Proofs.Api.Recording
import SecretRotation.Watch.Run

/-!
# What comes of a run for a watched secret

A run for a watched secret finds that the secret is not managed, or comes to what a pass over all
kinds comes to.

## Main definitions

* `Outcome.Fits`: an outcome fits the secret of the run.
* `Outcome.Of`: what a run for a secret may come to, whatever the server replies.

## Main results

* `Recording.leaves_attend`, `Outcome.Of.fits`: what a run comes to fits the secret.
-/

namespace SecretRotation

/-! ### What a run can come to -/

/-- A failure with which a pass can end: the secret or a list could not be read, the secret has no
version, or some workloads could not be brought up to date. -/
def Failure.EndsPass : Failure → Prop
  | .workloads _ _ => True
  | failure => failure.OfReading

theorem Failure.endsPass_of_ofReading : {failure : Failure} → failure.OfReading → failure.EndsPass
  | .listing _ _ _, h => h
  | .fetching _ _, h => h
  | .unversioned _, h => h

/-- What a pass comes to, if it fails, is a failure of reading or one of workloads. -/
theorem Surveyed.endsPass {r : SecretRef} {pageSize bound : Nat} {scope : Scope}
    {survey : Except Endless (Except Failure (Target × List Listing))}
    {reads updates : List Exchange} {failure : Failure}
    (h : Surveyed r pageSize bound Gathered scope.readings survey reads)
    (hconcluded : Concluded survey (.ok (.error failure)) updates) : failure.EndsPass := by
  generalize hresult : (Except.ok (.error failure) : Except Endless (Except Failure Report)) =
    result at hconcluded
  cases hconcluded with
  | endless => cases hresult
  | failed =>
    cases hresult
    exact Failure.endsPass_of_ofReading h.ofReading
  | @complete _ _ tally _ _ =>
    have houtcome : tally.outcome = .error failure := (Except.ok.inj hresult).symm
    rcases tally.outcome_cases with hok | herror
    · cases hok.symm.trans houtcome
    · cases herror.symm.trans houtcome
      exact trivial

namespace Outcome

/-- What a run comes to fits the secret it is for: nothing is done exactly if the secret is not
managed, and a failure is one with which a pass can end. -/
def Fits (secret : Secret) : Outcome → Prop
  | .unmanaged => secret.stamp? = none
  | .passed _ => secret.stamp? ≠ none
  | .failed failure => secret.stamp? ≠ none ∧ failure.EndsPass

/-- A run for a secret may come to an outcome: it does so with some server, whatever that replies.
-/
def Of (limit : Option Nat) (secret : Secret) (outcome : Outcome) : Prop :=
  ∃ (σ : Type) (server : ApiServer (ExceptT Endless (StateM σ)))
    (notes : List Exchange → σ → Prop) (pageSize bound : Nat) (es : List Exchange) (s : σ),
    Recording server notes ∧ notes es s ∧
      ((attend (server.access pageSize bound) limit secret).run.run s).1 = .ok outcome

end Outcome

/-- Whatever a server replies, what a run comes to fits the secret. -/
theorem Recording.leaves_attend {σ : Type} {server : ApiServer (ExceptT Endless (StateM σ))}
    {notes : List Exchange → σ → Prop} (h : Recording server notes) (pageSize bound : Nat)
    (limit : Option Nat) (secret : Secret) :
    Leaves notes (fun result _ => ∀ outcome, result = .ok outcome → outcome.Fits secret)
      (attend (server.access pageSize bound) limit secret).run := by
  cases hstamp : secret.stamp? with
  | none =>
    simp only [attend, hstamp]
    refine Silently.bind (h.report _) fun _ => Quietly.leaves (.pure ?_)
    rintro _ ⟨⟩
    exact hstamp
  | some stamp =>
    have hmanaged : secret.stamp? ≠ none := hstamp ▸ Option.some_ne_none stamp
    simp only [attend, hstamp]
    refine Silently.bind (h.report _) fun _ => ?_
    refine (h.leaves_runPass pageSize bound limit .all secret.ref).run_bind ?_ fun _ _ _ => nofun
    rintro result _ ⟨survey, reads, updates, -, hsurveyed, hconcluded⟩
    have hreport : Silently notes
        (reportResult (server.access pageSize bound) secret stamp result) := by
      rcases result with failure | report
      · exact h.report _
      · simp only [reportResult]
        split
        · exact h.report _
        · exact .pure_fine rfl
    refine Silently.bind hreport fun _ => Quietly.leaves (.pure ?_)
    rintro _ ⟨⟩
    rcases result with failure | report
    · exact ⟨hmanaged, hsurveyed.endsPass hconcluded⟩
    · exact hmanaged

theorem Outcome.Of.fits {limit : Option Nat} {secret : Secret} {outcome : Outcome}
    (h : outcome.Of limit secret) : outcome.Fits secret := by
  obtain ⟨σ, server, notes, pageSize, bound, es, s, hrecording, hnotes, hrun⟩ := h
  obtain ⟨_, hfits, -⟩ := hrecording.leaves_attend pageSize bound limit secret es s hnotes
  exact hfits outcome hrun

end SecretRotation
