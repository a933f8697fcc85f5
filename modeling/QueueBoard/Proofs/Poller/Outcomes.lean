import QueueBoard.Proofs.Poller.Notices
import QueueBoard.Proofs.Poller.Store

/-! # Where outcomes come from

A poller comes by outcomes in two ways: from its script and from releases. So what holds of all of these
holds of all outcomes that are applied. If they are failures with one message, the display is told one
state over and over.
-/
namespace QueueBoard.Poller

/-- What all outcomes that a poller has before it are like. -/
structure Expects (p : Poller) (P : Fetch.Outcome → Prop) : Prop where
  script : ∀ outcome, .now outcome ∈ p.script → P outcome
  ready : ∀ cycle timer outcome, .completion cycle timer outcome ∈ p.ready → P outcome

/-- What an outcome that a step brings is like. -/
def Step.Brings (s : Step) (P : Fetch.Outcome → Prop) : Prop :=
  ∀ cycle outcome, s.action = .release cycle outcome → P outcome

variable {P : Fetch.Outcome → Prop}

/-- A poll that is applied is the outcome of a cycle. -/
theorem outcome_of_poll {past : List Event} {poll : Instant × Fetch.Outcome} (h : poll ∈ polls past) :
    ∃ cycle, (cycle, poll.2) ∈ outcomes past := by
  obtain ⟨e, he, hp⟩ := List.mem_filterMap.mp h
  cases e with
  | completed cycle timer clock outcome verdict =>
    cases verdict with
    | applied =>
      cases hp
      exact ⟨cycle, mem_outcomes.mpr ⟨timer, clock, .applied, he⟩⟩
    | _ => cases hp
  | _ => cases hp

namespace Expects
variable {p : Poller} (h : p.Expects P)
include h

theorem of_holds {cycle : Nat} {outcome : Fetch.Outcome} (hh : p.Holds cycle outcome) : P outcome := by
  cases hh with
  | ready timer hr => exact h.ready cycle timer outcome hr
  | scripted i hcycle hs => exact h.script outcome (List.mem_of_getElem? hs)

/-- All outcomes that are applied in a run were in the script or brought by a step. -/
theorem run (hp : p.trace = []) {steps : List Step} (hs : ∀ s ∈ steps, s.Brings P) :
    ∀ poll ∈ polls (p.events steps), P poll.2 := by
  intro poll hpoll
  obtain ⟨cycle, ho⟩ := outcome_of_poll hpoll
  rcases (holds_afterAll_iff hp steps).mp (.inr ho) with hh | ⟨earlier, settles, later, rfl, -⟩
  · exact h.of_holds hh
  · exact hs _ (List.mem_append_right _ List.mem_cons_self) cycle poll.2 rfl

end Expects

end QueueBoard.Poller
