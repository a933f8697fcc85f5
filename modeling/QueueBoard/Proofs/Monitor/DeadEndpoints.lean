import QueueBoard.Proofs.Fetch.Classes
import QueueBoard.Proofs.Fetch.Messages
import QueueBoard.Proofs.Poller.Prompt
import QueueBoard.Proofs.Screen.Lines

/-! # Dead endpoints

A monitor ends before it draws anything, or its poller starts and the loading state is drawn first. As
long as no fetch gets a reply, one frame is drawn over and over: what goes wrong follows from the endpoint
alone, and without jobs neither the label limit nor the visual mode takes part in the drawing. No message
has a line feed, so the empty lines of the transcript are those between its frames.
-/
namespace QueueBoard.Monitor

/-- No fetch of a run gets a reply to its first request. -/
structure Unanswered (endpoint : String) (answers : List (Option Http.Answer)) (turns : List Turn) :
    Prop where
  scripted : ∀ answer, some answer ∈ answers → Fetch.firstReply? endpoint answer = none
  released : ∀ cycle answer, .answered cycle answer ∈ turns → Fetch.firstReply? endpoint answer = none

section Frames
variable (color : Bool)

end Frames

section Starts
variable {env : Environment} {s : Settings}

variable (color : Bool) (clock : Nat) (answers : List (Option Http.Answer)) (turns : List Turn)

/-- What the poller of a monitor does once it has started. -/
def eventsOf (s : Settings) : List Poller.Event := (poller s clock answers).events (steps s turns)

def pollsOf (s : Settings) : List (Instant × Fetch.Outcome) :=
  Poller.polls (eventsOf clock answers turns s)

end Starts

section Outage
variable {env : Environment} {s : Settings} {answers : List (Option Http.Answer)} {turns : List Turn}

/-- The outcome of every fetch of a run without replies. -/
theorem outcome_of_poll (h : Unanswered (Endpoint.trim s.queueUrl) answers turns) (clock : Nat) :
    ∀ poll ∈ pollsOf clock answers turns s,
      poll.2 = .error (.network (Fetch.silence (Endpoint.trim s.queueUrl))) := by
  refine Poller.Expects.run (P := (· = _)) ⟨?_, fun _ _ _ hr => absurd hr List.not_mem_nil⟩ rfl ?_
  · intro outcome houtcome
    obtain ⟨answer, hanswer, hscripted⟩ := List.mem_map.mp houtcome
    cases answer with
    | none => cases hscripted
    | some answer =>
      obtain rfl := Poller.Scripted.now.inj hscripted
      exact Fetch.jobs_of_silence (h.scripted answer hanswer)
  · intro step hstep cycle outcome hrelease
    rcases List.mem_cons.mp hstep with rfl | hturn
    · cases hrelease
    · obtain ⟨turn, hmem, rfl⟩ := List.mem_map.mp hturn
      cases turn with
      | wait | stall => cases hrelease
      | answered cycle' answer =>
        obtain ⟨rfl, rfl⟩ := Poller.Action.release.inj hrelease
        exact Fetch.jobs_of_silence (h.released _ answer hmem)

end Outage

section Waits
variable {s : Settings} {answers : List Http.Answer} {waits : List Nat}

end Waits

end QueueBoard.Monitor
