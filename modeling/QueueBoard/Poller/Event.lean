import QueueBoard.Fetch.Outcome
import QueueBoard.Log
import QueueBoard.Time.Span

/-! # Events of a poller

Every cycle is issued once and completed at most once. A completion is applied, or it comes after the
end of its timer, or after that of a later cycle.
-/
namespace QueueBoard.Poller

inductive Verdict
  | applied
  | outlived
  | superseded (latest : Nat)
deriving DecidableEq, Repr

inductive Event
  | started (timer interval : Nat)
  | stopped
  /-- A tick that was due at `due` ran at `clock`. -/
  | issued (cycle timer due clock : Nat)
  | completed (cycle timer clock : Nat) (outcome : Fetch.Outcome) (verdict : Verdict)
  /-- A poll state given to the display, and whether the display broke off after taking it. -/
  | notified (state : PollState) (brokeOff : Bool)

namespace Event

def completionLog (cycle : Nat) (outcome : Fetch.Outcome) : Verdict → LogLine
  | .outlived => ⟨.debug, "Discarding result of poll cycle " ++ toString cycle ++ " after stop"⟩
  | .superseded latest =>
    ⟨.debug, "Discarding result of poll cycle " ++ toString cycle ++ " (cycle " ++ toString latest
      ++ " already applied)"⟩
  | .applied =>
    match outcome with
    | .ok jobs =>
      ⟨.debug, "Poll cycle " ++ toString cycle ++ " fetched " ++ toString jobs.length ++ " job(s)"⟩
    | .error failure =>
      ⟨.warn, "Poll cycle " ++ toString cycle ++ " failed: " ++ failure.message⟩

def log? : Event → Option LogLine
  | started _ interval => some ⟨.info, "Starting queue poller (interval: " ++ Span.text interval ++ ")"⟩
  | stopped => some ⟨.info, "Queue poller stopped"⟩
  | issued cycle _ _ _ => some ⟨.debug, "Starting poll cycle " ++ toString cycle⟩
  | completed cycle _ _ outcome verdict => some (completionLog cycle outcome verdict)
  | notified _ _ => none

def notice? : Event → Option PollState
  | notified state _ => some state
  | _ => none

end Event
end QueueBoard.Poller
