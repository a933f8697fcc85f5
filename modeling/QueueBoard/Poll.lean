import QueueBoard.Job
import QueueBoard.Time.Instant

/-! # Poll states

The state of the board is replaced as a whole after every poll. A failed poll keeps the jobs and the
time of the last success.
-/
namespace QueueBoard

inductive PollStatus
  | loading
  | ready (time : Instant)
  | failed (message : String)
deriving DecidableEq, Repr

structure PollState where
  jobs : Option (List Job)
  status : PollStatus
  lastUpdated : Option Instant
deriving DecidableEq, Repr

namespace PollState

/-- The state before any poll. -/
def loading : PollState := ⟨none, .loading, none⟩

def succeeded (_ : PollState) (jobs : List Job) (time : Instant) : PollState :=
  ⟨some jobs, .ready time, some time⟩

def failed (s : PollState) (message : String) : PollState :=
  ⟨s.jobs, .failed message, s.lastUpdated⟩

def hasSnapshot (s : PollState) : Bool := s.jobs.isSome

end PollState
end QueueBoard
