import QueueBoard.Fetch.Failure
import QueueBoard.Poll

/-! # Outcomes of a fetch -/
namespace QueueBoard

abbrev Fetch.Outcome := Except Failure (List Job)

/-- The poll state after a poll that ended at a time. -/
def PollState.after (s : PollState) (time : Instant) : Fetch.Outcome → PollState
  | .ok jobs => s.succeeded jobs time
  | .error failure => s.failed failure.message

end QueueBoard
