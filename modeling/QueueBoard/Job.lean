/-! # Jobs

A job has a name and a state. The server writes four states by name; any other name is a state the
board does not know.
-/
namespace QueueBoard

inductive JobState
  | queued
  | processing
  | done
  | failed
  | unknown
deriving DecidableEq, Repr

structure Job where
  name : String
  state : JobState
deriving DecidableEq, Repr

namespace JobState

def ofWire (name : String) : JobState :=
  if name = "queue" then queued
  else if name = "process" then processing
  else if name = "done" then done
  else if name = "failed" then failed
  else unknown

/-- The name the server uses for a state the board knows. -/
def wire? : JobState → Option String
  | queued => some "queue"
  | processing => some "process"
  | done => some "done"
  | failed => some "failed"
  | unknown => none

theorem ofWire_eq_of_wire? {state : JobState} {name : String} (h : state.wire? = some name) :
    ofWire name = state := by
  cases state <;> simp only [wire?, Option.some.injEq, reduceCtorEq] at h <;> subst h <;> decide

end JobState
end QueueBoard
