import QueueBoard.Job

/-! # Categories

A job is drawn by its category. A job whose state the board does not know is drawn as queued.
-/
namespace QueueBoard

inductive Category
  | queued
  | processing
  | done
  | failed
deriving DecidableEq, Repr

/-- The style classes of a category. -/
structure StyleClasses where
  wrapper : String
  job : String
  animation : String
deriving DecidableEq, Repr

namespace Category

def ofState : JobState → Category
  | .queued => queued
  | .processing => processing
  | .done => done
  | .failed => failed
  | .unknown => queued

def key : Category → String
  | queued => "queue"
  | processing => "process"
  | done => "done"
  | failed => "failed"

def style (c : Category) : StyleClasses where
  wrapper := "queue-item job-" ++ c.key ++ "-wrapper"
  job := "job-" ++ c.key
  animation := "job-" ++ c.key ++ "-animation"

/-- A state the board knows has the key it is sent by. -/
theorem key_ofState_of_wire? {state : JobState} {name : String} (h : state.wire? = some name) :
    (ofState state).key = name := by
  cases state <;> simp only [JobState.wire?, Option.some.injEq, reduceCtorEq] at h <;> exact h

end Category
end QueueBoard
