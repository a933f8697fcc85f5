import QueueBoard.Fetch.Jobs
import QueueBoard.Screen.Display

/-! # Sessions

A session changes a poll state step by step and draws it after each change, on one display. Nothing of
a drawing that failed is carried over to the next one.
-/
namespace QueueBoard

structure Session where
  display : Display
  state : PollState

namespace Session

inductive Change
  | loading
  | redraw
  | succeeded (jobs : List Job) (time : Instant)
  | failed (message : String)
  | set (state : PollState)
  | fetch (endpoint : String) (answer : Http.Answer) (time : Instant)

structure Step where
  change : Change
  faults : Faults

def Change.apply (s : PollState) : Change → PollState
  | loading => .loading
  | redraw => s
  | succeeded jobs time => s.succeeded jobs time
  | failed message => s.failed message
  | set state => state
  | fetch endpoint answer time => s.after time (Fetch.jobs endpoint answer)

def Change.fetched : Change → Option Fetch.Outcome
  | fetch endpoint answer _ => some (Fetch.jobs endpoint answer)
  | _ => none

/-- What a step leaves behind. -/
structure Record where
  state : PollState
  statusLine : String
  items : List Item
  drawing : Drawing
  fetched : Option Fetch.Outcome

/-- A session before its first step. -/
def new (v : View) : Session := ⟨.new v, .loading⟩

def step (session : Session) (s : Step) : Session × Record :=
  let view := session.display.view
  let state := s.change.apply session.state
  let drawn := session.display.draw s.faults state
  (⟨drawn.1, state⟩,
    { state
      statusLine := state.statusLine view.offset
      items := view.options.items state
      drawing := drawn.2
      fetched := s.change.fetched })

def records (session : Session) : List Step → List Record
  | [] => []
  | s :: steps => (session.step s).2 :: records (session.step s).1 steps

/-- The session after all steps. -/
def afterAll (session : Session) (steps : List Step) : Session :=
  steps.foldl (fun session s => (session.step s).1) session

def run (v : View) (steps : List Step) : List Record := (new v).records steps

end Session
end QueueBoard
