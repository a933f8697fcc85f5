import QueueBoard.Poll
import QueueBoard.Board.Category
import QueueBoard.Board.Label

/-! # Items of the board

What the board shows of a poll state: a status line and items. Once there are jobs they are shown,
whatever the status is.
-/
namespace QueueBoard

inductive VisualMode
  | mapped
  | plain
deriving DecidableEq, Repr

structure RenderOptions where
  maxLabelLength : Nat
  visualMode : VisualMode
deriving DecidableEq, Repr

def RenderOptions.default : RenderOptions := ⟨Label.defaultLimit, .mapped⟩

/-- A job as it is shown; it has style classes in mapped mode only. -/
structure JobView where
  position : Nat
  label : String
  state : JobState
  category : Category
  style : Option StyleClasses
deriving DecidableEq, Repr

inductive Item
  | loading
  | error (message : String)
  | empty
  | job (view : JobView)
deriving DecidableEq, Repr

namespace Item

def text : Item → String
  | loading => "Loading queue..."
  | error message => "Error loading queue: " ++ message
  | empty => "No cards in queue"
  | job view => view.label

end Item

namespace RenderOptions

def style? (o : RenderOptions) (c : Category) : Option StyleClasses :=
  match o.visualMode with
  | .mapped => some c.style
  | .plain => none

def view (o : RenderOptions) (position : Nat) (job : Job) : JobView where
  position := position
  label := Label.truncate o.maxLabelLength job.name
  state := job.state
  category := .ofState job.state
  style := o.style? (.ofState job.state)

def render (o : RenderOptions) (jobs : Option (List Job)) (status : PollStatus) : List Item :=
  match jobs, status with
  | some [], _ => [.empty]
  | some jobs, _ => jobs.mapIdx (fun position job => .job (o.view position job))
  | none, .loading => [.loading]
  | none, .failed message => [.error message]
  | none, .ready _ => [.empty]

def items (o : RenderOptions) (s : PollState) : List Item := o.render s.jobs s.status

end RenderOptions

def lastUpdatedText (offset : Int) (time : Instant) : String :=
  "Last updated: " ++ time.clockText offset

def statusLine (offset : Int) (status : PollStatus) (lastUpdated : Option Instant) : String :=
  match status, lastUpdated with
  | .failed message, _ => "Error: " ++ message
  | .ready time, _ => lastUpdatedText offset time
  | .loading, some time => lastUpdatedText offset time
  | .loading, none => "Loading..."

def PollState.statusLine (offset : Int) (s : PollState) : String :=
  QueueBoard.statusLine offset s.status s.lastUpdated

end QueueBoard
