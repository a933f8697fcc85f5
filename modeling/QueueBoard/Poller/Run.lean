import QueueBoard.Poller.State

/-! # Runs of a poller

A run is a list of steps, each of which has an answer. After a step the poller settles, unless the
step says that nothing is to run yet.
-/
namespace QueueBoard.Poller

inductive Action
  | start (interval : Nat)
  | stop
  | drop
  | wait (ms : Nat)
  | stall (ms : Nat)
  | release (cycle : Nat) (outcome : Fetch.Outcome)

structure Step where
  action : Action
  settles : Bool

inductive StartError
  | zeroInterval
deriving DecidableEq, Repr

def StartError.message : StartError → String
  | zeroInterval => "poll interval must be greater than 0"

/-- What a step shows. A poller that has been dropped shows neither a state nor whether it runs. -/
structure Answer where
  running : Option Bool
  state : Option PollState
  fetches : Nat
  /-- In the order in which they happened. -/
  trace : List Event
  startError : Option StartError
  released : Option Bool

namespace Answer

def notices (a : Answer) : List PollState := a.trace.filterMap Event.notice?

def log (a : Answer) : List LogLine := a.trace.filterMap Event.log?

end Answer

/-- The poller after an action. A start without an interval and all starts and stops of a dropped
poller change nothing. -/
def act (p : Poller) : Action → Poller
  | .start interval =>
    if p.dropped then p else if h : 0 < interval then p.start interval h else p
  | .stop => if p.dropped then p else p.stop
  | .drop => p.drop
  | .wait ms => p.advance (p.clock + ms)
  | .stall ms => { p with clock := p.clock + ms }
  | .release cycle outcome => (p.release? cycle outcome).getD p

def startError? (p : Poller) : Action → Option StartError
  | .start interval => if p.dropped ∨ 0 < interval then none else some .zeroInterval
  | _ => none

def released? (p : Poller) : Action → Option Bool
  | .release cycle outcome => some (p.release? cycle outcome).isSome
  | _ => none

def answer (p q : Poller) (action : Action) : Answer where
  running := if q.dropped then none else some q.isRunning
  state := if q.dropped then none else some q.published
  fetches := q.cycles
  trace := q.trace.reverse
  startError := p.startError? action
  released := p.released? action

/-- The poller after a step, with its trace handed over to the answer. -/
def step (p : Poller) (s : Step) : Poller × Answer :=
  let q := p.act s.action
  let q := if s.settles then q.settle else q
  ({ q with trace := [] }, p.answer q s.action)

def run (p : Poller) : List Step → List Answer
  | [] => []
  | s :: steps => (p.step s).2 :: run (p.step s).1 steps

/-- The poller after all steps. -/
def afterAll (p : Poller) (steps : List Step) : Poller := steps.foldl (fun q s => (q.step s).1) p

/-- All that happens in a run. -/
def events (p : Poller) (steps : List Step) : List Event := (p.run steps).flatMap (·.trace)

end QueueBoard.Poller
