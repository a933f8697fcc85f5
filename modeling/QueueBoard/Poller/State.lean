import QueueBoard.Locked
import QueueBoard.Poller.Event
import QueueBoard.Poller.Schedule

/-! # Poller

A poller has at most one active timer. The first tick of a timer is due when the timer first runs; each
tick issues the next cycle. A cycle is answered at once or waits. What is ready runs in its order, then
the ticks that have become due by a jump of the clock, and a completion is applied under the number of
its cycle, which never goes down. Where time has passed smoothly up to a tick, the tick is in front of
what has become ready since. A timer that first runs after the clock has jumped has its tick among those
that are due. The published state is kept under a lock, which is held while the display takes the state.
-/
namespace QueueBoard

/-- How the server answers a cycle. -/
inductive Poller.Scripted
  | now (outcome : Fetch.Outcome)
  | wait

structure Poller.Timer where
  number : Nat
  interval : Nat
  /-- When the next tick is due, once the first one has fallen. -/
  due : Option Nat
  interval_pos : 0 < interval

inductive Poller.Task
  | firstTick (timer : Nat)
  | completion (cycle timer : Nat) (outcome : Fetch.Outcome)

/-- A cycle that waits for its answer. -/
structure Poller.Waiting where
  cycle : Nat
  timer : Nat
deriving DecidableEq, Repr

/-- The published state and the number of the cycle applied last. -/
structure Poller.Published where
  state : PollState
  cycle : Nat

structure Poller where
  clock : Nat
  /-- The time the timers know of; the clock is past it only after a jump. -/
  reached : Nat
  active : Option Poller.Timer
  /-- The number of timers started. -/
  timers : Nat
  /-- The number of cycles issued. -/
  cycles : Nat
  shared : Locked Poller.Published
  waiting : List Poller.Waiting
  ready : List Poller.Task
  dropped : Bool
  /-- The answers of the cycles that have not been issued. -/
  script : List Poller.Scripted
  /-- The notifications, counted from one, during which the display breaks off. -/
  breaks : List Nat
  notices : Nat
  /-- What has happened in this step, latest first. -/
  trace : List Poller.Event

namespace Poller

/-- A poller at a time that has not been started. -/
def new (clock : Nat) (script : List Scripted) (breaks : List Nat) : Poller where
  clock := clock
  reached := clock
  active := none
  timers := 0
  cycles := 0
  shared := ⟨⟨.loading, 0⟩, false⟩
  waiting := []
  ready := []
  dropped := false
  script := script
  breaks := breaks
  notices := 0
  trace := []

def isRunning (p : Poller) : Bool := p.active.isSome

def emit (p : Poller) (e : Event) : Poller := { p with trace := e :: p.trace }

/-- Whether a timer is the active one. -/
def isActive (p : Poller) (timer : Nat) : Bool := p.active.any (·.number = timer)

/-- A tick of a timer that was due at `due`: the next cycle is issued. -/
def issue (p : Poller) (timer due : Nat) : Poller :=
  let cycle := p.cycles + 1
  let q := { p.emit (.issued cycle timer due p.clock) with cycles := cycle, script := p.script.tail }
  match p.script.head? with
  | some (.now outcome) => { q with ready := q.ready ++ [.completion cycle timer outcome] }
  | some .wait => { q with waiting := ⟨cycle, timer⟩ :: q.waiting }
  | none => { q with waiting := ⟨cycle, timer⟩ :: q.waiting }

def published (p : Poller) : PollState := p.shared.recover.state

/-- The number of the cycle applied last. -/
def latest (p : Poller) : Nat := p.shared.recover.cycle

/-- The display takes the published state while the lock is held. If it breaks off, that ends the
task of the cycle and leaves the lock poisoned. -/
def notify (p : Poller) : Poller :=
  let breaksOff := p.breaks.contains (p.notices + 1)
  { p.emit (.notified p.published breaksOff) with
    notices := p.notices + 1
    shared := { p.shared with poisoned := p.shared.poisoned || breaksOff } }

/-- The state after a cycle is published before the display is notified. -/
def publish (p : Poller) (cycle : Nat) (outcome : Fetch.Outcome) : Poller :=
  { p with
    shared :=
      { p.shared with value := ⟨p.published.after (.ofMillis p.clock) outcome, cycle⟩ } }

def verdict (p : Poller) (cycle timer : Nat) : Verdict :=
  if ¬ p.isActive timer then .outlived
  else if cycle < p.latest then .superseded p.latest
  else .applied

def complete (p : Poller) (cycle timer : Nat) (outcome : Fetch.Outcome) : Poller :=
  let q := p.emit (.completed cycle timer p.clock outcome (p.verdict cycle timer))
  match p.verdict cycle timer with
  | .applied => (q.publish cycle outcome).notify
  | _ => q

/-- The first run of a timer, if nothing has ended it before. -/
def firstTick (p : Poller) (timer : Nat) : Poller :=
  match p.active with
  | some t =>
    if t.number = timer then
      if p.reached < p.clock then { p with active := some { t with due := some p.clock } }
      else { p with active := some { t with due := some (p.clock + t.interval) } }.issue timer p.clock
    else p
  | none => p

def perform (p : Poller) : Task → Poller
  | .firstTick timer => p.firstTick timer
  | .completion cycle timer outcome => p.complete cycle timer outcome

/-- Runs what is ready now. -/
def runReady (p : Poller) : Poller := p.ready.foldl perform { p with ready := [] }

/-- Runs what is ready and what becomes ready by that. No completion makes anything ready. -/
def drain (p : Poller) : Poller := p.runReady.runReady

/-- The tick that time has passed up to, if it is left to be done. -/
def wake (p : Poller) : Poller :=
  match p.active with
  | some t =>
    match t.due with
    | some due =>
      if due ≤ p.reached then
        { p with
          active := some { t with due := some (Schedule.nextDue t.interval p.clock due) } }.issue
            t.number due
      else p
    | none => p
  | none => p

/-- The ticks that are due. -/
def fire (p : Poller) : Poller :=
  let p := { p with reached := p.clock }
  match p.active with
  | some t =>
    match t.due with
    | some due =>
      let ticks := Schedule.ticksAt t.interval t.interval_pos p.clock due
      ticks.1.foldl (fun q due => q.issue t.number due)
        { p with active := some { t with due := some ticks.2 } }
    | none => p
  | none => p

/-- Runs until nothing is left to do at the current time. -/
def settle (p : Poller) : Poller := p.wake.drain.fire.drain

def due? (p : Poller) : Option Nat := p.active.bind (·.due)

/-- Lets time pass smoothly; what is due at the end is left to be done. -/
def advance (p : Poller) (target : Nat) : Poller :=
  if p.clock < target then
    let q := p.settle
    match q.due? with
    | some due =>
      if p.clock < due ∧ due < target then advance { q with clock := due, reached := due } target
      else { q with clock := target, reached := target }
    | none => { q with clock := target, reached := target }
  else p
termination_by target - p.clock
decreasing_by omega

def stop (p : Poller) : Poller :=
  if p.isRunning then { p.emit .stopped with active := none } else p

/-- Starts a timer in the place of the active one. -/
def start (p : Poller) (interval : Nat) (h : 0 < interval) : Poller :=
  let q := p.stop
  let number := q.timers + 1
  { q.emit (.started number interval) with
    active := some ⟨number, interval, none, h⟩
    timers := number
    ready := q.ready ++ [.firstTick number] }

def drop (p : Poller) : Poller := { p.stop with dropped := true }

/-- Gives a waiting cycle its answer. -/
def release? (p : Poller) (cycle : Nat) (outcome : Fetch.Outcome) : Option Poller :=
  (p.waiting.find? (·.cycle = cycle)).map (fun w =>
    { p with
      waiting := p.waiting.filter (·.cycle ≠ cycle)
      ready := p.ready ++ [.completion cycle w.timer outcome] })

end Poller
end QueueBoard
