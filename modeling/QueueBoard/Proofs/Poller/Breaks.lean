import Mathlib.Data.List.Forall2
import QueueBoard.Proofs.Poller.Passing
import QueueBoard.Proofs.Poller.Runs

/-! # Displays that break off

A poller is steadied by taking its lock over unpoisoned and telling a display that never breaks off. The
state and the number of the cycle are complete before the display is told, and whoever takes the lock
recovers them. So to steady a poller before an operation or after it comes to the same thing, and where
the display broke off shows in no answer.
-/
namespace QueueBoard.Poller

/-- The event, as if the display had not broken off. -/
def Event.steady : Event → Event
  | .notified state _ => .notified state false
  | e => e

@[simp] theorem Event.notice?_steady (e : Event) : e.steady.notice? = e.notice? := by
  cases e <;> rfl

@[simp] theorem Event.log?_steady (e : Event) : e.steady.log? = e.log? := by
  cases e <;> rfl

/-- The poller, as if the display never broke off. -/
def steady (p : Poller) : Poller :=
  { p with
    shared := ⟨p.shared.recover, false⟩
    breaks := []
    trace := p.trace.map Event.steady }

section Operations
variable (p : Poller)

theorem issue_steady (timer due : Nat) : (p.issue timer due).steady = p.steady.issue timer due := by
  have hscript : p.steady.script = p.script := rfl
  unfold issue
  rw [hscript]
  split <;> rfl

/-- The state and the number are in place when the display breaks off. -/
theorem applied_steady (cycle : Nat) (outcome : Fetch.Outcome) :
    (p.applied cycle outcome).steady = p.steady.applied cycle outcome := by
  have hshared : (p.applied cycle outcome).shared.recover = ⟨p.stateAfter outcome, cycle⟩ := by
    simp [applied]
  rw [steady, hshared]
  rfl

theorem complete_steady (cycle timer : Nat) (outcome : Fetch.Outcome) :
    (p.complete cycle timer outcome).steady = p.steady.complete cycle timer outcome := by
  have hverdict : p.steady.verdict cycle timer = p.verdict cycle timer := rfl
  by_cases h : p.verdict cycle timer = .applied
  · have happlied := congrArg (fun q : Poller => { q with
        trace := .notified (p.stateAfter outcome) false
          :: .completed cycle timer p.clock outcome .applied :: p.steady.trace })
      (p.applied_steady cycle outcome)
    rw [complete_of_applied h, complete_of_applied (hverdict.trans h)]
    exact happlied
  · rw [complete_of_ne_applied h, complete_of_ne_applied (hverdict ▸ h), hverdict]
    rfl

end Operations

theorem passes_steady : Passes steady where
  clock := fun _ => rfl
  reached := fun _ => rfl
  active := fun _ => rfl
  ready := fun _ => rfl
  atTime := fun _ _ _ => rfl
  withReady := fun _ _ => rfl
  scheduled := fun _ _ _ => rfl
  issue := issue_steady
  complete := complete_steady

section Operations
variable (p : Poller)

theorem stop_steady : p.stop.steady = p.steady.stop := by
  have hrunning : p.steady.isRunning = p.isRunning := rfl
  unfold stop
  rw [hrunning]
  split <;> rfl

theorem start_steady (interval : Nat) (h : 0 < interval) :
    (p.start interval h).steady = p.steady.start interval h := by
  rw [start_eq_launch, start_eq_launch, ← stop_steady]
  rfl

theorem release_steady (cycle : Nat) (outcome : Fetch.Outcome) :
    p.steady.release? cycle outcome = (p.release? cycle outcome).map steady := by
  rw [release?, release?, Option.map_map]
  rfl

theorem act_steady (action : Action) : (p.act action).steady = p.steady.act action := by
  cases action with
  | start interval =>
    have hdropped : p.steady.dropped = p.dropped := rfl
    simp only [act, hdropped]
    split
    · rfl
    · split
      · exact p.start_steady interval _
      · rfl
  | stop =>
    have hdropped : p.steady.dropped = p.dropped := rfl
    simp only [act, hdropped]
    split
    · rfl
    · exact p.stop_steady
  | drop => exact congrArg (fun q : Poller => { q with dropped := true }) p.stop_steady
  | wait ms => exact passes_steady.advance p (p.clock + ms)
  | stall ms => rfl
  | release cycle outcome => rw [act, act, release_steady, Option.getD_map]

theorem worked_steady (s : Step) : (p.worked s).steady = p.steady.worked s := by
  unfold worked
  split
  · rw [passes_steady.settle, act_steady]
  · exact p.act_steady s.action

end Operations

/-- The answer, as if the display had not broken off. -/
def Answer.steady (a : Answer) : Answer := { a with trace := a.trace.map Event.steady }

theorem released?_steady (p : Poller) (action : Action) :
    p.steady.released? action = p.released? action := by
  cases action with
  | release cycle outcome => rw [released?, released?, release_steady, Option.isSome_map]
  | _ => rfl

theorem startError?_steady (p : Poller) (action : Action) :
    p.steady.startError? action = p.startError? action := by
  cases action <;> rfl

theorem answer_steady (p q : Poller) (action : Action) :
    (p.answer q action).steady = p.steady.answer q.steady action := by
  have htrace : q.trace.reverse.map Event.steady = q.steady.trace.reverse := List.map_reverse
  unfold Answer.steady answer
  rw [released?_steady, startError?_steady, htrace]
  rfl

theorem step_steady (p : Poller) (s : Step) :
    (p.step s).1.steady = (p.steady.step s).1 ∧ (p.step s).2.steady = (p.steady.step s).2 := by
  constructor
  · exact congrArg (fun q : Poller => { q with trace := [] }) (p.worked_steady s)
  · rw [step_snd, step_snd, answer_steady, worked_steady]

/-- The answers of a poller tell what those of the steady one do, apart from where the display broke
off. -/
theorem run_steady (p : Poller) (steps : List Step) :
    (p.run steps).map Answer.steady = p.steady.run steps := by
  induction steps generalizing p with
  | nil => rfl
  | cons s steps ih =>
    obtain ⟨hnext, hanswer⟩ := p.step_steady s
    rw [run, run, List.map_cons, ih, hnext, hanswer]

/-- Answers that tell the same, and whose events differ at most in whether the display broke off. -/
structure Answer.Alike (a b : Answer) : Prop where
  running : a.running = b.running
  state : a.state = b.state
  fetches : a.fetches = b.fetches
  notices : a.notices = b.notices
  log : a.log = b.log
  startError : a.startError = b.startError
  released : a.released = b.released
  trace : a.trace.map Event.steady = b.trace.map Event.steady

theorem Answer.notices_steady (a : Answer) : a.steady.notices = a.notices := by
  simp only [Answer.notices, Answer.steady, List.filterMap_map]
  exact List.filterMap_congr fun e _ => e.notice?_steady

theorem Answer.log_steady (a : Answer) : a.steady.log = a.log := by
  simp only [Answer.log, Answer.steady, List.filterMap_map]
  exact List.filterMap_congr fun e _ => e.log?_steady

theorem Answer.alike_of_steady {a b : Answer} (h : a.steady = b.steady) : a.Alike b := by
  have hnotices : a.notices = b.notices := by rw [← a.notices_steady, h, b.notices_steady]
  have hlog : a.log = b.log := by rw [← a.log_steady, h, b.log_steady]
  obtain ⟨hrunning, hstate, hfetches, htrace, hstart, hreleased⟩ := Answer.mk.inj h
  exact ⟨hrunning, hstate, hfetches, hnotices, hlog, hstart, hreleased, htrace⟩

/-- Wherever the display breaks off in two runs with the same script and the same steps, the answers are
alike after every step: no update is lost or told twice, no later completion is held up, and starts,
stops and the drop work as before. -/
theorem broken_off_notices_change_no_answer (clock : Nat) (script : List Scripted)
    (breaks breaks' : List Nat) (steps : List Step) :
    List.Forall₂ Answer.Alike ((new clock script breaks).run steps)
      ((new clock script breaks').run steps) := by
  have hsteady : ((new clock script breaks).run steps).map Answer.steady
      = ((new clock script breaks').run steps).map Answer.steady := by
    rw [run_steady, run_steady]
    rfl
  have hboth := List.forall₂_eq_eq_eq.symm ▸ hsteady
  rw [List.forall₂_map_left_iff, List.forall₂_map_right_iff] at hboth
  exact hboth.imp fun _ _ => Answer.alike_of_steady

end QueueBoard.Poller
