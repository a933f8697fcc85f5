import QueueBoard.Proofs.Poller.Store

/-! # Refused actions

A start without an interval is refused, and so is every start of a dropped poller. There is nothing to
stop where no timer is active, and nothing to release where a cycle does not wait. None of these actions
leaves a trace: whatever comes after is answered as if the action had not been tried.
-/
namespace QueueBoard.Poller

/-- Whether an action comes to nothing. -/
inductive Refuses (p : Poller) : Action → Prop
  | start {interval : Nat} (h : p.dropped = true ∨ interval = 0) : Refuses p (.start interval)
  | stop (h : p.active = none) : Refuses p .stop
  | release {cycle : Nat} (outcome : Fetch.Outcome) (h : ¬ p.Waits cycle) :
      Refuses p (.release cycle outcome)

theorem Refuses.act_eq {p : Poller} {action : Action} (h : p.Refuses action) : p.act action = p := by
  cases h with
  | start h => exact controlled_start_of_refused p h
  | stop h =>
    have hstop : p.stop = p := if_neg (by simp [isRunning, h])
    simp only [act, hstop, ite_self]
  | release outcome h => rw [act, release?_eq_none_iff.mpr h, Option.getD_none]

/-- What a poller answers to an action that comes to nothing. -/
theorem Refuses.step_eq {p : Poller} {action : Action} (h : p.Refuses action) (hp : p.trace = []) :
    p.step ⟨action, false⟩ = (p, p.answer p action) := by
  have hsame : { p with trace := [] } = p := congrArg (fun trace => { p with trace := trace }) hp.symm
  simp only [step, h.act_eq, Bool.false_eq_true, if_false, hsame]

/-- An action that comes to nothing adds its own answer to a run and changes no other one. -/
theorem Refuses.run_insert {p : Poller} {earlier : List Step} {action : Action}
    (h : (p.afterAll earlier).Refuses action) (hp : p.trace = []) (later : List Step) :
    p.run (earlier ++ ⟨action, false⟩ :: later) =
      p.run earlier ++ (p.afterAll earlier).answer (p.afterAll earlier) action
        :: (p.afterAll earlier).run later := by
  rw [run_append, run, h.step_eq (afterAll_trace p earlier hp)]

/-- What a start answers that is refused for its interval. -/
structure Answer.RefusesStart (p : Poller) (a : Answer) : Prop where
  startError : a.startError = some .zeroInterval
  trace : a.trace = []
  log : a.log = []
  notices : a.notices = []
  released : a.released = none
  running : a.running = some p.isRunning
  state : a.state = some p.published
  fetches : a.fetches = p.cycles

/-- In every run a start without an interval, tried anywhere before the poller is dropped, is refused,
tells and logs nothing, and leaves all other answers as they are without it. -/
theorem refused_start_leaves_no_trace (clock : Nat) (script : List Scripted) (breaks : List Nat)
    (earlier later : List Step) (h : (Control.after earlier).dropped = false) :
    let p := new clock script breaks
    ∃ before a after, p.run (earlier ++ later) = before ++ after ∧ before.length = earlier.length ∧
      p.run (earlier ++ ⟨.start 0, false⟩ :: later) = before ++ a :: after ∧
      a.RefusesStart (p.afterAll earlier) := by
  intro p
  have htrace : (p.afterAll earlier).trace = [] := afterAll_trace p earlier rfl
  have hdropped : (p.afterAll earlier).dropped = false := by
    have hcontrol := congrArg Control.dropped (control_after clock script breaks earlier)
    exact hcontrol.trans h
  have hrefused : (p.afterAll earlier).Refuses (.start 0) := .start (.inr rfl)
  refine ⟨p.run earlier, _, _, p.run_append earlier later, length_run p earlier,
    hrefused.run_insert rfl later, ?_⟩
  constructor
  case startError => simp [answer, startError?, hdropped]
  case trace => simp [answer, htrace]
  case log => simp [answer, Answer.log, htrace]
  case notices => simp [answer, Answer.notices, htrace]
  case released => rfl
  case running => simp [answer, hdropped]
  case state => simp [answer, hdropped]
  case fetches => rfl

/-- A timer that has not run yet is left to run by a refused start. -/
theorem refused_start_leaves_new_timer :
    let p := new 0 [.now (.ok [])] []
    (Control.after [⟨.start 20, false⟩]).dropped = false ∧
      ∃ before a after, p.run [⟨.start 20, false⟩, ⟨.wait 0, true⟩] = before ++ after ∧
        before.length = 1 ∧
        p.run [⟨.start 20, false⟩, ⟨.start 0, false⟩, ⟨.wait 0, true⟩] = before ++ a :: after ∧
        a.RefusesStart (p.afterAll [⟨.start 20, false⟩]) := by
  intro p
  have hdropped : (Control.after [⟨.start 20, false⟩]).dropped = false := by decide
  exact ⟨hdropped, refused_start_leaves_no_trace 0 [.now (.ok [])] [] [⟨.start 20, false⟩]
    [⟨.wait 0, true⟩] hdropped⟩

end QueueBoard.Poller
