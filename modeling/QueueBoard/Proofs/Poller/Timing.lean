import Mathlib.Data.List.Forall2
import QueueBoard.Proofs.Poller.Runs

/-! # Timing

The timing of a poller is what its timers depend on and what they have done. No answer enters into it:
pollers of one timing have one timing after every operation, whatever their cycles are answered,
whatever is waiting or ready apart from timers, and whether or not the display breaks off.
-/
namespace QueueBoard.Poller

/-- Whether an event is the start, the end or a tick of a timer. -/
def Event.isOfTimer : Event → Bool
  | .started _ _ => true
  | .stopped => true
  | .issued _ _ _ _ => true
  | .completed _ _ _ _ _ => false
  | .notified _ _ => false

/-- The timer that a task runs for the first time. -/
def Task.firstTick? : Task → Option Nat
  | .firstTick timer => some timer
  | .completion _ _ _ => none

/-- What the timers of a poller depend on, and their events. -/
structure Timing where
  clock : Nat
  reached : Nat
  active : Option Timer
  timers : Nat
  cycles : Nat
  /-- The timers that are ready to run for the first time. -/
  starting : List Nat
  dropped : Bool
  /-- Latest first. -/
  events : List Event

def timing (p : Poller) : Timing where
  clock := p.clock
  reached := p.reached
  active := p.active
  timers := p.timers
  cycles := p.cycles
  starting := p.ready.filterMap Task.firstTick?
  dropped := p.dropped
  events := p.trace.filter Event.isOfTimer

section Fields
variable {p q : Poller} (h : p.timing = q.timing)
include h

theorem clock_of_timing : p.clock = q.clock := congrArg Timing.clock h

theorem reached_of_timing : p.reached = q.reached := congrArg Timing.reached h

theorem active_of_timing : p.active = q.active := congrArg Timing.active h

theorem cycles_of_timing : p.cycles = q.cycles := congrArg Timing.cycles h

theorem dropped_of_timing : p.dropped = q.dropped := congrArg Timing.dropped h

end Fields

section Operations
variable (p : Poller)

theorem issue_timing (timer due : Nat) :
    (p.issue timer due).timing = { p.timing with
      cycles := p.timing.cycles + 1
      events := .issued (p.timing.cycles + 1) timer due p.timing.clock :: p.timing.events } := by
  have hstarting : (p.issue timer due).ready.filterMap Task.firstTick?
      = p.ready.filterMap Task.firstTick? := by
    unfold issue
    split <;> simp [emit, Task.firstTick?]
  unfold timing
  rw [hstarting, issue_trace, List.filter_cons_of_pos rfl]
  simp

theorem scheduled_timing (t : Timer) (due : Nat) :
    (p.scheduled t due).timing = { p.timing with active := some { t with due := some due } } := rfl

/-- A completion is nothing to the timers. -/
theorem complete_timing (cycle timer : Nat) (outcome : Fetch.Outcome) :
    (p.complete cycle timer outcome).timing = p.timing := by
  by_cases h : p.verdict cycle timer = .applied
  · rw [complete_of_applied h]
    simp [timing, applied, Event.isOfTimer]
  · rw [complete_of_ne_applied h]
    simp [timing, emit, Event.isOfTimer]

theorem stop_timing :
    p.stop.timing = { p.timing with
      active := none
      events := p.stopEvents ++ p.timing.events } := by
  have hready : p.stop.ready = p.ready := by
    unfold stop
    split <;> rfl
  have hclock : p.stop.clock = p.clock := by
    unfold stop
    split <;> rfl
  have hreached : p.stop.reached = p.reached := by
    unfold stop
    split <;> rfl
  have hevents : p.stop.trace.filter Event.isOfTimer
      = p.stopEvents ++ p.trace.filter Event.isOfTimer := by
    rw [stop_trace]
    unfold stopEvents
    split
    · exact List.filter_cons_of_pos rfl
    · rfl
  simp only [timing, hready, hclock, hreached, hevents, stop_active, stop_timers, stop_cycles,
    stop_dropped]

theorem launch_timing (interval : Nat) (h : 0 < interval) :
    (p.launch interval h).timing = { p.timing with
      active := some ⟨p.timing.timers + 1, interval, none, h⟩
      timers := p.timing.timers + 1
      starting := p.timing.starting ++ [p.timing.timers + 1]
      events := .started (p.timing.timers + 1) interval :: p.timing.events } := by
  have hevents : (p.launch interval h).trace.filter Event.isOfTimer
      = .started (p.timers + 1) interval :: p.trace.filter Event.isOfTimer :=
    List.filter_cons_of_pos rfl
  unfold timing
  rw [hevents]
  simp [launch, emit, Task.firstTick?]

/-- An answer makes a completion ready at most. -/
theorem release_timing (cycle : Nat) (outcome : Fetch.Outcome) :
    ((p.release? cycle outcome).getD p).timing = p.timing := by
  cases h : p.release? cycle outcome with
  | none => rfl
  | some q =>
    obtain ⟨w, -, -, rfl⟩ := release?_eq_some h
    simp [timing, Task.firstTick?]

end Operations

section Congruence
variable {p q : Poller} (h : p.timing = q.timing)
include h

theorem issue_timing_congr (timer due : Nat) :
    (p.issue timer due).timing = (q.issue timer due).timing := by
  rw [issue_timing, issue_timing, h]

theorem scheduled_timing_congr (t : Timer) (due : Nat) :
    (p.scheduled t due).timing = (q.scheduled t due).timing := by
  rw [scheduled_timing, scheduled_timing, h]

theorem foldl_issue_timing_congr (timer : Nat) (dues : List Nat) :
    (dues.foldl (fun r due => r.issue timer due) p).timing
      = (dues.foldl (fun r due => r.issue timer due) q).timing := by
  induction dues generalizing p q with
  | nil => exact h
  | cons due dues ih => exact ih (issue_timing_congr h timer due)

theorem firstTick_timing_congr (timer : Nat) :
    (p.firstTick timer).timing = (q.firstTick timer).timing := by
  have hactive := active_of_timing h
  cases ha : p.isActive timer with
  | false =>
    have ha' : q.isActive timer = false := by rw [← ha, isActive, isActive, hactive]
    rw [firstTick_of_not_active ha, firstTick_of_not_active ha', h]
  | true =>
    obtain ⟨t, ht, hn⟩ := isActive_iff.mp ha
    rw [firstTick_of_active ht hn, firstTick_of_active (hactive ▸ ht) hn, reached_of_timing h,
      clock_of_timing h]
    split
    · exact scheduled_timing_congr h t _
    · exact issue_timing_congr (scheduled_timing_congr h t _) t.number _

theorem foldl_firstTick_timing_congr (timers : List Nat) :
    (timers.foldl firstTick p).timing = (timers.foldl firstTick q).timing := by
  induction timers generalizing p q with
  | nil => exact h
  | cons timer timers ih => exact ih (firstTick_timing_congr h timer)

end Congruence

/-- Of the tasks that are ready, only the first runs of timers count. -/
theorem foldl_perform_timing (tasks : List Task) (p : Poller) :
    (tasks.foldl perform p).timing = ((tasks.filterMap Task.firstTick?).foldl firstTick p).timing := by
  induction tasks generalizing p with
  | nil => rfl
  | cons task tasks ih =>
    rw [List.foldl_cons, ih]
    cases task with
    | firstTick timer => rfl
    | completion cycle timer outcome =>
      exact foldl_firstTick_timing_congr (p.complete_timing cycle timer outcome) _

section Congruence
variable {p q : Poller} (h : p.timing = q.timing)
include h

theorem runReady_timing_congr : p.runReady.timing = q.runReady.timing := by
  have hidle : { p with ready := [] }.timing = { q with ready := [] }.timing :=
    congrArg (fun t => { t with starting := [] }) h
  have hstarting : p.ready.filterMap Task.firstTick? = q.ready.filterMap Task.firstTick? :=
    congrArg Timing.starting h
  rw [runReady, runReady, foldl_perform_timing, foldl_perform_timing, hstarting]
  exact foldl_firstTick_timing_congr hidle _

theorem drain_timing_congr : p.drain.timing = q.drain.timing :=
  runReady_timing_congr (runReady_timing_congr h)

theorem due?_of_timing : p.due? = q.due? := by
  rw [due?, due?, active_of_timing h]

theorem fire_timing_congr : p.fire.timing = q.fire.timing := by
  have hclock := clock_of_timing h
  have hreached : { p with reached := p.clock }.timing = { q with reached := q.clock }.timing :=
    congrArg (fun t => { t with reached := t.clock }) h
  cases hd : p.due? with
  | none => rw [fire_of_idle hd, fire_of_idle (due?_of_timing h ▸ hd), hreached]
  | some due =>
    obtain ⟨t, ht, htd⟩ := due?_eq_some_iff.mp hd
    rw [fire_of_due ht htd, fire_of_due (active_of_timing h ▸ ht) htd, hclock]
    rw [hclock] at hreached
    exact foldl_issue_timing_congr (scheduled_timing_congr hreached t _) t.number _

theorem wake_timing_congr : p.wake.timing = q.wake.timing := by
  have hdue := due?_of_timing h
  have hreached := reached_of_timing h
  rcases p.wake_cases with ⟨t, due, ht, hd, hle⟩ | hahead
  · rw [wake_of_reached ht hd hle, wake_of_reached (active_of_timing h ▸ ht) hd (hreached ▸ hle),
      clock_of_timing h]
    exact issue_timing_congr (scheduled_timing_congr h t _) t.number due
  · rw [wake_of_ahead hahead, wake_of_ahead (hdue ▸ hreached ▸ hahead), h]

theorem settle_timing_congr : p.settle.timing = q.settle.timing :=
  drain_timing_congr (fire_timing_congr (drain_timing_congr (wake_timing_congr h)))

theorem at_timing_congr (clock reached : Nat) :
    { p with clock := clock, reached := reached }.timing
      = { q with clock := clock, reached := reached }.timing :=
  congrArg (fun t => { t with clock := clock, reached := reached }) h

end Congruence

/-- The same ticks fall due on the way, so time passes in the same stretches. -/
theorem advance_timing_congr (p : Poller) (target : Nat) :
    ∀ q : Poller, p.timing = q.timing → (p.advance target).timing = (q.advance target).timing := by
  fun_induction advance p target with
  | case1 p hlt r due hdue hbetween ih =>
    intro q h
    have hsettle := settle_timing_congr h
    have hdue' : q.settle.due? = some due := due?_of_timing hsettle ▸ hdue
    rw [clock_of_timing h] at hlt hbetween
    rw [advance.eq_def q, if_pos hlt]
    simp only [hdue', if_pos hbetween]
    exact ih _ (at_timing_congr hsettle due due)
  | case2 p hlt r due hdue hout =>
    intro q h
    have hsettle := settle_timing_congr h
    have hdue' : q.settle.due? = some due := due?_of_timing hsettle ▸ hdue
    rw [clock_of_timing h] at hlt hout
    rw [advance.eq_def q, if_pos hlt]
    simp only [hdue', if_neg hout]
    exact at_timing_congr hsettle target target
  | case3 p hlt r hdue =>
    intro q h
    have hsettle := settle_timing_congr h
    have hdue' : q.settle.due? = none := due?_of_timing hsettle ▸ hdue
    rw [clock_of_timing h] at hlt
    rw [advance.eq_def q, if_pos hlt]
    simp only [hdue']
    exact at_timing_congr hsettle target target
  | case4 p hge =>
    intro q h
    rw [clock_of_timing h] at hge
    rw [advance.eq_def q, if_neg hge, h]

/-- Steps that are the same but for which cycle is given which answer. -/
inductive Step.SameTiming : Step → Step → Prop
  | same (s : Step) : SameTiming s s
  | released (cycle cycle' : Nat) (outcome outcome' : Fetch.Outcome) (settles : Bool) :
      SameTiming ⟨.release cycle outcome, settles⟩ ⟨.release cycle' outcome', settles⟩

/-- Answers that tell the same of the timers. -/
structure Answer.SameTiming (a b : Answer) : Prop where
  running : a.running = b.running
  fetches : a.fetches = b.fetches
  events : a.trace.filter Event.isOfTimer = b.trace.filter Event.isOfTimer

section Steps
variable {p q : Poller} (h : p.timing = q.timing)
include h

theorem stop_timing_congr : p.stop.timing = q.stop.timing := by
  have hevents : p.stopEvents = q.stopEvents := by
    rw [stopEvents, stopEvents, isRunning, isRunning, active_of_timing h]
  rw [stop_timing, stop_timing, hevents, h]

theorem act_timing_congr (action : Action) : (p.act action).timing = (q.act action).timing := by
  have hdropped := dropped_of_timing h
  cases action with
  | start interval =>
    simp only [act, hdropped]
    split
    · exact h
    · split
      · rw [start_eq_launch, start_eq_launch, launch_timing, launch_timing, stop_timing_congr h]
      · exact h
  | stop =>
    simp only [act, hdropped]
    split
    · exact h
    · exact stop_timing_congr h
  | drop => exact congrArg (fun t => { t with dropped := true }) (stop_timing_congr h)
  | wait ms =>
    rw [act, act, clock_of_timing h]
    exact p.advance_timing_congr _ q h
  | stall ms => exact congrArg (fun t => { t with clock := t.clock + ms }) h
  | release cycle outcome => rw [act, act, release_timing, release_timing, h]

theorem worked_timing_congr {s t : Step} (hs : s.SameTiming t) :
    (p.worked s).timing = (q.worked t).timing := by
  have hact : s.settles = t.settles ∧ (p.act s.action).timing = (q.act t.action).timing := by
    cases hs with
    | same => exact ⟨rfl, act_timing_congr h _⟩
    | released => exact ⟨rfl, by rw [act, act, release_timing, release_timing, h]⟩
  unfold worked
  rw [hact.1]
  split
  · exact settle_timing_congr hact.2
  · exact hact.2

theorem step_timing_congr {s t : Step} (hs : s.SameTiming t) :
    (p.step s).1.timing = (q.step t).1.timing :=
  congrArg (fun u => { u with events := [] }) (worked_timing_congr h hs)

theorem step_sameTiming {s t : Step} (hs : s.SameTiming t) :
    Answer.SameTiming (p.step s).2 (q.step t).2 := by
  have hw := worked_timing_congr h hs
  have hevents : (p.worked s).trace.filter Event.isOfTimer
      = (q.worked t).trace.filter Event.isOfTimer := congrArg Timing.events hw
  rw [step_snd, step_snd]
  refine ⟨?_, cycles_of_timing hw, ?_⟩
  · simp only [answer, isRunning, dropped_of_timing hw, active_of_timing hw]
  · simpa only [answer, List.filter_reverse, List.reverse_inj] using hevents

theorem run_sameTiming {steps steps' : List Step} (hs : List.Forall₂ Step.SameTiming steps steps') :
    List.Forall₂ Answer.SameTiming (p.run steps) (q.run steps') := by
  induction hs generalizing p q with
  | nil => exact .nil
  | cons hst _ ih => exact .cons (step_sameTiming h hst) (ih (step_timing_congr h hst))

end Steps

/-- Two runs with the same steps, apart from which cycles are given which answers, run their timers
alike, whatever their scripts say and wherever the display breaks off: after every step both are
running or neither is, both have fetched equally often, and their timers have been started, stopped
and had their ticks at the same times. -/
theorem answers_leave_timers_alone (clock : Nat) (script script' : List Scripted)
    (breaks breaks' : List Nat) {steps steps' : List Step}
    (h : List.Forall₂ Step.SameTiming steps steps') :
    List.Forall₂ Answer.SameTiming ((new clock script breaks).run steps)
      ((new clock script' breaks').run steps') := by
  have hnew : (new clock script breaks).timing = (new clock script' breaks').timing := rfl
  exact run_sameTiming hnew h

/-- One run has a failure and a cycle that is answered late, the other one successes, a display that
breaks off and an answer for a cycle that does not wait. -/
theorem failing_run_keeps_pace :
    let p := new 0 [.wait, .now (.error (.status 503 ""))] []
    let q := new 0 [.now (.ok []), .now (.ok [])] [1]
    let steps : List Step := [⟨.start 20, true⟩, ⟨.wait 20, true⟩, ⟨.release 1 (.ok []), true⟩]
    let steps' : List Step :=
      [⟨.start 20, true⟩, ⟨.wait 20, true⟩, ⟨.release 2 (.error (.malformed "")), true⟩]
    (q.run steps').map (·.fetches) = [1, 2, 2] ∧ List.Forall₂ Step.SameTiming steps steps' ∧
      List.Forall₂ Answer.SameTiming (p.run steps) (q.run steps') := by
  intro p q steps steps'
  have hfetches : (q.run steps').map (·.fetches) = [1, 2, 2] := by decide +kernel
  have hsteps : List.Forall₂ Step.SameTiming steps steps' :=
    .cons (.same _) (.cons (.same _) (.cons (.released ..) .nil))
  exact ⟨hfetches, hsteps, answers_leave_timers_alone 0 _ _ _ _ hsteps⟩

end QueueBoard.Poller
