import Mathlib.Algebra.GroupWithZero.Nat
import Mathlib.Order.Nat
import QueueBoard.Proofs.Poller.Waits

/-! # Schedules

A timer that is started and then only has to wait keeps its schedule: it ticks when it is started and
after every interval, however the waits fall and whatever the cycles are answered.
-/
namespace QueueBoard.Schedule
variable {interval : Nat} (h : 0 < interval)

theorem ticksAt_of_lt {clock due : Nat} (hlt : clock < due) : ticksAt interval h clock due = ([], due) := by
  rw [ticksAt.eq_def, if_neg (Nat.not_le.mpr hlt)]

/-- A tick in time leaves the next one an interval later. -/
theorem ticksAt_self (due : Nat) : ticksAt interval h due due = ([due], due + interval) := by
  have hnext : nextDue interval due due = due + interval := if_neg (by omega)
  rw [ticksAt.eq_def, if_pos (Nat.le_refl _), hnext, ticksAt_of_lt h (by omega)]

end QueueBoard.Schedule

namespace QueueBoard.Poller

/-- A timer by its first tick and the cycles that were issued before it. -/
structure Pace where
  number : Nat
  interval : Nat
  first : Nat
  cycles : Nat
  interval_pos : 0 < interval

namespace Pace
variable (s : Pace)

/-- When a tick is due. -/
def time (k : Nat) : Nat := s.first + k * s.interval

/-- The timer before a tick. -/
def timer (k : Nat) : Timer := ⟨s.number, s.interval, some (s.time k), s.interval_pos⟩

def tick (k : Nat) : Event := .issued (s.cycles + 1 + k) s.number (s.time k) (s.time k)

/-- The ticks from one on. -/
def ticks (k count : Nat) : List Event := (List.range' k count).map s.tick

theorem time_succ (k : Nat) : s.time (k + 1) = s.time k + s.interval := by
  unfold time
  rw [Nat.succ_mul]
  omega

theorem ticks_append (k m n : Nat) : s.ticks k m ++ s.ticks (k + m) n = s.ticks k (m + n) := by
  unfold ticks
  rw [← List.map_append, List.range'_append_1]

end Pace

/-- A timer that has had its first ticks in time and has the next one ahead, or right now. -/
structure Timing.Keeps (t : Timing) (s : Pace) (k : Nat) : Prop where
  active : t.active = some (s.timer k)
  cycles : t.cycles = s.cycles + k
  starting : t.starting = []
  dropped : t.dropped = false
  clock_le : t.clock ≤ s.time k
  le_clock : s.time k ≤ t.clock + s.interval
  reached_le : t.reached ≤ t.clock

/-- From one timing to another one, a timer has further ticks in time. -/
structure Pace.Ticks (s : Pace) (k count : Nat) (t u : Timing) : Prop where
  keeps : u.Keeps s (k + count)
  events : u.events = (s.ticks k count).reverse ++ t.events

section Ticks
variable {s : Pace} {k m n : Nat} {t u v : Timing}

theorem Timing.Keeps.refl (h : t.Keeps s k) : s.Ticks k 0 t t := ⟨h, rfl⟩

theorem Pace.Ticks.trans (h : s.Ticks k m t u) (h' : s.Ticks (k + m) n u v) : s.Ticks k (m + n) t v where
  keeps := by
    rw [← Nat.add_assoc]
    exact h'.keeps
  events := by
    rw [h'.events, h.events, ← s.ticks_append, List.reverse_append, List.append_assoc]

theorem Timing.Keeps.atTime (h : t.Keeps s k) (clock : Nat) (hge : t.clock ≤ clock)
    (hle : clock ≤ s.time k) : s.Ticks k 0 t { t with clock := clock, reached := clock } where
  keeps := { h with
    clock_le := hle
    le_clock := Nat.le_trans h.le_clock (Nat.add_le_add_right hge _)
    reached_le := Nat.le_refl clock }
  events := rfl

/-- How many ticks there have been by a time. -/
theorem Timing.Keeps.count_eq (h : t.Keeps s k) (hge : s.first ≤ t.clock) (hlt : t.clock < s.time k) :
    k = 1 + (t.clock - s.first) / s.interval := by
  have hle := h.le_clock
  unfold Pace.time at hlt hle
  cases k with
  | zero => omega
  | succ k =>
    rw [Nat.succ_mul] at hlt hle
    have hk : (t.clock - s.first) / s.interval = k :=
      Nat.div_eq_of_lt_le (by omega) (by rw [Nat.succ_mul]; omega)
    rw [hk, Nat.add_comm]

end Ticks

section Work
variable {p : Poller} {s : Pace} {k : Nat}

theorem fire_of_keeps (h : p.timing.Keeps s k) :
    p.fire = (Schedule.ticksAt s.interval s.interval_pos p.clock (s.time k)).1.foldl
      (fun q due => q.issue s.number due)
      ({ p with reached := p.clock }.scheduled (s.timer k)
        (Schedule.ticksAt s.interval s.interval_pos p.clock (s.time k)).2) :=
  fire_of_due h.active rfl

theorem fire_before_tick (h : p.timing.Keeps s k) (hlt : p.clock < s.time k) :
    p.fire.timing = { p.timing with reached := p.clock } := by
  rw [fire_of_keeps h, Schedule.ticksAt_of_lt s.interval_pos hlt]
  exact congrArg (fun active => { p.timing with reached := p.clock, active := active }) h.active.symm

theorem fire_at_tick (h : p.timing.Keeps s k) (heq : p.clock = s.time k) :
    p.fire.timing = { p.timing with
      reached := p.clock
      active := some (s.timer (k + 1))
      cycles := p.cycles + 1
      events := s.tick k :: p.timing.events } := by
  have hticks : Schedule.ticksAt s.interval s.interval_pos p.clock (s.time k)
      = ([s.time k], s.time (k + 1)) := by
    rw [heq, s.time_succ]
    exact Schedule.ticksAt_self s.interval_pos (s.time k)
  have htick : Event.issued (p.cycles + 1) s.number (s.time k) p.clock = s.tick k := by
    have hcycles : p.cycles = s.cycles + k := h.cycles
    rw [hcycles, heq, Pace.tick, Nat.add_right_comm]
  rw [fire_of_keeps h, hticks, List.foldl_cons, List.foldl_nil, issue_timing, scheduled_timing, ← htick]
  rfl

/-- There is a tick if it is time for one, and then the next one lies ahead. -/
theorem fire_ticks (h : p.timing.Keeps s k) :
    ∃ m, s.Ticks k m p.timing p.fire.timing ∧ p.clock < s.time (k + m) := by
  rcases Nat.lt_or_eq_of_le h.clock_le with hlt | heq
  · refine ⟨0, ?_, hlt⟩
    rw [fire_before_tick h hlt]
    exact ⟨{ h with reached_le := Nat.le_refl p.clock }, rfl⟩
  · have heq' : p.clock = s.time k := heq
    have hpos := s.interval_pos
    have hnext := s.time_succ k
    refine ⟨1, ?_, by omega⟩
    rw [fire_at_tick h heq']
    refine ⟨{ h with
      active := rfl, cycles := ?_, clock_le := ?_, le_clock := ?_, reached_le := Nat.le_refl p.clock }, rfl⟩
    · exact congrArg (· + 1) h.cycles
    · exact Nat.le_trans h.clock_le (by omega)
    · change s.time (k + 1) ≤ p.clock + s.interval
      omega

theorem settle_ticks (h : p.timing.Keeps s k) :
    ∃ m, s.Ticks k m p.timing p.settle.timing ∧ p.clock < s.time (k + m) := by
  have hidle : p.Idle := h.starting
  rw [hidle.settle_timing h.reached_le]
  exact fire_ticks h

theorem due_eq_of_keeps {t : Pace} {due : Nat} (h : p.timing.Keeps t k) (hd : p.due? = some due) :
    due = t.time k := by
  have hactive : p.active = some (t.timer k) := h.active
  rw [due?, hactive] at hd
  exact (Option.some.inj hd).symm

/-- On the way to a target, and at every stop, the timer keeps its schedule. -/
theorem advance_ticks (p : Poller) (target : Nat) :
    ∀ k, p.timing.Keeps s k → p.clock ≤ target →
      ∃ m, s.Ticks k m p.timing (p.advance target).timing := by
  fun_induction advance p target with
  | case1 p hlt q due hdue hbetween ih =>
    intro k h _
    obtain ⟨m, hticks, -⟩ := settle_ticks h
    have hle : p.settle.clock ≤ due := p.settle_clock.le.trans (Nat.le_of_lt hbetween.1)
    have hstop := hticks.keeps.atTime due hle (due_eq_of_keeps hticks.keeps hdue).le
    obtain ⟨n, hmore⟩ := ih (k + m) hstop.keeps (Nat.le_of_lt hbetween.2)
    exact ⟨m + n, (hticks.trans hstop).trans hmore⟩
  | case2 p hlt q due hdue hout =>
    intro k h _
    obtain ⟨m, hticks, hahead⟩ := settle_ticks h
    have hle : p.settle.clock ≤ target := p.settle_clock.le.trans (Nat.le_of_lt hlt)
    have hnext := due_eq_of_keeps hticks.keeps hdue
    exact ⟨m, hticks.trans (hticks.keeps.atTime target hle (by omega))⟩
  | case3 p hlt q hdue =>
    intro k h _
    obtain ⟨m, hticks, -⟩ := settle_ticks h
    have hactive : p.settle.active = some (s.timer (k + m)) := hticks.keeps.active
    have hdue' : p.settle.due? = none := hdue
    rw [due?, hactive] at hdue'
    cases hdue'
  | case4 p hge =>
    intro k h _
    exact ⟨0, h.refl⟩

end Work

/-- The timers that are ready to run for the first time have been started. -/
def Numbered (_ : List Event) (p : Poller) : Prop := ∀ timer ∈ p.timing.starting, timer ≤ p.timers

theorem mem_starting_of_rest {p : Poller} {task : Task} {rest : List Task} {timer : Nat}
    (hr : p.ready = task :: rest) (h : timer ∈ rest.filterMap Task.firstTick?) :
    timer ∈ p.timing.starting := by
  have hsub : rest.Sublist p.ready := hr ▸ List.sublist_cons_self task rest
  exact (hsub.filterMap Task.firstTick?).subset h

theorem numbered_invariant : Invariant Numbered where
  stop := by
    intro past p h timer ht
    rw [stop_timing] at ht
    rw [stop_timers]
    exact h timer ht
  launch := by
    intro past p interval hpos h _ _ timer ht
    rw [launch_timing] at ht
    rcases List.mem_append.mp ht with hold | hnew
    · exact Nat.le_succ_of_le (h timer hold)
    · exact (List.mem_singleton.mp hnew).le
  drop := fun h _ => h
  release := by
    intro past p q cycle outcome h hr timer ht
    obtain ⟨w, -, -, rfl⟩ := release?_eq_some hr
    have htiming := p.release_timing cycle outcome
    rw [hr] at htiming
    exact h timer (congrArg Timing.starting htiming ▸ ht)
  move := by
    intro past es p q h hm timer ht
    cases hm with
    | pass => exact h timer ht
    | leave hr => exact h timer (mem_starting_of_rest hr ht)
    | schedule => exact h timer ht
    | issue due ha =>
      rw [issue_timing] at ht
      rw [issue_timers]
      exact h timer ht
    | apply hr => exact h timer (mem_starting_of_rest hr ht)
    | discard hr => exact h timer (mem_starting_of_rest hr ht)
  handOver := fun h => h

theorem numbered_afterAll (clock : Nat) (script : List Scripted) (breaks : List Nat)
    (steps : List Step) : Numbered ([] ++ (new clock script breaks).events steps)
      ((new clock script breaks).afterAll steps) :=
  numbered_invariant.afterAll (fun _ ht => absurd ht List.not_mem_nil) rfl steps

/-- A timer that is ready to run for the first time, at the time of its first tick. Timers that have
ended before their first run may be ready too. -/
structure Timing.Awaits (t : Timing) (s : Pace) : Prop where
  active : t.active = some ⟨s.number, s.interval, none, s.interval_pos⟩
  cycles : t.cycles = s.cycles
  starting : ∃ old, t.starting = old ++ [s.number] ∧ ∀ timer ∈ old, timer ≠ s.number
  dropped : t.dropped = false
  clock : t.clock = s.first
  reached_le : t.reached ≤ t.clock

section FirstRun
variable {p : Poller} {s : Pace}

theorem foldl_firstTick_of_not_active {timers : List Nat} {q : Poller}
    (h : ∀ timer ∈ timers, q.isActive timer = false) : timers.foldl firstTick q = q := by
  induction timers with
  | nil => rfl
  | cons timer timers ih =>
    rw [List.foldl_cons, firstTick_of_not_active (h timer (List.mem_cons_self ..))]
    exact ih fun other ho => h other (List.mem_cons_of_mem _ ho)

/-- A timer that runs for the first time ticks, or its first tick is left among those that are due. -/
theorem firstTick_ticks {q : Poller}
    (hactive : q.active = some ⟨s.number, s.interval, none, s.interval_pos⟩) (hclock : q.clock = s.first)
    (hcycles : q.cycles = s.cycles) (hidle : q.Idle) (hd : q.dropped = false)
    (hr : q.reached ≤ q.clock) : ∃ m, s.Ticks 0 m q.timing (q.firstTick s.number).timing := by
  have htime : s.time 0 = q.clock := by rw [hclock, Pace.time, Nat.zero_mul, Nat.add_zero]
  have hnext : s.time (0 + 1) = q.clock + s.interval := by rw [s.time_succ, htime]
  rw [firstTick_of_active hactive rfl]
  split
  · refine ⟨0, ⟨?_, hcycles, hidle, hd, htime.ge, ?_, hr⟩, rfl⟩
    · rw [scheduled_timing, ← htime]
      rfl
    · exact htime.le.trans (Nat.le_add_right ..)
  · rw [issue_timing, scheduled_timing]
    refine ⟨1, ⟨?_, congrArg (· + 1) hcycles, hidle, hd, ?_, hnext.le, hr⟩, ?_⟩
    · rw [← hnext]
      rfl
    · exact (Nat.le_add_right q.clock s.interval).trans hnext.ge
    · have htick : s.tick 0 = .issued (q.cycles + 1) s.number q.clock q.clock := by
        rw [Pace.tick, htime, hcycles]
      rw [Pace.ticks, List.range'_one, List.map_singleton, htick]
      rfl

/-- Of the timers that are ready to run for the first time only the active one does anything. -/
theorem runReady_first (h : p.timing.Awaits s) : ∃ m, s.Ticks 0 m p.timing p.runReady.timing := by
  obtain ⟨old, hstarting, hold⟩ := h.starting
  have hactive : p.active = some ⟨s.number, s.interval, none, s.interval_pos⟩ := h.active
  have hidle : ∀ timer ∈ old, { p with ready := [] }.isActive timer = false := by
    intro timer ht
    simpa [isActive, hactive] using (hold timer ht).symm
  obtain ⟨m, hticks⟩ := firstTick_ticks (q := { p with ready := [] }) hactive h.clock h.cycles rfl
    h.dropped h.reached_le
  have htimers : p.ready.filterMap Task.firstTick? = old ++ [s.number] := hstarting
  refine ⟨m, ?_⟩
  rw [runReady, foldl_perform_timing, htimers, List.foldl_append, foldl_firstTick_of_not_active hidle]
  exact ⟨hticks.keeps, hticks.events⟩

/-- The first tick falls when the timer first runs, and it is the only one then. -/
theorem settle_first (h : p.timing.Awaits s) : s.Ticks 0 1 p.timing p.settle.timing := by
  obtain ⟨m, hfirst⟩ := runReady_first h
  have hactive : p.active = some ⟨s.number, s.interval, none, s.interval_pos⟩ := h.active
  have hwake : p.wake = p := wake_of_ahead fun due hd => by simp [due?, hactive] at hd
  have hdrain : p.drain.timing = p.runReady.timing := (idle_runReady p).runReady_timing
  rw [← hdrain] at hfirst
  obtain ⟨n, hmore, hlt⟩ := fire_ticks hfirst.keeps
  have hidle : p.drain.fire.Idle := hmore.keeps.starting
  have hsettle : p.settle.timing = p.drain.fire.timing := by rw [settle, hwake, hidle.drain_timing]
  have hall := hfirst.trans hmore
  rw [← hsettle] at hall
  have hclock : p.settle.timing.clock = s.first := (settle_clock p).trans h.clock
  have hahead : p.settle.timing.clock < s.time (0 + (m + n)) := by
    rw [← Nat.add_assoc, show p.settle.timing.clock = p.drain.clock by simp [timing]]
    exact hlt
  have hcount := hall.keeps.count_eq hclock.ge hahead
  rw [hclock, Nat.sub_self, Nat.zero_div, Nat.add_zero, Nat.zero_add] at hcount
  rwa [hcount] at hall

end FirstRun

section Start
variable {p : Poller} {interval : Nat} (hpos : 0 < interval)

/-- The pace of a timer that is started now. -/
def launched (p : Poller) : Pace := ⟨p.timers + 1, interval, p.clock, p.cycles, hpos⟩

theorem start_timing : (p.start interval hpos).timing = { p.timing with
    active := some ⟨p.timers + 1, interval, none, hpos⟩
    timers := p.timers + 1
    starting := p.timing.starting ++ [p.timers + 1]
    events := .started (p.timers + 1) interval :: (p.stopEvents ++ p.timing.events) } := by
  rw [start_eq_launch, launch_timing, stop_timing]
  rfl

theorem awaits_start {past : List Event} (h : Numbered past p) (hd : p.dropped = false)
    (hr : p.reached ≤ p.clock) : (p.start interval hpos).timing.Awaits (p.launched hpos) := by
  rw [start_timing]
  refine ⟨rfl, rfl, ⟨p.timing.starting, rfl, ?_⟩, hd, rfl, hr⟩
  intro timer ht
  exact Nat.ne_of_lt (Nat.lt_succ_of_le (h timer ht))

end Start

/-- A wait or a release after which the poller settles. -/
inductive Step.IsSmooth : Step → Prop
  | wait (ms : Nat) : IsSmooth ⟨.wait ms, true⟩
  | release (cycle : Nat) (outcome : Fetch.Outcome) : IsSmooth ⟨.release cycle outcome, true⟩

/-- How long a step waits. -/
def Step.waits (s : Step) : Nat :=
  match s.action with
  | .wait ms => ms
  | _ => 0

/-- How long all steps wait. -/
def waited (steps : List Step) : Nat := (steps.map Step.waits).sum

section Runs
variable {p : Poller} {s : Pace} {k : Nat}

theorem worked_ticks {st : Step} (hs : st.IsSmooth) (h : p.timing.Keeps s k) :
    ∃ m, s.Ticks k m p.timing (p.worked st).timing ∧ (p.worked st).clock = p.clock + st.waits ∧
      p.clock + st.waits < s.time (k + m) := by
  cases hs with
  | wait ms =>
    have hstop : (p.advance (p.clock + ms)).clock = p.clock + ms := advance_clock p _ (Nat.le_add_right ..)
    obtain ⟨m, hway⟩ := advance_ticks p (p.clock + ms) k h (Nat.le_add_right ..)
    obtain ⟨n, hlast, hlt⟩ := settle_ticks hway.keeps
    refine ⟨m + n, hway.trans hlast, (settle_clock _).trans hstop, ?_⟩
    rw [← Nat.add_assoc]
    exact hstop ▸ hlt
  | release cycle outcome =>
    have hrelease := p.release_timing cycle outcome
    have hkeeps : (p.act (.release cycle outcome)).timing.Keeps s k := hrelease.symm ▸ h
    obtain ⟨m, hticks, hlt⟩ := settle_ticks hkeeps
    have hclock : (p.act (.release cycle outcome)).clock = p.clock := congrArg Timing.clock hrelease
    exact ⟨m, hrelease ▸ hticks, (settle_clock _).trans hclock, hclock ▸ hlt⟩

theorem step_ticks {st : Step} (hs : st.IsSmooth) (h : p.timing.Keeps s k) (hp : p.trace = []) :
    ∃ m, (p.step st).1.timing.Keeps s (k + m) ∧
      (p.step st).2.trace.filter Event.isOfTimer = s.ticks k m ∧
      (p.step st).1.clock = p.clock + st.waits ∧ (p.step st).1.clock < s.time (k + m) := by
  obtain ⟨m, hticks, hclock, hlt⟩ := worked_ticks hs h
  refine ⟨m, { hticks.keeps with }, ?_, hclock, hclock.trans_lt hlt⟩
  have hevents : (p.worked st).trace.filter Event.isOfTimer = (s.ticks k m).reverse := by
    have hnone : p.timing.events = [] := congrArg (List.filter Event.isOfTimer) hp
    have he := hticks.events
    rwa [hnone, List.append_nil] at he
  rw [step_snd, answer, List.filter_reverse, hevents, List.reverse_reverse]

/-- Steps that only wait and answer leave the ticks of the schedule behind, and no other event of a
timer. -/
theorem run_ticks {steps : List Step} (hs : ∀ st ∈ steps, st.IsSmooth) (h : p.timing.Keeps s k)
    (hp : p.trace = []) (hlt : p.clock < s.time k) :
    ∃ m, (p.afterAll steps).timing.Keeps s (k + m) ∧
      (p.events steps).filter Event.isOfTimer = s.ticks k m ∧
      (p.afterAll steps).clock = p.clock + waited steps ∧
      (p.afterAll steps).clock < s.time (k + m) := by
  induction steps generalizing p k with
  | nil => exact ⟨0, h, rfl, rfl, hlt⟩
  | cons st steps ih =>
    obtain ⟨hst, hrest⟩ := List.forall_mem_cons.mp hs
    obtain ⟨m, hkeeps, hevents, hclock, hahead⟩ := step_ticks hst h hp
    obtain ⟨n, hkeeps', hevents', hclock', hahead'⟩ := ih hrest hkeeps rfl hahead
    rw [Nat.add_assoc] at hkeeps' hahead'
    refine ⟨m + n, hkeeps', ?_, ?_, hahead'⟩
    · rw [events_cons, List.filter_append, hevents, hevents', s.ticks_append]
    · rw [afterAll_cons, hclock', hclock, waited, waited, List.map_cons, List.sum_cons, Nat.add_assoc]

end Runs

theorem reverse_stopEvents (p : Poller) : p.stopEvents.reverse = p.stopEvents := by
  unfold stopEvents
  split <;> rfl

theorem start_step_ticks {p : Poller} {past : List Event} (hn : Numbered past p)
    (hd : p.dropped = false) (hr : p.reached ≤ p.clock) (hp : p.trace = []) {interval : Nat}
    (hpos : 0 < interval) :
    (p.step ⟨.start interval, true⟩).1.timing.Keeps (p.launched hpos) 1 ∧
      (p.step ⟨.start interval, true⟩).2.trace.filter Event.isOfTimer
        = p.stopEvents ++ .started (p.timers + 1) interval :: (p.launched hpos).ticks 0 1 ∧
      (p.step ⟨.start interval, true⟩).1.clock = p.clock := by
  have hact : p.act (.start interval) = p.start interval hpos := by simp [act, hd, hpos]
  have hworked : p.worked ⟨.start interval, true⟩ = (p.start interval hpos).settle :=
    congrArg settle hact
  have hstart := p.start_timing hpos
  have hticks := settle_first (awaits_start hpos hn hd hr)
  rw [← hworked] at hticks
  refine ⟨{ hticks.keeps with }, ?_, ?_⟩
  · have hevents : (p.worked ⟨.start interval, true⟩).trace.filter Event.isOfTimer
        = ((p.launched hpos).ticks 0 1).reverse ++ .started (p.timers + 1) interval :: p.stopEvents := by
      have hnone : p.timing.events = [] := congrArg (List.filter Event.isOfTimer) hp
      have he := hticks.events
      rwa [hstart, hnone, List.append_nil] at he
    rw [step_snd, answer, List.filter_reverse, hevents]
    simp [reverse_stopEvents]
  · calc (p.worked ⟨.start interval, true⟩).clock
      _ = (p.start interval hpos).clock := by rw [hworked, settle_clock]
      _ = p.clock := congrArg Timing.clock hstart

/-- A run that starts a timer and then only waits and answers. -/
theorem started_run_ticks {p : Poller} {past : List Event} (hn : Numbered past p)
    (hd : p.dropped = false) (hr : p.reached ≤ p.clock) (hp : p.trace = []) {interval : Nat}
    (hpos : 0 < interval) {steps : List Step} (hs : ∀ st ∈ steps, st.IsSmooth) :
    (p.afterAll (⟨.start interval, true⟩ :: steps)).timing.Keeps (p.launched hpos)
        (1 + waited steps / interval) ∧
      (p.events (⟨.start interval, true⟩ :: steps)).filter Event.isOfTimer
        = p.stopEvents ++ .started (p.timers + 1) interval
          :: (p.launched hpos).ticks 0 (1 + waited steps / interval) := by
  obtain ⟨hfirst, hevents, hclock⟩ := start_step_ticks hn hd hr hp hpos
  have hlt : p.clock < (p.launched hpos).time 1 := by
    rw [(p.launched hpos).time_succ, Pace.time, Nat.zero_mul]
    exact Nat.lt_add_of_pos_right hpos
  obtain ⟨n, hkeeps, hmore, hend, hahead⟩ := run_ticks hs hfirst rfl (hclock.trans_lt hlt)
  rw [hclock] at hend
  have hcount : 1 + n = 1 + waited steps / interval := by
    have hfirst : (p.launched hpos).first ≤ p.clock + waited steps := Nat.le_add_right ..
    have hcount := hkeeps.count_eq (hfirst.trans hend.ge) hahead
    have hpast : ((p.step ⟨.start interval, true⟩).1.afterAll steps).clock - p.clock = waited steps := by
      rw [hend, Nat.add_sub_cancel_left]
    exact hcount.trans (congrArg (1 + · / interval) hpast)
  rw [← hcount]
  refine ⟨hkeeps, ?_⟩
  have hticks := (p.launched hpos).ticks_append 0 1 n
  rw [Nat.zero_add] at hticks
  rw [events_cons, List.filter_append, hevents, hmore, ← hticks, List.append_assoc, List.cons_append]

/-- The last answer of a run is that of the poller it leaves behind. -/
theorem last_answer {p : Poller} {steps : List Step} {answers : List Answer} {a : Answer}
    (h : p.run steps = answers ++ [a]) :
    a.running = (if (p.afterAll steps).dropped then none else some (p.afterAll steps).isRunning) ∧
      a.fetches = (p.afterAll steps).cycles := by
  obtain ⟨earlier, s, later, rfl, -, rfl, hnone⟩ := run_eq_append_cons h
  have hlater : later = [] := by
    have hlength := congrArg List.length hnone
    rw [length_run] at hlength
    exact List.eq_nil_of_length_eq_zero hlength.symm
  subst hlater
  rw [afterAll_append]
  exact ⟨rfl, rfl⟩

/-- Where a poller is started and then only waits and takes answers, the timer has ticked once at the
start and once for every interval that is over, each time when it was due; a tick that is due at the end
of a wait is among them. Whatever a poller has been through, two waits do what one wait of both lengths
does. There is always an end to the ticks: no timer is started without an interval, and when a poller
has settled its next tick lies ahead. -/
theorem smooth_waits_keep_the_schedule (clock : Nat) (script : List Scripted) (breaks : List Nat)
    (earlier steps : List Step) {interval : Nat} (hd : (Control.after earlier).dropped = false)
    (hpos : 0 < interval) (hs : ∀ s ∈ steps, s.IsSmooth) :
    let p := (new clock script breaks).afterAll earlier
    let timer := (Control.after earlier).timers + 1
    let count := 1 + waited steps / interval
    let run := ⟨.start interval, true⟩ :: steps
    (p.events run).filter Event.isOfTimer
        = p.stopEvents ++ .started timer interval :: (List.range count).map (fun k =>
          .issued (p.cycles + 1 + k) timer (p.clock + k * interval) (p.clock + k * interval)) ∧
      (∀ answers a, p.run run = answers ++ [a] →
        a.running = some true ∧ a.fetches = p.cycles + count) ∧
      (∀ (q : Poller) (a b : Nat) (settles : Bool),
        q.Joined ⟨.wait a, settles⟩ ⟨.wait b, true⟩ ⟨.wait (a + b), true⟩) ∧
      (∀ q : Poller, q.dropped = false →
        q.startError? (.start 0) = some .zeroInterval ∧ q.act (.start 0) = q) ∧
      ∀ (q : Poller) (due : Nat), q.settle.due? = some due → q.settle.clock < due := by
  intro p timer count run
  have hcontrol : p.control = Control.after earlier := control_after clock script breaks earlier
  have hdropped : p.dropped = false := (congrArg Control.dropped hcontrol).trans hd
  have htimer : p.timers + 1 = timer := congrArg (·.timers + 1) hcontrol
  obtain ⟨hkeeps, hevents⟩ := started_run_ticks (numbered_afterAll clock script breaks earlier) hdropped
    (afterAll_reached_le (Nat.le_refl clock) earlier) (afterAll_trace _ earlier rfl) hpos hs
  refine ⟨?_, ?_, joined_waits, ?_, fun q => (settled_settle q).clock_lt⟩
  · rw [hevents, htimer, Pace.ticks, ← List.range_eq_range', ← htimer]
    rfl
  · intro answers a ha
    obtain ⟨hrunning, hfetches⟩ := last_answer ha
    have hactive : (p.afterAll run).active = some _ := hkeeps.active
    have hdropped' : (p.afterAll run).dropped = false := hkeeps.dropped
    refine ⟨?_, hfetches.trans hkeeps.cycles⟩
    rw [hrunning, hdropped', isRunning, hactive]
    rfl
  · intro q hq
    simp [startError?, act, hq]

/-- The last tick is due at the end of the last wait. -/
theorem tick_at_end_of_wait_is_issued :
    let p := new 0 [] []
    let steps : List Step := [⟨.wait 30, true⟩, ⟨.release 1 (.ok []), true⟩, ⟨.wait 10, true⟩]
    (p.events (⟨.start 20, true⟩ :: steps)).filter Event.isOfTimer
        = [.started 1 20, .issued 1 1 0 0, .issued 2 1 20 20, .issued 3 1 40 40] ∧
      p.Joined ⟨.wait 15, true⟩ ⟨.wait 5, true⟩ ⟨.wait 20, true⟩ := by
  intro p steps
  have hsmooth : ∀ s ∈ steps, s.IsSmooth := by
    intro s hs
    simp only [steps, List.mem_cons, List.not_mem_nil, or_false] at hs
    rcases hs with rfl | rfl | rfl
    · exact .wait 30
    · exact .release 1 (.ok [])
    · exact .wait 10
  obtain ⟨hevents, -, hjoined, -, -⟩ := smooth_waits_keep_the_schedule 0 [] [] [] steps rfl
    (by decide : 0 < 20) hsmooth
  have hwaited : waited steps = 40 := rfl
  rw [hwaited] at hevents
  exact ⟨hevents, hjoined p 15 5 true⟩

end QueueBoard.Poller
