import QueueBoard.Proofs.Poller.Passing
import QueueBoard.Proofs.Poller.Timing

/-! # Waits

A poller that has settled has nothing ready and its next tick lies ahead, so to settle it again changes
nothing. It comes to the same thing whether time passes in one stretch or in two.
-/
namespace QueueBoard.Poller

/-- No timer is ready to run for the first time. -/
def Idle (p : Poller) : Prop := p.timing.starting = []

/-- A poller that has nothing to do at the current time. -/
structure Settled (p : Poller) : Prop where
  ready : p.ready = []
  reached : p.reached = p.clock
  clock_lt : ∀ due, p.due? = some due → p.clock < due

section Ready
variable {p : Poller}

@[simp] theorem complete_ready (p : Poller) (cycle timer : Nat) (outcome : Fetch.Outcome) :
    (p.complete cycle timer outcome).ready = p.ready := by
  by_cases h : p.verdict cycle timer = .applied
  · rw [complete_of_applied h]
    rfl
  · rw [complete_of_ne_applied h]
    rfl

theorem foldl_perform_ready (tasks : List Task) (p : Poller)
    (h : tasks.filterMap Task.firstTick? = []) : (tasks.foldl perform p).ready = p.ready := by
  induction tasks generalizing p with
  | nil => rfl
  | cons task tasks ih =>
    cases task with
    | firstTick timer => cases h
    | completion cycle timer outcome =>
      rw [List.foldl_cons, ih _ h, perform, complete_ready]

theorem foldl_firstTick_starting (timers : List Nat) (p : Poller) :
    (timers.foldl firstTick p).timing.starting = p.timing.starting := by
  induction timers generalizing p with
  | nil => rfl
  | cons timer timers ih =>
    rw [List.foldl_cons, ih]
    cases ha : p.isActive timer with
    | false => rw [firstTick_of_not_active ha]
    | true =>
      obtain ⟨t, ht, hn⟩ := isActive_iff.mp ha
      rw [firstTick_of_active ht hn]
      split
      · rw [scheduled_timing]
      · rw [issue_timing, scheduled_timing]

/-- The first ticks are over when what was ready has run. -/
theorem idle_runReady (p : Poller) : p.runReady.Idle := by
  unfold Idle runReady
  rw [foldl_perform_timing, foldl_firstTick_starting]
  rfl

namespace Idle
variable (h : p.Idle)
include h

theorem runReady_ready : p.runReady.ready = [] := foldl_perform_ready p.ready _ h

theorem runReady_timing : p.runReady.timing = p.timing := by
  have hstarting : p.ready.filterMap Task.firstTick? = [] := h
  rw [runReady, foldl_perform_timing, hstarting]
  exact congrArg (fun starting => { p.timing with starting := starting }) hstarting.symm

theorem drain_timing : p.drain.timing = p.timing := by
  rw [drain, (idle_runReady p).runReady_timing, h.runReady_timing]

end Idle

theorem drain_ready (p : Poller) : p.drain.ready = [] := (idle_runReady p).runReady_ready

theorem drain_of_ready (h : p.ready = []) : p.drain = p := by
  have hrun : p.runReady = p := by
    rw [runReady, h]
    exact congrArg (fun ready => { p with ready := ready }) h.symm
  rw [drain, hrun, hrun]

theorem idle_drain (p : Poller) : p.drain.Idle := by
  unfold Idle timing
  rw [drain_ready]
  rfl

theorem foldl_issue_keeps (timer : Nat) (dues : List Nat) (p : Poller) :
    (dues.foldl (fun q due => q.issue timer due) p).reached = p.reached ∧
      (dues.foldl (fun q due => q.issue timer due) p).active = p.active ∧
      (dues.foldl (fun q due => q.issue timer due) p).timing.starting = p.timing.starting := by
  induction dues generalizing p with
  | nil => exact ⟨rfl, rfl, rfl⟩
  | cons due dues ih =>
    obtain ⟨hreached, hactive, hstarting⟩ := ih (p.issue timer due)
    rw [List.foldl_cons, hreached, hactive, hstarting, issue_reached, issue_active, issue_timing]
    exact ⟨rfl, rfl, rfl⟩

theorem Idle.fire (h : p.Idle) : p.fire.Idle := by
  cases hd : p.due? with
  | none =>
    rw [fire_of_idle hd]
    exact h
  | some due =>
    obtain ⟨t, ht, htd⟩ := due?_eq_some_iff.mp hd
    rw [fire_of_due ht htd]
    exact (foldl_issue_keeps t.number _ _).2.2.trans h

@[simp] theorem fire_reached (p : Poller) : p.fire.reached = p.clock := by
  cases hd : p.due? with
  | none => rw [fire_of_idle hd]
  | some due =>
    obtain ⟨t, ht, htd⟩ := due?_eq_some_iff.mp hd
    rw [fire_of_due ht htd]
    exact (foldl_issue_keeps t.number _ _).1

/-- When the ticks that are due have run, the next one lies ahead. -/
theorem clock_lt_of_fire {due : Nat} (h : p.fire.due? = some due) : p.clock < due := by
  cases hd : p.due? with
  | none =>
    rw [fire_of_idle hd] at h
    cases hd.symm.trans h
  | some earlier =>
    obtain ⟨t, ht, htd⟩ := due?_eq_some_iff.mp hd
    rw [fire_of_due ht htd, due?, (foldl_issue_keeps t.number _ _).2.1] at h
    obtain rfl := Option.some.inj h
    exact Schedule.lt_ticksAt t.interval_pos p.clock earlier

theorem Idle.wake (h : p.Idle) : p.wake.Idle := by
  rcases p.wake_cases with ⟨t, due, ht, hd, hle⟩ | hahead
  · have hstarting : p.timing.starting = [] := h
    rw [Idle, wake_of_reached ht hd hle, issue_timing, scheduled_timing]
    exact hstarting
  · rwa [wake_of_ahead hahead]

/-- The tick that time has passed up to is the first of those that are due. -/
theorem wake_fire (hr : p.reached ≤ p.clock) : p.wake.fire = p.fire := by
  rcases p.wake_cases with ⟨t, due, ht, hd, hle⟩ | hahead
  · have hwake := wake_of_reached ht hd hle
    have hactive : p.wake.active
        = some { t with due := some (Schedule.nextDue t.interval p.clock due) } := by
      rw [hwake, issue_active]
      rfl
    have hticks := Schedule.ticksAt.eq_def t.interval t.interval_pos p.clock due
    rw [if_pos (Nat.le_trans hle hr)] at hticks
    rw [fire_of_due hactive rfl, fire_of_due ht hd, hticks, wake_clock, List.foldl_cons]
    congr 1
    rw [hwake]
    unfold issue
    simp only [scheduled, emit]
    split <;> rfl
  · rw [wake_of_ahead hahead]

/-- Without a first run only the ticks that are due count for the timers. -/
theorem Idle.settle_timing (h : p.Idle) (hr : p.reached ≤ p.clock) : p.settle.timing = p.fire.timing := by
  calc p.settle.timing
    _ = p.wake.drain.fire.timing := (idle_drain p.wake).fire.drain_timing
    _ = p.wake.fire.timing := fire_timing_congr h.wake.drain_timing
    _ = p.fire.timing := by rw [wake_fire hr]

end Ready

theorem settled_settle (p : Poller) : p.settle.Settled := by
  have htiming : p.settle.timing = p.wake.drain.fire.timing := (idle_drain p.wake).fire.drain_timing
  constructor
  case ready => exact drain_ready p.wake.drain.fire
  case reached => rw [reached_of_timing htiming, fire_reached, drain_clock, wake_clock, settle_clock]
  case clock_lt =>
    intro due h
    rw [due?_of_timing htiming] at h
    rw [settle_clock, ← wake_clock, ← drain_clock]
    exact clock_lt_of_fire h

namespace Settled
variable {p : Poller} (h : p.Settled)
include h

theorem fire_eq : p.fire = p := by
  have hreached : { p with reached := p.clock } = p :=
    congrArg (fun reached => { p with reached := reached }) h.reached.symm
  cases hd : p.due? with
  | none => rw [fire_of_idle hd, hreached]
  | some due =>
    obtain ⟨t, ht, htd⟩ := due?_eq_some_iff.mp hd
    have hahead : ¬ due ≤ p.clock := Nat.not_le.mpr (h.clock_lt due hd)
    have hscheduled : p.scheduled t due = p := by
      rw [scheduled, ← htd]
      exact congrArg (fun active => { p with active := active }) ht.symm
    rw [fire_of_due ht htd, Schedule.ticksAt.eq_def, if_neg hahead, hreached]
    exact hscheduled

theorem settle_eq : p.settle = p := by
  have hahead : ∀ due, p.due? = some due → p.reached < due := h.reached.symm ▸ h.clock_lt
  rw [settle, wake_of_ahead hahead, drain_of_ready h.ready, h.fire_eq, drain_of_ready h.ready]

theorem atTime {clock : Nat} (hlt : ∀ due, p.due? = some due → clock < due) :
    { p with clock := clock, reached := clock }.Settled where
  ready := h.ready
  reached := rfl
  clock_lt := hlt

end Settled

theorem settle_settle (p : Poller) : p.settle.settle = p.settle := (settled_settle p).settle_eq

section Stretches
variable {p : Poller} {target : Nat}

theorem advance_of_settle_due {due : Nat} (hd : p.settle.due? = some due) (hlt : due < target) :
    p.advance target = { p.settle with clock := due, reached := due }.advance target := by
  have hahead : p.clock < due := by simpa using (settled_settle p).clock_lt due hd
  exact advance_of_due (Nat.lt_trans hahead hlt) hd ⟨hahead, hlt⟩

theorem advance_of_none_due (hlt : p.clock < target)
    (h : ∀ due, p.settle.due? = some due → target ≤ due) :
    p.advance target = { p.settle with clock := target, reached := target } := by
  refine advance_of_idle hlt ?_
  intro due hd hbetween
  exact Nat.not_lt.mpr (h due hd) hbetween.2

/-- The ways in which time passes up to a target. -/
theorem advance_cases (p : Poller) (target : Nat) :
    (∃ due, p.settle.due? = some due ∧ due < target) ∨
      ∀ due, p.settle.due? = some due → target ≤ due := by
  cases hd : p.settle.due? with
  | none => exact .inr fun due h => nomatch h
  | some due =>
    rcases Nat.lt_or_ge due target with hbefore | hafter
    · exact .inl ⟨due, rfl, hbefore⟩
    · refine .inr fun due' h => ?_
      rwa [← Option.some.inj h]

theorem advance_settle (hlt : p.clock < target) : p.settle.advance target = p.advance target := by
  have hlt' : p.settle.clock < target := by rwa [settle_clock]
  have hsettle := settle_settle p
  rcases advance_cases p target with ⟨due, hd, hbefore⟩ | hnone
  · rw [advance_of_settle_due hd hbefore, advance_of_settle_due (hsettle.symm ▸ hd) hbefore, hsettle]
  · rw [advance_of_none_due hlt hnone, advance_of_none_due hlt' (hsettle.symm ▸ hnone), hsettle]

/-- To settle first makes no difference to a poller that settles at the end. -/
theorem settle_advance_settle (p : Poller) (target : Nat) :
    (p.settle.advance target).settle = (p.advance target).settle := by
  rcases Nat.lt_or_ge p.clock target with hlt | hge
  · rw [advance_settle hlt]
  · rw [advance_of_le hge, advance_of_le ((settle_clock p).symm ▸ hge), settle_settle]

end Stretches

/-- The timers know of no time that has not come. -/
theorem advance_reached_le {p : Poller} (target : Nat) (h : p.reached ≤ p.clock) :
    (p.advance target).reached ≤ (p.advance target).clock := by
  fun_induction advance p target with
  | case1 p hlt q due hdue hbetween ih => exact ih (Nat.le_refl due)
  | case2 => exact Nat.le_refl _
  | case3 => exact Nat.le_refl _
  | case4 => exact h

theorem act_reached_le {p : Poller} (h : p.reached ≤ p.clock) (action : Action) :
    (p.act action).reached ≤ (p.act action).clock := by
  have hstop : p.stop.reached ≤ p.stop.clock := by
    unfold stop
    split <;> exact h
  cases action with
  | start interval =>
    simp only [act]
    split
    · exact h
    · split
      · exact hstop
      · exact h
  | stop =>
    simp only [act]
    split
    · exact h
    · exact hstop
  | drop => exact hstop
  | wait ms => exact advance_reached_le (p.clock + ms) h
  | stall ms => exact Nat.le_trans h (Nat.le_add_right ..)
  | release cycle outcome =>
    have htiming := p.release_timing cycle outcome
    rw [act, reached_of_timing htiming, clock_of_timing htiming]
    exact h

theorem worked_reached_le {p : Poller} (h : p.reached ≤ p.clock) (s : Step) :
    (p.worked s).reached ≤ (p.worked s).clock := by
  unfold worked
  split
  · exact Nat.le_of_eq (settled_settle (p.act s.action)).reached
  · exact act_reached_le h s.action

theorem afterAll_reached_le {p : Poller} (h : p.reached ≤ p.clock) (steps : List Step) :
    (p.afterAll steps).reached ≤ (p.afterAll steps).clock := by
  induction steps generalizing p with
  | nil => exact h
  | cons s steps ih => exact ih (worked_reached_le h s)

theorem advance_clock (p : Poller) (target : Nat) (hle : p.clock ≤ target) :
    (p.advance target).clock = target := by
  fun_induction advance p target with
  | case1 p hlt q due hdue hbetween ih => exact ih (Nat.le_of_lt hbetween.2)
  | case2 => rfl
  | case3 => rfl
  | case4 p hge => exact Nat.le_antisymm hle (Nat.not_lt.mp hge)

/-- Where time stops before the next tick, it can go on from there. -/
theorem advance_of_stop {p : Poller} {middle target : Nat} (hlt : p.clock < middle) (h : middle ≤ target)
    (hnone : ∀ due, p.settle.due? = some due → middle ≤ due) :
    { p.settle with clock := middle, reached := middle }.advance target = p.advance target := by
  have hsettled := settled_settle p
  rcases Nat.eq_or_lt_of_le h with rfl | hmiddle
  · rw [advance_of_none_due hlt hnone]
    exact advance_of_le (Nat.le_refl _)
  have hrest (hahead : ∀ due, p.settle.due? = some due → middle < due) :
      { p.settle with clock := middle, reached := middle }.advance target = p.advance target := by
    have hstop : { p.settle with clock := middle, reached := middle }.settle
        = { p.settle with clock := middle, reached := middle } := (hsettled.atTime hahead).settle_eq
    rcases advance_cases p target with ⟨due, hd, hbefore⟩ | hidle
    · rw [advance_of_settle_due hd hbefore, advance_of_settle_due (hstop.symm ▸ hd) hbefore, hstop]
    · rw [advance_of_none_due (Nat.lt_trans hlt hmiddle) hidle,
        advance_of_none_due hmiddle (hstop.symm ▸ hidle), hstop]
  cases hd : p.settle.due? with
  | none => exact hrest fun due h => nomatch hd.symm.trans h
  | some due =>
    rcases Nat.eq_or_lt_of_le (hnone due hd) with rfl | hahead
    · exact (advance_of_settle_due hd hmiddle).symm
    · exact hrest fun due' h => Option.some.inj (hd.symm.trans h) ▸ hahead

/-- Time may pass in two stretches. -/
theorem advance_advance (p : Poller) {middle target : Nat} (h : middle ≤ target) :
    (p.advance middle).advance target = p.advance target := by
  fun_induction advance p middle with
  | case1 p hlt q due hdue hbetween ih =>
    rw [ih, advance_of_settle_due hdue (Nat.lt_of_lt_of_le hbetween.2 h)]
  | case2 p hlt q due hdue hout =>
    have hahead : p.clock < due := by simpa using (settled_settle p).clock_lt due hdue
    refine advance_of_stop hlt h fun due' hd => ?_
    obtain rfl : due = due' := Option.some.inj (hdue.symm.trans hd)
    omega
  | case3 p hlt q hdue =>
    refine advance_of_stop hlt h fun due hd => ?_
    cases hdue.symm.trans hd
  | case4 p hge => rfl

/-- A wait right after another one ends where a wait of both lengths does. -/
theorem worked_wait_wait (p : Poller) (a b : Nat) (settles : Bool) :
    ((p.worked ⟨.wait a, settles⟩).act (.wait b)).settle = p.worked ⟨.wait (a + b), true⟩ := by
  have hstop : (p.advance (p.clock + a)).clock = p.clock + a := advance_clock p _ (Nat.le_add_right ..)
  have hjoin : (p.advance (p.clock + a)).advance (p.clock + (a + b)) = p.advance (p.clock + (a + b)) :=
    advance_advance p (by omega)
  cases settles with
  | false =>
    change ((p.advance (p.clock + a)).advance ((p.advance (p.clock + a)).clock + b)).settle = _
    rw [hstop, Nat.add_assoc, hjoin]
    rfl
  | true =>
    change ((p.advance (p.clock + a)).settle.advance
      ((p.advance (p.clock + a)).settle.clock + b)).settle = _
    rw [settle_clock, hstop, Nat.add_assoc, settle_advance_settle, hjoin]
    rfl

/-- What two waits do, one right after the other, against one wait. -/
structure Joined (p : Poller) (first second whole : Step) : Prop where
  poller : p.afterAll [first, second] = p.afterAll [whole]
  running : ((p.step first).1.step second).2.running = (p.step whole).2.running
  state : ((p.step first).1.step second).2.state = (p.step whole).2.state
  fetches : ((p.step first).1.step second).2.fetches = (p.step whole).2.fetches
  trace : (p.step first).2.trace ++ ((p.step first).1.step second).2.trace = (p.step whole).2.trace
  log : (p.step first).2.log ++ ((p.step first).1.step second).2.log = (p.step whole).2.log
  notices : (p.step first).2.notices ++ ((p.step first).1.step second).2.notices
    = (p.step whole).2.notices

theorem joined_waits (p : Poller) (a b : Nat) (settles : Bool) :
    p.Joined ⟨.wait a, settles⟩ ⟨.wait b, true⟩ ⟨.wait (a + b), true⟩ := by
  have hwork : recalling (p.worked ⟨.wait a, settles⟩).trace
      ((p.step ⟨.wait a, settles⟩).1.worked ⟨.wait b, true⟩) = p.worked ⟨.wait (a + b), true⟩ := by
    have hpasses := passes_recalling (p.worked ⟨.wait a, settles⟩).trace
    rw [← p.worked_wait_wait a b settles]
    exact (hpasses.settle _).trans (congrArg settle (hpasses.advance _ _))
  have htrace : (p.step ⟨.wait a, settles⟩).2.trace
      ++ ((p.step ⟨.wait a, settles⟩).1.step ⟨.wait b, true⟩).2.trace
      = (p.step ⟨.wait (a + b), true⟩).2.trace := by
    rw [step_snd, step_snd, step_snd, ← hwork]
    exact List.reverse_append.symm
  have hpoller : ((p.step ⟨.wait a, settles⟩).1.step ⟨.wait b, true⟩).1
      = (p.step ⟨.wait (a + b), true⟩).1 := congrArg (fun q : Poller => { q with trace := [] }) hwork
  constructor
  case poller => exact hpoller
  case running => exact congrArg (fun q => if q.dropped then none else some q.isRunning) hpoller
  case state => exact congrArg (fun q => if q.dropped then none else some q.published) hpoller
  case fetches => exact congrArg (fun q => q.cycles) hpoller
  case trace => exact htrace
  case log => rw [Answer.log, Answer.log, Answer.log, ← htrace, List.filterMap_append]
  case notices => rw [Answer.notices, Answer.notices, Answer.notices, ← htrace, List.filterMap_append]

end QueueBoard.Poller
