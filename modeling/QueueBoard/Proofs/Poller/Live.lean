import Mathlib.Data.List.Find
import QueueBoard.Proofs.Poller.Ledger

/-! # What is live in a poller

The cycles of timers that have ended leave no trace but that of being discarded. A poller without them
and without what they left works the same: to take them out before an operation or after it comes to
the same thing.
-/
namespace QueueBoard.Poller

/-- Whether an event is the discarding of a cycle after the end of its timer. -/
def Event.isOutlived : Event → Bool
  | .completed _ _ _ _ .outlived => true
  | _ => false

/-- A trace without the cycles that came after the end of their timers. -/
def quiet (es : List Event) : List Event := es.filter (fun e => !e.isOutlived)

def isLiveTask (p : Poller) : Task → Bool
  | .firstTick _ => true
  | .completion _ timer _ => p.isActive timer

/-- The poller without the cycles of the timers that have ended. -/
def live (p : Poller) : Poller :=
  { p with
    waiting := p.waiting.filter (fun w => p.isActive w.timer)
    ready := p.ready.filter p.isLiveTask
    trace := quiet p.trace }

@[simp] theorem quiet_append (es fs : List Event) : quiet (es ++ fs) = quiet es ++ quiet fs :=
  List.filter_append ..

@[simp] theorem quiet_quiet (es : List Event) : quiet (quiet es) = quiet es := by
  simp [quiet]

@[simp] theorem quiet_reverse (es : List Event) : quiet es.reverse = (quiet es).reverse :=
  List.filter_reverse

@[simp] theorem live_clock (p : Poller) : p.live.clock = p.clock := rfl



@[simp] theorem live_dropped (p : Poller) : p.live.dropped = p.dropped := rfl

@[simp] theorem live_cycles (p : Poller) : p.live.cycles = p.cycles := rfl

@[simp] theorem live_isRunning (p : Poller) : p.live.isRunning = p.isRunning := rfl

@[simp] theorem live_published (p : Poller) : p.live.published = p.published := rfl

@[simp] theorem live_ready (p : Poller) : p.live.ready = p.ready.filter p.isLiveTask := rfl

@[simp] theorem live_trace (p : Poller) : p.live.trace = quiet p.trace := rfl

@[simp] theorem live_control (p : Poller) : p.live.control = p.control := rfl

theorem isActive_congr {p q : Poller} (h : p.control = q.control) : p.isActive = q.isActive := by
  funext timer
  rw [isActive_eq_decide, isActive_eq_decide, h]

theorem isLiveTask_congr {p q : Poller} (h : p.control = q.control) : p.isLiveTask = q.isLiveTask := by
  funext task
  cases task with
  | firstTick timer => rfl
  | completion cycle timer outcome => exact congrFun (isActive_congr h) timer

theorem quiet_cons_of_quiet {e : Event} (h : e.isOutlived = false) (es : List Event) :
    quiet (e :: es) = e :: quiet es := by
  simp [quiet, h]

theorem issue_live {p : Poller} {timer : Nat} (h : p.isActive timer = true) (due : Nat) :
    (p.issue timer due).live = p.live.issue timer due := by
  have ha : (p.issue timer due).isActive = p.isActive :=
    isActive_congr (by simp [control])
  have hl : (p.issue timer due).isLiveTask = p.isLiveTask :=
    isLiveTask_congr (by simp [control])
  unfold live
  rw [ha, hl, issue_trace, quiet_cons_of_quiet rfl]
  cases hs : p.script.head? with
  | none => simp [issue, emit, hs, h]
  | some answer =>
    cases answer with
    | now outcome => simp [issue, emit, hs, isLiveTask, h]
    | wait => simp [issue, emit, hs, h]

theorem complete_live {p : Poller} {cycle timer : Nat} (outcome : Fetch.Outcome)
    (h : p.isActive timer = true) :
    (p.complete cycle timer outcome).live = p.live.complete cycle timer outcome := by
  by_cases hv : p.verdict cycle timer = .applied
  · have hv' : p.live.verdict cycle timer = .applied := hv
    rw [complete_of_applied hv, complete_of_applied hv']
    rfl
  · have hv' : p.live.verdict cycle timer ≠ .applied := hv
    have hq : (Event.completed cycle timer p.clock outcome (p.verdict cycle timer)).isOutlived
        = false := by
      cases he : p.verdict cycle timer with
      | outlived => simp [verdict_eq_outlived_iff.mp he] at h
      | _ => rfl
    rw [complete_of_ne_applied hv, complete_of_ne_applied hv']
    unfold live emit
    simp only [quiet_cons_of_quiet hq]
    rfl

/-- A completion after the end of its timer leaves nothing. -/
theorem complete_live_of_not_active {p : Poller} {timer : Nat} (cycle : Nat) (outcome : Fetch.Outcome)
    (h : p.isActive timer = false) : (p.complete cycle timer outcome).live = p.live := by
  have hv : p.verdict cycle timer = .outlived := verdict_eq_outlived_iff.mpr h
  have hne : p.verdict cycle timer ≠ .applied := by
    rw [hv]
    exact Verdict.noConfusion
  rw [complete_of_ne_applied hne, hv]
  rfl

theorem scheduled_live {p : Poller} {t : Timer} (h : p.active = some t) (due : Nat) :
    (p.scheduled t due).live = p.live.scheduled t due := by
  have hc : (p.scheduled t due).control = p.control := by simp [control, scheduled, h]
  unfold live
  rw [isActive_congr hc, isLiveTask_congr hc]
  rfl

theorem firstTick_live (p : Poller) (timer : Nat) :
    (p.firstTick timer).live = p.live.firstTick timer := by
  cases h : p.isActive timer with
  | false =>
    have h' : p.live.isActive timer = false := h
    rw [firstTick_of_not_active h, firstTick_of_not_active h']
  | true =>
    obtain ⟨t, ht, hn⟩ := isActive_iff.mp h
    have ht' : p.live.active = some t := ht
    rw [firstTick_of_active ht hn, firstTick_of_active ht' hn]
    by_cases hr : p.reached < p.clock
    · rw [if_pos hr, if_pos (by exact hr), scheduled_live ht]
      rfl
    · have ha : (p.scheduled t (p.clock + t.interval)).isActive t.number = true :=
        isActive_iff.mpr ⟨_, rfl, rfl⟩
      rw [if_neg hr, if_neg (by exact hr), issue_live ha, scheduled_live ht]
      rfl

theorem perform_live (p : Poller) (task : Task) :
    (p.perform task).live = if p.isLiveTask task then p.live.perform task else p.live := by
  cases task with
  | firstTick timer => exact p.firstTick_live timer
  | completion cycle timer outcome =>
    cases h : p.isActive timer with
    | false =>
      have hl : p.isLiveTask (.completion cycle timer outcome) = false := h
      rw [hl]
      exact complete_live_of_not_active cycle outcome h
    | true =>
      have hl : p.isLiveTask (.completion cycle timer outcome) = true := h
      rw [hl]
      exact complete_live outcome h

@[simp] theorem perform_control (p : Poller) (task : Task) : (p.perform task).control = p.control := by
  obtain ⟨es, hes⟩ := perform_moves (p := { p with ready := task :: p.ready }) rfl
  exact hes.control

theorem foldl_perform_live (tasks : List Task) (p : Poller) :
    (tasks.foldl perform p).live = (tasks.filter p.isLiveTask).foldl perform p.live := by
  induction tasks generalizing p with
  | nil => rfl
  | cons task tasks ih =>
    rw [List.foldl_cons, ih, isLiveTask_congr (p.perform_control task), perform_live]
    cases h : p.isLiveTask task with
    | false => simp [h]
    | true => simp [h]

theorem runReady_live (p : Poller) : p.runReady.live = p.live.runReady :=
  foldl_perform_live p.ready { p with ready := [] }

theorem drain_live (p : Poller) : p.drain.live = p.live.drain := by
  rw [drain, drain, runReady_live, runReady_live]

theorem foldl_issue_live {timer : Nat} (dues : List Nat) {p : Poller} (h : p.isActive timer = true) :
    (dues.foldl (fun q due => q.issue timer due) p).live
      = dues.foldl (fun q due => q.issue timer due) p.live := by
  induction dues generalizing p with
  | nil => rfl
  | cons due dues ih =>
    have ha : (p.issue timer due).isActive timer = true := by
      rw [isActive_congr (q := p) (by simp [control]), h]
    rw [List.foldl_cons, List.foldl_cons, ih ha, issue_live h]

theorem fire_live (p : Poller) : p.fire.live = p.live.fire := by
  cases h : p.due? with
  | none =>
    have h' : p.live.due? = none := h
    rw [fire_of_idle h, fire_of_idle h']
    rfl
  | some due =>
    obtain ⟨t, ht, hd⟩ := due?_eq_some_iff.mp h
    have ht' : { p with reached := p.clock }.active = some t := ht
    have ha (due : Nat) : ({ p with reached := p.clock }.scheduled t due).isActive t.number = true :=
      isActive_iff.mpr ⟨_, rfl, rfl⟩
    rw [fire_of_due ht hd, foldl_issue_live _ (ha _), scheduled_live ht']
    exact (fire_of_due (p := p.live) ht hd).symm

theorem wake_live (p : Poller) : p.wake.live = p.live.wake := by
  rcases p.wake_cases with ⟨t, due, ht, hd, hle⟩ | hahead
  · have ha : (p.scheduled t (Schedule.nextDue t.interval p.clock due)).isActive t.number = true :=
      isActive_iff.mpr ⟨_, rfl, rfl⟩
    rw [wake_of_reached ht hd hle, issue_live ha, scheduled_live ht]
    exact (wake_of_reached (p := p.live) ht hd hle).symm
  · have hahead' : ∀ due, p.live.due? = some due → p.live.reached < due := hahead
    rw [wake_of_ahead hahead, wake_of_ahead hahead']

theorem settle_live (p : Poller) : p.settle.live = p.live.settle := by
  rw [settle, settle, drain_live, fire_live, drain_live, wake_live]

theorem advance_live (p : Poller) (target : Nat) : (p.advance target).live = p.live.advance target := by
  fun_induction advance p target with
  | case1 p hlt q due hdue hbetween ih =>
    have hlt' : p.live.clock < target := hlt
    have hdue' : p.live.settle.due? = some due := by rw [← settle_live]; exact hdue
    rw [ih, advance.eq_def p.live, if_pos hlt']
    simp only [hdue']
    rw [if_pos (by exact hbetween), ← settle_live]
    rfl
  | case2 p hlt q due hdue hout =>
    have hlt' : p.live.clock < target := hlt
    have hdue' : p.live.settle.due? = some due := by rw [← settle_live]; exact hdue
    rw [advance.eq_def p.live, if_pos hlt']
    simp only [hdue']
    rw [if_neg (by exact hout), ← settle_live]
    rfl
  | case3 p hlt q hdue =>
    have hlt' : p.live.clock < target := hlt
    have hdue' : p.live.settle.due? = none := by rw [← settle_live]; exact hdue
    rw [advance.eq_def p.live, if_pos hlt']
    simp only [hdue']
    rw [← settle_live]
    rfl
  | case4 p hge =>
    have hge' : ¬ p.live.clock < target := hge
    rw [advance.eq_def p.live, if_neg hge']

theorem isActive_of_active_eq_none {p : Poller} (h : p.active = none) (timer : Nat) :
    p.isActive timer = false := by
  simp [isActive, h]

/-- Without an active timer nothing waits, and only first runs of timers are ready. -/
theorem live_of_active_eq_none {p : Poller} (h : p.active = none) :
    p.live = { p with
      waiting := []
      ready := p.ready.filter (fun task => task.pending?.isNone)
      trace := quiet p.trace } := by
  have hw : p.waiting.filter (fun w => p.isActive w.timer) = [] := by
    simp [isActive_of_active_eq_none h]
  have hr : p.ready.filter p.isLiveTask = p.ready.filter (fun task => task.pending?.isNone) := by
    congr 1
    funext task
    cases task with
    | firstTick timer => rfl
    | completion cycle timer outcome => exact isActive_of_active_eq_none h timer
  unfold live
  rw [hw, hr]

theorem stop_live (p : Poller) : p.stop.live = p.live.stop.live := by
  rw [live_of_active_eq_none p.stop_active, live_of_active_eq_none p.live.stop_active]
  have hready : (p.ready.filter p.isLiveTask).filter (fun task => task.pending?.isNone)
      = p.ready.filter (fun task => task.pending?.isNone) := by
    rw [List.filter_filter]
    congr 1
    funext task
    cases task <;> simp [Task.pending?, isLiveTask]
  cases h : p.isRunning with
  | true =>
    have h' : p.live.isRunning = true := h
    have hq : quiet (.stopped :: quiet p.trace) = quiet (.stopped :: p.trace) := by
      rw [quiet_cons_of_quiet rfl, quiet_quiet, quiet_cons_of_quiet rfl]
    simp only [stop, h, h', if_true, emit, live_ready, live_trace, hready, hq]
    rfl
  | false =>
    have h' : p.live.isRunning = false := h
    simp only [stop, h, h', Bool.false_eq_true, if_false, live_ready, live_trace, hready, quiet_quiet]
    rfl

/-- A new timer is none of those that had cycles before. -/
theorem launch_live {p : Poller} (ha : p.active = none) (hp : ∀ w ∈ p.pending, w.timer ≤ p.timers)
    (interval : Nat) (h : 0 < interval) :
    (p.launch interval h).live = p.live.launch interval h := by
  have hactive (timer : Nat) (ht : timer ≤ p.timers) :
      (p.launch interval h).isActive timer = false := by
    have hne : p.timers + 1 ≠ timer := by omega
    simpa [isActive, launch] using hne
  have hw : p.waiting.filter (fun w => (p.launch interval h).isActive w.timer) = [] := by
    refine List.filter_eq_nil_iff.mpr ?_
    intro w hmem
    simp [hactive w.timer (hp w (List.mem_append_left _ hmem))]
  have hr : p.ready.filter (p.launch interval h).isLiveTask
      = p.ready.filter (fun task => task.pending?.isNone) := by
    refine List.filter_congr ?_
    intro task hmem
    cases task with
    | firstTick timer => rfl
    | completion cycle timer outcome =>
      have hpending : ⟨cycle, timer⟩ ∈ p.pending :=
        List.mem_append_right _ (List.mem_filterMap.mpr ⟨_, hmem, rfl⟩)
      exact hactive timer (hp _ hpending)
  have hready : (p.launch interval h).ready.filter (p.launch interval h).isLiveTask
      = p.ready.filter (fun task => task.pending?.isNone) ++ [.firstTick (p.timers + 1)] := by
    rw [← hr]
    exact List.filter_append ..
  rw [live_of_active_eq_none ha]
  unfold live
  rw [hready]
  simp only [launch, emit] at hw ⊢
  rw [hw]
  rfl

section Release
variable {p : Poller} {cycle : Nat} (outcome : Fetch.Outcome)

/-- An answer for a cycle of the active timer. -/
theorem release_live (h : ∀ w ∈ p.waiting, w.cycle = cycle → p.isActive w.timer = true) :
    (p.release? cycle outcome).map live = p.live.release? cycle outcome := by
  have hfind : p.live.waiting.find? (·.cycle = cycle) = p.waiting.find? (·.cycle = cycle) := by
    refine List.find?_filter.trans (List.find?_congr ?_)
    intro w hw
    by_cases hc : w.cycle = cycle
    · simp [hc, h w hw hc]
    · simp [hc]
  have hrest : (p.waiting.filter (·.cycle ≠ cycle)).filter (fun w => p.isActive w.timer)
      = p.live.waiting.filter (·.cycle ≠ cycle) := List.filter_comm ..
  unfold release?
  rw [hfind]
  cases hw : p.waiting.find? (·.cycle = cycle) with
  | none => rfl
  | some w =>
    have hc : w.cycle = cycle := by simpa using List.find?_some hw
    have hl : p.isActive w.timer = true := h w (List.mem_of_find?_eq_some hw) hc
    have hready : (p.ready ++ [Task.completion cycle w.timer outcome]).filter p.isLiveTask
        = p.live.ready ++ [.completion cycle w.timer outcome] := by
      simp [isLiveTask, hl]
    rw [Option.map_some, Option.map_some, Option.map_some, ← hrest, ← hready]
    rfl

/-- An answer for a cycle of a timer that has ended. -/
theorem release_live_of_not_active
    (h : ∀ w ∈ p.waiting, w.cycle = cycle → p.isActive w.timer = false) :
    ((p.release? cycle outcome).getD p).live = p.live := by
  cases hr : p.release? cycle outcome with
  | none => rfl
  | some q =>
    obtain ⟨w, hw, hc, rfl⟩ := release?_eq_some hr
    have hl : p.isActive w.timer = false := h w hw hc
    have hwaiting : (p.waiting.filter (·.cycle ≠ cycle)).filter (fun w => p.isActive w.timer)
        = p.live.waiting := by
      refine (List.filter_comm ..).trans (List.filter_eq_self.mpr ?_)
      intro x hx
      obtain ⟨hx, ha⟩ := List.mem_filter.mp hx
      have hne : x.cycle ≠ cycle := fun he => by simp [h x hx he] at ha
      simpa using hne
    have hready : (p.ready ++ [Task.completion cycle w.timer outcome]).filter p.isLiveTask
        = p.live.ready := by
      simp [isLiveTask, hl]
    exact congrArg₂ (fun waiting ready => { p.live with waiting := waiting, ready := ready })
      hwaiting hready

end Release

end QueueBoard.Poller
