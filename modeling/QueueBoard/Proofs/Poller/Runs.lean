import Mathlib.Data.List.Induction
import QueueBoard.Proofs.Poller.Moves

/-! # Runs of a poller

What the steps of a run alone tell about its timers is its control. A step is its control, which
leaves at most the end and the start of a timer in the trace, and then moves, which leave the control
as it is. An invariant of controls and moves holds of the past and the present of every run.
-/
namespace QueueBoard.Poller

deriving instance DecidableEq for Event

/-- The timers started, the active one and whether the poller is dropped. -/
structure Control where
  timers : Nat
  active : Option Nat
  dropped : Bool
deriving DecidableEq, Repr

namespace Control

def initial : Control := ⟨0, none, false⟩

/-- Only a start with an interval succeeds, and none does once the poller is dropped. -/
def act (c : Control) : Action → Control
  | .start interval =>
    if c.dropped ∨ interval = 0 then c else ⟨c.timers + 1, some (c.timers + 1), false⟩
  | .stop => { c with active := none }
  | .drop => { c with active := none, dropped := true }
  | _ => c

def afterAll (c : Control) (steps : List Step) : Control :=
  steps.foldl (fun c s => c.act s.action) c

def after (steps : List Step) : Control := initial.afterAll steps

@[simp] theorem afterAll_nil (c : Control) : c.afterAll [] = c := rfl

@[simp] theorem afterAll_cons (c : Control) (s : Step) (steps : List Step) :
    c.afterAll (s :: steps) = (c.act s.action).afterAll steps := rfl

@[simp] theorem afterAll_append (c : Control) (steps more : List Step) :
    c.afterAll (steps ++ more) = (c.afterAll steps).afterAll more := List.foldl_append


@[simp] theorem after_append (steps more : List Step) :
    after (steps ++ more) = (after steps).afterAll more := List.foldl_append

end Control

/-- What a poller knows of its control. -/
def control (p : Poller) : Control := ⟨p.timers, p.active.map (·.number), p.dropped⟩

theorem isActive_eq_decide (p : Poller) (timer : Nat) :
    p.isActive timer = decide (p.control.active = some timer) := by
  unfold isActive control
  cases p.active <;> simp

theorem isActive_iff_control {p : Poller} {timer : Nat} :
    p.isActive timer = true ↔ p.control.active = some timer := by
  rw [isActive_eq_decide, decide_eq_true_eq]

theorem Move.control {p q : Poller} {es : List Event} (h : Move p es q) : q.control = p.control := by
  cases h with
  | schedule due h => simp [Poller.control, scheduled, h]
  | issue due h => simp [Poller.control]
  | _ => rfl

theorem Moves.control {p q : Poller} {es : List Event} (h : Moves p es q) :
    q.control = p.control := by
  induction h with
  | refl => rfl
  | head hm _ ih => rw [ih, hm.control]

/-- The events of an end of the active timer. -/
def stopEvents (p : Poller) : List Event := if p.isRunning then [.stopped] else []

/-- The poller after the control of an action; what is left of the action is to let time pass. -/
def controlled (p : Poller) : Action → Poller
  | .wait _ => p
  | .stall _ => p
  | action => p.act action

/-- The events of the control of an action. -/
def controlEvents (p : Poller) : Action → List Event
  | .start interval =>
    if p.dropped ∨ interval = 0 then [] else p.stopEvents ++ [.started (p.timers + 1) interval]
  | .stop => if p.dropped then [] else p.stopEvents
  | .drop => p.stopEvents
  | _ => []

@[simp] theorem stop_timers (p : Poller) : p.stop.timers = p.timers := by
  unfold stop
  split <;> rfl

@[simp] theorem stop_dropped (p : Poller) : p.stop.dropped = p.dropped := by
  unfold stop
  split <;> rfl

@[simp] theorem stop_cycles (p : Poller) : p.stop.cycles = p.cycles := by
  unfold stop
  split <;> rfl

@[simp] theorem stop_shared (p : Poller) : p.stop.shared = p.shared := by
  unfold stop
  split <;> rfl

@[simp] theorem stop_ready (p : Poller) : p.stop.ready = p.ready := by
  unfold stop
  split <;> rfl

@[simp] theorem stop_script (p : Poller) : p.stop.script = p.script := by
  unfold stop
  split <;> rfl

@[simp] theorem stop_active (p : Poller) : p.stop.active = none := by
  unfold stop
  split
  · rfl
  · rename_i h
    simpa [isRunning] using h

theorem stop_trace (p : Poller) : p.stop.trace = p.stopEvents.reverse ++ p.trace := by
  unfold stop stopEvents
  split <;> rfl

/-- The start of a timer while none is active. -/
def launch (p : Poller) (interval : Nat) (h : 0 < interval) : Poller :=
  { p.emit (.started (p.timers + 1) interval) with
    active := some ⟨p.timers + 1, interval, none, h⟩
    timers := p.timers + 1
    ready := p.ready ++ [.firstTick (p.timers + 1)] }

theorem start_eq_launch (p : Poller) (interval : Nat) (h : 0 < interval) :
    p.start interval h = p.stop.launch interval h := rfl

theorem start_trace (p : Poller) (interval : Nat) (h : 0 < interval) :
    (p.start interval h).trace
      = (p.stopEvents ++ [Event.started (p.timers + 1) interval]).reverse ++ p.trace := by
  simp [start, stop_trace]

theorem release?_eq_some {p q : Poller} {cycle : Nat} {outcome : Fetch.Outcome}
    (h : p.release? cycle outcome = some q) :
    ∃ w ∈ p.waiting, w.cycle = cycle ∧ q = { p with
      waiting := p.waiting.filter (·.cycle ≠ cycle)
      ready := p.ready ++ [.completion cycle w.timer outcome] } := by
  obtain ⟨w, hw, rfl⟩ := Option.map_eq_some_iff.mp h
  exact ⟨w, List.mem_of_find?_eq_some hw, by simpa using List.find?_some hw, rfl⟩

section Controlled
variable (p : Poller)

theorem controlled_start {interval : Nat} (h : ¬ (p.dropped = true ∨ interval = 0)) :
    ∃ hpos, p.controlled (.start interval) = p.start interval hpos := by
  obtain ⟨hd, hi⟩ := not_or.mp h
  have hpos : 0 < interval := Nat.pos_of_ne_zero hi
  exact ⟨hpos, by simp [controlled, act, hd, hpos]⟩

theorem controlled_start_of_refused {interval : Nat} (h : p.dropped = true ∨ interval = 0) :
    p.controlled (.start interval) = p := by
  rcases h with h | rfl
  · simp [controlled, act, h]
  · simp [controlled, act]

theorem controlled_release (cycle : Nat) (outcome : Fetch.Outcome) :
    p.controlled (.release cycle outcome) = (p.release? cycle outcome).getD p := rfl

end Controlled

theorem controlled_trace (p : Poller) (action : Action) :
    (p.controlled action).trace = (p.controlEvents action).reverse ++ p.trace := by
  cases action with
  | start interval =>
    by_cases h : p.dropped = true ∨ interval = 0
    · rw [controlled_start_of_refused p h, controlEvents, if_pos h]
      rfl
    · obtain ⟨hpos, hs⟩ := controlled_start p h
      rw [hs, controlEvents, if_neg h, start_trace]
  | stop =>
    simp only [controlled, act, controlEvents]
    split
    · rfl
    · exact stop_trace p
  | drop => exact stop_trace p
  | wait ms => rfl
  | stall ms => rfl
  | release cycle outcome =>
    rw [controlled_release]
    cases h : p.release? cycle outcome with
    | none => rfl
    | some q =>
      obtain ⟨w, -, -, rfl⟩ := release?_eq_some h
      rfl

/-- What is left of an action after its control is a sequence of moves. -/
theorem act_moves (p : Poller) (action : Action) :
    ∃ es, Moves (p.controlled action) es (p.act action) := by
  cases action with
  | wait ms => exact p.advance_moves (p.clock + ms)
  | stall ms => exact ⟨_, (Move.pass (p.clock + ms) p.reached (Nat.le_add_right _ _)).moves⟩
  | _ => exact ⟨[], .refl _⟩

/-- The poller that a step leaves behind, with its trace. -/
def worked (p : Poller) (s : Step) : Poller :=
  if s.settles then (p.act s.action).settle else p.act s.action

theorem step_snd (p : Poller) (s : Step) : (p.step s).2 = p.answer (p.worked s) s.action := rfl

/-- A step is its control, then moves, and then the trace is handed over. -/
theorem step_moves (p : Poller) (s : Step) (h : p.trace = []) :
    ∃ es q, Moves (p.controlled s.action) es q ∧ (p.step s).1 = { q with trace := [] } ∧
      (p.step s).2 = p.answer q s.action ∧
      (p.step s).2.trace = p.controlEvents s.action ++ es := by
  obtain ⟨es, hes⟩ := p.act_moves s.action
  have htrace {fs : List Event} {q : Poller} (hq : Moves (p.controlled s.action) fs q) :
      q.trace.reverse = p.controlEvents s.action ++ fs := by
    rw [hq.trace, controlled_trace, h]
    simp
  by_cases hs : s.settles = true
  · obtain ⟨fs, hfs⟩ := (p.act s.action).settle_moves
    have hm := hes.trans hfs
    refine ⟨es ++ fs, (p.act s.action).settle, hm, ?_, ?_, ?_⟩
    · simp [step, hs]
    · simp [step, hs]
    · simpa [step, hs, answer] using htrace hm
  · refine ⟨es, p.act s.action, hes, ?_, ?_, ?_⟩
    · simp [step, hs]
    · simp [step, hs]
    · simpa [step, hs, answer] using htrace hes


@[simp] theorem run_append (p : Poller) (steps more : List Step) :
    p.run (steps ++ more) = p.run steps ++ (p.afterAll steps).run more := by
  induction steps generalizing p with
  | nil => rfl
  | cons s steps ih => simp [run, afterAll, ih]

@[simp] theorem length_run (p : Poller) (steps : List Step) : (p.run steps).length = steps.length := by
  induction steps generalizing p with
  | nil => rfl
  | cons s steps ih => simp [run, ih]

/-- An answer of a run is that of a step after those before it. -/
theorem run_eq_append_cons {p : Poller} {steps : List Step} {answers more : List Answer} {a : Answer}
    (h : p.run steps = answers ++ a :: more) :
    ∃ earlier s later, steps = earlier ++ s :: later ∧ answers = p.run earlier ∧
      a = ((p.afterAll earlier).step s).2 ∧ more = (p.afterAll (earlier ++ [s])).run later := by
  induction steps generalizing p answers with
  | nil => simp [run] at h
  | cons s steps ih =>
    cases answers with
    | nil =>
      obtain ⟨rfl, rfl⟩ := List.cons.inj h
      exact ⟨[], s, steps, rfl, rfl, rfl, rfl⟩
    | cons b answers =>
      obtain ⟨rfl, hrest⟩ := List.cons.inj h
      obtain ⟨earlier, s', later, rfl, rfl, rfl, rfl⟩ := ih hrest
      exact ⟨s :: earlier, s', later, rfl, rfl, rfl, rfl⟩

@[simp] theorem afterAll_append (p : Poller) (steps more : List Step) :
    p.afterAll (steps ++ more) = (p.afterAll steps).afterAll more := List.foldl_append

@[simp] theorem afterAll_nil (p : Poller) : p.afterAll [] = p := rfl

@[simp] theorem afterAll_cons (p : Poller) (s : Step) (steps : List Step) :
    p.afterAll (s :: steps) = (p.step s).1.afterAll steps := rfl

@[simp] theorem events_nil (p : Poller) : p.events [] = [] := rfl

@[simp] theorem events_cons (p : Poller) (s : Step) (steps : List Step) :
    p.events (s :: steps) = (p.step s).2.trace ++ (p.step s).1.events steps := by
  simp [events, run]

@[simp] theorem events_append (p : Poller) (steps more : List Step) :
    p.events (steps ++ more) = p.events steps ++ (p.afterAll steps).events more := by
  simp [events]

theorem afterAll_trace (p : Poller) (steps : List Step) (h : p.trace = []) :
    (p.afterAll steps).trace = [] := by
  induction steps generalizing p with
  | nil => exact h
  | cons s steps ih => exact ih _ rfl

/-- An event of a run is an event of one of its steps. -/
theorem events_eq_append_cons {p : Poller} {steps : List Step} {before after : List Event} {e : Event}
    (h : p.events steps = before ++ e :: after) :
    ∃ earlier s later pre post, steps = earlier ++ s :: later ∧
      ((p.afterAll earlier).step s).2.trace = pre ++ e :: post ∧ before = p.events earlier ++ pre := by
  induction steps generalizing p before with
  | nil => simp at h
  | cons s steps ih =>
    rw [events_cons] at h
    have hlater {rest : List Event} (hr : (p.step s).1.events steps = rest ++ e :: after)
        (hb : before = (p.step s).2.trace ++ rest) : ∃ earlier s' later pre post,
          s :: steps = earlier ++ s' :: later ∧
          ((p.afterAll earlier).step s').2.trace = pre ++ e :: post ∧
          before = p.events earlier ++ pre := by
      obtain ⟨earlier, s', later, pre, post, rfl, ht, rfl⟩ := ih hr
      exact ⟨s :: earlier, s', later, pre, post, rfl, ht, by simp [hb]⟩
    rcases List.append_eq_append_iff.mp h with ⟨rest, hb, hr⟩ | ⟨rest, ht, hr⟩
    · exact hlater hr hb
    · cases rest with
      | nil => exact @hlater [] hr.symm (by simpa using ht.symm)
      | cons x post =>
        obtain ⟨rfl, -⟩ := List.cons.inj hr
        exact ⟨[], s, steps, before, post, rfl, ht, by simp⟩

/-- A property of the past and the present of a poller that neither a control nor a move breaks. -/
structure Invariant (I : List Event → Poller → Prop) : Prop where
  stop : ∀ {past : List Event} {p : Poller}, I past p → I (past ++ p.stopEvents) p.stop
  launch : ∀ {past : List Event} {p : Poller} (interval : Nat) (h : 0 < interval), I past p →
    p.active = none → p.dropped = false →
      I (past ++ [.started (p.timers + 1) interval]) (p.launch interval h)
  drop : ∀ {past : List Event} {p : Poller}, I past p → p.active = none →
    I past { p with dropped := true }
  release : ∀ {past : List Event} {p q : Poller} {cycle : Nat} {outcome : Fetch.Outcome}, I past p →
    p.release? cycle outcome = some q → I past q
  move : ∀ {past es : List Event} {p q : Poller}, I past p → Move p es q → I (past ++ es) q
  handOver : ∀ {past : List Event} {p : Poller}, I past p → I past { p with trace := [] }

namespace Invariant
variable {I : List Event → Poller → Prop} (hI : Invariant I)
include hI

theorem control {past : List Event} {p : Poller} (h : I past p) (action : Action) :
    I (past ++ p.controlEvents action) (p.controlled action) := by
  have hsame : I (past ++ []) p := by simpa using h
  cases action with
  | start interval =>
    by_cases hs : p.dropped = true ∨ interval = 0
    · rw [controlled_start_of_refused p hs, controlEvents, if_pos hs]
      exact hsame
    · obtain ⟨hpos, he⟩ := controlled_start p hs
      have hd : p.stop.dropped = false := by simpa using (not_or.mp hs).1
      have hl := hI.launch interval hpos (hI.stop h) p.stop_active hd
      rw [he, controlEvents, if_neg hs, start_eq_launch]
      simpa using hl
  | stop =>
    by_cases hd : p.dropped = true
    · simpa [controlled, act, controlEvents, hd] using h
    · simpa [controlled, act, controlEvents, hd] using hI.stop h
  | drop => exact hI.drop (hI.stop h) p.stop_active
  | wait ms => exact hsame
  | stall ms => exact hsame
  | release cycle outcome =>
    rw [controlled_release]
    cases hr : p.release? cycle outcome with
    | none => exact hsame
    | some q => simpa [controlEvents] using hI.release h hr

theorem moves {past es : List Event} {p q : Poller} (h : I past p) (hm : Moves p es q) :
    I (past ++ es) q := by
  induction hm generalizing past with
  | refl => simpa using h
  | head hm _ ih =>
    rw [← List.append_assoc]
    exact ih (hI.move h hm)

theorem controlMoves {past es : List Event} {p q : Poller} (h : I past p) {action : Action}
    (hm : Moves (p.controlled action) es q) : I (past ++ (p.controlEvents action ++ es)) q := by
  rw [← List.append_assoc]
  exact hI.moves (hI.control h action) hm

theorem step {past : List Event} {p : Poller} (h : I past p) (hp : p.trace = []) (s : Step) :
    I (past ++ (p.step s).2.trace) (p.step s).1 := by
  obtain ⟨es, q, hm, hq, -, ht⟩ := p.step_moves s hp
  rw [hq, ht]
  exact hI.handOver (hI.controlMoves h hm)

theorem afterAll {past : List Event} {p : Poller} (h : I past p) (hp : p.trace = [])
    (steps : List Step) : I (past ++ p.events steps) (p.afterAll steps) := by
  induction steps generalizing past p with
  | nil => simpa using h
  | cons s steps ih =>
    rw [events_cons, afterAll_cons, ← List.append_assoc]
    exact ih (hI.step h hp s) rfl

end Invariant

/-- A number of cycles has been issued, if not more. -/
def HasIssued (count : Nat) (_ : List Event) (p : Poller) : Prop := count ≤ p.cycles

theorem hasIssued_invariant (count : Nat) : Invariant (HasIssued count) where
  stop := by
    intro past p h
    unfold HasIssued
    rw [stop_cycles]
    exact h
  launch := fun _ _ h _ _ => h
  drop := fun h _ => h
  release := by
    intro past p q cycle outcome h hr
    obtain ⟨w, -, -, rfl⟩ := release?_eq_some hr
    exact h
  move := fun h hm => Nat.le_trans h hm.cycles_le
  handOver := fun h => h

theorem cycles_le_afterAll {p : Poller} (hp : p.trace = []) (steps : List Step) :
    p.cycles ≤ (p.afterAll steps).cycles := by
  have h : HasIssued p.cycles [] p := Nat.le_refl _
  exact (hasIssued_invariant p.cycles).afterAll h hp steps

/-- Whether an event tells of a control. -/
def Event.isControl : Event → Bool
  | .started _ _ => true
  | .stopped => true
  | _ => false

theorem isControl_of_mem_stopEvents (p : Poller) : ∀ e ∈ p.stopEvents, e.isControl = true := by
  intro e he
  unfold stopEvents at he
  split at he
  · rw [List.mem_singleton.mp he]
    rfl
  · cases he

theorem isControl_of_mem_controlEvents {p : Poller} {action : Action} {e : Event}
    (h : e ∈ p.controlEvents action) : e.isControl = true := by
  have hstop := p.isControl_of_mem_stopEvents
  cases action with
  | start interval =>
    simp only [controlEvents] at h
    split at h
    · cases h
    · rcases List.mem_append.mp h with h | h
      · exact hstop e h
      · rw [List.mem_singleton.mp h]
        rfl
  | stop =>
    simp only [controlEvents] at h
    split at h
    · cases h
    · exact hstop e h
  | drop => exact hstop e h
  | wait ms => cases h
  | stall ms => cases h
  | release cycle outcome => cases h

/-- A dropped poller has no timer. -/
def DroppedIdle (_ : List Event) (p : Poller) : Prop := p.dropped = true → p.active = none

theorem droppedIdle_invariant : Invariant DroppedIdle where
  stop := fun _ _ => stop_active _
  launch := by
    intro past p interval hpos _ _ hd h
    exact absurd h (by simp [launch, emit, hd])
  drop := fun _ ha _ => ha
  release := by
    intro past p q cycle outcome h hr
    obtain ⟨w, -, -, rfl⟩ := release?_eq_some hr
    exact h
  move := by
    intro past es p q h hm hd
    have hc := hm.control
    simp only [Poller.control, Control.mk.injEq] at hc
    rw [hc.2.2] at hd
    simpa [h hd] using hc.2.1
  handOver := fun h => h

theorem control_controlled {p : Poller} (h : p.dropped = true → p.active = none) (action : Action) :
    (p.controlled action).control = p.control.act action := by
  cases action with
  | start interval =>
    by_cases hs : p.dropped = true ∨ interval = 0
    · rw [controlled_start_of_refused p hs]
      simp [Control.act, control, hs]
    · obtain ⟨hpos, he⟩ := controlled_start p hs
      have hd : p.dropped = false := by simpa using (not_or.mp hs).1
      rw [he]
      simp [Control.act, control, start, emit, hd, Nat.ne_of_gt hpos]
  | stop =>
    by_cases hd : p.dropped = true
    · simp [controlled, act, control, Control.act, hd, h hd]
    · simp [controlled, act, control, Control.act, hd]
  | drop => simp [controlled, act, drop, control, Control.act]
  | wait ms => rfl
  | stall ms => rfl
  | release cycle outcome =>
    rw [controlled_release]
    cases hr : p.release? cycle outcome with
    | none => rfl
    | some q =>
      obtain ⟨w, -, -, rfl⟩ := release?_eq_some hr
      rfl

/-- An event of a step that is not of its control is an event of a move. -/
theorem step_at_event {p : Poller} {s : Step} {before after : List Event} {e : Event}
    (hp : p.trace = []) (h : (p.step s).2.trace = before ++ e :: after) (he : e.isControl = false) :
    ∃ es q post fs q', Moves (p.controlled s.action) es q ∧ Move q (post ++ e :: fs) q' ∧
      before = p.controlEvents s.action ++ es ++ post := by
  obtain ⟨es, r, hm, -, -, ht⟩ := p.step_moves s hp
  rw [ht] at h
  have hes : ∃ pre, before = p.controlEvents s.action ++ pre ∧ es = pre ++ e :: after := by
    rcases List.append_eq_append_iff.mp h with ⟨pre, h1, h2⟩ | ⟨pre, h1, h2⟩
    · exact ⟨pre, h1, h2⟩
    · cases pre with
      | nil => exact ⟨[], by simpa using h1.symm, by simpa using h2.symm⟩
      | cons x pre =>
        obtain ⟨rfl, -⟩ := List.cons.inj h2
        have hmem : e ∈ p.controlEvents s.action := by simp [h1]
        rw [isControl_of_mem_controlEvents hmem] at he
        cases he
  obtain ⟨pre, rfl, hpre⟩ := hes
  obtain ⟨q, q', es', post, fs, gs, hq, hmove, -, rfl, -⟩ := hm.at_event hpre
  exact ⟨es', q, post, fs, q', hq, hmove, by simp⟩

/-- The present in which an event of a step happens, unless it is of the control. -/
theorem Invariant.at_event {I : List Event → Poller → Prop} (hI : Invariant I)
    {past before after : List Event} {p : Poller} {s : Step} {e : Event} (h : I past p)
    (hd : p.dropped = true → p.active = none) (hp : p.trace = [])
    (ht : (p.step s).2.trace = before ++ e :: after) (he : e.isControl = false) :
    ∃ pre post fs q q', before = pre ++ post ∧ I (past ++ pre) q ∧
      q.control = p.control.act s.action ∧ Move q (post ++ e :: fs) q' := by
  obtain ⟨es, q, post, fs, q', hms, hm, rfl⟩ := step_at_event hp ht he
  have hc : q.control = p.control.act s.action := by rw [hms.control, control_controlled hd]
  exact ⟨_, post, fs, q, q', rfl, hI.controlMoves h hms, hc, hm⟩

theorem control_afterAll {p : Poller} (hd : p.dropped = true → p.active = none) (hp : p.trace = [])
    (steps : List Step) : (p.afterAll steps).control = p.control.afterAll steps := by
  induction steps generalizing p with
  | nil => rfl
  | cons s steps ih =>
    obtain ⟨es, q, hm, hq, -, -⟩ := p.step_moves s hp
    have hc : (p.step s).1.control = p.control.act s.action := by
      rw [hq, ← control_controlled hd, ← hm.control]
      rfl
    have hidle : DroppedIdle [] p := hd
    have hd' := droppedIdle_invariant.step hidle hp s
    rw [afterAll_cons, ih hd' rfl, hc, Control.afterAll_cons]

section New
variable (clock : Nat) (script : List Scripted) (breaks : List Nat) (steps : List Step)

theorem droppedIdle_afterAll :
    ((new clock script breaks).afterAll steps).dropped = true →
      ((new clock script breaks).afterAll steps).active = none := by
  have h : DroppedIdle [] (new clock script breaks) := fun hd => by cases hd
  exact droppedIdle_invariant.afterAll h rfl steps

/-- The steps alone tell which timer is active. -/
theorem control_after : ((new clock script breaks).afterAll steps).control = Control.after steps :=
  control_afterAll (fun hd => by cases hd) rfl steps

end New
end QueueBoard.Poller
