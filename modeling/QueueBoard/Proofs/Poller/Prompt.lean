import QueueBoard.Proofs.Poller.Outcomes
import QueueBoard.Proofs.Poller.Schedules

/-! # Prompt answers

Where every cycle is answered at once, the completions are ready in the order in which their cycles were
issued, and none of them is discarded. So there is a poll for every tick of the schedule.
-/
namespace QueueBoard.Poller

/-- The cycles whose completions are ready. -/
def queue (p : Poller) : List Waiting := p.ready.filterMap Task.pending?

/-- A poller whose cycles are all answered at once up to the one with a number. -/
structure Prompt (limit : Nat) (p : Poller) : Prop where
  waiting : p.waiting = []
  script : ∀ answer ∈ p.script, ∃ outcome, answer = .now outcome
  limit_le : limit ≤ p.cycles + p.script.length
  active : ∀ w ∈ p.queue, p.isActive w.timer = true
  latest_le : p.latest ≤ p.cycles
  ahead : ∀ w ∈ p.queue, p.latest ≤ w.cycle ∧ w.cycle ≤ p.cycles
  increasing : (p.queue.map Waiting.cycle).Pairwise (· < ·)

/-- From one poller to another one, every cycle that is issued becomes a poll or is ready to. -/
def Keeping (p : Poller) (es : List Event) (q : Poller) : Prop :=
  (polls es).length + q.queue.length + p.cycles = p.queue.length + q.cycles

theorem queue_of_firstTick {p : Poller} {timer : Nat} {rest : List Task}
    (hr : p.ready = .firstTick timer :: rest) : p.queue = rest.filterMap Task.pending? := by
  rw [queue, hr]
  rfl

theorem queue_of_completion {p : Poller} {cycle timer : Nat} {outcome : Fetch.Outcome} {rest : List Task}
    (hr : p.ready = .completion cycle timer outcome :: rest) :
    p.queue = ⟨cycle, timer⟩ :: rest.filterMap Task.pending? := by
  rw [queue, hr]
  rfl

theorem keeping_of_same {p q : Poller} (hqueue : q.queue = p.queue) (hcycles : q.cycles = p.cycles) :
    p.Keeping [] q := by
  simp [Keeping, hqueue, hcycles, polls]

namespace Prompt
variable {limit : Nat} {p q : Poller} (h : p.Prompt limit)
include h

/-- A cycle that is still within the limit is answered at once. -/
theorem queue_issue (hlimit : p.cycles < limit) (timer due : Nat) :
    (p.issue timer due).queue = p.queue ++ [⟨p.cycles + 1, timer⟩] ∧
      (p.issue timer due).waiting = p.waiting := by
  have hle := h.limit_le
  cases hs : p.script with
  | nil =>
    rw [hs, List.length_nil] at hle
    omega
  | cons answer script =>
    obtain ⟨outcome, rfl⟩ := h.script answer (by simp [hs])
    simp [queue, issue, emit, hs, Task.pending?]

theorem issue {t : Timer} (ha : p.active = some t) (due : Nat) (hlimit : p.cycles < limit) :
    (p.issue t.number due).Prompt limit := by
  obtain ⟨hqueue, hwaiting⟩ := h.queue_issue hlimit t.number due
  have hlatest : (p.issue t.number due).latest = p.latest := by simp [latest]
  have hactive : (p.issue t.number due).isActive = p.isActive := by
    funext timer
    rw [isActive, isActive, issue_active]
  constructor
  case waiting => rw [hwaiting, h.waiting]
  case script =>
    intro answer hanswer
    rw [issue_script] at hanswer
    exact h.script answer (List.mem_of_mem_tail hanswer)
  case limit_le =>
    have hle := h.limit_le
    rw [issue_cycles, issue_script, List.length_tail]
    omega
  case active =>
    rw [hqueue, hactive, List.forall_mem_append]
    refine ⟨h.active, ?_⟩
    rw [List.forall_mem_singleton]
    exact isActive_iff.mpr ⟨t, ha, rfl⟩
  case latest_le =>
    rw [hlatest, issue_cycles]
    exact Nat.le_succ_of_le h.latest_le
  case ahead =>
    rw [hqueue, hlatest, issue_cycles, List.forall_mem_append, List.forall_mem_singleton]
    refine ⟨?_, Nat.le_succ_of_le h.latest_le, Nat.le_refl _⟩
    intro w hw
    exact (h.ahead w hw).imp_right Nat.le_succ_of_le
  case increasing =>
    rw [hqueue, List.map_append, List.pairwise_append]
    refine ⟨h.increasing, List.pairwise_singleton .., ?_⟩
    intro cycle hcycle last hlast
    obtain ⟨w, hw, rfl⟩ := List.mem_map.mp hcycle
    obtain rfl : last = p.cycles + 1 := List.mem_singleton.mp hlast
    exact Nat.lt_succ_of_le (h.ahead w hw).2

/-- Nothing but the issue and the completion of cycles matters. -/
theorem of_same (hwaiting : q.waiting = p.waiting) (hscript : q.script = p.script)
    (hcycles : q.cycles = p.cycles) (hlatest : q.latest = p.latest) (hqueue : q.queue = p.queue)
    (hcontrol : q.control = p.control) : q.Prompt limit where
  waiting := hwaiting.trans h.waiting
  script := hscript ▸ h.script
  limit_le := by
    rw [hcycles, hscript]
    exact h.limit_le
  active := by
    intro w hw
    rw [isActive_eq_decide, hcontrol, ← isActive_eq_decide]
    exact h.active w (hqueue ▸ hw)
  latest_le := by
    rw [hlatest, hcycles]
    exact h.latest_le
  ahead := by
    rw [hqueue, hlatest, hcycles]
    exact h.ahead
  increasing := by
    rw [hqueue]
    exact h.increasing

/-- The completion in front is applied, and those behind it are of later cycles. -/
theorem apply {cycle timer : Nat} {outcome : Fetch.Outcome} {rest : List Task}
    (hr : p.ready = .completion cycle timer outcome :: rest) (hqueue : q.queue = rest.filterMap Task.pending?)
    (hwaiting : q.waiting = p.waiting) (hscript : q.script = p.script) (hcycles : q.cycles = p.cycles)
    (hlatest : q.latest = cycle) (hcontrol : q.control = p.control) : q.Prompt limit := by
  have hfront : p.queue = ⟨cycle, timer⟩ :: q.queue := hqueue ▸ queue_of_completion hr
  have hincreasing := h.increasing
  have hahead := h.ahead
  have hactive := h.active
  rw [hfront, List.map_cons, List.pairwise_cons] at hincreasing
  rw [hfront, List.forall_mem_cons] at hahead hactive
  constructor
  case waiting => exact hwaiting.trans h.waiting
  case script => exact hscript ▸ h.script
  case limit_le =>
    rw [hcycles, hscript]
    exact h.limit_le
  case active =>
    intro w hw
    rw [isActive_eq_decide, hcontrol, ← isActive_eq_decide]
    exact hactive.2 w hw
  case latest_le =>
    rw [hlatest, hcycles]
    exact hahead.1.2
  case ahead =>
    intro w hw
    rw [hlatest, hcycles]
    exact ⟨Nat.le_of_lt (hincreasing.1 w.cycle (List.mem_map_of_mem hw)), (hahead.2 w hw).2⟩
  case increasing => exact hincreasing.2

/-- Within the limit no completion is discarded. -/
theorem move {es : List Event} (hm : Move p es q) (hlimit : q.cycles ≤ limit) :
    q.Prompt limit ∧ p.Keeping es q := by
  have hcontrol := hm.control
  cases hm with
  | pass => exact ⟨h.of_same rfl rfl rfl rfl rfl hcontrol, keeping_of_same rfl rfl⟩
  | leave hr =>
    have hqueue := (queue_of_firstTick hr).symm
    exact ⟨h.of_same rfl rfl rfl rfl hqueue hcontrol, keeping_of_same hqueue rfl⟩
  | schedule => exact ⟨h.of_same rfl rfl rfl rfl rfl hcontrol, keeping_of_same rfl rfl⟩
  | @issue t due ha =>
    rw [issue_cycles] at hlimit
    refine ⟨h.issue ha due hlimit, ?_⟩
    have hquiet : polls [.issued (p.cycles + 1) t.number due p.clock] = [] := rfl
    rw [Keeping, hquiet, (h.queue_issue hlimit t.number due).1, issue_cycles, List.length_append,
      List.length_nil, List.length_singleton]
    omega
  | @apply cycle timer outcome rest hr hv =>
    refine ⟨h.apply hr rfl rfl rfl rfl ?_ hcontrol, ?_⟩
    · simp [latest, applied]
    · have hfront := congrArg List.length (queue_of_completion hr)
      rw [List.length_cons] at hfront
      change 1 + (rest.filterMap Task.pending?).length + p.cycles = p.queue.length + p.cycles
      omega
  | @discard cycle timer outcome rest hr hv =>
    have hfront : ⟨cycle, timer⟩ ∈ p.queue := queue_of_completion hr ▸ List.mem_cons_self
    exact absurd (verdict_eq_applied_iff.mpr ⟨h.active _ hfront, (h.ahead _ hfront).1⟩) hv

theorem moves {es : List Event} (hm : Moves p es q) (hlimit : q.cycles ≤ limit) :
    q.Prompt limit ∧ p.Keeping es q := by
  induction hm with
  | refl => exact ⟨h, keeping_of_same rfl rfl⟩
  | head hm hs ih =>
    obtain ⟨hq, hfirst⟩ := h.move hm (hs.cycles_le.trans hlimit)
    obtain ⟨hr, hrest⟩ := ih hq hlimit
    refine ⟨hr, ?_⟩
    simp only [Keeping, polls_append, List.length_append] at hfirst hrest ⊢
    omega

/-- No cycle waits for its answer, so a release changes nothing. -/
theorem controlled_eq {s : Step} (hs : s.IsSmooth) : p.controlled s.action = p := by
  cases hs with
  | wait ms => rfl
  | release cycle outcome => rw [controlled_release, release?, h.waiting, List.find?_nil, Option.map_none,
      Option.getD_none]

theorem step {s : Step} (hs : s.IsSmooth) (hp : p.trace = []) (hlimit : (p.step s).1.cycles ≤ limit) :
    (p.step s).1.Prompt limit ∧ p.Keeping (p.step s).2.trace (p.step s).1 := by
  obtain ⟨es, q, hm, hq, -, ht⟩ := p.step_moves s hp
  have hcontrol : p.controlEvents s.action = [] := by cases hs <;> rfl
  rw [h.controlled_eq hs] at hm
  rw [hq] at hlimit ⊢
  rw [ht, hcontrol, List.nil_append]
  obtain ⟨hprompt, hkeeping⟩ := h.moves hm hlimit
  exact ⟨{ hprompt with }, hkeeping⟩

theorem run {steps : List Step} (hs : ∀ s ∈ steps, s.IsSmooth) (hp : p.trace = [])
    (hlimit : (p.afterAll steps).cycles ≤ limit) : p.Keeping (p.events steps) (p.afterAll steps) := by
  induction steps generalizing p with
  | nil => exact keeping_of_same rfl rfl
  | cons s steps ih =>
    obtain ⟨hfirst, hrest⟩ := List.forall_mem_cons.mp hs
    obtain ⟨hnext, hkeeping⟩ := h.step hfirst hp ((cycles_le_afterAll rfl steps).trans hlimit)
    have hlater := ih hnext hrest rfl hlimit
    simp only [Keeping, events_cons, afterAll_cons, polls_append, List.length_append] at hkeeping hlater ⊢
    omega

end Prompt

theorem Step.IsSmooth.settles {s : Step} (hs : s.IsSmooth) : s.settles = true := by
  cases hs <;> rfl

section Start
variable (clock : Nat) {script : List Scripted} (breaks : List Nat) {interval : Nat} (hpos : 0 < interval)
include hpos

end Start
end QueueBoard.Poller
