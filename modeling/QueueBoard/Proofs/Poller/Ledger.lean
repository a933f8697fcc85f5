import Mathlib.Data.List.Nodup
import QueueBoard.Proofs.Poller.Runs

/-! # The ledger of cycles

Cycles are numbered from one without gaps. Every cycle that has been issued is pending, which means
that it waits for its answer or that its completion is ready, or it has been completed, and never both.
-/
namespace QueueBoard.Poller

def Event.issue? : Event → Option Waiting
  | .issued cycle timer _ _ => some ⟨cycle, timer⟩
  | _ => none

def Event.completion? : Event → Option Waiting
  | .completed cycle timer _ _ _ => some ⟨cycle, timer⟩
  | _ => none

def Task.pending? : Task → Option Waiting
  | .completion cycle timer _ => some ⟨cycle, timer⟩
  | .firstTick _ => none

/-- The cycles issued, each with its timer. -/
def issues (past : List Event) : List Waiting := past.filterMap Event.issue?

/-- The cycles completed, applied or not. -/
def completions (past : List Event) : List Waiting := past.filterMap Event.completion?

/-- The cycles that have not been completed. -/
def pending (p : Poller) : List Waiting := p.waiting ++ p.ready.filterMap Task.pending?

section Projections
variable (past more : List Event)

@[simp] theorem issues_append : issues (past ++ more) = issues past ++ issues more :=
  List.filterMap_append

@[simp] theorem completions_append :
    completions (past ++ more) = completions past ++ completions more := List.filterMap_append

variable {more}

theorem filterMap_of_isControl {α : Type} {f : Event → Option α}
    (hf : ∀ e, e.isControl = true → f e = none) (h : ∀ e ∈ more, e.isControl = true) :
    more.filterMap f = [] :=
  List.filterMap_eq_nil_iff.mpr (fun e he => hf e (h e he))

theorem issues_of_isControl (h : ∀ e ∈ more, e.isControl = true) : issues more = [] := by
  refine filterMap_of_isControl ?_ h
  intro e hc
  cases e with
  | issued => cases hc
  | _ => rfl

theorem completions_of_isControl (h : ∀ e ∈ more, e.isControl = true) : completions more = [] := by
  refine filterMap_of_isControl ?_ h
  intro e hc
  cases e with
  | completed => cases hc
  | _ => rfl

variable {past}

theorem mem_completions {w : Waiting} :
    w ∈ completions past ↔
      ∃ clock outcome verdict, Event.completed w.cycle w.timer clock outcome verdict ∈ past := by
  constructor
  · intro h
    obtain ⟨e, he, hw⟩ := List.mem_filterMap.mp h
    cases e with
    | completed cycle timer clock outcome verdict =>
      cases hw
      exact ⟨clock, outcome, verdict, he⟩
    | _ => cases hw
  · rintro ⟨clock, outcome, verdict, h⟩
    exact List.mem_filterMap.mpr ⟨_, h, rfl⟩

end Projections

theorem issue_pending (p : Poller) (timer due : Nat) :
    (p.issue timer due).pending.Perm (⟨p.cycles + 1, timer⟩ :: p.pending) := by
  have hready (outcome : Fetch.Outcome) :
      (p.waiting ++ (p.ready ++ [Task.completion (p.cycles + 1) timer outcome]).filterMap
        Task.pending?).Perm (⟨p.cycles + 1, timer⟩ :: p.pending) := by
    rw [List.filterMap_append, ← List.append_assoc]
    exact List.perm_append_singleton _ _
  cases h : p.script.head? with
  | none => simp [issue, emit, h, pending]
  | some answer =>
    cases answer with
    | now outcome => simpa [issue, emit, h, pending] using hready outcome
    | wait => simp [issue, emit, h, pending]

@[simp] theorem stop_pending (p : Poller) : p.stop.pending = p.pending := by
  unfold stop
  split <;> rfl

@[simp] theorem launch_pending (p : Poller) (interval : Nat) (h : 0 < interval) :
    (p.launch interval h).pending = p.pending := by
  simp [launch, pending, emit, Task.pending?]

section Ready
variable {p : Poller} {cycle timer : Nat} {outcome : Fetch.Outcome} {rest : List Task}
  (h : p.ready = .completion cycle timer outcome :: rest)
include h

theorem mem_pending_of_ready : ⟨cycle, timer⟩ ∈ p.pending := by
  simp [pending, h, Task.pending?]

theorem mem_pending_of_rest {w : Waiting} (hw : w ∈ p.waiting ++ rest.filterMap Task.pending?) :
    w ∈ p.pending := by
  rcases List.mem_append.mp hw with hw | hw
  · exact List.mem_append_left _ hw
  · refine List.mem_append_right _ ?_
    rw [h]
    exact List.mem_cons_of_mem _ hw

end Ready

/-- Taking the entry of a cycle out of a list with distinct cycles takes out that one alone. -/
theorem perm_filter_cycle {l : List Waiting} (h : (l.map Waiting.cycle).Nodup) {w : Waiting}
    (hw : w ∈ l) : (w :: l.filter (·.cycle ≠ w.cycle)).Perm l := by
  induction l with
  | nil => cases hw
  | cons x l ih =>
    rw [List.map_cons, List.nodup_cons] at h
    rcases List.mem_cons.mp hw with rfl | hw
    · have hl : l.filter (·.cycle ≠ w.cycle) = l := by
        refine List.filter_eq_self.mpr ?_
        intro y hy
        have hne : y.cycle ≠ w.cycle := fun he => h.1 (he ▸ List.mem_map_of_mem hy)
        simpa using hne
      rw [List.filter_cons_of_neg (by simp), hl]
    · have hne : x.cycle ≠ w.cycle := fun he => h.1 (he ▸ List.mem_map_of_mem hw)
      rw [List.filter_cons_of_pos (by simpa using hne)]
      exact (List.Perm.swap x w _).trans ((ih h.2 hw).cons x)

/-- How a past accounts for the cycles of a poller. -/
structure Accounted (past : List Event) (p : Poller) : Prop where
  numbered : (issues past).map Waiting.cycle = List.range' 1 p.cycles
  conserved : (p.pending ++ completions past).Perm (issues past)
  timer_le : ∀ w ∈ issues past, w.timer ≤ p.timers
  active_le : ∀ t, p.active = some t → t.number ≤ p.timers

namespace Accounted
variable {past : List Event} {p : Poller} (h : Accounted past p)
include h

theorem nodup_issues : ((issues past).map Waiting.cycle).Nodup := by
  rw [h.numbered]
  exact List.nodup_range'

theorem nodup : ((p.pending ++ completions past).map Waiting.cycle).Nodup :=
  (h.conserved.map _).nodup_iff.mpr h.nodup_issues

theorem nodup_pending : (p.pending.map Waiting.cycle).Nodup := by
  have hn := h.nodup
  rw [List.map_append] at hn
  exact (List.nodup_append.mp hn).1

theorem nodup_completions : ((completions past).map Waiting.cycle).Nodup := by
  have hn := h.nodup
  rw [List.map_append] at hn
  exact (List.nodup_append.mp hn).2.1

theorem nodup_waiting : (p.waiting.map Waiting.cycle).Nodup := by
  have hn := h.nodup_pending
  rw [pending, List.map_append] at hn
  exact (List.nodup_append.mp hn).1

/-- A pending cycle has not been completed. -/
theorem ne_of_pending {w x : Waiting} (hw : w ∈ p.pending) (hx : x ∈ completions past) :
    x.cycle ≠ w.cycle := by
  have hn := h.nodup
  rw [List.map_append] at hn
  exact fun he => (List.nodup_append.mp hn).2.2 _ (List.mem_map_of_mem hw) _
    (List.mem_map_of_mem hx) he.symm

theorem issued_of_pending {w : Waiting} (hw : w ∈ p.pending) : w ∈ issues past :=
  h.conserved.subset (List.mem_append_left _ hw)

theorem issued_of_completed {w : Waiting} (hw : w ∈ completions past) : w ∈ issues past :=
  h.conserved.subset (List.mem_append_right _ hw)

theorem cycle_le {w : Waiting} (hw : w ∈ issues past) : w.cycle ≤ p.cycles := by
  have hm : w.cycle ∈ List.range' 1 p.cycles := h.numbered ▸ List.mem_map_of_mem hw
  rw [List.mem_range'_1] at hm
  omega

theorem cycle_pos {w : Waiting} (hw : w ∈ issues past) : 0 < w.cycle := by
  have hm : w.cycle ∈ List.range' 1 p.cycles := h.numbered ▸ List.mem_map_of_mem hw
  exact (List.mem_range'_1.mp hm).1

/-- A cycle is issued by one timer. -/
theorem eq_of_cycle_eq {w x : Waiting} (hw : w ∈ issues past) (hx : x ∈ issues past)
    (he : w.cycle = x.cycle) : w = x :=
  List.inj_on_of_nodup_map h.nodup_issues hw hx he

end Accounted

theorem pending_release {p q : Poller} {cycle : Nat} {outcome : Fetch.Outcome}
    (hn : (p.waiting.map Waiting.cycle).Nodup) (h : p.release? cycle outcome = some q) :
    q.pending.Perm p.pending := by
  obtain ⟨w, hw, rfl, rfl⟩ := release?_eq_some h
  have hwait := perm_filter_cycle hn hw
  have hq : (p.waiting.filter (·.cycle ≠ w.cycle) ++ (p.ready ++
      [Task.completion w.cycle w.timer outcome]).filterMap Task.pending?).Perm
      ((w :: p.waiting.filter (·.cycle ≠ w.cycle)) ++ p.ready.filterMap Task.pending?) := by
    rw [List.filterMap_append, ← List.append_assoc]
    exact List.perm_append_singleton _ _
  exact hq.trans (hwait.append_right _)

namespace Accounted
variable {past : List Event} {p : Poller} (h : Accounted past p)
include h

/-- Nothing is to be accounted for where no cycle is issued or completed. -/
theorem of_quiet {es : List Event} {q : Poller} (hissues : issues es = [])
    (hcompletions : completions es = []) (hcycles : q.cycles = p.cycles)
    (hpending : q.pending.Perm p.pending) (htimers : p.timers ≤ q.timers)
    (hactive : ∀ t, q.active = some t → t.number ≤ q.timers) : Accounted (past ++ es) q where
  numbered := by
    rw [issues_append, hissues, List.append_nil, hcycles]
    exact h.numbered
  conserved := by
    rw [issues_append, hissues, completions_append, hcompletions, List.append_nil, List.append_nil]
    exact (hpending.append_right _).trans h.conserved
  timer_le := by
    intro w hw
    rw [issues_append, hissues, List.append_nil] at hw
    exact Nat.le_trans (h.timer_le w hw) htimers
  active_le := hactive

theorem active_le_of_control {q : Poller} (hc : q.control = p.control) :
    ∀ t, q.active = some t → t.number ≤ q.timers := by
  intro t ht
  have ha := congrArg Control.active hc
  have htimers : q.timers = p.timers := congrArg Control.timers hc
  simp only [control, ht, Option.map_some] at ha
  obtain ⟨u, hu, hn⟩ := Option.map_eq_some_iff.mp ha.symm
  rw [htimers, ← hn]
  exact h.active_le u hu

/-- The active timer issues the next cycle. -/
theorem issue {t : Timer} (ha : p.active = some t) (due : Nat) :
    Accounted (past ++ [.issued (p.cycles + 1) t.number due p.clock]) (p.issue t.number due) where
  numbered := by
    rw [issues_append, List.map_append, h.numbered, issue_cycles, List.range'_concat]
    simp [issues, Event.issue?, Nat.add_comm]
  conserved := by
    rw [issues_append, completions_append]
    refine ((p.issue_pending t.number due).append_right _).trans ?_
    simp only [completions, List.filterMap_cons, Event.completion?, List.filterMap_nil,
      List.append_nil, List.cons_append]
    exact (h.conserved.cons _).trans (List.perm_append_singleton _ _).symm
  timer_le := by
    intro w hw
    rw [issue_timers]
    rcases List.mem_append.mp (issues_append past _ ▸ hw) with hw | hw
    · exact h.timer_le w hw
    · have he : w = ⟨p.cycles + 1, t.number⟩ := by simpa [issues, Event.issue?] using hw
      rw [he]
      exact h.active_le t ha
  active_le := by
    intro u hu
    rw [issue_active] at hu
    rw [issue_timers]
    exact h.active_le u hu

/-- A completion that is judged goes over from the pending cycles to the completed ones. -/
theorem complete {cycle timer : Nat} {outcome : Fetch.Outcome} {rest : List Task}
    (hr : p.ready = .completion cycle timer outcome :: rest) {es : List Event} {q : Poller}
    (hissues : issues es = []) (hcompletions : completions es = [⟨cycle, timer⟩])
    (hcycles : q.cycles = p.cycles) (hcontrol : q.control = p.control)
    (hwaiting : q.waiting = p.waiting) (hready : q.ready = rest) : Accounted (past ++ es) q where
  numbered := by
    rw [issues_append, hissues, List.append_nil, hcycles]
    exact h.numbered
  conserved := by
    have hp : p.pending = p.waiting ++ ⟨cycle, timer⟩ :: rest.filterMap Task.pending? := by
      simp [pending, hr, Task.pending?]
    have hq : q.pending = p.waiting ++ rest.filterMap Task.pending? := by
      rw [pending, hwaiting, hready]
    rw [issues_append, hissues, List.append_nil, completions_append, hcompletions]
    refine List.Perm.trans ?_ h.conserved
    rw [hp, hq, List.append_assoc, List.append_assoc, List.cons_append]
    refine List.Perm.append_left _ ?_
    rw [← List.append_assoc]
    exact List.perm_append_singleton _ _
  timer_le := by
    intro w hw
    have htimers : q.timers = p.timers := congrArg Control.timers hcontrol
    rw [issues_append, hissues, List.append_nil] at hw
    rw [htimers]
    exact h.timer_le w hw
  active_le := h.active_le_of_control hcontrol

end Accounted

theorem accounted_invariant : Invariant Accounted where
  stop := by
    intro past p h
    have hes := p.isControl_of_mem_stopEvents
    exact h.of_quiet (issues_of_isControl hes) (completions_of_isControl hes) p.stop_cycles
      (.of_eq p.stop_pending) (by simp) (by simp)
  launch := by
    intro past p interval hpos h _ _
    refine h.of_quiet rfl rfl rfl (.of_eq (p.launch_pending interval hpos)) (Nat.le_succ _) ?_
    intro t ht
    cases ht
    exact Nat.le_refl _
  drop := by
    intro past p h ha
    rw [← List.append_nil past]
    exact h.of_quiet rfl rfl rfl (.refl _) (Nat.le_refl _) h.active_le
  release := by
    intro past p q cycle outcome h hr
    have hperm := pending_release h.nodup_waiting hr
    obtain ⟨w, -, -, rfl⟩ := release?_eq_some hr
    rw [← List.append_nil past]
    exact h.of_quiet rfl rfl rfl hperm (Nat.le_refl _) h.active_le
  move := by
    intro past es p q h hm
    have hc := hm.control
    cases hm with
    | pass clock reached hle => exact h.of_quiet rfl rfl rfl (.refl _) (Nat.le_refl _) h.active_le
    | leave hr =>
      refine h.of_quiet rfl rfl rfl (.of_eq ?_) (Nat.le_refl _) h.active_le
      simp [pending, hr, List.filterMap_cons, Task.pending?]
    | schedule due ha =>
      exact h.of_quiet rfl rfl rfl (.refl _) (Nat.le_refl _) (h.active_le_of_control hc)
    | issue due ha => exact h.issue ha due
    | apply hr hv => exact h.complete hr rfl rfl rfl hc rfl rfl
    | discard hr hv => exact h.complete hr rfl rfl rfl hc rfl rfl
  handOver := fun h => ⟨h.numbered, h.conserved, h.timer_le, h.active_le⟩

theorem accounted_new (clock : Nat) (script : List Scripted) (breaks : List Nat) :
    Accounted [] (new clock script breaks) where
  numbered := rfl
  conserved := .refl _
  timer_le := by simp [issues]
  active_le := by simp [new]

/-- Every run accounts for its cycles. -/
theorem accounted_afterAll (clock : Nat) (script : List Scripted) (breaks : List Nat)
    (steps : List Step) :
    Accounted ((new clock script breaks).events steps) ((new clock script breaks).afterAll steps) := by
  simpa using accounted_invariant.afterAll (accounted_new clock script breaks) rfl steps

end QueueBoard.Poller
