import QueueBoard.Proofs.Poller.Ledger

/-! # The newest cycle wins

A completion is compared with the cycle applied last, whatever timer that cycle had. What counts is
nevertheless only the timer of the completion: as long as it is active, its completions are applied
unless a later cycle of the same timer has been completed before. So the applied cycles only go up.
-/
namespace QueueBoard.Poller

def Event.appliedCycle? : Event → Option Nat
  | .completed cycle _ _ _ .applied => some cycle
  | _ => none

def appliedCycles (past : List Event) : List Nat := past.filterMap Event.appliedCycle?

@[simp] theorem appliedCycles_append (past more : List Event) :
    appliedCycles (past ++ more) = appliedCycles past ++ appliedCycles more := List.filterMap_append

theorem completed_of_applied {past : List Event} {cycle : Nat} (h : cycle ∈ appliedCycles past) :
    ∃ timer, ⟨cycle, timer⟩ ∈ completions past := by
  obtain ⟨e, he, hc⟩ := List.mem_filterMap.mp h
  cases e with
  | completed c timer clock outcome verdict =>
    cases verdict with
    | applied =>
      cases hc
      exact ⟨timer, mem_completions.mpr ⟨clock, outcome, .applied, he⟩⟩
    | _ => cases hc
  | _ => cases hc

theorem appliedCycles_of_ne {cycle timer clock : Nat} {outcome : Fetch.Outcome} {verdict : Verdict}
    (h : verdict ≠ .applied) : appliedCycles [.completed cycle timer clock outcome verdict] = [] := by
  cases verdict with
  | applied => contradiction
  | _ => rfl

theorem appliedCycles_of_isControl {es : List Event} (h : ∀ e ∈ es, e.isControl = true) :
    appliedCycles es = [] := by
  refine filterMap_of_isControl ?_ h
  intro e hc
  cases e with
  | completed => cases hc
  | _ => rfl

theorem latest_eq (p : Poller) : p.latest = p.shared.value.cycle := by simp [latest]

/-- How the cycle applied last stands to those of the active timer. -/
structure Newest (past : List Event) (p : Poller) : Prop where
  accounted : Accounted past p
  latest_le : p.latest ≤ p.cycles
  applied_le : ∀ cycle ∈ appliedCycles past, cycle ≤ p.latest
  increasing : (appliedCycles past).Pairwise (· < ·)
  completed_le : ∀ t, p.active = some t → ∀ w ∈ completions past, w.timer = t.number →
    w.cycle ≤ p.latest
  /-- The cycle applied last is one of the active timer, or all that may come of the timer is later. -/
  latest_own : ∀ t, p.active = some t → ⟨p.latest, t.number⟩ ∈ completions past ∨
    ∀ w ∈ p.pending, w.timer = t.number → p.latest < w.cycle

namespace Newest
variable {past : List Event} {p : Poller} (h : Newest past p)
include h

/-- The judgement of a pending cycle, told without the cycle applied last. -/
theorem verdict_eq_applied_iff {cycle timer : Nat} (hp : ⟨cycle, timer⟩ ∈ p.pending) :
    p.verdict cycle timer = .applied ↔
      p.isActive timer = true ∧ ∀ w ∈ completions past, w.timer = timer → w.cycle < cycle := by
  rw [Poller.verdict_eq_applied_iff]
  refine and_congr_right ?_
  intro ha
  obtain ⟨t, ht, rfl⟩ := isActive_iff.mp ha
  constructor
  · intro hle w hw hn
    have hne : w.cycle ≠ cycle := h.accounted.ne_of_pending hp hw
    have hwl := h.completed_le t ht w hw hn
    omega
  · intro hall
    rcases h.latest_own t ht with hl | hl
    · exact Nat.le_of_lt (hall _ hl rfl)
    · exact Nat.le_of_lt (hl _ hp rfl)

/-- Where no cycle is completed, a timer is the same as before or has not issued anything, and what
is new among the pending cycles comes later than the one applied last. -/
theorem of_quiet {es : List Event} {q : Poller} (ha : Accounted (past ++ es) q)
    (hcompletions : completions es = []) (happlied : appliedCycles es = [])
    (hcycles : p.cycles ≤ q.cycles) (hshared : q.shared = p.shared)
    (hpending : ∀ w ∈ q.pending, w ∈ p.pending ∨ p.latest < w.cycle)
    (hactive : ∀ t, q.active = some t →
      (∃ u, p.active = some u ∧ u.number = t.number) ∨ ∀ w ∈ issues past, w.timer ≠ t.number) :
    Newest (past ++ es) q := by
  have hlatest : q.latest = p.latest := by rw [latest_eq, latest_eq, hshared]
  have hdone : completions (past ++ es) = completions past := by
    rw [completions_append, hcompletions, List.append_nil]
  have happ : appliedCycles (past ++ es) = appliedCycles past := by
    rw [appliedCycles_append, happlied, List.append_nil]
  refine ⟨ha, ?_, ?_, ?_, ?_, ?_⟩
  · rw [hlatest]
    exact Nat.le_trans h.latest_le hcycles
  · rw [happ, hlatest]
    exact h.applied_le
  · rw [happ]
    exact h.increasing
  · intro t ht
    rw [hdone, hlatest]
    rcases hactive t ht with ⟨u, hu, hn⟩ | hnew
    · rw [← hn]
      exact h.completed_le u hu
    · intro w hw hn
      exact absurd hn (hnew w (h.accounted.issued_of_completed hw))
  · intro t ht
    rw [hdone, hlatest]
    rcases hactive t ht with ⟨u, hu, hn⟩ | hnew
    · rw [← hn]
      refine (h.latest_own u hu).imp_right ?_
      intro hl w hw htimer
      exact (hpending w hw).elim (fun hp => hl w hp htimer) id
    · right
      intro w hw hn
      rcases hpending w hw with hp | hlt
      · exact absurd hn (hnew w (h.accounted.issued_of_pending hp))
      · exact hlt

section Completion
variable {cycle timer : Nat} {es : List Event} {q : Poller}
variable (ha : Accounted (past ++ es) q) (hp : ⟨cycle, timer⟩ ∈ p.pending)
variable (hcompletions : completions es = [⟨cycle, timer⟩]) (hcycles : q.cycles = p.cycles)
variable (hactive : q.active = p.active) (hpending : ∀ w ∈ q.pending, w ∈ p.pending)

include hp in
theorem lt_of_applied (hv : p.verdict cycle timer = .applied) :
    ∀ c ∈ appliedCycles past, c < cycle := by
  intro c hc
  obtain ⟨timer', hw⟩ := completed_of_applied hc
  have hne : c ≠ cycle := h.accounted.ne_of_pending hp hw
  have hcl := h.applied_le c hc
  have hle := (Poller.verdict_eq_applied_iff.mp hv).2
  omega

include ha hcompletions hcycles hactive

include hp in
theorem of_applied (hv : p.verdict cycle timer = .applied) (hlatest : q.latest = cycle)
    (happlied : appliedCycles es = [cycle]) : Newest (past ++ es) q := by
  have hbelow := h.lt_of_applied hp hv
  have hdone : completions (past ++ es) = completions past ++ [⟨cycle, timer⟩] := by
    rw [completions_append, hcompletions]
  obtain ⟨hisActive, hle⟩ := Poller.verdict_eq_applied_iff.mp hv
  obtain ⟨t, ht, hn⟩ := isActive_iff.mp hisActive
  refine ⟨ha, ?_, ?_, ?_, ?_, ?_⟩
  · rw [hlatest, hcycles]
    exact h.accounted.cycle_le (h.accounted.issued_of_pending hp)
  · intro c hc
    rw [appliedCycles_append, happlied] at hc
    rw [hlatest]
    rcases List.mem_append.mp hc with hc | hc
    · exact Nat.le_of_lt (hbelow c hc)
    · exact Nat.le_of_eq (List.mem_singleton.mp hc)
  · rw [appliedCycles_append, happlied]
    refine List.pairwise_append.mpr ⟨h.increasing, List.pairwise_singleton _ _, ?_⟩
    intro c hc d hd
    rw [List.mem_singleton.mp hd]
    exact hbelow c hc
  · intro u hu w hw hun
    rw [hactive] at hu
    rw [hdone] at hw
    rw [hlatest]
    rcases List.mem_append.mp hw with hw | hw
    · exact Nat.le_trans (h.completed_le u hu w hw hun) hle
    · obtain rfl := List.mem_singleton.mp hw
      exact Nat.le_refl _
  · intro u hu
    rw [hactive, ht] at hu
    cases hu
    left
    rw [hdone, hlatest, hn]
    exact List.mem_append_right _ (List.mem_singleton.mpr rfl)

include hpending

theorem of_discarded (hv : p.verdict cycle timer ≠ .applied) (hlatest : q.latest = p.latest)
    (happlied : appliedCycles es = []) : Newest (past ++ es) q := by
  have hdone : completions (past ++ es) = completions past ++ [⟨cycle, timer⟩] := by
    rw [completions_append, hcompletions]
  have happ : appliedCycles (past ++ es) = appliedCycles past := by
    rw [appliedCycles_append, happlied, List.append_nil]
  refine ⟨ha, ?_, ?_, ?_, ?_, ?_⟩
  · rw [hlatest, hcycles]
    exact h.latest_le
  · rw [happ, hlatest]
    exact h.applied_le
  · rw [happ]
    exact h.increasing
  · intro u hu w hw hun
    rw [hactive] at hu
    rw [hdone] at hw
    rw [hlatest]
    rcases List.mem_append.mp hw with hw | hw
    · exact h.completed_le u hu w hw hun
    · rw [List.mem_singleton.mp hw] at hun ⊢
      refine Nat.le_of_not_le ?_
      intro hle
      exact hv (Poller.verdict_eq_applied_iff.mpr ⟨isActive_iff.mpr ⟨u, hu, hun.symm⟩, hle⟩)
  · intro u hu
    rw [hactive] at hu
    rw [hdone, hlatest]
    rcases h.latest_own u hu with hl | hl
    · exact .inl (List.mem_append_left _ hl)
    · exact .inr (fun w hw => hl w (hpending w hw))

end Completion
end Newest

theorem newest_invariant : Invariant Newest where
  stop := by
    intro past p h
    have hes := p.isControl_of_mem_stopEvents
    refine h.of_quiet (accounted_invariant.stop h.accounted) (completions_of_isControl hes)
      (appliedCycles_of_isControl hes) (by simp) p.stop_shared (fun w hw => .inl (p.stop_pending ▸ hw)) ?_
    intro t ht
    simp at ht
  launch := by
    intro past p interval hpos h ha hd
    have hpending := p.launch_pending interval hpos
    refine h.of_quiet (accounted_invariant.launch interval hpos h.accounted ha hd) rfl rfl
      (Nat.le_refl _) rfl (fun w hw => .inl (hpending ▸ hw)) ?_
    intro t ht
    cases ht
    refine .inr ?_
    intro w hw he
    exact Nat.not_succ_le_self _ (he ▸ h.accounted.timer_le w hw)
  drop := by
    intro past p h ha
    rw [← List.append_nil past]
    refine h.of_quiet ?_ rfl rfl (Nat.le_refl _) rfl (fun w hw => .inl hw) (fun t ht => .inl ⟨t, ht, rfl⟩)
    simpa using accounted_invariant.drop h.accounted ha
  release := by
    intro past p q cycle outcome h hr
    have hperm := pending_release h.accounted.nodup_waiting hr
    have haccounted := accounted_invariant.release h.accounted hr
    obtain ⟨w, -, -, rfl⟩ := release?_eq_some hr
    rw [← List.append_nil past] at haccounted ⊢
    exact h.of_quiet haccounted rfl rfl (Nat.le_refl _) rfl (fun w hw => .inl (hperm.subset hw))
      (fun t ht => .inl ⟨t, ht, rfl⟩)
  move := by
    intro past es p q h hm
    have ha := accounted_invariant.move h.accounted hm
    cases hm with
    | pass clock reached hle =>
      exact h.of_quiet ha rfl rfl (Nat.le_refl _) rfl (fun w hw => .inl hw)
        (fun t ht => .inl ⟨t, ht, rfl⟩)
    | leave hr =>
      refine h.of_quiet ha rfl rfl (Nat.le_refl _) rfl (fun w hw => .inl ?_)
        (fun t ht => .inl ⟨t, ht, rfl⟩)
      simpa [pending, hr, List.filterMap_cons, Task.pending?] using hw
    | schedule due hactive =>
      refine h.of_quiet ha rfl rfl (Nat.le_refl _) rfl (fun w hw => .inl hw) ?_
      intro t ht
      cases ht
      exact .inl ⟨_, hactive, rfl⟩
    | @issue t due hactive =>
      refine h.of_quiet ha rfl rfl (by simp) (by simp) ?_ ?_
      · intro w hw
        rcases List.mem_cons.mp ((p.issue_pending t.number due).subset hw) with rfl | hw
        · exact .inr (Nat.lt_succ_of_le h.latest_le)
        · exact .inl hw
      · intro u hu
        rw [issue_active] at hu
        exact .inl ⟨u, hu, rfl⟩
    | apply hr hv =>
      refine h.of_applied ha (mem_pending_of_ready hr) rfl rfl rfl hv ?_ rfl
      simp [latest, applied]
    | discard hr hv =>
      exact h.of_discarded ha rfl rfl rfl (fun w => mem_pending_of_rest hr) hv
        rfl (appliedCycles_of_ne hv)
  handOver := by
    intro past p h
    exact ⟨accounted_invariant.handOver h.accounted, h.latest_le, h.applied_le, h.increasing,
      h.completed_le, h.latest_own⟩

theorem newest_new (clock : Nat) (script : List Scripted) (breaks : List Nat) :
    Newest [] (new clock script breaks) where
  accounted := accounted_new clock script breaks
  latest_le := Nat.le_refl _
  applied_le := by simp [appliedCycles]
  increasing := .nil
  completed_le := by simp [new]
  latest_own := by simp [new]

theorem newest_afterAll (clock : Nat) (script : List Scripted) (breaks : List Nat)
    (steps : List Step) :
    Newest ((new clock script breaks).events steps) ((new clock script breaks).afterAll steps) := by
  simpa using newest_invariant.afterAll (newest_new clock script breaks) rfl steps

/-- How the completion of a cycle has to be judged after a past and under a control. -/
structure Judged (past : List Event) (control : Control) (cycle timer : Nat) (verdict : Verdict) :
    Prop where
  issued : ⟨cycle, timer⟩ ∈ issues past
  applied_iff : verdict = .applied ↔ control.active = some timer ∧
    ∀ w ∈ completions past, w.timer = timer → w.cycle < cycle
  first : control.active = some timer → (∀ w ∈ completions past, w.timer ≠ timer) →
    verdict = .applied

theorem Newest.judged {past before after : List Event} {p : Poller} {s : Step}
    {cycle timer clock : Nat} {outcome : Fetch.Outcome} {verdict : Verdict} (h : Newest past p)
    (hd : p.dropped = true → p.active = none) (hp : p.trace = [])
    (he : (p.step s).2.trace = before ++ .completed cycle timer clock outcome verdict :: after) :
    Judged (past ++ before) (p.control.act s.action) cycle timer verdict := by
  obtain ⟨pre, post, fs, q, q', rfl, hq, hc, hm⟩ := newest_invariant.at_event h hd hp he rfl
  obtain ⟨rfl, -, rfl, rest, hr⟩ := hm.of_completed rfl
  rw [List.append_nil]
  have hpending := mem_pending_of_ready hr
  have hiff := hq.verdict_eq_applied_iff hpending
  rw [isActive_iff_control, hc] at hiff
  refine ⟨hq.accounted.issued_of_pending hpending, hiff, ?_⟩
  intro ha hfirst
  exact hiff.mpr ⟨ha, fun w hw hn => absurd hn (hfirst w hw)⟩

/-- In every run a completion is applied just when the timer of its cycle is the active one and no
later cycle of that timer has been completed before; the numbers of the applied cycles go up. -/
theorem newest_cycle_wins (clock : Nat) (script : List Scripted) (breaks : List Nat)
    (steps : List Step) :
    let p := new clock script breaks
    (∀ answers a more before cycle timer time outcome verdict after,
      p.run steps = answers ++ a :: more →
        a.trace = before ++ .completed cycle timer time outcome verdict :: after →
          Judged (answers.flatMap (·.trace) ++ before)
            (Control.after (steps.take (answers.length + 1))) cycle timer verdict) ∧
      (appliedCycles (p.events steps)).Pairwise (· < ·) ∧ (appliedCycles (p.events steps)).Nodup := by
  intro p
  have hincreasing := (newest_afterAll clock script breaks steps).increasing
  refine ⟨?_, hincreasing, hincreasing.imp Nat.ne_of_lt⟩
  intro answers a more before cycle timer time outcome verdict after hrun ha
  obtain ⟨earlier, s, later, rfl, rfl, rfl, rfl⟩ := run_eq_append_cons hrun
  have hnewest := newest_afterAll clock script breaks earlier
  have hj := hnewest.judged (droppedIdle_afterAll clock script breaks earlier)
    (afterAll_trace _ earlier rfl) ha
  rw [control_after] at hj
  have htake : (earlier ++ s :: later).take ((p.run earlier).length + 1) = earlier ++ [s] := by
    rw [length_run, List.append_cons, List.take_left' (by simp)]
  rw [htake, Control.after_append]
  exact hj

/-- Two cycles of one timer overlap, and the later one is completed first. -/
theorem overtaken_cycle_is_superseded :
    let p := new 0 [.wait, .now (.ok [])] []
    let steps : List Step := [⟨.start 20, true⟩, ⟨.wait 20, true⟩, ⟨.release 1 (.ok []), true⟩]
    ∃ answers a, p.run steps = answers ++ [a] ∧
      a.trace = [.completed 1 1 20 (.ok []) (.superseded 2)] ∧
      Judged (answers.flatMap (·.trace)) (Control.after steps) 1 1 (.superseded 2) := by
  intro p steps
  have hrun : p.run steps = p.run (steps.take 2) ++ [((p.afterAll (steps.take 2)).step
      ⟨.release 1 (.ok []), true⟩).2] := p.run_append (steps.take 2) [⟨.release 1 (.ok []), true⟩]
  have htrace : ((p.afterAll (steps.take 2)).step ⟨.release 1 (.ok []), true⟩).2.trace
      = [.completed 1 1 20 (.ok []) (.superseded 2)] := by decide +kernel
  have hj := (newest_cycle_wins 0 [.wait, .now (.ok [])] [] steps).1 _ _ [] [] 1 1 20 (.ok [])
    (.superseded 2) [] hrun htrace
  rw [List.append_nil] at hj
  exact ⟨_, _, hrun, htrace, hj⟩

end QueueBoard.Poller
