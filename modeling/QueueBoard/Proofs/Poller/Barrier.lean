import QueueBoard.Proofs.Poller.LateReleases
import QueueBoard.Proofs.Poller.Notices

/-! # The end of a timer is a barrier

Once a timer is stopped, replaced or dropped, its cycles are over: all that happens after that comes
from timers started later, and is the same whether or not the cycles are ever answered.
-/
namespace QueueBoard.Poller

/-- Whether an action ends the timer that is active, if there is one. -/
def Control.Ends (c : Control) : Action → Prop
  | .start interval => c.dropped = false ∧ 0 < interval
  | .stop => True
  | .drop => True
  | _ => False

namespace Control
variable {c : Control} {n : Nat}

/-- Whether a control has no timer but later ones than some number. -/
def Beyond (n : Nat) (c : Control) : Prop := n ≤ c.timers ∧ ∀ t, c.active = some t → n < t

theorem Beyond.act (h : c.Beyond n) (action : Action) : (c.act action).Beyond n := by
  cases action with
  | start interval =>
    simp only [Control.act]
    split
    · exact h
    · refine ⟨Nat.le_succ_of_le h.1, ?_⟩
      intro t ht
      cases ht
      exact Nat.lt_succ_of_le h.1
  | stop => exact ⟨h.1, fun t ht => by cases ht⟩
  | drop => exact ⟨h.1, fun t ht => by cases ht⟩
  | _ => exact h

theorem Beyond.afterAll (h : c.Beyond n) (steps : List Step) : (c.afterAll steps).Beyond n := by
  induction steps generalizing c with
  | nil => exact h
  | cons s steps ih => exact ih (h.act s.action)

theorem Ends.beyond {action : Action} (h : c.Ends action) : (c.act action).Beyond c.timers := by
  cases action with
  | start interval =>
    obtain ⟨hd, hpos⟩ := h
    have hn : ¬ (c.dropped = true ∨ interval = 0) := by
      rw [hd]
      simpa using Nat.ne_of_gt hpos
    rw [Control.act, if_neg hn]
    refine ⟨Nat.le_succ _, ?_⟩
    intro t ht
    cases ht
    exact Nat.lt_succ_self _
  | stop => exact ⟨Nat.le_refl _, fun t ht => by cases ht⟩
  | drop => exact ⟨Nat.le_refl _, fun t ht => by cases ht⟩
  | _ => exact h.elim

end Control

/-- An issue among the events of a move is that of the active timer. -/
theorem Move.of_issued {p q : Poller} {l post fs : List Event} {cycle timer due clock : Nat}
    (h : Move p l q) (hl : l = post ++ .issued cycle timer due clock :: fs) :
    post = [] ∧ ∃ t, p.active = some t ∧ t.number = timer := by
  cases h with
  | pass | leave | schedule => simp at hl
  | @issue t due' ha =>
    cases post with
    | nil =>
      simp only [List.nil_append, List.cons.injEq, Event.issued.injEq] at hl
      exact ⟨rfl, t, ha, hl.1.2.1⟩
    | cons e post => simp at hl
  | apply hr hv =>
    rcases post with _ | ⟨e, _ | ⟨e', post⟩⟩ <;> simp at hl
  | discard hr hv =>
    rcases post with _ | ⟨e, post⟩ <;> simp at hl

/-- The present in which an event after a step happens. -/
theorem Invariant.at_later_event {I : List Event → Poller → Prop} (hI : Invariant I)
    {past before after : List Event} {p : Poller} {s : Step} {later : List Step} {e : Event}
    (h : I past p) (hd : p.dropped = true → p.active = none) (hp : p.trace = [])
    (hes : p.events (s :: later) = before ++ e :: after) (he : e.isControl = false) :
    ∃ pre post fs q q' more, before = pre ++ post ∧ I (past ++ pre) q ∧
      q.control = (p.control.act s.action).afterAll more ∧ Move q (post ++ e :: fs) q' := by
  obtain ⟨between, s', rest, front, back, hsplit, ht, rfl⟩ := events_eq_append_cons hes
  have hidle : DroppedIdle [] p := hd
  obtain ⟨pre, post, fs, q, q', rfl, hq, hc, hm⟩ :=
    hI.at_event (hI.afterAll h hp between) (droppedIdle_invariant.afterAll hidle hp between)
      (afterAll_trace p between hp) ht he
  have hmore : ∃ more, between ++ [s'] = s :: more := by
    cases between with
    | nil => exact ⟨[], by rw [(List.cons.inj hsplit).1]; rfl⟩
    | cons x between => exact ⟨between ++ [s'], by rw [(List.cons.inj hsplit).1]; rfl⟩
  obtain ⟨more, hmore⟩ := hmore
  refine ⟨p.events between ++ pre, post, fs, q, q', more, by simp, by simpa using hq, ?_, hm⟩
  have hafter := congrArg p.control.afterAll hmore
  rw [Control.afterAll_append, Control.afterAll_cons, Control.afterAll_nil] at hafter
  rw [hc, control_afterAll hd hp, hafter, Control.afterAll_cons]

/-- Whether the active timer, if it comes after a number, was started in the past. -/
def Renewed (n : Nat) (past : List Event) (p : Poller) : Prop :=
  ∀ t, p.active = some t → n < t.number → ∃ interval, .started t.number interval ∈ past

theorem Renewed.mono {n : Nat} {past es : List Event} {p q : Poller} (h : Renewed n past p)
    (hactive : ∀ t, q.active = some t → ∃ u, p.active = some u ∧ u.number = t.number) :
    Renewed n (past ++ es) q := by
  intro t ht hn
  obtain ⟨u, hu, he⟩ := hactive t ht
  obtain ⟨interval, hmem⟩ := h u hu (he ▸ hn)
  exact ⟨interval, List.mem_append_left _ (he ▸ hmem)⟩

theorem renewed_invariant (n : Nat) : Invariant (Renewed n) where
  stop := fun _ t ht _ => by simp at ht
  launch := by
    intro past p interval hpos _ _ _ t ht _
    cases ht
    exact ⟨interval, List.mem_append_right _ (List.mem_singleton.mpr rfl)⟩
  drop := fun h _ => h
  release := by
    intro past p q cycle outcome h hr
    obtain ⟨w, -, -, rfl⟩ := release?_eq_some hr
    exact h
  move := by
    intro past es p q h hm
    refine h.mono ?_
    intro t ht
    have ha : q.control.active = some t.number := by simp [control, ht]
    rw [hm.control] at ha
    exact Option.map_eq_some_iff.mp ha
  handOver := fun h => h

/-- What comes after the end of a timer owes nothing to the cycles issued before. -/
structure SealedOff (past rest : List Event) : Prop where
  outlived : ∀ w ∈ issues past, ∀ timer clock outcome verdict,
    .completed w.cycle timer clock outcome verdict ∈ rest → verdict = .outlived
  notified : ∀ before state brokeOff after, rest = before ++ .notified state brokeOff :: after →
    ∃ earlier cycle timer clock outcome,
      before = earlier ++ [.completed cycle timer clock outcome .applied] ∧
        ∀ w ∈ issues past, w.cycle ≠ cycle
  issued : ∀ before cycle timer due clock after,
    rest = before ++ .issued cycle timer due clock :: after →
      ∃ interval, .started timer interval ∈ before

section Sealed
variable {past : List Event} {p : Poller} {s : Step} {later : List Step}
variable (h : Accounted past p) (hd : p.dropped = true → p.active = none) (hp : p.trace = [])
variable (hends : p.control.Ends s.action)
include h hd hp hends

theorem outlived_of_ends {w : Waiting} (hw : w ∈ issues past) {timer clock : Nat}
    {outcome : Fetch.Outcome} {verdict : Verdict}
    (hmem : .completed w.cycle timer clock outcome verdict ∈ p.events (s :: later)) :
    verdict = .outlived := by
  obtain ⟨before, after, hes⟩ := List.append_of_mem hmem
  obtain ⟨pre, post, fs, q, q', more, rfl, hq, hc, hm⟩ :=
    accounted_invariant.at_later_event h hd hp hes rfl
  obtain ⟨-, -, rfl, rest, hr⟩ := hm.of_completed rfl
  have hbeyond := hends.beyond.afterAll more
  have hissued := hq.issued_of_pending (mem_pending_of_ready hr)
  have hw' : w ∈ issues (past ++ pre) := by
    rw [issues_append]
    exact List.mem_append_left _ hw
  have htimer : w.timer = timer := congrArg Waiting.timer (hq.eq_of_cycle_eq hw' hissued rfl)
  rw [verdict_eq_outlived_iff, isActive_eq_decide, hc]
  refine decide_eq_false ?_
  intro ha
  have hle : w.timer ≤ p.control.timers := h.timer_le w hw
  have hlt := hbeyond.2 _ ha
  omega

theorem started_of_ends {before after : List Event} {cycle timer due clock : Nat}
    (hes : p.events (s :: later) = before ++ .issued cycle timer due clock :: after) :
    ∃ interval, .started timer interval ∈ before := by
  have hnone : Renewed p.control.timers [] p := by
    intro t ht hn
    exact absurd (h.active_le t ht) (Nat.not_le_of_lt hn)
  obtain ⟨pre, post, fs, q, q', more, rfl, hq, hc, hm⟩ :=
    (renewed_invariant _).at_later_event hnone hd hp hes rfl
  obtain ⟨rfl, t, ht, rfl⟩ := hm.of_issued rfl
  have hactive : q.control.active = some t.number := by simp [control, ht]
  rw [hc] at hactive
  obtain ⟨interval, hmem⟩ := hq t ht ((hends.beyond.afterAll more).2 _ hactive)
  exact ⟨interval, by simpa using hmem⟩

theorem sealedOff_of_ends : SealedOff past (p.events (s :: later)) where
  outlived := fun _ hw _ _ _ _ hmem => outlived_of_ends h hd hp hends hw hmem
  notified := by
    intro before state brokeOff after hes
    obtain ⟨earlier, cycle, timer, clock, outcome, rfl⟩ :=
      (reports_events hp (s :: later)).of_notified hes
    refine ⟨earlier, cycle, timer, clock, outcome, rfl, ?_⟩
    intro w hw hc
    have hmem : .completed w.cycle timer clock outcome .applied ∈ p.events (s :: later) := by
      simp [hes, hc]
    cases outlived_of_ends h hd hp hends hw hmem
  issued := fun _ _ _ _ _ _ hes => started_of_ends h hd hp hends hes

end Sealed

/-- In every run the end of a timer is a barrier for all cycles issued before it: whenever they are
completed they are discarded, the states told and shown from then on come from later cycles, and none
is issued before a new timer is started. Late releases may have other outcomes or be waits for nothing
instead, and no answer tells the difference but for what is discarded. -/
theorem end_of_timer_is_barrier (clock : Nat) (script : List Scripted) (breaks : List Nat)
    (steps : List Step) :
    let p := new clock script breaks
    (∀ earlier s later, steps = earlier ++ s :: later → (Control.after earlier).Ends s.action →
      SealedOff (p.events earlier) ((p.afterAll earlier).events (s :: later)) ∧
      ∀ answers a more, (p.afterAll earlier).run (s :: later) = answers ++ a :: more →
        a.state =
          if ((Control.after earlier).afterAll ((s :: later).take (answers.length + 1))).dropped
          then none
          else some ((told ((answers ++ [a]).flatMap (·.trace))).getLastD
            (p.afterAll earlier).published)) ∧
      ∀ steps', Altered p steps steps' →
        (p.run steps).length = (p.run steps').length ∧
        ∀ i a b, (p.run steps)[i]? = some a → (p.run steps')[i]? = some b →
          Answer.Agrees (LateStep p steps i) a b := by
  intro p
  constructor
  · rintro earlier s later rfl hends
    have hd := droppedIdle_afterAll clock script breaks earlier
    have hp := afterAll_trace p earlier rfl
    rw [← control_after clock script breaks] at hends ⊢
    exact ⟨sealedOff_of_ends (accounted_afterAll clock script breaks earlier) hd hp hends,
      fun answers a more hrun => state_of_run hd hp hrun⟩
  · intro steps' h
    exact ⟨h.corresponds.length_eq, h.corresponds.agrees⟩

/-- A cycle waits when its timer is stopped, and is answered after that or not at all. -/
theorem answer_after_stop_tells_nothing :
    let p := new 0 [.wait] []
    let steps : List Step := [⟨.start 20, true⟩, ⟨.stop, true⟩, ⟨.release 1 (.ok []), true⟩]
    let steps' : List Step := [⟨.start 20, true⟩, ⟨.stop, true⟩, ⟨.wait 0, true⟩]
    SealedOff (p.events (steps.take 1)) ((p.afterAll (steps.take 1)).events (steps.drop 1)) ∧
      Altered p steps steps' ∧
      ∀ i a b, (p.run steps)[i]? = some a → (p.run steps')[i]? = some b →
        Answer.Agrees (LateStep p steps i) a b := by
  intro p steps steps'
  have hbarrier := end_of_timer_is_barrier 0 [.wait] [] steps
  have hevents : p.events (steps.take 2) = [.started 1 20, .issued 1 1 0 0, .stopped] := by decide +kernel
  have hissued : ⟨1, 1⟩ ∈ issues (p.events (steps.take 2)) := by
    rw [hevents]
    exact List.mem_cons_self
  have hlate : LateRelease (p.events (steps.take 2)) (Control.after (steps.take 2))
      (.release 1 (.ok [])) := ⟨1, hissued, by decide⟩
  have haltered : Altered p steps steps' := .takenOut (.same (.same .nil _) _) hlate true
  have hsealed := hbarrier.1 (steps.take 1) ⟨.stop, true⟩ [⟨.release 1 (.ok []), true⟩] rfl trivial
  exact ⟨hsealed.1, haltered, (hbarrier.2 steps' haltered).2⟩

end QueueBoard.Poller
