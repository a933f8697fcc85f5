import Mathlib.Data.Set.Finite.Lemmas
import QueueBoard.Proofs.Poller.Barrier
import QueueBoard.Proofs.Poller.Newest
import QueueBoard.Proofs.Poller.Store
import QueueBoard.Proofs.Poller.Waits

/-! # The order of releases

When cycles of the active timer that wait are released one after the other, other cycles may be
completed along the way: those that are ready already, and those of ticks that are due. Which these are
and what they are answered does not depend on the releases. Of all of them the latest one decides what
is published in the end, in whatever order the releases come and wherever the poller settles.
-/
namespace QueueBoard

/-- Whether a poll state has its status from an outcome, and its jobs if that is a success. -/
def PollState.Reflects (s : PollState) : Fetch.Outcome → Prop
  | .ok jobs => s.jobs = some jobs ∧ ∃ time, s.status = .ready time
  | .error failure => s.status = .failed failure.message

theorem PollState.reflects_after (s : PollState) (time : Instant) (outcome : Fetch.Outcome) :
    (s.after time outcome).Reflects outcome := by
  cases outcome with
  | ok jobs => exact ⟨rfl, time, rfl⟩
  | error failure => rfl

namespace Poller

/-- Lets everything be processed at the current time. -/
def Step.finish : Step := ⟨.wait 0, true⟩

/-- Outcomes for cycles of the active timer that all wait. One of them is later than all cycles that
have been completed. -/
structure Gated (past : List Event) (p : Poller) (timer : Nat) (releases : List (Nat × Fetch.Outcome)) :
    Prop where
  active : p.isActive timer = true
  waiting : ∀ a ∈ releases, ⟨a.1, timer⟩ ∈ p.waiting
  nodup : (releases.map Prod.fst).Nodup
  newest : ∀ w ∈ completions past, ∃ a ∈ releases, w.cycle < a.1

theorem Gated.waits {past : List Event} {p : Poller} {timer : Nat}
    {releases : List (Nat × Fetch.Outcome)} (h : Gated past p timer releases) :
    ∀ a ∈ releases, p.Waits a.1 := fun a ha => ⟨_, h.waiting a ha, rfl⟩

/-- Whether steps release all the cycles in some order, and do nothing else. -/
def Releases (steps : List Step) (releases : List (Nat × Fetch.Outcome)) : Prop :=
  (steps.map (·.action)).Perm (releases.map fun a => .release a.1 a.2)

/-- The outcomes that count at the end: those released, and those with which cycles of the timer are
completed anyway when everything is processed. -/
def Counts (p : Poller) (timer : Nat) (releases : List (Nat × Fetch.Outcome))
    (a : Nat × Fetch.Outcome) : Prop :=
  a ∈ releases ∨
    a ∈ outcomes (p.step .finish).2.trace ∧ ⟨a.1, timer⟩ ∈ completions (p.step .finish).2.trace

/-- The outcome of the latest cycle of all that count. -/
structure Decides (p : Poller) (timer : Nat) (releases : List (Nat × Fetch.Outcome)) (cycle : Nat)
    (outcome : Fetch.Outcome) : Prop where
  counts : p.Counts timer releases (cycle, outcome)
  le : ∀ a, p.Counts timer releases a → a.1 ≤ cycle

theorem exists_decides (p : Poller) (timer : Nat) {releases : List (Nat × Fetch.Outcome)}
    (hne : releases ≠ []) : ∃ cycle outcome, p.Decides timer releases cycle outcome := by
  have hfinite : {a | p.Counts timer releases a}.Finite := by
    refine (releases ++ outcomes (p.step .finish).2.trace).finite_toSet.subset ?_
    intro a ha
    exact List.mem_append.mpr (ha.imp_right And.left)
  obtain ⟨b, hb⟩ := List.exists_mem_of_ne_nil releases hne
  obtain ⟨⟨cycle, outcome⟩, hcounts, hle⟩ := Set.exists_max_image _ Prod.fst hfinite ⟨b, .inl hb⟩
  exact ⟨cycle, outcome, hcounts, hle⟩

/-- Whether the published state is that of the cycle applied last, if there is one. -/
def ShowsLatest (past : List Event) (p : Poller) : Prop :=
  p.latest = 0 ∨ ∃ timer clock outcome, .completed p.latest timer clock outcome .applied ∈ past ∧
    p.published.Reflects outcome

theorem ShowsLatest.of_same {past : List Event} {p q : Poller} (h : ShowsLatest past p)
    (hshared : q.shared = p.shared) (more : List Event) : ShowsLatest (past ++ more) q := by
  have hlatest : q.latest = p.latest := by rw [latest_eq, latest_eq, hshared]
  have hpublished : q.published = p.published := by rw [published_eq, published_eq, hshared]
  unfold ShowsLatest
  rw [hlatest, hpublished]
  refine h.imp_right ?_
  rintro ⟨timer, clock, outcome, hmem, hreflects⟩
  exact ⟨timer, clock, outcome, List.mem_append_left _ hmem, hreflects⟩

theorem showsLatest_invariant : Invariant ShowsLatest where
  stop := fun h => h.of_same (stop_shared _) _
  launch := fun _ _ h _ _ => h.of_same rfl _
  drop := fun h _ => h
  release := by
    intro past p q cycle outcome h hr
    obtain ⟨w, -, -, rfl⟩ := release?_eq_some hr
    exact h
  move := by
    intro past es p q h hm
    cases hm with
    | pass | leave | schedule => exact h.of_same rfl _
    | issue due ha => exact h.of_same (issue_shared ..) _
    | discard hr hv => exact h.of_same rfl _
    | @apply cycle timer outcome rest hr hv =>
      right
      refine ⟨timer, p.clock, outcome, ?_, ?_⟩
      · simp [latest, applied]
      · rw [published_eq]
        exact p.published.reflects_after _ outcome
  handOver := fun h => h

/-- Steps that answer cycles or let time pass leave the timers to go on. -/
def Step.LeavesTimers (s : Step) : Prop := ∀ c : Control, c.act s.action = c

theorem Control.afterAll_of_leavesTimers {steps : List Step} (hs : ∀ s ∈ steps, s.LeavesTimers)
    (c : Control) : c.afterAll steps = c := by
  induction steps with
  | nil => rfl
  | cons s steps ih =>
    obtain ⟨hfirst, hrest⟩ := List.forall_mem_cons.mp hs
    rw [Control.afterAll_cons, hfirst, ih hrest]

section LeavesTimers
variable {p : Poller} {steps : List Step} {timer : Nat}
variable (hd : p.dropped = true → p.active = none) (hp : p.trace = [])
variable (hactive : p.isActive timer = true) (hs : ∀ s ∈ steps, s.LeavesTimers)
include hd hp hactive hs

theorem isActive_of_leavesTimers : (p.afterAll steps).isActive timer = true := by
  rw [isActive_iff_control] at hactive ⊢
  rw [control_afterAll hd hp, Control.afterAll_of_leavesTimers hs, hactive]

/-- Whatever happens while the timers are left to go on happens while the timer is active. -/
theorem exists_move_of_event {e : Event} (he : e ∈ p.events steps) (hcontrol : e.isControl = false) :
    ∃ q q' post fs, q.isActive timer = true ∧ Move q (post ++ e :: fs) q' := by
  obtain ⟨before, after, hsplit⟩ := List.append_of_mem he
  obtain ⟨earlier, s, later, pre, post, rfl, ht, -⟩ := events_eq_append_cons hsplit
  obtain ⟨hearlier, hlater⟩ := List.forall_mem_append.mp hs
  obtain ⟨es, q, post', fs, q', hms, hm, -⟩ :=
    step_at_event (afterAll_trace p earlier hp) ht hcontrol
  have hidle : DroppedIdle [] p := hd
  have hidle' := droppedIdle_invariant.afterAll hidle hp earlier
  have hq : q.control = (p.afterAll earlier).control := by
    rw [hms.control, control_controlled hidle']
    exact hlater s List.mem_cons_self _
  have hstill := isActive_of_leavesTimers hd hp hactive hearlier
  rw [isActive_iff_control, ← hq, ← isActive_iff_control] at hstill
  exact ⟨q, q', post', fs, hstill, hm⟩

/-- All cycles issued meanwhile are those of the timer. -/
theorem timer_of_issued {w : Waiting} (hw : w ∈ issues (p.events steps)) : w.timer = timer := by
  obtain ⟨e, he, hissue⟩ := List.mem_filterMap.mp hw
  cases e with
  | issued cycle timer' due clock =>
    cases hissue
    obtain ⟨q, q', post, fs, hq, hm⟩ := exists_move_of_event hd hp hactive hs he rfl
    obtain ⟨-, t, ht, rfl⟩ := hm.of_issued rfl
    obtain ⟨u, hu, hn⟩ := isActive_iff.mp hq
    cases ht.symm.trans hu
    exact hn
  | _ => cases hissue

/-- All cycles applied meanwhile are those of the timer. -/
theorem timer_of_applied {cycle timer' clock : Nat} {outcome : Fetch.Outcome}
    (h : .completed cycle timer' clock outcome .applied ∈ p.events steps) : timer' = timer := by
  obtain ⟨q, q', post, fs, hq, hm⟩ := exists_move_of_event hd hp hactive hs h rfl
  obtain ⟨-, -, hv, -⟩ := hm.of_completed rfl
  obtain ⟨t, ht, rfl⟩ := isActive_iff.mp (Poller.verdict_eq_applied_iff.mp hv.symm).1
  obtain ⟨u, hu, rfl⟩ := isActive_iff.mp hq
  cases ht.symm.trans hu
  rfl

end LeavesTimers

/-- A cycle completed since some time has been issued, then or before. -/
theorem Accounted.issued_of_recent {past es : List Event} {p : Poller} (h : Accounted (past ++ es) p)
    {w : Waiting} (hw : w ∈ completions es) : w ∈ issues (past ++ es) := by
  refine h.issued_of_completed ?_
  rw [completions_append]
  exact List.mem_append_right _ hw

/-- In two runs that leave the timers to go on a cycle is one of the same timer. -/
theorem Accounted.timer_eq {past : List Event} {p : Poller} {timer : Nat} (h : Accounted past p)
    (hd : p.dropped = true → p.active = none) (hp : p.trace = []) (hactive : p.isActive timer = true)
    {steps more : List Step} (hs : ∀ s ∈ steps, s.LeavesTimers) (hm : ∀ s ∈ more, s.LeavesTimers)
    {w x : Waiting} (hw : w ∈ issues (past ++ p.events steps))
    (hx : x ∈ issues (past ++ p.events more)) (he : w.cycle = x.cycle) : w.timer = x.timer := by
  have hold {fs : List Event} {y : Waiting} (hy : y ∈ issues past) : y ∈ issues (past ++ fs) := by
    rw [issues_append]
    exact List.mem_append_left _ hy
  have hsteps := accounted_invariant.afterAll h hp steps
  have hmore := accounted_invariant.afterAll h hp more
  rcases List.mem_append.mp (issues_append .. ▸ hw) with hwold | hwnew
  · exact congrArg Waiting.timer (hmore.eq_of_cycle_eq (hold hwold) hx he)
  rcases List.mem_append.mp (issues_append .. ▸ hx) with hxold | hxnew
  · exact congrArg Waiting.timer (hsteps.eq_of_cycle_eq hw (hold hxold) he)
  · rw [timer_of_issued hd hp hactive hs hwnew, timer_of_issued hd hp hactive hm hxnew]

/-- Completed in one run, a cycle is completed as one of the timer that issued it in the other. -/
theorem Accounted.completed_of_outcome {past : List Event} {p : Poller} {timer : Nat}
    (h : Accounted past p) (hd : p.dropped = true → p.active = none) (hp : p.trace = [])
    (hactive : p.isActive timer = true) {steps more : List Step} (hs : ∀ s ∈ steps, s.LeavesTimers)
    (hm : ∀ s ∈ more, s.LeavesTimers) {w : Waiting} {outcome : Fetch.Outcome}
    (ho : (w.cycle, outcome) ∈ outcomes (p.events steps)) (hw : w ∈ issues (past ++ p.events more)) :
    w ∈ completions (p.events steps) := by
  obtain ⟨timer', hcompleted⟩ := exists_completion ho
  have hissued := (accounted_invariant.afterAll h hp steps).issued_of_recent hcompleted
  have htimer : timer' = w.timer := h.timer_eq hd hp hactive hs hm hissued hw rfl
  rwa [htimer] at hcompleted

section Cycles
variable (p : Poller)

theorem settled_step {s : Step} (hs : s.settles = true) : (p.step s).1.Settled := by
  have hsettled := settled_settle (p.act s.action)
  simp only [step, hs, if_true]
  exact ⟨hsettled.ready, hsettled.reached, hsettled.clock_lt⟩

/-- What is forgotten of the trace makes no difference to what is left to be done. -/
theorem settle_cycles_of_trace : { p with trace := [] }.settle.cycles = p.settle.cycles := by
  have hsettle : recalling p.trace { p with trace := [] }.settle = p.settle :=
    (passes_recalling p.trace).settle { p with trace := [] }
  rw [← hsettle]
  rfl

theorem finish_cycles : (p.step .finish).1.cycles = p.settle.cycles := by
  simp [step, Step.finish, act_wait_zero]

/-- A release makes no difference to the cycles issued once everything is processed. -/
theorem settle_cycles_of_release (cycle : Nat) (outcome : Fetch.Outcome) (settles : Bool) :
    (p.step ⟨.release cycle outcome, settles⟩).1.settle.cycles = p.settle.cycles := by
  have htiming : (p.act (.release cycle outcome)).settle.timing = p.settle.timing :=
    settle_timing_congr (p.release_timing cycle outcome)
  cases settles with
  | false => exact (settle_cycles_of_trace _).trans (cycles_of_timing htiming)
  | true =>
    have hagain := congrArg Poller.cycles (settle_settle (p.act (.release cycle outcome)))
    exact ((settle_cycles_of_trace _).trans hagain).trans (cycles_of_timing htiming)

end Cycles

section Releases
variable {p : Poller} {rs : List Step} {releases : List (Nat × Fetch.Outcome)}
variable (hr : Releases rs releases)
include hr

theorem Releases.action_of_mem {s : Step} (hs : s ∈ rs) :
    ∃ a ∈ releases, s.action = .release a.1 a.2 := by
  obtain ⟨a, ha, he⟩ := List.mem_map.mp (hr.subset (List.mem_map_of_mem hs))
  exact ⟨a, ha, he.symm⟩

theorem Releases.leavesTimers : ∀ s ∈ rs ++ [Step.finish], s.LeavesTimers := by
  intro s hs c
  rcases List.mem_append.mp hs with hs | hs
  · obtain ⟨a, -, ha⟩ := hr.action_of_mem hs
    rw [ha]
    rfl
  · obtain rfl := List.mem_singleton.mp hs
    rfl

theorem Releases.cycles : (p.afterAll (rs ++ [Step.finish])).cycles = (p.step .finish).1.cycles := by
  have hsettle {steps : List Step} {q : Poller}
      (hs : ∀ s ∈ steps, ∃ cycle outcome, s.action = .release cycle outcome) :
      (q.afterAll steps).settle.cycles = q.settle.cycles := by
    induction steps generalizing q with
    | nil => rfl
    | cons s steps ih =>
      obtain ⟨⟨cycle, outcome, hfirst⟩, hrest⟩ := List.forall_mem_cons.mp hs
      obtain ⟨action, settles⟩ := s
      obtain rfl : action = .release cycle outcome := hfirst
      rw [afterAll_cons, ih hrest, settle_cycles_of_release]
  have hall : ∀ s ∈ rs, ∃ cycle outcome, s.action = .release cycle outcome := by
    intro s hs
    obtain ⟨a, -, ha⟩ := hr.action_of_mem hs
    exact ⟨a.1, a.2, ha⟩
  rw [afterAll_append, afterAll_cons, afterAll_nil, finish_cycles, finish_cycles, hsettle hall]

/-- The releases bring just the outcomes they are to bring. -/
theorem Releases.brought_iff {cycle : Nat} {outcome : Fetch.Outcome} (hp : p.trace = [])
    (hnodup : (releases.map Prod.fst).Nodup) (hwaits : ∀ a ∈ releases, p.Waits a.1) :
    p.Brought (rs ++ [Step.finish]) cycle outcome ↔ (cycle, outcome) ∈ releases := by
  constructor
  · rintro ⟨earlier, settles, later, he, -⟩
    have hmem : (⟨.release cycle outcome, settles⟩ : Step) ∈ rs ++ [Step.finish] := by
      rw [he]
      exact List.mem_append_right _ List.mem_cons_self
    rcases List.mem_append.mp hmem with hmem | hmem
    · obtain ⟨a, ha, haction⟩ := hr.action_of_mem hmem
      obtain ⟨rfl, rfl⟩ := Action.release.inj haction
      exact ha
    · cases List.mem_singleton.mp hmem
  · intro hmem
    have hactions : (rs.map (·.action)).Nodup := by
      refine hr.nodup_iff.mpr (hnodup.of_map.map ?_)
      rintro ⟨c, o⟩ ⟨c', o'⟩ he
      obtain ⟨rfl, rfl⟩ := Action.release.inj he
      rfl
    obtain ⟨⟨action, settles⟩, hs, rfl⟩ :=
      List.mem_map.mp (hr.symm.subset (List.mem_map_of_mem hmem))
    obtain ⟨earlier, later, rfl⟩ := List.append_of_mem hs
    refine ⟨earlier, settles, later ++ [Step.finish], by simp, ?_⟩
    refine (hwaits _ hmem).afterAll hp ?_
    -- A second release of the cycle would be the same one, so none comes earlier.
    rintro ⟨action, settles'⟩ hearlier outcome' rfl
    obtain ⟨a, ha, haction⟩ := hr.action_of_mem (List.mem_append_left _ hearlier)
    obtain ⟨rfl, rfl⟩ := Action.release.inj haction
    have hsame := congrArg Prod.snd (List.inj_on_of_nodup_map hnodup ha hmem rfl)
    rw [List.map_append] at hactions
    exact (List.nodup_append.mp hactions).2.2 _ (List.mem_map_of_mem hearlier) _
      List.mem_cons_self (hsame ▸ rfl)

/-- Whatever the order, the cycles are completed with the outcomes released and those in store. -/
theorem Releases.mem_outcomes_iff {cycle : Nat} {outcome : Fetch.Outcome} (hp : p.trace = [])
    (hnodup : (releases.map Prod.fst).Nodup) (hwaits : ∀ a ∈ releases, p.Waits a.1)
    (hle : cycle ≤ (p.step .finish).1.cycles) :
    (cycle, outcome) ∈ outcomes (p.events (rs ++ [Step.finish])) ↔
      p.Holds cycle outcome ∨ (cycle, outcome) ∈ releases := by
  have hready : (p.afterAll (rs ++ [Step.finish])).ready = [] := by
    rw [afterAll_append]
    exact (settled_step _ rfl).ready
  rw [mem_outcomes_of_ready hp hready (hr.cycles ▸ hle), hr.brought_iff hp hnodup hwaits]

end Releases

theorem mem_outcomes_finish_iff {p : Poller} {cycle : Nat} {outcome : Fetch.Outcome}
    (hp : p.trace = []) (hle : cycle ≤ (p.step .finish).1.cycles) :
    (cycle, outcome) ∈ outcomes (p.step .finish).2.trace ↔ p.Holds cycle outcome := by
  have hnone : Releases [] [] := .refl _
  simpa using hnone.mem_outcomes_iff hp .nil (fun _ ha => absurd ha List.not_mem_nil) hle

section Order
variable {past : List Event} {p : Poller} {timer cycle : Nat} {outcome : Fetch.Outcome}
  {rs : List Step} {releases : List (Nat × Fetch.Outcome)}
variable (h : Newest past p) (hd : p.dropped = true → p.active = none) (hp : p.trace = [])
variable (hg : Gated past p timer releases) (hr : Releases rs releases)

theorem leavesTimers_finish : ∀ s ∈ [Step.finish], s.LeavesTimers := by
  intro s hs c
  obtain rfl := List.mem_singleton.mp hs
  rfl

include h hd hp hg hr

/-- What counts is completed in every order. -/
theorem completed_of_counts (hc : p.Counts timer releases (cycle, outcome)) :
    (cycle, outcome) ∈ outcomes (p.events (rs ++ [Step.finish])) ∧
      ⟨cycle, timer⟩ ∈ completions (p.events (rs ++ [Step.finish])) := by
  have hfinish : Accounted (past ++ p.events [Step.finish]) (p.step .finish).1 :=
    accounted_invariant.afterAll h.accounted hp [Step.finish]
  have hissued : ⟨cycle, timer⟩ ∈ issues (past ++ p.events [Step.finish]) := by
    rcases hc with hreleased | ⟨-, hdone⟩
    · rw [issues_append]
      exact List.mem_append_left _ (h.accounted.issued_of_pending
        (List.mem_append_left _ (hg.waiting _ hreleased)))
    · exact hfinish.issued_of_recent (by simpa using hdone)
  have hle := hfinish.cycle_le hissued
  have hdone : (cycle, outcome) ∈ outcomes (p.events (rs ++ [Step.finish])) := by
    rw [hr.mem_outcomes_iff hp hg.nodup hg.waits hle]
    exact hc.symm.imp_left fun hc => (mem_outcomes_finish_iff hp hle).mp hc.1
  exact ⟨hdone, h.accounted.completed_of_outcome hd hp hg.active hr.leavesTimers
    leavesTimers_finish hdone hissued⟩

/-- What is applied in any order counts. -/
theorem counts_of_applied {timer' clock : Nat}
    (he : .completed cycle timer' clock outcome .applied ∈ p.events (rs ++ [Step.finish])) :
    p.Counts timer releases (cycle, outcome) := by
  obtain rfl := timer_of_applied hd hp hg.active hr.leavesTimers he
  have hwhole := accounted_invariant.afterAll h.accounted hp (rs ++ [Step.finish])
  have hissued : ⟨cycle, timer'⟩ ∈ issues (past ++ p.events (rs ++ [Step.finish])) :=
    hwhole.issued_of_recent (mem_completions.mpr ⟨clock, outcome, .applied, he⟩)
  have hle : cycle ≤ (p.step .finish).1.cycles := hr.cycles ▸ hwhole.cycle_le hissued
  have hdone := mem_outcomes.mpr ⟨timer', clock, .applied, he⟩
  rw [hr.mem_outcomes_iff hp hg.nodup hg.waits hle] at hdone
  rcases hdone with hholds | hreleased
  · have hheld := (mem_outcomes_finish_iff hp hle).mpr hholds
    have hcompleted := h.accounted.completed_of_outcome hd hp hg.active leavesTimers_finish
      hr.leavesTimers (w := ⟨cycle, timer'⟩) (by simpa using hheld) hissued
    exact .inr ⟨hheld, by simpa using hcompleted⟩
  · exact .inl hreleased

/-- The latest cycle that counts is the one applied last, in every order. -/
theorem reflects_of_decides (hshows : ShowsLatest past p) (hdec : p.Decides timer releases cycle outcome) :
    (p.afterAll (rs ++ [Step.finish])).published.Reflects outcome := by
  have hnewest := newest_invariant.afterAll h hp (rs ++ [Step.finish])
  obtain ⟨hdone, hcompleted⟩ := completed_of_counts h hd hp hg hr hdec.counts
  have hdone' : (cycle, outcome) ∈ outcomes (past ++ p.events (rs ++ [Step.finish])) := by
    rw [outcomes_append]
    exact List.mem_append_right _ hdone
  have hcompleted' : ⟨cycle, timer⟩ ∈ completions (past ++ p.events (rs ++ [Step.finish])) := by
    rw [completions_append]
    exact List.mem_append_right _ hcompleted
  obtain ⟨t, ht, rfl⟩ := isActive_iff.mp (isActive_of_leavesTimers hd hp hg.active hr.leavesTimers)
  have hle : cycle ≤ (p.afterAll (rs ++ [Step.finish])).latest :=
    hnewest.completed_le t ht ⟨cycle, t.number⟩ hcompleted' rfl
  have hpos : 0 < cycle :=
    hnewest.accounted.cycle_pos (hnewest.accounted.issued_of_recent hcompleted)
  rcases showsLatest_invariant.afterAll hshows hp (rs ++ [Step.finish]) with
    hzero | ⟨timer', clock, o, he, hreflects⟩
  · omega
  · have hsame : (p.afterAll (rs ++ [Step.finish])).latest = cycle := by
      refine Nat.le_antisymm ?_ hle
      rcases List.mem_append.mp he with hpast | hnew
      · obtain ⟨a, ha, hlt⟩ := hg.newest ⟨_, timer'⟩ (mem_completions.mpr ⟨clock, o, .applied, hpast⟩)
        exact (Nat.le_of_lt hlt).trans (hdec.le a (.inl ha))
      · exact hdec.le _ (counts_of_applied h hd hp hg hr hnew)
    rw [hsame] at he
    have ho := hnewest.accounted.outcome_eq hdone' (mem_outcomes.mpr ⟨timer', clock, .applied, he⟩)
    rwa [ho]

end Order

/-- Once the poller has settled, only the releases count. -/
theorem Settled.counts_iff {p : Poller} (h : p.Settled) (hp : p.trace = []) {timer : Nat}
    {releases : List (Nat × Fetch.Outcome)} {a : Nat × Fetch.Outcome} :
    p.Counts timer releases a ↔ a ∈ releases := by
  have htrace : (p.step .finish).2.trace = [] := by
    simp [step, Step.finish, act_wait_zero, h.settle_eq, answer, hp]
  rw [Counts, htrace]
  exact or_iff_left fun hc => List.not_mem_nil hc.1

/-- In every run, once cycles of the active timer that wait have all been released and everything is
processed, the published state is that of the latest of them and of the cycles completed anyway, in
whatever order they were released and wherever the poller has settled in between. -/
theorem latest_cycle_decides_in_every_order (clock : Nat) (script : List Scripted)
    (breaks : List Nat) (steps : List Step) {timer : Nat} {releases : List (Nat × Fetch.Outcome)}
    {rs rs' : List Step}
    (hg : Gated ((new clock script breaks).events steps) ((new clock script breaks).afterAll steps)
      timer releases)
    (hr : Releases rs releases) (hr' : Releases rs' releases) :
    let p := (new clock script breaks).afterAll steps
    (releases ≠ [] → ∃ cycle outcome, p.Decides timer releases cycle outcome) ∧
      ∀ cycle outcome, p.Decides timer releases cycle outcome →
        (p.afterAll (rs ++ [Step.finish])).published.Reflects outcome ∧
          (p.afterAll (rs' ++ [Step.finish])).published.Reflects outcome := by
  intro p
  have hnewest := newest_afterAll clock script breaks steps
  have hdropped := droppedIdle_afterAll clock script breaks steps
  have htrace := afterAll_trace (new clock script breaks) steps rfl
  have hshows : ShowsLatest ((new clock script breaks).events steps) p := by
    have hfirst : ShowsLatest [] (new clock script breaks) := .inl rfl
    simpa using showsLatest_invariant.afterAll hfirst rfl steps
  refine ⟨exists_decides p timer, ?_⟩
  intro cycle outcome hdec
  exact ⟨reflects_of_decides hnewest hdropped htrace hg hr hshows hdec,
    reflects_of_decides hnewest hdropped htrace hg hr' hshows hdec⟩

/-- Two cycles wait. The later one fails, and is released last or first. -/
theorem later_failure_decides_in_both_orders :
    let steps : List Step := [⟨.start 20, true⟩, ⟨.wait 20, true⟩]
    let p := (new 0 [] []).afterAll steps
    let failure : Failure := .malformed "x"
    let rs : List Step := [⟨.release 1 (.ok []), true⟩, ⟨.release 2 (.error failure), false⟩]
    let rs' : List Step := [⟨.release 2 (.error failure), false⟩, ⟨.release 1 (.ok []), false⟩]
    (p.afterAll (rs ++ [Step.finish])).published.status = .failed failure.message ∧
      (p.afterAll (rs' ++ [Step.finish])).published.status = .failed failure.message := by
  intro steps p failure rs rs'
  have hwaiting : p.waiting = [⟨2, 1⟩, ⟨1, 1⟩] := by decide +kernel
  have hcompletions : completions ((new 0 [] []).events steps) = [] := by decide +kernel
  have hsettled : p.Settled := by
    simp only [p, steps, afterAll_cons, afterAll_nil]
    exact settled_step _ rfl
  have hg : Gated ((new 0 [] []).events steps) p 1 [(1, .ok []), (2, .error failure)] := by
    refine ⟨by decide +kernel, ?_, by decide, ?_⟩
    · rw [hwaiting]
      simp
    · rw [hcompletions]
      exact fun w hw => absurd hw List.not_mem_nil
  have hdec : p.Decides 1 [(1, .ok []), (2, .error failure)] 2 (.error failure) := by
    refine ⟨.inl (by simp), ?_⟩
    intro a ha
    rw [hsettled.counts_iff rfl] at ha
    rcases List.mem_cons.mp ha with rfl | ha
    · decide
    · rw [List.mem_singleton.mp ha]
  have hr : Releases rs [(1, .ok []), (2, .error failure)] := .refl _
  have hr' : Releases rs' [(1, .ok []), (2, .error failure)] := .swap ..
  obtain ⟨-, hdecided⟩ := latest_cycle_decides_in_every_order 0 [] [] steps hg hr hr'
  exact hdecided 2 (.error failure) hdec

/-- The only cycle that waits fails, but when everything is processed a tick is due whose cycle is
answered at once. So the failure is not what is published in the end. -/
theorem due_tick_decides_after_release :
    let steps : List Step := [⟨.start 20, true⟩, ⟨.wait 20, false⟩]
    let p := (new 0 [.wait, .now (.ok [])] []).afterAll steps
    let failure : Failure := .malformed "x"
    let rs : List Step := [⟨.release 1 (.error failure), true⟩]
    Gated ((new 0 [.wait, .now (.ok [])] []).events steps) p 1 [(1, .error failure)] ∧
      Releases rs [(1, .error failure)] ∧
      ¬ (p.afterAll rs).published.Reflects (.error failure) ∧
      ¬ (p.afterAll (rs ++ [Step.finish])).published.Reflects (.error failure) := by
  intro steps p failure rs
  have hwaiting : p.waiting = [⟨1, 1⟩] := by decide +kernel
  have hcompletions : completions ((new 0 [.wait, .now (.ok [])] []).events steps) = [] := by decide +kernel
  have hreleased : (p.afterAll rs).published.status = .ready (.ofMillis 20) := by decide +kernel
  have hfinished : (p.afterAll (rs ++ [Step.finish])).published.status = .ready (.ofMillis 20) := by
    decide +kernel
  refine ⟨⟨by decide +kernel, ?_, by decide, ?_⟩, .refl _, ?_, ?_⟩
  · rw [hwaiting]
    simp
  · rw [hcompletions]
    exact fun w hw => absurd hw List.not_mem_nil
  · intro h
    cases hreleased.symm.trans h
  · intro h
    cases hfinished.symm.trans h

end Poller
end QueueBoard
