import Mathlib.Data.List.Chain
import QueueBoard.Proofs.Poller.Ledger
import QueueBoard.Proofs.Poller.Schedules

/-! # Late ticks

A tick may run late because nothing ran when it was due. The schedule then moves on and is not caught up
with, so a timer never ticks more often than its interval allows, whatever the time it has slept.
-/
namespace QueueBoard.Schedule

/-- When a tick was due and when it ran. -/
structure Tick where
  due : Nat
  clock : Nat
deriving DecidableEq, Repr

/-- Ticks by the schedule, none of them early, up to the next one. The first is due when it runs. -/
inductive Follows (interval first : Nat) : List Tick → Nat → Prop
  | first : Follows interval first [⟨first, first⟩] (first + interval)
  | next {ticks : List Tick} {due clock : Nat} (_ : Follows interval first ticks due)
      (_ : due ≤ clock) : Follows interval first (ticks ++ [⟨due, clock⟩]) (nextDue interval clock due)

section NextDue
variable (interval clock due : Nat)

theorem add_le_nextDue : due + interval ≤ nextDue interval clock due := by
  unfold nextDue
  split <;> omega

/-- Only a tick within the tolerance brings the next one closer than an interval. -/
theorem clock_add_le_nextDue : clock + interval ≤ nextDue interval clock due + tolerance := by
  unfold nextDue
  split <;> omega

theorem nextDue_self : nextDue interval clock clock = clock + interval := by
  unfold nextDue
  split <;> omega

end NextDue

namespace Follows
variable {interval first due : Nat} {ticks : List Tick} (h : Follows interval first ticks due)
include h

theorem head?_eq : ticks.head? = some ⟨first, first⟩ := by
  induction h with
  | first => rfl
  | next _ _ ih => rw [List.head?_append, ih, Option.some_or]

theorem due_le_clock : ∀ tick ∈ ticks, tick.due ≤ tick.clock := by
  induction h with
  | first => exact List.forall_mem_singleton.mpr (Nat.le_refl _)
  | next _ hle ih => exact List.forall_mem_append.mpr ⟨ih, List.forall_mem_singleton.mpr hle⟩

/-- The next tick is due by the last one. -/
theorem due_eq : ∀ last ∈ ticks.getLast?, due = nextDue interval last.clock last.due := by
  intro last hlast
  cases h with
  | first =>
    obtain rfl := Option.some.inj hlast
    exact (nextDue_self interval _).symm
  | next _ _ =>
    rw [List.getLast?_concat] at hlast
    obtain rfl := Option.some.inj hlast
    rfl

/-- Every tick after the first one is due by the one before it. -/
theorem isChain : ticks.IsChain (fun a b => b.due = nextDue interval a.clock a.due) := by
  induction h with
  | first => exact List.isChain_singleton _
  | next h _ ih =>
    refine List.isChain_append.mpr ⟨ih, List.isChain_singleton _, ?_⟩
    intro last hlast tick htick
    obtain rfl := Option.some.inj htick
    exact h.due_eq last hlast

theorem apart : ticks.IsChain (fun a b => a.clock + interval ≤ b.clock + tolerance) := by
  have hchain := h.isChain
  refine (List.IsChain.imp_of_mem_imp ?_ hchain)
  intro a b _ hb hdue
  have hlate := h.due_le_clock b hb
  have hgap := clock_add_le_nextDue interval a.clock a.due
  omega

theorem add_mul_le : first + ticks.length * interval ≤ due := by
  induction h with
  | first => simp
  | @next ticks due clock h hle ih =>
    have hnext := add_le_nextDue interval clock due
    rw [List.length_append, List.length_singleton, Nat.succ_mul]
    omega

/-- However late some ticks have run, there are no more of them than intervals have passed. -/
theorem length_filter_le (hpos : 0 < interval) (passed : Nat) :
    (ticks.filter (fun tick => tick.clock ≤ first + passed)).length ≤ 1 + passed / interval := by
  induction h with
  | first =>
    have hone := List.length_filter_le (fun tick : Tick => tick.clock ≤ first + passed) [⟨first, first⟩]
    exact hone.trans (Nat.le_add_right ..)
  | @next ticks due clock h hle ih =>
    rw [List.filter_append, List.length_append]
    by_cases hin : clock ≤ first + passed
    · have hcount : ticks.length ≤ passed / interval := by
        rw [Nat.le_div_iff_mul_le hpos]
        have hdue := h.add_mul_le
        omega
      have hbefore := List.length_filter_le (fun tick : Tick => tick.clock ≤ first + passed) ticks
      have hlast := List.length_filter_le (fun tick : Tick => tick.clock ≤ first + passed) [⟨due, clock⟩]
      rw [List.length_singleton] at hlast
      omega
    · rw [List.filter_cons_of_neg (by simpa using hin)]
      exact ih

end Follows

/-- The ticks that run at one time follow those that have run before. -/
theorem Follows.ticksAt {interval : Nat} (hpos : 0 < interval) (first clock due : Nat) :
    ∀ ticks, Follows interval first ticks due →
      Follows interval first (ticks ++ (ticksAt interval hpos clock due).1.map (⟨·, clock⟩))
        (ticksAt interval hpos clock due).2 := by
  fun_induction Schedule.ticksAt interval hpos clock due with
  | case1 due hle rest ih =>
    intro ticks h
    have hrest := ih _ (h.next hle)
    rwa [List.append_assoc] at hrest
  | case2 due hlt =>
    intro ticks h
    rwa [List.map_nil, List.append_nil]

/-- Ticks up to a time that never come in a burst. -/
structure Unhurried (interval clock : Nat) (ticks : List Tick) : Prop where
  due_le : ∀ tick ∈ ticks, tick.due ≤ tick.clock
  clock_le : ∀ tick ∈ ticks, tick.clock ≤ clock
  length_le : ∀ first, ticks.head? = some first →
    ticks.length ≤ 1 + (clock - first.clock) / interval
  length_filter_le : ∀ first, ticks.head? = some first → ∀ passed,
    (ticks.filter (fun tick => tick.clock ≤ first.clock + passed)).length ≤ 1 + passed / interval
  delayed : ticks.IsChain (fun a b => b.due = nextDue interval a.clock a.due)
  apart : tolerance < interval → ticks.IsChain (fun a b => a.clock + (interval - tolerance) ≤ b.clock)

theorem unhurried_nil (interval clock : Nat) : Unhurried interval clock [] where
  due_le := fun _ h => absurd h List.not_mem_nil
  clock_le := fun _ h => absurd h List.not_mem_nil
  length_le := fun _ h => nomatch h
  length_filter_le := fun _ h => nomatch h
  delayed := .nil
  apart := fun _ => .nil

theorem Follows.unhurried {interval first due clock : Nat} {ticks : List Tick}
    (h : Follows interval first ticks due) (hpos : 0 < interval)
    (hclock : ∀ tick ∈ ticks, tick.clock ≤ clock) : Unhurried interval clock ticks where
  due_le := h.due_le_clock
  clock_le := hclock
  length_le := by
    intro start hstart
    obtain rfl := Option.some.inj (h.head?_eq.symm.trans hstart)
    have hle : first ≤ clock := hclock _ (List.mem_of_head? hstart)
    have hall : ticks.filter (fun tick => tick.clock ≤ first + (clock - first)) = ticks := by
      refine List.filter_eq_self.mpr ?_
      intro tick htick
      rw [Nat.add_sub_cancel' hle]
      simpa using hclock tick htick
    have hcount := h.length_filter_le hpos (clock - first)
    rwa [hall] at hcount
  length_filter_le := by
    intro start hstart
    obtain rfl := Option.some.inj (h.head?_eq.symm.trans hstart)
    exact h.length_filter_le hpos
  delayed := h.isChain
  apart := by
    intro hlt
    refine h.apart.imp ?_
    intro a b hgap
    omega

/-- Beyond the tolerance the tick after one that runs now lies ahead. -/
theorem length_ticksAt_le_one {interval : Nat} (hpos : 0 < interval) (h : tolerance < interval)
    (clock due : Nat) : (ticksAt interval hpos clock due).1.length ≤ 1 := by
  rw [ticksAt.eq_def]
  split
  · have hahead : clock < nextDue interval clock due := by
      have hgap := clock_add_le_nextDue interval clock due
      omega
    rw [ticksAt_of_lt hpos hahead]
    exact Nat.le_refl 1
  · exact Nat.zero_le 1

end QueueBoard.Schedule

namespace QueueBoard.Poller

def Event.tick? : Event → Option Schedule.Tick
  | .issued _ _ due clock => some ⟨due, clock⟩
  | _ => none

/-- When the cycles were due and when they were issued. -/
def ticks (past : List Event) : List Schedule.Tick := past.filterMap Event.tick?

@[simp] theorem ticks_append (past more : List Event) : ticks (past ++ more) = ticks past ++ ticks more :=
  List.filterMap_append

theorem ticks_of_isControl {es : List Event} (h : ∀ e ∈ es, e.isControl = true) : ticks es = [] := by
  refine filterMap_of_isControl ?_ h
  intro e hc
  cases e with
  | issued => cases hc
  | _ => rfl

/-- What is read off the events of timers alone. -/
theorem filterMap_isOfTimer {α : Type} {f : Event → Option α}
    (hf : ∀ e, e.isOfTimer = false → f e = none) (es : List Event) :
    (es.filter Event.isOfTimer).filterMap f = es.filterMap f := by
  rw [List.filterMap_filter]
  refine List.filterMap_congr ?_
  intro e _
  cases he : e.isOfTimer with
  | false => simpa [he] using (hf e he).symm
  | true => simp

theorem ticks_isOfTimer (es : List Event) : ticks (es.filter Event.isOfTimer) = ticks es := by
  refine filterMap_isOfTimer ?_ es
  intro e he
  cases e with
  | issued => cases he
  | _ => rfl

theorem issues_isOfTimer (es : List Event) : issues (es.filter Event.isOfTimer) = issues es := by
  refine filterMap_isOfTimer ?_ es
  intro e he
  cases e with
  | issued => cases he
  | _ => rfl

theorem foldl_issue_ticks (timer : Nat) (dues : List Nat) (p : Poller) :
    ∃ es, (dues.foldl (fun q due => q.issue timer due) p).timing.events
        = es.reverse ++ p.timing.events ∧
      ticks es = dues.map (⟨·, p.clock⟩) ∧ (∀ w ∈ issues es, w.timer = timer) ∧
      es.length = dues.length := by
  induction dues generalizing p with
  | nil => exact ⟨[], rfl, rfl, fun w hw => absurd hw List.not_mem_nil, rfl⟩
  | cons due dues ih =>
    obtain ⟨es, hevents, hticks, hissues, hlength⟩ := ih (p.issue timer due)
    refine ⟨.issued (p.cycles + 1) timer due p.clock :: es, ?_, ?_, ?_, ?_⟩
    · rw [List.foldl_cons, hevents, issue_timing]
      simp [timing]
    · rw [issue_clock] at hticks
      rw [List.map_cons, ← hticks]
      rfl
    · exact List.forall_mem_cons.mpr ⟨rfl, hissues⟩
    · rw [List.length_cons, List.length_cons, hlength]

/-- How far a timer has come: it has not run yet, or it has ticked by the schedule. -/
inductive Timing.Stage (t : Timing) (number : Nat) {interval : Nat} (hpos : 0 < interval)
    (past : List Event) : Prop
  | fresh (old : List Nat) (active : t.active = some ⟨number, interval, none, hpos⟩)
      (starting : t.starting = old ++ [number]) (other : ∀ timer ∈ old, timer ≠ number)
      (unticked : ticks past = [])
  | underWay (first due : Nat) (active : t.active = some ⟨number, interval, some due, hpos⟩)
      (starting : t.starting = []) (follows : Schedule.Follows interval first (ticks past) due)

/-- What has happened since a timer was started, while it is active. -/
structure Timing.Paced (t : Timing) (number : Nat) {interval : Nat} (hpos : 0 < interval)
    (past : List Event) : Prop where
  stage : t.Stage number hpos past
  dropped : t.dropped = false
  own : ∀ w ∈ issues past, w.timer = number
  clock_le : ∀ tick ∈ ticks past, tick.clock ≤ t.clock
  reached_le : t.reached ≤ t.clock

/-- From one timing to another one, the timer goes on. -/
structure Paces (number : Nat) {interval : Nat} (hpos : 0 < interval) (past es : List Event)
    (t u : Timing) : Prop where
  paced : u.Paced number hpos (past ++ es)
  events : u.events = es.reverse ++ t.events

section Paced
variable {number interval : Nat} {hpos : 0 < interval} {past es fs : List Event} {t u v : Timing}

theorem Timing.Paced.refl (h : t.Paced number hpos past) : Paces number hpos past [] t t where
  paced := by rwa [List.append_nil]
  events := rfl

theorem Paces.trans (h : Paces number hpos past es t u) (h' : Paces number hpos (past ++ es) fs u v) :
    Paces number hpos past (es ++ fs) t v where
  paced := by
    rw [← List.append_assoc]
    exact h'.paced
  events := by rw [h'.events, h.events, List.reverse_append, List.append_assoc]

/-- Only the timer, the cycles that were issued and the time matter. -/
theorem Timing.Paced.of_same (h : t.Paced number hpos past) (hactive : u.active = t.active)
    (hstarting : u.starting = t.starting) (hdropped : u.dropped = t.dropped) (hclock : t.clock ≤ u.clock)
    (hreached : u.reached ≤ u.clock) (hticks : ticks es = ticks past)
    (hissues : issues es = issues past) : u.Paced number hpos es where
  stage := by
    rcases h.stage with ⟨old, ha, hs, hother, hnone⟩ | ⟨first, due, ha, hs, hfollows⟩
    · exact .fresh old (hactive.trans ha) (hstarting.trans hs) hother (hticks.trans hnone)
    · exact .underWay first due (hactive.trans ha) (hstarting.trans hs) (hticks ▸ hfollows)
  dropped := hdropped.trans h.dropped
  own := hissues ▸ h.own
  clock_le := by
    intro tick htick
    rw [hticks] at htick
    exact (h.clock_le tick htick).trans hclock
  reached_le := hreached

theorem Timing.Paced.atTime (h : t.Paced number hpos past) {clock reached : Nat}
    (hle : t.clock ≤ clock) (hreached : reached ≤ clock) :
    { t with clock := clock, reached := reached }.Paced number hpos past :=
  h.of_same rfl rfl rfl hle hreached rfl rfl

theorem Timing.Paced.unhurried (h : t.Paced number hpos past) :
    Schedule.Unhurried interval t.clock (ticks past) := by
  rcases h.stage with ⟨old, hactive, hstarting, hother, hnone⟩ | ⟨first, due, hactive, hstarting, hfollows⟩
  · rw [hnone]
    exact Schedule.unhurried_nil interval t.clock
  · exact hfollows.unhurried hpos h.clock_le

end Paced

section Work
variable {number interval : Nat} {hpos : 0 < interval} {past : List Event} {p : Poller}

/-- The first run of a timer is its first tick. -/
theorem settle_fresh (h : p.timing.Paced number hpos past) (old : List Nat)
    (hactive : p.timing.active = some ⟨number, interval, none, hpos⟩)
    (hstarting : p.timing.starting = old ++ [number]) (hother : ∀ timer ∈ old, timer ≠ number)
    (hnone : ticks past = []) :
    ∃ es, Paces number hpos past es p.timing p.settle.timing ∧ es.length ≤ 1 := by
  let s : Pace := ⟨number, interval, p.clock, p.cycles, hpos⟩
  have hawaits : p.timing.Awaits s :=
    ⟨hactive, rfl, ⟨old, hstarting, hother⟩, h.dropped, rfl, h.reached_le⟩
  have hticks := settle_first hawaits
  have hfirst : s.time 0 = p.clock := by simp [Pace.time, s]
  have hnext : s.time (0 + 1) = p.clock + interval := by rw [s.time_succ, hfirst]
  have hran : ticks (past ++ s.ticks 0 1) = [⟨p.clock, p.clock⟩] := by
    rw [ticks_append, hnone, ← hfirst]
    rfl
  refine ⟨s.ticks 0 1, ⟨⟨?_, hticks.keeps.dropped, ?_, ?_, hticks.keeps.reached_le⟩, hticks.events⟩,
    Nat.le_refl 1⟩
  · refine .underWay p.clock (s.time (0 + 1)) hticks.keeps.active hticks.keeps.starting ?_
    rw [hran, hnext]
    exact .first
  · rw [issues_append]
    refine List.forall_mem_append.mpr ⟨h.own, List.forall_mem_singleton.mpr rfl⟩
  · rw [hran, List.forall_mem_singleton]
    exact (settle_clock p).ge

/-- Ticks that are due run late, if not in time, and none runs early. -/
theorem fire_underWay (h : p.timing.Paced number hpos past) (first due : Nat)
    (hactive : p.active = some ⟨number, interval, some due, hpos⟩) (hidle : p.Idle)
    (hfollows : Schedule.Follows interval first (ticks past) due) :
    ∃ es, Paces number hpos past es p.timing p.fire.timing ∧
      es.length = (Schedule.ticksAt interval hpos p.clock due).1.length := by
  let q := { p with reached := p.clock }.scheduled ⟨number, interval, some due, hpos⟩
    (Schedule.ticksAt interval hpos p.clock due).2
  obtain ⟨es, hevents, hticks, hissues, hlength⟩ :=
    foldl_issue_ticks number (Schedule.ticksAt interval hpos p.clock due).1 q
  obtain ⟨-, hnext, -⟩ :=
    foldl_issue_keeps number (Schedule.ticksAt interval hpos p.clock due).1 q
  have hfire := fire_of_due hactive rfl
  have hclock : p.fire.timing.clock = p.clock := fire_clock p
  rw [← hfire] at hevents hnext
  refine ⟨es, ⟨⟨?_, ?_, ?_, ?_, ?_⟩, hevents⟩, hlength⟩
  · refine .underWay first (Schedule.ticksAt interval hpos p.clock due).2 hnext hidle.fire ?_
    rw [ticks_append, hticks]
    exact hfollows.ticksAt hpos first p.clock due _
  · obtain ⟨gs, hgs⟩ := p.fire_moves
    exact (congrArg Control.dropped hgs.control).trans h.dropped
  · rw [issues_append]
    exact List.forall_mem_append.mpr ⟨h.own, hissues⟩
  · rw [hclock, ticks_append, hticks, List.forall_mem_append, List.forall_mem_map]
    exact ⟨h.clock_le, fun _ _ => Nat.le_refl _⟩
  · exact (fire_reached p).le.trans hclock.ge

theorem settle_paces (h : p.timing.Paced number hpos past) :
    ∃ es, Paces number hpos past es p.timing p.settle.timing ∧
      (Schedule.tolerance < interval → es.length ≤ 1) := by
  rcases h.stage with ⟨old, hactive, hstarting, hother, hnone⟩ | ⟨first, due, hactive, hstarting, hfollows⟩
  · obtain ⟨es, hpaces, hlength⟩ := settle_fresh h old hactive hstarting hother hnone
    exact ⟨es, hpaces, fun _ => hlength⟩
  · have hidle : p.Idle := hstarting
    obtain ⟨es, hpaces, hlength⟩ := fire_underWay h first due hactive hidle hfollows
    rw [← hidle.settle_timing h.reached_le] at hpaces
    refine ⟨es, hpaces, ?_⟩
    intro hlt
    rw [hlength]
    exact Schedule.length_ticksAt_le_one hpos hlt _ _

theorem advance_paces (p : Poller) (target : Nat) : ∀ past, p.timing.Paced number hpos past →
    ∃ es, Paces number hpos past es p.timing (p.advance target).timing := by
  fun_induction advance p target with
  | case1 p hlt q due hdue hbetween ih =>
    intro past h
    obtain ⟨es, hes, -⟩ := settle_paces h
    have hle : p.settle.clock ≤ due := p.settle_clock.le.trans (Nat.le_of_lt hbetween.1)
    obtain ⟨fs, hfs⟩ := ih _ (hes.paced.atTime hle (Nat.le_refl due))
    exact ⟨es ++ fs, hes.trans ⟨hfs.paced, hfs.events⟩⟩
  | case2 p hlt q due hdue hout =>
    intro past h
    obtain ⟨es, hes, -⟩ := settle_paces h
    have hle : p.settle.clock ≤ target := p.settle_clock.le.trans (Nat.le_of_lt hlt)
    exact ⟨es, hes.paced.atTime hle (Nat.le_refl target), hes.events⟩
  | case3 p hlt q hdue =>
    intro past h
    obtain ⟨es, hes, -⟩ := settle_paces h
    have hle : p.settle.clock ≤ target := p.settle_clock.le.trans (Nat.le_of_lt hlt)
    exact ⟨es, hes.paced.atTime hle (Nat.le_refl target), hes.events⟩
  | case4 p hge =>
    intro past h
    exact ⟨[], h.refl⟩

end Work

/-- A wait, a stall or a release, whether or not the poller settles after it. -/
inductive Step.IsRough : Step → Prop
  | wait (ms : Nat) (settles : Bool) : IsRough ⟨.wait ms, settles⟩
  | stall (ms : Nat) (settles : Bool) : IsRough ⟨.stall ms, settles⟩
  | release (cycle : Nat) (outcome : Fetch.Outcome) (settles : Bool) :
      IsRough ⟨.release cycle outcome, settles⟩

section Steps
variable {number interval : Nat} {hpos : 0 < interval} {past : List Event} {p : Poller}

theorem act_paces {s : Step} (hs : s.IsRough) (h : p.timing.Paced number hpos past) :
    ∃ es, Paces number hpos past es p.timing (p.act s.action).timing := by
  cases hs with
  | wait ms => exact advance_paces p (p.clock + ms) past h
  | stall ms =>
    refine ⟨[], ?_, rfl⟩
    rw [List.append_nil]
    exact h.atTime (Nat.le_add_right ..) (h.reached_le.trans (Nat.le_add_right ..))
  | release cycle outcome =>
    refine ⟨[], ?_⟩
    rw [act, release_timing]
    exact h.refl

theorem worked_paces {s : Step} {es : List Event}
    (hact : Paces number hpos past es p.timing (p.act s.action).timing) :
    ∃ es, Paces number hpos past es p.timing (p.worked s).timing := by
  unfold worked
  split
  · obtain ⟨fs, hfs, -⟩ := settle_paces hact.paced
    exact ⟨es ++ fs, hact.trans hfs⟩
  · exact ⟨es, hact⟩

/-- The events of timers that a step leaves in its answer. -/
theorem step_trace_of_paces {s : Step} {es : List Event} (hp : p.trace = [])
    (h : Paces number hpos past es p.timing (p.worked s).timing) :
    (p.step s).2.trace.filter Event.isOfTimer = es := by
  have hnone : p.timing.events = [] := congrArg (List.filter Event.isOfTimer) hp
  have hevents : (p.worked s).trace.filter Event.isOfTimer = es.reverse := by
    have he := h.events
    rwa [hnone, List.append_nil] at he
  rw [step_snd, answer, List.filter_reverse, hevents, List.reverse_reverse]

theorem step_paced {s : Step} {es : List Event} (hp : p.trace = [])
    (hact : Paces number hpos past es p.timing (p.act s.action).timing) :
    (p.step s).1.timing.Paced number hpos (past ++ (p.step s).2.trace) := by
  obtain ⟨fs, hfs⟩ := worked_paces hact
  have htrace := step_trace_of_paces hp hfs
  refine hfs.paced.of_same rfl rfl rfl (Nat.le_refl _) hfs.paced.reached_le ?_ ?_
  · rw [ticks_append, ticks_append, ← htrace, ticks_isOfTimer]
  · rw [issues_append, issues_append, ← htrace, issues_isOfTimer]

/-- A timer goes on as long as it is neither ended nor replaced. -/
theorem run_paced {steps : List Step} (hs : ∀ s ∈ steps, s.IsRough) (hp : p.trace = [])
    (h : p.timing.Paced number hpos past) :
    (p.afterAll steps).timing.Paced number hpos (past ++ p.events steps) := by
  induction steps generalizing p past with
  | nil => simpa using h
  | cons s steps ih =>
    obtain ⟨hfirst, hrest⟩ := List.forall_mem_cons.mp hs
    obtain ⟨es, hes⟩ := act_paces hfirst h
    rw [events_cons, afterAll_cons, ← List.append_assoc]
    exact ih hrest rfl (step_paced hp hes)

/-- After a stall the timer ticks once at most. -/
theorem length_issues_stall_le (hp : p.trace = []) (h : p.timing.Paced number hpos past)
    (hlt : Schedule.tolerance < interval) (ms : Nat) :
    (issues (p.step ⟨.stall ms, true⟩).2.trace).length ≤ 1 := by
  obtain ⟨es, hes⟩ := act_paces (.stall ms true) h
  obtain ⟨fs, hfs, hlength⟩ := settle_paces hes.paced
  obtain rfl : es = [] := by
    have he := hes.events
    change p.timing.events = es.reverse ++ p.timing.events at he
    simpa using he
  rw [← issues_isOfTimer, step_trace_of_paces (s := ⟨.stall ms, true⟩) hp (hes.trans hfs)]
  exact (List.length_filterMap_le _ _).trans (hlength hlt)

theorem start_paces {past : List Event} (hn : Numbered past p) (hd : p.dropped = false)
    (hr : p.reached ≤ p.clock) (hpos : 0 < interval) :
    Paces (p.timers + 1) hpos [] (p.stopEvents ++ [.started (p.timers + 1) interval]) p.timing
      (p.act (.start interval)).timing := by
  have hact : p.act (.start interval) = p.start interval hpos := by simp [act, hd, hpos]
  have hawaits := awaits_start hpos hn hd hr
  obtain ⟨old, hstarting, hother⟩ := hawaits.starting
  have hcontrol : ∀ e ∈ p.stopEvents ++ [.started (p.timers + 1) interval], e.isControl = true :=
    List.forall_mem_append.mpr
      ⟨p.isControl_of_mem_stopEvents, List.forall_mem_singleton.mpr rfl⟩
  have hticks := ticks_of_isControl hcontrol
  have hissues := issues_of_isControl hcontrol
  rw [hact]
  refine ⟨⟨.fresh old hawaits.active hstarting hother hticks, hawaits.dropped, ?_, ?_,
    hawaits.reached_le⟩, ?_⟩
  · rw [List.nil_append, hissues]
    exact fun w hw => absurd hw List.not_mem_nil
  · rw [List.nil_append, hticks]
    exact fun tick htick => absurd htick List.not_mem_nil
  · rw [start_timing]
    simp [reverse_stopEvents]

end Steps

/-- Where a timer is started and then time passes in any way, with or without the poller being served,
its ticks run when they are due or later, and as a late tick moves the ones after it there are never
more of them than intervals have passed since the first one. With an interval beyond the tolerance two
ticks are hardly closer than an interval, and a stall is followed by one tick at most, however long it
has been. -/
theorem stalls_are_not_caught_up_with (clock : Nat) (script : List Scripted) (breaks : List Nat)
    (earlier steps : List Step) {interval : Nat} (hd : (Control.after earlier).dropped = false)
    (hpos : 0 < interval) (settles : Bool) (hs : ∀ s ∈ steps, s.IsRough) :
    let p := (new clock script breaks).afterAll earlier
    let start := ⟨.start interval, settles⟩
    (∀ w ∈ issues (p.events (start :: steps)), w.timer = (Control.after earlier).timers + 1) ∧
      Schedule.Unhurried interval (p.afterAll (start :: steps)).clock
        (ticks (p.events (start :: steps))) ∧
      (Schedule.tolerance < interval → ∀ between ms later,
        steps = between ++ ⟨.stall ms, true⟩ :: later →
          (issues ((p.afterAll (start :: between)).step ⟨.stall ms, true⟩).2.trace).length ≤ 1) := by
  intro p start
  have hcontrol : p.control = Control.after earlier := control_after clock script breaks earlier
  have hdropped : p.dropped = false := (congrArg Control.dropped hcontrol).trans hd
  have htimer : p.timers + 1 = (Control.after earlier).timers + 1 := congrArg (·.timers + 1) hcontrol
  have hstart := step_paced (s := start) (afterAll_trace _ earlier rfl)
    (start_paces (numbered_afterAll clock script breaks earlier) hdropped
      (afterAll_reached_le (Nat.le_refl clock) earlier) hpos)
  have hrun (more : List Step) (hmore : ∀ s ∈ more, s.IsRough) :
      (p.afterAll (start :: more)).timing.Paced (p.timers + 1) hpos (p.events (start :: more)) := by
    have hpaced := run_paced hmore rfl hstart
    rwa [List.nil_append, ← events_cons] at hpaced
  have hall := hrun steps hs
  refine ⟨?_, hall.unhurried, ?_⟩
  · intro w hw
    exact (hall.own w hw).trans htimer
  · rintro hlt between ms later rfl
    have hbetween := hrun between fun s hmem => hs s (List.mem_append_left _ hmem)
    exact length_issues_stall_le (afterAll_trace p _ (afterAll_trace _ earlier rfl)) hbetween hlt ms

/-- A tick runs 26 ms late and moves the next one; after 100 ms without service there is one tick. -/
theorem long_stall_is_followed_by_one_tick :
    let p := new 0 [] []
    let start : Step := ⟨.start 20, true⟩
    let between : List Step := [⟨.stall 46, true⟩, ⟨.wait 22, false⟩]
    ticks (p.events (start :: (between ++ [⟨.stall 100, true⟩])))
        = [⟨0, 0⟩, ⟨20, 46⟩, ⟨66, 66⟩, ⟨86, 168⟩] ∧
      Schedule.Unhurried 20 168 [⟨0, 0⟩, ⟨20, 46⟩, ⟨66, 66⟩, ⟨86, 168⟩] ∧
      (issues ((p.afterAll (start :: between)).step ⟨.stall 100, true⟩).2.trace).length ≤ 1 := by
  intro p start between
  have hrough : ∀ s ∈ between ++ [⟨.stall 100, true⟩], s.IsRough := by
    intro s hs
    simp only [between, List.mem_append, List.mem_cons, List.not_mem_nil, or_false] at hs
    rcases hs with (rfl | rfl) | rfl
    · exact .stall 46 true
    · exact .wait 22 false
    · exact .stall 100 true
  obtain ⟨-, hunhurried, hstall⟩ := stalls_are_not_caught_up_with 0 [] [] [] _ rfl
    (by decide : 0 < 20) true hrough
  have hticks : ticks (p.events (start :: (between ++ [⟨.stall 100, true⟩])))
      = [⟨0, 0⟩, ⟨20, 46⟩, ⟨66, 66⟩, ⟨86, 168⟩] := by decide +kernel
  have hclock : (p.afterAll (start :: (between ++ [⟨.stall 100, true⟩]))).clock = 168 := by decide +kernel
  refine ⟨hticks, ?_, hstall (by decide) between 100 [] rfl⟩
  rw [← hticks, ← hclock]
  exact hunhurried

end QueueBoard.Poller
