import QueueBoard.Proofs.Poller.Live

/-! # Late releases

An answer for a cycle of a timer that has ended comes too late. Runs that differ in such answers only,
or in whether there are any, are the same in all but what is discarded.
-/
namespace QueueBoard.Poller

/-- Whether an action answers a cycle whose timer has ended. -/
def LateRelease (past : List Event) (control : Control) : Action → Prop
  | .release cycle _ => ∃ timer, ⟨cycle, timer⟩ ∈ issues past ∧ control.active ≠ some timer
  | _ => False

/-- Answers that tell the same but for what was discarded after the end of its timer. After a late
release they may also differ in whether there was anything to release. -/
structure Answer.Agrees (late : Prop) (a b : Answer) : Prop where
  running : a.running = b.running
  state : a.state = b.state
  fetches : a.fetches = b.fetches
  quiet : quiet a.trace = quiet b.trace
  startError : a.startError = b.startError
  released : ¬ late → a.released = b.released

theorem issues_quiet (past : List Event) : issues (quiet past) = issues past := by
  unfold issues quiet
  rw [List.filterMap_filter]
  refine List.filterMap_congr ?_
  intro e _
  cases e with
  | completed => simp [Event.issue?]
  | _ => rfl

section Act
variable {past past' : List Event} {p p' : Poller}

theorem start_live (h : Accounted past p) (interval : Nat) (hpos : 0 < interval) :
    (p.start interval hpos).live = p.live.stop.live.launch interval hpos := by
  have hp : ∀ w ∈ p.stop.pending, w.timer ≤ p.stop.timers := by
    intro w hw
    rw [stop_pending] at hw
    rw [stop_timers]
    exact h.timer_le w (h.issued_of_pending hw)
  rw [start_eq_launch, launch_live p.stop_active hp, stop_live]

theorem isActive_of_not_late (h : Accounted past p) {cycle : Nat} {outcome : Fetch.Outcome}
    (hlate : ¬ LateRelease past p.control (.release cycle outcome)) :
    ∀ w ∈ p.waiting, w.cycle = cycle → p.isActive w.timer = true := by
  intro w hw hc
  rw [isActive_iff_control]
  by_contra hne
  have hissued := h.issued_of_pending (List.mem_append_left _ hw)
  exact hlate ⟨w.timer, hc ▸ hissued, hne⟩

/-- A late release leaves everything as it is. -/
theorem act_late (h : Accounted past p) {action : Action} (hlate : LateRelease past p.control action) :
    (p.act action).live = p.live := by
  cases action with
  | release cycle outcome =>
    obtain ⟨timer, hissued, hne⟩ := hlate
    refine release_live_of_not_active outcome ?_
    intro w hw hc
    have hw' := h.issued_of_pending (List.mem_append_left _ hw)
    obtain rfl := h.eq_of_cycle_eq hw' hissued hc
    rw [isActive_eq_decide]
    exact decide_eq_false hne
  | _ => exact hlate.elim

variable (h : Accounted past p) (h' : Accounted past' p') (hlive : p.live = p'.live)
variable (hissues : issues past = issues past')
include h h' hlive hissues

theorem release_live_congr {cycle : Nat} {outcome : Fetch.Outcome}
    (hlate : ¬ LateRelease past p.control (.release cycle outcome)) :
    (p.release? cycle outcome).map live = (p'.release? cycle outcome).map live := by
  have hcontrol : p.control = p'.control := by rw [← live_control, hlive, live_control]
  have hlate' : ¬ LateRelease past' p'.control (.release cycle outcome) := by
    rw [LateRelease, ← hissues, ← hcontrol]
    exact hlate
  rw [release_live outcome (isActive_of_not_late h hlate),
    release_live outcome (isActive_of_not_late h' hlate'), hlive]

theorem act_live_congr {action : Action} (hlate : ¬ LateRelease past p.control action) :
    (p.act action).live = (p'.act action).live := by
  have hdropped : p.dropped = p'.dropped := by rw [← live_dropped, hlive, live_dropped]
  have hclock : p.clock = p'.clock := by rw [← live_clock, hlive, live_clock]
  have hstop : p.stop.live = p'.stop.live := by rw [stop_live p, stop_live p', hlive]
  cases action with
  | start interval =>
    simp only [act, ← hdropped]
    split
    · exact hlive
    · split
      · rw [start_live h, start_live h', hlive]
      · exact hlive
  | stop =>
    simp only [act, ← hdropped]
    split
    · exact hlive
    · exact hstop
  | drop => exact congrArg (fun q : Poller => { q with dropped := true }) hstop
  | wait ms => rw [act, act, advance_live, advance_live, hlive, hclock]
  | stall ms => exact congrArg (fun q : Poller => { q with clock := q.clock + ms }) hlive
  | release cycle outcome =>
    have hmap := release_live_congr h h' hlive hissues hlate
    simp only [act]
    rw [← Option.getD_map live p, ← Option.getD_map live p', hmap, hlive]

theorem released?_congr {action : Action} (hlate : ¬ LateRelease past p.control action) :
    p.released? action = p'.released? action := by
  cases action with
  | release cycle outcome =>
    have hmap := congrArg Option.isSome (release_live_congr h h' hlive hissues hlate)
    rw [Option.isSome_map, Option.isSome_map] at hmap
    simp only [released?, hmap]
  | _ => rfl

end Act

section Step
variable {p p' : Poller} {s s' : Step} (hs : s.settles = s'.settles)
variable (h : (p.act s.action).live = (p'.act s'.action).live)
include hs h

theorem worked_live_congr : (p.worked s).live = (p'.worked s').live := by
  unfold worked
  rw [hs]
  split
  · rw [settle_live, settle_live, h]
  · exact h

theorem step_live_congr : (p.step s).1.live = (p'.step s').1.live :=
  congrArg (fun q : Poller => { q with trace := [] }) (worked_live_congr hs h)

theorem step_agrees {late : Prop} (he : p.startError? s.action = p'.startError? s'.action)
    (hr : ¬ late → p.released? s.action = p'.released? s'.action) :
    Answer.Agrees late (p.step s).2 (p'.step s').2 := by
  have hw := worked_live_congr hs h
  have hdropped : (p.worked s).dropped = (p'.worked s').dropped := by
    rw [← live_dropped, hw, live_dropped]
  have hrunning : (p.worked s).isRunning = (p'.worked s').isRunning := by
    rw [← live_isRunning, hw, live_isRunning]
  have hpublished : (p.worked s).published = (p'.worked s').published := by
    rw [← live_published, hw, live_published]
  have hquiet : quiet (p.worked s).trace = quiet (p'.worked s').trace := by
    rw [← live_trace, hw, live_trace]
  rw [step_snd, step_snd]
  refine ⟨?_, ?_, ?_, ?_, he, hr⟩
  · simp only [answer, hdropped, hrunning]
  · simp only [answer, hdropped, hpublished]
  · simp only [answer]
    rw [← live_cycles, hw, live_cycles]
  · simp only [answer, quiet_reverse, hquiet]

end Step

/-- Whether a step of a run is a late release. -/
def LateStep (p : Poller) (steps : List Step) (i : Nat) : Prop :=
  ∃ s, steps[i]? = some s ∧
    LateRelease (p.events (steps.take i)) (Control.after (steps.take i)) s.action

/-- Steps in which late releases of a run have other outcomes or are taken out. -/
inductive Altered (p : Poller) : List Step → List Step → Prop
  | nil : Altered p [] []
  | same {earlier earlier' : List Step} (h : Altered p earlier earlier') (s : Step) :
      Altered p (earlier ++ [s]) (earlier' ++ [s])
  | otherOutcome {earlier earlier' : List Step} {cycle : Nat} {outcome : Fetch.Outcome}
      (h : Altered p earlier earlier')
      (hl : LateRelease (p.events earlier) (Control.after earlier) (.release cycle outcome))
      (outcome' : Fetch.Outcome) (settles : Bool) :
      Altered p (earlier ++ [⟨.release cycle outcome, settles⟩])
        (earlier' ++ [⟨.release cycle outcome', settles⟩])
  | takenOut {earlier earlier' : List Step} {cycle : Nat} {outcome : Fetch.Outcome}
      (h : Altered p earlier earlier')
      (hl : LateRelease (p.events earlier) (Control.after earlier) (.release cycle outcome))
      (settles : Bool) :
      Altered p (earlier ++ [⟨.release cycle outcome, settles⟩]) (earlier' ++ [⟨.wait 0, settles⟩])

/-- Runs with the same answers but for what is discarded, that end in the same but for that. -/
structure Corresponds (p : Poller) (steps steps' : List Step) : Prop where
  length_eq : (p.run steps).length = (p.run steps').length
  agrees : ∀ i a b, (p.run steps)[i]? = some a → (p.run steps')[i]? = some b →
    Answer.Agrees (LateStep p steps i) a b
  live : (p.afterAll steps).live = (p.afterAll steps').live
  quiet : quiet (p.events steps) = quiet (p.events steps')

theorem lateStep_append {p : Poller} {steps more : List Step} {i : Nat} (h : i < steps.length) :
    LateStep p (steps ++ more) i ↔ LateStep p steps i := by
  unfold LateStep
  rw [List.getElem?_append_left h, List.take_append_of_le_length (Nat.le_of_lt h)]

theorem lateStep_length {p : Poller} {steps : List Step} {s : Step} :
    LateStep p (steps ++ [s]) steps.length ↔
      LateRelease (p.events steps) (Control.after steps) s.action := by
  simp [LateStep]

theorem Corresponds.snoc {p : Poller} {steps steps' : List Step} {s s' : Step}
    (h : Corresponds p steps steps')
    (hlive : ((p.afterAll steps).step s).1.live = ((p.afterAll steps').step s').1.live)
    (hagrees : Answer.Agrees (LateRelease (p.events steps) (Control.after steps) s.action)
      ((p.afterAll steps).step s).2 ((p.afterAll steps').step s').2) :
    Corresponds p (steps ++ [s]) (steps' ++ [s']) := by
  have hlength : steps.length = steps'.length := by simpa using h.length_eq
  refine ⟨by simp [hlength], ?_, by simpa using hlive, ?_⟩
  · intro i a b ha hb
    rw [run_append] at ha hb
    rcases Nat.lt_or_ge i steps.length with hi | hi
    · rw [List.getElem?_append_left (by simpa using hi)] at ha
      rw [List.getElem?_append_left (by simpa [← hlength] using hi)] at hb
      rw [lateStep_append hi]
      exact h.agrees i a b ha hb
    · have hlt : i < steps.length + 1 := by
        simpa using (List.getElem?_eq_some_iff.mp ha).1
      obtain rfl : i = steps.length := Nat.le_antisymm (Nat.le_of_lt_succ hlt) hi
      obtain rfl : ((p.afterAll steps).step s).2 = a := by simpa [run] using ha
      obtain rfl : ((p.afterAll steps').step s').2 = b := by simpa [run, hlength] using hb
      exact ⟨hagrees.running, hagrees.state, hagrees.fetches, hagrees.quiet, hagrees.startError,
        fun hn => hagrees.released (fun hl => hn (lateStep_length.mpr hl))⟩
  · simp [h.quiet, hagrees.quiet]

theorem startError?_congr {p p' : Poller} (h : p.live = p'.live) (action : Action) :
    p.startError? action = p'.startError? action := by
  have hdropped : p.dropped = p'.dropped := by rw [← live_dropped, h, live_dropped]
  cases action with
  | start interval => simp only [startError?, hdropped]
  | _ => rfl

theorem act_wait_zero (p : Poller) : p.act (.wait 0) = p := by
  rw [act, Nat.add_zero, advance.eq_def, if_neg (Nat.lt_irrefl _)]

section New
variable {clock : Nat} {script : List Scripted} {breaks : List Nat} {steps steps' : List Step}

theorem Corresponds.issues_eq {p : Poller} (h : Corresponds p steps steps') :
    issues (p.events steps) = issues (p.events steps') := by
  rw [← issues_quiet, h.quiet, issues_quiet]

/-- A late release is late in both runs. -/
theorem Corresponds.lateRelease {action : Action}
    (h : Corresponds (new clock script breaks) steps steps')
    (hl : LateRelease ((new clock script breaks).events steps) (Control.after steps) action) :
    LateRelease ((new clock script breaks).events steps')
      ((new clock script breaks).afterAll steps').control action := by
  cases action with
  | release cycle outcome =>
    obtain ⟨timer, hissued, hne⟩ := hl
    refine ⟨timer, h.issues_eq ▸ hissued, ?_⟩
    rw [← live_control, ← h.live, live_control, control_after]
    exact hne
  | _ => exact hl

theorem Corresponds.late {s s' : Step} (h : Corresponds (new clock script breaks) steps steps')
    (hl : LateRelease ((new clock script breaks).events steps) (Control.after steps) s.action)
    (hs : s.settles = s'.settles)
    (hact : (((new clock script breaks).afterAll steps').act s'.action).live
      = ((new clock script breaks).afterAll steps').live)
    (he : ((new clock script breaks).afterAll steps).startError? s.action
      = ((new clock script breaks).afterAll steps').startError? s'.action) :
    Corresponds (new clock script breaks) (steps ++ [s]) (steps' ++ [s']) := by
  have hl' := hl
  rw [← control_after clock script breaks] at hl'
  have hboth : (((new clock script breaks).afterAll steps).act s.action).live
      = (((new clock script breaks).afterAll steps').act s'.action).live := by
    rw [act_late (accounted_afterAll clock script breaks steps) hl', hact, h.live]
  exact h.snoc (step_live_congr hs hboth) (step_agrees hs hboth he (fun hn => absurd hl hn))

theorem Altered.corresponds (h : Altered (new clock script breaks) steps steps') :
    Corresponds (new clock script breaks) steps steps' := by
  induction h with
  | nil => exact ⟨rfl, by simp [run], rfl, rfl⟩
  | @same earlier earlier' h s ih =>
    have ha := accounted_afterAll clock script breaks earlier
    have ha' := accounted_afterAll clock script breaks earlier'
    have he := startError?_congr ih.live s.action
    by_cases hl : LateRelease ((new clock script breaks).events earlier) (Control.after earlier) s.action
    · exact ih.late hl rfl (act_late ha' (ih.lateRelease hl)) he
    · have hl' := hl
      rw [← control_after clock script breaks] at hl'
      have hact := act_live_congr ha ha' ih.live ih.issues_eq hl'
      exact ih.snoc (step_live_congr rfl hact)
        (step_agrees rfl hact he (fun _ => released?_congr ha ha' ih.live ih.issues_eq hl'))
  | @otherOutcome earlier earlier' cycle outcome h hl outcome' settles ih =>
    have ha' := accounted_afterAll clock script breaks earlier'
    exact ih.late hl rfl (act_late ha' (ih.lateRelease hl)) rfl
  | @takenOut earlier earlier' cycle outcome h hl settles ih =>
    exact ih.late hl rfl (congrArg _ (act_wait_zero _)) rfl

end New
end QueueBoard.Poller
