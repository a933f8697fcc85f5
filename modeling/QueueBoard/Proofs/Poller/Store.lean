import QueueBoard.Proofs.Poller.Ledger

/-! # Outcomes in store

A poller has an outcome in store for a cycle if the completion of the cycle is ready, or if the script
answers the cycle at once and it is still to be issued. What is in store stays there until the cycle is
completed with it, and nothing is added to it but what a release brings for a cycle that waits. So the
outcomes of a run are told by its script and its releases, whatever the timers do.
-/
namespace QueueBoard.Poller

def Event.outcome? : Event → Option (Nat × Fetch.Outcome)
  | .completed cycle _ _ outcome _ => some (cycle, outcome)
  | _ => none

/-- The cycles completed, applied or not, with their outcomes. -/
def outcomes (past : List Event) : List (Nat × Fetch.Outcome) := past.filterMap Event.outcome?

inductive Holds (p : Poller) (cycle : Nat) (outcome : Fetch.Outcome) : Prop
  | ready (timer : Nat) (h : .completion cycle timer outcome ∈ p.ready)
  | scripted (i : Nat) (hcycle : cycle = p.cycles + 1 + i) (h : p.script[i]? = some (.now outcome))

/-- Whether a cycle waits for its answer. -/
def Waits (p : Poller) (cycle : Nat) : Prop := ∃ w ∈ p.waiting, w.cycle = cycle

/-- Whether one of the steps gives a waiting cycle an outcome. -/
def Brought (p : Poller) (steps : List Step) (cycle : Nat) (outcome : Fetch.Outcome) : Prop :=
  ∃ earlier settles later, steps = earlier ++ ⟨.release cycle outcome, settles⟩ :: later ∧
    (p.afterAll earlier).Waits cycle

section Outcomes
variable {past : List Event} {cycle : Nat} {outcome : Fetch.Outcome}

@[simp] theorem outcomes_append (past more : List Event) :
    outcomes (past ++ more) = outcomes past ++ outcomes more := List.filterMap_append

theorem outcomes_of_isControl {es : List Event} (h : ∀ e ∈ es, e.isControl = true) :
    outcomes es = [] := by
  refine filterMap_of_isControl ?_ h
  intro e hc
  cases e with
  | completed => cases hc
  | _ => rfl

theorem mem_outcomes : (cycle, outcome) ∈ outcomes past ↔
    ∃ timer clock verdict, .completed cycle timer clock outcome verdict ∈ past := by
  constructor
  · intro h
    obtain ⟨e, he, hw⟩ := List.mem_filterMap.mp h
    cases e with
    | completed cycle timer clock outcome verdict =>
      cases hw
      exact ⟨timer, clock, verdict, he⟩
    | _ => cases hw
  · rintro ⟨timer, clock, verdict, h⟩
    exact List.mem_filterMap.mpr ⟨_, h, rfl⟩

theorem exists_completion (h : (cycle, outcome) ∈ outcomes past) :
    ∃ timer, ⟨cycle, timer⟩ ∈ completions past := by
  obtain ⟨timer, clock, verdict, he⟩ := mem_outcomes.mp h
  exact ⟨timer, mem_completions.mpr ⟨clock, outcome, verdict, he⟩⟩

theorem map_fst_outcomes (past : List Event) :
    (outcomes past).map Prod.fst = (completions past).map Waiting.cycle := by
  rw [outcomes, completions, List.map_filterMap, List.map_filterMap]
  refine List.filterMap_congr ?_
  intro e _
  cases e <;> rfl

/-- A cycle is completed with one outcome. -/
theorem Accounted.outcome_eq {p : Poller} (h : Accounted past p) {outcome' : Fetch.Outcome}
    (ho : (cycle, outcome) ∈ outcomes past) (ho' : (cycle, outcome') ∈ outcomes past) :
    outcome = outcome' := by
  have hnodup : ((outcomes past).map Prod.fst).Nodup := map_fst_outcomes past ▸ h.nodup_completions
  have hpair := List.inj_on_of_nodup_map hnodup ho ho' rfl
  exact congrArg Prod.snd hpair

end Outcomes

theorem issue_ready (p : Poller) (timer due : Nat) :
    (p.issue timer due).ready = p.ready ++ match p.script.head? with
      | some (.now outcome) => [.completion (p.cycles + 1) timer outcome]
      | _ => [] := by
  unfold issue
  split
  · rename_i h
    rw [h]
    rfl
  · rename_i h
    rw [h]
    exact (List.append_nil _).symm
  · rename_i h
    rw [h]
    exact (List.append_nil _).symm

section Store
variable {p q : Poller} {cycle : Nat} {outcome : Fetch.Outcome}

theorem Holds.mono (h : p.Holds cycle outcome) (hscript : q.script = p.script)
    (hcycles : q.cycles = p.cycles) (hready : ∀ timer,
      .completion cycle timer outcome ∈ p.ready → .completion cycle timer outcome ∈ q.ready) :
    q.Holds cycle outcome := by
  cases h with
  | ready timer h => exact .ready timer (hready timer h)
  | scripted i hcycle h => exact .scripted i (hcycles ▸ hcycle) (hscript ▸ h)

/-- The store depends on the script, the place in it and the completions that are ready. -/
theorem holds_congr (hscript : q.script = p.script) (hcycles : q.cycles = p.cycles)
    (hready : ∀ timer, .completion cycle timer outcome ∈ q.ready ↔
      .completion cycle timer outcome ∈ p.ready) :
    q.Holds cycle outcome ↔ p.Holds cycle outcome := by
  constructor
  · intro h
    exact h.mono hscript.symm hcycles.symm fun timer => (hready timer).mp
  · intro h
    exact h.mono hscript hcycles fun timer => (hready timer).mpr

/-- One more completion that is ready is one more outcome in store. -/
theorem holds_insert {first timer : Nat} {answer : Fetch.Outcome} (hscript : q.script = p.script)
    (hcycles : q.cycles = p.cycles)
    (hready : ∀ task, task ∈ q.ready ↔ task = .completion first timer answer ∨ task ∈ p.ready) :
    q.Holds cycle outcome ↔ p.Holds cycle outcome ∨ (cycle, outcome) = (first, answer) := by
  by_cases hnew : (cycle, outcome) = (first, answer)
  · obtain ⟨rfl, rfl⟩ := Prod.mk.inj hnew
    exact ⟨fun _ => .inr rfl, fun _ => .ready timer ((hready _).mpr (.inl rfl))⟩
  · rw [or_iff_left hnew]
    refine holds_congr hscript hcycles ?_
    intro timer'
    rw [hready, or_iff_right]
    intro he
    obtain ⟨rfl, -, rfl⟩ := Task.completion.inj he
    exact hnew rfl

/-- An issue moves what the script says from there to the tasks that are ready. -/
theorem holds_issue (timer due : Nat) :
    (p.issue timer due).Holds cycle outcome ↔ p.Holds cycle outcome := by
  constructor
  · intro h
    cases h with
    | ready timer' h =>
      rw [issue_ready] at h
      rcases List.mem_append.mp h with hold | hnew
      · exact .ready timer' hold
      · split at hnew
        · rename_i outcome' hhead
          obtain ⟨rfl, -, rfl⟩ := Task.completion.inj (List.mem_singleton.mp hnew)
          exact .scripted 0 rfl (List.head?_eq_getElem? ▸ hhead)
        · cases hnew
    | scripted i hcycle h =>
      rw [issue_cycles] at hcycle
      rw [issue_script, List.getElem?_tail] at h
      exact .scripted (i + 1) (by omega) h
  · intro h
    cases h with
    | ready timer' h =>
      refine .ready timer' ?_
      rw [issue_ready]
      exact List.mem_append_left _ h
    | scripted i hcycle h =>
      cases i with
      | zero =>
        refine .ready timer ?_
        rw [issue_ready, List.head?_eq_getElem?, h, hcycle]
        exact List.mem_append_right _ (List.mem_singleton.mpr rfl)
      | succ i =>
        refine .scripted i ?_ ?_
        · rw [issue_cycles, hcycle]
          omega
        · rw [issue_script, List.getElem?_tail]
          exact h

/-- What is in store stays there until a cycle is completed with it. -/
theorem Move.holds_iff {es : List Event} (h : Move p es q) :
    p.Holds cycle outcome ↔ q.Holds cycle outcome ∨ (cycle, outcome) ∈ outcomes es := by
  have hquiet (hscript : q.script = p.script) (hcycles : q.cycles = p.cycles)
      (hready : ∀ timer, .completion cycle timer outcome ∈ q.ready ↔
        .completion cycle timer outcome ∈ p.ready) :
      p.Holds cycle outcome ↔ q.Holds cycle outcome ∨ (cycle, outcome) ∈ outcomes [] := by
    rw [holds_congr hscript hcycles hready]
    exact (or_iff_left List.not_mem_nil).symm
  have hjudged {first timer : Nat} {answer : Fetch.Outcome} {rest : List Task}
      (hr : p.ready = .completion first timer answer :: rest) (hscript : p.script = q.script)
      (hcycles : p.cycles = q.cycles) (hready : q.ready = rest) :
      p.Holds cycle outcome ↔ q.Holds cycle outcome ∨ (cycle, outcome) ∈ [(first, answer)] := by
    rw [List.mem_singleton]
    have hinsert (task : Task) :
        task ∈ p.ready ↔ task = .completion first timer answer ∨ task ∈ q.ready := by
      rw [hr, hready, List.mem_cons]
    exact holds_insert hscript hcycles hinsert
  cases h with
  | pass | schedule => exact hquiet rfl rfl fun _ => Iff.rfl
  | leave hr => exact hquiet rfl rfl fun _ => by simp [hr]
  | issue due ha =>
    rw [holds_issue]
    exact (or_iff_left List.not_mem_nil).symm
  | apply hr hv => exact hjudged hr rfl rfl rfl
  | discard hr hv => exact hjudged hr rfl rfl rfl

theorem Moves.holds_iff {es : List Event} (h : Moves p es q) :
    p.Holds cycle outcome ↔ q.Holds cycle outcome ∨ (cycle, outcome) ∈ outcomes es := by
  induction h with
  | refl => simp [outcomes]
  | head hm _ ih =>
    rw [hm.holds_iff, ih, outcomes_append, List.mem_append, or_assoc, or_comm (a := _ ∈ _)]

theorem release?_eq_none_iff : p.release? cycle outcome = none ↔ ¬ p.Waits cycle := by
  simp [release?, Waits]

theorem holds_release {first : Nat} {answer : Fetch.Outcome} (h : p.release? first answer = some q) :
    q.Holds cycle outcome ↔ p.Holds cycle outcome ∨ (cycle, outcome) = (first, answer) := by
  obtain ⟨w, hw, rfl, rfl⟩ := release?_eq_some h
  have hinsert (task : Task) : task ∈ p.ready ++ [.completion w.cycle w.timer answer] ↔
      task = .completion w.cycle w.timer answer ∨ task ∈ p.ready := by
    rw [List.mem_append, List.mem_singleton, or_comm]
  exact holds_insert rfl rfl hinsert

/-- Of all controls only the release of a cycle that waits adds to the store. -/
theorem holds_controlled (p : Poller) (action : Action) :
    (p.controlled action).Holds cycle outcome ↔
      p.Holds cycle outcome ∨ action = .release cycle outcome ∧ p.Waits cycle := by
  have hkeeps (hno : ¬ (action = .release cycle outcome ∧ p.Waits cycle)) :
      p.Holds cycle outcome ↔
        p.Holds cycle outcome ∨ action = .release cycle outcome ∧ p.Waits cycle :=
    (or_iff_left hno).symm
  have hstop : p.stop.Holds cycle outcome ↔ p.Holds cycle outcome :=
    holds_congr p.stop_script p.stop_cycles fun _ => by rw [stop_ready]
  cases action with
  | start interval =>
    refine Iff.trans ?_ (hkeeps (by simp))
    by_cases hr : p.dropped = true ∨ interval = 0
    · rw [controlled_start_of_refused p hr]
    · obtain ⟨hpos, he⟩ := controlled_start p hr
      have hlaunch : (p.stop.launch interval hpos).Holds cycle outcome
          ↔ p.stop.Holds cycle outcome := holds_congr rfl rfl fun _ => by simp [launch]
      rw [he, start_eq_launch, hlaunch, hstop]
  | stop =>
    refine Iff.trans ?_ (hkeeps (by simp))
    simp only [controlled, act]
    split
    · exact Iff.rfl
    · exact hstop
  | drop =>
    have hdrop : p.drop.Holds cycle outcome ↔ p.stop.Holds cycle outcome :=
      holds_congr rfl rfl fun _ => Iff.rfl
    exact (hdrop.trans hstop).trans (hkeeps (by simp))
  | wait ms => exact hkeeps (by simp)
  | stall ms => exact hkeeps (by simp)
  | release first answer =>
    rw [controlled_release]
    cases hr : p.release? first answer with
    | none =>
      refine hkeeps ?_
      rintro ⟨he, hw⟩
      obtain ⟨rfl, -⟩ := Action.release.inj he
      exact release?_eq_none_iff.mp hr hw
    | some q =>
      obtain ⟨w, hw, hcycle, -⟩ := release?_eq_some hr
      rw [Option.getD_some, holds_release hr]
      refine or_congr_right ?_
      constructor
      · intro he
        obtain ⟨rfl, rfl⟩ := Prod.mk.inj he
        exact ⟨rfl, w, hw, hcycle⟩
      · rintro ⟨he, -⟩
        obtain ⟨rfl, rfl⟩ := Action.release.inj he
        rfl

theorem step_holds_iff (hp : p.trace = []) (s : Step) :
    (p.step s).1.Holds cycle outcome ∨ (cycle, outcome) ∈ outcomes (p.step s).2.trace ↔
      p.Holds cycle outcome ∨ s.action = .release cycle outcome ∧ p.Waits cycle := by
  obtain ⟨es, q, hm, hq, -, ht⟩ := p.step_moves s hp
  have hcontrol : outcomes (p.controlEvents s.action) = [] :=
    outcomes_of_isControl fun _ => isControl_of_mem_controlEvents
  have hsame : { q with trace := [] }.Holds cycle outcome ↔ q.Holds cycle outcome :=
    holds_congr rfl rfl fun _ => Iff.rfl
  rw [hq, ht, outcomes_append, hcontrol, List.nil_append, hsame, ← hm.holds_iff, holds_controlled]

section Waiting
variable (h : p.Waits cycle)
include h

/-- A poller gives no cycle an answer on its own. -/
theorem Waits.move {es : List Event} (hm : Move p es q) : q.Waits cycle := by
  obtain ⟨w, hw, hcycle⟩ := h
  cases hm with
  | @issue t due ha =>
    refine ⟨w, ?_, hcycle⟩
    unfold issue
    split
    · exact hw
    · exact List.mem_cons_of_mem _ hw
    · exact List.mem_cons_of_mem _ hw
  | _ => exact ⟨w, hw, hcycle⟩

theorem Waits.moves {es : List Event} (hm : Moves p es q) : q.Waits cycle := by
  induction hm with
  | refl => exact h
  | head hm _ ih => exact ih (h.move hm)

theorem Waits.controlled {action : Action} (ha : ∀ outcome, action ≠ .release cycle outcome) :
    (p.controlled action).Waits cycle := by
  have hstop : p.stop.Waits cycle := by
    unfold stop
    split <;> exact h
  cases action with
  | start interval =>
    by_cases hr : p.dropped = true ∨ interval = 0
    · rw [controlled_start_of_refused p hr]
      exact h
    · obtain ⟨hpos, he⟩ := controlled_start p hr
      rw [he]
      exact hstop
  | stop =>
    simp only [Poller.controlled, act]
    split
    · exact h
    · exact hstop
  | drop => exact hstop
  | wait ms => exact h
  | stall ms => exact h
  | release first answer =>
    rw [controlled_release]
    cases hr : p.release? first answer with
    | none => exact h
    | some q =>
      obtain ⟨w, hw, hcycle⟩ := h
      obtain ⟨v, -, -, rfl⟩ := release?_eq_some hr
      have hne : w.cycle ≠ first := by
        rintro rfl
        exact ha answer (hcycle ▸ rfl)
      exact ⟨w, List.mem_filter.mpr ⟨hw, by simpa using hne⟩, hcycle⟩

/-- A cycle waits until a step releases it. -/
theorem Waits.afterAll (hp : p.trace = []) {steps : List Step}
    (hs : ∀ s ∈ steps, ∀ outcome, s.action ≠ .release cycle outcome) :
    (p.afterAll steps).Waits cycle := by
  induction steps generalizing p with
  | nil => exact h
  | cons s steps ih =>
    obtain ⟨hfirst, hrest⟩ := List.forall_mem_cons.mp hs
    obtain ⟨es, q, hm, hq, -, -⟩ := p.step_moves s hp
    have hworked : q.Waits cycle := (h.controlled hfirst).moves hm
    have hstep : (p.step s).1.Waits cycle := hq ▸ hworked
    exact ih hstep rfl hrest

end Waiting

theorem brought_cons_iff {s : Step} {steps : List Step} :
    p.Brought (s :: steps) cycle outcome ↔
      (s.action = .release cycle outcome ∧ p.Waits cycle) ∨
        (p.step s).1.Brought steps cycle outcome := by
  constructor
  · rintro ⟨earlier, settles, later, he, hw⟩
    cases earlier with
    | nil =>
      obtain ⟨rfl, rfl⟩ := List.cons.inj he
      exact .inl ⟨rfl, hw⟩
    | cons first earlier =>
      obtain ⟨rfl, rfl⟩ := List.cons.inj he
      exact .inr ⟨earlier, settles, later, rfl, hw⟩
  · rintro (⟨he, hw⟩ | ⟨earlier, settles, later, rfl, hw⟩)
    · obtain ⟨action, settles⟩ := s
      obtain rfl : action = .release cycle outcome := he
      exact ⟨[], settles, steps, rfl, hw⟩
    · exact ⟨s :: earlier, settles, later, rfl, hw⟩

/-- After a run a cycle is completed with an outcome or has it in store just when it had it in store
before or a step brought it. -/
theorem holds_afterAll_iff (hp : p.trace = []) (steps : List Step) :
    (p.afterAll steps).Holds cycle outcome ∨ (cycle, outcome) ∈ outcomes (p.events steps) ↔
      p.Holds cycle outcome ∨ p.Brought steps cycle outcome := by
  induction steps generalizing p with
  | nil =>
    have hnone : ¬ p.Brought [] cycle outcome := by
      rintro ⟨earlier, settles, later, he, -⟩
      simp at he
    rw [afterAll_nil, events_nil, or_iff_left hnone]
    exact or_iff_left List.not_mem_nil
  | cons s steps ih =>
    rw [afterAll_cons, events_cons, outcomes_append, List.mem_append, or_left_comm, ih rfl,
      brought_cons_iff, ← or_assoc, ← or_assoc, or_comm (b := Holds ..), step_holds_iff hp]

/-- A poller without tasks has nothing in store for the cycles it has issued. -/
theorem not_holds_of_ready (hr : p.ready = []) (hle : cycle ≤ p.cycles) :
    ¬ p.Holds cycle outcome := by
  intro h
  cases h with
  | ready timer h => simp [hr] at h
  | scripted i hcycle h => omega

/-- Once nothing is ready, what was in store for the cycles issued has come out. -/
theorem mem_outcomes_of_ready (hp : p.trace = []) {steps : List Step}
    (hr : (p.afterAll steps).ready = []) (hle : cycle ≤ (p.afterAll steps).cycles) :
    (cycle, outcome) ∈ outcomes (p.events steps) ↔
      p.Holds cycle outcome ∨ p.Brought steps cycle outcome := by
  rw [← holds_afterAll_iff hp steps]
  exact (or_iff_right (not_holds_of_ready hr hle)).symm

end Store

end QueueBoard.Poller
