import QueueBoard.Proofs.Board.History
import QueueBoard.Proofs.Poller.Runs

/-! # Notices

A display that takes the notices of a poller sees the poll states of the history of the applied cycles.
Every applied cycle is followed at once by its notice, no other event is, and the published state is the
last one noticed, also after the display has broken off.
-/
namespace QueueBoard.Poller

/-- The time and the outcome of an applied cycle. -/
def Event.poll? : Event → Option (Instant × Fetch.Outcome)
  | .completed _ _ clock outcome .applied => some (.ofMillis clock, outcome)
  | _ => none

def polls (past : List Event) : List (Instant × Fetch.Outcome) := past.filterMap Event.poll?

/-- The history of the applied cycles. -/
def history (past : List Event) : History := (polls past).map (fun poll => .of poll.1 poll.2)

/-- The poll states the display is told. -/
def told (past : List Event) : List PollState := past.filterMap Event.notice?

@[simp] theorem polls_append (past more : List Event) : polls (past ++ more) = polls past ++ polls more :=
  List.filterMap_append

theorem told_completed_notified (cycle timer clock : Nat) (outcome : Fetch.Outcome) (verdict : Verdict)
    (s : PollState) (brokeOff : Bool) (es : List Event) :
    told (.completed cycle timer clock outcome verdict :: .notified s brokeOff :: es) = s :: told es :=
  rfl

theorem told_cons_of_quiet {e : Event} (h : e.notice? = none) (es : List Event) :
    told (e :: es) = told es := List.filterMap_cons_none h

theorem history_completed_notified (cycle timer clock : Nat) (outcome : Fetch.Outcome) (s : PollState)
    (brokeOff : Bool) (es : List Event) :
    history (.completed cycle timer clock outcome .applied :: .notified s brokeOff :: es)
      = .of (.ofMillis clock) outcome :: history es :=
  rfl

theorem history_cons_of_quiet {e : Event} (h : e.poll? = none) (es : List Event) :
    history (e :: es) = history es := by
  rw [history, polls, List.filterMap_cons_none h]
  rfl

/-- Events that lead from one poll state to another, with a notice of every state on the way. -/
inductive Reports : PollState → List Event → PollState → Prop
  | nil (s : PollState) : Reports s [] s
  | poll {s t : PollState} {es : List Event} {cycle timer clock : Nat} {outcome : Fetch.Outcome}
      {brokeOff : Bool} (h : Reports (Poll.apply s (.of (.ofMillis clock) outcome)) es t) :
      Reports s (.completed cycle timer clock outcome .applied
        :: .notified (Poll.apply s (.of (.ofMillis clock) outcome)) brokeOff :: es) t
  | quiet {s t : PollState} {e : Event} {es : List Event} (hpoll : e.poll? = none)
      (hnotice : e.notice? = none) (h : Reports s es t) : Reports s (e :: es) t

namespace Reports
variable {s t u : PollState} {es fs : List Event}

theorem append (h : Reports s es t) (h' : Reports t fs u) : Reports s (es ++ fs) u := by
  induction h with
  | nil => exact h'
  | poll _ ih => exact .poll (ih h')
  | quiet hpoll hnotice _ ih => exact .quiet hpoll hnotice (ih h')

theorem of_quiet (h : ∀ e ∈ es, e.poll? = none ∧ e.notice? = none) : Reports s es s := by
  induction es with
  | nil => exact .nil s
  | cons e es ih =>
    obtain ⟨hpoll, hnotice⟩ := h e (List.mem_cons_self ..)
    exact .quiet hpoll hnotice (ih fun x hx => h x (List.mem_cons_of_mem _ hx))

/-- The notices are the states on the way through the history. -/
theorem told_eq (h : Reports s es t) : s :: told es = (history es).scanl Poll.apply s := by
  induction h with
  | nil s => rfl
  | poll _ ih => rw [told_completed_notified, ih, history_completed_notified, List.scanl_cons]
  | quiet hpoll hnotice _ ih => rw [told_cons_of_quiet hnotice, ih, history_cons_of_quiet hpoll]

theorem state_eq (h : Reports s es t) : t = (history es).foldl Poll.apply s := by
  induction h with
  | nil => rfl
  | poll _ ih => exact ih
  | quiet hpoll _ _ ih => rw [ih, history_cons_of_quiet hpoll]

/-- The state reached is the last one noticed. -/
theorem eq_getLastD (h : Reports s es t) : t = (told es).getLastD s := by
  induction h with
  | nil s => rfl
  | poll _ ih => rw [told_completed_notified, List.getLastD_cons, ← ih]
  | quiet _ hnotice _ ih => rw [told_cons_of_quiet hnotice, ← ih]

/-- An applied cycle is followed by the notice of the state that includes it. -/
theorem of_applied {before after : List Event} {cycle timer clock : Nat} {outcome : Fetch.Outcome}
    (h : Reports s es t) (he : es = before ++ .completed cycle timer clock outcome .applied :: after) :
    ∃ brokeOff rest,
      after = .notified (Poll.apply ((told before).getLastD s) (.of (.ofMillis clock) outcome))
        brokeOff :: rest := by
  induction h generalizing before with
  | nil => simp at he
  | poll _ ih =>
    cases before with
    | nil =>
      simp only [List.nil_append, List.cons.injEq, Event.completed.injEq] at he
      obtain ⟨⟨rfl, rfl, rfl, rfl, -⟩, rfl⟩ := he
      exact ⟨_, _, rfl⟩
    | cons e before =>
      cases before with
      | nil => simp at he
      | cons e' before =>
        simp only [List.cons_append, List.cons.injEq] at he
        obtain ⟨rfl, rfl, he⟩ := he
        rw [told_completed_notified, List.getLastD_cons]
        exact ih he
  | quiet hpoll hnotice _ ih =>
    cases before with
    | nil =>
      obtain ⟨rfl, -⟩ := List.cons.inj he
      cases hpoll
    | cons e before =>
      simp only [List.cons_append, List.cons.injEq] at he
      obtain ⟨rfl, he⟩ := he
      rw [told_cons_of_quiet hnotice]
      exact ih he

/-- A notice comes right after an applied cycle. -/
theorem of_notified {before after : List Event} {state : PollState} {brokeOff : Bool}
    (h : Reports s es t) (he : es = before ++ .notified state brokeOff :: after) :
    ∃ earlier cycle timer clock outcome,
      before = earlier ++ [.completed cycle timer clock outcome .applied] := by
  induction h generalizing before with
  | nil => simp at he
  | @poll s t es cycle timer clock outcome brokeOff' _ ih =>
    cases before with
    | nil => simp at he
    | cons e before =>
      cases before with
      | nil =>
        simp only [List.cons_append, List.nil_append, List.cons.injEq] at he
        obtain ⟨rfl, -⟩ := he
        exact ⟨[], cycle, timer, clock, outcome, rfl⟩
      | cons e' before =>
        simp only [List.cons_append, List.cons.injEq] at he
        obtain ⟨rfl, rfl, he⟩ := he
        obtain ⟨earlier, c, t, k, o, rfl⟩ := ih he
        exact ⟨_ :: _ :: earlier, c, t, k, o, rfl⟩
  | quiet hpoll hnotice _ ih =>
    cases before with
    | nil =>
      obtain ⟨rfl, -⟩ := List.cons.inj he
      cases hnotice
    | cons e before =>
      simp only [List.cons_append, List.cons.injEq] at he
      obtain ⟨rfl, he⟩ := he
      obtain ⟨earlier, c, t, k, o, rfl⟩ := ih he
      exact ⟨_ :: earlier, c, t, k, o, rfl⟩

end Reports

theorem poll?_of_ne_applied {cycle timer clock : Nat} {outcome : Fetch.Outcome} {verdict : Verdict}
    (h : verdict ≠ .applied) : (Event.completed cycle timer clock outcome verdict).poll? = none := by
  cases verdict with
  | applied => contradiction
  | _ => rfl

theorem reports_of_isControl {s : PollState} {es : List Event} (h : ∀ e ∈ es, e.isControl = true) :
    Reports s es s := by
  refine .of_quiet ?_
  intro e he
  have hc := h e he
  cases e with
  | started | stopped => exact ⟨rfl, rfl⟩
  | _ => cases hc

/-- What has happened since a state was published reports how the present one has come about. -/
def Reported (s : PollState) (past : List Event) (p : Poller) : Prop := Reports s past p.published

theorem published_eq (p : Poller) : p.published = p.shared.value.state := by simp [published]

theorem Move.reports {p q : Poller} {es : List Event} (h : Move p es q) :
    Reports p.published es q.published := by
  cases h with
  | pass | leave | schedule => exact .nil _
  | @issue t due ha =>
    have hsame : (p.issue t.number due).published = p.published := by simp [published_eq]
    rw [hsame]
    exact .quiet rfl rfl (.nil _)
  | @apply cycle timer outcome rest hr hv =>
    have hq (ready : List Task) (trace : List Event) :
        { p.applied cycle outcome with ready := ready, trace := trace }.published
          = p.stateAfter outcome := by
      simp [published_eq, applied]
    rw [hq, stateAfter, ← Poll.apply_of]
    exact .poll (.nil _)
  | discard hr hv => exact .quiet (poll?_of_ne_applied hv) rfl (.nil _)

theorem reported_invariant (s : PollState) : Invariant (Reported s) where
  stop := by
    intro past p h
    have hsame : p.stop.published = p.published := by simp [published_eq]
    unfold Reported
    rw [hsame]
    exact h.append (reports_of_isControl p.isControl_of_mem_stopEvents)
  launch := fun _ _ h _ _ => h.append (.quiet rfl rfl (.nil _))
  drop := fun h _ => h
  release := by
    intro past p q cycle outcome h hr
    obtain ⟨w, -, -, rfl⟩ := release?_eq_some hr
    exact h
  move := fun h hm => h.append hm.reports
  handOver := fun h => h

theorem reports_events {p : Poller} (h : p.trace = []) (steps : List Step) :
    Reports p.published (p.events steps) (p.afterAll steps).published := by
  have hnil : Reported p.published [] p := .nil _
  exact (reported_invariant p.published).afterAll hnil h steps

section Answers
variable {p : Poller} {steps : List Step} {answers more : List Answer} {a : Answer}

theorem events_of_run (h : p.run steps = answers ++ a :: more) :
    (answers ++ [a]).flatMap (·.trace) = p.events (steps.take (answers.length + 1)) := by
  obtain ⟨earlier, s, later, rfl, rfl, rfl, rfl⟩ := run_eq_append_cons h
  rw [length_run, List.append_cons earlier, List.take_left' (by simp)]
  simp [events, run]

/-- Every answer of a poller that is not dropped shows the state published by then. -/
theorem published_of_run (hd : p.dropped = true → p.active = none) (hp : p.trace = [])
    (h : p.run steps = answers ++ a :: more) :
    a.state = if (p.control.afterAll (steps.take (answers.length + 1))).dropped then none
      else some (p.afterAll (steps.take (answers.length + 1))).published := by
  obtain ⟨earlier, s, later, rfl, rfl, rfl, rfl⟩ := run_eq_append_cons h
  rw [length_run, List.append_cons earlier, List.take_left' (by simp),
    ← control_afterAll hd hp (earlier ++ [s]), afterAll_append]
  rfl

/-- The state shown is the one told last. -/
theorem state_of_run (hd : p.dropped = true → p.active = none) (hp : p.trace = [])
    (h : p.run steps = answers ++ a :: more) :
    a.state = if (p.control.afterAll (steps.take (answers.length + 1))).dropped then none
      else some ((told ((answers ++ [a]).flatMap (·.trace))).getLastD p.published) := by
  rw [events_of_run h, ← (reports_events hp _).eq_getLastD]
  exact published_of_run hd hp h

end Answers

/-- Every applied cycle has one notice, right after it, and there are no other notices. -/
structure Announced (past : List Event) : Prop where
  of_applied : ∀ before cycle timer clock outcome after,
    past = before ++ .completed cycle timer clock outcome .applied :: after →
      ∃ brokeOff rest, after =
        .notified (Poll.apply ((told before).getLastD .loading) (.of (.ofMillis clock) outcome))
          brokeOff :: rest
  of_notified : ∀ before state brokeOff after, past = before ++ .notified state brokeOff :: after →
    ∃ earlier cycle timer clock outcome,
      before = earlier ++ [.completed cycle timer clock outcome .applied]

/-- In every run the display is told the poll states after the successes and failures of the applied
cycles, one after each, and after every step the poller shows the one told last. -/
theorem notices_refine_states (clock : Nat) (script : List Scripted) (breaks : List Nat)
    (steps : List Step) :
    let p := new clock script breaks
    .loading :: told (p.events steps) = (history (p.events steps)).scanl Poll.apply .loading ∧
      Announced (p.events steps) ∧
      ∀ answers a more, p.run steps = answers ++ a :: more →
        a.state =
          if (Control.after (steps.take (answers.length + 1))).dropped then none
          else some ((told ((answers ++ [a]).flatMap (·.trace))).getLastD .loading) := by
  intro p
  have hreports : Reports .loading (p.events steps) (p.afterAll steps).published :=
    reports_events (p := p) rfl steps
  refine ⟨hreports.told_eq, ⟨fun _ _ _ _ _ _ he => hreports.of_applied he,
    fun _ _ _ _ he => hreports.of_notified he⟩, ?_⟩
  intro answers a more hrun
  exact state_of_run (fun hd => by cases hd) rfl hrun

/-- The state is shown although the display has broken off while it was told. -/
theorem state_shown_after_broken_off_notice :
    let p := new 0 [.now (.ok [])] [1]
    let state := PollState.loading.succeeded [] (.ofMillis 0)
    ∃ a, p.run [⟨.start 20, true⟩] = [a] ∧
      a.trace = [.started 1 20, .issued 1 1 0 0, .completed 1 1 0 (.ok []) .applied,
        .notified state true] ∧
      a.state = some state := by
  intro p state
  have htrace : (p.step ⟨.start 20, true⟩).2.trace = [.started 1 20, .issued 1 1 0 0,
      .completed 1 1 0 (.ok []) .applied, .notified state true] := by decide +kernel
  have hstate := (notices_refine_states 0 [.now (.ok [])] [1] [⟨.start 20, true⟩]).2.2 []
    (p.step ⟨.start 20, true⟩).2 [] rfl
  rw [List.nil_append, List.flatMap_singleton, htrace] at hstate
  exact ⟨_, rfl, htrace, hstate⟩

end QueueBoard.Poller
