import QueueBoard.Poller.Run

/-! # Moves of a poller

A step of a run is a control followed by work. Work is a sequence of moves, each of which is the least
that leaves a poller behind: time passes, a cycle is issued, a completion is applied or discarded.
Every operation that takes part in a step is such a sequence with the events it leaves in the trace,
so a property that the controls and the moves keep holds after every run.
-/
namespace QueueBoard.Poller

section Fields
variable (p : Poller) (e : Event) (timer due cycle : Nat) (outcome : Fetch.Outcome)

@[simp] theorem emit_trace : (p.emit e).trace = e :: p.trace := rfl

@[simp] theorem issue_cycles : (p.issue timer due).cycles = p.cycles + 1 := by
  unfold issue
  split <;> rfl

@[simp] theorem issue_trace :
    (p.issue timer due).trace = .issued (p.cycles + 1) timer due p.clock :: p.trace := by
  unfold issue
  split <;> rfl

@[simp] theorem issue_clock : (p.issue timer due).clock = p.clock := by
  unfold issue
  split <;> rfl

@[simp] theorem issue_reached : (p.issue timer due).reached = p.reached := by
  unfold issue
  split <;> rfl

@[simp] theorem issue_active : (p.issue timer due).active = p.active := by
  unfold issue
  split <;> rfl

@[simp] theorem issue_timers : (p.issue timer due).timers = p.timers := by
  unfold issue
  split <;> rfl

@[simp] theorem issue_dropped : (p.issue timer due).dropped = p.dropped := by
  unfold issue
  split <;> rfl

@[simp] theorem issue_shared : (p.issue timer due).shared = p.shared := by
  unfold issue
  split <;> rfl

@[simp] theorem issue_script : (p.issue timer due).script = p.script.tail := by
  unfold issue
  split <;> rfl

end Fields

/-- Whether the display breaks off at the next notification. -/
def breaksNext (p : Poller) : Bool := p.breaks.contains (p.notices + 1)

/-- The poll state after a cycle is applied. -/
def stateAfter (p : Poller) (outcome : Fetch.Outcome) : PollState :=
  p.published.after (.ofMillis p.clock) outcome

/-- The poller after a cycle is applied, without the events of that. -/
def applied (p : Poller) (cycle : Nat) (outcome : Fetch.Outcome) : Poller :=
  { p with
    shared := ⟨⟨p.stateAfter outcome, cycle⟩, p.shared.poisoned || p.breaksNext⟩
    notices := p.notices + 1 }

theorem verdict_eq_applied_iff {p : Poller} {cycle timer : Nat} :
    p.verdict cycle timer = .applied ↔ p.isActive timer = true ∧ p.latest ≤ cycle := by
  unfold verdict
  split
  · simp_all
  · split <;> simp_all

theorem verdict_eq_outlived_iff {p : Poller} {cycle timer : Nat} :
    p.verdict cycle timer = .outlived ↔ p.isActive timer = false := by
  unfold verdict
  split
  · simp_all
  · split <;> simp_all

theorem complete_of_applied {p : Poller} {cycle timer : Nat} {outcome : Fetch.Outcome}
    (h : p.verdict cycle timer = .applied) :
    p.complete cycle timer outcome =
      { p.applied cycle outcome with
        trace := .notified (p.stateAfter outcome) p.breaksNext
          :: .completed cycle timer p.clock outcome .applied :: p.trace } := by
  simp [complete, h, publish, notify, applied, emit, published, stateAfter, breaksNext]

theorem complete_of_ne_applied {p : Poller} {cycle timer : Nat} {outcome : Fetch.Outcome}
    (h : p.verdict cycle timer ≠ .applied) :
    p.complete cycle timer outcome =
      p.emit (.completed cycle timer p.clock outcome (p.verdict cycle timer)) := by
  unfold complete
  split
  · contradiction
  · rfl

/-- The poller with the next tick of its timer set. -/
def scheduled (p : Poller) (t : Timer) (due : Nat) : Poller :=
  { p with active := some { t with due := some due } }

theorem firstTick_of_active {p : Poller} {t : Timer} {timer : Nat} (h : p.active = some t)
    (hn : t.number = timer) :
    p.firstTick timer =
      if p.reached < p.clock then p.scheduled t p.clock
      else (p.scheduled t (p.clock + t.interval)).issue t.number p.clock := by
  subst hn
  simp only [firstTick, h, if_true]
  rfl

theorem firstTick_of_not_active {p : Poller} {timer : Nat} (h : p.isActive timer = false) :
    p.firstTick timer = p := by
  unfold firstTick
  split
  · rename_i t ht
    rw [if_neg]
    simpa [isActive, ht] using h
  · rfl

theorem isActive_iff {p : Poller} {timer : Nat} :
    p.isActive timer = true ↔ ∃ t, p.active = some t ∧ t.number = timer := by
  simp [isActive, Option.any_eq_true]

theorem due?_eq_some_iff {p : Poller} {due : Nat} :
    p.due? = some due ↔ ∃ t, p.active = some t ∧ t.due = some due := by
  simp [due?, Option.bind_eq_some_iff]

theorem wake_of_reached {p : Poller} {t : Timer} {due : Nat} (ht : p.active = some t)
    (hd : t.due = some due) (hle : due ≤ p.reached) :
    p.wake = (p.scheduled t (Schedule.nextDue t.interval p.clock due)).issue t.number due := by
  simp only [wake, ht, hd, if_pos hle]
  rfl

/-- Nothing is left to be done where the next tick lies ahead. -/
theorem wake_of_ahead {p : Poller} (h : ∀ due, p.due? = some due → p.reached < due) : p.wake = p := by
  cases ht : p.active with
  | none => simp only [wake, ht]
  | some t =>
    cases hd : t.due with
    | none => simp only [wake, ht, hd]
    | some due =>
      have hahead : ¬ due ≤ p.reached := Nat.not_le.mpr (h due (due?_eq_some_iff.mpr ⟨t, ht, hd⟩))
      simp only [wake, ht, hd, if_neg hahead]

/-- A poller either has its tick left to be done or does nothing when it wakes. -/
theorem wake_cases (p : Poller) :
    (∃ t due, p.active = some t ∧ t.due = some due ∧ due ≤ p.reached) ∨
      ∀ due, p.due? = some due → p.reached < due := by
  cases hd : p.due? with
  | none => exact .inr fun due h => nomatch h
  | some due =>
    obtain ⟨t, ht, htd⟩ := due?_eq_some_iff.mp hd
    rcases Nat.lt_or_ge p.reached due with hahead | hle
    · refine .inr fun due' h => ?_
      rwa [← Option.some.inj h]
    · exact .inl ⟨t, due, ht, htd, hle⟩

theorem fire_of_due {p : Poller} {t : Timer} {due : Nat} (ht : p.active = some t)
    (hd : t.due = some due) :
    p.fire = (Schedule.ticksAt t.interval t.interval_pos p.clock due).1.foldl
      (fun q due => q.issue t.number due)
      ({ p with reached := p.clock }.scheduled t
        (Schedule.ticksAt t.interval t.interval_pos p.clock due).2) := by
  simp only [fire, ht, hd]
  rfl

theorem fire_of_idle {p : Poller} (h : p.due? = none) : p.fire = { p with reached := p.clock } := by
  cases ht : p.active with
  | none => simp only [fire, ht]
  | some t =>
    have hd : t.due = none := by simpa [due?, ht] using h
    simp only [fire, ht, hd]

/-- The least a poller does on its own, and the events of it. -/
inductive Move : Poller → List Event → Poller → Prop
  | pass {p : Poller} (clock reached : Nat) (h : p.clock ≤ clock) :
      Move p [] { p with clock := clock, reached := reached }
  /-- The first run of a timer leaves the queue. -/
  | leave {p : Poller} {timer : Nat} {rest : List Task} (h : p.ready = .firstTick timer :: rest) :
      Move p [] { p with ready := rest }
  | schedule {p : Poller} {t : Timer} (due : Nat) (h : p.active = some t) :
      Move p [] (p.scheduled t due)
  | issue {p : Poller} {t : Timer} (due : Nat) (h : p.active = some t) :
      Move p [.issued (p.cycles + 1) t.number due p.clock] (p.issue t.number due)
  | apply {p : Poller} {cycle timer : Nat} {outcome : Fetch.Outcome} {rest : List Task}
      (h : p.ready = .completion cycle timer outcome :: rest)
      (hv : p.verdict cycle timer = .applied) :
      Move p [.completed cycle timer p.clock outcome .applied,
          .notified (p.stateAfter outcome) p.breaksNext]
        { p.applied cycle outcome with
          ready := rest
          trace := .notified (p.stateAfter outcome) p.breaksNext
            :: .completed cycle timer p.clock outcome .applied :: p.trace }
  | discard {p : Poller} {cycle timer : Nat} {outcome : Fetch.Outcome} {rest : List Task}
      (h : p.ready = .completion cycle timer outcome :: rest)
      (hv : p.verdict cycle timer ≠ .applied) :
      Move p [.completed cycle timer p.clock outcome (p.verdict cycle timer)]
        { p with
          ready := rest
          trace := .completed cycle timer p.clock outcome (p.verdict cycle timer) :: p.trace }

/-- A completion among the events of a move is that of the task in front, and judged then. -/
theorem Move.of_completed {p q : Poller} {l post fs : List Event} {cycle timer clock : Nat}
    {outcome : Fetch.Outcome} {verdict : Verdict} (h : Move p l q)
    (hl : l = post ++ .completed cycle timer clock outcome verdict :: fs) :
    post = [] ∧ clock = p.clock ∧ verdict = p.verdict cycle timer ∧
      ∃ rest, p.ready = .completion cycle timer outcome :: rest := by
  cases h with
  | pass | leave | schedule => simp at hl
  | issue =>
    cases post with
    | nil => simp at hl
    | cons e post => simp at hl
  | @apply c t o rest hr hv =>
    cases post with
    | nil =>
      simp only [List.nil_append, List.cons.injEq, Event.completed.injEq] at hl
      obtain ⟨⟨rfl, rfl, rfl, rfl, rfl⟩, -⟩ := hl
      exact ⟨rfl, rfl, hv.symm, rest, hr⟩
    | cons e post =>
      cases post with
      | nil => simp at hl
      | cons e' post => simp at hl
  | @discard c t o rest hr hv =>
    cases post with
    | nil =>
      simp only [List.nil_append, List.cons.injEq, Event.completed.injEq] at hl
      obtain ⟨⟨rfl, rfl, rfl, rfl, rfl⟩, -⟩ := hl
      exact ⟨rfl, rfl, rfl, rest, hr⟩
    | cons e post => simp at hl

/-- Moves one after the other, and all their events. -/
inductive Moves : Poller → List Event → Poller → Prop
  | refl (p : Poller) : Moves p [] p
  | head {p q r : Poller} {es fs : List Event} (h : Move p es q) (hs : Moves q fs r) :
      Moves p (es ++ fs) r

theorem Move.moves {p q : Poller} {es : List Event} (h : Move p es q) : Moves p es q := by
  simpa using Moves.head h (.refl q)

theorem Moves.trans {p q r : Poller} {es fs : List Event} (h : Moves p es q) (h' : Moves q fs r) :
    Moves p (es ++ fs) r := by
  induction h with
  | refl => exact h'
  | head hm _ ih =>
    rw [List.append_assoc]
    exact .head hm (ih h')

theorem Move.trace {p q : Poller} {es : List Event} (h : Move p es q) :
    q.trace = es.reverse ++ p.trace := by
  cases h <;> simp [scheduled]

theorem Moves.trace {p q : Poller} {es : List Event} (h : Moves p es q) :
    q.trace = es.reverse ++ p.trace := by
  induction h with
  | refl => rfl
  | head hm _ ih => rw [ih, hm.trace, List.reverse_append, List.append_assoc]

theorem Move.cycles_le {p q : Poller} {es : List Event} (h : Move p es q) : p.cycles ≤ q.cycles := by
  cases h with
  | issue due ha =>
    rw [issue_cycles]
    exact Nat.le_succ _
  | _ => exact Nat.le_refl _

theorem Moves.cycles_le {p q : Poller} {es : List Event} (h : Moves p es q) : p.cycles ≤ q.cycles := by
  induction h with
  | refl => exact Nat.le_refl _
  | head hm _ ih => exact Nat.le_trans hm.cycles_le ih

/-- An event of some moves is an event of one of them. -/
theorem Moves.at_event {p r : Poller} {es before after : List Event} {e : Event} (h : Moves p es r)
    (he : es = before ++ e :: after) :
    ∃ q q' pre post fs gs, Moves p pre q ∧ Move q (post ++ e :: fs) q' ∧ Moves q' gs r ∧
      before = pre ++ post ∧ after = fs ++ gs := by
  induction h generalizing before with
  | refl => simp at he
  | @head p q r es₁ es₂ hm hs ih =>
    rcases List.append_eq_append_iff.mp he with ⟨pre, rfl, h2⟩ | ⟨post, rfl, h2⟩
    · obtain ⟨a, b, pre', post, fs, gs, h₁, h₂, h₃, rfl, rfl⟩ := ih h2
      exact ⟨a, b, es₁ ++ pre', post, fs, gs, .head hm h₁, h₂, h₃, by simp, rfl⟩
    · cases post with
      | nil =>
        obtain ⟨a, b, pre, post, fs, gs, h₁, h₂, h₃, h₄, rfl⟩ := @ih [] h2.symm
        obtain ⟨rfl, rfl⟩ := List.append_eq_nil_iff.mp h₄.symm
        rw [List.append_nil] at hm
        exact ⟨a, b, before, [], fs, gs, by simpa using Moves.head hm h₁, h₂, h₃, by simp, rfl⟩
      | cons x fs =>
        simp only [List.cons_append, List.cons.injEq] at h2
        obtain ⟨rfl, rfl⟩ := h2
        exact ⟨p, q, [], before, fs, es₂, .refl p, hm, hs, rfl, rfl⟩

/-- A poller with more tasks in front of those that are ready. -/
def ahead (p : Poller) (tasks : List Task) : Poller := { p with ready := tasks ++ p.ready }

theorem issue_ahead (p : Poller) (tasks : List Task) (timer due : Nat) :
    (p.ahead tasks).issue timer due = (p.issue timer due).ahead tasks := by
  cases h : p.script.head? with
  | none => simp only [issue, ahead, emit, h]
  | some answer =>
    cases answer with
    | now outcome => simp only [issue, ahead, emit, h, List.append_assoc]
    | wait => simp only [issue, ahead, emit, h]

theorem perform_ahead (p : Poller) (tasks : List Task) (task : Task) :
    (p.ahead tasks).perform task = (p.perform task).ahead tasks := by
  cases task with
  | completion cycle timer outcome =>
    by_cases h : p.verdict cycle timer = .applied
    · have h' : (p.ahead tasks).verdict cycle timer = .applied := h
      simp only [perform, complete_of_applied h, complete_of_applied h']
      rfl
    · have h' : (p.ahead tasks).verdict cycle timer ≠ .applied := h
      simp only [perform, complete_of_ne_applied h, complete_of_ne_applied h']
      rfl
  | firstTick timer =>
    cases h : p.isActive timer with
    | false =>
      have h' : (p.ahead tasks).isActive timer = false := h
      simp only [perform, firstTick_of_not_active h, firstTick_of_not_active h']
    | true =>
      obtain ⟨t, ht, hn⟩ := isActive_iff.mp h
      have ht' : (p.ahead tasks).active = some t := ht
      simp only [perform, firstTick_of_active ht hn, firstTick_of_active ht' hn]
      by_cases hr : p.reached < p.clock
      · have hr' : (p.ahead tasks).reached < (p.ahead tasks).clock := hr
        rw [if_pos hr, if_pos hr']
        rfl
      · have hr' : ¬ (p.ahead tasks).reached < (p.ahead tasks).clock := hr
        rw [if_neg hr, if_neg hr', ← issue_ahead]
        rfl

/-- A task that is ready first is performed by moves. -/
theorem perform_moves {p : Poller} {task : Task} {rest : List Task} (h : p.ready = task :: rest) :
    ∃ es, Moves p es ({ p with ready := rest }.perform task) := by
  cases task with
  | completion cycle timer outcome =>
    by_cases ha : p.verdict cycle timer = .applied
    · have ha' : { p with ready := rest }.verdict cycle timer = .applied := ha
      rw [perform, complete_of_applied ha']
      exact ⟨_, (Move.apply h ha).moves⟩
    · have ha' : { p with ready := rest }.verdict cycle timer ≠ .applied := ha
      rw [perform, complete_of_ne_applied ha']
      exact ⟨_, (Move.discard h ha).moves⟩
  | firstTick timer =>
    have hl := (Move.leave h).moves
    rw [perform]
    cases ha : { p with ready := rest }.isActive timer with
    | false =>
      rw [firstTick_of_not_active ha]
      exact ⟨_, hl⟩
    | true =>
      obtain ⟨t, ht, hn⟩ := isActive_iff.mp ha
      rw [firstTick_of_active ht hn]
      split
      · exact ⟨_, hl.trans (Move.schedule p.clock ht).moves⟩
      · have hs := hl.trans (Move.schedule (p.clock + t.interval) ht).moves
        exact ⟨_, hs.trans (Move.issue p.clock (t := { t with due := some (p.clock + t.interval) }) rfl).moves⟩

theorem foldl_perform_moves (tasks : List Task) (p : Poller) :
    ∃ es, Moves (p.ahead tasks) es (tasks.foldl perform p) := by
  induction tasks generalizing p with
  | nil => exact ⟨[], .refl p⟩
  | cons task rest ih =>
    have hr : (p.ahead (task :: rest)).ready = task :: (rest ++ p.ready) := rfl
    obtain ⟨es, hes⟩ := perform_moves hr
    obtain ⟨fs, hfs⟩ := ih (p.perform task)
    rw [← perform_ahead] at hfs
    exact ⟨es ++ fs, hes.trans hfs⟩

theorem runReady_moves (p : Poller) : ∃ es, Moves p es p.runReady := by
  have h := foldl_perform_moves p.ready { p with ready := [] }
  rwa [ahead, List.append_nil] at h

theorem drain_moves (p : Poller) : ∃ es, Moves p es p.drain := by
  obtain ⟨es, hes⟩ := p.runReady_moves
  obtain ⟨fs, hfs⟩ := p.runReady.runReady_moves
  exact ⟨es ++ fs, hes.trans hfs⟩

theorem foldl_issue_moves {t : Timer} (dues : List Nat) (p : Poller) (h : p.active = some t) :
    ∃ es, Moves p es (dues.foldl (fun q due => q.issue t.number due) p) := by
  induction dues generalizing p with
  | nil => exact ⟨[], .refl p⟩
  | cons due dues ih =>
    obtain ⟨es, hes⟩ := ih (p.issue t.number due) (by rw [issue_active, h])
    exact ⟨_, (Move.issue due h).moves.trans hes⟩

theorem fire_moves (p : Poller) : ∃ es, Moves p es p.fire := by
  have hp : Moves p [] { p with reached := p.clock } := (Move.pass p.clock p.clock (Nat.le_refl _)).moves
  cases h : p.due? with
  | none =>
    rw [fire_of_idle h]
    exact ⟨_, hp⟩
  | some due =>
    obtain ⟨t, ht, hd⟩ := due?_eq_some_iff.mp h
    rw [fire_of_due ht hd]
    have ht' : { p with reached := p.clock }.active = some t := ht
    have hs := hp.trans (Move.schedule
      (Schedule.ticksAt t.interval t.interval_pos p.clock due).2 ht').moves
    obtain ⟨es, hes⟩ := foldl_issue_moves (Schedule.ticksAt t.interval t.interval_pos p.clock due).1
      ({ p with reached := p.clock }.scheduled t
        (Schedule.ticksAt t.interval t.interval_pos p.clock due).2) rfl
    exact ⟨_, hs.trans hes⟩

theorem wake_moves (p : Poller) : ∃ es, Moves p es p.wake := by
  rcases p.wake_cases with ⟨t, due, ht, hd, hle⟩ | hahead
  · rw [wake_of_reached ht hd hle]
    have hs := (Move.schedule (Schedule.nextDue t.interval p.clock due) ht).moves
    exact ⟨_, hs.trans (Move.issue due
      (t := { t with due := some (Schedule.nextDue t.interval p.clock due) }) rfl).moves⟩
  · rw [wake_of_ahead hahead]
    exact ⟨[], .refl p⟩

theorem settle_moves (p : Poller) : ∃ es, Moves p es p.settle := by
  obtain ⟨ds, hds⟩ := p.wake_moves
  obtain ⟨es, hes⟩ := p.wake.drain_moves
  obtain ⟨fs, hfs⟩ := p.wake.drain.fire_moves
  obtain ⟨gs, hgs⟩ := p.wake.drain.fire.drain_moves
  exact ⟨ds ++ es ++ fs ++ gs, ((hds.trans hes).trans hfs).trans hgs⟩

section Clock
variable (p : Poller)

@[simp] theorem perform_clock (task : Task) : (p.perform task).clock = p.clock := by
  cases task with
  | completion cycle timer outcome =>
    by_cases h : p.verdict cycle timer = .applied
    · rw [perform, complete_of_applied h]
      rfl
    · rw [perform, complete_of_ne_applied h]
      rfl
  | firstTick timer =>
    cases h : p.isActive timer with
    | false => rw [perform, firstTick_of_not_active h]
    | true =>
      obtain ⟨t, ht, hn⟩ := isActive_iff.mp h
      rw [perform, firstTick_of_active ht hn]
      split
      · rfl
      · rw [issue_clock]
        rfl

@[simp] theorem foldl_perform_clock (tasks : List Task) :
    (tasks.foldl perform p).clock = p.clock := by
  induction tasks generalizing p with
  | nil => rfl
  | cons task tasks ih => rw [List.foldl_cons, ih, perform_clock]

@[simp] theorem foldl_issue_clock (timer : Nat) (dues : List Nat) :
    (dues.foldl (fun q due => q.issue timer due) p).clock = p.clock := by
  induction dues generalizing p with
  | nil => rfl
  | cons due dues ih => rw [List.foldl_cons, ih, issue_clock]

@[simp] theorem drain_clock : p.drain.clock = p.clock := by
  simp [drain, runReady]

@[simp] theorem fire_clock : p.fire.clock = p.clock := by
  cases h : p.due? with
  | none => rw [fire_of_idle h]
  | some due =>
    obtain ⟨t, ht, hd⟩ := due?_eq_some_iff.mp h
    rw [fire_of_due ht hd, foldl_issue_clock]
    rfl

@[simp] theorem wake_clock : p.wake.clock = p.clock := by
  rcases p.wake_cases with ⟨t, due, ht, hd, hle⟩ | hahead
  · rw [wake_of_reached ht hd hle, issue_clock]
    rfl
  · rw [wake_of_ahead hahead]

@[simp] theorem settle_clock : p.settle.clock = p.clock := by
  simp [settle]

end Clock

section Stretches
variable {p : Poller} {target : Nat}

/-- Time passes up to a tick that falls due on the way, and then on. -/
theorem advance_of_due {due : Nat} (hlt : p.clock < target) (hd : p.settle.due? = some due)
    (hbetween : p.clock < due ∧ due < target) :
    p.advance target = { p.settle with clock := due, reached := due }.advance target := by
  rw [advance.eq_def, if_pos hlt]
  simp only [hd, if_pos hbetween]

theorem advance_of_idle (hlt : p.clock < target)
    (h : ∀ due, p.settle.due? = some due → ¬ (p.clock < due ∧ due < target)) :
    p.advance target = { p.settle with clock := target, reached := target } := by
  rw [advance.eq_def, if_pos hlt]
  cases hd : p.settle.due? with
  | none => simp only [hd]
  | some due => simp only [hd, if_neg (h due hd)]

theorem advance_of_le (hle : target ≤ p.clock) : p.advance target = p := by
  rw [advance.eq_def, if_neg (Nat.not_lt.mpr hle)]

end Stretches

theorem advance_moves (p : Poller) (target : Nat) : ∃ es, Moves p es (p.advance target) := by
  fun_induction advance p target with
  | case1 p hlt q due hdue hbetween ih =>
    obtain ⟨es, hes⟩ := p.settle_moves
    obtain ⟨fs, hfs⟩ := ih
    have hle : p.settle.clock ≤ due := by
      rw [settle_clock]
      exact Nat.le_of_lt hbetween.1
    exact ⟨_, (hes.trans (Move.pass due due hle).moves).trans hfs⟩
  | case2 p hlt q due hdue hout =>
    obtain ⟨es, hes⟩ := p.settle_moves
    have hle : p.settle.clock ≤ target := by
      rw [settle_clock]
      exact Nat.le_of_lt hlt
    exact ⟨_, hes.trans (Move.pass target target hle).moves⟩
  | case3 p hlt q hdue =>
    obtain ⟨es, hes⟩ := p.settle_moves
    have hle : p.settle.clock ≤ target := by
      rw [settle_clock]
      exact Nat.le_of_lt hlt
    exact ⟨_, hes.trans (Move.pass target target hle).moves⟩
  | case4 p hge => exact ⟨[], .refl p⟩

end QueueBoard.Poller
