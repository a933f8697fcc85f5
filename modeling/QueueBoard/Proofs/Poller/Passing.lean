import QueueBoard.Proofs.Poller.Moves

/-! # Changes that pass through

There are changes of a poller that its work does not depend on. If such a change can be made before or
after a cycle is issued and before or after one is completed, it can be made before or after everything
that a poller does on its own.
-/
namespace QueueBoard.Poller

/-- A change that nothing depends on by which a poller lets time pass. -/
structure Passes (change : Poller → Poller) : Prop where
  clock : ∀ p, (change p).clock = p.clock
  reached : ∀ p, (change p).reached = p.reached
  active : ∀ p, (change p).active = p.active
  ready : ∀ p, (change p).ready = p.ready
  atTime : ∀ (p : Poller) (clock reached : Nat),
    change { p with clock := clock, reached := reached }
      = { change p with clock := clock, reached := reached }
  withReady : ∀ (p : Poller) (tasks : List Task),
    change { p with ready := tasks } = { change p with ready := tasks }
  scheduled : ∀ (p : Poller) (t : Timer) (due : Nat),
    change (p.scheduled t due) = (change p).scheduled t due
  issue : ∀ (p : Poller) (timer due : Nat), change (p.issue timer due) = (change p).issue timer due
  complete : ∀ (p : Poller) (cycle timer : Nat) (outcome : Fetch.Outcome),
    change (p.complete cycle timer outcome) = (change p).complete cycle timer outcome

namespace Passes
variable {change : Poller → Poller} (h : Passes change)
include h

theorem isActive (p : Poller) (timer : Nat) : (change p).isActive timer = p.isActive timer := by
  rw [Poller.isActive, Poller.isActive, h.active]

theorem due? (p : Poller) : (change p).due? = p.due? := by
  rw [Poller.due?, Poller.due?, h.active]

theorem firstTick (p : Poller) (timer : Nat) : change (p.firstTick timer) = (change p).firstTick timer := by
  cases ha : p.isActive timer with
  | false =>
    have ha' : (change p).isActive timer = false := (h.isActive p timer).trans ha
    rw [firstTick_of_not_active ha, firstTick_of_not_active ha']
  | true =>
    obtain ⟨t, ht, hn⟩ := isActive_iff.mp ha
    have ht' : (change p).active = some t := (h.active p).trans ht
    rw [firstTick_of_active ht hn, firstTick_of_active ht' hn, h.clock, h.reached]
    split
    · exact h.scheduled p t _
    · rw [h.issue, h.scheduled]

theorem perform (p : Poller) (task : Task) : change (p.perform task) = (change p).perform task := by
  cases task with
  | firstTick timer => exact h.firstTick p timer
  | completion cycle timer outcome => exact h.complete p cycle timer outcome

theorem foldl_perform (tasks : List Task) (p : Poller) :
    change (tasks.foldl Poller.perform p) = tasks.foldl Poller.perform (change p) := by
  induction tasks generalizing p with
  | nil => rfl
  | cons task tasks ih => rw [List.foldl_cons, List.foldl_cons, ih, h.perform]

theorem runReady (p : Poller) : change p.runReady = (change p).runReady := by
  rw [Poller.runReady, Poller.runReady, h.foldl_perform, h.withReady, h.ready]

theorem drain (p : Poller) : change p.drain = (change p).drain := by
  rw [Poller.drain, Poller.drain, h.runReady, h.runReady]

theorem foldl_issue (timer : Nat) (dues : List Nat) (p : Poller) :
    change (dues.foldl (fun q due => q.issue timer due) p)
      = dues.foldl (fun q due => q.issue timer due) (change p) := by
  induction dues generalizing p with
  | nil => rfl
  | cons due dues ih => rw [List.foldl_cons, List.foldl_cons, ih, h.issue]

theorem catchUp (p : Poller) :
    change { p with reached := p.clock } = { change p with reached := (change p).clock } := by
  calc change { p with reached := p.clock }
    _ = { change p with clock := p.clock, reached := p.clock } := h.atTime p p.clock p.clock
    _ = { change p with clock := (change p).clock, reached := (change p).clock } := by rw [h.clock]

theorem fire (p : Poller) : change p.fire = (change p).fire := by
  cases hd : p.due? with
  | none =>
    have hd' : (change p).due? = none := (h.due? p).trans hd
    rw [fire_of_idle hd, fire_of_idle hd', h.catchUp]
  | some due =>
    obtain ⟨t, ht, htd⟩ := due?_eq_some_iff.mp hd
    have ht' : (change p).active = some t := (h.active p).trans ht
    rw [fire_of_due ht htd, fire_of_due ht' htd, h.foldl_issue, h.scheduled, h.catchUp, ← h.clock p]

theorem wake (p : Poller) : change p.wake = (change p).wake := by
  rcases p.wake_cases with ⟨t, due, ht, hd, hle⟩ | hahead
  · have ht' : (change p).active = some t := (h.active p).trans ht
    have hle' : due ≤ (change p).reached := (h.reached p).symm ▸ hle
    rw [wake_of_reached ht hd hle, wake_of_reached ht' hd hle', h.issue, h.scheduled, h.clock]
  · have hahead' : ∀ due, (change p).due? = some due → (change p).reached < due := by
      rw [h.due?, h.reached]
      exact hahead
    rw [wake_of_ahead hahead, wake_of_ahead hahead']

theorem settle (p : Poller) : change p.settle = (change p).settle := by
  rw [Poller.settle, Poller.settle, h.drain, h.fire, h.drain, h.wake]

theorem advance (p : Poller) (target : Nat) : change (p.advance target) = (change p).advance target := by
  fun_induction Poller.advance p target with
  | case1 p hlt q due hdue hbetween ih =>
    have hdue' : (change p).settle.due? = some due := by rw [← h.settle, h.due?, hdue]
    rw [ih, advance_of_due (h.clock p ▸ hlt) hdue' (h.clock p ▸ hbetween), h.atTime, ← h.settle]
  | case2 p hlt q due hdue hout =>
    have hdue' : (change p).settle.due? = some due := by rw [← h.settle, h.due?, hdue]
    rw [advance_of_idle (h.clock p ▸ hlt), h.atTime, ← h.settle]
    intro due' hd
    obtain rfl : due = due' := Option.some.inj (hdue'.symm.trans hd)
    rwa [h.clock]
  | case3 p hlt q hdue =>
    have hdue' : (change p).settle.due? = none := by rw [← h.settle, h.due?, hdue]
    rw [advance_of_idle (h.clock p ▸ hlt), h.atTime, ← h.settle]
    intro due hd
    cases hdue'.symm.trans hd
  | case4 p hge => rw [advance_of_le (h.clock p ▸ Nat.not_lt.mp hge)]

end Passes

/-- A poller that still has earlier events in its trace. -/
def recalling (earlier : List Event) (p : Poller) : Poller := { p with trace := p.trace ++ earlier }

/-- A poller only adds to its trace. -/
theorem passes_recalling (earlier : List Event) : Passes (recalling earlier) where
  clock := fun _ => rfl
  reached := fun _ => rfl
  active := fun _ => rfl
  ready := fun _ => rfl
  atTime := fun _ _ _ => rfl
  withReady := fun _ _ => rfl
  scheduled := fun _ _ _ => rfl
  issue := by
    intro p timer due
    have hscript : (p.recalling earlier).script = p.script := rfl
    unfold issue
    rw [hscript]
    split <;> rfl
  complete := by
    intro p cycle timer outcome
    have hverdict : (recalling earlier p).verdict cycle timer = p.verdict cycle timer := rfl
    by_cases hv : p.verdict cycle timer = .applied
    · rw [complete_of_applied hv, complete_of_applied (hverdict.trans hv)]
      rfl
    · rw [complete_of_ne_applied hv, complete_of_ne_applied (hverdict ▸ hv), hverdict]
      rfl

end QueueBoard.Poller
