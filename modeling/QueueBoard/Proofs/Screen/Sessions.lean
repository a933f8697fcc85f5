import Mathlib.Data.List.Forall2
import QueueBoard.Proofs.Screen.Drawings
import QueueBoard.Screen.Session

/-! # Sessions

Every drawing of a session is a cut-off of the full frame of the state it is drawn of, whatever went
wrong in the drawings before it. No fault has a bearing on the states, and the writer has taken the
cut-offs one after the other.
-/
namespace QueueBoard.Session

/-- What a record shows apart from what has been written. -/
def Record.shown (r : Record) : PollState × String × List Item := (r.state, r.statusLine, r.items)

/-- The same change of the state without any fault in its drawing. -/
def Step.faultless (s : Step) : Step := { s with faults := .none }

section Step
variable (session : Session) (s : Step)

theorem step_view : (session.step s).1.display.view = session.display.view := rfl

theorem step_state : (session.step s).1.state = s.change.apply session.state := rfl

theorem step_cutOff :
    Drawing.CutOff (session.display.view.bytes (session.step s).2.state) s.faults
      (session.step s).2.drawing :=
  session.display.view.cutOff_draw s.faults _

/-- The writer is recovered from whatever happened to it, and goes on behind what it has taken. -/
theorem step_written :
    (session.step s).1.display.out.value
      = session.display.out.value ++ (session.step s).2.drawing.bytes := by
  simp [step, Display.draw]

end Step

theorem records_cutOff (session : Session) (steps : List Step) :
    List.Forall₂ (fun s r => Drawing.CutOff (session.display.view.bytes r.state) s.faults r.drawing)
      steps (session.records steps) := by
  induction steps generalizing session with
  | nil => exact .nil
  | cons s steps ih => exact .cons (session.step_cutOff s) (ih (session.step s).1)

/-- What a step shows depends on the view and the state only, not on what became of the writer. -/
theorem records_shown {session session' : Session} (hview : session.display.view = session'.display.view)
    (hstate : session.state = session'.state) (steps : List Step) :
    (session.records steps).map Record.shown
      = (session'.records (steps.map Step.faultless)).map Record.shown := by
  induction steps generalizing session session' with
  | nil => rfl
  | cons s steps ih =>
    have hshown : (session.step s).2.shown = (session'.step s.faultless).2.shown := by
      simp [Record.shown, step, Step.faultless, hview, hstate]
    have hstate' : (session.step s).1.state = (session'.step s.faultless).1.state := by
      rw [step_state, step_state, hstate]
      rfl
    have hview' : (session.step s).1.display.view = (session'.step s.faultless).1.display.view := by
      rw [step_view, step_view, hview]
    simp only [records, List.map_cons, hshown, ih hview' hstate']

theorem afterAll_written (session : Session) (steps : List Step) :
    (session.afterAll steps).display.out.value
      = session.display.out.value ++ (session.records steps).flatMap (·.drawing.bytes) := by
  induction steps generalizing session with
  | nil => simp [afterAll, records]
  | cons s steps ih =>
    rw [records, List.flatMap_cons, ← List.append_assoc, ← step_written]
    exact ih (session.step s).1

/-- In every session every drawing is a cut-off of the full frame of its state by the faults of its own
step, the states, status lines and items are those of the session without faults, and the writer has
taken the cut-offs one after the other. -/
theorem display_faults_are_cut_offs (v : View) (steps : List Step) :
    List.Forall₂ (fun s r => Drawing.CutOff (v.bytes r.state) s.faults r.drawing) steps (run v steps) ∧
      (run v steps).map Record.shown = (run v (steps.map Step.faultless)).map Record.shown ∧
      ((new v).afterAll steps).display.out.value = (run v steps).flatMap (·.drawing.bytes) :=
  ⟨records_cutOff (new v) steps, records_shown rfl rfl steps, afterAll_written (new v) steps⟩

end QueueBoard.Session
