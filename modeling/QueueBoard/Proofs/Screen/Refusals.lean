import QueueBoard.Proofs.Fetch.Classes
import QueueBoard.Proofs.Screen.Sessions

/-! # Refusals

A server that refuses a request may send a body along. The body is kept in the failure and goes nowhere
else: sessions whose fetches are refused with the same statuses show the same, whatever the bodies are
and whether or not they are complete.
-/
namespace QueueBoard

/-- Answers to a fetch from an endpoint by which it is refused with the same status, or for the same reason
gets no reply. -/
inductive Http.Answer.RefuseAlike (endpoint : String) (a b : Answer) : Prop
  | refused {r r' : Reply} (ha : Fetch.reply? endpoint a = some r) (hb : Fetch.reply? endpoint b = some r')
      (hr : ¬ Fetch.IsSuccess r.status) (hs : r'.status = r.status)
  | silent (ha : Fetch.firstReply? endpoint a = none) (hb : Fetch.firstReply? endpoint b = none)

/-- Outcomes that are the same but for the bodies that came with a refusal. -/
def Fetch.Outcome.SameButBody (x y : Fetch.Outcome) : Prop :=
  x = y ∨ ∃ code body body', x = .error (.status code body) ∧ y = .error (.status code body')

namespace Fetch

theorem jobs_of_refusals {endpoint : String} {a b : Http.Answer} (h : a.RefuseAlike endpoint b) :
    Outcome.SameButBody (jobs endpoint a) (jobs endpoint b) := by
  cases h with
  | @refused r r' ha hb hr hs =>
    have hr' : ¬ IsSuccess r'.status := by rwa [hs]
    have hjb := (jobs_of_reply? hb).trans (ofReply_of_refused hr')
    rw [hs] at hjb
    exact .inr ⟨r.status, _, _, (jobs_of_reply? ha).trans (ofReply_of_refused hr), hjb⟩
  | silent ha hb => exact .inl ((jobs_of_silence ha).trans (jobs_of_silence hb).symm)

namespace Outcome.SameButBody
variable {x y : Outcome} (h : SameButBody x y)
include h

theorem after_eq (s : PollState) (time : Instant) : s.after time x = s.after time y := by
  rcases h with rfl | ⟨code, body, body', rfl, rfl⟩
  · rfl
  · rfl

theorem log_eq (endpoint : String) : log endpoint x = log endpoint y := by
  rcases h with rfl | ⟨code, body, body', rfl, rfl⟩
  · rfl
  · rfl

end Outcome.SameButBody
end Fetch

namespace Session

/-- Steps that are the same but for the body of a refusal. -/
inductive Step.SameButBody : Step → Step → Prop
  | same (s : Step) : SameButBody s s
  | refused {endpoint : String} {a b : Http.Answer} (h : a.RefuseAlike endpoint b) (time : Instant)
      (faults : Faults) :
      SameButBody ⟨.fetch endpoint a time, faults⟩ ⟨.fetch endpoint b time, faults⟩

/-- Records that show the same. What has been fetched differs at most in the body of a refusal. -/
structure Record.SameButBody (r t : Record) : Prop where
  state : r.state = t.state
  statusLine : r.statusLine = t.statusLine
  items : r.items = t.items
  bytes : r.drawing.bytes = t.drawing.bytes
  log : r.drawing.log = t.drawing.log
  ending : r.drawing.ending = t.drawing.ending
  fetched : Option.Rel Fetch.Outcome.SameButBody r.fetched t.fetched

section Step
variable {s t : Step} (h : s.SameButBody t)
include h

theorem Step.SameButBody.apply_eq (state : PollState) : s.change.apply state = t.change.apply state := by
  cases h with
  | same => rfl
  | refused h time faults => exact (Fetch.jobs_of_refusals h).after_eq state time

theorem Step.SameButBody.faults_eq : s.faults = t.faults := by
  cases h with
  | same => rfl
  | refused => rfl

theorem Step.SameButBody.fetched :
    Option.Rel Fetch.Outcome.SameButBody s.change.fetched t.change.fetched := by
  cases h with
  | same =>
    cases s.change.fetched with
    | none => exact .none
    | some outcome => exact .some (.inl rfl)
  | refused h => exact .some (Fetch.jobs_of_refusals h)

/-- A body does not get past its step. -/
theorem step_sameButBody (session : Session) :
    (session.step s).1 = (session.step t).1 ∧
      Record.SameButBody (session.step s).2 (session.step t).2 := by
  have hstate := h.apply_eq session.state
  have hfaults := h.faults_eq
  constructor
  · simp only [step, hstate, hfaults]
  · have hfetched := h.fetched
    constructor <;> simp only [step, hstate, hfaults]
    exact hfetched

end Step

theorem records_sameButBody {steps steps' : List Step} (h : List.Forall₂ Step.SameButBody steps steps')
    (session : Session) :
    session.afterAll steps = session.afterAll steps' ∧
      List.Forall₂ Record.SameButBody (session.records steps) (session.records steps') := by
  induction h generalizing session with
  | nil => exact ⟨rfl, .nil⟩
  | @cons s t steps steps' hs _ ih =>
    obtain ⟨hnext, hrecord⟩ := step_sameButBody hs session
    obtain ⟨hafter, hrecords⟩ := ih (session.step s).1
    rw [hnext] at hafter hrecords
    refine ⟨?_, .cons hrecord ?_⟩
    · rw [afterAll, List.foldl_cons, hnext]
      exact hafter
    · rw [hnext]
      exact hrecords

/-- Sessions with the same steps, but for the bodies of the refusals in them, show the same in every step
and leave the same behind; what has been fetched differs at most in the body of a refusal, of which no
log tells. -/
theorem refused_bodies_are_not_shown (v : View) {steps steps' : List Step}
    (h : List.Forall₂ Step.SameButBody steps steps') :
    List.Forall₂ Record.SameButBody (run v steps) (run v steps') ∧
      (new v).afterAll steps = (new v).afterAll steps' ∧
      ∀ (endpoint : String) (a b : Http.Answer), a.RefuseAlike endpoint b →
        Fetch.log endpoint (Fetch.jobs endpoint a) = Fetch.log endpoint (Fetch.jobs endpoint b) := by
  obtain ⟨hafter, hrecords⟩ := records_sameButBody h (new v)
  exact ⟨hrecords, hafter, fun endpoint _ _ hab => (Fetch.jobs_of_refusals hab).log_eq endpoint⟩

/-- A refusal with a body and one whose body is cut short, between a success and another drawing. -/
theorem refusal_shown_without_body :
    let v : View := ⟨.default, true, 0⟩
    let a : Http.Answer := .response 503 4 (bytesOf "busy")
    let b : Http.Answer := .response 503 9 (bytesOf "secr")
    let steps (answer : Http.Answer) : List Step := [⟨.succeeded [⟨"deck", .done⟩] (.ofMillis 0), .none⟩,
      ⟨.fetch Endpoint.standard answer (.ofMillis 9), ⟨some 40, false, false⟩⟩, ⟨.redraw, .none⟩]
    Fetch.jobs Endpoint.standard a = .error (.status 503 "busy") ∧
      Fetch.jobs Endpoint.standard b = .error (.status 503 "") ∧
      List.Forall₂ Record.SameButBody (run v (steps a)) (run v (steps b)) := by
  intro v a b steps
  have ha : Fetch.reply? Endpoint.standard a = some ⟨503, none, none, some (bytesOf "busy")⟩ := by
    decide +kernel
  have hb : Fetch.reply? Endpoint.standard b = some ⟨503, none, none, none⟩ := by decide +kernel
  have hrefused : ¬ Fetch.IsSuccess 503 := fun h => absurd h.2 (by decide)
  have halike : a.RefuseAlike Endpoint.standard b := .refused ha hb hrefused rfl
  have hsteps : List.Forall₂ Step.SameButBody (steps a) (steps b) :=
    .cons (.same _) (.cons (.refused halike _ _) (.cons (.same _) .nil))
  exact ⟨by decide +kernel, by decide +kernel, (refused_bodies_are_not_shown v hsteps).1⟩

end Session
end QueueBoard
