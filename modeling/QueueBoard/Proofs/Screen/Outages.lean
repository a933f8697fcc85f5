import Mathlib.Data.List.Forall2
import QueueBoard.Proofs.Fetch.Messages
import QueueBoard.Proofs.Screen.Rows
import QueueBoard.Proofs.Screen.Sessions

/-! # Outages

As long as there are no jobs to show, a fetch that fails is told in the status line and in one item. No
message of a failure has a control character, so both stay on their lines, whatever the servers send and
wherever they lead to.
-/
namespace QueueBoard

theorem ControlFree.not_mem_lineFeed {cs : List Char} (h : ControlFree cs) : '\n' ∉ cs :=
  h.not_mem (by decide)

/-- The lines that tell a failure. -/
def Failure.lines (f : Failure) : List (List Char) :=
  [("Error: " ++ f.message).toList, Frame.rule, ("Error loading queue: " ++ f.message).toList, []]

theorem Failure.controlFree_lines {f : Failure} (h : ControlFree f.message.toList) :
    ∀ line ∈ f.lines, ControlFree line := by
  have hstatus : ControlFree "Error: ".toList := by decide
  have hrule : ControlFree Frame.rule := by decide
  have hitem : ControlFree "Error loading queue: ".toList := by decide
  simp only [lines, List.forall_mem_cons]
  exact ⟨.text_append hstatus h, hrule, .text_append hitem h, .nil, fun _ hl => absurd hl List.not_mem_nil⟩

theorem Frame.lineText_error (message : String) :
    lineText false (itemLine (.error message)) = ("Error loading queue: " ++ message).toList := by
  have hline : itemLine (.error message) = [.inked .red ("Error loading queue: " ++ message).toList] := rfl
  simp [hline, lineText, Piece.draw, Piece.inked, Piece.pad]

theorem PollState.statusLine_of_failure {s : PollState} {message : String} (h : s.status = .failed message)
    (offset : Int) : s.statusLine offset = "Error: " ++ message := by
  rw [statusLine, h]
  rfl

/-- The frame of a failure without jobs is its lines, each with its line feed. -/
theorem View.text_of_failure {v : View} {s : PollState} {f : Failure} (hc : v.color = false)
    (hj : s.jobs = none) (hs : s.status = .failed f.message) :
    v.text s = f.lines.flatMap (· ++ ['\n']) := by
  have hitems := v.options.items_of_failure hj hs
  have hstatus := PollState.statusLine_of_failure hs v.offset
  rw [View.text, View.frame, hc, Frame.text_ofItems, hitems, hstatus]
  simp only [Failure.lines, Frame.rule, List.flatMap_cons, List.flatMap_nil, Frame.lineText_error,
    List.append_assoc, List.cons_append, List.nil_append, List.append_nil]

namespace Session

/-- A fetch that fails. -/
def Step.Fails (s : Step) : Prop :=
  ∃ endpoint answer time failure, s.change = .fetch endpoint answer time ∧
    Fetch.jobs endpoint answer = .error failure

/-- A record of a failure, told in lines without control characters. -/
structure Record.Tells (v : View) (faults : Faults) (r : Record) (f : Failure) : Prop where
  fetched : r.fetched = some (.error f)
  jobs : r.state.jobs = none
  statusLine : r.statusLine = "Error: " ++ f.message
  items : r.items = [.error f.message]
  /-- Nothing follows the line feed of the last line. -/
  lines : splitAtAll '\n' (v.text r.state) = f.lines ++ [[]]
  controlFree : ∀ line ∈ f.lines, ControlFree line
  /-- What is drawn while nothing goes wrong with the writer. -/
  drawn : faults = .none → r.drawing = ⟨bytesOf (String.ofList (v.text r.state)), .drawn⟩

variable {session : Session} (hc : session.display.view.color = false) (hj : session.state.jobs = none)
include hc hj

/-- A fetch that fails tells its failure and leaves no jobs. -/
theorem step_tells {s : Step} (h : s.Fails) :
    (session.step s).1.state.jobs = none ∧
      ∃ f, (session.step s).2.Tells session.display.view s.faults f := by
  obtain ⟨endpoint, answer, time, f, hchange, hfetch⟩ := h
  have hstate : (session.step s).1.state = session.state.failed f.message := by
    rw [step_state, hchange, Change.apply, hfetch, PollState.after]
  have hjobs : (session.step s).1.state.jobs = none := by
    rw [hstate]
    exact hj
  have hstatus : (session.step s).1.state.status = .failed f.message := by
    rw [hstate, PollState.failed]
  have hfree := Failure.controlFree_lines (Fetch.controlFree_of_jobs hfetch)
  have hdrawing : (session.step s).2.drawing = session.display.view.draw s.faults (session.step s).1.state :=
    rfl
  refine ⟨hjobs, f, ?_⟩
  constructor
  case fetched =>
    have hfetched : (session.step s).2.fetched = s.change.fetched := rfl
    rw [hfetched, hchange, Change.fetched, hfetch]
  case jobs => exact hjobs
  case statusLine => exact PollState.statusLine_of_failure hstatus _
  case items => exact session.display.view.options.items_of_failure hjobs hstatus
  case lines =>
    have htext := View.text_of_failure hc hjobs hstatus
    have hlines := splitAtAll_flatMap fun line hline => (hfree line hline).not_mem_lineFeed
    rw [← htext] at hlines
    exact hlines
  case controlFree => exact hfree
  case drawn =>
    intro hnone
    rw [hdrawing, hnone, View.draw_none]
    rfl

theorem records_tell {steps : List Step} (h : ∀ s ∈ steps, s.Fails) :
    List.Forall₂ (fun s r => ∃ f, r.Tells session.display.view s.faults f) steps (session.records steps) := by
  induction steps generalizing session with
  | nil => exact .nil
  | cons s steps ih =>
    obtain ⟨hs, hsteps⟩ := List.forall_mem_cons.mp h
    obtain ⟨hjobs, htells⟩ := step_tells hc hj hs
    have hview : (session.step s).1.display.view.color = false := hc
    exact .cons htells (ih hview hjobs hsteps)

omit hc hj

/-- No message of a failed fetch has a control character, whatever the endpoint is, whatever the servers
answer and whatever the locations of redirects stand for. So without jobs a session without colors that
only fails draws four lines in every step: the status line, the rule, one item and an empty line. -/
theorem failures_are_told_in_four_lines :
    (∀ (endpoint : String) (answer : Http.Answer) (f : Failure),
        Fetch.jobs endpoint answer = .error f → ControlFree f.message.toList) ∧
      ∀ (session : Session) (steps : List Step), session.display.view.color = false →
        session.state.jobs = none → (∀ s ∈ steps, s.Fails) →
        List.Forall₂ (fun s r => ∃ f, r.Tells session.display.view s.faults f) steps
          (session.records steps) :=
  ⟨fun _ _ _ => Fetch.controlFree_of_jobs, fun _ _ hc hj => records_tell hc hj⟩

/-- A listing that holds a text which would clear a terminal and open a line, a refusal with that text for
its body, and a redirect to an address of the server's choice where no server is. -/
theorem hostile_texts_told_in_four_lines :
    let v : View := ⟨.default, false, 0⟩
    let listing : Http.Answer := .response 200 15 (bytesOf "[\"\\u001b[2J\\n\"]")
    let refusal : Http.Answer := .response 503 5 (bytesOf "\x1b[2J\n")
    let redirect : Http.Answer := .raw (bytesOf "HTTP/1.1 302 \r\nLocation: /\t\u009b2J\r\n\r\n")
    let quoted : Failure := .malformed
      "invalid type: string \"\\u\x7b1b\x7d[2J\\n\", expected struct JobRecord at line 1 column 14"
    let refused : Failure := .status 503 "\x1b[2J\n"
    let led : Failure := .network (.noReply "http://localhost:8080/%C2%9B2J")
    let steps : List Step := [⟨.fetch Endpoint.standard listing (.ofMillis 0), .none⟩,
      ⟨.fetch Endpoint.standard refusal (.ofMillis 0), .none⟩,
      ⟨.fetch Endpoint.standard redirect (.ofMillis 0), .none⟩]
    (ControlFree quoted.message.toList ∧ ControlFree led.message.toList) ∧
      (run v steps).map (fun r => splitAtAll '\n' (v.text r.state))
        = [quoted.lines ++ [[]], refused.lines ++ [[]], led.lines ++ [[]]] := by
  intro v listing refusal redirect quoted refused led steps
  have hlisting : Fetch.jobs Endpoint.standard listing = .error quoted := by decide +kernel
  have hrefusal : Fetch.jobs Endpoint.standard refusal = .error refused := by decide +kernel
  have hredirect : Fetch.jobs Endpoint.standard redirect = .error led := by decide +kernel
  have hfails : ∀ s ∈ steps, s.Fails := by
    simp only [steps, List.forall_mem_cons]
    exact ⟨⟨_, _, _, _, rfl, hlisting⟩, ⟨_, _, _, _, rfl, hrefusal⟩, ⟨_, _, _, _, rfl, hredirect⟩,
      fun _ hs => absurd hs List.not_mem_nil⟩
  obtain ⟨hmessages, hsessions⟩ := failures_are_told_in_four_lines
  have hrecords := hsessions (new v) steps rfl rfl hfails
  obtain ⟨⟨f, hf⟩, hrest⟩ := List.forall₂_cons.mp hrecords
  obtain ⟨⟨g, hg⟩, hrest⟩ := List.forall₂_cons.mp hrest
  obtain ⟨⟨k, hk⟩, -⟩ := List.forall₂_cons.mp hrest
  obtain rfl : quoted = f := Except.error.inj (hlisting.symm.trans (Option.some.inj hf.fetched))
  obtain rfl : refused = g := Except.error.inj (hrefusal.symm.trans (Option.some.inj hg.fetched))
  obtain rfl : led = k := Except.error.inj (hredirect.symm.trans (Option.some.inj hk.fetched))
  have hlines : (run v steps).map (fun r => splitAtAll '\n' (v.text r.state))
      = [quoted.lines ++ [[]], refused.lines ++ [[]], led.lines ++ [[]]] :=
    congrArg₂ List.cons hf.lines (congrArg₂ (fun a b => [a, b]) hg.lines hk.lines)
  exact ⟨⟨hmessages _ _ _ hlisting, hmessages _ _ _ hredirect⟩, hlines⟩

end Session
end QueueBoard
