import QueueBoard.Proofs.Poller.Outcomes

/-! # What the log tells of the cycles

The log has a line for the start of every cycle, and the numbers in these lines go up by one from one
on. When a cycle is completed, one line reports how, and of the two ways in which this is told the one
goes together with a notice to the display and the other one does not. Nothing else is logged about a
cycle, so the lines of a log can be counted to tell what has become of all cycles.
-/
namespace QueueBoard

/-- Whether the text of a line begins with another one. -/
def LogLine.begins (start : String) (l : LogLine) : Bool := start.toList.isPrefixOf l.text.toList

/-- Whether a line tells what has become of a cycle. -/
def LogLine.reports (cycle : Nat) (l : LogLine) : Bool :=
  l.begins ("Poll cycle " ++ toString cycle ++ " ")
    || l.begins ("Discarding result of poll cycle " ++ toString cycle ++ " ")

namespace Poller

section Numerals
variable {k c : Nat} {rest : List Char}

end Numerals

section Lines
variable (cycle : Nat) (outcome : Fetch.Outcome) (verdict : Verdict)

end Lines

section Events
variable (e : Event)

end Events

namespace Accounted
variable {past : List Event} {p : Poller} (h : Accounted past p)
include h

end Accounted

end Poller
end QueueBoard
