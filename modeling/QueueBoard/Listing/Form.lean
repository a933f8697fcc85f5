import QueueBoard.Job
import QueueBoard.Json.Grammar

/-! # Forms of a listing

A form is a listing as it may be written: its records in either shape, the members of a map in any
order and among others, every text in one of its spellings and blanks between all tokens. A form has
bytes and stands for jobs.
-/
namespace QueueBoard.Listing
open Json

def commaSeparated : List Bytes → Bytes
  | [] => []
  | [s] => s
  | s :: t :: rest => s ++ 0x2C :: commaSeparated (t :: rest)

/-- A state is its name, or a map from its name to null. -/
inductive StateForm
  | bare (name : Wording)
  | tagged (beforeKey : Gap) (name : Wording) (beforeColon beforeNull afterNull : Gap)

namespace StateForm

def state : StateForm → JobState
  | bare name => .ofWire name.text
  | tagged _ name _ _ _ => .ofWire name.text

def bytes : StateForm → Bytes
  | bare name => name.bytes
  | tagged beforeKey name beforeColon beforeNull afterNull =>
    0x7B :: beforeKey.bytes ++ name.bytes ++ beforeColon.bytes ++ 0x3A :: beforeNull.bytes
      ++ 0x6E :: nullTail ++ afterNull.bytes ++ [0x7D]

end StateForm

inductive MemberValue
  | name (w : Wording)
  | state (form : StateForm)
  | other (s : Bytes) (h : IsValue s)

namespace MemberValue

def bytes : MemberValue → Bytes
  | name w => w.bytes
  | state form => form.bytes
  | other s _ => s

/-- The keys a value of this kind may stand under. -/
def Fits (key : String) : MemberValue → Prop
  | name _ => key = "name"
  | state _ => key = "state"
  | other _ _ => key ≠ "name" ∧ key ≠ "state"

end MemberValue

structure Member where
  before : Gap
  key : Wording
  beforeColon : Gap
  beforeValue : Gap
  value : MemberValue
  after : Gap
  fits : value.Fits key.text

namespace Member

def bytes (m : Member) : Bytes :=
  m.before.bytes ++ m.key.bytes ++ m.beforeColon.bytes ++ 0x3A :: m.beforeValue.bytes
    ++ m.value.bytes ++ m.after.bytes

def name? (m : Member) : Option String :=
  match m.value with
  | .name w => some w.text
  | _ => none

def state? (m : Member) : Option JobState :=
  match m.value with
  | .state form => some form.state
  | _ => none

end Member

inductive RecordForm
  /-- A map has one name and one state. -/
  | map (members : List Member) (name : String) (state : JobState)
      (oneName : members.filterMap Member.name? = [name])
      (oneState : members.filterMap Member.state? = [state])
  | pair (beforeName : Gap) (name : Wording) (afterName beforeState : Gap) (form : StateForm)
      (afterState : Gap)

namespace RecordForm

def job : RecordForm → Job
  | map _ name state _ _ => ⟨name, state⟩
  | pair _ name _ _ form _ => ⟨name.text, form.state⟩

def bytes : RecordForm → Bytes
  | map members _ _ _ _ => 0x7B :: commaSeparated (members.map Member.bytes) ++ [0x7D]
  | pair beforeName name afterName beforeState form afterState =>
    0x5B :: beforeName.bytes ++ name.bytes ++ afterName.bytes ++ 0x2C :: beforeState.bytes
      ++ form.bytes ++ afterState.bytes ++ [0x5D]

end RecordForm

/-- An element of a listing with the blanks around it. -/
structure Element where
  before : Gap
  record : RecordForm
  after : Gap

def Element.bytes (e : Element) : Bytes := e.before.bytes ++ e.record.bytes ++ e.after.bytes

structure Form where
  before : Gap
  /-- The blanks between the brackets of an empty listing. -/
  inside : Gap
  elements : List Element
  after : Gap

namespace Form

def jobs (f : Form) : List Job := f.elements.map (·.record.job)

def inner (f : Form) : Bytes :=
  match f.elements with
  | [] => f.inside.bytes
  | es => commaSeparated (es.map Element.bytes)

def bytes (f : Form) : Bytes := f.before.bytes ++ 0x5B :: f.inner ++ 0x5D :: f.after.bytes

end Form
end QueueBoard.Listing
