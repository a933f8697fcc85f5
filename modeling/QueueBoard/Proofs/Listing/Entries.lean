import QueueBoard.Listing.Form

/-! # Entries of a listing

An entry is a record as the server writes it, whatever the shape of the record: a name and the text of a
state. The jobs of a listing are those of its entries.
-/
namespace QueueBoard.Listing

structure Entry where
  name : String
  /-- The text of the state. -/
  wire : String
deriving DecidableEq, Repr

def Entry.job (e : Entry) : Job := ⟨e.name, .ofWire e.wire⟩

def StateForm.wire : StateForm → String
  | bare name => name.text
  | tagged _ name _ _ _ => name.text

def Member.wire? (m : Member) : Option String :=
  match m.value with
  | .state form => some form.wire
  | _ => none

theorem StateForm.state_eq (form : StateForm) : form.state = .ofWire form.wire := by
  cases form <;> rfl

theorem Member.state?_eq (m : Member) : m.state? = m.wire?.map .ofWire := by
  unfold state? wire?
  cases m.value with
  | state form => exact congrArg some form.state_eq
  | _ => rfl

theorem map_wires (members : List Member) :
    (members.filterMap Member.wire?).map .ofWire = members.filterMap Member.state? := by
  rw [List.map_filterMap]
  exact congrArg (List.filterMap · members) (funext fun m => m.state?_eq.symm)

theorem wires_ne_nil {members : List Member} {state : JobState}
    (oneState : members.filterMap Member.state? = [state]) : members.filterMap Member.wire? ≠ [] := by
  intro h
  rw [← map_wires, h] at oneState
  cases oneState

def RecordForm.entry : RecordForm → Entry
  | map members name _ _ oneState =>
    ⟨name, (members.filterMap Member.wire?).head (wires_ne_nil oneState)⟩
  | pair _ name _ _ form _ => ⟨name.text, form.wire⟩

namespace Form

def entries (f : Form) : List Entry := f.elements.map (·.record.entry)

end Form
end QueueBoard.Listing
