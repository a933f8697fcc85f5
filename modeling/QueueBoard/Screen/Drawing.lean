import QueueBoard.Screen.Frame
import QueueBoard.Log

/-! # Drawings

A frame is drawn in writes, each of which may stop the drawing. What has been written by then stays.
-/
namespace QueueBoard

/-- What may go wrong while one frame is drawn. -/
structure Faults where
  /-- The number of bytes the writer accepts. -/
  budget : Option Nat
  flushFails : Bool
  writerPanics : Bool
deriving DecidableEq, Repr

def Faults.none : Faults := ⟨.none, false, false⟩

inductive WriteFault
  | diskFull
  | flushFailed
deriving DecidableEq, Repr

def WriteFault.message : WriteFault → String
  | diskFull => "disk full"
  | flushFailed => "flush failed"

inductive Ending
  | drawn
  | failed (fault : WriteFault)
  | panicked
deriving DecidableEq, Repr

structure Drawing where
  bytes : Bytes
  ending : Ending
deriving DecidableEq, Repr

namespace Drawing

/-- Makes the writes one by one; the first that finds too little room fills it and is the last. -/
def writeAll (budget : Option Nat) : List Bytes → Bytes × Bool
  | [] => ([], true)
  | w :: ws =>
    match budget with
    | none => let rest := writeAll none ws; (w ++ rest.1, rest.2)
    | some room =>
      if w.length ≤ room then
        let rest := writeAll (some (room - w.length)) ws
        (w ++ rest.1, rest.2)
      else (w.take room, false)

/-- Makes all writes and flushes them. -/
def perform (faults : Faults) (writes : List Bytes) : Drawing :=
  if faults.writerPanics ∧ writes ≠ [] then ⟨[], .panicked⟩
  else
    match writeAll faults.budget writes with
    | (bytes, false) => ⟨bytes, .failed .diskFull⟩
    | (bytes, true) => ⟨bytes, if faults.flushFails then .failed .flushFailed else .drawn⟩

def log (d : Drawing) : List LogLine :=
  match d.ending with
  | .failed fault => [⟨.warn, "Failed to write display: " ++ fault.message⟩]
  | _ => []

end Drawing

def View.draw (v : View) (faults : Faults) (s : PollState) : Drawing := .perform faults (v.writes s)

end QueueBoard
