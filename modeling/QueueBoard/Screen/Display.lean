import QueueBoard.Locked
import QueueBoard.Screen.Drawing

/-! # Displays

A display draws all its frames on one writer, which it keeps under a lock. A writer that panics breaks
off the drawing with the lock held; the next drawing recovers the writer and goes on behind what has
been written.
-/
namespace QueueBoard

structure Display where
  view : View
  /-- All that the writer has taken. -/
  out : Locked Bytes

namespace Display

def new (v : View) : Display := ⟨v, ⟨[], false⟩⟩

/-- Draws a poll state with a writer that has some faults meanwhile. -/
def draw (d : Display) (faults : Faults) (s : PollState) : Display × Drawing :=
  let written := d.out.recover
  let drawing := d.view.draw faults s
  let brokeOff : Bool := drawing.ending = .panicked
  ({ d with out := ⟨written ++ drawing.bytes, d.out.poisoned || brokeOff⟩ }, drawing)

end Display
end QueueBoard
