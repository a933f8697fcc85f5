import QueueBoard.Fetch.Jobs
import QueueBoard.Proofs.Board.Items
import QueueBoard.Proofs.Listing.Decoding
import QueueBoard.Proofs.Listing.Entries
import QueueBoard.Proofs.Screen.Drawings

/-! # Rows of a listing

The frame of a listing that has been fetched has a row for each of its entries, in their order. Between
the body and the row the text of a state is read as a state, put in a category and named by a class;
where all of that leads is told here by the text alone.
-/
namespace QueueBoard

namespace Frame

/-- What is drawn of a line up to its end. -/
def lineText (color : Bool) (line : Line) : List Char := line.flatMap (Piece.draw color)

theorem text_eq_flatMap (color : Bool) (frame : Frame) :
    frame.text color = frame.flatMap (fun line => lineText color line ++ ['\n']) := by
  have hline (line : Line) : (lineWrites color line).flatten = lineText color line ++ ['\n'] := by
    simp [lineWrites, lineText, List.flatMap_def]
  rw [text, writes, ← List.flatMap_id, List.flatMap_assoc]
  simp only [List.flatMap_id, hline]

/-- Without inks a frame is its status line, the rule, a line for each item and an empty line. -/
theorem text_ofItems (status : String) (items : List Item) :
    (ofItems status items).text false
      = status.toList ++ '\n' :: List.replicate 40 '─'
        ++ '\n' :: items.flatMap (fun item => lineText false (itemLine item) ++ ['\n']) ++ ['\n'] := by
  rw [text_eq_flatMap]
  simp [ofItems, lineText, Piece.draw, Piece.inked, Piece.pad, rule, List.flatMap_map]

end Frame

namespace Listing.Entry

end Listing.Entry

namespace Listing
variable {endpoint : String} {answer : Http.Answer} {reply : Http.Reply} {f : Form}

end Listing
end QueueBoard
