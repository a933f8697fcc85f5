/-! # Transcripts

A transcript is what has been drawn of several frames. It is cut after every empty line.
-/
namespace QueueBoard.Transcript

/-- The parts of a text that goes on here; `fresh` tells whether a line starts here. -/
def cut (fresh : Bool) : List Char → List (List Char)
  | [] => []
  | c :: cs =>
    if c = '\n' ∧ fresh then [c] :: cut true cs
    else
      match cut (c = '\n') cs with
      | [] => [[c]]
      | p :: ps => (c :: p) :: ps

/-- The parts up to an empty line each, and what is left. -/
def parts (text : List Char) : List (List Char) := cut true text

/-- The text up to its `count`-th empty line. -/
def through (count : Nat) (text : List Char) : List Char := ((parts text).take count).flatten

end QueueBoard.Transcript
