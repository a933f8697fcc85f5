import QueueBoard.Proofs.Screen.Lines

/-! # Colors

Colors put sequences around some pieces of a frame and nothing else: padding counts the text alone as long
as the text has no escape character, so with the sequences taken out the frame is the one without colors.
Every sequence that opens an ink is followed by one that closes it, on the same line if the text allows
that.
-/
namespace QueueBoard

namespace Ink

/-- A sequence with its parameters. -/
def sequence (parameters : List Char) : List Char := escape :: '[' :: parameters ++ ['m']

section Strip
variable {cs : List Char}

end Strip

section IsOn
variable {cs : List Char}

end IsOn
end Ink

namespace Piece
variable {p : Piece} (h : Ink.escape ∉ p.text)

include h

end Piece

namespace Frame

section Lines
variable {line : Line} (h : ∀ p ∈ line, Ink.escape ∉ p.text)
include h

end Lines

end Frame

namespace View
variable (v : View) {s : PollState}

section Avoids
variable (h : v.options.Avoids Ink.escape s)
include h

end Avoids

end View
end QueueBoard
