import QueueBoard.Board.Item
import QueueBoard.Screen.Ink
import QueueBoard.Text.Utf8

/-! # Frames

A frame is what is drawn of one poll state: the status line, a rule, the items and an empty line. It
is laid out in pieces with an ink and a least width; whether the inks are used is decided when the
pieces are drawn.
-/
namespace QueueBoard

structure Piece where
  ink : Option Ink
  width : Nat
  text : List Char
deriving DecidableEq, Repr

namespace Piece

def plain (text : List Char) : Piece := ⟨none, 0, text⟩

def inked (ink : Ink) (text : List Char) : Piece := ⟨some ink, 0, text⟩

/-- The text with blanks behind it up to the width. -/
def pad (width : Nat) (text : List Char) : List Char :=
  text ++ List.replicate (width - text.length) ' '

/-- Blanks are added inside the ink and count what stands there. -/
def draw (color : Bool) (p : Piece) : List Char :=
  match p.ink with
  | some ink =>
    if color then ink.opening ++ pad p.width (ink.reopen p.text) ++ Ink.closing
    else pad p.width p.text
  | none => pad p.width p.text

end Piece

abbrev Line := List Piece

abbrev Frame := List Line

namespace Frame

def labelWidth : Nat := 20

def rule : List Char := List.replicate 40 '─'

def ink : Category → Ink
  | .queued => .yellow
  | .processing => .cyan
  | .done => .green
  | .failed => .red

def jobLine (view : JobView) : Line :=
  match view.style with
  | some style =>
    [.plain [' ', ' '], .inked .cyan ['▸'], .plain [' '],
      ⟨some (ink view.category), labelWidth, view.label.toList⟩, .plain [' '],
      .inked .dimmed style.job.toList]
  | none => [.plain [' ', ' '], .plain view.label.toList]

def itemLine : Item → Line
  | .loading => [.inked .dimmed Item.loading.text.toList]
  | .error message => [.inked .red (Item.error message).text.toList]
  | .empty => [.inked .yellow Item.empty.text.toList]
  | .job view => jobLine view

def ofItems (status : String) (items : List Item) : Frame :=
  [.inked .bold status.toList] :: [.inked .dimmed rule] :: items.map itemLine ++ [[]]

/-- The writes of a line, of which the last one ends it. -/
def lineWrites (color : Bool) (line : Line) : List (List Char) :=
  line.map (Piece.draw color) ++ [['\n']]

/-- The writes of a frame in their order. -/
def writes (color : Bool) (frame : Frame) : List (List Char) := frame.flatMap (lineWrites color)

def text (color : Bool) (frame : Frame) : List Char := (frame.writes color).flatten

end Frame

/-- How poll states are drawn. -/
structure View where
  options : RenderOptions
  color : Bool
  /-- The minutes of local time east of UTC. -/
  offset : Int
deriving DecidableEq, Repr

namespace View

def frame (v : View) (s : PollState) : Frame :=
  .ofItems (s.statusLine v.offset) (v.options.items s)

def writes (v : View) (s : PollState) : List Bytes :=
  ((v.frame s).writes v.color).map (fun cs => bytesOf (String.ofList cs))

def text (v : View) (s : PollState) : List Char := (v.frame s).text v.color

end View
end QueueBoard
