/-! # Inks

An inked text stands between an opening and a closing sequence. A closing sequence inside the text is
followed by another opening one, so that the ink goes on behind it.
-/
namespace QueueBoard

inductive Ink
  | bold
  | dimmed
  | red
  | green
  | yellow
  | cyan
deriving DecidableEq, Repr

namespace Ink

def code : Ink → List Char
  | bold => ['1']
  | dimmed => ['2']
  | red => ['3', '1']
  | green => ['3', '2']
  | yellow => ['3', '3']
  | cyan => ['3', '6']

def escape : Char := '\x1B'

def opening (ink : Ink) : List Char := escape :: '[' :: ink.code ++ ['m']

def closing : List Char := [escape, '[', '0', 'm']

/-- The text with an opening sequence after every closing one. -/
def reopen (ink : Ink) : List Char → List Char
  | [] => []
  | '\x1B' :: '[' :: '0' :: 'm' :: cs => closing ++ ink.opening ++ reopen ink cs
  | c :: cs => c :: reopen ink cs

end Ink
end QueueBoard
