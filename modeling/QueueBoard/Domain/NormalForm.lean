import QueueBoard.Domain.Composites

/-! # Normal form

Characters that are composed are taken apart, the marks after each other character are put into the
order of their classes, then all is composed again as far as it goes. So it does not matter in which
way a character with marks was given.
-/
namespace QueueBoard.Domain

/-- The class of a mark, zero for any other character. -/
def markClass (c : Char) : Nat := (markClasses.lookup? c.toNat).getD 0

/-! Korean syllables are composed of two or three letters by arithmetic. -/

namespace Syllable

def first : Nat := 0xac00

def count : Nat := 11172

/-- The leading letters, the vowels, and what stands for no closing letter. -/
def leads : Nat := 0x1100

def vowels : Nat := 0x1161

def closings : Nat := 0x11a7

def parts? (n : Nat) : Option (List Nat) :=
  if first ≤ n ∧ n < first + count then
    let i := n - first
    let start := [leads + i / 588, vowels + i % 588 / 28]
    some (if i % 28 = 0 then start else start ++ [closings + i % 28])
  else none

def compose? (a b : Nat) : Option Nat :=
  if leads ≤ a ∧ a < leads + 19 ∧ vowels ≤ b ∧ b < vowels + 21 then
    some (first + (a - leads) * 588 + (b - vowels) * 28)
  else if first ≤ a ∧ a < first + count ∧ (a - first) % 28 = 0 ∧ closings < b ∧ b < closings + 28 then
    some (a + (b - closings))
  else none

end Syllable

/-- A code point taken apart, as often as `depth` says. -/
def parts (depth n : Nat) : List Nat :=
  match depth, Syllable.parts? n, composites.find? (·.1 = n) with
  | 0, _, _ => [n]
  | _, some ns, _ => ns
  | depth + 1, none, some (_, a, b) => parts depth a ++ [b]
  | _, none, none => [n]

/-- No character is composed more often than this. -/
def deepest : Nat := 3

def takeApart (c : Char) : List Char := (parts deepest c.toNat).map Char.ofNat

/-- A character put in its place in front of characters that are in order. -/
def insertMark (c : Char) : List Char → List Char
  | [] => [c]
  | d :: ds =>
    if 0 < markClass d ∧ markClass d < markClass c then d :: insertMark c ds else c :: d :: ds

def order (cs : List Char) : List Char := cs.foldr insertMark []

def pair? (a b : Char) : Option Char :=
  match Syllable.compose? a.toNat b.toNat with
  | some n => some (Char.ofNat n)
  | none =>
    (composites.find? (fun p => p.2.1 = a.toNat ∧ p.2.2 = b.toNat)).map (fun p => Char.ofNat p.1)

/-- Whether the next character is next to the one before the marks, last one first. -/
def reaches (marks : List Char) (c : Char) : Bool :=
  match marks with
  | [] => true
  | mark :: _ => markClass mark < markClass c

/-- The composed text of a character, the marks after it that stay, last one first, and what follows. -/
def composeFrom (start : Char) (marks : List Char) : List Char → List Char
  | [] => start :: marks.reverse
  | c :: cs =>
    match if reaches marks c then pair? start c else none with
    | some d => composeFrom d marks cs
    | none =>
      if markClass c = 0 then start :: (marks.reverse ++ composeFrom c [] cs)
      else composeFrom start (c :: marks) cs

def compose : List Char → List Char
  | [] => []
  | c :: cs => composeFrom c [] cs

def normalForm (cs : List Char) : List Char := compose (order (cs.flatMap takeApart))

end QueueBoard.Domain
