/-! # Ranges of code points

A set of code points is a list of inclusive ranges, ascending and apart from each other. A table gives
every range a value.
-/
namespace QueueBoard

abbrev CodeRanges := List (Nat × Nat)

/-- Whether a code point is in one of the ranges. -/
def CodeRanges.covers : CodeRanges → Nat → Bool
  | [], _ => false
  | (low, high) :: rest, n => if n < low then false else n ≤ high || covers rest n

abbrev CodeTable (α : Type) := List (Nat × Nat × α)

/-- The value of the range a code point is in. -/
def CodeTable.lookup? {α : Type} : CodeTable α → Nat → Option α
  | [], _ => none
  | (low, high, value) :: rest, n =>
    if n < low then none else if n ≤ high then some value else lookup? rest n

end QueueBoard
