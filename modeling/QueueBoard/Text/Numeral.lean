/-! # Bounded numerals

An unsigned decimal numeral: at most one plus sign, then one or more ASCII digits, any number of
leading zeros included. A numeral above the bound is not one.
-/
namespace QueueBoard.Numeral

def digit? (c : Char) : Option Nat :=
  if '0' ≤ c ∧ c ≤ '9' then some (c.toNat - 48) else none

/-- The value of a digit string written after the value so far. -/
def digitsFrom : Nat → List Char → Option Nat
  | n, [] => some n
  | n, c :: cs => (digit? c).bind (fun d => digitsFrom (n * 10 + d) cs)

def unsigned? : List Char → Option Nat
  | [] => none
  | c :: cs => digitsFrom 0 (c :: cs)

def value? : List Char → Option Nat
  | '+' :: cs => unsigned? cs
  | cs => unsigned? cs

def bounded? (bound : Nat) (text : String) : Option Nat :=
  (value? text.toList).filter (· ≤ bound)

/-- The largest number of eight bytes. -/
def wordBound : Nat := 18446744073709551615

end QueueBoard.Numeral
