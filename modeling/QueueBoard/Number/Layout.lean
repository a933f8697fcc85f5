import QueueBoard.Number.Shortest

/-! # Layout of a decimal number

Which powers are written positionally, and how the others carry their exponent, are fields of a
layout; the digits are the shortest ones.
-/
namespace QueueBoard

structure Layout where
  /-- The first digit of a positional number stands at `10 ^ lowest` or above. -/
  lowest : Int
  /-- The first digit of a positional number stands at `10 ^ highest` or below. -/
  highest : Int
  mark : Char
  /-- A positive exponent carries a plus sign. -/
  plus : Bool

namespace Layout

def natDigits (n : Nat) : List Char := Nat.toDigits 10 n

def dropTrailingZeros (cs : List Char) : List Char := (cs.reverse.dropWhile (· = '0')).reverse

def exponentText (l : Layout) (e : Int) : List Char :=
  l.mark :: (if e < 0 then ['-'] else if l.plus then ['+'] else []) ++ natDigits e.natAbs

/-- A whole number keeps a zero after the point. -/
def positional (cs : List Char) (lead : Int) : List Char :=
  if lead < 0 then '0' :: '.' :: List.replicate (lead.natAbs - 1) '0' ++ cs
  else
    let whole := lead.toNat + 1
    if cs.length ≤ whole then cs ++ List.replicate (whole - cs.length) '0' ++ ['.', '0']
    else cs.take whole ++ '.' :: cs.drop whole

def scientific (l : Layout) (cs : List Char) (lead : Int) : List Char :=
  cs.take 1 ++ (if cs.length ≤ 1 then [] else '.' :: cs.drop 1) ++ l.exponentText lead

def decimalText (l : Layout) (d : Decimal) : List Char :=
  let cs := natDigits d.digits
  let lead := d.power + cs.length - 1
  let significant := dropTrailingZeros cs
  if l.lowest ≤ lead ∧ lead ≤ l.highest then positional significant lead
  else l.scientific significant lead

def text (l : Layout) (negative : Bool) (f : Binary64) : String :=
  let body := if f.mantissa = 0 then ['0', '.', '0'] else l.decimalText (Shortest.decimal f)
  String.ofList (if negative then '-' :: body else body)

end Layout
end QueueBoard
