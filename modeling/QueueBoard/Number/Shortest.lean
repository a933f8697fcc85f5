import QueueBoard.Number.Binary64

/-! # Fewest digits

A positive number with 53 significant bits stands for all reals that round to it. Its shortest
decimal is the one with the fewest digits among those reals, and of two the nearer. For each count
of digits the two neighbours of the number on that decimal grid are the only candidates.
-/
namespace QueueBoard

/-- The number `digits · 10 ^ power`. -/
structure Decimal where
  digits : Nat
  power : Int
deriving DecidableEq, Repr

namespace Shortest
open Binary64

/-- The reals that round to a number, in units of a quarter of its last place. -/
structure Interval where
  low : Nat
  middle : Nat
  high : Nat
  closed : Bool
  unit : Int

def interval (f : Binary64) : Interval where
  low := if f.mantissa = Binary64.normalBound ∧ -1074 < f.exponent then 4 * f.mantissa - 1 else 4 * f.mantissa - 2
  middle := 4 * f.mantissa
  high := 4 * f.mantissa + 2
  closed := f.mantissa % 2 = 0
  unit := f.exponent - 2

/-- Numerator and denominator of `n · 2 ^ unit / 10 ^ power`. -/
def onGrid (n : Nat) (unit power : Int) : Nat × Nat :=
  let r := shift n 1 unit
  if 0 ≤ power then (r.1, r.2 * Nat.pow 10 power.toNat) else (r.1 * Nat.pow 10 (-power).toNat, r.2)

def contains (i : Interval) (power : Int) (k : Nat) : Bool :=
  let low := onGrid i.low i.unit power
  let high := onGrid i.high i.unit power
  if i.closed then low.1 ≤ k * low.2 && k * high.2 ≤ high.1
  else low.1 < k * low.2 && k * high.2 < high.1

/-- The candidate on the grid of `10 ^ power`, the even one of two equally near. -/
def candidate? (i : Interval) (power : Int) : Option Nat :=
  let v := onGrid i.middle i.unit power
  let k := v.1 / v.2
  let twice := 2 * (v.1 % v.2)
  match contains i power k, contains i power (k + 1) with
  | true, false => some k
  | false, true => some (k + 1)
  | true, true => some (if twice < v.2 ∨ (twice = v.2 ∧ k % 2 = 0) then k else k + 1)
  | false, false => none

/-- Count of decimal digits. -/
def width (n : Nat) : Nat := (Nat.toDigits 10 n).length

/-- The decimal exponent of the first digit of a positive number. -/
def leadPower (f : Binary64) : Int :=
  let v := shift f.mantissa 1 f.exponent
  if v.2 ≤ v.1 then (width (v.1 / v.2) : Int) - 1
  else -(width ((v.2 + v.1 - 1) / v.1 - 1) : Int)

/-- Digits are tried from `count` up; seventeen always suffice. -/
def search (i : Interval) (lead : Int) : Nat → Nat → Decimal
  | 0, _ => ⟨i.middle, 0⟩
  | fuel + 1, count =>
    let power := lead - (count : Int) + 1
    match candidate? i power with
    | some k => if k = 0 then search i lead fuel (count + 1) else ⟨k, power⟩
    | none => search i lead fuel (count + 1)

def decimal (f : Binary64) : Decimal := search (interval f) (leadPower f) 17 1

end Shortest
end QueueBoard
