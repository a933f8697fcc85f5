/-! # Numbers with 53 significant bits

A non-negative number is a mantissa below `2 ^ 53` times a power of two not below `2 ^ (-1074)`.
Each operation rounds the exact quotient of two naturals to the nearest such number, a tie to the
even mantissa, and has no result beyond the largest one.
-/
namespace QueueBoard

structure Binary64 where
  mantissa : Nat
  exponent : Int
deriving DecidableEq, Repr

namespace Binary64

/-- The least mantissa of 53 bits. -/
def normalBound : Nat := 4503599627370496

/-- The quotient rounded to the nearest natural, a tie to the even one. -/
def roundQuotient (num den : Nat) : Nat :=
  let q := num / den
  let twice := 2 * (num % den)
  if twice < den ∨ (twice = den ∧ q % 2 = 0) then q else q + 1

/-- Numerator and denominator of a quotient times a power of two. -/
def shift (num den : Nat) (power : Int) : Nat × Nat :=
  if 0 ≤ power then (num * Nat.pow 2 power.toNat, den) else (num, den * Nat.pow 2 (-power).toNat)

/-- The exponent of the largest power of two not above a positive quotient. -/
def floorLog (num den : Nat) : Int :=
  let guess : Int := (Nat.log2 num : Int) - Nat.log2 den
  let scaled := shift num den (-guess)
  if scaled.2 ≤ scaled.1 then guess else guess - 1

def zero : Binary64 := ⟨0, -1074⟩

/-- The number nearest to a quotient, unless it is too large. -/
def ofRatio (num den : Nat) : Option Binary64 :=
  if num = 0 then some zero
  else
    let unit := max (floorLog num den - 52) (-1074)
    let scaled := shift num den (-unit)
    let m := roundQuotient scaled.1 scaled.2
    let r : Binary64 := if m = 2 * normalBound then ⟨normalBound, unit + 1⟩ else ⟨m, unit⟩
    if r.exponent ≤ 971 then some r else none

def ofNat (n : Nat) : Option Binary64 := ofRatio n 1

def times (a b : Binary64) : Option Binary64 :=
  let r := shift (a.mantissa * b.mantissa) 1 (a.exponent + b.exponent)
  ofRatio r.1 r.2

def dividedBy (a b : Binary64) : Option Binary64 :=
  let r := shift a.mantissa b.mantissa (a.exponent - b.exponent)
  ofRatio r.1 r.2

/-- The number nearest to a power of ten. -/
def tenTo (k : Nat) : Option Binary64 := ofNat (Nat.pow 10 k)

/-- The largest power of ten in range. -/
def maxTen : Nat := 308

/-- A number divided by the largest power of ten in range. -/
def scaleDown (f : Binary64) : Option Binary64 := (tenTo maxTen).bind f.dividedBy

/-- A number times a power of ten, one rounding for each factor of at most `10 ^ 308`. -/
def scale (f : Binary64) (power : Int) : Option Binary64 :=
  if _hp : power.natAbs ≤ maxTen then
    if 0 ≤ power then (tenTo power.natAbs).bind f.times else (tenTo power.natAbs).bind f.dividedBy
  else if f.mantissa = 0 then some f
  else if _h0 : 0 ≤ power then none
  else (scaleDown f).bind (fun g => scale g (power + maxTen))
termination_by power.natAbs
decreasing_by
  simp only [maxTen] at _hp ⊢
  omega

end Binary64
end QueueBoard
