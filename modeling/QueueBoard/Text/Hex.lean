/-! # Hexadecimal digits

Digits are given by their character codes, so that bytes and characters share them.
-/
namespace QueueBoard.Hex

/-- The value of a digit in either case. -/
def digit? (code : Nat) : Option Nat :=
  if 0x30 ≤ code ∧ code ≤ 0x39 then some (code - 0x30)
  else if 0x41 ≤ code ∧ code ≤ 0x46 then some (code - 0x37)
  else if 0x61 ≤ code ∧ code ≤ 0x66 then some (code - 0x57)
  else none

end QueueBoard.Hex
