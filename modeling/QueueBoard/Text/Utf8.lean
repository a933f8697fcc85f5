/-! # Bytes and UTF-8

A byte string is split from the left into well-formed sequences and maximal ill-formed pieces.
Strict reading stops at the first ill-formed piece and tells how many bytes were left there;
lenient reading puts U+FFFD in the place of each piece.
-/
namespace QueueBoard

abbrev Bytes := List UInt8

/-- The bytes of a text in UTF-8. -/
def bytesOf (text : String) : Bytes := text.toList.flatMap String.utf8EncodeChar

namespace Utf8

def isTail (b : UInt8) : Bool := 0x80 ≤ b && b ≤ 0xBF

/-- Six payload bits of a continuation byte. -/
def tailBits (b : UInt8) : Nat := b.toNat % 64

/-- The second bytes allowed after a lead byte of three: no overlong form, no surrogate. -/
def second3 (a b : UInt8) : Bool :=
  if a = 0xE0 then 0xA0 ≤ b && b ≤ 0xBF
  else if a = 0xED then 0x80 ≤ b && b ≤ 0x9F
  else isTail b

/-- The second bytes allowed after a lead byte of four: no overlong form, none past U+10FFFF. -/
def second4 (a b : UInt8) : Bool :=
  if a = 0xF0 then 0x90 ≤ b && b ≤ 0xBF
  else if a = 0xF4 then 0x80 ≤ b && b ≤ 0x8F
  else isTail b

/-- The first piece of `a :: r`: its character, or `none` for an ill-formed one, and what follows. -/
def next (a : UInt8) (r : Bytes) : Option Char × Bytes :=
  if a < 0x80 then (some (Char.ofNat a.toNat), r)
  else if 0xC2 ≤ a && a ≤ 0xDF then
    match r with
    | b :: r1 =>
      if isTail b then (some (Char.ofNat (a.toNat % 32 * 64 + tailBits b)), r1) else (none, r)
    | [] => (none, r)
  else if 0xE0 ≤ a && a ≤ 0xEF then
    match r with
    | b :: c :: r2 =>
      if second3 a b then
        if isTail c then
          (some (Char.ofNat (a.toNat % 16 * 4096 + tailBits b * 64 + tailBits c)), r2)
        else (none, c :: r2)
      else (none, r)
    | [b] => if second3 a b then (none, []) else (none, r)
    | [] => (none, r)
  else if 0xF0 ≤ a && a ≤ 0xF4 then
    match r with
    | b :: c :: d :: r3 =>
      if second4 a b then
        if isTail c then
          if isTail d then
            (some (Char.ofNat (a.toNat % 8 * 262144 + tailBits b * 4096 + tailBits c * 64 + tailBits d)),
              r3)
          else (none, d :: r3)
        else (none, c :: d :: r3)
      else (none, r)
    | [b, c] => if second4 a b then if isTail c then (none, []) else (none, [c]) else (none, r)
    | [b] => if second4 a b then (none, []) else (none, r)
    | [] => (none, r)
  else (none, r)

theorem next_length_le (a : UInt8) (r : Bytes) : (next a r).2.length ≤ r.length := by
  unfold next
  repeat' split
  all_goals simp <;> omega

/-- All characters, or the number of bytes left at the first ill-formed piece. -/
def strict : Bytes → Except Nat (List Char)
  | [] => .ok []
  | a :: r =>
    match (next a r).1 with
    | none => .error (r.length + 1)
    | some c => (strict (next a r).2).map (c :: ·)
termination_by s => s.length
decreasing_by
  have := next_length_le a r
  simp only [List.length_cons]
  omega

/-- The text with U+FFFD in the place of every ill-formed piece. -/
def lenient : Bytes → List Char
  | [] => []
  | a :: r => (next a r).1.getD '\uFFFD' :: lenient (next a r).2
termination_by s => s.length
decreasing_by
  have := next_length_le a r
  simp only [List.length_cons]
  omega

/-- A text if the bytes are well-formed. -/
def text? (s : Bytes) : Option String :=
  match strict s with
  | .ok cs => some (String.ofList cs)
  | .error _ => none

end Utf8
end QueueBoard
