import QueueBoard.Json.Number

/-! # The grammar of documents

What a document may hold, told without the readers. Texts that are kept are spelled character by
character. Values that are passed over have to be values: their texts need not be UTF-8, their
escaped surrogates need not be paired and their numbers may have any size.
-/
namespace QueueBoard.Json

/-- Blanks between two tokens. -/
structure Gap where
  bytes : Bytes
  blank : ∀ b ∈ bytes, isBlank b = true

/-- One way to write a character of a text. -/
inductive Spelling
  | plain (c : Char) (h : c ≠ '"' ∧ c ≠ '\\' ∧ 0x20 ≤ c.toNat)
  | lettered (letter : UInt8) (c : Char) (h : lettered? letter = some c)
  | numbered (p q r s : UInt8) (n : Nat) (h : hexValue? p q r s = some n)
      (whole : isHighHalf n = false ∧ isLowHalf n = false)
  | paired (p q r s t u v w : UInt8) (high low : Nat) (first : hexValue? p q r s = some high)
      (second : hexValue? t u v w = some low)
      (halves : isHighHalf high = true ∧ isLowHalf low = true)

namespace Spelling

def char : Spelling → Char
  | plain c _ => c
  | lettered _ c _ => c
  | numbered _ _ _ _ n _ _ => Char.ofNat n
  | paired _ _ _ _ _ _ _ _ high low _ _ _ => joinHalves high low

def bytes : Spelling → Bytes
  | plain c _ => String.utf8EncodeChar c
  | lettered letter _ _ => [0x5C, letter]
  | numbered p q r s _ _ _ => [0x5C, 0x75, p, q, r, s]
  | paired p q r s t u v w _ _ _ _ _ => [0x5C, 0x75, p, q, r, s, 0x5C, 0x75, t, u, v, w]

end Spelling

/-- One way to write a text. -/
structure Wording where
  spellings : List Spelling

namespace Wording

def text (w : Wording) : String := String.ofList (w.spellings.map Spelling.char)

def bytes (w : Wording) : Bytes := 0x22 :: w.spellings.flatMap Spelling.bytes ++ [0x22]

end Wording

/-- The inside of a text that is passed over. -/
inductive LooseText : Bytes → Prop
  | nil : LooseText []
  | plain {b : UInt8} {s : Bytes} : isPlain b = true → LooseText s → LooseText (b :: s)
  | lettered {b : UInt8} {s : Bytes} :
      (lettered? b).isSome = true → LooseText s → LooseText (0x5C :: b :: s)
  | numbered {p q r t : UInt8} {s : Bytes} :
      (hexValue? p q r t).isSome = true → LooseText s → LooseText (0x5C :: 0x75 :: p :: q :: r :: t :: s)

def IsDigits (s : Bytes) : Prop := s ≠ [] ∧ ∀ b ∈ s, isDigit b = true

inductive IsWhole : Bytes → Prop
  | zero : IsWhole [0x30]
  | more {d : UInt8} {s : Bytes} :
      isDigit d = true → d ≠ 0x30 → (∀ b ∈ s, isDigit b = true) → IsWhole (d :: s)

inductive IsFraction : Bytes → Prop
  | none : IsFraction []
  | some {s : Bytes} : IsDigits s → IsFraction (0x2E :: s)

inductive IsExponent : Bytes → Prop
  | none : IsExponent []
  | unsigned {mark : UInt8} {s : Bytes} :
      isExponentMark mark = true → IsDigits s → IsExponent (mark :: s)
  | signed {mark sign : UInt8} {s : Bytes} :
      isExponentMark mark = true → sign = 0x2B ∨ sign = 0x2D → IsDigits s →
        IsExponent (mark :: sign :: s)

/-- A number without its sign. -/
def IsMagnitude (s : Bytes) : Prop :=
  ∃ whole fraction exponent, IsWhole whole ∧ IsFraction fraction ∧ IsExponent exponent ∧
    s = whole ++ fraction ++ exponent

inductive IsScalar : Bytes → Prop
  | wordNull : IsScalar (0x6E :: nullTail)
  | wordTrue : IsScalar (0x74 :: trueTail)
  | wordFalse : IsScalar (0x66 :: falseTail)
  | number {s : Bytes} : IsMagnitude s → IsScalar s
  | minus {s : Bytes} : IsMagnitude s → IsScalar (0x2D :: s)
  | text {s : Bytes} : LooseText s → IsScalar (0x22 :: s ++ [0x22])

mutual

/-- A value of any kind and depth, without blanks around it. -/
inductive IsValue : Bytes → Prop
  | scalar {s : Bytes} : IsScalar s → IsValue s
  | noElements (gap : Gap) : IsValue (0x5B :: gap.bytes ++ [0x5D])
  | elements {s : Bytes} : IsElements s → IsValue (0x5B :: s ++ [0x5D])
  | noMembers (gap : Gap) : IsValue (0x7B :: gap.bytes ++ [0x7D])
  | members {s : Bytes} : IsMembers s → IsValue (0x7B :: s ++ [0x7D])

inductive IsElements : Bytes → Prop
  | last {s : Bytes} (before after : Gap) :
      IsValue s → IsElements (before.bytes ++ s ++ after.bytes)
  | more {s r : Bytes} (before after : Gap) : IsValue s → IsElements r →
      IsElements (before.bytes ++ s ++ after.bytes ++ 0x2C :: r)

inductive IsMembers : Bytes → Prop
  | last {k s : Bytes} (before colon value after : Gap) : LooseText k → IsValue s →
      IsMembers (before.bytes ++ 0x22 :: k ++ 0x22 :: colon.bytes ++ 0x3A :: value.bytes ++ s
        ++ after.bytes)
  | more {k s r : Bytes} (before colon value after : Gap) : LooseText k → IsValue s → IsMembers r →
      IsMembers (before.bytes ++ 0x22 :: k ++ 0x22 :: colon.bytes ++ 0x3A :: value.bytes ++ s
        ++ after.bytes ++ 0x2C :: r)

end

end QueueBoard.Json
