import QueueBoard.Text.Invisible

/-! # Quoted texts

A text between double quotes. The quote, the backslash and the usual control characters have a
letter of their own, a character without a glyph is written by its number.
-/
namespace QueueBoard.Quoted
open Invisible

def hexDigits (n : Nat) : List Char := Nat.toDigits 16 n

/-- The number of a character in hexadecimal, as in `\\u{301}`. -/
def byNumber (c : Char) : List Char := ['\\', 'u', '\x7b'] ++ hexDigits c.toNat ++ ['\x7d']

def escape (c : Char) : List Char :=
  if c = '\x00' then ['\\', '0']
  else if c = '\t' then ['\\', 't']
  else if c = '\n' then ['\\', 'n']
  else if c = '\r' then ['\\', 'r']
  else if c = '"' then ['\\', '"']
  else if c = '\\' then ['\\', '\\']
  else if isInvisible c then byNumber c
  else [c]

def quote (text : String) : String := String.ofList ('"' :: text.toList.flatMap escape ++ ['"'])

end QueueBoard.Quoted
