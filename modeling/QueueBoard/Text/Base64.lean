import QueueBoard.Text.Utf8

/-! # Base 64

Three bytes are written as four signs of six bits each; at the end, missing signs are filled up.
-/
namespace QueueBoard.Base64

def sign (n : Nat) : Char :=
  if n < 26 then Char.ofNat (65 + n)
  else if n < 52 then Char.ofNat (71 + n)
  else if n < 62 then Char.ofNat (n - 4)
  else if n = 62 then '+' else '/'

def four (a b c : UInt8) : List Char :=
  [sign (a.toNat / 4), sign (a.toNat % 4 * 16 + b.toNat / 16), sign (b.toNat % 16 * 4 + c.toNat / 64),
    sign (c.toNat % 64)]

def encode : Bytes → List Char
  | [] => []
  | [a] => (four a 0 0).take 2 ++ ['=', '=']
  | [a, b] => (four a b 0).take 3 ++ ['=']
  | a :: b :: c :: rest => four a b c ++ encode rest

end QueueBoard.Base64
