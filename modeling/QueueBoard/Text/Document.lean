import QueueBoard.Text.Utf8

/-! # Texts of documents

A document is read leniently. The mark at its start tells its encoding and is not part of the text.
Without a mark it is in UTF-8, unless it is known to be in another encoding.
-/
namespace QueueBoard.Document

/-- The units of two bytes, and whether a byte is left over. -/
def units (bigEndian : Bool) : Bytes → List Nat × Bool
  | [] => ([], false)
  | [_] => ([], true)
  | a :: b :: rest =>
    let unit := if bigEndian then a.toNat * 256 + b.toNat else b.toNat * 256 + a.toNat
    let (us, odd) := units bigEndian rest
    (unit :: us, odd)

def isHigh (unit : Nat) : Bool := 0xD800 ≤ unit && unit < 0xDC00

def isLow (unit : Nat) : Bool := 0xDC00 ≤ unit && unit < 0xE000

/-- The text of some units. Whatever is incomplete at the end counts as one ill-formed piece. -/
def ofUnits (odd : Bool) : List Nat → List Char
  | [] => if odd then ['\uFFFD'] else []
  | [unit] =>
    if isHigh unit then ['\uFFFD']
    else (if isLow unit then '\uFFFD' else Char.ofNat unit) :: ofUnits odd []
  | unit :: next :: rest =>
    if isHigh unit then
      if isLow next then
        Char.ofNat ((unit - 0xD800) * 1024 + (next - 0xDC00) + 0x10000) :: ofUnits odd rest
      else '\uFFFD' :: ofUnits odd (next :: rest)
    else (if isLow unit then '\uFFFD' else Char.ofNat unit) :: ofUnits odd (next :: rest)

def wideText (bigEndian : Bool) (s : Bytes) : List Char :=
  ofUnits (units bigEndian s).2 (units bigEndian s).1

/-- The text of a document for which there may be a decoder of its own. -/
def text (decoder? : Option (Bytes → List Char)) (s : Bytes) : String :=
  String.ofList (match s with
    | 0xEF :: 0xBB :: 0xBF :: rest => Utf8.lenient rest
    | 0xFF :: 0xFE :: rest => wideText false rest
    | 0xFE :: 0xFF :: rest => wideText true rest
    | _ => decoder?.getD Utf8.lenient s)

end QueueBoard.Document
