import QueueBoard.Text.Utf8
import QueueBoard.Text.Hex

/-! # Percent escapes

A byte outside a set of safe ASCII bytes is written as a percent sign and two hexadecimal digits. No
set of safe bytes holds a control character, so no escaped text does.
-/
namespace QueueBoard.Url

def upperHex (n : Nat) : Char := if n < 10 then Char.ofNat (48 + n) else Char.ofNat (55 + n)

def escapeByte (b : UInt8) : List Char := ['%', upperHex (b.toNat / 16), upperHex (b.toNat % 16)]

/-- Printable ASCII, the space included. -/
def isPrintable (b : UInt8) : Bool := 0x20 ≤ b && b ≤ 0x7E

/-- The text with every byte escaped that is not printable ASCII or is one of `unsafeBytes`. -/
def escapeWith (unsafeBytes : List Char) (cs : List Char) : List Char :=
  (bytesOf (String.ofList cs)).flatMap (fun b =>
    if isPrintable b && !unsafeBytes.contains (Char.ofNat b.toNat) then [Char.ofNat b.toNat]
    else escapeByte b)

def escapeOpaque : List Char → List Char := escapeWith []

def escapeFragment : List Char → List Char := escapeWith [' ', '"', '<', '>', '\x60']

def escapePath : List Char → List Char :=
  escapeWith [' ', '"', '<', '>', '\x60', '#', '?', '\x7b', '\x7d']

def escapeCredentials : List Char → List Char :=
  escapeWith [' ', '"', '<', '>', '\x60', '#', '?', '\x7b', '\x7d', '/', ':', ';', '=', '@', '[', '\\', ']',
    '^', '|']

def escapeQuery : List Char → List Char := escapeWith [' ', '"', '#', '<', '>']

def escapeSpecialQuery : List Char → List Char := escapeWith [' ', '"', '#', '<', '>', '\'']

/-- The bytes with every escape replaced by its byte; a percent sign without two digits stays. -/
def unescape : List Char → Bytes
  | [] => []
  | '%' :: a :: b :: cs =>
    match Hex.digit? a.toNat, Hex.digit? b.toNat with
    | some x, some y => UInt8.ofNat (x * 16 + y) :: unescape cs
    | _, _ => 0x25 :: unescape (a :: b :: cs)
  | c :: cs => bytesOf (String.singleton c) ++ unescape cs

end QueueBoard.Url
