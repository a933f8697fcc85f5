import QueueBoard.Domain.Marks

/-! # Directions

Characters are written to the right, to the left, or either way, as signs are and most marks. A name
with characters written to the left is mixed. A label of a mixed name has to keep to the direction of
its first character, and a number at its end belongs to it.
-/
namespace QueueBoard.Domain

inductive Direction
  /-- Letters written from left to right. -/
  | rightward
  /-- Letters written from right to left. -/
  | leftward
  | digit
  /-- Digits that are used among letters written from right to left only. -/
  | arabicDigit
  | sign
  | mark
deriving DecidableEq, Repr

namespace Direction

/-- The directions of the characters that are kept and are no nonspacing marks; all others are written
from left to right. -/
def table : CodeTable Direction := [
  (0x0, 0x2f, .sign), (0x30, 0x39, .digit), (0x3a, 0x60, .sign), (0x7b, 0xd7, .sign),
  (0xf7, 0xf7, .sign), (0x2b9, 0x2ba, .sign), (0x2c2, 0x2cf, .sign), (0x2d2, 0x2ed, .sign),
  (0x2ef, 0x2ff, .sign), (0x375, 0x375, .sign), (0x3f6, 0x3f6, .sign), (0x58a, 0x58f, .sign),
  (0x5be, 0x5f4, .leftward), (0x606, 0x607, .sign), (0x608, 0x608, .leftward),
  (0x609, 0x60a, .sign), (0x60b, 0x60b, .leftward), (0x60c, 0x60c, .sign),
  (0x60d, 0x60d, .leftward), (0x60e, 0x60f, .sign), (0x61b, 0x64a, .leftward),
  (0x660, 0x669, .arabicDigit), (0x66a, 0x66a, .sign), (0x66b, 0x66c, .arabicDigit),
  (0x66d, 0x6d5, .leftward), (0x6de, 0x6de, .sign), (0x6e5, 0x6e6, .leftward),
  (0x6e9, 0x6e9, .sign), (0x6ee, 0x6ef, .leftward), (0x6f0, 0x6f9, .digit),
  (0x6fa, 0x7f5, .leftward), (0x7f6, 0x7f9, .sign), (0x7fa, 0x8c9, .leftward),
  (0x9f2, 0x9f3, .sign), (0x9fb, 0x9fb, .sign), (0xaf1, 0xaf1, .sign), (0xbf3, 0xbfa, .sign),
  (0xc78, 0xc7e, .sign), (0xe3f, 0xe3f, .sign), (0xf3a, 0xf3d, .sign), (0x1390, 0x1399, .sign),
  (0x1400, 0x1400, .sign), (0x169b, 0x169c, .sign), (0x17db, 0x17db, .sign),
  (0x17f0, 0x180a, .sign), (0x1940, 0x1945, .sign), (0x19de, 0x19ff, .sign),
  (0x200c, 0x214d, .sign), (0x218a, 0x2335, .sign), (0x237b, 0x2394, .sign),
  (0x2396, 0x26ab, .sign), (0x26ad, 0x27ff, .sign), (0x2900, 0x2bff, .sign),
  (0x2ce5, 0x2cea, .sign), (0x2cf9, 0x2cff, .sign), (0x2e00, 0x3004, .sign),
  (0x3008, 0x3020, .sign), (0x3030, 0x3030, .sign), (0x3037, 0x3037, .sign),
  (0x303d, 0x303f, .sign), (0x30a0, 0x30a0, .sign), (0x30fb, 0x30fb, .sign),
  (0x31c0, 0x31e5, .sign), (0x4dc0, 0x4dff, .sign), (0xa490, 0xa4c6, .sign),
  (0xa60d, 0xa60f, .sign), (0xa673, 0xa67f, .sign), (0xa700, 0xa721, .sign),
  (0xa788, 0xa788, .sign), (0xa828, 0xa82b, .sign), (0xa838, 0xa839, .sign),
  (0xa874, 0xa877, .sign), (0xab6a, 0xab6b, .sign), (0xfbb2, 0xfbc2, .leftward),
  (0xfbc3, 0xfe46, .sign), (0xfe73, 0xfe73, .leftward), (0x10101, 0x10101, .sign),
  (0x10140, 0x1018c, .sign), (0x10190, 0x101a0, .sign), (0x102e1, 0x102fb, .digit),
  (0x10800, 0x1091b, .leftward), (0x1091f, 0x1091f, .sign), (0x10920, 0x10b35, .leftward),
  (0x10b39, 0x10b3f, .sign), (0x10b40, 0x10d23, .leftward), (0x10d30, 0x10d39, .arabicDigit),
  (0x10d40, 0x10d4f, .leftward), (0x10d6e, 0x10d6e, .sign), (0x10d6f, 0x10d8f, .leftward),
  (0x10e60, 0x10e7e, .arabicDigit), (0x10e80, 0x10ec7, .leftward), (0x10ed0, 0x10ed8, .sign),
  (0x10f00, 0x10ff6, .leftward), (0x11052, 0x11065, .sign), (0x11660, 0x1166c, .sign),
  (0x11fd5, 0x11ff1, .sign), (0x16fe2, 0x16fe2, .sign), (0x1cc00, 0x1cef0, .sign),
  (0x1d1e9, 0x1d245, .sign), (0x1d300, 0x1d356, .sign), (0x1e2ff, 0x1e2ff, .sign),
  (0x1e800, 0x1ed3d, .leftward), (0x1eef0, 0x1f12f, .sign), (0x1f16d, 0x1f16f, .sign),
  (0x1f1ad, 0x1f1ad, .sign), (0x1f260, 0x1fbfa, .sign)]

/-- Nonspacing marks that count as letters nevertheless. -/
def letterMarks : List Nat := [0xcbf, 0xcc6, 0x11a07, 0x11a08, 0x11c3f]

def ofChar (c : Char) : Direction :=
  if letterMarks.contains c.toNat then rightward
  else if isNonspacing c then mark
  else (table.lookup? c.toNat).getD rightward

/-- Whether a name with such a character is mixed. -/
def mixes (d : Direction) : Bool := d = leftward || d = arabicDigit

def fitsRightward (d : Direction) : Bool := d ≠ leftward && d ≠ arabicDigit

def endsRightward (d : Direction) : Bool := d = rightward || d = digit

def endsLeftward (d : Direction) : Bool := d = leftward || d = digit || d = arabicDigit

/-- What follows the first character, without the marks at the end. -/
def body (rest : List Direction) : List Direction := (rest.reverse.dropWhile (· = mark)).reverse

/-- A label written to the left has only one kind of digits. -/
def isConsistent (label : List Direction) : Bool :=
  match label with
  | [] => true
  | first :: rest =>
    let rest := body rest
    if first = rightward then rest.all fitsRightward && rest.getLast?.all endsRightward
    else if first = leftward then
      rest.all (· ≠ rightward) && rest.getLast?.all endsLeftward
        && !(rest.contains digit && rest.contains arabicDigit)
    else false

end Direction

/-- Whether all labels keep to their directions, as they have to in a mixed name. -/
def isConsistent (labels : List (List Char)) : Bool :=
  let directions := labels.map (·.map Direction.ofChar)
  !directions.any (·.any Direction.mixes) || directions.all Direction.isConsistent

end QueueBoard.Domain
