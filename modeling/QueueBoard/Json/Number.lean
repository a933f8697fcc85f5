import QueueBoard.Json.Text

/-! # Numbers of a document

A number is read only to be refused, since nothing in a listing is a number; what it is becomes part
of the refusal. Digits are taken into a significand of 64 bits as long as they fit. Those of a whole
part that do not fit count into the exponent, and those of a fraction are dropped.
-/
namespace QueueBoard.Json

def isDigit (b : UInt8) : Bool := 0x30 ≤ b && b ≤ 0x39

def digitValue (b : UInt8) : Nat := b.toNat - 48

/-- The largest number of 64 bits. -/
def significandBound : Nat := 18446744073709551615

/-- The significand after the digits that fit, and the count of the others. -/
def absorb : Nat → List UInt8 → Nat × Nat
  | m, [] => (m, 0)
  | m, d :: ds =>
    if m * 10 + digitValue d ≤ significandBound then absorb (m * 10 + digitValue d) ds
    else (m, ds.length + 1)

/-- The value of a significand and a decimal exponent. -/
def real (negative : Bool) (significand : Nat) (power : Int) (rest : Bytes) : Result Found :=
  match (Binary64.ofNat significand).bind (·.scale power) with
  | some f => .ok (.real negative f, rest)
  | none => stop .numberTooLarge rest

/-- The largest signed number of 32 bits. -/
def exponentBound : Nat := 2147483647

/-- The digits of an exponent: its value, or what is left when it passes the bound. -/
def exponentDigits : Nat → Bytes → Except Bytes (Nat × Bytes)
  | n, [] => .ok (n, [])
  | n, b :: s =>
    if isDigit b then
      if n * 10 + digitValue b ≤ exponentBound then exponentDigits (n * 10 + digitValue b) s
      else .error s
    else .ok (n, b :: s)

/-- The sign of an exponent and what follows. -/
def exponentSign : Bytes → Bool × Bytes
  | [] => (false, [])
  | b :: s => if b = 0x2B then (false, s) else if b = 0x2D then (true, s) else (false, b :: s)

/-- An exponent after its mark. -/
def exponent (negative : Bool) (significand : Nat) (power : Int) (s : Bytes) : Result Found :=
  match exponentSign s with
  | (_, []) => stop .endInValue []
  | (down, b :: s2) =>
    if isDigit b then
      match exponentDigits (digitValue b) s2 with
      | .ok (e, r) => real negative significand (if down then power - e else power + e) r
      | .error r =>
        if significand ≠ 0 ∧ ¬ down then stop .numberTooLarge r
        else .ok (.real negative Binary64.zero, r.dropWhile isDigit)
    else stop .badNumber s2

def isExponentMark (b : UInt8) : Bool := b = 0x65 || b = 0x45

/-- A fraction after its point. -/
def fraction (negative : Bool) (significand : Nat) (power : Int) (s : Bytes) : Result Found :=
  let digits := s.takeWhile isDigit
  let rest := s.dropWhile isDigit
  if digits = [] then stopAt (if rest = [] then .endInValue else .badNumber) rest
  else
    let a := absorb significand digits
    let power := power - ((digits.length : Int) - a.2)
    match rest with
    | b :: r => if isExponentMark b then exponent negative a.1 power r else real negative a.1 power rest
    | [] => real negative a.1 power rest

/-- What follows a whole part. A whole number outside 64 bits, and minus zero, is real. -/
def afterWhole (negative : Bool) (significand dropped : Nat) (s : Bytes) : Result Found :=
  match s with
  | b :: r =>
    if b = 0x2E then fraction negative significand dropped r
    else if isExponentMark b then exponent negative significand dropped r
    else plain
  | [] => plain
where
  plain : Result Found :=
    if dropped ≠ 0 then real negative significand dropped s
    else if ¬ negative then .ok (.integer significand, s)
    else if significand = 0 ∨ 9223372036854775808 < significand then real true significand 0 s
    else .ok (.integer (-(significand : Int)), s)

/-- A number after its sign. -/
def number (negative : Bool) : Bytes → Result Found
  | [] => stop .endInValue []
  | b :: s =>
    if b = 0x30 then
      match s with
      | c :: _ => if isDigit c then stopAt .badNumber s else afterWhole negative 0 0 s
      | [] => afterWhole negative 0 0 s
    else if isDigit b then
      let a := absorb (digitValue b) (s.takeWhile isDigit)
      afterWhole negative a.1 a.2 (s.dropWhile isDigit)
    else stop .badNumber s

/-- What stands at the front and what is left behind it. A sequence or a map is left unread, all else
is read to its last byte. -/
def kind (s : Bytes) : Result Found :=
  match s with
  | [] => stopAt .valueWanted []
  | b :: r =>
    if b = 0x6E then (word nullTail r).map (.null, ·)
    else if b = 0x74 then (word trueTail r).map (.boolean true, ·)
    else if b = 0x66 then (word falseTail r).map (.boolean false, ·)
    else if b = 0x2D then number true r
    else if isDigit b then number false s
    else if b = 0x22 then (text r).map (fun p => (.text p.1, p.2))
    else if b = 0x5B then .ok (.sequence, s)
    else if b = 0x7B then .ok (.map, s)
    else stopAt .valueWanted s

/-- The fault of a value that is not of the wanted kind: its own, or that it is of another kind. -/
def mismatch (wanted : Wanted) (s : Bytes) : Fault :=
  match kind s with
  | .error f => f
  | .ok (found, r) => ⟨.wrongKind found wanted, r.length⟩

end QueueBoard.Json
