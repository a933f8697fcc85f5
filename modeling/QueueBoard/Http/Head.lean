import QueueBoard.Text.Utf8

/-! # Heads of responses

A head is a status line and at most a hundred fields, each on a line of its own, up to an empty line.
A line ends with a line feed, before which a carriage return may stand. A head that is not complete or
not well-formed is no head at all.
-/
namespace QueueBoard.Http

structure Field where
  /-- In lower case. -/
  name : Bytes
  value : Bytes
deriving DecidableEq, Repr

structure Head where
  /-- Whether the version is 1.1; otherwise it is 1.0. -/
  current : Bool
  status : Nat
  fields : List Field
deriving DecidableEq, Repr

/-- What follows the end of a line. -/
def lineEnd? : Bytes → Option Bytes
  | 0x0A :: r => some r
  | 0x0D :: 0x0A :: r => some r
  | _ => none

theorem lineEnd?_length_lt {s r : Bytes} (h : lineEnd? s = some r) : r.length < s.length := by
  unfold lineEnd? at h
  split at h <;> cases h <;> simp only [List.length_cons] <;> omega

def skipEmptyLines (s : Bytes) : Bytes :=
  match _h : lineEnd? s with
  | some r => skipEmptyLines r
  | none => s
termination_by s.length
decreasing_by exact lineEnd?_length_lt _h

theorem skipEmptyLines_length_le (s : Bytes) : (skipEmptyLines s).length ≤ s.length := by
  fun_induction skipEmptyLines s with
  | case1 s r h ih => exact Nat.le_trans ih (Nat.le_of_lt (lineEnd?_length_lt h))
  | case2 => exact Nat.le_refl _

/-- A byte of a value: a tab, a blank, or one that is not a control. -/
def isValueByte (b : UInt8) : Bool := b = 0x09 || (0x20 ≤ b && b ≠ 0x7F)

def isLetterByte (b : UInt8) : Bool := (0x41 ≤ b && b ≤ 0x5A) || (0x61 ≤ b && b ≤ 0x7A)

def isDigitByte (b : UInt8) : Bool := 0x30 ≤ b && b ≤ 0x39

/-- The signs allowed in a name. -/
def nameSigns : Bytes :=
  [0x21, 0x23, 0x24, 0x25, 0x26, 0x27, 0x2A, 0x2B, 0x2D, 0x2E, 0x5E, 0x5F, 0x60, 0x7C, 0x7E]

def isNameByte (b : UInt8) : Bool := isLetterByte b || isDigitByte b || nameSigns.contains b

def isBlankByte (b : UInt8) : Bool := b = 0x20 || b = 0x09

def lowerByte (b : UInt8) : UInt8 := if 0x41 ≤ b && b ≤ 0x5A then b + 0x20 else b

/-- The bytes without the blanks at both ends. -/
def trimBlanks (s : Bytes) : Bytes :=
  ((s.dropWhile isBlankByte).reverse.dropWhile isBlankByte).reverse

/-- A name has fewer bytes than this. -/
def nameBound : Nat := 65536

def field? (s : Bytes) : Option (Field × Bytes) :=
  let name := s.takeWhile isNameByte
  match s.dropWhile isNameByte with
  | 0x3A :: r =>
    if name = [] ∨ nameBound ≤ name.length then none
    else (lineEnd? (r.dropWhile isValueByte)).map
      (⟨name.map lowerByte, trimBlanks (r.takeWhile isValueByte)⟩, ·)
  | _ => none

/-- At most `room` fields, up to the empty line. -/
def fields? (room : Nat) (s : Bytes) : Option (List Field × Bytes) :=
  match lineEnd? s, room with
  | some r, _ => some ([], r)
  | none, 0 => none
  | none, room + 1 => do
    let (field, r) ← field? s
    let (fields, r) ← fields? room r
    return (field :: fields, r)

/-- The version of a protocol, `HTTP/1.`, before its last digit. -/
def versionStart : Bytes := [0x48, 0x54, 0x54, 0x50, 0x2F, 0x31, 0x2E]

def version? (s : Bytes) : Option (Bool × Bytes) :=
  if s.take 7 = versionStart then
    match s.drop 7 with
    | 0x31 :: 0x20 :: r => some (true, r)
    | 0x30 :: 0x20 :: r => some (false, r)
    | _ => none
  else none

/-- A status of three digits; the first of them is not zero. -/
def status? : Bytes → Option (Nat × Bytes)
  | a :: b :: c :: r =>
    if isDigitByte a && isDigitByte b && isDigitByte c && a ≠ 0x30 then
      some ((a.toNat - 48) * 100 + (b.toNat - 48) * 10 + (c.toNat - 48), r)
    else none
  | _ => none

/-- The end of a status line, before which a reason may be given after a blank. -/
def reasonEnd? : Bytes → Option Bytes
  | 0x20 :: r => lineEnd? (r.dropWhile isValueByte)
  | s => lineEnd? s

def fieldBound : Nat := 100

/-- A head has at most so many bytes, the empty lines before it included. -/
def headBound : Nat := 417792

namespace Head

def read? (s : Bytes) : Option (Head × Bytes) := do
  let (current, r) ← version? (skipEmptyLines s)
  let (status, r) ← status? r
  let r ← reasonEnd? r
  let (fields, r) ← fields? fieldBound r
  if headBound + r.length < s.length then none else return (⟨current, status, fields⟩, r)

/-- The values of the fields of a name. -/
def values (head : Head) (name : Bytes) : List Bytes :=
  (head.fields.filter (·.name = name)).map (·.value)

/-- A status that announces another head. -/
def isInterim (status : Nat) : Bool := 100 ≤ status && status < 200 && status ≠ 101

/-- A status whose response has no body. -/
def isBodiless (status : Nat) : Bool := status = 101 || status = 204 || status = 304

end Head

theorem field?_length_lt {s r : Bytes} {f : Field} (h : field? s = some (f, r)) :
    r.length < s.length := by
  have hs := (List.dropWhile_suffix isNameByte (l := s)).length_le
  unfold field? at h
  simp only at h
  split at h
  · rename_i t ht
    split at h
    · cases h
    · obtain ⟨u, hu, he⟩ := Option.map_eq_some_iff.1 h
      cases he
      have h1 := lineEnd?_length_lt hu
      have h2 := (List.dropWhile_suffix isValueByte (l := t)).length_le
      rw [ht, List.length_cons] at hs
      omega
  · cases h

theorem fields?_length_lt {room : Nat} {s r : Bytes} {fs : List Field}
    (h : fields? room s = some (fs, r)) : r.length < s.length := by
  induction room generalizing s fs r with
  | zero =>
    unfold fields? at h
    split at h
    · rename_i hl
      cases h
      exact lineEnd?_length_lt hl
    · cases h
    · contradiction
  | succ room ih =>
    unfold fields? at h
    split at h
    · rename_i hl
      cases h
      exact lineEnd?_length_lt hl
    · contradiction
    · rename_i _ k he
      cases he
      simp only [Option.bind_eq_bind, Option.bind_eq_some_iff, Option.pure_def, Option.some.injEq,
        Prod.mk.injEq] at h
      obtain ⟨⟨f, t⟩, hf, ⟨gs, u⟩, hg, he⟩ := h
      have h1 := field?_length_lt hf
      have h2 := ih hg
      obtain ⟨-, rfl⟩ := he
      dsimp only at h2 ⊢
      omega

theorem version?_length_lt {s r : Bytes} {b : Bool} (h : version? s = some (b, r)) :
    r.length < s.length := by
  have hs : (s.drop 7).length ≤ s.length := by simp
  unfold version? at h
  split at h
  · split at h
    · rename_i ht
      rw [ht] at hs
      cases h
      simp only [List.length_cons] at hs
      omega
    · rename_i ht
      rw [ht] at hs
      cases h
      simp only [List.length_cons] at hs
      omega
    · cases h
  · cases h

theorem status?_length_lt {s r : Bytes} {n : Nat} (h : status? s = some (n, r)) :
    r.length < s.length := by
  unfold status? at h
  split at h
  · split at h
    · cases h
      simp only [List.length_cons]
      omega
    · cases h
  · cases h

theorem reasonEnd?_length_lt {s r : Bytes} (h : reasonEnd? s = some r) : r.length < s.length := by
  unfold reasonEnd? at h
  split at h
  · rename_i t
    have h1 := lineEnd?_length_lt h
    have h2 := (List.dropWhile_suffix isValueByte (l := t)).length_le
    simp only [List.length_cons]
    omega
  · exact lineEnd?_length_lt h

theorem Head.read?_length_lt {s r : Bytes} {head : Head} (h : Head.read? s = some (head, r)) :
    r.length < s.length := by
  simp only [Head.read?, Option.bind_eq_bind, Option.bind_eq_some_iff, Option.pure_def,
    Option.ite_none_left_eq_some, Option.some.injEq, Prod.mk.injEq] at h
  obtain ⟨⟨b, r1⟩, h1, ⟨n, r2⟩, h2, r3, h3, ⟨fs, r4⟩, h4, -, he⟩ := h
  have l0 := skipEmptyLines_length_le s
  have l1 := version?_length_lt h1
  have l2 := status?_length_lt h2
  have l3 := reasonEnd?_length_lt h3
  have l4 := fields?_length_lt h4
  obtain ⟨-, rfl⟩ := he
  dsimp only at l2 l3 l4 ⊢
  omega

end QueueBoard.Http
