import QueueBoard.Json.Fault
import QueueBoard.Text.Hex

/-! # Blanks, words and texts of a document

A text is a sequence of plain bytes and escapes up to the closing quote. It is checked for UTF-8 as a
whole, once its escapes are replaced. An escaped surrogate has to be the first half of an escaped pair.
-/
namespace QueueBoard.Json

def isBlank (b : UInt8) : Bool := b = 0x20 || b = 0x0A || b = 0x0D || b = 0x09

def skipBlank (s : Bytes) : Bytes := s.dropWhile isBlank

theorem skipBlank_length_le (s : Bytes) : (skipBlank s).length ≤ s.length :=
  (List.dropWhile_suffix isBlank).length_le

/-- The rest of a word whose first letter has been read. -/
def word : Bytes → Bytes → Except Fault Bytes
  | [], s => .ok s
  | _ :: _, [] => stop .endInValue []
  | e :: es, b :: s => if b = e then word es s else stop .wordWanted s

def nullTail : Bytes := [0x75, 0x6C, 0x6C]

def trueTail : Bytes := [0x72, 0x75, 0x65]

def falseTail : Bytes := [0x61, 0x6C, 0x73, 0x65]

theorem word_length_le {letters s r : Bytes} (h : word letters s = .ok r) : r.length ≤ s.length := by
  induction letters generalizing s with
  | nil => cases h; exact Nat.le_refl _
  | cons e es ih =>
    cases s with
    | nil => simp [word, stop] at h
    | cons b s =>
      simp only [word] at h
      split at h
      · exact Nat.le_succ_of_le (ih h)
      · simp [stop] at h

/-- The value of four hexadecimal digits. -/
def hexValue? (a b c d : UInt8) : Option Nat := do
  let w ← Hex.digit? a.toNat
  let x ← Hex.digit? b.toNat
  let y ← Hex.digit? c.toNat
  let z ← Hex.digit? d.toNat
  return ((w * 16 + x) * 16 + y) * 16 + z

/-- Four bytes are taken before they are looked at. -/
def fourHex : Bytes → Result Nat
  | a :: b :: c :: d :: r =>
    match hexValue? a b c d with
    | some n => .ok (n, r)
    | none => stop .badEscape r
  | _ => stop .endInText []

theorem fourHex_length_le {s r : Bytes} {n : Nat} (h : fourHex s = .ok (n, r)) :
    r.length ≤ s.length := by
  unfold fourHex at h
  split at h
  · split at h
    · cases h
      simp only [List.length_cons]
      omega
    · simp [stop] at h
  · simp [stop] at h

def isHighHalf (n : Nat) : Bool := 0xD800 ≤ n && n ≤ 0xDBFF

def isLowHalf (n : Nat) : Bool := 0xDC00 ≤ n && n ≤ 0xDFFF

/-- The character of a surrogate pair. -/
def joinHalves (high low : Nat) : Char :=
  Char.ofNat ((high - 0xD800) * 1024 + (low - 0xDC00) + 0x10000)

/-- The second half of a pair whose first half has been read. -/
def secondHalf (high : Nat) : Bytes → Result Char
  | [] => stop .endInText []
  | [b] => if b = 0x5C then stop .endInText [] else stop .cutSurrogate []
  | b :: c :: r =>
    if b ≠ 0x5C then stop .cutSurrogate (c :: r)
    else if c ≠ 0x75 then stop .cutSurrogate r
    else
      match fourHex r with
      | .error f => .error f
      | .ok (low, r1) => if isLowHalf low then .ok (joinHalves high low, r1) else stop .loneSurrogate r1

theorem secondHalf_length_le {high : Nat} {s r : Bytes} {c : Char}
    (h : secondHalf high s = .ok (c, r)) : r.length ≤ s.length := by
  unfold secondHalf at h
  split at h
  · simp [stop] at h
  · split at h <;> simp [stop] at h
  · split at h
    · simp [stop] at h
    · split at h
      · simp [stop] at h
      · split at h
        · simp at h
        · rename_i hf
          have := fourHex_length_le hf
          split at h
          · simp only [Except.ok.injEq, Prod.mk.injEq] at h
            obtain ⟨-, rfl⟩ := h
            simp only [List.length_cons]
            omega
          · simp [stop] at h

/-- A character given by its number, after the letter u. -/
def numbered (s : Bytes) : Result Char :=
  match fourHex s with
  | .error f => .error f
  | .ok (n, r) =>
    if isLowHalf n then stop .loneSurrogate r
    else if isHighHalf n then secondHalf n r
    else .ok (Char.ofNat n, r)

theorem numbered_length_le {s r : Bytes} {c : Char} (h : numbered s = .ok (c, r)) :
    r.length ≤ s.length := by
  unfold numbered at h
  split at h
  · simp at h
  · rename_i hf
    have := fourHex_length_le hf
    split at h
    · simp [stop] at h
    · split at h
      · have := secondHalf_length_le h
        omega
      · simp only [Except.ok.injEq, Prod.mk.injEq] at h
        obtain ⟨-, rfl⟩ := h
        omega

/-- The characters that a letter after a backslash stands for. -/
def lettered? (b : UInt8) : Option Char :=
  if b = 0x22 then some '"'
  else if b = 0x5C then some '\\'
  else if b = 0x2F then some '/'
  else if b = 0x62 then some '\x08'
  else if b = 0x66 then some '\x0c'
  else if b = 0x6E then some '\n'
  else if b = 0x72 then some '\r'
  else if b = 0x74 then some '\t'
  else none

/-- One escape after its backslash. -/
def escape : Bytes → Result Char
  | [] => stop .endInText []
  | b :: r =>
    if b = 0x75 then numbered r
    else
      match lettered? b with
      | some c => .ok (c, r)
      | none => stop .badEscape r

theorem escape_length_lt {s r : Bytes} {c : Char} (h : escape s = .ok (c, r)) :
    r.length < s.length := by
  cases s with
  | nil => simp [escape, stop] at h
  | cons b t =>
    simp only [escape] at h
    split at h
    · have := numbered_length_le h
      simp only [List.length_cons]
      omega
    · split at h
      · cases h
        simp
      · simp [stop] at h

/-- The bytes that stand for themselves in a text. -/
def isPlain (b : UInt8) : Bool := b ≠ 0x22 && b ≠ 0x5C && 0x20 ≤ b

/-- The bytes of a text after its opening quote, its escapes replaced, and what follows the text. -/
def textTail (s : Bytes) : Result Bytes :=
  match _hd : s.dropWhile isPlain with
  | [] => stop .endInText []
  | b :: r =>
    if b = 0x22 then .ok (s.takeWhile isPlain, r)
    else if b = 0x5C then
      match _he : escape r with
      | .error f => .error f
      | .ok (c, r1) =>
        match textTail r1 with
        | .error f => .error f
        | .ok (t, r2) => .ok (s.takeWhile isPlain ++ String.utf8EncodeChar c ++ t, r2)
    else stop .controlCharacter r
termination_by s.length
decreasing_by
  have h1 := escape_length_lt _he
  have h2 : (s.dropWhile isPlain).length ≤ s.length := (List.dropWhile_suffix isPlain).length_le
  rw [_hd, List.length_cons] at h2
  omega

/-- A text after its opening quote. The place of an ill-formed one is as far before its end as the
well-formed bytes at its front leave over. -/
def text (s : Bytes) : Result String :=
  match textTail s with
  | .error f => .error f
  | .ok (t, r) =>
    match Utf8.strict t with
    | .ok cs => .ok (String.ofList cs, r)
    | .error left => .error ⟨.badCodePoint, left + r.length⟩

theorem textTail_length_lt {s r t : Bytes} (h : textTail s = .ok (t, r)) : r.length < s.length := by
  have hle (s : Bytes) : (s.dropWhile isPlain).length ≤ s.length :=
    (List.dropWhile_suffix isPlain).length_le
  fun_induction textTail s generalizing t r with
  | case1 => simp [stop] at h
  | case2 s r' hd =>
    have hs := hle s
    rw [hd, List.length_cons] at hs
    cases h
    omega
  | case3 => cases h
  | case4 => cases h
  | case5 s r' c r1 he t' r2 ht hd _ ih =>
    have hs := hle s
    rw [hd, List.length_cons] at hs
    have h1 := escape_length_lt he
    have h2 := ih ht
    cases h
    omega
  | case6 => simp [stop] at h

theorem text_length_lt {s r : Bytes} {t : String} (h : text s = .ok (t, r)) :
    r.length < s.length := by
  unfold text at h
  split at h
  · cases h
  · rename_i ht
    split at h
    · cases h
      exact textTail_length_lt ht
    · cases h

end QueueBoard.Json
