import QueueBoard.Json.Number

/-! # Values that are passed over

A value nobody asked for is checked for its form only: the characters of its texts and the size of
its numbers do not matter. The open brackets around the place are kept in a list, so that no depth
of nesting is too great.
-/
namespace QueueBoard.Json

/-- One escape of a text passed over, after its backslash. -/
def skipEscape : Bytes → Except Fault Bytes
  | [] => stop .endInText []
  | b :: r =>
    if b = 0x75 then
      match fourHex r with
      | .error f => .error f
      | .ok (_, r1) => .ok r1
    else if (lettered? b).isSome then .ok r
    else stop .badEscape r

theorem skipEscape_length_lt {s r : Bytes} (h : skipEscape s = .ok r) : r.length < s.length := by
  cases s with
  | nil => simp [skipEscape, stop] at h
  | cons b t =>
    simp only [skipEscape] at h
    split at h
    · split at h
      · cases h
      · rename_i hf
        have := fourHex_length_le hf
        cases h
        simp only [List.length_cons]
        omega
    · split at h
      · cases h
        simp
      · simp [stop] at h

/-- A text passed over, after its opening quote. -/
def skipText (s : Bytes) : Except Fault Bytes :=
  match _hd : s.dropWhile isPlain with
  | [] => stop .endInText []
  | b :: r =>
    if b = 0x22 then .ok r
    else if b = 0x5C then
      match _he : skipEscape r with
      | .error f => .error f
      | .ok r1 => skipText r1
    else stop .controlCharacter (b :: r)
termination_by s.length
decreasing_by
  have h1 := skipEscape_length_lt _he
  have h2 : (s.dropWhile isPlain).length ≤ s.length := (List.dropWhile_suffix isPlain).length_le
  rw [_hd, List.length_cons] at h2
  omega

theorem skipText_length_lt {s r : Bytes} (h : skipText s = .ok r) : r.length < s.length := by
  have hle (s : Bytes) : (s.dropWhile isPlain).length ≤ s.length :=
    (List.dropWhile_suffix isPlain).length_le
  fun_induction skipText s with
  | case1 => simp [stop] at h
  | case2 s r' hd =>
    have hs := hle s
    rw [hd, List.length_cons] at hs
    cases h
    omega
  | case3 => cases h
  | case4 s _ _ he hd _ ih =>
    have hs := hle s
    rw [hd, List.length_cons] at hs
    have h1 := skipEscape_length_lt he
    have h2 := ih h
    omega
  | case5 => simp [stop] at h

/-- An exponent passed over, after its mark. -/
def skipExponent (s : Bytes) : Except Fault Bytes :=
  match (exponentSign s).2 with
  | [] => stop .badNumber []
  | b :: r => if isDigit b then .ok (r.dropWhile isDigit) else stop .badNumber r

/-- An exponent, if there is one. -/
def skipExponent? : Bytes → Except Fault Bytes
  | [] => .ok []
  | b :: r => if isExponentMark b then skipExponent r else .ok (b :: r)

/-- A fraction and an exponent, as far as there are any. -/
def skipAfterWhole : Bytes → Except Fault Bytes
  | [] => .ok []
  | b :: r =>
    if b = 0x2E then
      if r.takeWhile isDigit = [] then stopAt .badNumber r
      else skipExponent? (r.dropWhile isDigit)
    else skipExponent? (b :: r)

/-- A number passed over, after its sign. -/
def skipNumber : Bytes → Except Fault Bytes
  | [] => stop .badNumber []
  | b :: r =>
    if b = 0x30 then
      match r with
      | c :: _ => if isDigit c then stopAt .badNumber r else skipAfterWhole r
      | [] => .ok []
    else if isDigit b then skipAfterWhole (r.dropWhile isDigit)
    else stop .badNumber r

theorem exponentSign_length_le (s : Bytes) : (exponentSign s).2.length ≤ s.length := by
  unfold exponentSign
  repeat' split
  all_goals simp

theorem dropDigits_length_le (s : Bytes) : (s.dropWhile isDigit).length ≤ s.length :=
  (List.dropWhile_suffix isDigit).length_le

theorem skipExponent_length_le {s r : Bytes} (h : skipExponent s = .ok r) :
    r.length ≤ s.length := by
  have hs := exponentSign_length_le s
  unfold skipExponent at h
  split at h
  · simp [stop] at h
  · rename_i b t ht
    rw [ht, List.length_cons] at hs
    split at h
    · cases h
      have := dropDigits_length_le t
      omega
    · simp [stop] at h

theorem skipExponent?_length_le {s r : Bytes} (h : skipExponent? s = .ok r) :
    r.length ≤ s.length := by
  cases s with
  | nil => cases h; exact Nat.le_refl _
  | cons b t =>
    simp only [skipExponent?] at h
    split at h
    · exact Nat.le_succ_of_le (skipExponent_length_le h)
    · cases h; exact Nat.le_refl _

theorem skipAfterWhole_length_le {s r : Bytes} (h : skipAfterWhole s = .ok r) :
    r.length ≤ s.length := by
  cases s with
  | nil => cases h; exact Nat.le_refl _
  | cons b t =>
    simp only [skipAfterWhole] at h
    split at h
    · split at h
      · simp [stopAt] at h
      · exact Nat.le_succ_of_le (Nat.le_trans (skipExponent?_length_le h) (dropDigits_length_le t))
    · exact skipExponent?_length_le h

theorem skipNumber_length_lt {s r : Bytes} (h : skipNumber s = .ok r) : r.length < s.length := by
  cases s with
  | nil => simp [skipNumber, stop] at h
  | cons b t =>
    rw [List.length_cons, Nat.lt_succ_iff]
    simp only [skipNumber] at h
    split at h
    · cases t with
      | nil => cases h; exact Nat.le_refl _
      | cons c u =>
        simp only at h
        split at h
        · simp [stopAt] at h
        · exact skipAfterWhole_length_le h
    · split at h
      · exact Nat.le_trans (skipAfterWhole_length_le h) (dropDigits_length_le t)
      · simp [stop] at h

/-- A value without members passed over, of which `b` is the first byte. -/
def skipScalar (b : UInt8) (r : Bytes) : Except Fault Bytes :=
  if b = 0x6E then word nullTail r
  else if b = 0x74 then word trueTail r
  else if b = 0x66 then word falseTail r
  else if b = 0x2D then skipNumber r
  else if isDigit b then skipNumber (b :: r)
  else if b = 0x22 then skipText r
  else stopAt .valueWanted (b :: r)

theorem skipScalar_length_le {b : UInt8} {r r' : Bytes} (h : skipScalar b r = .ok r') :
    r'.length ≤ r.length := by
  unfold skipScalar at h
  split at h
  · exact word_length_le h
  split at h
  · exact word_length_le h
  split at h
  · exact word_length_le h
  split at h
  · exact Nat.le_of_lt (skipNumber_length_lt h)
  split at h
  · exact Nat.lt_succ_iff.1 (skipNumber_length_lt h)
  split at h
  · exact Nat.le_of_lt (skipText_length_lt h)
  · simp [stopAt] at h

inductive Bracket
  | square
  | curly
deriving DecidableEq, Repr

namespace Bracket

def ofByte? (b : UInt8) : Option Bracket :=
  if b = 0x5B then some square else if b = 0x7B then some curly else none

def closer : Bracket → UInt8
  | square => 0x5D
  | curly => 0x7D

def endCause : Bracket → Cause
  | square => .endInSequence
  | curly => .endInMap

def commaCause : Bracket → Cause
  | square => .commaOrBracketWanted
  | curly => .commaOrBraceWanted

end Bracket

/-- The colon between a key and its value. -/
def colon (s : Bytes) : Except Fault Bytes :=
  match skipBlank s with
  | [] => stopAt .endInMap []
  | b :: r => if b = 0x3A then .ok r else stopAt .colonWanted (b :: r)

theorem colon_length_lt {s r : Bytes} (h : colon s = .ok r) : r.length < s.length := by
  have hs := skipBlank_length_le s
  unfold colon at h
  split at h
  · simp [stopAt] at h
  · rename_i b t ht
    rw [ht, List.length_cons] at hs
    split at h
    · cases h
      omega
    · simp [stopAt] at h

/-- What comes before the value of an item: nothing in a sequence, a key and a colon in a map. -/
def itemStart : Bracket → Bytes → Except Fault Bytes
  | .square, s => .ok s
  | .curly, s =>
    match skipBlank s with
    | [] => stopAt .endInMap []
    | b :: r => if b = 0x22 then (skipText r).bind colon else stopAt .keyNotText (b :: r)

theorem itemStart_length_le {k : Bracket} {s r : Bytes} (h : itemStart k s = .ok r) :
    r.length ≤ s.length := by
  cases k with
  | square => cases h; exact Nat.le_refl _
  | curly =>
    have hs := skipBlank_length_le s
    simp only [itemStart] at h
    split at h
    · simp [stopAt] at h
    · rename_i b t ht
      rw [ht, List.length_cons] at hs
      split at h
      · obtain ⟨u, hk, hc⟩ := bind_eq_ok.mp h
        have h1 := skipText_length_lt hk
        have h2 := colon_length_lt hc
        omega
      · simp [stopAt] at h

/-- Whether a bracket has been closed or another value is to come. -/
inductive Turn
  | closed
  | value
deriving DecidableEq, Repr

/-- After an opening bracket: its closer or the first item. -/
def opened (k : Bracket) (s : Bytes) : Result Turn :=
  match skipBlank s with
  | [] => stopAt k.endCause []
  | b :: r => if b = k.closer then .ok (.closed, r) else (itemStart k (b :: r)).map (.value, ·)

theorem opened_length_le {k : Bracket} {s r : Bytes} {t : Turn} (h : opened k s = .ok (t, r)) :
    r.length ≤ s.length := by
  have hs := skipBlank_length_le s
  unfold opened at h
  split at h
  · simp [stopAt] at h
  · rename_i b u hu
    rw [hu] at hs
    split at h
    · cases h
      rw [List.length_cons] at hs
      omega
    · obtain ⟨v, hi, hv⟩ := map_eq_ok.mp h
      cases hv
      have := itemStart_length_le hi
      omega

/-- After an item: a comma and the next one, or the closer. -/
def afterItem (k : Bracket) (s : Bytes) : Result Turn :=
  match skipBlank s with
  | [] => stopAt k.endCause []
  | b :: r =>
    if b = 0x2C then (itemStart k r).map (.value, ·)
    else if b = k.closer then .ok (.closed, r)
    else stopAt k.commaCause (b :: r)

theorem afterItem_length_lt {k : Bracket} {s r : Bytes} {t : Turn}
    (h : afterItem k s = .ok (t, r)) : r.length < s.length := by
  have hs := skipBlank_length_le s
  unfold afterItem at h
  split at h
  · simp [stopAt] at h
  · rename_i b u hu
    rw [hu, List.length_cons] at hs
    split at h
    · obtain ⟨v, hi, hv⟩ := map_eq_ok.mp h
      cases hv
      have := itemStart_length_le hi
      omega
    · split at h
      · cases h
        omega
      · simp [stopAt] at h

/-- Passes over what is due inside the open brackets, of which the innermost comes first. -/
def skipInside (turn : Turn) (stack : List Bracket) (s : Bytes) : Except Fault Bytes :=
  match turn, stack with
  | .closed, [] => .ok s
  | .closed, k :: outer =>
    match _h : afterItem k s with
    | .error f => .error f
    | .ok (.closed, r) => skipInside .closed outer r
    | .ok (.value, r) => skipInside .value (k :: outer) r
  | .value, stack =>
    match _hb : skipBlank s with
    | [] => stopAt .endInValue []
    | b :: r =>
      match Bracket.ofByte? b with
      | some k =>
        match _h : opened k r with
        | .error f => .error f
        | .ok (.closed, r1) => skipInside .closed stack r1
        | .ok (.value, r1) => skipInside .value (k :: stack) r1
      | none =>
        match _h : skipScalar b r with
        | .error f => .error f
        | .ok r1 => skipInside .closed stack r1
termination_by s.length
decreasing_by
  · exact afterItem_length_lt _h
  · exact afterItem_length_lt _h
  all_goals
    have hs := skipBlank_length_le s
    rw [_hb, List.length_cons] at hs
  · have := opened_length_le _h
    omega
  · have := opened_length_le _h
    omega
  · have := skipScalar_length_le _h
    omega

/-- Passes over one value. -/
def skipValue (s : Bytes) : Except Fault Bytes := skipInside .value [] s

theorem skipInside_length_le {turn : Turn} {stack : List Bracket} {s r : Bytes}
    (h : skipInside turn stack s = .ok r) : r.length ≤ s.length := by
  fun_induction skipInside turn stack s with
  | case1 => cases h; exact Nat.le_refl _
  | case2 => cases h
  | case3 _ _ _ _ ha ih => exact Nat.le_trans (ih h) (Nat.le_of_lt (afterItem_length_lt ha))
  | case4 _ _ _ _ ha ih => exact Nat.le_trans (ih h) (Nat.le_of_lt (afterItem_length_lt ha))
  | case5 => simp [stopAt] at h
  | case6 => cases h
  | case7 s _ _ _ hb _ _ _ ho ih =>
    have hs := skipBlank_length_le s
    rw [hb, List.length_cons] at hs
    have h1 := opened_length_le ho
    have h2 := ih h
    omega
  | case8 s _ _ _ hb _ _ _ ho ih =>
    have hs := skipBlank_length_le s
    rw [hb, List.length_cons] at hs
    have h1 := opened_length_le ho
    have h2 := ih h
    omega
  | case9 => cases h
  | case10 s _ _ _ hb _ _ ho ih =>
    have hs := skipBlank_length_le s
    rw [hb, List.length_cons] at hs
    have h1 := skipScalar_length_le ho
    have h2 := ih h
    omega

end QueueBoard.Json
