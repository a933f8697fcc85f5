import Mathlib.Data.List.TakeWhile
import QueueBoard.Json.Grammar
import QueueBoard.Proofs.Text.Utf8

/-! # Reading texts

What is read as a text is one of its wordings, and every wording is read as its text.
-/
namespace QueueBoard.Json

def Gap.empty : Gap := ⟨[], by simp⟩

/-- Blanks after blanks. -/
def Gap.append (g h : Gap) : Gap where
  bytes := g.bytes ++ h.bytes
  blank := by
    intro b hb
    exact (List.mem_append.mp hb).elim (g.blank b) (h.blank b)

@[simp] theorem Gap.append_bytes (g h : Gap) : (g.append h).bytes = g.bytes ++ h.bytes := rfl

theorem exists_gap (s : Bytes) : ∃ gap : Gap, s = gap.bytes ++ skipBlank s :=
  ⟨⟨s.takeWhile isBlank, fun _ hb => List.mem_takeWhile_imp hb⟩, List.takeWhile_append_dropWhile.symm⟩

@[simp] theorem skipBlank_gap (gap : Gap) (s : Bytes) : skipBlank (gap.bytes ++ s) = skipBlank s :=
  List.dropWhile_append_of_pos gap.blank

theorem skipBlank_cons {b : UInt8} (h : isBlank b = false) (r : Bytes) :
    skipBlank (b :: r) = b :: r := List.dropWhile_cons_of_neg (by simp [h])

theorem word_append (letters r : Bytes) : word letters (letters ++ r) = .ok r := by
  induction letters with
  | nil => rfl
  | cons e es ih => simpa [word] using ih

theorem eq_append_of_word {letters s r : Bytes} (h : word letters s = .ok r) : s = letters ++ r := by
  induction letters generalizing s with
  | nil =>
    cases h
    rfl
  | cons e es ih =>
    cases s with
    | nil => simp [word, stop] at h
    | cons b s =>
      simp only [word] at h
      split at h
      · rename_i he
        rw [he, ih h]
        rfl
      · simp [stop] at h

section Escapes
variable {s r : Bytes} {n high : Nat} {c : Char}

theorem fourHex_of_value {p q t u : UInt8} (h : hexValue? p q t u = some n) (r : Bytes) :
    fourHex (p :: q :: t :: u :: r) = .ok (n, r) := by
  simp only [fourHex, h]

theorem value_of_fourHex (h : fourHex s = .ok (n, r)) :
    ∃ p q t u, hexValue? p q t u = some n ∧ s = p :: q :: t :: u :: r := by
  unfold fourHex at h
  split at h
  · split at h
    · rename_i hv
      cases h
      exact ⟨_, _, _, _, hv, rfl⟩
    · simp [stop] at h
  · simp [stop] at h

theorem halves_of_secondHalf (h : secondHalf high s = .ok (c, r)) :
    ∃ p q t u low, hexValue? p q t u = some low ∧ isLowHalf low = true ∧
      s = 0x5C :: 0x75 :: p :: q :: t :: u :: r ∧ c = joinHalves high low := by
  unfold secondHalf at h
  split at h
  · simp [stop] at h
  · split at h <;> simp [stop] at h
  · split at h
    · simp [stop] at h
    split at h
    · simp [stop] at h
    rename_i hb hc
    split at h
    · cases h
    rename_i hf
    obtain ⟨p, q, t, u, hv, rfl⟩ := value_of_fourHex hf
    split at h
    · rename_i hl
      simp only [Except.ok.injEq, Prod.mk.injEq] at h
      obtain ⟨rfl, rfl⟩ := h
      rw [Decidable.not_not.mp hb, Decidable.not_not.mp hc]
      exact ⟨p, q, t, u, _, hv, hl, rfl, rfl⟩
    · simp [stop] at h

theorem secondHalf_of_halves {p q t u : UInt8} {low : Nat} (h : hexValue? p q t u = some low)
    (hl : isLowHalf low = true) (high : Nat) (r : Bytes) :
    secondHalf high (0x5C :: 0x75 :: p :: q :: t :: u :: r) = .ok (joinHalves high low, r) := by
  simp [secondHalf, fourHex_of_value h, hl]

theorem isLowHalf_of_isHighHalf (h : isHighHalf n = true) : isLowHalf n = false := by
  simp only [isHighHalf, Bool.and_eq_true, decide_eq_true_eq] at h
  simp only [isLowHalf, Bool.and_eq_false_iff, decide_eq_false_iff_not]
  omega

/-- What is read as an escape is a spelling. -/
theorem spelling_of_escape (h : escape s = .ok (c, r)) :
    ∃ spelling : Spelling, 0x5C :: s = spelling.bytes ++ r ∧ spelling.char = c := by
  cases s with
  | nil => simp [escape, stop] at h
  | cons b s =>
    simp only [escape] at h
    split at h
    · rename_i hb
      subst hb
      unfold numbered at h
      split at h
      · cases h
      rename_i n r' hf
      obtain ⟨p, q, t, u, hv, rfl⟩ := value_of_fourHex hf
      split at h
      · simp [stop] at h
      rename_i hlow
      split at h
      · rename_i hhigh
        obtain ⟨p', q', t', u', low, hv', hl, hr, hc⟩ := halves_of_secondHalf h
        exact ⟨.paired p q t u p' q' t' u' n low hv hv' ⟨hhigh, hl⟩, by rw [hr]; rfl, hc.symm⟩
      · rename_i hhigh
        simp only [Except.ok.injEq, Prod.mk.injEq] at h
        obtain ⟨rfl, rfl⟩ := h
        exact ⟨.numbered p q t u n hv ⟨by simpa using hhigh, by simpa using hlow⟩, rfl, rfl⟩
    · split at h
      · rename_i hl
        cases h
        exact ⟨.lettered b c hl, rfl, rfl⟩
      · simp [stop] at h

theorem lettered?_ne {b : UInt8} (h : lettered? b = some c) : b ≠ 0x75 := by
  rintro rfl
  cases h

theorem escape_of_lettered {b : UInt8} (h : lettered? b = some c) (r : Bytes) :
    escape (b :: r) = .ok (c, r) := by
  simp [escape, lettered?_ne h, h]

theorem escape_of_numbered {p q t u : UInt8} (h : hexValue? p q t u = some n)
    (hh : isHighHalf n = false) (hl : isLowHalf n = false) (r : Bytes) :
    escape (0x75 :: p :: q :: t :: u :: r) = .ok (Char.ofNat n, r) := by
  simp [escape, numbered, fourHex_of_value h, hh, hl]

theorem escape_of_paired {p q t u p' q' t' u' : UInt8} {low : Nat}
    (h : hexValue? p q t u = some high) (h' : hexValue? p' q' t' u' = some low)
    (hh : isHighHalf high = true) (hl : isLowHalf low = true) (r : Bytes) :
    escape (0x75 :: p :: q :: t :: u :: 0x5C :: 0x75 :: p' :: q' :: t' :: u' :: r)
      = .ok (joinHalves high low, r) := by
  simp [escape, numbered, fourHex_of_value h, hh, isLowHalf_of_isHighHalf hh,
    secondHalf_of_halves h' hl]

end Escapes

theorem isPlain_iff {b : UInt8} :
    isPlain b = true ↔ b.toNat ≠ 0x22 ∧ b.toNat ≠ 0x5C ∧ 0x20 ≤ b.toNat := by
  simp [isPlain, ← UInt8.toNat_inj, UInt8.le_iff_toNat_le, and_assoc]

/-- A character stands for itself just when all its bytes do. -/
theorem forall_isPlain_iff {c : Char} :
    (∀ b ∈ String.utf8EncodeChar c, isPlain b = true) ↔ c ≠ '"' ∧ c ≠ '\\' ∧ 0x20 ≤ c.toNat := by
  have hquote : c ≠ '"' ↔ c.toNat ≠ 0x22 := not_congr Char.toNat_inj.symm
  have hslash : c ≠ '\\' ↔ c.toNat ≠ 0x5C := not_congr Char.toNat_inj.symm
  obtain ⟨a, t, he, hf⟩ := Utf8.form_encode c
  have htail : ∀ b ∈ t, isPlain b = true := by
    intro b hb
    have hb := Utf8.isTail_iff.mp (hf.isTail b hb)
    rw [isPlain_iff]
    omega
  rw [he, hquote, hslash, List.forall_mem_cons, and_iff_left htail, isPlain_iff]
  have hone := hf.one_or_more
  omega

theorem textTail_quote {s r : Bytes} (h : s.dropWhile isPlain = 0x22 :: r) :
    textTail s = .ok (s.takeWhile isPlain, r) := by
  rw [textTail]
  split
  · rename_i hd
    rw [h] at hd
    cases hd
  · rename_i b u hd
    rw [h] at hd
    cases hd
    rw [if_pos rfl]

theorem textTail_escape {s r r' t u : Bytes} {c : Char} (h : s.dropWhile isPlain = 0x5C :: r)
    (he : escape r = .ok (c, r')) (ht : textTail r' = .ok (t, u)) :
    textTail s = .ok (s.takeWhile isPlain ++ String.utf8EncodeChar c ++ t, u) := by
  rw [textTail]
  split
  · rename_i hd
    rw [h] at hd
    cases hd
  · rename_i b v hd
    rw [h] at hd
    cases hd
    rw [if_neg (by decide), if_pos rfl]
    split
    · rename_i hf
      rw [he] at hf
      cases hf
    · rename_i hf
      rw [he] at hf
      cases hf
      simp only [ht]

/-- A text goes on up to its closing quote or its next escape. -/
theorem cases_of_textTail {s t r : Bytes} (h : textTail s = .ok (t, r)) :
    s.dropWhile isPlain = 0x22 :: r ∧ t = s.takeWhile isPlain ∨
    ∃ u v w c, s.dropWhile isPlain = 0x5C :: u ∧ escape u = .ok (c, v) ∧ textTail v = .ok (w, r) ∧
      t = s.takeWhile isPlain ++ String.utf8EncodeChar c ++ w := by
  rw [textTail] at h
  split at h
  · simp [stop] at h
  rename_i b u hd
  split at h
  · rename_i hb
    cases h
    exact .inl ⟨hb ▸ hd, rfl⟩
  split at h
  · rename_i hb
    split at h
    · cases h
    rename_i c v he
    split at h
    · cases h
    rename_i w r' ht
    cases h
    exact .inr ⟨u, v, w, c, hb ▸ hd, he, ht, rfl⟩
  · simp [stop] at h

theorem textTail_plain {p s t r : Bytes} (hp : ∀ b ∈ p, isPlain b = true)
    (h : textTail s = .ok (t, r)) : textTail (p ++ s) = .ok (p ++ t, r) := by
  have hd : (p ++ s).dropWhile isPlain = s.dropWhile isPlain := List.dropWhile_append_of_pos hp
  have htake : (p ++ s).takeWhile isPlain = p ++ s.takeWhile isPlain :=
    List.takeWhile_append_of_pos hp
  rcases cases_of_textTail h with ⟨hs, rfl⟩ | ⟨u, v, w, c, hs, he, ht, rfl⟩
  · rw [textTail_quote (hd.trans hs), htake]
  · rw [textTail_escape (hd.trans hs) he ht, htake]
    simp only [List.append_assoc]

theorem textTail_escaped {s t r r' : Bytes} {c : Char} (he : escape s = .ok (c, r))
    (h : textTail r = .ok (t, r')) :
    textTail (0x5C :: s) = .ok (String.utf8EncodeChar c ++ t, r') :=
  textTail_escape (s := 0x5C :: s) rfl he h

/-- A spelling at the front is read as its character. -/
theorem textTail_spelling (spelling : Spelling) {s t r : Bytes} (h : textTail s = .ok (t, r)) :
    textTail (spelling.bytes ++ s) = .ok (String.utf8EncodeChar spelling.char ++ t, r) := by
  cases spelling with
  | plain c hc => exact textTail_plain (forall_isPlain_iff.mpr hc) h
  | lettered letter c hl => exact textTail_escaped (escape_of_lettered hl s) h
  | numbered p q t u n hv whole => exact textTail_escaped (escape_of_numbered hv whole.1 whole.2 s) h
  | paired p q t u p' q' t' u' high low hv hv' halves =>
    exact textTail_escaped (escape_of_paired hv hv' halves.1 halves.2 s) h

theorem textTail_spellings (spellings : List Spelling) (r : Bytes) :
    textTail (spellings.flatMap Spelling.bytes ++ 0x22 :: r)
      = .ok (Utf8.encode (spellings.map Spelling.char), r) := by
  induction spellings with
  | nil => exact textTail_quote (s := 0x22 :: r) rfl
  | cons spelling spellings ih =>
    rw [List.flatMap_cons, List.append_assoc, textTail_spelling spelling ih]
    rfl

theorem exists_plain_spellings {cs : List Char} (h : ∀ b ∈ Utf8.encode cs, isPlain b = true) :
    ∃ l : List Spelling, l.flatMap Spelling.bytes = Utf8.encode cs ∧ l.map Spelling.char = cs := by
  induction cs with
  | nil => exact ⟨[], rfl, rfl⟩
  | cons c cs ih =>
    rw [Utf8.encode_cons] at h
    obtain ⟨l, hl, rfl⟩ := ih (fun b hb => h b (List.mem_append_right _ hb))
    have hc := forall_isPlain_iff.mp (fun b hb => h b (List.mem_append_left _ hb))
    refine ⟨.plain c hc :: l, ?_, rfl⟩
    rw [List.flatMap_cons, hl]
    rfl

/-- What is read as the bytes of characters is made of spellings of them. -/
theorem spellings_of_textTail {cs : List Char} {s t r : Bytes} (h : textTail s = .ok (t, r))
    (ht : t = Utf8.encode cs) :
    ∃ l : List Spelling, s = l.flatMap Spelling.bytes ++ 0x22 :: r ∧ l.map Spelling.char = cs := by
  induction hn : s.length using Nat.strong_induction_on generalizing s t cs with
  | _ n ih =>
    have hs : s.takeWhile isPlain ++ s.dropWhile isPlain = s := List.takeWhile_append_dropWhile
    have hplain : ∀ b ∈ s.takeWhile isPlain, isPlain b = true := fun b hb => List.mem_takeWhile_imp hb
    rcases cases_of_textTail h with ⟨hd, rfl⟩ | ⟨u, v, w, c, hd, he, hw, rfl⟩
    · rw [ht] at hplain hs
      obtain ⟨l, hl, rfl⟩ := exists_plain_spellings hplain
      exact ⟨l, by rw [hl, ← hs, hd], rfl⟩
    · rw [List.append_assoc] at ht
      obtain ⟨ds, es, rfl, hds, rfl⟩ := Utf8.encode_eq_append ht.symm
      have hlength : v.length < n := by
        have h1 := escape_length_lt he
        have h2 := congrArg List.length hs
        rw [hd] at h2
        simp only [List.length_append, List.length_cons] at h2
        omega
      obtain ⟨k, rfl, rfl⟩ := ih v.length hlength hw rfl rfl
      obtain ⟨spelling, hspelling, rfl⟩ := spelling_of_escape he
      rw [hds] at hplain hs
      obtain ⟨l, hl, rfl⟩ := exists_plain_spellings hplain
      refine ⟨l ++ spelling :: k, ?_, by simp⟩
      rw [← hs, hd, hspelling, ← hl]
      simp

theorem Wording.bytes_append (w : Wording) (r : Bytes) :
    w.bytes ++ r = 0x22 :: (w.spellings.flatMap Spelling.bytes ++ 0x22 :: r) := by
  simp [Wording.bytes]

/-- Every wording is read as its text. -/
theorem text_wording (w : Wording) (r : Bytes) :
    text (w.spellings.flatMap Spelling.bytes ++ 0x22 :: r) = .ok (w.text, r) := by
  unfold text
  rw [textTail_spellings]
  simp only [Utf8.strict_encode]
  rfl

/-- What is read as a text is one of its wordings. -/
theorem wording_of_text {s r : Bytes} {t : String} (h : text s = .ok (t, r)) :
    ∃ w : Wording, 0x22 :: s = w.bytes ++ r ∧ w.text = t := by
  unfold text at h
  split at h
  · cases h
  rename_i u r' hu
  split at h
  · rename_i cs hcs
    cases h
    obtain ⟨l, rfl, rfl⟩ := spellings_of_textTail hu (Utf8.eq_encode_of_strict hcs)
    exact ⟨⟨l⟩, (Wording.bytes_append ⟨l⟩ r).symm, rfl⟩
  · cases h

end QueueBoard.Json
