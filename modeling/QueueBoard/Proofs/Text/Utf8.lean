import Mathlib.Data.List.Basic
import QueueBoard.Text.Utf8

/-! # Strict reading is the inverse of UTF-8

The bytes that are read strictly are those of characters one after the other, and a character in the
middle of such bytes is one of those characters: its first byte is no continuation byte, so it does
not start inside another one.
-/
namespace QueueBoard.Utf8

/-- The bytes of characters one after the other. -/
def encode (cs : List Char) : Bytes := cs.flatMap String.utf8EncodeChar

@[simp] theorem encode_nil : encode [] = [] := rfl

@[simp] theorem encode_cons (c : Char) (cs : List Char) :
    encode (c :: cs) = String.utf8EncodeChar c ++ encode cs := rfl

@[simp] theorem encode_append (cs ds : List Char) : encode (cs ++ ds) = encode cs ++ encode ds :=
  List.flatMap_append

theorem isTail_iff {b : UInt8} : isTail b = true ↔ 0x80 ≤ b.toNat ∧ b.toNat ≤ 0xBF := by
  simp [isTail, UInt8.le_iff_toNat_le]

theorem second3_iff {a b : UInt8} : second3 a b = true ↔
    0x80 ≤ b.toNat ∧ b.toNat ≤ 0xBF ∧ (a.toNat = 0xE0 → 0xA0 ≤ b.toNat) ∧
      (a.toNat = 0xED → b.toNat ≤ 0x9F) := by
  simp only [second3, isTail, ← UInt8.toNat_inj, UInt8.le_iff_toNat_le, UInt8.reduceToNat]
  split
  · simp only [Bool.and_eq_true, decide_eq_true_eq]
    omega
  · split <;> simp only [Bool.and_eq_true, decide_eq_true_eq] <;> omega

theorem second4_iff {a b : UInt8} : second4 a b = true ↔
    0x80 ≤ b.toNat ∧ b.toNat ≤ 0xBF ∧ (a.toNat = 0xF0 → 0x90 ≤ b.toNat) ∧
      (a.toNat = 0xF4 → b.toNat ≤ 0x8F) := by
  simp only [second4, isTail, ← UInt8.toNat_inj, UInt8.le_iff_toNat_le, UInt8.reduceToNat]
  split
  · simp only [Bool.and_eq_true, decide_eq_true_eq]
    omega
  · split <;> simp only [Bool.and_eq_true, decide_eq_true_eq] <;> omega

theorem between_iff {a : UInt8} (low high : UInt8) :
    (decide (low ≤ a) && decide (a ≤ high)) = true ↔
      low.toNat ≤ a.toNat ∧ a.toNat ≤ high.toNat := by
  simp only [Bool.and_eq_true, decide_eq_true_eq, UInt8.le_iff_toNat_le]

section Next
variable {a b c d : UInt8} (r : Bytes)

theorem next_one (h : a.toNat < 0x80) : next a r = (some (Char.ofNat a.toNat), r) := by
  have ha : a < 0x80 := UInt8.lt_iff_toNat_lt.mpr h
  rw [next.eq_def, if_pos ha]

theorem next_two (h : 0xC2 ≤ a.toNat ∧ a.toNat ≤ 0xDF) (hb : isTail b = true) :
    next a (b :: r) = (some (Char.ofNat (a.toNat % 32 * 64 + tailBits b)), r) := by
  have h1 : ¬ a < 0x80 := by
    simp only [UInt8.lt_iff_toNat_lt, UInt8.reduceToNat]
    omega
  rw [next.eq_def, if_neg h1, if_pos ((between_iff 0xC2 0xDF).mpr h)]
  simp only [hb, if_true]

theorem next_three (h : 0xE0 ≤ a.toNat ∧ a.toNat ≤ 0xEF) (hb : second3 a b = true)
    (hc : isTail c = true) :
    next a (b :: c :: r)
      = (some (Char.ofNat (a.toNat % 16 * 4096 + tailBits b * 64 + tailBits c)), r) := by
  have h1 : ¬ a < 0x80 := by
    simp only [UInt8.lt_iff_toNat_lt, UInt8.reduceToNat]
    omega
  have h2 : ¬ (decide (0xC2 ≤ a) && decide (a ≤ 0xDF)) = true := by
    simp only [between_iff, UInt8.reduceToNat]
    omega
  rw [next.eq_def, if_neg h1, if_neg h2, if_pos ((between_iff 0xE0 0xEF).mpr h)]
  simp only [hb, hc, if_true]

theorem next_four (h : 0xF0 ≤ a.toNat ∧ a.toNat ≤ 0xF4) (hb : second4 a b = true)
    (hc : isTail c = true) (hd : isTail d = true) :
    next a (b :: c :: d :: r)
      = (some (Char.ofNat (a.toNat % 8 * 262144 + tailBits b * 4096 + tailBits c * 64 + tailBits d)),
        r) := by
  have h1 : ¬ a < 0x80 := by
    simp only [UInt8.lt_iff_toNat_lt, UInt8.reduceToNat]
    omega
  have h2 : ¬ (decide (0xC2 ≤ a) && decide (a ≤ 0xDF)) = true := by
    simp only [between_iff, UInt8.reduceToNat]
    omega
  have h3 : ¬ (decide (0xE0 ≤ a) && decide (a ≤ 0xEF)) = true := by
    simp only [between_iff, UInt8.reduceToNat]
    omega
  rw [next.eq_def, if_neg h1, if_neg h2, if_neg h3, if_pos ((between_iff 0xF0 0xF4).mpr h)]
  simp only [hb, hc, hd, if_true]

/-- The four forms of a piece that is a character, with its bytes after the first one. -/
inductive Form (a : UInt8) : Bytes → Nat → Prop
  | one : a.toNat < 0x80 → Form a [] a.toNat
  | two {b : UInt8} : 0xC2 ≤ a.toNat ∧ a.toNat ≤ 0xDF → isTail b = true →
      Form a [b] (a.toNat % 32 * 64 + tailBits b)
  | three {b c : UInt8} : 0xE0 ≤ a.toNat ∧ a.toNat ≤ 0xEF → second3 a b = true → isTail c = true →
      Form a [b, c] (a.toNat % 16 * 4096 + tailBits b * 64 + tailBits c)
  | four {b c d : UInt8} : 0xF0 ≤ a.toNat ∧ a.toNat ≤ 0xF4 → second4 a b = true →
      isTail c = true → isTail d = true →
      Form a [b, c, d] (a.toNat % 8 * 262144 + tailBits b * 4096 + tailBits c * 64 + tailBits d)

theorem next_of_form {t : Bytes} {n : Nat} (h : Form a t n) :
    next a (t ++ r) = (some (Char.ofNat n), r) := by
  cases h with
  | one h => exact next_one r h
  | two h hb => exact next_two r h hb
  | three h hb hc => exact next_three r h hb hc
  | four h hb hc hd => exact next_four r h hb hc hd

theorem form_of_next {s : Bytes} {x : Char} (h : next a s = (some x, r)) :
    ∃ t n, Form a t n ∧ s = t ++ r ∧ x = Char.ofNat n := by
  rw [next.eq_def] at h
  split at h
  · rename_i ha
    cases h
    exact ⟨_, _, .one (UInt8.lt_iff_toNat_lt.mp ha), rfl, rfl⟩
  split at h
  · rename_i ha
    have ha := (between_iff 0xC2 0xDF).mp ha
    split at h
    · split at h
      · rename_i hb
        cases h
        exact ⟨_, _, .two ha hb, rfl, rfl⟩
      · cases h
    · cases h
  split at h
  · rename_i ha
    have ha := (between_iff 0xE0 0xEF).mp ha
    split at h
    · split at h
      · rename_i hb
        split at h
        · rename_i hc
          cases h
          exact ⟨_, _, .three ha hb hc, rfl, rfl⟩
        · cases h
      · cases h
    · split at h <;> cases h
    · cases h
  split at h
  · rename_i ha
    have ha := (between_iff 0xF0 0xF4).mp ha
    split at h
    · split at h
      · rename_i hb
        split at h
        · rename_i hc
          split at h
          · rename_i hd
            cases h
            exact ⟨_, _, .four ha hb hc hd, rfl, rfl⟩
          · cases h
        · cases h
      · cases h
    · split at h
      · split at h <;> cases h
      · cases h
    · split at h <;> cases h
    · cases h
  · cases h

end Next

theorem Form.not_isTail {a : UInt8} {t : Bytes} {n : Nat} (h : Form a t n) : isTail a = false := by
  rw [← Bool.not_eq_true, isTail_iff]
  cases h <;> omega

theorem Form.isTail {a : UInt8} {t : Bytes} {n : Nat} (h : Form a t n) :
    ∀ b ∈ t, Utf8.isTail b = true := by
  have hthree {b : UInt8} (hb : second3 a b = true) : Utf8.isTail b = true :=
    isTail_iff.mpr ⟨(second3_iff.mp hb).1, (second3_iff.mp hb).2.1⟩
  have hfour {b : UInt8} (hb : second4 a b = true) : Utf8.isTail b = true :=
    isTail_iff.mpr ⟨(second4_iff.mp hb).1, (second4_iff.mp hb).2.1⟩
  cases h with
  | one => simp
  | two h hb => simp [hb]
  | three h hb hc => simp [hthree hb, hc]
  | four h hb hc hd => simp [hfour hb, hc, hd]

/-- A character is written in one byte just when its number is below 128. -/
theorem Form.one_or_more {a : UInt8} {t : Bytes} {n : Nat} (h : Form a t n) :
    a.toNat = n ∧ n < 0x80 ∨ 0xC2 ≤ a.toNat ∧ 0x80 ≤ n := by
  cases h with
  | one ha => exact .inl ⟨rfl, ha⟩
  | two ha hb => exact .inr (by omega)
  | three ha hb hc =>
    have hb := second3_iff.mp hb
    simp only [tailBits]
    omega
  | four ha hb hc hd =>
    have hb := second4_iff.mp hb
    simp only [tailBits]
    omega

theorem toNat_valid (c : Char) : c.toNat < 0xD800 ∨ 0xDFFF < c.toNat ∧ c.toNat < 0x110000 := c.valid

theorem toNat_ofNat {n : Nat} (h : n < 0xD800 ∨ 0xDFFF < n ∧ n < 0x110000) :
    (Char.ofNat n).toNat = n := by
  have hv : n.isValidChar := h
  rw [Char.ofNat, dif_pos hv]
  rfl

theorem toNat_byte {n : Nat} (h : n < 256) : (UInt8.ofNat n).toNat = n := by
  rw [UInt8.toNat_ofNat']
  exact Nat.mod_eq_of_lt h

section Number
variable {n : Nat}

theorem form_two (h : 0x80 ≤ n ∧ n < 0x800) :
    Form (UInt8.ofNat (n / 64 % 0x20 + 0xC0)) [UInt8.ofNat (n % 0x40 + 0x80)] n := by
  generalize ha : UInt8.ofNat (n / 64 % 0x20 + 0xC0) = a
  generalize hb : UInt8.ofNat (n % 0x40 + 0x80) = b
  have ha' : a.toNat = n / 64 % 0x20 + 0xC0 := ha ▸ toNat_byte (by omega)
  have hb' : b.toNat = n % 0x40 + 0x80 := hb ▸ toNat_byte (by omega)
  have hn : a.toNat % 32 * 64 + tailBits b = n := by
    unfold tailBits
    omega
  have hf := Form.two (a := a) (b := b) (by omega) (isTail_iff.mpr (by omega))
  exact hn ▸ hf

theorem form_three (h : 0x800 ≤ n ∧ n < 0x10000) (hv : n < 0xD800 ∨ 0xDFFF < n) :
    Form (UInt8.ofNat (n / 4096 % 0x10 + 0xE0))
      [UInt8.ofNat (n / 64 % 0x40 + 0x80), UInt8.ofNat (n % 0x40 + 0x80)] n := by
  generalize ha : UInt8.ofNat (n / 4096 % 0x10 + 0xE0) = a
  generalize hb : UInt8.ofNat (n / 64 % 0x40 + 0x80) = b
  generalize hc : UInt8.ofNat (n % 0x40 + 0x80) = c
  have ha' : a.toNat = n / 4096 % 0x10 + 0xE0 := ha ▸ toNat_byte (by omega)
  have hb' : b.toNat = n / 64 % 0x40 + 0x80 := hb ▸ toNat_byte (by omega)
  have hc' : c.toNat = n % 0x40 + 0x80 := hc ▸ toNat_byte (by omega)
  have hn : a.toNat % 16 * 4096 + tailBits b * 64 + tailBits c = n := by
    unfold tailBits
    omega
  have hf := Form.three (a := a) (b := b) (c := c) (by omega) (second3_iff.mpr (by omega))
    (isTail_iff.mpr (by omega))
  exact hn ▸ hf

theorem form_four (h : 0x10000 ≤ n ∧ n < 0x110000) :
    Form (UInt8.ofNat (n / 262144 % 0x08 + 0xF0))
      [UInt8.ofNat (n / 4096 % 0x40 + 0x80), UInt8.ofNat (n / 64 % 0x40 + 0x80),
        UInt8.ofNat (n % 0x40 + 0x80)] n := by
  generalize ha : UInt8.ofNat (n / 262144 % 0x08 + 0xF0) = a
  generalize hb : UInt8.ofNat (n / 4096 % 0x40 + 0x80) = b
  generalize hc : UInt8.ofNat (n / 64 % 0x40 + 0x80) = c
  generalize hd : UInt8.ofNat (n % 0x40 + 0x80) = d
  have ha' : a.toNat = n / 262144 % 0x08 + 0xF0 := ha ▸ toNat_byte (by omega)
  have hb' : b.toNat = n / 4096 % 0x40 + 0x80 := hb ▸ toNat_byte (by omega)
  have hc' : c.toNat = n / 64 % 0x40 + 0x80 := hc ▸ toNat_byte (by omega)
  have hd' : d.toNat = n % 0x40 + 0x80 := hd ▸ toNat_byte (by omega)
  have hn : a.toNat % 8 * 262144 + tailBits b * 4096 + tailBits c * 64 + tailBits d = n := by
    unfold tailBits
    omega
  have hf := Form.four (a := a) (b := b) (c := c) (d := d) (by omega) (second4_iff.mpr (by omega))
    (isTail_iff.mpr (by omega)) (isTail_iff.mpr (by omega))
  exact hn ▸ hf

end Number

/-- The bytes of a character are one of the four forms. -/
theorem form_encode (c : Char) : ∃ a t, String.utf8EncodeChar c = a :: t ∧ Form a t c.toNat := by
  have hv := toNat_valid c
  simp only [String.utf8EncodeChar, Char.toNat_val]
  split
  · have hn : (UInt8.ofNat c.toNat).toNat = c.toNat := toNat_byte (by omega)
    have hf := Form.one (a := UInt8.ofNat c.toNat) (by omega)
    rw [hn] at hf
    exact ⟨_, [], rfl, hf⟩
  split
  · exact ⟨_, _, rfl, form_two (by omega)⟩
  split
  · exact ⟨_, _, rfl, form_three (by omega) (by omega)⟩
  · exact ⟨_, _, rfl, form_four (by omega)⟩

theorem encode_of_form {a : UInt8} {t : Bytes} {n : Nat} (h : Form a t n) :
    String.utf8EncodeChar (Char.ofNat n) = a :: t := by
  have hbyte (x : UInt8) {m : Nat} (hm : m = x.toNat) : UInt8.ofNat m = x := by
    rw [hm, UInt8.ofNat_toNat]
  cases h with
  | one ha =>
    simp only [String.utf8EncodeChar, Char.toNat_val]
    rw [toNat_ofNat (by omega), if_pos (by omega), UInt8.ofNat_toNat]
  | @two b ha hb =>
    have hb := isTail_iff.mp hb
    have hn : a.toNat % 32 * 64 + tailBits b = (a.toNat - 0xC0) * 64 + (b.toNat - 0x80) := by
      unfold tailBits
      omega
    simp only [String.utf8EncodeChar, Char.toNat_val]
    rw [toNat_ofNat (by omega), hn, if_neg (by omega), if_pos (by omega), hbyte a (by omega),
      hbyte b (by omega)]
  | @three b c ha hb hc =>
    have hb := second3_iff.mp hb
    have hc := isTail_iff.mp hc
    have hn : a.toNat % 16 * 4096 + tailBits b * 64 + tailBits c
        = (a.toNat - 0xE0) * 4096 + (b.toNat - 0x80) * 64 + (c.toNat - 0x80) := by
      unfold tailBits
      omega
    simp only [String.utf8EncodeChar, Char.toNat_val]
    rw [toNat_ofNat (by omega), hn, if_neg (by omega), if_neg (by omega), if_pos (by omega),
      hbyte a (by omega), hbyte b (by omega), hbyte c (by omega)]
  | @four b c d ha hb hc hd =>
    have hb := second4_iff.mp hb
    have hc := isTail_iff.mp hc
    have hd := isTail_iff.mp hd
    have hn : a.toNat % 8 * 262144 + tailBits b * 4096 + tailBits c * 64 + tailBits d
        = (a.toNat - 0xF0) * 262144 + (b.toNat - 0x80) * 4096 + (c.toNat - 0x80) * 64
          + (d.toNat - 0x80) := by
      unfold tailBits
      omega
    simp only [String.utf8EncodeChar, Char.toNat_val]
    rw [toNat_ofNat (by omega), hn, if_neg (by omega), if_neg (by omega), if_neg (by omega),
      hbyte a (by omega), hbyte b (by omega), hbyte c (by omega), hbyte d (by omega)]

/-- A character is read off the front of its bytes. -/
theorem next_encode {c : Char} {a : UInt8} {t : Bytes} (h : String.utf8EncodeChar c = a :: t)
    (r : Bytes) : next a (t ++ r) = (some c, r) := by
  obtain ⟨a', t', he, hf⟩ := form_encode c
  obtain ⟨rfl, rfl⟩ := List.cons.inj (h.symm.trans he)
  rw [next_of_form r hf, Char.ofNat_toNat]

theorem encode_of_next {a : UInt8} {s r : Bytes} {c : Char} (h : next a s = (some c, r)) :
    a :: s = String.utf8EncodeChar c ++ r := by
  obtain ⟨t, n, hf, rfl, rfl⟩ := form_of_next r h
  rw [encode_of_form hf]
  rfl

@[simp] theorem strict_encode (cs : List Char) : strict (encode cs) = .ok cs := by
  induction cs with
  | nil => simp [strict]
  | cons c cs ih =>
    obtain ⟨a, t, he, -⟩ := form_encode c
    rw [encode_cons, he, List.cons_append, strict]
    simp only [next_encode he, ih]
    rfl

theorem eq_encode_of_strict {s : Bytes} {cs : List Char} (h : strict s = .ok cs) : s = encode cs := by
  fun_induction strict s generalizing cs with
  | case1 =>
    cases h
    rfl
  | case2 a r hn => cases h
  | case3 a r c hn ih =>
    cases hr : strict (next a r).2 with
    | error left => simp [hr, Except.map] at h
    | ok ds =>
      simp only [hr, Except.map, Except.ok.injEq] at h
      subst h
      have hnext : next a r = (some c, (next a r).2) := Prod.ext hn rfl
      rw [encode_of_next hnext, ih hr]
      rfl

/-- The bytes of a text are those that are read as it. -/
theorem text?_eq_some_iff {s : Bytes} {text : String} : text? s = some text ↔ s = bytesOf text := by
  unfold text?
  constructor
  · intro h
    split at h
    · rename_i cs hs
      rw [← Option.some.inj h, bytesOf, String.toList_ofList]
      exact eq_encode_of_strict hs
    · cases h
  · rintro rfl
    have hstrict : strict (bytesOf text) = .ok text.toList := strict_encode text.toList
    simp only [hstrict, String.ofList_toList]

/-- A character in the middle of bytes of characters is one of them. -/
theorem encode_eq_append {cs : List Char} {c : Char} {front back : Bytes}
    (h : encode cs = front ++ (String.utf8EncodeChar c ++ back)) :
    ∃ ds es, cs = ds ++ c :: es ∧ front = encode ds ∧ back = encode es := by
  obtain ⟨a, t, he, hf⟩ := form_encode c
  rw [he] at h
  induction cs generalizing front with
  | nil => simp at h
  | cons d cs ih =>
    obtain ⟨b, u, hd, hg⟩ := form_encode d
    rw [encode_cons, hd] at h
    cases front with
    | nil =>
      obtain ⟨rfl, htail⟩ : b = a ∧ u ++ encode cs = t ++ back := List.cons.inj h
      have hnext := next_encode hd (encode cs)
      rw [htail, next_encode he] at hnext
      cases hnext
      exact ⟨[], cs, rfl, rfl, rfl⟩
    | cons x front =>
      obtain ⟨rfl, htail⟩ := List.cons.inj h
      -- The character does not start inside the bytes of the first one.
      rcases List.append_eq_append_iff.mp htail with ⟨rest, rfl, hrest⟩ | ⟨rest, rfl, hrest⟩
      · obtain ⟨ds, es, rfl, rfl, rfl⟩ := ih hrest
        exact ⟨d :: ds, es, rfl, by rw [encode_cons, hd]; rfl, rfl⟩
      · cases rest with
        | nil =>
          obtain ⟨ds, es, rfl, hds, rfl⟩ := @ih [] hrest.symm
          exact ⟨d :: ds, es, rfl, by rw [encode_cons, hd, ← hds]; simp, rfl⟩
        | cons y rest =>
          obtain ⟨rfl, -⟩ := List.cons.inj hrest
          have hy := hg.isTail a (by simp)
          rw [hf.not_isTail] at hy
          cases hy

end QueueBoard.Utf8
