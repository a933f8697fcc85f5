import QueueBoard.Json.Skip
import QueueBoard.Proofs.Json.Texts

/-! # Passing over texts, numbers and words

What is passed over as a value without members is one of the grammar, and every one is passed over, as
long as what comes after it does not go on with its number.
-/
namespace QueueBoard.Json

theorem colon_gap (gap : Gap) (r : Bytes) : colon (gap.bytes ++ 0x3A :: r) = .ok r := by
  unfold colon
  rw [skipBlank_gap, skipBlank_cons rfl]
  rfl

theorem gap_of_colon {s r : Bytes} (h : colon s = .ok r) : ∃ gap : Gap, s = gap.bytes ++ 0x3A :: r := by
  obtain ⟨gap, hs⟩ := exists_gap s
  unfold colon at h
  split at h
  · simp [stopAt] at h
  · rename_i b u hu
    split at h
    · rename_i hb
      cases h
      exact ⟨gap, by rw [hs, hu, hb]⟩
    · simp [stopAt] at h

section Texts
variable {s r : Bytes}

theorem skipText_quote (h : s.dropWhile isPlain = 0x22 :: r) : skipText s = .ok r := by
  rw [skipText]
  split
  · rename_i hd
    rw [h] at hd
    cases hd
  · rename_i b u hd
    rw [h] at hd
    cases hd
    rw [if_pos rfl]

theorem skipText_escape {u : Bytes} (h : s.dropWhile isPlain = 0x5C :: u)
    (he : skipEscape u = .ok r) : skipText s = skipText r := by
  rw [skipText]
  split
  · rename_i hd
    rw [h] at hd
    cases hd
  · rename_i b v hd
    rw [h] at hd
    cases hd
    rw [if_neg (by decide), if_pos rfl]
    split
    · rename_i hf
      rw [he] at hf
      cases hf
    · rename_i hf
      rw [he] at hf
      cases hf
      rfl

theorem cases_of_skipText (h : skipText s = .ok r) :
    s.dropWhile isPlain = 0x22 :: r ∨
    ∃ u v, s.dropWhile isPlain = 0x5C :: u ∧ skipEscape u = .ok v ∧ skipText v = .ok r := by
  rw [skipText] at h
  split at h
  · simp [stop] at h
  rename_i b u hd
  split at h
  · rename_i hb
    cases h
    exact .inl (hb ▸ hd)
  split at h
  · rename_i hb
    split at h
    · cases h
    rename_i v he
    exact .inr ⟨u, v, hb ▸ hd, he, h⟩
  · simp [stop] at h

theorem skipText_plain {b : UInt8} (hb : isPlain b = true) (h : skipText s = .ok r) :
    skipText (b :: s) = .ok r := by
  have hd : (b :: s).dropWhile isPlain = s.dropWhile isPlain := List.dropWhile_cons_of_pos hb
  rcases cases_of_skipText h with hs | ⟨u, v, hs, he, hv⟩
  · exact skipText_quote (hd.trans hs)
  · rw [skipText_escape (hd.trans hs) he, hv]

/-- The inside of a text is passed over up to the closing quote. -/
theorem skipText_loose {k : Bytes} (h : LooseText k) (r : Bytes) : skipText (k ++ 0x22 :: r) = .ok r := by
  induction h with
  | nil => exact skipText_quote (s := 0x22 :: r) rfl
  | plain hb hs ih => exact skipText_plain hb ih
  | @lettered b s hb hs ih =>
    have he : skipEscape (b :: (s ++ 0x22 :: r)) = .ok (s ++ 0x22 :: r) := by
      obtain ⟨c, hc⟩ := Option.isSome_iff_exists.mp hb
      simp [skipEscape, lettered?_ne hc, hc]
    exact (skipText_escape (s := 0x5C :: b :: (s ++ 0x22 :: r)) rfl he).trans ih
  | @numbered p q u t s hv hs ih =>
    have he : skipEscape (0x75 :: p :: q :: u :: t :: (s ++ 0x22 :: r)) = .ok (s ++ 0x22 :: r) := by
      obtain ⟨n, hn⟩ := Option.isSome_iff_exists.mp hv
      simp [skipEscape, fourHex_of_value hn]
    exact (skipText_escape (s := 0x5C :: 0x75 :: p :: q :: u :: t :: (s ++ 0x22 :: r)) rfl he).trans ih

theorem LooseText.plain_append {p k : Bytes} (hp : ∀ b ∈ p, isPlain b = true) (h : LooseText k) :
    LooseText (p ++ k) := by
  induction p with
  | nil => exact h
  | cons b p ih =>
    rw [List.forall_mem_cons] at hp
    exact .plain hp.1 (ih hp.2)

theorem LooseText.of_skipEscape {k : Bytes} (h : skipEscape s = .ok r) (hk : LooseText k) :
    ∃ e, s = e ++ r ∧ LooseText (0x5C :: e ++ k) := by
  cases s with
  | nil => simp [skipEscape, stop] at h
  | cons b s =>
    simp only [skipEscape] at h
    split at h
    · rename_i hb
      split at h
      · cases h
      rename_i n r' hf
      cases h
      obtain ⟨p, q, t, u, hv, rfl⟩ := value_of_fourHex hf
      exact ⟨[b, p, q, t, u], rfl, hb ▸ .numbered (by rw [hv]; rfl) hk⟩
    · split at h
      · rename_i hl
        cases h
        exact ⟨[b], rfl, .lettered hl hk⟩
      · simp [stop] at h

/-- What is passed over as a text is one. -/
theorem loose_of_skipText (h : skipText s = .ok r) : ∃ k, LooseText k ∧ s = k ++ 0x22 :: r := by
  induction hn : s.length using Nat.strong_induction_on generalizing s with
  | _ n ih =>
    have hs : s.takeWhile isPlain ++ s.dropWhile isPlain = s := List.takeWhile_append_dropWhile
    have hplain : ∀ b ∈ s.takeWhile isPlain, isPlain b = true := fun b hb => List.mem_takeWhile_imp hb
    rcases cases_of_skipText h with hd | ⟨u, v, hd, he, hv⟩
    · refine ⟨s.takeWhile isPlain, ?_, by rw [← hd, hs]⟩
      simpa using LooseText.nil.plain_append hplain
    · have hlength : v.length < n := by
        have h1 := skipEscape_length_lt he
        have h2 := congrArg List.length hs
        rw [hd] at h2
        simp only [List.length_append, List.length_cons] at h2
        omega
      obtain ⟨k, hk, rfl⟩ := ih v.length hlength hv rfl
      obtain ⟨e, rfl, hek⟩ := LooseText.of_skipEscape he hk
      refine ⟨s.takeWhile isPlain ++ (0x5C :: e ++ k), hek.plain_append hplain, hs.symm.trans ?_⟩
      rw [hd]
      simp

end Texts

/-- Whether bytes do not go on with a number that comes before them. -/
def EndsNumber (r : Bytes) : Prop :=
  ∀ b ∈ r.head?, isDigit b = false ∧ b ≠ 0x2E ∧ isExponentMark b = false

section Numbers
variable {s r : Bytes}

theorem isDigit_ne {b c : UInt8} (h : isDigit b = true) (hc : isDigit c = false) : b ≠ c := by
  rintro rfl
  rw [h] at hc
  cases hc

theorem isDigit_of_isExponentMark {b : UInt8} (h : isExponentMark b = true) : isDigit b = false := by
  simp only [isExponentMark, Bool.or_eq_true, decide_eq_true_eq] at h
  rcases h with rfl | rfl <;> rfl

theorem dropWhile_digits {ds : Bytes} (hd : ∀ b ∈ ds, isDigit b = true)
    (hr : ∀ b ∈ r.head?, isDigit b = false) : (ds ++ r).dropWhile isDigit = r := by
  rw [List.dropWhile_append_of_pos hd]
  cases r with
  | nil => rfl
  | cons b r =>
    refine List.dropWhile_cons_of_neg ?_
    simpa using hr b rfl

/-- The digits at the front are told from what follows them. -/
theorem digits_of_dropWhile (s : Bytes) :
    ∃ ds, (∀ b ∈ ds, isDigit b = true) ∧ s = ds ++ s.dropWhile isDigit :=
  ⟨s.takeWhile isDigit, fun _ hb => List.mem_takeWhile_imp hb, List.takeWhile_append_dropWhile.symm⟩

theorem exponent_of_skipExponent (h : skipExponent s = .ok r) {mark : UInt8}
    (hm : isExponentMark mark = true) : ∃ e, IsExponent (mark :: e) ∧ s = e ++ r := by
  unfold skipExponent at h
  split at h
  · simp [stop] at h
  rename_i b u hu
  split at h
  · rename_i hb
    simp only [Except.ok.injEq] at h
    obtain ⟨ds, hds, hsplit⟩ := digits_of_dropWhile u
    rw [h] at hsplit
    have hdigits : IsDigits (b :: ds) := ⟨List.cons_ne_nil b ds, List.forall_mem_cons.mpr ⟨hb, hds⟩⟩
    cases s with
    | nil => cases hu
    | cons c s =>
      simp only [exponentSign] at hu
      split at hu
      · rename_i hc
        simp only at hu
        exact ⟨c :: b :: ds, .signed hm (.inl hc) hdigits, by rw [hu, hsplit]; rfl⟩
      split at hu
      · rename_i hc
        simp only at hu
        exact ⟨c :: b :: ds, .signed hm (.inr hc) hdigits, by rw [hu, hsplit]; rfl⟩
      · simp only at hu
        exact ⟨b :: ds, .unsigned hm hdigits, by rw [hu, hsplit]; rfl⟩
  · simp [stop] at h

theorem skipExponent_digits {ds : Bytes} (hs : (exponentSign s).2 = ds ++ r) (hd : IsDigits ds)
    (hr : ∀ b ∈ r.head?, isDigit b = false) : skipExponent s = .ok r := by
  obtain ⟨hne, hall⟩ := hd
  cases ds with
  | nil => exact absurd rfl hne
  | cons d ds =>
    rw [List.forall_mem_cons] at hall
    simp only [skipExponent, hs, List.cons_append, hall.1, if_true, dropWhile_digits hall.2 hr]

theorem skipExponent_exponent {mark : UInt8} {e : Bytes} (h : IsExponent (mark :: e))
    (hr : ∀ b ∈ r.head?, isDigit b = false) : skipExponent (e ++ r) = .ok r := by
  cases h with
  | unsigned hm hd =>
    refine skipExponent_digits ?_ hd hr
    obtain ⟨hne, hall⟩ := hd
    cases e with
    | nil => exact absurd rfl hne
    | cons d ds =>
      have hdigit := hall d List.mem_cons_self
      simp [exponentSign, isDigit_ne hdigit (c := 0x2B) rfl, isDigit_ne hdigit (c := 0x2D) rfl]
  | signed hm hsign hd =>
    refine skipExponent_digits ?_ hd hr
    rcases hsign with rfl | rfl <;> rfl

theorem exponent_of_skipExponent? (h : skipExponent? s = .ok r) :
    ∃ e, IsExponent e ∧ s = e ++ r := by
  cases s with
  | nil =>
    cases h
    exact ⟨[], .none, rfl⟩
  | cons b s =>
    simp only [skipExponent?] at h
    split at h
    · rename_i hb
      obtain ⟨e, he, rfl⟩ := exponent_of_skipExponent h hb
      exact ⟨b :: e, he, rfl⟩
    · cases h
      exact ⟨[], .none, rfl⟩

theorem skipExponent?_exponent {e : Bytes} (h : IsExponent e) (hr : EndsNumber r) :
    skipExponent? (e ++ r) = .ok r := by
  have hdigit : ∀ b ∈ r.head?, isDigit b = false := fun b hb => (hr b hb).1
  cases h with
  | none =>
    cases r with
    | nil => rfl
    | cons b r => simp [skipExponent?, (hr b rfl).2.2]
  | unsigned hm hd =>
    simp only [List.cons_append, skipExponent?, hm, if_true]
    exact skipExponent_exponent (.unsigned hm hd) hdigit
  | signed hm hsign hd =>
    simp only [List.cons_append, skipExponent?, hm, if_true]
    exact skipExponent_exponent (.signed hm hsign hd) hdigit

/-- An exponent and what follows a number start with neither a digit nor a point. -/
theorem head_exponent {e : Bytes} (h : IsExponent e) (hr : EndsNumber r) :
    ∀ b ∈ (e ++ r).head?, isDigit b = false ∧ b ≠ 0x2E := by
  have hmark {mark : UInt8} (hm : isExponentMark mark = true) :
      isDigit mark = false ∧ mark ≠ 0x2E := by
    refine ⟨isDigit_of_isExponentMark hm, ?_⟩
    rintro rfl
    cases hm
  cases h with
  | none => exact fun b hb => ⟨(hr b hb).1, (hr b hb).2.1⟩
  | unsigned hm hd => simpa using hmark hm
  | signed hm hsign hd => simpa using hmark hm

theorem parts_of_skipAfterWhole (h : skipAfterWhole s = .ok r) :
    ∃ f e, IsFraction f ∧ IsExponent e ∧ s = f ++ e ++ r := by
  cases s with
  | nil =>
    cases h
    exact ⟨[], [], .none, .none, rfl⟩
  | cons b s =>
    simp only [skipAfterWhole] at h
    split at h
    · rename_i hb
      split at h
      · simp [stopAt] at h
      rename_i hne
      obtain ⟨e, he, hs⟩ := exponent_of_skipExponent? h
      refine ⟨b :: s.takeWhile isDigit, e, ?_, he, ?_⟩
      · rw [hb]
        exact .some ⟨hne, fun _ hd => List.mem_takeWhile_imp hd⟩
      · rw [List.cons_append, List.cons_append, List.append_assoc, ← hs,
          List.takeWhile_append_dropWhile]
    · obtain ⟨e, he, hs⟩ := exponent_of_skipExponent? h
      exact ⟨[], e, .none, he, hs⟩

theorem skipAfterWhole_parts {f e : Bytes} (hf : IsFraction f) (he : IsExponent e)
    (hr : EndsNumber r) : skipAfterWhole (f ++ e ++ r) = .ok r := by
  have hhead := head_exponent he hr
  rw [List.append_assoc]
  have hskip := skipExponent?_exponent he hr
  generalize e ++ r = u at hhead hskip
  cases hf with
  | none =>
    cases u with
    | nil => simpa [skipAfterWhole, skipExponent?] using hskip
    | cons b u => simp only [List.nil_append, skipAfterWhole, (hhead b rfl).2, if_false, hskip]
  | @some ds hd =>
    have hdigit : ∀ b ∈ u.head?, isDigit b = false := fun b hb => (hhead b hb).1
    have htake : (ds ++ u).takeWhile isDigit ≠ [] := by
      rw [List.takeWhile_append_of_pos hd.2]
      simp [hd.1]
    simp only [List.cons_append, skipAfterWhole, if_true, htake, if_false,
      dropWhile_digits hd.2 hdigit, hskip]

theorem magnitude_of_skipNumber (h : skipNumber s = .ok r) : ∃ m, IsMagnitude m ∧ s = m ++ r := by
  have hparts {whole u : Bytes} (hw : IsWhole whole) (hu : skipAfterWhole u = .ok r) :
      ∃ m, IsMagnitude m ∧ whole ++ u = m ++ r := by
    obtain ⟨f, e, hf, he, rfl⟩ := parts_of_skipAfterWhole hu
    exact ⟨_, ⟨whole, f, e, hw, hf, he, rfl⟩, by simp⟩
  cases s with
  | nil => simp [skipNumber, stop] at h
  | cons b s =>
    simp only [skipNumber] at h
    split at h
    · rename_i hb
      rw [hb]
      split at h
      · split at h
        · simp [stopAt] at h
        · exact hparts .zero h
      · cases h
        exact hparts (u := []) .zero rfl
    split at h
    · rename_i hb hdigit
      obtain ⟨ds, hds, hs⟩ := digits_of_dropWhile s
      rw [hs]
      exact hparts (.more hdigit hb hds) h
    · simp [stop] at h

theorem skipNumber_magnitude {m : Bytes} (h : IsMagnitude m) (hr : EndsNumber r) :
    skipNumber (m ++ r) = .ok r := by
  obtain ⟨whole, f, e, hw, hf, he, rfl⟩ := h
  have hskip := skipAfterWhole_parts hf he hr
  have hdigit : ∀ b ∈ (f ++ e ++ r).head?, isDigit b = false := by
    have hhead := head_exponent he hr
    cases hf with
    | none => exact fun b hb => (hhead b hb).1
    | some hd => simp; rfl
  have hsplit : whole ++ f ++ e ++ r = whole ++ (f ++ e ++ r) := by simp
  rw [hsplit]
  generalize f ++ e ++ r = u at hskip hdigit
  cases hw with
  | zero =>
    cases u with
    | nil => exact hskip
    | cons c u =>
      have hc : isDigit c = false := hdigit c rfl
      simp [skipNumber, hc, hskip]
  | more hd hne hds =>
    simp only [List.cons_append, skipNumber, if_neg hne, hd, if_true, dropWhile_digits hds hdigit, hskip]

theorem IsMagnitude.head {m : Bytes} (h : IsMagnitude m) : ∃ d u, m = d :: u ∧ isDigit d = true := by
  obtain ⟨whole, f, e, hw, -, -, rfl⟩ := h
  cases hw with
  | zero => exact ⟨_, _, rfl, rfl⟩
  | more hd => exact ⟨_, _, rfl, hd⟩

end Numbers

section Scalars
variable {b : UInt8} {s r : Bytes}

/-- What is passed over as a scalar is one. -/
theorem scalar_of_skipScalar (h : skipScalar b s = .ok r) : ∃ v, IsScalar v ∧ b :: s = v ++ r := by
  unfold skipScalar at h
  split at h
  · rename_i hb
    exact ⟨_, .wordNull, by rw [hb, eq_append_of_word h]; rfl⟩
  split at h
  · rename_i hb
    exact ⟨_, .wordTrue, by rw [hb, eq_append_of_word h]; rfl⟩
  split at h
  · rename_i hb
    exact ⟨_, .wordFalse, by rw [hb, eq_append_of_word h]; rfl⟩
  split at h
  · rename_i hb
    obtain ⟨m, hm, rfl⟩ := magnitude_of_skipNumber h
    exact ⟨_, .minus hm, by rw [hb]; rfl⟩
  split at h
  · obtain ⟨m, hm, hs⟩ := magnitude_of_skipNumber h
    exact ⟨_, .number hm, hs⟩
  split at h
  · rename_i hb
    obtain ⟨k, hk, rfl⟩ := loose_of_skipText h
    exact ⟨_, .text hk, by rw [hb]; simp⟩
  · simp [stopAt] at h

theorem skipScalar_digit {m : Bytes} (hb : isDigit b = true) (hm : IsMagnitude m)
    (hr : EndsNumber r) (hs : b :: s = m ++ r) : skipScalar b s = .ok r := by
  have hne {c : UInt8} (hc : isDigit c = false) : b ≠ c := isDigit_ne hb hc
  rw [skipScalar, if_neg (hne rfl), if_neg (hne rfl), if_neg (hne rfl), if_neg (hne rfl), if_pos hb,
    hs, skipNumber_magnitude hm hr]

/-- Every scalar is passed over. -/
theorem skipScalar_scalar {v : Bytes} (h : IsScalar v) (hr : EndsNumber r) (hs : b :: s = v ++ r) :
    skipScalar b s = .ok r := by
  cases h with
  | wordNull =>
    obtain ⟨rfl, rfl⟩ := List.cons.inj hs
    exact word_append nullTail r
  | wordTrue =>
    obtain ⟨rfl, rfl⟩ := List.cons.inj hs
    exact word_append trueTail r
  | wordFalse =>
    obtain ⟨rfl, rfl⟩ := List.cons.inj hs
    exact word_append falseTail r
  | number hm =>
    obtain ⟨d, u, rfl, hd⟩ := hm.head
    obtain ⟨rfl, -⟩ := List.cons.inj hs
    exact skipScalar_digit hd hm hr hs
  | minus hm =>
    obtain ⟨rfl, rfl⟩ := List.cons.inj hs
    exact skipNumber_magnitude hm hr
  | @text k hk =>
    simp only [List.cons_append, List.append_assoc, List.nil_append, List.cons.injEq] at hs
    obtain ⟨rfl, rfl⟩ := hs
    exact skipText_loose hk r

/-- No scalar starts with a blank or a bracket. -/
theorem IsScalar.head {v : Bytes} (h : IsScalar v) :
    ∃ b u, v = b :: u ∧ isBlank b = false ∧ Bracket.ofByte? b = none ∧ b ≠ 0x5D := by
  cases h with
  | wordNull => exact ⟨_, _, rfl, rfl, rfl, by decide⟩
  | wordTrue => exact ⟨_, _, rfl, rfl, rfl, by decide⟩
  | wordFalse => exact ⟨_, _, rfl, rfl, rfl, by decide⟩
  | number hm =>
    obtain ⟨d, u, rfl, hd⟩ := hm.head
    have hne {c : UInt8} (hc : isDigit c = false) : d ≠ c := isDigit_ne hd hc
    refine ⟨d, u, rfl, ?_, ?_, hne rfl⟩
    · simp [isBlank, hne (c := 0x20) rfl, hne (c := 0x0A) rfl, hne (c := 0x0D) rfl,
        hne (c := 0x09) rfl]
    · simp [Bracket.ofByte?, hne (c := 0x5B) rfl, hne (c := 0x7B) rfl]
  | minus hm => exact ⟨_, _, rfl, rfl, rfl, by decide⟩
  | text hk => exact ⟨_, _, rfl, rfl, rfl, by decide⟩

end Scalars

end QueueBoard.Json
