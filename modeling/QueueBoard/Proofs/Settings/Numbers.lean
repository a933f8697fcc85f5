import QueueBoard.Text.Numeral

/-! # Numbers and their spellings

A number is spelled by its decimal digits, with any zeros and at most one plus sign in front of them. A
numeral is read as the number it spells and not beyond the bound; every other text is read as none.
-/
namespace QueueBoard.Numeral

/-- A text spells a number. -/
def Spells (text : String) (n : Nat) : Prop :=
  ∃ sign digits : List Char, (sign = [] ∨ sign = ['+']) ∧ digits ≠ [] ∧
    (∀ d ∈ digits, d.isDigit = true) ∧ text.toList = sign ++ digits ∧ n = Nat.ofDigitChars 10 digits 0

/-- The decimal form of a number with some zeros in front of it, and with a plus sign or without one. -/
def decimal (plus : Bool) (zeros n : Nat) : String :=
  (if plus then "+" else "") ++ String.ofList (List.replicate zeros '0') ++ toString n

section Digits
variable {n m : Nat} {cs : List Char}

theorem digit?_eq_some_iff {c : Char} {d : Nat} :
    digit? c = some d ↔ c.isDigit = true ∧ d = c.toNat - '0'.toNat := by
  have hdigit : ('0' ≤ c ∧ c ≤ '9') ↔ c.isDigit = true := by
    simp [Char.isDigit, Char.le_def]
  unfold digit?
  split
  · rename_i h
    rw [Option.some.injEq]
    exact ⟨fun hd => ⟨hdigit.mp h, hd.symm⟩, fun hd => hd.2.symm⟩
  · rename_i h
    exact iff_of_false nofun fun hd => h (hdigit.mpr hd.1)

theorem digitsFrom_eq_some_iff :
    digitsFrom n cs = some m ↔ (∀ c ∈ cs, c.isDigit = true) ∧ m = Nat.ofDigitChars 10 cs n := by
  induction cs generalizing n with
  | nil => exact ⟨fun hm => ⟨nofun, (Option.some.inj hm).symm⟩, fun hm => congrArg some hm.2.symm⟩
  | cons c cs ih =>
    simp only [digitsFrom, Option.bind_eq_some_iff, digit?_eq_some_iff, ih, List.forall_mem_cons,
      Nat.ofDigitChars_cons, Nat.mul_comm 10 n]
    constructor
    · rintro ⟨d, ⟨hc, rfl⟩, hcs, hm⟩
      exact ⟨⟨hc, hcs⟩, hm⟩
    · rintro ⟨⟨hc, hcs⟩, hm⟩
      exact ⟨_, ⟨hc, rfl⟩, hcs, hm⟩

theorem unsigned?_eq_some_iff : unsigned? cs = some m ↔
    cs ≠ [] ∧ (∀ c ∈ cs, c.isDigit = true) ∧ m = Nat.ofDigitChars 10 cs 0 := by
  cases cs with
  | nil => simp [unsigned?]
  | cons c cs => simp only [unsigned?, digitsFrom_eq_some_iff, ne_eq, reduceCtorEq, not_false_iff, true_and]

end Digits

section Values
variable {text : String} {n m : Nat}

/-- What is read is what is spelled. -/
theorem value?_eq_some_iff : value? text.toList = some n ↔ Spells text n := by
  constructor
  · intro h
    unfold value? at h
    split at h
    · rename_i digits htext
      obtain ⟨hne, hdigits, hn⟩ := unsigned?_eq_some_iff.mp h
      exact ⟨['+'], digits, .inr rfl, hne, hdigits, htext, hn⟩
    · obtain ⟨hne, hdigits, hn⟩ := unsigned?_eq_some_iff.mp h
      exact ⟨[], _, .inl rfl, hne, hdigits, rfl, hn⟩
  · rintro ⟨sign, digits, rfl | rfl, hne, hdigits, htext, hn⟩
    · rw [htext, List.nil_append]
      have hread := unsigned?_eq_some_iff.mpr ⟨hne, hdigits, hn⟩
      unfold value?
      split
      -- No digits begin with a plus sign.
      · exact absurd (hdigits '+' List.mem_cons_self) (by decide)
      · exact hread
    · rw [htext]
      exact unsigned?_eq_some_iff.mpr ⟨hne, hdigits, hn⟩

theorem bounded?_eq_some_iff {bound : Nat} : bounded? bound text = some n ↔ Spells text n ∧ n ≤ bound := by
  rw [bounded?, Option.filter_eq_some_iff, value?_eq_some_iff, decide_eq_true_iff]

/-- The decimal form of a number spells it. -/
theorem spells_decimal (plus : Bool) (zeros n : Nat) : Spells (decimal plus zeros n) n := by
  have hdigits : ∀ d ∈ List.replicate zeros '0' ++ Nat.toDigits 10 n, d.isDigit = true := by
    intro d hd
    rcases List.mem_append.mp hd with hd | hd
    · rw [List.eq_of_mem_replicate hd]
      rfl
    · exact Nat.isDigit_of_mem_toDigits (by decide) (by decide) hd
  have hvalue : n = Nat.ofDigitChars 10 (List.replicate zeros '0' ++ Nat.toDigits 10 n) 0 := by
    rw [Nat.ofDigitChars_append, Nat.ofDigitChars_replicate_zero, Nat.mul_zero,
      Nat.ofDigitChars_ten_toDigits]
  refine ⟨if plus then ['+'] else [], _, ?_, ?_, hdigits, ?_, hvalue⟩
  · cases plus
    · exact .inl rfl
    · exact .inr rfl
  · exact List.append_ne_nil_of_right_ne_nil _ Nat.toDigits_ne_nil
  · rw [decimal, String.toList_append, String.toList_append, String.toList_ofList, Nat.toString_eq_repr,
      Nat.toList_repr, List.append_assoc]
    cases plus <;> rfl

end Values
end QueueBoard.Numeral
