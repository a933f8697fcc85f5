import QueueBoard.Http.Url.Escape
import QueueBoard.Proofs.Text.Utf8
import QueueBoard.Text.Parts
import QueueBoard.Text.Quoted

/-! # Texts without control characters

A terminal acts on the control characters of ASCII instead of showing them. Numerals have none, and
escaping and quoting take them out of any text.
-/
namespace QueueBoard

/-- A control character of ASCII. -/
def isControl (c : Char) : Bool := c.toNat < 0x20 || c.toNat = 0x7F

/-- A text without control characters. -/
def ControlFree (cs : List Char) : Prop := ∀ c ∈ cs, isControl c = false

-- Named in full: where it is in scope, the instance that looks at every character there is comes first.
instance (cs : List Char) : Decidable (ControlFree cs) :=
  List.decidableBAll (fun c => isControl c = false) cs

theorem not_isControl_iff {c : Char} : isControl c = false ↔ 0x20 ≤ c.toNat ∧ c.toNat ≠ 0x7F := by
  simp [isControl]

theorem not_isControl_ofNat {n : Nat} (h : 0x20 ≤ n) (hn : n < 0x7F) : isControl (Char.ofNat n) = false := by
  have hv : (Char.ofNat n).toNat = n := Utf8.toNat_ofNat (by omega)
  rw [not_isControl_iff, hv]
  omega

namespace ControlFree
variable {cs ds : List Char}

@[simp] theorem nil : ControlFree [] := by
  simp [ControlFree]

@[simp] theorem cons_iff {c : Char} : ControlFree (c :: cs) ↔ isControl c = false ∧ ControlFree cs := by
  simp [ControlFree]

@[simp] theorem append_iff : ControlFree (cs ++ ds) ↔ ControlFree cs ∧ ControlFree ds := by
  simp only [ControlFree, List.mem_append, or_imp, forall_and]

theorem subset (h : ControlFree ds) (hs : cs ⊆ ds) : ControlFree cs := fun c hc => h c (hs hc)

theorem sublist (h : ControlFree ds) (hs : cs.Sublist ds) : ControlFree cs := h.subset hs.subset

theorem flatMap {α : Type} {xs : List α} {f : α → List Char} (h : ∀ x ∈ xs, ControlFree (f x)) :
    ControlFree (xs.flatMap f) := by
  intro c hc
  obtain ⟨x, hx, hcx⟩ := List.mem_flatMap.mp hc
  exact h x hx c hcx

theorem replicate {c : Char} (h : isControl c = false) (n : Nat) : ControlFree (List.replicate n c) := by
  intro d hd
  rw [List.eq_of_mem_replicate hd]
  exact h

theorem joinWith {sep : List Char} {parts : List (List Char)} (hs : ControlFree sep)
    (h : ∀ p ∈ parts, ControlFree p) : ControlFree (joinWith sep parts) := by
  fun_induction QueueBoard.joinWith sep parts with
  | case1 => exact nil
  | case2 p => exact h p (List.mem_singleton_self p)
  | case3 p ps _ ih =>
    have hp := h p (List.mem_cons_self ..)
    have hps := ih fun q hq => h q (List.mem_cons_of_mem _ hq)
    simp [hp, hs, hps]

theorem not_mem {c : Char} (h : ControlFree cs) (hc : isControl c = true) : c ∉ cs := by
  intro hmem
  rw [h c hmem] at hc
  cases hc

/-- A text written from two. -/
theorem text_append {s t : String} (hs : ControlFree s.toList) (ht : ControlFree t.toList) :
    ControlFree (s ++ t).toList := by
  rw [String.toList_append]
  exact append_iff.mpr ⟨hs, ht⟩

end ControlFree

theorem not_isControl_digitChar (n : Nat) : isControl n.digitChar = false := by
  have hdigits : ∀ k < 16, isControl (Nat.digitChar k) = false := by decide
  rcases Nat.lt_or_ge n 16 with h | h
  · exact hdigits n h
  · rw [Nat.digitChar_eq_star.mpr h]
    decide

theorem controlFree_toDigits {base : Nat} (hb : 1 < base) (n : Nat) :
    ControlFree (Nat.toDigits base n) := by
  induction n using Nat.strongRecOn with
  | ind n ih =>
    rw [Nat.toDigits_eq_if hb]
    split
    · simp [not_isControl_digitChar]
    · rename_i hn
      have hlt : n / base < n := Nat.div_lt_self (by omega) hb
      simp [ih _ hlt, not_isControl_digitChar]

theorem controlFree_toString (n : Nat) : ControlFree (toString n).toList := by
  rw [Nat.toString_eq_repr, Nat.toList_repr]
  exact controlFree_toDigits (by decide) n

namespace Url

theorem not_isControl_upperHex {n : Nat} (h : n < 16) : isControl (upperHex n) = false := by
  unfold upperHex
  split
  · exact not_isControl_ofNat (by omega) (by omega)
  · exact not_isControl_ofNat (by omega) (by omega)

theorem controlFree_escapeByte (b : UInt8) : ControlFree (escapeByte b) := by
  have hb : b.toNat < 256 := b.toNat_lt
  have hhigh := not_isControl_upperHex (n := b.toNat / 16) (by omega)
  have hlow := not_isControl_upperHex (n := b.toNat % 16) (by omega)
  simp only [escapeByte, ControlFree.cons_iff, ControlFree.nil, hhigh, hlow]
  decide

/-- Whatever is to be escaped, what is not printable is escaped with it. -/
theorem controlFree_escapeWith (unsafeBytes cs : List Char) : ControlFree (escapeWith unsafeBytes cs) := by
  refine .flatMap ?_
  intro b _
  split
  · rename_i h
    simp only [isPrintable, Bool.and_eq_true, decide_eq_true_eq, UInt8.le_iff_toNat_le,
      UInt8.reduceToNat] at h
    have hc := not_isControl_ofNat h.1.1 (by omega)
    simpa using hc
  · exact controlFree_escapeByte b

end Url

namespace Quoted

theorem isInvisible_of_isControl {c : Char} (h : isControl c = true) : Invisible.isInvisible c = true := by
  simp only [isControl, Bool.or_eq_true, decide_eq_true_eq] at h
  rcases h with h | h
  · simp [Invisible.isInvisible, h]
  · have hcovers : Invisible.ranges.covers 0x7F = true := by decide
    simp [Invisible.isInvisible, h, hcovers]

theorem controlFree_byNumber (c : Char) : ControlFree (byNumber c) := by
  have hdigits := controlFree_toDigits (by decide : 1 < 16) c.toNat
  simp only [byNumber, hexDigits, ControlFree.append_iff, hdigits]
  decide

theorem controlFree_escape (c : Char) : ControlFree (escape c) := by
  unfold escape
  split_ifs with h₁ h₂ h₃ h₄ h₅ h₆ h₇
  · decide
  · decide
  · decide
  · decide
  · decide
  · decide
  · exact controlFree_byNumber c
  · have hc : isControl c = false := Bool.eq_false_iff.mpr fun hc => h₇ (isInvisible_of_isControl hc)
    simpa using hc

theorem controlFree_quote (text : String) : ControlFree (quote text).toList := by
  have hbody : ControlFree (text.toList.flatMap escape) := .flatMap fun c _ => controlFree_escape c
  simp only [quote, String.toList_ofList, List.cons_append, ControlFree.cons_iff, ControlFree.append_iff,
    hbody]
  decide

end Quoted
end QueueBoard
