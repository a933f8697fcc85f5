import Mathlib.Data.List.DropRight
import Mathlib.Data.List.Forall2
import QueueBoard.Settings

/-! # Names of the visual modes

A mode is named by its word, in letters of either case and with any white space around it. The words have
no white space in them, so trimming a text leaves the word if and only if the text names the mode.
-/
namespace QueueBoard

namespace Blank

/-- A text of white space only. -/
def IsGap (cs : List Char) : Prop := ∀ c ∈ cs, isBlank c = true

theorem trimEnd_eq (cs : List Char) : trimEnd cs = cs.rdropWhile isBlank := rfl

/-- What is trimmed away is white space. -/
theorem exists_eq_trim (cs : List Char) :
    ∃ front back, IsGap front ∧ IsGap back ∧ cs = front ++ trim cs ++ back := by
  refine ⟨cs.takeWhile isBlank, (cs.dropWhile isBlank).rtakeWhile isBlank, ?_, ?_, ?_⟩
  · exact fun c hc => List.mem_takeWhile_imp hc
  · exact fun c hc => List.mem_rtakeWhile_imp hc
  · rw [trim, trimEnd_eq, List.append_assoc, List.rdropWhile_append_rtakeWhile,
      List.takeWhile_append_dropWhile]

/-- White space around a word without any is trimmed away. -/
theorem trim_append {front word back : List Char} (hfront : IsGap front) (hback : IsGap back)
    (hne : word ≠ []) (hword : ∀ c ∈ word, isBlank c = false) : trim (front ++ word ++ back) = word := by
  have hstart : (word ++ back).dropWhile isBlank = word ++ back := by
    obtain ⟨c, cs, rfl⟩ := List.exists_cons_of_ne_nil hne
    have hc := hword c List.mem_cons_self
    rw [List.cons_append, List.dropWhile_cons_of_neg (by simp [hc])]
  have hend : word.reverse.dropWhile isBlank = word.reverse := by
    obtain ⟨c, cs, hreverse⟩ := List.exists_cons_of_ne_nil (List.reverse_ne_nil_iff.mpr hne)
    have hc := hword c (List.mem_reverse.mp (hreverse ▸ List.mem_cons_self))
    rw [hreverse, List.dropWhile_cons_of_neg (by simp [hc])]
  rw [trim, List.append_assoc, List.dropWhile_append_of_pos hfront, hstart, trimEnd, List.reverse_append,
    List.dropWhile_append_of_pos fun c hc => hback c (List.mem_reverse.mp hc), hend, List.reverse_reverse]

end Blank

section Case

theorem toNat_toLower (c : Char) :
    c.toLower.toNat = if 65 ≤ c.toNat ∧ c.toNat ≤ 90 then c.toNat + 32 else c.toNat := by
  have hrange : (c.val ≥ 'A'.val ∧ c.val ≤ 'Z'.val) ↔ 65 ≤ c.toNat ∧ c.toNat ≤ 90 := by
    rw [ge_iff_le, UInt32.le_iff_toNat_le, UInt32.le_iff_toNat_le]
    rfl
  unfold Char.toLower
  split
  · rename_i h
    have hc := hrange.mp h
    have hsum : (c.val + 32).toNat = c.toNat + 32 := by
      rw [UInt32.toNat_add]
      change (c.toNat + 32) % 4294967296 = _
      omega
    rw [if_pos hc]
    exact hsum
  · rename_i h
    rw [if_neg (mt hrange.mpr h)]

theorem toNat_toUpper (c : Char) :
    c.toUpper.toNat = if 97 ≤ c.toNat ∧ c.toNat ≤ 122 then c.toNat - 32 else c.toNat := by
  have hrange : ('a'.val ≤ c.val ∧ c.val ≤ 'z'.val) ↔ 97 ≤ c.toNat ∧ c.toNat ≤ 122 := by
    rw [UInt32.le_iff_toNat_le, UInt32.le_iff_toNat_le]
    rfl
  unfold Char.toUpper
  split
  · rename_i h
    have hc := hrange.mp h
    have hsum : (c.val + 4294967264).toNat = c.toNat - 32 := by
      rw [UInt32.toNat_add]
      change (c.toNat + 4294967264) % 4294967296 = _
      omega
    rw [if_pos hc]
    exact hsum
  · rename_i h
    rw [if_neg (mt hrange.mpr h)]

/-- A small letter is the lower case of itself and of its capital, and of no other character. -/
theorem toLower_eq_iff {c d : Char} (hd : d.isLower = true) : c.toLower = d ↔ c = d ∨ c = d.toUpper := by
  have hrange : (decide (d.val ≥ 97) && decide (d.val ≤ 122)) = true := hd
  have hlower : 97 ≤ d.toNat ∧ d.toNat ≤ 122 := by
    simpa [UInt32.le_iff_toNat_le] using hrange
  rw [← Char.toNat_inj, ← Char.toNat_inj, ← Char.toNat_inj, toNat_toLower, toNat_toUpper, if_pos hlower]
  split <;> omega

end Case

namespace VisualMode

def word : VisualMode → String
  | mapped => "mapped"
  | plain => "plain"

/-- A text names a mode. -/
def Names (mode : VisualMode) (text : String) : Prop :=
  ∃ front name back, Blank.IsGap front ∧ Blank.IsGap back ∧
    List.Forall₂ (fun c d => c = d ∨ c = d.toUpper) name mode.word.toList ∧
    text.toList = front ++ name ++ back

theorem word_ne_nil (mode : VisualMode) : mode.word.toList ≠ [] := by
  cases mode <;> decide

theorem isLower_of_mem_word (mode : VisualMode) : ∀ d ∈ mode.word.toList, d.isLower = true :=
  List.all_eq_true.mp (by cases mode <;> decide)

theorem not_isBlank_of_mem_word (mode : VisualMode) :
    ∀ d ∈ mode.word.toList, Blank.isBlank d = false ∧ Blank.isBlank d.toUpper = false := by
  have hall : mode.word.toList.all (fun d => !Blank.isBlank d && !Blank.isBlank d.toUpper) = true := by
    cases mode <;> decide
  simpa only [List.all_eq_true, Bool.and_eq_true, Bool.not_eq_true'] using hall

/-- Letters of either case are those of a word if the word is their lower case. -/
theorem forall₂_iff_map_toLower {name word : List Char} (h : ∀ d ∈ word, d.isLower = true) :
    List.Forall₂ (fun c d => c = d ∨ c = d.toUpper) name word ↔ name.map Char.toLower = word := by
  induction word generalizing name with
  | nil => simp
  | cons d word ih =>
    obtain ⟨hd, hword⟩ := List.forall_mem_cons.mp h
    cases name with
    | nil => simp
    | cons c name =>
      rw [List.forall₂_cons, List.map_cons, List.cons.injEq, ih hword, toLower_eq_iff hd]

/-- What is left of a text without white space around it and in lower case is the word of a mode if and
only if the text names the mode. -/
theorem modeName_eq_iff {mode : VisualMode} {text : String} :
    Settings.modeName text = mode.word ↔ mode.Names text := by
  have hlower := mode.isLower_of_mem_word
  unfold Settings.modeName
  rw [← String.toList_inj, String.toList_ofList, ← forall₂_iff_map_toLower hlower]
  constructor
  · intro h
    obtain ⟨front, back, hfront, hback, htext⟩ := Blank.exists_eq_trim text.toList
    exact ⟨front, _, back, hfront, hback, h, htext⟩
  · rintro ⟨front, name, back, hfront, hback, hname, htext⟩
    have hne : name ≠ [] := by
      rintro rfl
      exact mode.word_ne_nil (List.forall₂_nil_left_iff.mp hname)
    have hblank : ∀ c ∈ name, Blank.isBlank c = false := by
      intro c hc
      have hmem : c.toLower ∈ mode.word.toList :=
        (forall₂_iff_map_toLower hlower).mp hname ▸ List.mem_map_of_mem hc
      have hnot := mode.not_isBlank_of_mem_word c.toLower hmem
      rcases (toLower_eq_iff (hlower _ hmem)).mp rfl with hself | hcapital
      · exact hself ▸ hnot.1
      · exact hcapital ▸ hnot.2
    rw [htext, Blank.trim_append hfront hback hne hblank]
    exact hname

end VisualMode
end QueueBoard
