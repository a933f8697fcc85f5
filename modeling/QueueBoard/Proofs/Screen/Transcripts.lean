import QueueBoard.Screen.Transcript

/-! # Transcripts

A transcript falls into its frames again if each of them has lines that are not empty and ends with the
empty one.
-/
namespace QueueBoard

/-- The text of one line, which is not empty. -/
structure IsLine (cs : List Char) : Prop where
  ne_nil : cs ≠ []
  not_mem : '\n' ∉ cs

namespace Transcript

/-- A text with the first part behind it. -/
def prepend (text : List Char) : List (List Char) → List (List Char)
  | [] => [text]
  | p :: ps => (text ++ p) :: ps

theorem prepend_prepend (first second : List Char) (parts : List (List Char)) :
    prepend first (prepend second parts) = prepend (first ++ second) parts := by
  cases parts <;> simp [prepend]

theorem cut_lineFeed (rest : List Char) : cut true ('\n' :: rest) = ['\n'] :: cut true rest := rfl

theorem cut_cons {fresh : Bool} {c : Char} (h : ¬ (c = '\n' ∧ fresh = true)) (rest : List Char) :
    cut fresh (c :: rest) = prepend [c] (cut (c = '\n') rest) := by
  rw [cut, if_neg h]
  cases cut (c = '\n') rest <;> rfl

/-- A line does not end a part unless it is empty. -/
theorem cut_line {fresh : Bool} {line : List Char} (hlf : '\n' ∉ line) (h : line ≠ [] ∨ fresh = false)
    (rest : List Char) : cut fresh (line ++ '\n' :: rest) = prepend (line ++ ['\n']) (cut true rest) := by
  induction line generalizing fresh with
  | nil =>
    have hfresh : fresh = false := h.resolve_left fun hne => hne rfl
    exact cut_cons (by simp [hfresh]) rest
  | cons c line ih =>
    obtain ⟨hc, hline⟩ := List.ne_and_not_mem_of_not_mem_cons hlf
    have hgoesOn : decide (c = '\n') = false := decide_eq_false hc.symm
    rw [List.cons_append, cut_cons fun hend => hc hend.1.symm, ih hline (.inr hgoesOn), prepend_prepend]
    rfl

/-- A text that is a part, whatever follows it. -/
def IsPart (text : List Char) : Prop := ∀ rest, parts (text ++ rest) = text :: parts rest

/-- Lines with an empty one behind them are a part. -/
theorem isPart_lines {lines : List (List Char)} (h : ∀ line ∈ lines, IsLine line) :
    IsPart (lines.flatMap (· ++ ['\n']) ++ ['\n']) := by
  intro rest
  induction lines with
  | nil => exact cut_lineFeed rest
  | cons line lines ih =>
    obtain ⟨hline, hlines⟩ := List.forall_mem_cons.mp h
    have hrest := ih hlines
    unfold parts at hrest ⊢
    calc cut true ((line :: lines).flatMap (· ++ ['\n']) ++ ['\n'] ++ rest)
      _ = cut true (line ++ '\n' :: (lines.flatMap (· ++ ['\n']) ++ ['\n'] ++ rest)) := by simp
      _ = _ := by
        rw [cut_line hline.not_mem (.inl hline.ne_nil), hrest]
        simp [prepend]

variable {frames : List (List Char)} (h : ∀ f ∈ frames, IsPart f)
include h

theorem parts_flatten : parts frames.flatten = frames := by
  induction frames with
  | nil => rfl
  | cons f frames ih =>
    obtain ⟨hf, hframes⟩ := List.forall_mem_cons.mp h
    rw [List.flatten_cons, hf, ih hframes]

end Transcript

end QueueBoard
