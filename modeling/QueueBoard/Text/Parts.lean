/-! # Parts

A list is cut at every separator, so it has one part more than separators. Lines that each end with a
separator are cut into themselves and an empty part behind the last of them.
-/
namespace QueueBoard
variable {α : Type} [DecidableEq α]

/-- The parts between separators. -/
def splitAtAll (sep : α) (xs : List α) : List (List α) :=
  xs.foldr (fun x parts =>
    if x = sep then [] :: parts
    else match parts with
      | [] => [[x]]
      | p :: ps => (x :: p) :: ps) [[]]

/-- The parts one after the other, with a separator between any two. -/
def joinWith {α : Type} (sep : List α) : List (List α) → List α
  | [] => []
  | [p] => p
  | p :: ps => p ++ sep ++ joinWith sep ps

/-- A part without separators goes up to the first one. -/
theorem splitAtAll_append_cons {sep : α} {part : List α} (h : sep ∉ part)
    (xs : List α) : splitAtAll sep (part ++ sep :: xs) = part :: splitAtAll sep xs := by
  induction part with
  | nil => simp [splitAtAll]
  | cons x part ih =>
    obtain ⟨hx, hpart⟩ := List.ne_and_not_mem_of_not_mem_cons h
    have hparts := ih hpart
    simp only [splitAtAll] at hparts ⊢
    rw [List.cons_append, List.foldr_cons, hparts, if_neg (Ne.symm hx)]

/-- Lines that each have a separator at their end, with nothing behind the last of them. -/
theorem splitAtAll_flatMap {sep : α} {lines : List (List α)}
    (h : ∀ line ∈ lines, sep ∉ line) : splitAtAll sep (lines.flatMap (· ++ [sep])) = lines ++ [[]] := by
  induction lines with
  | nil => simp [splitAtAll]
  | cons line lines ih =>
    obtain ⟨hline, hlines⟩ := List.forall_mem_cons.mp h
    rw [List.flatMap_cons, List.append_assoc, List.singleton_append, splitAtAll_append_cons hline, ih hlines,
      List.cons_append]

end QueueBoard
