import Mathlib.Algebra.GroupWithZero.Nat
import QueueBoard.Proofs.Screen.Rows
import QueueBoard.Proofs.Text.Controls

/-! # Words of a frame

What is drawn in a frame, apart from inks, padding and line feeds, are its words: the status line, the rule
and for each item its text among a few fixed ones. None of the fixed texts has a control character, and
neither has a time of day, so a control character in the words comes from the message of a failure or from
a label.
-/
namespace QueueBoard

namespace Instant

theorem controlFree_twoDigits (n : Nat) : ControlFree (twoDigits n) := by
  have htens := not_isControl_ofNat (n := 48 + n / 10 % 10) (by omega) (by omega)
  have hunits := not_isControl_ofNat (n := 48 + n % 10) (by omega) (by omega)
  simp [twoDigits, htens, hunits]

theorem controlFree_clockText (offset : Int) (t : Instant) : ControlFree (t.clockText offset).toList := by
  have hcolon : isControl ':' = false := by decide
  simp [clockText, controlFree_twoDigits, hcolon]

end Instant

theorem controlFree_lastUpdatedText (offset : Int) (time : Instant) :
    ControlFree (lastUpdatedText offset time).toList :=
  .text_append (by decide) (time.controlFree_clockText offset)

theorem Category.controlFree_style_job (c : Category) : ControlFree c.style.job.toList := by
  cases c <;> decide

namespace RenderOptions
variable {o : RenderOptions} {s : PollState} {c : Char}

/-- Neither a message of failure nor a label that is shown of a poll state has the character. -/
structure Avoids (o : RenderOptions) (c : Char) (s : PollState) : Prop where
  message : ∀ text, s.status = .failed text → c ∉ text.toList
  labels : ∀ view, .job view ∈ o.items s → c ∉ view.label.toList

/-- The items there are. -/
theorem mem_items {item : Item} (h : item ∈ o.items s) :
    item = .loading ∨ (∃ message, s.status = .failed message ∧ item = .error message) ∨ item = .empty ∨
      ∃ position job, item = .job (o.view position job) := by
  unfold items render at h
  split at h
  · simp_all
  · obtain ⟨position, hposition, rfl⟩ := List.mem_mapIdx.mp h
    exact .inr (.inr (.inr ⟨position, _, rfl⟩))
  · simp_all
  · simp_all
  · simp_all

section Avoids
variable (h : o.Avoids c s) (hc : isControl c = true)
include h hc

theorem Avoids.not_mem_text {item : Item} (hitem : item ∈ o.items s) : c ∉ item.text.toList := by
  rcases mem_items hitem with rfl | ⟨message, hstatus, rfl⟩ | rfl | ⟨position, job, rfl⟩
  · have hfixed : ControlFree Item.loading.text.toList := by decide
    exact hfixed.not_mem hc
  · have hfixed : ControlFree "Error loading queue: ".toList := by decide
    have htext : (Item.error message).text = "Error loading queue: " ++ message := rfl
    rw [htext, String.toList_append]
    exact List.not_mem_append (hfixed.not_mem hc) (h.message message hstatus)
  · have hfixed : ControlFree Item.empty.text.toList := by decide
    exact hfixed.not_mem hc
  · exact h.labels _ hitem

theorem Avoids.not_mem_statusLine (offset : Int) : c ∉ (s.statusLine offset).toList := by
  unfold PollState.statusLine statusLine
  split
  · rename_i message hstatus
    have hfixed : ControlFree "Error: ".toList := by decide
    rw [String.toList_append]
    exact List.not_mem_append (hfixed.not_mem hc) (h.message message hstatus)
  · exact (controlFree_lastUpdatedText offset _).not_mem hc
  · exact (controlFree_lastUpdatedText offset _).not_mem hc
  · have hfixed : ControlFree "Loading...".toList := by decide
    exact hfixed.not_mem hc

end Avoids
end RenderOptions

namespace Frame

/-- The texts of the pieces of a line. -/
def lineWords (line : Line) : List Char := line.flatMap Piece.text

/-- The texts of the pieces of a frame. -/
def words (frame : Frame) : List Char := frame.flatMap lineWords

theorem words_ofItems (status : String) (items : List Item) :
    (ofItems status items).words
      = status.toList ++ rule ++ items.flatMap (fun item => lineWords (itemLine item)) := by
  simp [words, ofItems, lineWords, Piece.inked, List.flatMap_map]

section Counts
variable {o : RenderOptions} {s : PollState} {c : Char}

/-- Of the words of an item only its text may have control characters. -/
theorem count_itemWords (hc : isControl c = true) {item : Item} (h : item ∈ o.items s) :
    (lineWords (itemLine item)).count c = item.text.toList.count c := by
  rcases RenderOptions.mem_items h with rfl | ⟨message, -, rfl⟩ | rfl | ⟨position, job, rfl⟩
  · simp [lineWords, itemLine, Piece.inked]
  · simp [lineWords, itemLine, Piece.inked]
  · simp [lineWords, itemLine, Piece.inked]
  · have hclass := List.count_eq_zero.mpr ((Category.ofState job.state).controlFree_style_job.not_mem hc)
    have hfixed : ControlFree [' ', ' ', '▸', ' ', ' '] := by decide
    have hcount := List.count_eq_zero.mpr (hfixed.not_mem hc)
    simp only [List.count_cons, List.count_nil] at hcount
    unfold itemLine jobLine RenderOptions.view RenderOptions.style? Item.text
    -- In mapped mode the class of the state stands behind the label.
    cases o.visualMode <;>
      simp only [lineWords, Piece.plain, Piece.inked, List.flatMap_cons, List.flatMap_nil,
        List.count_append, List.count_cons, List.count_nil, hclass] <;>
      omega

theorem count_words (hc : isControl c = true) (v : View) (s : PollState) :
    (v.frame s).words.count c = (s.statusLine v.offset).toList.count c
      + ((v.options.items s).map (fun item => item.text.toList.count c)).sum := by
  have hfixed : ControlFree rule := by decide
  have hrule : rule.count c = 0 := List.count_eq_zero.mpr (hfixed.not_mem hc)
  have hitems : (v.options.items s).map (fun item => (lineWords (itemLine item)).count c)
      = (v.options.items s).map (fun item => item.text.toList.count c) :=
    List.map_congr_left fun item hitem => count_itemWords hc hitem
  rw [View.frame, words_ofItems, List.count_append, List.count_append, hrule, List.count_flatMap,
    ← hitems]
  rfl

theorem not_mem_words {v : View} (h : v.options.Avoids c s) (hc : isControl c = true) :
    c ∉ (v.frame s).words := by
  refine List.count_eq_zero.mp ?_
  rw [count_words hc, List.count_eq_zero.mpr (h.not_mem_statusLine hc v.offset), Nat.zero_add]
  refine List.sum_eq_zero_iff_forall_eq_nat.mpr fun n hn => ?_
  obtain ⟨item, hitem, rfl⟩ := List.mem_map.mp hn
  exact List.count_eq_zero.mpr (h.not_mem_text hc hitem)

end Counts
end Frame
end QueueBoard
