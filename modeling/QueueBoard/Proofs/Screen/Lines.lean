import QueueBoard.Monitor
import QueueBoard.Proofs.Screen.Transcripts
import QueueBoard.Proofs.Screen.Words

/-! # Lines of a frame

A line feed in a frame ends one of its lines or stands in its words: neither an ink nor padding brings
another one. If there are none in the words, the frame has the status line, the rule, a line for each item
and the empty line, and nothing but the last of them is empty, since every line begins with a fixed text.
-/
namespace QueueBoard

theorem Ink.not_mem_closing_opening (ink : Ink) : '\n' ∉ closing ++ ink.opening := by
  cases ink <;> decide

/-- To go on behind a closing sequence an ink needs no further line. -/
theorem Ink.count_lineFeed_reopen (ink : Ink) (cs : List Char) :
    (ink.reopen cs).count '\n' = cs.count '\n' := by
  have hsequences := List.count_eq_zero.mpr ink.not_mem_closing_opening
  fun_induction reopen ink cs with
  | case1 => rfl
  | case2 cs ih =>
    rw [List.count_append, hsequences, Nat.zero_add, ih]
    simp
  | case3 c cs _ ih => rw [List.count_cons, List.count_cons, ih]

namespace Piece

theorem count_lineFeed_pad (width : Nat) (text : List Char) :
    (pad width text).count '\n' = text.count '\n' := by
  simp [pad, List.count_replicate]

theorem count_lineFeed_draw (color : Bool) (p : Piece) :
    (p.draw color).count '\n' = p.text.count '\n' := by
  unfold draw
  split
  · rename_i ink _
    have hsequences := ink.not_mem_closing_opening
    obtain ⟨hclosing, hopening⟩ := not_or.mp (List.mem_append.not.mp hsequences)
    split
    · rw [List.count_append, List.count_append, count_lineFeed_pad, ink.count_lineFeed_reopen,
        List.count_eq_zero.mpr hclosing, List.count_eq_zero.mpr hopening, Nat.zero_add, Nat.add_zero]
    · exact count_lineFeed_pad ..
  · exact count_lineFeed_pad ..

theorem draw_ne_nil (color : Bool) {p : Piece} (h : p.text ≠ []) : p.draw color ≠ [] := by
  unfold draw pad
  split
  · split
    · exact List.append_ne_nil_of_right_ne_nil _ (List.cons_ne_nil _ _)
    · exact List.append_ne_nil_of_left_ne_nil h _
  · exact List.append_ne_nil_of_left_ne_nil h _

end Piece

namespace Frame

theorem count_lineFeed_lineText (color : Bool) (line : Line) :
    (lineText color line).count '\n' = (lineWords line).count '\n' := by
  have hpieces : List.count '\n' ∘ Piece.draw color = List.count '\n' ∘ Piece.text :=
    funext (Piece.count_lineFeed_draw color)
  rw [lineText, lineWords, List.count_flatMap, List.count_flatMap, hpieces]

/-- The line feeds of a frame are those in its words and one for every line. -/
theorem count_lineFeed_text (color : Bool) (frame : Frame) :
    (frame.text color).count '\n' = frame.length + frame.words.count '\n' := by
  rw [text_eq_flatMap, words]
  induction frame with
  | nil => rfl
  | cons line frame ih =>
    rw [List.flatMap_cons, List.flatMap_cons, List.count_append, List.count_append, List.count_append,
      ih, count_lineFeed_lineText, List.length_cons, List.count_singleton_self]
    omega

/-- A line whose first piece has a text is a line of the terminal. -/
theorem isLine_lineText (color : Bool) {p : Piece} {ps : Line} (hp : p.text ≠ [])
    (h : '\n' ∉ lineWords (p :: ps)) : IsLine (lineText color (p :: ps)) where
  ne_nil := List.append_ne_nil_of_left_ne_nil (p.draw_ne_nil color hp) _
  not_mem := by
    rw [← List.count_eq_zero, count_lineFeed_lineText]
    exact List.count_eq_zero.mpr h

/-- Every item begins with a fixed text, or with blanks. -/
theorem exists_itemLine_eq_cons (item : Item) : ∃ p ps, itemLine item = p :: ps ∧ p.text ≠ [] := by
  cases item with
  | loading => exact ⟨_, _, rfl, by decide⟩
  | error message =>
    have htext : (Item.error message).text.toList = "Error loading queue: ".toList ++ message.toList :=
      String.toList_append
    refine ⟨_, _, rfl, ?_⟩
    rw [Piece.inked, htext]
    exact List.append_ne_nil_of_left_ne_nil (by decide) _
  | empty => exact ⟨_, _, rfl, by decide⟩
  | job view =>
    rw [itemLine, jobLine]
    split
    · exact ⟨_, _, rfl, List.cons_ne_nil _ _⟩
    · exact ⟨_, _, rfl, List.cons_ne_nil _ _⟩

end Frame

theorem PollState.statusLine_ne_nil (s : PollState) (offset : Int) :
    (s.statusLine offset).toList ≠ [] := by
  unfold statusLine QueueBoard.statusLine
  split
  · simp
  · simp [lastUpdatedText]
  · simp [lastUpdatedText]
  · decide

namespace View
variable (v : View) {s : PollState}

/-- The frame of a poll state but for its empty line. -/
def body (v : View) (s : PollState) : Frame :=
  [.inked .bold (s.statusLine v.offset).toList] :: [.inked .dimmed Frame.rule]
    :: (v.options.items s).map Frame.itemLine

/-- The lines above the empty one, as they are drawn. -/
def lines (v : View) (s : PollState) : List (List Char) := (v.body s).map (Frame.lineText v.color)

theorem frame_eq (s : PollState) : v.frame s = v.body s ++ [[]] := rfl

theorem length_frame (s : PollState) : (v.frame s).length = 3 + (v.options.items s).length := by
  simp only [frame_eq, body, List.length_append, List.length_cons, List.length_map, List.length_nil]
  omega

/-- The lines and the empty one, each with its line feed. -/
theorem text_eq_lines (s : PollState) : v.text s = (v.lines s).flatMap (· ++ ['\n']) ++ ['\n'] := by
  rw [text, frame_eq, Frame.text_eq_flatMap, List.flatMap_append, lines, List.flatMap_map]
  rfl

theorem exists_line_eq_cons {line : Line} (h : line ∈ v.body s) : ∃ p ps, line = p :: ps ∧ p.text ≠ [] := by
  rcases List.mem_cons.mp h with rfl | h
  · exact ⟨_, _, rfl, s.statusLine_ne_nil v.offset⟩
  rcases List.mem_cons.mp h with rfl | h
  · exact ⟨_, _, rfl, by decide⟩
  · obtain ⟨item, -, rfl⟩ := List.mem_map.mp h
    exact Frame.exists_itemLine_eq_cons item

variable (h : v.options.Avoids '\n' s)
include h

theorem isLine_of_mem_lines : ∀ line ∈ v.lines s, IsLine line := by
  intro text htext
  obtain ⟨line, hline, rfl⟩ := List.mem_map.mp htext
  have hwords : '\n' ∉ Frame.lineWords line := fun hmem =>
    Frame.not_mem_words h (by decide) (List.mem_flatMap.mpr ⟨line, List.mem_append_left _ hline, hmem⟩)
  obtain ⟨p, ps, rfl, hp⟩ := v.exists_line_eq_cons hline
  exact Frame.isLine_lineText v.color hp hwords

theorem splitAtAll_text : splitAtAll '\n' (v.text s) = v.lines s ++ [[], []] := by
  have hlines : ∀ line ∈ v.lines s ++ [[]], '\n' ∉ line := by
    intro line hline
    rcases List.mem_append.mp hline with hline | hline
    · exact (v.isLine_of_mem_lines h line hline).not_mem
    · rw [List.mem_singleton.mp hline]
      exact List.not_mem_nil
  have hsplit := splitAtAll_flatMap hlines
  rw [List.flatMap_append, List.append_assoc] at hsplit
  rw [text_eq_lines]
  exact hsplit

theorem isPart_text : Transcript.IsPart (v.text s) := by
  rw [text_eq_lines]
  exact Transcript.isPart_lines (v.isLine_of_mem_lines h)

omit h

/-- Nothing goes wrong while the frames are drawn one after the other. -/
theorem bytes_output (ss : List PollState) :
    ss.flatMap (fun s => (v.draw .none s).bytes) = bytesOf (String.ofList (Monitor.output v ss)) := by
  rw [bytesOf_ofList, Monitor.output, List.flatMap_assoc]
  simp only [draw_none, bytes, bytesOf_ofList]

/-- A frame has three line feeds, one more for each item, and those in the texts of its status line and of
its items. Where there are none in messages of failure and in labels, no line of a frame is empty but the
last one, and the frames that are drawn one after the other are told apart by their empty lines. -/
theorem frames_part_at_empty_lines :
    (∀ s : PollState, (v.text s).count '\n'
        = 3 + (v.options.items s).length + (s.statusLine v.offset).toList.count '\n'
          + ((v.options.items s).map (fun item => item.text.toList.count '\n')).sum) ∧
      ∀ ss : List PollState, (∀ s ∈ ss, v.options.Avoids '\n' s) →
        (∀ s ∈ ss, ∃ lines, splitAtAll '\n' (v.text s) = lines ++ [[], []] ∧ ∀ line ∈ lines, line ≠ []) ∧
          ss.flatMap (fun s => (v.draw .none s).bytes) = bytesOf (String.ofList (Monitor.output v ss)) ∧
          Transcript.parts (Monitor.output v ss) = ss.map v.text := by
  constructor
  case left =>
    intro s
    rw [text, Frame.count_lineFeed_text, length_frame, Frame.count_words (by decide), ← Nat.add_assoc]
  case right =>
    intro ss h
    refine ⟨fun s hs => ⟨v.lines s, v.splitAtAll_text (h s hs), ?_⟩, v.bytes_output ss, ?_⟩
    · exact fun line hline => (v.isLine_of_mem_lines (h s hs) line hline).ne_nil
    · have hparts : ∀ text ∈ ss.map v.text, Transcript.IsPart text := by
        intro text htext
        obtain ⟨s, hs, rfl⟩ := List.mem_map.mp htext
        exact v.isPart_text (h s hs)
      rw [Monitor.output, List.flatMap_def, Transcript.parts_flatten hparts]

/-- Two frames, one of them with an empty label and with one that would close its ink. -/
theorem frames_of_odd_labels_part :
    let v : View := ⟨.default, true, 0⟩
    let s : PollState := ⟨some [⟨"", .queued⟩, ⟨"\t\x1b[0m", .done⟩], .failed "gone", none⟩
    (∀ t ∈ [s, .loading], v.options.Avoids '\n' t) ∧ (v.text s).count '\n' = 5 ∧
      Transcript.parts (Monitor.output v [s, .loading]) = [v.text s, v.text .loading] := by
  intro v s
  have hlabels : ∀ t ∈ [s, .loading], ∀ item ∈ v.options.items t, '\n' ∉ item.text.toList := by decide
  have havoids : ∀ t ∈ [s, .loading], v.options.Avoids '\n' t := by
    intro t ht
    refine ⟨?_, fun view hview => hlabels t ht (.job view) hview⟩
    intro message hmessage
    rcases List.mem_pair.mp ht with rfl | rfl
    · obtain rfl := PollStatus.failed.inj hmessage
      decide
    · cases hmessage
  obtain ⟨hcount, hparts⟩ := frames_part_at_empty_lines v
  exact ⟨havoids, (hcount s).trans (by decide), (hparts _ havoids).2.2⟩

end View
end QueueBoard
