import QueueBoard.Listing
import QueueBoard.Listing.Form
import QueueBoard.Proofs.Json.Values

/-! # Reading states

What is read as a state is one of its forms, and every form is read as its state.
-/
namespace QueueBoard.Listing
open Json

section Readers
variable {s r : Bytes}

theorem wantText_wording (gap : Gap) (w : Wording) (r : Bytes) :
    wantText (gap.bytes ++ (w.bytes ++ r)) = .ok (w.text, r) := by
  unfold wantText
  rw [skipBlank_gap, Wording.bytes_append, skipBlank_cons rfl]
  exact text_wording w r

theorem wording_of_wantText {t : String} (h : wantText s = .ok (t, r)) :
    ∃ (gap : Gap) (w : Wording), s = gap.bytes ++ (w.bytes ++ r) ∧ w.text = t := by
  obtain ⟨gap, hs⟩ := exists_gap s
  unfold wantText at h
  split at h
  · simp [stopAt] at h
  rename_i b u hu
  split at h
  · rename_i hb
    obtain ⟨w, hw, rfl⟩ := wording_of_text h
    exact ⟨gap, w, by rw [← hw, ← hb, ← hu, ← hs], rfl⟩
  · cases h

theorem wantNull_gap (gap : Gap) (r : Bytes) :
    wantNull (gap.bytes ++ 0x6E :: (nullTail ++ r)) = .ok r := by
  unfold wantNull
  rw [skipBlank_gap, skipBlank_cons rfl]
  exact word_append nullTail r

theorem gap_of_wantNull (h : wantNull s = .ok r) :
    ∃ gap : Gap, s = gap.bytes ++ 0x6E :: (nullTail ++ r) := by
  obtain ⟨gap, hs⟩ := exists_gap s
  unfold wantNull at h
  split at h
  · simp [stopAt] at h
  rename_i b u hu
  split at h
  · rename_i hb
    exact ⟨gap, by rw [hs, hu, hb, eq_append_of_word h]⟩
  · cases h

theorem stateEnd_gap (gap : Gap) (r : Bytes) : stateEnd (gap.bytes ++ 0x7D :: r) = .ok r := by
  unfold stateEnd
  rw [skipBlank_gap, skipBlank_cons rfl]
  rfl

theorem gap_of_stateEnd (h : stateEnd s = .ok r) : ∃ gap : Gap, s = gap.bytes ++ 0x7D :: r := by
  obtain ⟨gap, hs⟩ := exists_gap s
  unfold stateEnd at h
  split at h
  · simp [stop] at h
  rename_i b u hu
  split at h
  · rename_i hb
    cases h
    exact ⟨gap, by rw [hs, hu, hb]⟩
  · simp [stop] at h

theorem taggedState_tagged (beforeKey : Gap) (name : Wording) (beforeColon beforeNull afterNull : Gap)
    (r : Bytes) :
    taggedState (beforeKey.bytes ++ (name.bytes ++ (beforeColon.bytes ++ 0x3A :: (beforeNull.bytes
      ++ 0x6E :: (nullTail ++ (afterNull.bytes ++ 0x7D :: r))))))
      = .ok (.ofWire name.text, r) := by
  unfold taggedState
  rw [skipBlank_gap, Wording.bytes_append, skipBlank_cons rfl]
  simp only [if_true, text_wording, colon_gap, Except.bind, wantNull_gap, stateEnd_gap, Except.map]

theorem tagged_of_taggedState {state : JobState} (h : taggedState s = .ok (state, r)) :
    ∃ (beforeKey : Gap) (name : Wording) (beforeColon beforeNull afterNull : Gap),
      s = beforeKey.bytes ++ (name.bytes ++ (beforeColon.bytes ++ 0x3A :: (beforeNull.bytes
        ++ 0x6E :: (nullTail ++ (afterNull.bytes ++ 0x7D :: r))))) ∧
      JobState.ofWire name.text = state := by
  obtain ⟨gap, hs⟩ := exists_gap s
  unfold taggedState at h
  split at h
  · simp [stopAt] at h
  rename_i b u hu
  split at h
  · rename_i hb
    split at h
    · cases h
    rename_i key r1 hkey
    obtain ⟨r4, hchain, hr⟩ := map_eq_ok.mp h
    obtain ⟨r3, hchain, he⟩ := bind_eq_ok.mp hchain
    obtain ⟨r2, hc, hn⟩ := bind_eq_ok.mp hchain
    cases hr
    obtain ⟨name, hname, rfl⟩ := wording_of_text hkey
    obtain ⟨beforeColon, rfl⟩ := gap_of_colon hc
    obtain ⟨beforeNull, rfl⟩ := gap_of_wantNull hn
    obtain ⟨afterNull, rfl⟩ := gap_of_stateEnd he
    exact ⟨gap, name, beforeColon, beforeNull, afterNull, by rw [hs, hu, hb, hname], rfl⟩
  · simp [stopAt] at h

/-- Every form of a state after blanks is read as its state. -/
theorem wantState_form (gap : Gap) (form : StateForm) (r : Bytes) :
    wantState (gap.bytes ++ (form.bytes ++ r)) = .ok (form.state, r) := by
  unfold wantState
  rw [skipBlank_gap]
  cases form with
  | bare name =>
    rw [StateForm.bytes, Wording.bytes_append, skipBlank_cons rfl]
    simp only [if_true, text_wording]
    rfl
  | tagged beforeKey name beforeColon beforeNull afterNull =>
    have h := taggedState_tagged beforeKey name beforeColon beforeNull afterNull r
    simp only [StateForm.bytes, List.cons_append, List.append_assoc, List.nil_append] at h ⊢
    rw [skipBlank_cons rfl]
    exact h

/-- What is read as a state is one of its forms after blanks. -/
theorem form_of_wantState {state : JobState} (h : wantState s = .ok (state, r)) :
    ∃ (gap : Gap) (form : StateForm), s = gap.bytes ++ (form.bytes ++ r) ∧ form.state = state := by
  obtain ⟨gap, hs⟩ := exists_gap s
  unfold wantState at h
  split at h
  · simp [stopAt] at h
  rename_i b u hu
  split at h
  · rename_i hb
    split at h
    · cases h
    rename_i name r1 hname
    cases h
    obtain ⟨w, hw, rfl⟩ := wording_of_text hname
    exact ⟨gap, .bare w, by rw [StateForm.bytes, ← hw, ← hb, ← hu, ← hs], rfl⟩
  split at h
  · rename_i hb
    obtain ⟨beforeKey, name, beforeColon, beforeNull, afterNull, rfl, rfl⟩ := tagged_of_taggedState h
    refine ⟨gap, .tagged beforeKey name beforeColon beforeNull afterNull, ?_, rfl⟩
    rw [hs, hu, hb]
    simp [StateForm.bytes]
  · simp [stopAt] at h

end Readers
end QueueBoard.Listing
