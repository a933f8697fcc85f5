import QueueBoard.Proofs.Listing.States

/-! # Reading records

What is read as a record is one of its forms, and every form is read as its job. The members of a map
are read one by one into a draft, which takes a name and a state once each.
-/
namespace QueueBoard.Listing
open Json

/-- What follows an item up to its closing bracket: the other items, each after a comma. -/
def closing (closer : UInt8) : List Bytes → Bytes
  | [] => [closer]
  | s :: rest => 0x2C :: (s ++ closing closer rest)

theorem commaSeparated_append (closer : UInt8) (s : Bytes) (rest : List Bytes) :
    commaSeparated (s :: rest) ++ [closer] = s ++ closing closer rest := by
  induction rest generalizing s with
  | nil => rfl
  | cons t rest ih => rw [commaSeparated, List.append_assoc, List.cons_append, ih, closing]

/-- What follows an item does not go on with a number. -/
theorem endsNumber_closing {closer : UInt8} (h : closer = 0x5D ∨ closer = 0x7D) (gap : Gap)
    (rest : List Bytes) (r : Bytes) : EndsNumber (gap.bytes ++ (closing closer rest ++ r)) := by
  cases rest with
  | nil =>
    refine endsNumber_gap gap r ?_
    rcases h with rfl | rfl <;> decide
  | cons s rest => exact endsNumber_gap gap _ (by decide)

section Pairs
variable {first : Bool} {s r : Bytes}

theorem nextElement_close (first : Bool) (gap : Gap) (r : Bytes) :
    nextElement first (gap.bytes ++ 0x5D :: r) = .ok (.closed, r) := by
  unfold nextElement
  rw [skipBlank_gap, skipBlank_cons rfl]
  rfl

theorem nextElement_first {b : UInt8} (hb : isBlank b = false) (hne : b ≠ 0x5D) (gap : Gap)
    (r : Bytes) : nextElement true (gap.bytes ++ b :: r) = .ok (.value, b :: r) := by
  unfold nextElement
  rw [skipBlank_gap, skipBlank_cons hb]
  simp [hne]

theorem nextElement_more {b : UInt8} (hb : isBlank b = false) (hne : b ≠ 0x5D) (gap before : Gap)
    (r : Bytes) :
    nextElement false (gap.bytes ++ 0x2C :: (before.bytes ++ b :: r)) = .ok (.value, b :: r) := by
  unfold nextElement
  rw [skipBlank_gap, skipBlank_cons rfl]
  simp [skipBlank_cons hb, hne]

theorem gap_of_nextElement_closed (h : nextElement first s = .ok (.closed, r)) :
    ∃ gap : Gap, s = gap.bytes ++ 0x5D :: r := by
  obtain ⟨gap, hs⟩ := exists_gap s
  unfold nextElement at h
  split at h
  · simp [stopAt] at h
  rename_i b u hu
  split at h
  · rename_i hb
    cases h
    exact ⟨gap, by rw [hs, hu, hb]⟩
  split at h
  · cases h
  split at h
  · split at h
    · simp [stopAt] at h
    · split at h
      · simp [stopAt] at h
      · cases h
  · simp [stopAt] at h

theorem gap_of_nextElement_first (h : nextElement true s = .ok (.value, r)) :
    ∃ gap : Gap, s = gap.bytes ++ r := by
  obtain ⟨gap, hs⟩ := exists_gap s
  unfold nextElement at h
  split at h
  · simp [stopAt] at h
  rename_i b u hu
  split at h
  · cases h
  · cases h
    exact ⟨gap, by rw [hs, hu]⟩

theorem gaps_of_nextElement_more (h : nextElement false s = .ok (.value, r)) :
    ∃ gap before : Gap, s = gap.bytes ++ 0x2C :: (before.bytes ++ r) := by
  obtain ⟨gap, hs⟩ := exists_gap s
  unfold nextElement at h
  split at h
  · simp [stopAt] at h
  rename_i b u hu
  split at h
  · cases h
  simp only [Bool.false_eq_true, if_false] at h
  split at h
  · rename_i hb
    obtain ⟨before, hu'⟩ := exists_gap u
    split at h
    · simp [stopAt] at h
    rename_i c v hv
    split at h
    · simp [stopAt] at h
    · cases h
      exact ⟨gap, before, by rw [hs, hu, hb, hu', hv]⟩
  · simp [stopAt] at h

theorem sequenceEnd_gap (gap : Gap) (r : Bytes) : sequenceEnd (gap.bytes ++ 0x5D :: r) = .ok r := by
  unfold sequenceEnd
  rw [skipBlank_gap, skipBlank_cons rfl]
  rfl

theorem gap_of_sequenceEnd (h : sequenceEnd s = .ok r) : ∃ gap : Gap, s = gap.bytes ++ 0x5D :: r := by
  obtain ⟨gap, hs⟩ := exists_gap s
  unfold sequenceEnd at h
  split at h
  · simp [stopAt] at h
  rename_i b u hu
  split at h
  · rename_i hb
    cases h
    exact ⟨gap, by rw [hs, hu, hb]⟩
  split at h
  · split at h <;> simp [stopAt] at h
  · simp [stopAt] at h

theorem StateForm.head (form : StateForm) :
    ∃ b u, form.bytes = b :: u ∧ isBlank b = false ∧ b ≠ 0x5D := by
  cases form with
  | bare name => exact ⟨_, _, rfl, rfl, by decide⟩
  | tagged => exact ⟨_, _, rfl, rfl, by decide⟩

/-- Every pair is read as its job, after its opening bracket. -/
theorem pairRecord_pair (beforeName : Gap) (name : Wording) (afterName beforeState : Gap)
    (form : StateForm) (afterState : Gap) (r : Bytes) :
    pairRecord (beforeName.bytes ++ (name.bytes ++ (afterName.bytes ++ 0x2C :: (beforeState.bytes
      ++ (form.bytes ++ (afterState.bytes ++ 0x5D :: r)))))) = .ok (⟨name.text, form.state⟩, r) := by
  obtain ⟨b, u, hu, hb, hne⟩ := form.head
  have hname := wantText_wording .empty name (afterName.bytes ++ 0x2C :: (beforeState.bytes
    ++ (form.bytes ++ (afterState.bytes ++ 0x5D :: r))))
  have hstate := wantState_form .empty form (afterState.bytes ++ 0x5D :: r)
  simp only [Gap.empty, List.nil_append] at hname hstate
  have hmore : nextElement false (afterName.bytes ++ 0x2C :: (beforeState.bytes
      ++ (form.bytes ++ (afterState.bytes ++ 0x5D :: r))))
      = .ok (.value, form.bytes ++ (afterState.bytes ++ 0x5D :: r)) := by
    rw [hu]
    exact nextElement_more hb hne afterName beforeState _
  unfold pairRecord
  rw [Wording.bytes_append] at hname ⊢
  rw [nextElement_first rfl (by decide)]
  simp only [hname, hmore, pairState, hstate, sequenceEnd_gap, Except.map]

/-- What is read as a pair is one. -/
theorem pair_of_pairRecord {job : Job} (h : pairRecord s = .ok (job, r)) :
    ∃ (beforeName : Gap) (name : Wording) (afterName beforeState : Gap) (form : StateForm)
      (afterState : Gap),
      s = beforeName.bytes ++ (name.bytes ++ (afterName.bytes ++ 0x2C :: (beforeState.bytes
        ++ (form.bytes ++ (afterState.bytes ++ 0x5D :: r))))) ∧
      job = ⟨name.text, form.state⟩ := by
  unfold pairRecord at h
  split at h
  · cases h
  · simp [stop] at h
  rename_i s1 h1
  split at h
  · cases h
  rename_i name r1 hname
  split at h
  · cases h
  · simp [stop] at h
  rename_i s2 h2
  unfold pairState at h
  split at h
  · cases h
  rename_i state r2 hstate
  obtain ⟨r3, he, hr⟩ := map_eq_ok.mp h
  cases hr
  obtain ⟨gap, rfl⟩ := gap_of_nextElement_first h1
  obtain ⟨gap', w, rfl, rfl⟩ := wording_of_wantText hname
  obtain ⟨afterName, before, rfl⟩ := gaps_of_nextElement_more h2
  obtain ⟨before', form, rfl, rfl⟩ := form_of_wantState hstate
  obtain ⟨afterState, rfl⟩ := gap_of_sequenceEnd he
  exact ⟨gap.append gap', w, afterName, before.append before', form, afterState, by simp, rfl⟩

end Pairs

/-- A draft takes a name and a state once each, and any other value. -/
inductive Draft.Takes (d : Draft) : MemberValue → Draft → Prop
  | name (w : Wording) (h : d.name = none) : Takes d (.name w) ⟨some w.text, d.state⟩
  | state (form : StateForm) (h : d.state = none) : Takes d (.state form) ⟨d.name, some form.state⟩
  | other (s : Bytes) (h : IsValue s) : Takes d (.other s h) d

/-- Whether the members still to come make a draft the draft of a job. -/
def Draft.Completes (d : Draft) (ms : List Member) (job : Job) : Prop :=
  d.name.toList ++ ms.filterMap Member.name? = [job.name] ∧
    d.state.toList ++ ms.filterMap Member.state? = [job.state]

namespace Draft
variable {d e : Draft} {m : Member} {ms : List Member} {job : Job}

theorem Takes.completes (h : d.Takes m.value e) (he : e.Completes ms job) : d.Completes (m :: ms) job := by
  obtain ⟨hname, hstate⟩ := he
  cases hm : m.value with
  | name w =>
    rw [hm] at h
    cases h with
    | name _ hd =>
      exact ⟨by simpa [Member.name?, hm, hd] using hname, by simpa [Member.state?, hm] using hstate⟩
  | state form =>
    rw [hm] at h
    cases h with
    | state _ hd =>
      exact ⟨by simpa [Member.name?, hm] using hname, by simpa [Member.state?, hm, hd] using hstate⟩
  | other s hs =>
    rw [hm] at h
    cases h with
    | other => exact ⟨by simpa [Member.name?, hm] using hname, by simpa [Member.state?, hm] using hstate⟩

theorem Completes.takes (h : d.Completes (m :: ms) job) :
    ∃ e, d.Takes m.value e ∧ e.Completes ms job := by
  obtain ⟨hname, hstate⟩ := h
  cases hm : m.value with
  | name w =>
    simp only [List.filterMap_cons, Member.name?, Member.state?, hm] at hname hstate
    cases hd : d.name with
    | none =>
      refine ⟨_, .name w hd, ?_, hstate⟩
      simpa [hd] using hname
    | some name => simp [hd] at hname
  | state form =>
    simp only [List.filterMap_cons, Member.name?, Member.state?, hm] at hname hstate
    cases hd : d.state with
    | none =>
      refine ⟨_, .state form hd, hname, ?_⟩
      simpa [hd] using hstate
    | some state => simp [hd] at hstate
  | other s hs =>
    simp only [List.filterMap_cons, Member.name?, Member.state?, hm] at hname hstate
    exact ⟨d, .other s hs, hname, hstate⟩

theorem completes_nil_iff (r : Bytes) : d.Completes [] job ↔ d.finish r = .ok (job, r) := by
  obtain ⟨name, state⟩ := d
  cases name with
  | none => simp [Completes, finish, stop]
  | some name =>
    cases state with
    | none => simp [Completes, finish, stop]
    | some state =>
      simp only [Completes, finish, Option.toList_some, List.filterMap_nil, List.append_nil,
        List.cons.injEq, and_true, Except.ok.injEq, Prod.mk.injEq]
      constructor
      · rintro ⟨rfl, rfl⟩
        rfl
      · rintro rfl
        exact ⟨rfl, rfl⟩

end Draft

section Members
variable {key : String} {d e : Draft} {s r : Bytes}

/-- What is read as a member after its key is a value that fits the key, and is taken by the draft. -/
theorem value_of_member (h : member key d s = .ok (e, r)) :
    ∃ (beforeColon beforeValue : Gap) (value : MemberValue), value.Fits key ∧ d.Takes value e ∧
      s = beforeColon.bytes ++ 0x3A :: (beforeValue.bytes ++ (value.bytes ++ r)) := by
  unfold member at h
  split at h
  · rename_i hkey
    split at h
    · simp [stop] at h
    rename_i hd
    obtain ⟨⟨text, r'⟩, hb, hp⟩ := map_eq_ok.mp h
    obtain ⟨u, hc, ht⟩ := bind_eq_ok.mp hb
    cases hp
    obtain ⟨beforeColon, rfl⟩ := gap_of_colon hc
    obtain ⟨beforeValue, w, rfl, rfl⟩ := wording_of_wantText ht
    exact ⟨beforeColon, beforeValue, .name w, hkey, .name w (by simpa using hd), rfl⟩
  rename_i hname
  split at h
  · rename_i hkey
    split at h
    · simp [stop] at h
    rename_i hd
    obtain ⟨⟨state, r'⟩, hb, hp⟩ := map_eq_ok.mp h
    obtain ⟨u, hc, ht⟩ := bind_eq_ok.mp hb
    cases hp
    obtain ⟨beforeColon, rfl⟩ := gap_of_colon hc
    obtain ⟨beforeValue, form, rfl, rfl⟩ := form_of_wantState ht
    exact ⟨beforeColon, beforeValue, .state form, hkey, .state form (by simpa using hd), rfl⟩
  · rename_i hstate
    obtain ⟨r', hb, hr⟩ := map_eq_ok.mp h
    obtain ⟨u, hc, hv⟩ := bind_eq_ok.mp hb
    cases hr
    obtain ⟨beforeColon, rfl⟩ := gap_of_colon hc
    obtain ⟨beforeValue, v, hvalue, rfl⟩ := value_of_skipValue hv
    exact ⟨beforeColon, beforeValue, .other v hvalue, ⟨hname, hstate⟩, .other v hvalue,
      by simp [MemberValue.bytes]⟩

/-- Every value that fits a key and is taken by a draft is read after that key. -/
theorem member_value {value : MemberValue} (hf : value.Fits key) (ht : d.Takes value e)
    (hr : EndsNumber r) (beforeColon beforeValue : Gap) :
    member key d (beforeColon.bytes ++ 0x3A :: (beforeValue.bytes ++ (value.bytes ++ r)))
      = .ok (e, r) := by
  cases ht with
  | name w hd =>
    have hw := wantText_wording beforeValue w r
    cases hf
    simp only [member, if_true, hd, Option.isSome_none, Bool.false_eq_true, if_false, colon_gap,
      Except.bind, MemberValue.bytes, hw, Except.map]
  | state form hd =>
    have hw := wantState_form beforeValue form r
    have hne : ¬ "state" = "name" := by decide
    cases hf
    simp only [member, hne, if_true, hd, Option.isSome_none, Bool.false_eq_true, if_false, colon_gap,
      Except.bind, MemberValue.bytes, hw, Except.map]
  | other v hv =>
    have hw := skipValue_value hv hr beforeValue
    simp only [member, hf.1, hf.2, if_false, colon_gap, Except.bind, MemberValue.bytes, hw, Except.map]

end Members

end QueueBoard.Listing
