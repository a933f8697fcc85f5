import QueueBoard.Screen.Drawing

/-! # Drawings are cut-offs

The writes of a frame make up its bytes, and a drawing leaves the first of them: all that the writer
takes of the frame, or nothing if it panics. How the drawing ends tells whether some were left out.
-/
namespace QueueBoard

theorem bytesOf_ofList (cs : List Char) :
    bytesOf (String.ofList cs) = cs.flatMap String.utf8EncodeChar := by
  rw [bytesOf, String.toList_ofList]

namespace View
variable (v : View) (s : PollState)

/-- The full frame of a poll state. -/
def bytes : Bytes := bytesOf (String.ofList (v.text s))

theorem flatten_writes : (v.writes s).flatten = v.bytes s := by
  simp only [bytes, bytesOf_ofList, text, Frame.text, writes]
  rw [← List.flatMap_def, ← List.flatMap_id, List.flatMap_assoc]
  rfl

theorem writes_ne_nil : v.writes s ≠ [] := by
  simp [writes, frame, Frame.ofItems, Frame.writes, Frame.lineWrites]

end View

namespace Faults
variable {f : Faults} {full : Bytes} {room : Nat}

/-- Whether the writer takes less than some bytes. -/
def cuts (f : Faults) (full : Bytes) : Bool := f.budget.any (· < full.length)

/-- What the writer takes of some bytes. -/
def taken (f : Faults) (full : Bytes) : Bytes :=
  match f.budget with
  | .none => full
  | .some room => full.take room

theorem cuts_iff : f.cuts full = true ↔ ∃ room, f.budget = some room ∧ room < full.length := by
  simp [cuts, Option.any_eq_true]

theorem not_cuts_iff : f.cuts full = false ↔ ∀ room, f.budget = some room → full.length ≤ room := by
  rw [← Bool.not_eq_true, cuts_iff]
  simp only [not_exists, not_and, Nat.not_lt]

theorem taken_of_budget (h : f.budget = some room) : f.taken full = full.take (min room full.length) := by
  rw [taken, h]
  exact List.take_eq_take_min

theorem taken_of_no_budget (h : f.budget = .none) : f.taken full = full := by
  rw [taken, h]

end Faults

namespace Drawing
variable {faults : Faults} {writes : List Bytes}

theorem writeAll_none (ws : List Bytes) : writeAll none ws = (ws.flatten, true) := by
  induction ws with
  | nil => rfl
  | cons w ws ih => simp [writeAll, ih]

theorem writeAll_some (room : Nat) (ws : List Bytes) :
    writeAll (some room) ws = (ws.flatten.take room, !decide (room < ws.flatten.length)) := by
  induction ws generalizing room with
  | nil => simp [writeAll]
  | cons w ws ih =>
    rw [writeAll, List.flatten_cons, List.take_append, List.length_append]
    by_cases hw : w.length ≤ room
    · have hlt : room - w.length < ws.flatten.length ↔ room < w.length + ws.flatten.length := by
        omega
      rw [if_pos hw, ih, List.take_of_length_le hw, decide_eq_decide.mpr hlt]
    · have hlt : room < w.length + ws.flatten.length := by omega
      have hrest : room - w.length = 0 := by omega
      rw [if_neg hw, hrest, List.take_zero, List.append_nil, decide_eq_true hlt]
      rfl

/-- All writes together are one write of the bytes they make up. -/
theorem writeAll_eq (faults : Faults) (ws : List Bytes) :
    writeAll faults.budget ws = (faults.taken ws.flatten, !faults.cuts ws.flatten) := by
  unfold Faults.taken Faults.cuts
  cases faults.budget with
  | none => exact writeAll_none ws
  | some room => exact writeAll_some room ws

theorem perform_of_panic (h : faults.writerPanics = true) (hw : writes ≠ []) :
    perform faults writes = ⟨[], .panicked⟩ := by
  rw [perform, if_pos ⟨h, hw⟩]

theorem perform_of_cut (h : faults.writerPanics = false) (hc : faults.cuts writes.flatten = true) :
    perform faults writes = ⟨faults.taken writes.flatten, .failed .diskFull⟩ := by
  simp [perform, h, writeAll_eq, hc]

theorem perform_of_fit (h : faults.writerPanics = false) (hc : faults.cuts writes.flatten = false) :
    perform faults writes =
      ⟨faults.taken writes.flatten, if faults.flushFails then .failed .flushFailed else .drawn⟩ := by
  simp [perform, h, writeAll_eq, hc]

theorem log_eq_diskFull_iff (d : Drawing) :
    d.log = [⟨.warn, "Failed to write display: disk full"⟩] ↔ d.ending = .failed .diskFull := by
  obtain ⟨bytes, ending⟩ := d
  cases ending with
  | failed fault => cases fault <;> simp [log, WriteFault.message]
  | _ => simp [log]

theorem log_eq_flushFailed_iff (d : Drawing) :
    d.log = [⟨.warn, "Failed to write display: flush failed"⟩] ↔ d.ending = .failed .flushFailed := by
  obtain ⟨bytes, ending⟩ := d
  cases ending with
  | failed fault => cases fault <;> simp [log, WriteFault.message]
  | _ => simp [log]

/-- A drawing of a frame with some faults: what is written of the frame, and what is told of it. -/
structure CutOff (full : Bytes) (faults : Faults) (d : Drawing) : Prop where
  bytes_of_panic : faults.writerPanics = true → d.bytes = []
  bytes_of_budget : ∀ room, faults.writerPanics = false → faults.budget = some room →
    d.bytes = full.take (min room full.length)
  bytes_of_no_budget : faults.writerPanics = false → faults.budget = none → d.bytes = full
  diskFull_iff : d.log = [⟨.warn, "Failed to write display: disk full"⟩] ↔
    faults.writerPanics = false ∧ ∃ room, faults.budget = some room ∧ room < full.length
  flushFailed_iff : d.log = [⟨.warn, "Failed to write display: flush failed"⟩] ↔
    faults.writerPanics = false ∧ (∀ room, faults.budget = some room → full.length ≤ room) ∧
      faults.flushFails = true
  log_cases : d.log = [] ∨ d.log = [⟨.warn, "Failed to write display: disk full"⟩] ∨
    d.log = [⟨.warn, "Failed to write display: flush failed"⟩]
  panicked_iff : d.ending = .panicked ↔ faults.writerPanics = true

section CutOff
variable {full : Bytes}

theorem cutOff_of_panic (h : faults.writerPanics = true) : CutOff full faults ⟨[], .panicked⟩ where
  bytes_of_panic _ := rfl
  bytes_of_budget := by simp [h]
  bytes_of_no_budget := by simp [h]
  diskFull_iff := by simp [log_eq_diskFull_iff, h]
  flushFailed_iff := by simp [log_eq_flushFailed_iff, h]
  log_cases := .inl rfl
  panicked_iff := by simp [h]

theorem cutOff_of_cut (h : faults.writerPanics = false) (hc : faults.cuts full = true) :
    CutOff full faults ⟨faults.taken full, .failed .diskFull⟩ where
  bytes_of_panic hp := by simp [h] at hp
  bytes_of_budget _ _ hb := Faults.taken_of_budget hb
  bytes_of_no_budget _ hb := Faults.taken_of_no_budget hb
  diskFull_iff := by
    rw [log_eq_diskFull_iff]
    exact iff_of_true rfl ⟨h, Faults.cuts_iff.mp hc⟩
  flushFailed_iff := by
    rw [log_eq_flushFailed_iff, ← Faults.not_cuts_iff, hc]
    simp
  log_cases := .inr (.inl rfl)
  panicked_iff := by simp [h]

theorem cutOff_of_fit (h : faults.writerPanics = false) (hc : faults.cuts full = false) :
    CutOff full faults
      ⟨faults.taken full, if faults.flushFails then .failed .flushFailed else .drawn⟩ where
  bytes_of_panic hp := by simp [h] at hp
  bytes_of_budget _ _ hb := Faults.taken_of_budget hb
  bytes_of_no_budget _ hb := Faults.taken_of_no_budget hb
  diskFull_iff := by
    rw [log_eq_diskFull_iff, ← Faults.cuts_iff, hc]
    split <;> simp
  flushFailed_iff := by
    rw [log_eq_flushFailed_iff, ← Faults.not_cuts_iff, hc, h]
    split <;> simp [*]
  log_cases := by
    split
    · exact .inr (.inr rfl)
    · exact .inl rfl
  panicked_iff := by
    rw [h]
    split <;> simp

/-- Whatever the faults are, what is performed of some writes is a cut-off of their bytes. -/
theorem cutOff_perform (faults : Faults) (hw : writes ≠ []) :
    CutOff writes.flatten faults (perform faults writes) := by
  cases hp : faults.writerPanics with
  | true =>
    rw [perform_of_panic hp hw]
    exact cutOff_of_panic hp
  | false =>
    cases hc : faults.cuts writes.flatten with
    | true =>
      rw [perform_of_cut hp hc]
      exact cutOff_of_cut hp hc
    | false =>
      rw [perform_of_fit hp hc]
      exact cutOff_of_fit hp hc

end CutOff
end Drawing

/-- Without faults the full frame is drawn. -/
theorem View.draw_none (v : View) (s : PollState) : v.draw .none s = ⟨v.bytes s, .drawn⟩ := by
  rw [View.draw, Drawing.perform_of_fit rfl rfl, v.flatten_writes s]
  rfl

theorem View.cutOff_draw (v : View) (faults : Faults) (s : PollState) :
    Drawing.CutOff (v.bytes s) faults (v.draw faults s) := by
  rw [← v.flatten_writes s]
  exact Drawing.cutOff_perform faults (v.writes_ne_nil s)

end QueueBoard
