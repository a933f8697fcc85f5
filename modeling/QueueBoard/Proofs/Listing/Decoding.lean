import QueueBoard.Proofs.Fetch.Replies
import QueueBoard.Proofs.Listing.Records

/-! # Reading listings

A document is read as some jobs just when it is a form that stands for them. So the body of a success
has jobs just when it is such a form as a whole.
-/
namespace QueueBoard.Listing
open Json

section Keys
variable {first : Bool} {s r : Bytes}

theorem nextKey_close (first : Bool) (gap : Gap) (r : Bytes) :
    nextKey first (gap.bytes ++ 0x7D :: r) = .ok (.closed, r) := by
  unfold nextKey
  rw [skipBlank_gap, skipBlank_cons rfl]
  rfl

theorem nextKey_first (gap : Gap) (r : Bytes) :
    nextKey true (gap.bytes ++ 0x22 :: r) = .ok (.value, r) := by
  unfold nextKey
  rw [skipBlank_gap, skipBlank_cons rfl]
  rfl

theorem nextKey_more (gap before : Gap) (r : Bytes) :
    nextKey false (gap.bytes ++ 0x2C :: (before.bytes ++ 0x22 :: r)) = .ok (.value, r) := by
  have hnext : skipBlank (before.bytes ++ 0x22 :: r) = 0x22 :: r := by
    rw [skipBlank_gap, skipBlank_cons rfl]
  unfold nextKey
  rw [skipBlank_gap, skipBlank_cons rfl]
  simp [hnext]

theorem gap_of_nextKey_closed (h : nextKey first s = .ok (.closed, r)) :
    ∃ gap : Gap, s = gap.bytes ++ 0x7D :: r := by
  obtain ⟨gap, hs⟩ := exists_gap s
  unfold nextKey at h
  split at h
  · simp [stopAt] at h
  rename_i b u hu
  split at h
  · rename_i hb
    cases h
    exact ⟨gap, by rw [hs, hu, hb]⟩
  split at h
  · split at h
    · cases h
    · simp [stopAt] at h
  split at h
  · split at h
    · simp [stopAt] at h
    · split at h
      · cases h
      · simp [stopAt] at h
  · simp [stopAt] at h

theorem gap_of_nextKey_first (h : nextKey true s = .ok (.value, r)) :
    ∃ gap : Gap, s = gap.bytes ++ 0x22 :: r := by
  obtain ⟨gap, hs⟩ := exists_gap s
  unfold nextKey at h
  split at h
  · simp [stopAt] at h
  rename_i b u hu
  split at h
  · cases h
  simp only [if_true] at h
  split at h
  · rename_i hb
    cases h
    exact ⟨gap, by rw [hs, hu, hb]⟩
  · simp [stopAt] at h

theorem gaps_of_nextKey_more (h : nextKey false s = .ok (.value, r)) :
    ∃ gap before : Gap, s = gap.bytes ++ 0x2C :: (before.bytes ++ 0x22 :: r) := by
  obtain ⟨gap, hs⟩ := exists_gap s
  unfold nextKey at h
  split at h
  · simp [stopAt] at h
  rename_i b u hu
  split at h
  · cases h
  simp only [Bool.false_eq_true, if_false] at h
  split at h
  · rename_i hb
    obtain ⟨before, hu'⟩ := exists_gap u
    split at h
    · simp [stopAt] at h
    rename_i c v hv
    split at h
    · rename_i hc
      cases h
      exact ⟨gap, before, by rw [hs, hu, hb, hu', hv, hc]⟩
    · simp [stopAt] at h
  · simp [stopAt] at h

end Keys

theorem Member.bytes_append (m : Member) (r : Bytes) :
    m.bytes ++ r = m.before.bytes ++ (m.key.bytes ++ (m.beforeColon.bytes ++ 0x3A ::
      (m.beforeValue.bytes ++ (m.value.bytes ++ (m.after.bytes ++ r))))) := by
  simp [Member.bytes]

section Members
variable {first : Bool} {d e : Draft} {s s1 s2 s3 r : Bytes} {key : String} {job : Job}

theorem members_closed (h : nextKey first s = .ok (.closed, r)) : members first d s = d.finish r := by
  rw [members]
  split <;> rename_i hk <;> rw [h] at hk <;> cases hk
  rfl

theorem members_next (hk : nextKey first s = .ok (.value, s1)) (ht : text s1 = .ok (key, s2))
    (hm : member key d s2 = .ok (e, s3)) : members first d s = members false e s3 := by
  rw [members]
  split <;> rename_i hk' <;> rw [hk] at hk' <;> cases hk'
  split <;> rename_i ht' <;> rw [ht] at ht' <;> cases ht'
  split <;> rename_i hm' <;> rw [hm] at hm' <;> cases hm'
  rfl

/-- A member is read, after what leads to its key, into the draft that takes its value. -/
theorem members_member {m : Member} (ht : d.Takes m.value e) (rest : List Bytes) (r : Bytes)
    (hk : nextKey first s = .ok (.value, m.key.spellings.flatMap Spelling.bytes ++ 0x22 ::
      (m.beforeColon.bytes ++ 0x3A :: (m.beforeValue.bytes ++ (m.value.bytes
        ++ (m.after.bytes ++ (closing 0x7D rest ++ r))))))) :
    members first d s = members false e (m.after.bytes ++ (closing 0x7D rest ++ r)) :=
  members_next hk (text_wording m.key _)
    (member_value m.fits ht (endsNumber_closing (.inr rfl) m.after rest r) _ _)

/-- The members after the first one are read as what they make of the draft. -/
theorem members_closing {ms : List Member} (h : d.Completes ms job) (gap : Gap) (r : Bytes) :
    members false d (gap.bytes ++ (closing 0x7D (ms.map Member.bytes) ++ r)) = .ok (job, r) := by
  induction ms generalizing d gap with
  | nil => exact (members_closed (nextKey_close false gap r)).trans ((Draft.completes_nil_iff r).mp h)
  | cons m ms ih =>
    obtain ⟨e, ht, he⟩ := h.takes
    refine (members_member ht (ms.map Member.bytes) r ?_).trans (ih he m.after)
    rw [List.map_cons, closing, List.cons_append, List.append_assoc, Member.bytes_append,
      Wording.bytes_append]
    exact nextKey_more gap m.before _

theorem members_first {m : Member} {ms : List Member} (h : d.Completes (m :: ms) job) (r : Bytes) :
    members true d (m.bytes ++ (closing 0x7D (ms.map Member.bytes) ++ r)) = .ok (job, r) := by
  obtain ⟨e, ht, he⟩ := h.takes
  refine (members_member ht (ms.map Member.bytes) r ?_).trans (members_closing he m.after r)
  rw [Member.bytes_append, Wording.bytes_append]
  exact nextKey_first m.before _

/-- What is read as the members of a map are members that make the draft one of the job. -/
theorem exists_members (h : members first d s = .ok (job, r)) :
    (first = false → ∃ (gap : Gap) (ms : List Member), d.Completes ms job ∧
      s = gap.bytes ++ (closing 0x7D (ms.map Member.bytes) ++ r)) ∧
    (first = true → d = .empty → ∃ (m : Member) (ms : List Member), d.Completes (m :: ms) job ∧
      s = m.bytes ++ (closing 0x7D (ms.map Member.bytes) ++ r)) := by
  fun_induction members first d s with
  | case1 => cases h
  | case2 first d s u hk =>
    constructor
    · intro _
      obtain ⟨gap, rfl⟩ := gap_of_nextKey_closed hk
      obtain rfl := finish_eq_ok h
      exact ⟨gap, [], (Draft.completes_nil_iff r).mpr h, rfl⟩
    · rintro - rfl
      simp [Draft.finish, Draft.empty, stop] at h
  | case3 => cases h
  | case4 => cases h
  | case5 first d s s1 hk key s2 ht e s3 hm ih =>
    obtain ⟨after, ms, he, rfl⟩ := (ih h).1 rfl
    obtain ⟨w, hw, rfl⟩ := wording_of_text ht
    obtain ⟨beforeColon, beforeValue, value, hfits, htakes, rfl⟩ := value_of_member hm
    constructor
    · rintro rfl
      obtain ⟨gap, before, rfl⟩ := gaps_of_nextKey_more hk
      let m : Member := ⟨before, w, beforeColon, beforeValue, value, after, hfits⟩
      refine ⟨gap, m :: ms, htakes.completes (m := m) he, ?_⟩
      rw [hw, List.map_cons, closing, List.cons_append, List.append_assoc, Member.bytes_append]
    · rintro rfl -
      obtain ⟨before, rfl⟩ := gap_of_nextKey_first hk
      let m : Member := ⟨before, w, beforeColon, beforeValue, value, after, hfits⟩
      refine ⟨m, ms, htakes.completes (m := m) he, ?_⟩
      rw [hw, Member.bytes_append]

end Members

section Records
variable {first : Bool} {s r : Bytes} {job : Job}

/-- Every form of a record after blanks is read as its job. -/
theorem record_form (gap : Gap) (form : RecordForm) (r : Bytes) :
    record (gap.bytes ++ (form.bytes ++ r)) = .ok (form.job, r) := by
  unfold record
  rw [skipBlank_gap]
  cases form with
  | map ms name state oneName oneState =>
    cases ms with
    | nil => cases oneName
    | cons m ms =>
      have hcompletes : Draft.empty.Completes (m :: ms) ⟨name, state⟩ := ⟨oneName, oneState⟩
      have hm := members_first hcompletes r
      have hsplit := commaSeparated_append 0x7D m.bytes (ms.map Member.bytes)
      simp only [RecordForm.bytes, List.map_cons, List.cons_append]
      rw [skipBlank_cons rfl, hsplit, List.append_assoc]
      exact hm
  | pair beforeName name afterName beforeState form afterState =>
    have hp := pairRecord_pair beforeName name afterName beforeState form afterState r
    simp only [RecordForm.bytes, List.cons_append, List.append_assoc, List.nil_append] at hp ⊢
    rw [skipBlank_cons rfl]
    exact hp

/-- What is read as a record is one of its forms after blanks. -/
theorem form_of_record (h : record s = .ok (job, r)) :
    ∃ (gap : Gap) (form : RecordForm), s = gap.bytes ++ (form.bytes ++ r) ∧ form.job = job := by
  obtain ⟨gap, hs⟩ := exists_gap s
  unfold record at h
  split at h
  · simp [stopAt] at h
  rename_i b u hu
  split at h
  · rename_i hb
    obtain ⟨beforeName, name, afterName, beforeState, form, afterState, rfl, rfl⟩ :=
      pair_of_pairRecord h
    refine ⟨gap, .pair beforeName name afterName beforeState form afterState, ?_, rfl⟩
    rw [hs, hu, hb]
    simp [RecordForm.bytes]
  split at h
  · rename_i hb
    obtain ⟨m, ms, ⟨hname, hstate⟩, rfl⟩ := (exists_members h).2 rfl rfl
    refine ⟨gap, .map (m :: ms) job.name job.state hname hstate, ?_, rfl⟩
    have hsplit := commaSeparated_append 0x7D m.bytes (ms.map Member.bytes)
    rw [hs, hu, hb]
    simp only [RecordForm.bytes, List.map_cons, List.cons_append]
    rw [hsplit, List.append_assoc]
  · cases h

theorem RecordForm.head (form : RecordForm) :
    ∃ b u, form.bytes = b :: u ∧ isBlank b = false ∧ b ≠ 0x5D := by
  cases form with
  | map => exact ⟨_, _, rfl, rfl, by decide⟩
  | pair => exact ⟨_, _, rfl, rfl, by decide⟩

theorem Element.bytes_append (e : Element) (r : Bytes) :
    e.bytes ++ r = e.before.bytes ++ (e.record.bytes ++ (e.after.bytes ++ r)) := by
  simp [Element.bytes]

theorem records_closed (h : nextElement first s = .ok (.closed, r)) : records first s = .ok ([], r) := by
  rw [records]
  split <;> rename_i he <;> rw [h] at he <;> cases he
  rfl

theorem records_next {s1 s2 : Bytes} {jobs : List Job} (he : nextElement first s = .ok (.value, s1))
    (hr : record s1 = .ok (job, s2)) (hrest : records false s2 = .ok (jobs, r)) :
    records first s = .ok (job :: jobs, r) := by
  rw [records]
  split <;> rename_i he' <;> rw [he] at he' <;> cases he'
  split <;> rename_i hr' <;> rw [hr] at hr' <;> cases hr'
  simp only [hrest]

theorem records_closing (es : List Element) (gap : Gap) (r : Bytes) :
    records false (gap.bytes ++ (closing 0x5D (es.map Element.bytes) ++ r))
      = .ok (es.map (·.record.job), r) := by
  induction es generalizing gap with
  | nil => exact records_closed (nextElement_close false gap r)
  | cons e es ih =>
    have hrecord := record_form .empty e.record
      (e.after.bytes ++ (closing 0x5D (es.map Element.bytes) ++ r))
    obtain ⟨b, u, hu, hb, hne⟩ := e.record.head
    refine records_next ?_ hrecord (ih e.after)
    rw [List.map_cons, closing, List.cons_append, List.append_assoc, Element.bytes_append, hu]
    exact nextElement_more hb hne gap e.before _

theorem records_first (e : Element) (es : List Element) (r : Bytes) :
    records true (e.bytes ++ (closing 0x5D (es.map Element.bytes) ++ r))
      = .ok ((e :: es).map (·.record.job), r) := by
  have hrecord := record_form .empty e.record
    (e.after.bytes ++ (closing 0x5D (es.map Element.bytes) ++ r))
  obtain ⟨b, u, hu, hb, hne⟩ := e.record.head
  refine records_next ?_ hrecord (records_closing es e.after r)
  rw [Element.bytes_append, hu]
  exact nextElement_first hb hne e.before _

/-- What is read as records are elements with their jobs in order. -/
theorem exists_elements {jobs : List Job} (h : records first s = .ok (jobs, r)) :
    (first = false → ∃ (gap : Gap) (es : List Element), es.map (·.record.job) = jobs ∧
      s = gap.bytes ++ (closing 0x5D (es.map Element.bytes) ++ r)) ∧
    (first = true → (∃ gap : Gap, jobs = [] ∧ s = gap.bytes ++ 0x5D :: r) ∨
      ∃ (e : Element) (es : List Element), (e :: es).map (·.record.job) = jobs ∧
        s = e.bytes ++ (closing 0x5D (es.map Element.bytes) ++ r)) := by
  fun_induction records first s generalizing jobs r with
  | case1 => cases h
  | case2 first s u hk =>
    cases h
    obtain ⟨gap, rfl⟩ := gap_of_nextElement_closed hk
    exact ⟨fun _ => ⟨gap, [], rfl, rfl⟩, fun _ => .inl ⟨gap, rfl, rfl⟩⟩
  | case3 => cases h
  | case4 => cases h
  | case5 first s s1 hk job s2 hr jobs' r' hrest ih =>
    cases h
    obtain ⟨after, es, rfl, rfl⟩ := (ih hrest).1 rfl
    obtain ⟨before, form, rfl, rfl⟩ := form_of_record hr
    constructor
    · rintro rfl
      obtain ⟨gap, before', rfl⟩ := gaps_of_nextElement_more hk
      refine ⟨gap, ⟨before'.append before, form, after⟩ :: es, rfl, ?_⟩
      rw [List.map_cons, closing, List.cons_append, List.append_assoc, Element.bytes_append]
      simp
    · rintro rfl
      obtain ⟨before', rfl⟩ := gap_of_nextElement_first hk
      refine .inr ⟨⟨before'.append before, form, after⟩, es, rfl, ?_⟩
      rw [Element.bytes_append]
      simp

end Records

section Listings
variable {document : Bytes} {jobs : List Job}

/-- The inside of a listing and its closing bracket are read as its jobs. -/
theorem records_inner (f : Form) (r : Bytes) :
    records true (f.inner ++ 0x5D :: r) = .ok (f.jobs, r) := by
  obtain ⟨before, inside, elements, after⟩ := f
  cases elements with
  | nil => exact records_closed (nextElement_close true inside r)
  | cons e es =>
    have hsplit := commaSeparated_append 0x5D e.bytes (es.map Element.bytes)
    have hfirst := records_first e es r
    rw [← List.append_assoc, ← hsplit, List.append_assoc] at hfirst
    exact hfirst

theorem read_form (f : Form) : read f.bytes = .ok f.jobs := by
  have hrest : skipBlank f.after.bytes = [] := by
    rw [← List.append_nil f.after.bytes, skipBlank_gap]
    rfl
  unfold read
  rw [Form.bytes, List.append_assoc, skipBlank_gap, List.cons_append, skipBlank_cons rfl]
  simp only [records_inner, hrest, if_true]

theorem form_of_read (h : read document = .ok jobs) : ∃ f : Form, f.bytes = document ∧ f.jobs = jobs := by
  obtain ⟨before, hs⟩ := exists_gap document
  unfold read at h
  split at h
  · simp [stopAt] at h
  rename_i b u hu
  split at h
  swap
  · cases h
  rename_i hb
  split at h
  · cases h
  rename_i jobs' rest hr
  split at h
  swap
  · simp [stopAt] at h
  rename_i hrest
  cases h
  obtain ⟨after, ha⟩ := exists_gap rest
  rw [hrest, List.append_nil] at ha
  subst ha
  rw [hs, hu, hb]
  rcases (exists_elements hr).2 rfl with ⟨inside, rfl, rfl⟩ | ⟨e, es, rfl, rfl⟩
  · exact ⟨⟨before, inside, [], after⟩, by simp [Form.bytes, Form.inner], rfl⟩
  · refine ⟨⟨before, .empty, e :: es, after⟩, ?_, rfl⟩
    have hsplit := commaSeparated_append 0x5D e.bytes (es.map Element.bytes)
    rw [← List.append_assoc, ← hsplit]
    simp [Form.bytes, Form.inner]

theorem decode_eq_ok_iff :
    decode document = .ok jobs ↔ ∃ f : Form, f.bytes = document ∧ f.jobs = jobs := by
  unfold decode
  constructor
  · intro h
    cases hr : read document with
    | error fault => simp [hr, Except.mapError] at h
    | ok jobs' =>
      rw [hr] at h
      cases h
      exact form_of_read hr
  · rintro ⟨f, rfl, rfl⟩
    rw [read_form]
    rfl

end Listings

end QueueBoard.Listing

namespace QueueBoard.Fetch
variable {endpoint : String} {answer : Http.Answer} {reply : Http.Reply} {body : Bytes}

end QueueBoard.Fetch
