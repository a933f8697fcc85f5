import QueueBoard.Job
import QueueBoard.Json.Skip

/-! # The listing of jobs

The server answers with one sequence of records. A record is a map with a name, a state and any other
members, or a sequence of a name and a state. A state is a text, or a map from one text to null.
-/
namespace QueueBoard.Listing
open Json

/-- A text, where nothing else will do. -/
def wantText (s : Bytes) : Result String :=
  match skipBlank s with
  | [] => stopAt .endInValue []
  | b :: r => if b = 0x22 then text r else .error (mismatch .text (b :: r))

theorem wantText_length_lt {s r : Bytes} {t : String} (h : wantText s = .ok (t, r)) :
    r.length < s.length := by
  have hs := skipBlank_length_le s
  unfold wantText at h
  split at h
  · simp [stopAt] at h
  · rename_i b u hu
    rw [hu, List.length_cons] at hs
    split at h
    · have := text_length_lt h
      omega
    · cases h

/-- Null, where nothing else will do. -/
def wantNull (s : Bytes) : Except Fault Bytes :=
  match skipBlank s with
  | [] => stopAt .endInValue []
  | b :: r => if b = 0x6E then word nullTail r else .error (mismatch .nothing (b :: r))

theorem wantNull_length_lt {s r : Bytes} (h : wantNull s = .ok r) : r.length < s.length := by
  have hs := skipBlank_length_le s
  unfold wantNull at h
  split at h
  · simp [stopAt] at h
  · rename_i b u hu
    rw [hu, List.length_cons] at hs
    split at h
    · have := word_length_le h
      omega
    · cases h

/-- The end of a map that holds a state. -/
def stateEnd (s : Bytes) : Except Fault Bytes :=
  match skipBlank s with
  | [] => stop .endInMap []
  | b :: r => if b = 0x7D then .ok r else stop .valueWanted (b :: r)

theorem stateEnd_length_lt {s r : Bytes} (h : stateEnd s = .ok r) : r.length < s.length := by
  have hs := skipBlank_length_le s
  unfold stateEnd at h
  split at h
  · simp [stop] at h
  · rename_i b u hu
    rw [hu, List.length_cons] at hs
    split at h
    · cases h
      omega
    · simp [stop] at h

/-- A state written as a map, after its opening bracket. -/
def taggedState (s : Bytes) : Result JobState :=
  match skipBlank s with
  | [] => stopAt .endInMap []
  | b :: r =>
    if b = 0x22 then
      match text r with
      | .error f => .error f
      | .ok (key, r1) =>
        (((colon r1).bind wantNull).bind stateEnd).map (JobState.ofWire key, ·)
    else stopAt (if b = 0x7D then .valueWanted else .keyNotText) (b :: r)

theorem taggedState_length_lt {s r : Bytes} {state : JobState}
    (h : taggedState s = .ok (state, r)) : r.length < s.length := by
  have hs := skipBlank_length_le s
  unfold taggedState at h
  split at h
  · simp [stopAt] at h
  · rename_i b u hu
    rw [hu, List.length_cons] at hs
    split at h
    · split at h
      · cases h
      · rename_i key r1 ht
        obtain ⟨r4, hb, hr⟩ := map_eq_ok.mp h
        obtain ⟨r3, hb, he⟩ := bind_eq_ok.mp hb
        obtain ⟨r2, hc, hn⟩ := bind_eq_ok.mp hb
        have h1 := text_length_lt ht
        have h2 := colon_length_lt hc
        have h3 := wantNull_length_lt hn
        have h4 := stateEnd_length_lt he
        cases hr
        omega
    · simp [stopAt] at h

/-- A state. -/
def wantState (s : Bytes) : Result JobState :=
  match skipBlank s with
  | [] => stopAt .endInValue []
  | b :: r =>
    if b = 0x22 then
      match text r with
      | .error f => .error f
      | .ok (name, r1) => .ok (JobState.ofWire name, r1)
    else if b = 0x7B then taggedState r
    else stopAt .valueWanted (b :: r)

theorem wantState_length_lt {s r : Bytes} {state : JobState} (h : wantState s = .ok (state, r)) :
    r.length < s.length := by
  have hs := skipBlank_length_le s
  unfold wantState at h
  split at h
  · simp [stopAt] at h
  · rename_i b u hu
    rw [hu, List.length_cons] at hs
    split at h
    · split at h
      · cases h
      · rename_i ht
        have := text_length_lt ht
        cases h
        omega
    · split at h
      · have := taggedState_length_lt h
        omega
      · simp [stopAt] at h

/-- The next element of a sequence, up to its first byte. -/
def nextElement (first : Bool) (s : Bytes) : Result Turn :=
  match skipBlank s with
  | [] => stopAt .endInSequence []
  | b :: r =>
    if b = 0x5D then .ok (.closed, r)
    else if first then .ok (.value, b :: r)
    else if b = 0x2C then
      match skipBlank r with
      | [] => stopAt .endInValue []
      | c :: r1 => if c = 0x5D then stopAt .trailingComma (c :: r1) else .ok (.value, c :: r1)
    else stopAt .commaOrBracketWanted (b :: r)

theorem nextElement_length_le {first : Bool} {s r : Bytes} {t : Turn}
    (h : nextElement first s = .ok (t, r)) : r.length ≤ s.length := by
  have hs := skipBlank_length_le s
  unfold nextElement at h
  split at h
  · simp [stopAt] at h
  · rename_i b u hu
    rw [hu, List.length_cons] at hs
    split at h
    · cases h
      omega
    split at h
    · cases h
      rw [List.length_cons]
      exact hs
    split at h
    · have hr := skipBlank_length_le u
      split at h
      · simp [stopAt] at h
      · rename_i hv
        rw [hv] at hr
        split at h
        · simp [stopAt] at h
        · cases h
          omega
    · simp [stopAt] at h

/-- The closing bracket of a sequence whose last element has been read. -/
def sequenceEnd (s : Bytes) : Except Fault Bytes :=
  match skipBlank s with
  | [] => stopAt .endInSequence []
  | b :: r =>
    if b = 0x5D then .ok r
    else if b = 0x2C then
      match skipBlank r with
      | [] => stopAt .trailingBytes []
      | c :: r1 => stopAt (if c = 0x5D then .trailingComma else .trailingBytes) (c :: r1)
    else stopAt .trailingBytes (b :: r)

theorem sequenceEnd_length_lt {s r : Bytes} (h : sequenceEnd s = .ok r) : r.length < s.length := by
  have hs := skipBlank_length_le s
  unfold sequenceEnd at h
  split at h
  · simp [stopAt] at h
  · rename_i b u hu
    rw [hu, List.length_cons] at hs
    split at h
    · cases h
      omega
    split at h
    · split at h <;> simp [stopAt] at h
    · simp [stopAt] at h

/-- The state of a record written as a sequence, and the closing bracket. -/
def pairState (name : String) (s : Bytes) : Result Job :=
  match wantState s with
  | .error f => .error f
  | .ok (state, r) => (sequenceEnd r).map (⟨name, state⟩, ·)

/-- A record written as a sequence, after its opening bracket. -/
def pairRecord (s : Bytes) : Result Job :=
  match nextElement true s with
  | .error f => .error f
  | .ok (.closed, r) => stop (.wrongLength 0) r
  | .ok (.value, s1) =>
    match wantText s1 with
    | .error f => .error f
    | .ok (name, r1) =>
      match nextElement false r1 with
      | .error f => .error f
      | .ok (.closed, r) => stop (.wrongLength 1) r
      | .ok (.value, s2) => pairState name s2

theorem pairState_length_lt {name : String} {s r : Bytes} {job : Job}
    (h : pairState name s = .ok (job, r)) : r.length < s.length := by
  unfold pairState at h
  split at h
  · cases h
  · rename_i state r1 hw
    obtain ⟨r2, he, hr⟩ := map_eq_ok.mp h
    have h1 := wantState_length_lt hw
    have h2 := sequenceEnd_length_lt he
    cases hr
    omega

theorem pairRecord_length_lt {s r : Bytes} {job : Job} (h : pairRecord s = .ok (job, r)) :
    r.length < s.length := by
  unfold pairRecord at h
  split at h
  · cases h
  · simp [stop] at h
  · rename_i s1 h1
    split at h
    · cases h
    · rename_i name r1 hw
      split at h
      · cases h
      · simp [stop] at h
      · rename_i s2 h2
        have l1 := nextElement_length_le h1
        have l2 := wantText_length_lt hw
        have l3 := nextElement_length_le h2
        have l4 := pairState_length_lt h
        omega

/-- The next key of a map, past its opening quote. -/
def nextKey (first : Bool) (s : Bytes) : Result Turn :=
  match skipBlank s with
  | [] => stopAt .endInMap []
  | b :: r =>
    if b = 0x7D then .ok (.closed, r)
    else if first then
      if b = 0x22 then .ok (.value, r) else stopAt .keyNotText (b :: r)
    else if b = 0x2C then
      match skipBlank r with
      | [] => stopAt .endInValue []
      | c :: r1 =>
        if c = 0x22 then .ok (.value, r1)
        else stopAt (if c = 0x7D then .trailingComma else .keyNotText) (c :: r1)
    else stopAt .commaOrBraceWanted (b :: r)

theorem nextKey_length_lt {first : Bool} {s r : Bytes} {t : Turn}
    (h : nextKey first s = .ok (t, r)) : r.length < s.length := by
  have hs := skipBlank_length_le s
  unfold nextKey at h
  split at h
  · simp [stopAt] at h
  · rename_i b u hu
    rw [hu, List.length_cons] at hs
    split at h
    · cases h
      omega
    split at h
    · split at h
      · cases h
        omega
      · simp [stopAt] at h
    split at h
    · have hr := skipBlank_length_le u
      split at h
      · simp [stopAt] at h
      · rename_i hv
        rw [hv, List.length_cons] at hr
        split at h
        · cases h
          omega
        · simp [stopAt] at h
    · simp [stopAt] at h

/-- What a map has told about its record so far. -/
structure Draft where
  name : Option String
  state : Option JobState

def Draft.empty : Draft := ⟨none, none⟩

/-- The job of a draft, or the first of its fields that is missing. -/
def Draft.finish (d : Draft) (rest : Bytes) : Result Job :=
  match d.name, d.state with
  | none, _ => stop (.missingField .name) rest
  | some _, none => stop (.missingField .state) rest
  | some name, some state => .ok (⟨name, state⟩, rest)

/-- Where a fault of a whole map is found: past the closing bracket if that comes next. -/
def pastMap (s : Bytes) : Bytes :=
  match skipBlank s with
  | [] => []
  | b :: r => if b = 0x7D then r else b :: r

/-- The value of one member, after its key. -/
def member (key : String) (d : Draft) (s : Bytes) : Result Draft :=
  if key = "name" then
    if d.name.isSome then stop (.repeatedField .name) (pastMap s)
    else ((colon s).bind wantText).map (fun p => (⟨some p.1, d.state⟩, p.2))
  else if key = "state" then
    if d.state.isSome then stop (.repeatedField .state) (pastMap s)
    else ((colon s).bind wantState).map (fun p => (⟨d.name, some p.1⟩, p.2))
  else ((colon s).bind skipValue).map (d, ·)

theorem member_length_lt {key : String} {d e : Draft} {s r : Bytes}
    (h : member key d s = .ok (e, r)) : r.length < s.length := by
  unfold member at h
  split at h
  · split at h
    · simp [stop] at h
    · obtain ⟨p, hb, hp⟩ := map_eq_ok.mp h
      obtain ⟨u, hc, ht⟩ := bind_eq_ok.mp hb
      have h1 := colon_length_lt hc
      have h2 := wantText_length_lt ht
      cases hp
      omega
  split at h
  · split at h
    · simp [stop] at h
    · obtain ⟨p, hb, hp⟩ := map_eq_ok.mp h
      obtain ⟨u, hc, ht⟩ := bind_eq_ok.mp hb
      have h1 := colon_length_lt hc
      have h2 := wantState_length_lt ht
      cases hp
      omega
  · obtain ⟨v, hb, hr⟩ := map_eq_ok.mp h
    obtain ⟨u, hc, hv⟩ := bind_eq_ok.mp hb
    have h1 := colon_length_lt hc
    have h2 := skipInside_length_le hv
    cases hr
    omega

/-- The members of a record from here on, up to its closing bracket. -/
def members (first : Bool) (d : Draft) (s : Bytes) : Result Job :=
  match _hk : nextKey first s with
  | .error f => .error f
  | .ok (.closed, r) => d.finish r
  | .ok (.value, s1) =>
    match _ht : text s1 with
    | .error f => .error f
    | .ok (key, s2) =>
      match _hm : member key d s2 with
      | .error f => .error f
      | .ok (e, s3) => members false e s3
termination_by s.length
decreasing_by
  have h1 := nextKey_length_lt _hk
  have h2 := text_length_lt _ht
  have h3 := member_length_lt _hm
  omega

/-- A record. -/
def record (s : Bytes) : Result Job :=
  match skipBlank s with
  | [] => stopAt .endInValue []
  | b :: r =>
    if b = 0x5B then pairRecord r
    else if b = 0x7B then members true .empty r
    else .error (mismatch .record (b :: r))

theorem finish_eq_ok {d : Draft} {s r : Bytes} {job : Job} (h : d.finish s = .ok (job, r)) :
    r = s := by
  unfold Draft.finish at h
  split at h
  · simp [stop] at h
  · simp [stop] at h
  · cases h
    rfl

theorem members_length_lt {first : Bool} {d : Draft} {s r : Bytes} {job : Job}
    (h : members first d s = .ok (job, r)) : r.length < s.length := by
  fun_induction members first d s with
  | case1 => cases h
  | case2 _ _ _ _ hk =>
    rw [finish_eq_ok h]
    exact nextKey_length_lt hk
  | case3 => cases h
  | case4 => cases h
  | case5 _ _ _ _ hk _ _ ht _ _ hm ih =>
    have h1 := nextKey_length_lt hk
    have h2 := text_length_lt ht
    have h3 := member_length_lt hm
    have h4 := ih h
    omega

theorem record_length_lt {s r : Bytes} {job : Job} (h : record s = .ok (job, r)) :
    r.length < s.length := by
  have hs := skipBlank_length_le s
  unfold record at h
  split at h
  · simp [stopAt] at h
  · rename_i b u hu
    rw [hu, List.length_cons] at hs
    split at h
    · have := pairRecord_length_lt h
      omega
    split at h
    · have := members_length_lt h
      omega
    · cases h

/-- The records from here on, up to the closing bracket. -/
def records (first : Bool) (s : Bytes) : Result (List Job) :=
  match _he : nextElement first s with
  | .error f => .error f
  | .ok (.closed, r) => .ok ([], r)
  | .ok (.value, s1) =>
    match _hr : record s1 with
    | .error f => .error f
    | .ok (job, s2) =>
      match records false s2 with
      | .error f => .error f
      | .ok (jobs, r) => .ok (job :: jobs, r)
termination_by s.length
decreasing_by
  have h1 := nextElement_length_le _he
  have h2 := record_length_lt _hr
  omega

/-- The jobs of a listing that is followed by nothing but blanks. -/
def read (document : Bytes) : Except Fault (List Job) :=
  match skipBlank document with
  | [] => stopAt .endInValue []
  | b :: r =>
    if b = 0x5B then
      match records true r with
      | .error f => .error f
      | .ok (jobs, rest) =>
        match skipBlank rest with
        | [] => .ok jobs
        | c :: more => stopAt .trailingBytes (c :: more)
    else .error (mismatch .listing (b :: r))

/-- The jobs of a document, or what is wrong with it. -/
def decode (document : Bytes) : Except String (List Job) :=
  (read document).mapError (·.describe document)

end QueueBoard.Listing
