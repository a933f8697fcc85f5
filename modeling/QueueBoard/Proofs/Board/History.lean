import Mathlib.Data.List.Infix
import QueueBoard.Fetch.Outcome
import QueueBoard.Proofs.Board.Items

/-! # Histories

A history lists the polls that have ended, the latest last. The poll state is told by two of them: the
last success has the jobs and their time, and the last poll has the status.
-/
namespace QueueBoard

/-- A poll that has ended. -/
inductive Poll
  | succeeded (jobs : List Job) (time : Instant)
  | failed (message : String)
deriving DecidableEq, Repr

namespace Poll

/-- The poll that ended at a time with an outcome. -/
def of (time : Instant) : Fetch.Outcome → Poll
  | .ok jobs => succeeded jobs time
  | .error failure => failed failure.message

def apply (s : PollState) : Poll → PollState
  | succeeded jobs time => s.succeeded jobs time
  | failed message => s.failed message

/-- The status that the last poll tells. -/
def status : Option Poll → PollStatus
  | none => .loading
  | some (succeeded _ time) => .ready time
  | some (failed message) => .failed message

def success? : Poll → Option (List Job × Instant)
  | succeeded jobs time => some (jobs, time)
  | failed _ => none

theorem apply_of (s : PollState) (time : Instant) (outcome : Fetch.Outcome) :
    apply s (of time outcome) = s.after time outcome := by
  cases outcome <;> rfl

/-- A poll puts its own status, and jobs and a time only if it succeeded. -/
theorem apply_eq (s : PollState) (p : Poll) :
    apply s p = ⟨(p.success?.map Prod.fst).or s.jobs, status (some p),
      (p.success?.map Prod.snd).or s.lastUpdated⟩ := by
  cases p <;> rfl

theorem status_eq_loading_iff {last : Option Poll} : status last = .loading ↔ last = none := by
  rcases last with - | (_ | _) <;> simp [status]

theorem status_eq_ready_iff {last : Option Poll} {time : Instant} :
    status last = .ready time ↔ ∃ jobs, last = some (.succeeded jobs time) := by
  rcases last with - | (_ | _) <;> simp [status]

theorem status_eq_failed_iff {last : Option Poll} {message : String} :
    status last = .failed message ↔ last = some (.failed message) := by
  rcases last with - | (_ | _) <;> simp [status]

end Poll

abbrev History := List Poll

namespace History

/-- The poll state after all polls. -/
def state (h : History) : PollState := h.foldl Poll.apply .loading

/-- The jobs and the time of the most recent success. -/
def lastSuccess? (h : History) : Option (List Job × Instant) := (h.filterMap Poll.success?).getLast?

section State
variable (h : History)

/-- The states after the beginnings of a history. -/
theorem scanl_apply (s : PollState) :
    h.scanl Poll.apply s = h.inits.map (List.foldl Poll.apply s) := by
  induction h generalizing s with
  | nil => rfl
  | cons p h ih =>
    rw [List.scanl_cons, ih, List.inits_cons, List.map_cons, List.map_map]
    rfl

theorem state_concat (p : Poll) : state (h ++ [p]) = Poll.apply h.state p := by
  simp [state]

theorem lastSuccess?_concat (p : Poll) : lastSuccess? (h ++ [p]) = p.success?.or h.lastSuccess? := by
  cases p <;> simp [lastSuccess?, Poll.success?]

/-- The last success has the jobs and their time, and the last poll has the status. -/
theorem state_eq : h.state =
    ⟨h.lastSuccess?.map Prod.fst, Poll.status h.getLast?, h.lastSuccess?.map Prod.snd⟩ := by
  induction h using List.reverseRecOn with
  | nil => rfl
  | append_singleton h p ih =>
    rw [state_concat, Poll.apply_eq, ih, List.getLast?_concat, lastSuccess?_concat, Option.map_or,
      Option.map_or]

theorem lastSuccess?_eq_none_iff : h.lastSuccess? = none ↔ ∀ p ∈ h, p.success? = none := by
  simp [lastSuccess?]

variable {h}

theorem lastSuccess?_of_last {jobs : List Job} {time : Instant}
    (hl : h.getLast? = some (.succeeded jobs time)) : h.lastSuccess? = some (jobs, time) := by
  obtain ⟨earlier, rfl⟩ := List.getLast?_eq_some_iff.mp hl
  exact lastSuccess?_concat earlier _

/-- Without a success the last poll of a history failed. -/
theorem last_of_no_success (hne : h ≠ []) (hs : h.lastSuccess? = none) :
    ∃ message, h.getLast? = some (.failed message) := by
  cases hl : h.getLast? with
  | none => exact absurd (List.getLast?_eq_none_iff.mp hl) hne
  | some p =>
    cases p with
    | succeeded jobs time => simp [lastSuccess?_of_last hl] at hs
    | failed message => exact ⟨message, rfl⟩

end State

/-- A poll state has its jobs and their time from the last success of a history, and its status from the
last poll. -/
structure Tells (h : History) (s : PollState) : Prop where
  jobs : s.jobs = h.lastSuccess?.map Prod.fst
  lastUpdated : s.lastUpdated = h.lastSuccess?.map Prod.snd
  no_jobs_iff : s.jobs = none ↔ ∀ p ∈ h, p.success? = none
  never_updated_iff : s.lastUpdated = none ↔ ∀ p ∈ h, p.success? = none
  loading_iff : s.status = .loading ↔ h = []
  ready_iff : ∀ time, s.status = .ready time ↔ ∃ jobs, h.getLast? = some (.succeeded jobs time)
  updated_of_ready : ∀ time, s.status = .ready time → s.lastUpdated = some time
  failed_iff : ∀ message, s.status = .failed message ↔ h.getLast? = some (.failed message)

/-- What the board shows of a poll state goes by a history: the jobs of the last success are shown
after any number of failures, and the status line shows the last poll. -/
structure Shows (h : History) (s : PollState) : Prop where
  loading : h = [] → ∀ o : RenderOptions, o.items s = [.loading]
  error : h ≠ [] → h.lastSuccess? = none →
    ∃ message, h.getLast? = some (.failed message) ∧ ∀ o : RenderOptions, o.items s = [.error message]
  empty : ∀ time, h.lastSuccess? = some ([], time) → ∀ o : RenderOptions, o.items s = [.empty]
  jobs : ∀ js time, h.lastSuccess? = some (js, time) → js ≠ [] →
    ∀ o : RenderOptions, ∃ views, o.items s = views.map .job ∧ o.Lists js views
  loading_line : h = [] → ∀ offset, s.statusLine offset = "Loading..."
  error_line : ∀ message, h.getLast? = some (.failed message) →
    ∀ offset, s.statusLine offset = "Error: " ++ message
  time_line : ∀ js time, h.getLast? = some (.succeeded js time) →
    ∀ offset, s.statusLine offset = "Last updated: " ++ time.clockText offset

theorem tells_state (h : History) : h.Tells h.state where
  jobs := by rw [state_eq]
  lastUpdated := by rw [state_eq]
  no_jobs_iff := by rw [state_eq, Option.map_eq_none_iff, lastSuccess?_eq_none_iff]
  never_updated_iff := by rw [state_eq, Option.map_eq_none_iff, lastSuccess?_eq_none_iff]
  loading_iff := by rw [state_eq, Poll.status_eq_loading_iff, List.getLast?_eq_none_iff]
  ready_iff time := by rw [state_eq, Poll.status_eq_ready_iff]
  updated_of_ready time hs := by
    rw [state_eq, Poll.status_eq_ready_iff] at hs
    obtain ⟨jobs, hl⟩ := hs
    rw [state_eq, lastSuccess?_of_last hl]
    rfl
  failed_iff message := by rw [state_eq, Poll.status_eq_failed_iff]

theorem Tells.eq_loading {s : PollState} (ht : Tells [] s) : s = .loading := by
  obtain ⟨jobs, status, lastUpdated⟩ := s
  have hjobs : jobs = none := ht.jobs
  have hstatus : status = .loading := ht.loading_iff.mpr rfl
  have hupdated : lastUpdated = none := ht.lastUpdated
  rw [hjobs, hstatus, hupdated]
  rfl

/-- A state that tells the two polls is shown as the history says. -/
theorem Tells.shows {h : History} {s : PollState} (ht : h.Tells s) : h.Shows s where
  loading hn o := by
    subst hn
    rw [ht.eq_loading, o.items_loading]
  error hne hs := by
    obtain ⟨message, hl⟩ := last_of_no_success hne hs
    have hj : s.jobs = none := by rw [ht.jobs, hs]; rfl
    exact ⟨message, hl, fun o => o.items_of_failure hj ((ht.failed_iff message).mpr hl)⟩
  empty time hs o := by
    have hj : s.jobs = some [] := by rw [ht.jobs, hs]; rfl
    exact o.items_of_no_job hj
  jobs js time hs hne o := by
    have hj : s.jobs = some js := by rw [ht.jobs, hs]; rfl
    exact ⟨o.views js, o.items_of_jobs hj hne, o.lists_views js⟩
  loading_line hn offset := by
    subst hn
    rw [ht.eq_loading]
    rfl
  error_line message hl offset := by
    rw [PollState.statusLine, (ht.failed_iff message).mpr hl, statusLine]
  time_line js time hl offset := by
    rw [PollState.statusLine, (ht.ready_iff time).mpr ⟨js, hl⟩, statusLine]
    rfl

end History

end QueueBoard
