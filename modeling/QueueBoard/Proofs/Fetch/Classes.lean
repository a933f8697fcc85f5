import QueueBoard.Proofs.Listing.Decoding
import QueueBoard.Screen.Session

/-! # Classes of answers

What is received in a fetch falls in one of four classes, of which the head and the body decide: the status
comes before the body, and whether the body is complete comes before what it says. The class tells the
kind of the outcome, and a session publishes that outcome as its next poll state.
-/
namespace QueueBoard

namespace Http

/-- A reply whose status has no body is complete without one. -/
theorem Reply.body_of_read? {s : Bytes} {reply : Reply} (h : Reply.read? s = some reply)
    (hb : Head.isBodiless reply.status = true) : reply.body = some [] := by
  fun_induction Reply.read? s with
  | case1 => cases h
  | case2 _ _ _ _ _ ih => exact ih h
  | case3 s head r hs hi =>
    obtain ⟨f, hf, rfl⟩ := Option.map_eq_some_iff.mp h
    have hbodiless : Head.isBodiless head.status = true := hb
    rw [Head.framing?, if_pos hbodiless] at hf
    cases hf
    rfl

theorem Reaction.body_of_reply? {reaction : Reaction} {reply : Reply} (h : reaction.reply? = some reply)
    (hb : Head.isBodiless reply.status = true) : reply.body = some [] := by
  cases reaction with
  | closed => cases h
  | raw bytes => exact Reply.body_of_read? h hb
  | response status length body =>
    simp only [Reaction.reply?] at h
    split at h
    · cases h
    · split at h
      · exact Reply.body_of_read? h hb
      · split at h
        · cases h
          rfl
        · rename_i hbodied
          split at h
          · cases h
          · cases h
            exact absurd hb hbodied

end Http

namespace Failure
variable (f : Failure)

theorem isTransient_iff : f.isTransient = true ↔
    (∃ fault, f = .network fault) ∨ ∃ code body, f = .status code body ∧ 500 ≤ code := by
  cases f <;> simp [isTransient, isServerError]

theorem not_client_and_server : ¬ (f.isClientError = true ∧ f.isServerError = true) := by
  cases f with
  | status code body =>
    simp only [isClientError, isServerError, Bool.and_eq_true, decide_eq_true_eq]
    omega
  | _ => simp [isClientError]

end Failure

namespace Fetch

/-- The classes of what a server answers. -/
inductive Class
  | network
  | status
  | listing
  | malformed
deriving DecidableEq, Repr

/-- A status that tells of a success. -/
def IsSuccess (status : Nat) : Prop := 200 ≤ status ∧ status ≤ 299

theorem isSuccess_iff {status : Nat} : isSuccess status = true ↔ IsSuccess status := by
  simp only [isSuccess, IsSuccess, Bool.and_eq_true, decide_eq_true_eq]
  omega

theorem isSuccess_ok : IsSuccess 200 := ⟨by decide, by decide⟩

/-- Whether the reply of a fetch is in a class. -/
def Class.Has (received : Option Http.Reply) : Class → Prop
  | network => received = none ∨ ∃ reply, received = some reply ∧ IsSuccess reply.status ∧ reply.body = none
  | status => ∃ reply, received = some reply ∧ ¬ IsSuccess reply.status
  | listing => ∃ reply, received = some reply ∧ IsSuccess reply.status ∧
      ∃ form : Listing.Form, reply.body = some form.bytes
  | malformed => ∃ reply body, received = some reply ∧ IsSuccess reply.status ∧ reply.body = some body ∧
      ∀ form : Listing.Form, form.bytes ≠ body

def Class.of : Outcome → Class
  | .ok _ => listing
  | .error (.network _) => network
  | .error (.status _ _) => status
  | .error (.malformed _) => malformed

/-- A success does not lead on, so it is the reply to the fetch. -/
theorem reply?_of_success {endpoint : String} {answer : Http.Answer} {reply : Http.Reply}
    (h : firstReply? endpoint answer = some reply) (hs : IsSuccess reply.status) :
    reply? endpoint answer = some reply := by
  refine reply?_of_first h ?_
  rintro ⟨hstatus, -⟩
  have hle : reply.status ≤ 299 := hs.2
  have hlarge : ∀ status ∈ [301, 302, 303, 307, 308], 299 < status := by decide
  exact absurd (hlarge _ hstatus) (Nat.not_lt.mpr hle)

section Outcomes
variable {client : Http.Client} {reply : Http.Reply} {body : Bytes}

theorem ofReply_of_refused (h : ¬ IsSuccess reply.status) :
    ofReply client reply = .error (.status reply.status (text client reply)) := by
  have hs : isSuccess reply.status ≠ true := fun hs => h (isSuccess_iff.mp hs)
  rw [ofReply, if_neg hs]

theorem ofReply_of_cut (h : IsSuccess reply.status) (hb : reply.body = none) :
    ofReply client reply = .error (.network .brokenBody) := by
  rw [ofReply, if_pos (isSuccess_iff.mpr h), hb]

theorem ofReply_of_complete (h : IsSuccess reply.status) (hb : reply.body = some body) :
    ofReply client reply = (Listing.decode body).mapError .malformed := by
  rw [ofReply, if_pos (isSuccess_iff.mpr h), hb]

theorem ofReply_of_form (h : IsSuccess reply.status) {form : Listing.Form}
    (hb : reply.body = some form.bytes) : ofReply client reply = .ok form.jobs := by
  rw [ofReply_of_complete h hb, Listing.decode_eq_ok_iff.mpr ⟨form, rfl, rfl⟩]
  rfl

theorem ofReply_of_no_form (h : IsSuccess reply.status) (hb : reply.body = some body)
    (hn : ∀ form : Listing.Form, form.bytes ≠ body) :
    ∃ detail, ofReply client reply = .error (.malformed detail) := by
  rw [ofReply_of_complete h hb]
  cases hd : Listing.decode body with
  | error detail => exact ⟨detail, rfl⟩
  | ok js =>
    obtain ⟨form, hform, -⟩ := Listing.decode_eq_ok_iff.mp hd
    exact absurd hform (hn form)

end Outcomes

section Classes
variable {endpoint : String} {answer : Http.Answer}

/-- The head and the body leave no reply without a class. -/
theorem Class.exists_has (received : Option Http.Reply) : ∃ c : Class, c.Has received := by
  cases received with
  | none => exact ⟨.network, .inl rfl⟩
  | some reply =>
    by_cases hs : IsSuccess reply.status
    · cases hb : reply.body with
      | none => exact ⟨.network, .inr ⟨reply, rfl, hs, hb⟩⟩
      | some body =>
        by_cases hf : ∃ form : Listing.Form, form.bytes = body
        · obtain ⟨form, rfl⟩ := hf
          exact ⟨.listing, reply, rfl, hs, form, hb⟩
        · exact ⟨.malformed, reply, body, rfl, hs, hb, fun form he => hf ⟨form, he⟩⟩
    · exact ⟨.status, reply, rfl, hs⟩

/-- The kind of the outcome is the class of the reply. -/
theorem Class.of_jobs {c : Class} (h : c.Has (reply? endpoint answer)) :
    Class.of (jobs endpoint answer) = c := by
  cases c with
  | network =>
    rcases h with h | ⟨reply, h, hs, hb⟩
    · obtain ⟨fault, hj⟩ := jobs_of_no_reply h
      rw [hj, Class.of]
    · rw [jobs_of_reply? h, ofReply_of_cut hs hb, Class.of]
  | status =>
    obtain ⟨reply, h, hs⟩ := h
    rw [jobs_of_reply? h, ofReply_of_refused hs, Class.of]
  | listing =>
    obtain ⟨reply, h, hs, form, hb⟩ := h
    rw [jobs_of_reply? h, ofReply_of_form hs hb, Class.of]
  | malformed =>
    obtain ⟨reply, body, h, hs, hb, hn⟩ := h
    obtain ⟨detail, hd⟩ := ofReply_of_no_form hs hb hn
    rw [jobs_of_reply? h, hd, Class.of]

theorem Class.has_iff {c : Class} :
    c.Has (reply? endpoint answer) ↔ Class.of (jobs endpoint answer) = c := by
  constructor
  · exact Class.of_jobs
  · rintro rfl
    obtain ⟨c, hc⟩ := Class.exists_has (reply? endpoint answer)
    rw [Class.of_jobs hc]
    exact hc

theorem Class.of_eq_network_iff {outcome : Outcome} :
    Class.of outcome = .network ↔ ∃ fault, outcome = .error (.network fault) := by
  rcases outcome with (_ | _ | _) | _ <;> simp [Class.of]

theorem Class.of_eq_malformed_iff {outcome : Outcome} :
    Class.of outcome = .malformed ↔ ∃ detail, outcome = .error (.malformed detail) := by
  rcases outcome with (_ | _ | _) | _ <;> simp [Class.of]

end Classes

/-- How the reply to a fetch of a client decides the outcome. -/
structure Classified (client : Http.Client) (received : Option Http.Reply) (outcome : Outcome) : Prop where
  one_class : ∃! c : Class, c.Has received
  network_iff : (∃ fault, outcome = .error (.network fault)) ↔ Class.network.Has received
  /-- The text of a body that is cut short is empty. -/
  status_iff : ∀ code text, outcome = .error (.status code text) ↔
    ∃ reply, received = some reply ∧ ¬ IsSuccess reply.status ∧ reply.status = code ∧
      text = (reply.body.map (Document.text (reply.contentType.bind client.decoder?))).getD ""
  listing_iff : ∀ js, outcome = .ok js ↔ ∃ reply, received = some reply ∧ IsSuccess reply.status ∧
    ∃ form : Listing.Form, reply.body = some form.bytes ∧ form.jobs = js
  malformed_iff : (∃ detail, outcome = .error (.malformed detail)) ↔ Class.malformed.Has received
  malformed_of_no_content : ∀ reply, received = some reply → reply.status = 204 →
    reply.body = some [] ∧ ∃ detail, outcome = .error (.malformed detail)

section Classified
variable (endpoint : String) (answer : Http.Answer)

theorem status_iff (code : Nat) (body : String) :
    jobs endpoint answer = .error (.status code body) ↔
      ∃ reply, reply? endpoint answer = some reply ∧ ¬ IsSuccess reply.status ∧ reply.status = code ∧
        body = text answer.client reply := by
  constructor
  · intro h
    have hc : Class.status.Has (reply? endpoint answer) := Class.has_iff.mpr (by rw [h, Class.of])
    obtain ⟨reply, hr, hs⟩ := hc
    rw [jobs_of_reply? hr, ofReply_of_refused hs] at h
    cases h
    exact ⟨reply, hr, hs, rfl, rfl⟩
  · rintro ⟨reply, hr, hs, rfl, rfl⟩
    rw [jobs_of_reply? hr, ofReply_of_refused hs]

theorem listing_iff (js : List Job) :
    jobs endpoint answer = .ok js ↔ ∃ reply, reply? endpoint answer = some reply ∧ IsSuccess reply.status ∧
      ∃ form : Listing.Form, reply.body = some form.bytes ∧ form.jobs = js := by
  constructor
  · intro h
    have hc : Class.listing.Has (reply? endpoint answer) := Class.has_iff.mpr (by rw [h, Class.of])
    obtain ⟨reply, hr, hs, form, hb⟩ := hc
    rw [jobs_of_reply? hr, ofReply_of_form hs hb] at h
    cases h
    exact ⟨reply, hr, hs, form, hb, rfl⟩
  · rintro ⟨reply, hr, hs, form, hb, rfl⟩
    rw [jobs_of_reply? hr, ofReply_of_form hs hb]

variable {endpoint answer}

theorem malformed_of_no_content {reply : Http.Reply} (h : reply? endpoint answer = some reply)
    (hs : reply.status = 204) :
    reply.body = some [] ∧ ∃ detail, jobs endpoint answer = .error (.malformed detail) := by
  obtain ⟨contact, -, hreaction⟩ := exists_contact_of_reply? h
  have hbodiless : Http.Head.isBodiless reply.status = true := by
    rw [hs]
    rfl
  have hb : reply.body = some [] := Http.Reaction.body_of_reply? hreaction hbodiless
  have hn (form : Listing.Form) : form.bytes ≠ [] := by simp [Listing.Form.bytes]
  have hsuccess : IsSuccess reply.status := by
    rw [hs]
    exact ⟨by decide, by decide⟩
  rw [jobs_of_reply? h]
  exact ⟨hb, ofReply_of_no_form hsuccess hb hn⟩

variable (endpoint answer)

theorem classified : Classified answer.client (reply? endpoint answer) (jobs endpoint answer) where
  one_class := by
    refine ⟨Class.of (jobs endpoint answer), Class.has_iff.mpr rfl, ?_⟩
    intro c hc
    exact (Class.of_jobs hc).symm
  network_iff := by rw [← Class.of_eq_network_iff, Class.has_iff]
  status_iff := status_iff endpoint answer
  listing_iff := listing_iff endpoint answer
  malformed_iff := by rw [← Class.of_eq_malformed_iff, Class.has_iff]
  malformed_of_no_content := fun _ => malformed_of_no_content

end Classified

end Fetch

/-- A poll state follows another by an outcome: a success puts its jobs and their time, a failure puts its
message and keeps the jobs and the time. -/
structure PollState.Follows (s : PollState) (time : Instant) (outcome : Fetch.Outcome) (t : PollState) :
    Prop where
  succeeded_iff : ∀ js, t = s.succeeded js time ↔ outcome = .ok js
  failed_iff : ∀ message, t = s.failed message ↔
    ∃ failure, outcome = .error failure ∧ failure.message = message
  kept : ∀ failure, outcome = .error failure → t.jobs = s.jobs ∧ t.lastUpdated = s.lastUpdated

theorem PollState.follows_after (s : PollState) (time : Instant) (outcome : Fetch.Outcome) :
    s.Follows time outcome (s.after time outcome) := by
  cases outcome with
  | ok jobs =>
    refine ⟨?_, ?_, ?_⟩ <;> simp [PollState.after, PollState.succeeded, PollState.failed]
  | error failure =>
    refine ⟨?_, ?_, ?_⟩ <;> simp [PollState.after, PollState.succeeded, PollState.failed]

/-- Every answer to a fetch falls in exactly one class, which the status of the reply, whether its body is
complete and whether the whole body is a listing decide in this order. The reply is that of the first
server unless it leads on. Only failures of the network and of the server itself are transient, no failure
is blamed on both sides, and a session that fetches publishes what the class says. -/
theorem Session.fetches_publish_one_class (endpoint : String) (answer : Http.Answer) :
    Fetch.Classified answer.client (Fetch.reply? endpoint answer) (Fetch.jobs endpoint answer) ∧
      (Fetch.firstReply? endpoint answer = none → Fetch.reply? endpoint answer = none) ∧
      (∀ reply, Fetch.firstReply? endpoint answer = some reply → ¬ reply.LeadsOn →
        Fetch.reply? endpoint answer = some reply) ∧
      (∀ f : Failure, (f.isTransient = true ↔
          (∃ fault, f = .network fault) ∨ ∃ code body, f = .status code body ∧ 500 ≤ code) ∧
        ¬ (f.isClientError = true ∧ f.isServerError = true)) ∧
      ∀ (session : Session) (time : Instant) (faults : Faults),
        let stepped := session.step ⟨.fetch endpoint answer time, faults⟩
        session.state.Follows time (Fetch.jobs endpoint answer) stepped.2.state ∧
          stepped.1.state = stepped.2.state ∧
          stepped.2.fetched = some (Fetch.jobs endpoint answer) :=
  ⟨Fetch.classified endpoint answer, Fetch.reply?_of_silence, fun _ => Fetch.reply?_of_first,
    fun f => ⟨f.isTransient_iff, f.not_client_and_server⟩,
    fun session time _ => ⟨session.state.follows_after time _, rfl, rfl⟩⟩

/-- A listing that is one byte short of its declared length is no listing, and one that comes with a
failure of the server is not looked at. -/
theorem Session.listings_of_cut_and_failing_answers :
    let cut : Http.Answer := .response 200 3 (bytesOf "[]")
    let failing : Http.Answer := .response 503 2 (bytesOf "[]")
    let session : Session := ⟨.new ⟨.default, false, 0⟩, .loading⟩
    (∃ fault, Fetch.jobs Endpoint.standard cut = .error (.network fault)) ∧
      Fetch.jobs Endpoint.standard failing = .error (.status 503 "[]") ∧
      (session.step ⟨.fetch Endpoint.standard failing (.ofMillis 0), .none⟩).2.state
        = PollState.loading.failed "HTTP error! status: 503" := by
  intro cut failing session
  have hcut : Fetch.firstReply? Endpoint.standard cut = some ⟨200, none, none, none⟩ := by decide +kernel
  have hfailing : Fetch.firstReply? Endpoint.standard failing
      = some ⟨503, none, none, some (bytesOf "[]")⟩ := by decide +kernel
  obtain ⟨hclass, -, hfirst, -, -⟩ := fetches_publish_one_class Endpoint.standard cut
  obtain ⟨hclass', -, hfirst', -, hsteps⟩ := fetches_publish_one_class Endpoint.standard failing
  have hreceived := hfirst _ hcut fun h => absurd h.1 (by decide)
  have hreceived' := hfirst' _ hfailing fun h => absurd h.1 (by decide)
  have hrefused : ¬ Fetch.IsSuccess 503 := fun h => absurd h.2 (by decide)
  have htext : "[]" = Document.text none (bytesOf "[]") := by decide +kernel
  have houtcome := (hclass'.status_iff 503 "[]").mpr ⟨_, hreceived', hrefused, rfl, htext⟩
  obtain ⟨hfollows, -, -⟩ := hsteps session (.ofMillis 0) .none
  exact ⟨hclass.network_iff.mpr (.inr ⟨_, hreceived, Fetch.isSuccess_ok, rfl⟩), houtcome,
    (hfollows.failed_iff _).mpr ⟨_, houtcome, by decide +kernel⟩⟩

end QueueBoard
