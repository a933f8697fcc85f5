import QueueBoard.Fetch.Jobs

/-! # Replies to a fetch

The reply to a fetch is the one at the end of the redirects. If the server that is asked first sends none,
what goes wrong follows from the endpoint alone; if its reply does not lead on, that is the reply to the
fetch, and the outcome follows from it.
-/
namespace QueueBoard

/-- A redirect that tells where it leads. -/
def Http.Reply.LeadsOn (reply : Reply) : Prop :=
  reply.status ∈ [301, 302, 303, 307, 308] ∧ reply.location.isSome = true

namespace Fetch

/-- The reply that is left when the redirects have been followed. -/
def reply? (endpoint : String) (answer : Http.Answer) : Option Http.Reply :=
  (receive endpoint answer).toOption

/-- The reply of the server that is asked first. -/
def firstReply? (endpoint : String) (answer : Http.Answer) : Option Http.Reply :=
  (Endpoint.request? endpoint).bind fun url => answer.contacts.head?.bind (·.reply? url)

/-- What goes wrong with every fetch from an endpoint that gets no reply. -/
def silence (endpoint : String) : NetworkFault :=
  match Endpoint.address endpoint with
  | .error fault => fault
  | .ok url => .noReply url.text

section Next
variable {client : Http.Client} {url : Url} {reply : Http.Reply}

theorem next?_of_not_leadsOn (h : ¬ reply.LeadsOn) : next? client url reply = none := by
  unfold next?
  split
  · rename_i hstatus
    have hlocation : reply.location = none :=
      Option.not_isSome_iff_eq_none.mp fun hl => h ⟨List.contains_iff_mem.mp hstatus, hl⟩
    rw [hlocation]
    rfl
  · rfl

end Next

section Follow
variable {client : Http.Client} {url : Url} {contacts : List Http.Contact} {reply : Http.Reply} (room : Nat)

theorem follow_of_silence (h : contacts.head?.bind (·.reply? url) = none) :
    follow client room url contacts = .error (.noReply url.text) := by
  unfold follow
  rw [h]

theorem follow_of_final (h : contacts.head?.bind (·.reply? url) = some reply)
    (hnext : next? client url reply = none) : follow client room url contacts = .ok reply := by
  unfold follow
  rw [h]
  simp only [hnext]

/-- Whatever is received has been sent by one of the servers. -/
theorem exists_contact_of_follow {room : Nat} (h : follow client room url contacts = .ok reply) :
    ∃ contact ∈ contacts, contact.reaction.reply? = some reply := by
  fun_induction follow client room url contacts with
  | case1 => cases h
  | case2 room url contacts sent hsent =>
    obtain rfl := Except.ok.inj h
    obtain ⟨contact, hhead, hreply⟩ := Option.bind_eq_some_iff.mp hsent
    obtain ⟨-, hreaction⟩ := Option.ite_none_right_eq_some.mp hreply
    exact ⟨contact, List.mem_of_head? hhead, hreaction⟩
  | case3 => cases h
  | case4 url contacts sent hsent target room hnext hhttp ih =>
    obtain ⟨contact, hmem, hreaction⟩ := ih h
    exact ⟨contact, List.mem_of_mem_tail hmem, hreaction⟩
  | case5 => cases h

end Follow

section Receive
variable {endpoint : String} {answer : Http.Answer} {reply : Http.Reply}

theorem reply?_eq_some_iff : reply? endpoint answer = some reply ↔ receive endpoint answer = .ok reply := by
  unfold reply?
  cases receive endpoint answer <;> simp [Except.toOption]

theorem receive_of_silence (h : firstReply? endpoint answer = none) :
    receive endpoint answer = .error (silence endpoint) := by
  unfold firstReply? Endpoint.request? at h
  unfold receive silence
  cases ha : Endpoint.address endpoint with
  | error fault => rfl
  | ok url =>
    rw [ha] at h
    exact follow_of_silence _ h

theorem reply?_of_silence (h : firstReply? endpoint answer = none) : reply? endpoint answer = none := by
  rw [reply?, receive_of_silence h]
  rfl

theorem reply?_of_first (h : firstReply? endpoint answer = some reply) (hr : ¬ reply.LeadsOn) :
    reply? endpoint answer = some reply := by
  obtain ⟨url, hrequest, hfirst⟩ := Option.bind_eq_some_iff.mp h
  unfold Endpoint.request? at hrequest
  rw [reply?_eq_some_iff, receive]
  cases ha : Endpoint.address endpoint with
  | error fault => simp [ha, Except.toOption] at hrequest
  | ok sent =>
    obtain rfl : sent = url := by simpa [ha, Except.toOption] using hrequest
    exact follow_of_final _ hfirst (next?_of_not_leadsOn hr)

/-- The first server is asked over the kind of connection that it takes. -/
theorem firstReply?_of_contact {url : Url} {reaction : Http.Reaction}
    (hrequest : Endpoint.request? endpoint = some url)
    (hcontact : answer.contacts.head? = some ⟨url.isSecure, reaction⟩) :
    firstReply? endpoint answer = reaction.reply? := by
  simp [firstReply?, hrequest, hcontact, Http.Contact.reply?]

theorem exists_contact_of_reply? (h : reply? endpoint answer = some reply) :
    ∃ contact ∈ answer.contacts, contact.reaction.reply? = some reply := by
  rw [reply?_eq_some_iff, receive] at h
  split at h
  · cases h
  · exact exists_contact_of_follow h

end Receive

section Jobs
variable {endpoint : String} {answer : Http.Answer} {reply : Http.Reply}

theorem jobs_of_silence (h : firstReply? endpoint answer = none) :
    jobs endpoint answer = .error (.network (silence endpoint)) := by
  rw [jobs, receive_of_silence h]

theorem jobs_of_no_reply (h : reply? endpoint answer = none) :
    ∃ fault, jobs endpoint answer = .error (.network fault) := by
  unfold reply? at h
  unfold jobs
  cases hr : receive endpoint answer with
  | error fault => exact ⟨fault, rfl⟩
  | ok reply => simp [hr, Except.toOption] at h

theorem jobs_of_reply? (h : reply? endpoint answer = some reply) :
    jobs endpoint answer = ofReply answer.client reply := by
  rw [jobs, reply?_eq_some_iff.mp h]

end Jobs

end Fetch
end QueueBoard
