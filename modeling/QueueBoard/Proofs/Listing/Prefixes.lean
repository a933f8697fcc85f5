import QueueBoard.Proofs.Fetch.Classes

/-! # Prefixes of a listing

The last byte of a listing that is not blank is its closing bracket. A prefix that has the bracket is the
same listing. One that has not is no listing: whoever reads it as one closes it at a bracket that is not
the last of the document, where the whole document could not be read. So a body that is cut off never
passes for a shorter listing.
-/
namespace QueueBoard

namespace Listing
open Json

/-- Whether a place is that of the last byte that is not blank. -/
def EndsAt (document : Bytes) (place : Nat) : Prop :=
  document[place]?.map isBlank = some false ∧ ∀ b ∈ document.drop (place + 1), isBlank b = true

instance (document : Bytes) (place : Nat) : Decidable (EndsAt document place) :=
  inferInstanceAs (Decidable (_ ∧ _))

theorem EndsAt.le {document : Bytes} {place other : Nat} (h : EndsAt document place)
    (h' : EndsAt document other) : other ≤ place := by
  by_contra hlt
  obtain ⟨b, hb, hblank⟩ := Option.map_eq_some_iff.mp h'.1
  have hmem : b ∈ document.drop (place + 1) := by
    refine List.mem_of_getElem? (i := other - (place + 1)) ?_
    rw [List.getElem?_drop, Nat.add_sub_cancel' (by omega), hb]
  rw [h.2 b hmem] at hblank
  cases hblank

theorem EndsAt.unique {document : Bytes} {place other : Nat} (h : EndsAt document place)
    (h' : EndsAt document other) : place = other :=
  Nat.le_antisymm (h'.le h) (h.le h')

namespace Form
variable (f : Form)

/-- A form up to its closing bracket. -/
def front : Bytes := f.before.bytes ++ 0x5B :: f.inner

theorem bytes_eq : f.bytes = f.front ++ 0x5D :: f.after.bytes := by
  simp [bytes, front]

theorem endsAt_front : EndsAt f.bytes f.front.length := by
  constructor
  · simp [bytes_eq, isBlank]
  · simpa [bytes_eq, ← List.drop_drop] using f.after.blank

/-- Nothing but blanks can follow a form in a document that is read. -/
theorem blank_of_read_append {r : Bytes} {jobs : List Job} (h : read (f.bytes ++ r) = .ok jobs) :
    ∀ b ∈ r, isBlank b = true := by
  have hdocument : f.bytes ++ r = f.before.bytes ++ 0x5B :: (f.inner ++ 0x5D :: (f.after.bytes ++ r)) := by
    simp [bytes]
  unfold read at h
  rw [hdocument, skipBlank_gap, skipBlank_cons rfl] at h
  simp only [records_inner, if_true, skipBlank_gap] at h
  split at h
  · rename_i hr
    exact List.dropWhile_eq_nil_iff.mp hr
  · simp [stopAt] at h

/-- A prefix without the closing bracket is no listing. -/
theorem decode_take_of_le {k : Nat} (hk : k ≤ f.front.length) :
    ∃ detail, decode (f.bytes.take k) = .error detail := by
  cases hd : decode (f.bytes.take k) with
  | error detail => exact ⟨detail, rfl⟩
  | ok jobs =>
    exfalso
    obtain ⟨g, hg, -⟩ := decode_eq_ok_iff.mp hd
    have hread : read (g.bytes ++ f.bytes.drop k) = .ok f.jobs := by
      rw [hg, List.take_append_drop, read_form]
    have hbracket : 0x5D ∈ f.bytes.drop k := by
      rw [bytes_eq, List.drop_append_of_le_length hk]
      simp
    have hblank := g.blank_of_read_append hread 0x5D hbracket
    cases hblank

/-- A prefix with the closing bracket is the same listing. -/
theorem decode_take_of_lt {k : Nat} (hk : f.front.length < k) : decode (f.bytes.take k) = .ok f.jobs := by
  let blanks : Bytes := f.after.bytes.take (k - (f.front.length + 1))
  have hblank : ∀ b ∈ blanks, isBlank b = true := fun b hb => f.after.blank b (List.mem_of_mem_take hb)
  refine decode_eq_ok_iff.mpr ⟨{ f with after := ⟨blanks, hblank⟩ }, ?_, rfl⟩
  have htake : f.bytes.take k = f.front ++ 0x5D :: blanks := by
    have hsplit : k = f.front.length + (k - (f.front.length + 1) + 1) := by omega
    rw [bytes_eq, hsplit, List.take_length_add_append, List.take_succ_cons]
  rw [htake]
  exact bytes_eq _

end Form

/-- Of the prefixes of a listing, those with its last byte that is not blank are the same listing and the
others are none. -/
theorem decode_take {document : Bytes} {jobs : List Job} (h : decode document = .ok jobs) :
    ∃ place, EndsAt document place ∧
      (∀ k ≤ place, ∃ detail, decode (document.take k) = .error detail) ∧
      ∀ k > place, decode (document.take k) = .ok jobs := by
  obtain ⟨f, rfl, rfl⟩ := decode_eq_ok_iff.mp h
  exact ⟨f.front.length, f.endsAt_front, fun _ => f.decode_take_of_le, fun _ => f.decode_take_of_lt⟩

end Listing

namespace Fetch

section Declared
variable {endpoint : String} {answer : Http.Answer} {url : Url} {length : Nat} {body : Bytes}
  (hrequest : Endpoint.request? endpoint = some url)
  (hcontact : answer.contacts.head? = some ⟨url.isSecure, .response 200 length body⟩)
include hrequest hcontact

/-- Of a body that is longer than its declared length the rest is not read. -/
theorem jobs_of_declared_short (h : length ≤ body.length) (hbound : length ≤ Http.Framing.lengthBound) :
    jobs endpoint answer = (Listing.decode (body.take length)).mapError .malformed := by
  have hfirst : firstReply? endpoint answer = some ⟨200, none, none, some (body.take length)⟩ := by
    rw [firstReply?_of_contact hrequest hcontact]
    simp [Http.Reaction.reply?, Http.Head.isInterim, Http.Head.isBodiless, Http.Framing.body?, h, hbound]
  rw [jobs_of_reply? (reply?_of_success hfirst isSuccess_ok), ofReply_of_complete isSuccess_ok rfl]

/-- A body that is shorter than its declared length is as good as none. -/
theorem jobs_of_declared_long (h : body.length < length) (hbound : length ≤ Http.Framing.lengthBound) :
    jobs endpoint answer = .error (.network .brokenBody) := by
  have hfirst : firstReply? endpoint answer = some ⟨200, none, none, none⟩ := by
    rw [firstReply?_of_contact hrequest hcontact]
    simp [Http.Reaction.reply?, Http.Head.isInterim, Http.Head.isBodiless, Http.Framing.body?, hbound,
      Nat.not_le.mpr h]
  rw [jobs_of_reply? (reply?_of_success hfirst isSuccess_ok), ofReply_of_cut isSuccess_ok rfl]

/-- A length that is too great to be declared makes the head useless. -/
theorem jobs_of_length_beyond (h : Http.Framing.lengthBound < length) :
    ∃ fault, jobs endpoint answer = .error (.network fault) := by
  refine jobs_of_no_reply (reply?_of_silence ?_)
  rw [firstReply?_of_contact hrequest hcontact]
  simp [Http.Reaction.reply?, Http.Head.isInterim, Http.Head.isBodiless, h]

end Declared

/-- What comes of a listing that is sent with a declared length, where its last byte that is not blank is
at a place. -/
structure Declared (body : Bytes) (js : List Job) (place length : Nat) (outcome : Outcome) : Prop where
  malformed : length ≤ place → length ≤ Http.Framing.lengthBound →
    ∃ detail, outcome = .error (.malformed detail)
  whole : place < length → length ≤ body.length → length ≤ Http.Framing.lengthBound → outcome = .ok js
  network : body.length < length → ∃ fault, outcome = .error (.network fault)
  /-- No poll state takes anything from a listing that is cut off. -/
  kept : length ≤ place ∨ body.length < length →
    ∀ (s : PollState) (time : Instant), (s.after time outcome).jobs = s.jobs

theorem jobs_after_failure {outcome : Outcome} (h : ∃ failure, outcome = .error failure) (s : PollState)
    (time : Instant) : (s.after time outcome).jobs = s.jobs := by
  obtain ⟨failure, rfl⟩ := h
  rfl

/-- The prefixes of a listing that have its last byte that is not blank are the same listing, and the
others are none. So a listing that is sent with a declared length that cuts it off before that byte is
malformed, and one that ends before its declared length is not received; neither shows a part of it. -/
theorem cut_off_listings_fail {body : Bytes} {js : List Job} (h : Listing.decode body = .ok js) :
    ∃ place, Listing.EndsAt body place ∧
      (∀ k ≤ place, ∃ detail, Listing.decode (body.take k) = .error detail) ∧
      (∀ k > place, Listing.decode (body.take k) = .ok js) ∧
      ∀ (endpoint : String) (url : Url), Endpoint.request? endpoint = some url →
        ∀ (answer : Http.Answer) (length : Nat),
          answer.contacts.head? = some ⟨url.isSecure, .response 200 length body⟩ →
            Declared body js place length (jobs endpoint answer) := by
  obtain ⟨place, hends, hcut, hwhole⟩ := Listing.decode_take h
  refine ⟨place, hends, hcut, hwhole, ?_⟩
  intro endpoint url hrequest answer length hcontact
  have hplace : place < body.length := by
    obtain ⟨b, hb, -⟩ := Option.map_eq_some_iff.mp hends.1
    exact (List.getElem?_eq_some_iff.mp hb).1
  have hmalformed (hle : length ≤ place) (hbound : length ≤ Http.Framing.lengthBound) :
      ∃ detail, jobs endpoint answer = .error (.malformed detail) := by
    obtain ⟨detail, hd⟩ := hcut length hle
    exact ⟨detail, by rw [jobs_of_declared_short hrequest hcontact (by omega) hbound, hd]; rfl⟩
  have hnetwork (hlt : body.length < length) :
      ∃ fault, jobs endpoint answer = .error (.network fault) := by
    by_cases hbound : length ≤ Http.Framing.lengthBound
    · exact ⟨_, jobs_of_declared_long hrequest hcontact hlt hbound⟩
    · exact jobs_of_length_beyond hrequest hcontact (Nat.not_le.mp hbound)
  constructor
  case malformed => exact hmalformed
  case whole =>
    intro hlt hle hbound
    rw [jobs_of_declared_short hrequest hcontact hle hbound, hwhole length hlt]
    rfl
  case network => exact hnetwork
  case kept =>
    intro hcases
    refine jobs_after_failure ?_
    rcases hcases with hle | hlt
    · by_cases hbound : length ≤ Http.Framing.lengthBound
      · obtain ⟨detail, hd⟩ := hmalformed hle hbound
        exact ⟨_, hd⟩
      · obtain ⟨fault, hf⟩ := jobs_of_length_beyond hrequest hcontact (Nat.not_le.mp hbound)
        exact ⟨_, hf⟩
    · obtain ⟨fault, hf⟩ := hnetwork hlt
      exact ⟨_, hf⟩

/-- Between the two brackets at the end of this listing a cut leaves a record behind, but no listing. -/
theorem listing_without_last_bracket_fails :
    let body := bytesOf "[[\"a\",\"done\"]]\n"
    Listing.decode body = .ok [⟨"a", .done⟩] ∧
      (∃ detail, jobs Endpoint.standard (.response 200 13 body) = .error (.malformed detail)) ∧
      jobs Endpoint.standard (.response 200 14 body) = .ok [⟨"a", .done⟩] ∧
      ∃ fault, jobs Endpoint.standard (.response 200 16 body) = .error (.network fault) := by
  intro body
  have hdecode : Listing.decode body = .ok [⟨"a", .done⟩] := by decide +kernel
  obtain ⟨url, hrequest, hplain⟩ : ∃ url, Endpoint.request? Endpoint.standard = some url ∧
      url.isSecure = false := Option.map_eq_some_iff.mp (by decide +kernel)
  obtain ⟨place, hends, -, -, hdeclared⟩ := cut_off_listings_fail hdecode
  have hplace : Listing.EndsAt body 13 := by decide +kernel
  obtain rfl : place = 13 := hends.unique hplace
  have hlength : body.length = 15 := by decide +kernel
  have hdeclared (length : Nat) :
      Declared body _ 13 length (jobs Endpoint.standard (.response 200 length body)) :=
    hdeclared _ url hrequest (.response 200 length body) length (by rw [hplain]; rfl)
  exact ⟨hdecode, (hdeclared 13).malformed (by decide) (by decide),
    (hdeclared 14).whole (by decide) (by omega) (by decide), (hdeclared 16).network (by omega)⟩

end Fetch
end QueueBoard
