import QueueBoard.Fetch.Jobs
import QueueBoard.Proofs.Http.Addresses

/-! # Messages of failures

A failed fetch is told in one message. What of it stems from the server or the endpoint is a numeral, a
quoted text or an address in normal form, so no message has a control character.
-/
namespace QueueBoard

namespace Layout
variable {l : Layout} {cs : List Char}

theorem controlFree_natDigits (n : Nat) : ControlFree (natDigits n) := controlFree_toDigits (by decide) n

theorem controlFree_dropTrailingZeros (h : ControlFree cs) : ControlFree (dropTrailingZeros cs) := by
  have hreverse : ControlFree cs.reverse := h.subset (List.reverse_subset.mpr (List.Subset.refl _))
  have hdropped := hreverse.sublist (List.dropWhile_sublist (· = '0'))
  exact hdropped.subset (List.reverse_subset.mpr (List.Subset.refl _))

theorem controlFree_positional (h : ControlFree cs) (lead : Int) : ControlFree (positional cs lead) := by
  have hzero : isControl '0' = false := by decide
  have hpoint : isControl '.' = false := by decide
  unfold positional
  split
  · have hzeros := ControlFree.replicate hzero (lead.natAbs - 1)
    simp [hzero, hpoint, hzeros, h]
  · simp only
    split
    · have hzeros := ControlFree.replicate hzero (lead.toNat + 1 - cs.length)
      simp [hzero, hpoint, hzeros, h]
    · have hwhole := h.sublist (List.take_sublist (lead.toNat + 1) cs)
      have hpart := h.sublist (List.drop_sublist (lead.toNat + 1) cs)
      simp [hpoint, hwhole, hpart]

theorem controlFree_exponentText (hm : isControl l.mark = false) (e : Int) :
    ControlFree (l.exponentText e) := by
  have hsign : ControlFree (if e < 0 then ['-'] else if l.plus then ['+'] else []) := by
    split_ifs <;> decide
  have hdigits := controlFree_natDigits e.natAbs
  simp [exponentText, hm, hsign, hdigits]

theorem controlFree_scientific (hm : isControl l.mark = false) (h : ControlFree cs) (lead : Int) :
    ControlFree (l.scientific cs lead) := by
  have hpoint : isControl '.' = false := by decide
  have hfirst := h.sublist (List.take_sublist 1 cs)
  have hothers := h.sublist (List.drop_sublist 1 cs)
  have hexponent := controlFree_exponentText hm lead
  unfold scientific
  split
  · simp [hfirst, hexponent]
  · simp only [ControlFree.append_iff, ControlFree.cons_iff]
    exact ⟨⟨hfirst, hpoint, hothers⟩, hexponent⟩

theorem controlFree_text (hm : isControl l.mark = false) (negative : Bool) (f : Binary64) :
    ControlFree (l.text negative f).toList := by
  have hminus : isControl '-' = false := by decide
  have hbody : ControlFree (if f.mantissa = 0 then ['0', '.', '0']
      else l.decimalText (Shortest.decimal f)) := by
    split
    · decide
    · have hdigits := controlFree_dropTrailingZeros (controlFree_natDigits (Shortest.decimal f).digits)
      unfold decimalText
      simp only
      split
      · exact controlFree_positional hdigits _
      · exact controlFree_scientific hm hdigits _
  simp only [text, String.toList_ofList]
  split
  · exact ControlFree.cons_iff.mpr ⟨hminus, hbody⟩
  · exact hbody

end Layout

theorem controlFree_toString_int (n : Int) : ControlFree (toString n).toList := by
  cases n with
  | ofNat n => exact controlFree_toString n
  | negSucc n =>
    have hminus : ControlFree "-".toList := by decide
    exact .text_append hminus (controlFree_toString (n + 1))

namespace Json

/-- A text is quoted, so a fault that tells a text of the document tells none of its controls. -/
theorem Found.controlFree_describe (found : Found) : ControlFree found.describe.toList := by
  have hmark : ControlFree "`".toList := by decide
  cases found with
  | null => decide
  | boolean b => cases b <;> decide
  | integer n =>
    have hkind : ControlFree "integer `".toList := by decide
    exact .text_append (.text_append hkind (controlFree_toString_int n)) hmark
  | real negative size =>
    have hkind : ControlFree "floating point `".toList := by decide
    have hreal := realLayout.controlFree_text (by decide) negative size
    exact .text_append (.text_append hkind hreal) hmark
  | text s =>
    have hkind : ControlFree "string ".toList := by decide
    exact .text_append hkind (Quoted.controlFree_quote s)
  | sequence => decide
  | map => decide

theorem Wanted.controlFree_describe (wanted : Wanted) : ControlFree wanted.describe.toList := by
  cases wanted <;> decide

theorem Cause.controlFree_describe (cause : Cause) : ControlFree cause.describe.toList := by
  have hexpected : ControlFree ", expected ".toList := by decide
  cases cause with
  | wrongKind found wanted =>
    have htype : ControlFree "invalid type: ".toList := by decide
    have hfound := ControlFree.text_append htype found.controlFree_describe
    exact .text_append (.text_append hfound hexpected) wanted.controlFree_describe
  | wrongLength length =>
    have hinvalid : ControlFree "invalid length ".toList := by decide
    have helements : ControlFree " with 2 elements".toList := by decide
    have hlength := ControlFree.text_append hinvalid (controlFree_toString length)
    exact .text_append (.text_append (.text_append hlength hexpected) (by decide)) helements
  | missingField field => cases field <;> decide
  | repeatedField field => cases field <;> decide
  | _ => decide

theorem Fault.controlFree_describe (fault : Fault) (document : Bytes) :
    ControlFree (fault.describe document).toList := by
  have hline : ControlFree " at line ".toList := by decide
  have hcolumn : ControlFree " column ".toList := by decide
  have hplaced := ControlFree.text_append (.text_append fault.cause.controlFree_describe hline)
    (controlFree_toString (fault.place document).line)
  exact .text_append (.text_append hplaced hcolumn) (controlFree_toString (fault.place document).column)

end Json

theorem Listing.controlFree_of_decode {document : Bytes} {detail : String}
    (h : decode document = .error detail) : ControlFree detail.toList := by
  unfold decode at h
  cases hr : read document with
  | ok jobs =>
    rw [hr] at h
    cases h
  | error fault =>
    rw [hr] at h
    cases h
    exact fault.controlFree_describe document

namespace NetworkFault
variable {url : String}

/-- A message that names an address between two texts. -/
theorem controlFree_named {opening : String} (hopening : ControlFree opening.toList)
    (h : ControlFree url.toList) : ControlFree (opening ++ url ++ ")").toList := by
  have hclosing : ControlFree ")".toList := by decide
  exact .text_append (.text_append hopening h) hclosing

theorem controlFree_badAddress (h : ControlFree url.toList) :
    ControlFree (badAddress url).message.toList := controlFree_named (by decide) h

theorem controlFree_noReply (h : ControlFree url.toList) : ControlFree (noReply url).message.toList :=
  controlFree_named (by decide) h

theorem controlFree_redirects (h : ControlFree url.toList) :
    ControlFree (redirects url).message.toList := controlFree_named (by decide) h

end NetworkFault

namespace Failure

theorem controlFree_network {fault : NetworkFault} (h : ControlFree fault.message.toList) :
    ControlFree (network fault).message.toList := by
  have hkind : ControlFree "Network error: ".toList := by decide
  exact .text_append hkind h

theorem controlFree_status (code : Nat) (body : String) : ControlFree (status code body).message.toList := by
  have hkind : ControlFree "HTTP error! status: ".toList := by decide
  exact .text_append hkind (controlFree_toString code)

theorem controlFree_malformed {detail : String} (h : ControlFree detail.toList) :
    ControlFree (malformed detail).message.toList := by
  have hkind : ControlFree "Failed to decode queue: ".toList := by decide
  exact .text_append hkind h

end Failure

namespace Fetch
variable {client : Http.Client} {failure : Failure} {fault : NetworkFault}

theorem controlFree_of_next? {url target : Url} {reply : Http.Reply}
    (h : next? client url reply = some target) : ControlFree target.text.toList := by
  unfold next? at h
  split at h
  · simp only [Option.bind_eq_bind, Option.bind_eq_some_iff] at h
    obtain ⟨-, -, -, -, address, -, read, hread, h⟩ := h
    obtain ⟨-, h⟩ := Option.ite_none_right_eq_some.mp h
    obtain rfl := Option.some.inj h
    exact (Url.isFree_of_read? hread).controlFree_text
  · cases h

/-- All addresses on the way are in normal form, so the one a fault names has no control character. -/
theorem controlFree_of_follow {room : Nat} {url : Url} {contacts : List Http.Contact}
    (h : follow client room url contacts = .error fault) (hurl : ControlFree url.text.toList) :
    ControlFree fault.message.toList := by
  fun_induction follow client room url contacts with
  | case1 =>
    obtain rfl := Except.error.inj h
    exact NetworkFault.controlFree_noReply hurl
  | case2 => cases h
  | case3 =>
    obtain rfl := Except.error.inj h
    exact NetworkFault.controlFree_redirects hurl
  | case4 url contacts reply hreply target room hnext hhttp ih =>
    exact ih h (controlFree_of_next? hnext)
  | case5 url contacts reply hreply target room hnext hhttp =>
    obtain rfl := Except.error.inj h
    exact NetworkFault.controlFree_badAddress (controlFree_of_next? hnext)

theorem controlFree_of_receive {endpoint : String} {answer : Http.Answer}
    (h : receive endpoint answer = .error fault) : ControlFree fault.message.toList := by
  unfold receive at h
  split at h
  · rename_i haddress
    obtain rfl := Except.error.inj h
    rcases Endpoint.fault_of_address haddress with rfl | ⟨url, rfl, hurl⟩
    · decide
    · exact NetworkFault.controlFree_badAddress hurl
  · rename_i url hurl
    exact controlFree_of_follow h (Endpoint.controlFree_of_address hurl)

theorem controlFree_of_ofReply {reply : Http.Reply} (h : ofReply client reply = .error failure) :
    ControlFree failure.message.toList := by
  unfold ofReply at h
  split at h
  · split at h
    · obtain rfl := Except.error.inj h
      exact Failure.controlFree_network (by decide)
    · rename_i body _
      cases hd : Listing.decode body with
      | ok jobs =>
        rw [hd] at h
        cases h
      | error detail =>
        rw [hd] at h
        obtain rfl := Except.error.inj h
        exact Failure.controlFree_malformed (Listing.controlFree_of_decode hd)
  · obtain rfl := Except.error.inj h
    exact Failure.controlFree_status _ _

/-- Whatever the endpoint is and whatever the server answers. -/
theorem controlFree_of_jobs {endpoint : String} {answer : Http.Answer}
    (h : jobs endpoint answer = .error failure) : ControlFree failure.message.toList := by
  unfold jobs at h
  split at h
  · rename_i fault hfault
    obtain rfl := Except.error.inj h
    exact Failure.controlFree_network (controlFree_of_receive hfault)
  · exact controlFree_of_ofReply h

end Fetch
end QueueBoard
