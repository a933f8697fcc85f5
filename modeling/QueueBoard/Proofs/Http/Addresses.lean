import Mathlib.Data.List.TakeWhile
import QueueBoard.Fetch.Endpoint
import QueueBoard.Proofs.Http.Hosts

/-! # Addresses have no control characters

Whatever an address is read from, the parts it is read into are escaped, numerals, or made of
characters that are no controls. So its text can be shown, also where it is part of a fault.
-/
namespace QueueBoard

namespace Credentials

theorem controlFree_text {c : Credentials} (hu : ControlFree c.user)
    (hs : ∀ secret, c.secret = some secret → ControlFree secret) : ControlFree c.text := by
  unfold text
  split
  · exact .nil
  · have hat : ControlFree ['@'] := by decide
    split
    · rename_i secret hsecret
      have hcolon : isControl ':' = false := by decide
      simp [hu, hs secret hsecret, hat, hcolon]
    · simp [hu, hat]

end Credentials

namespace Url

theorem controlFree_readCredentials (cs : List Char) : ControlFree (readCredentials cs).text := by
  refine Credentials.controlFree_text (controlFree_escapeWith _ _) ?_
  intro secret hsecret
  obtain ⟨-, hsecret⟩ := Option.ite_none_left_eq_some.mp hsecret
  obtain rfl := Option.some.inj hsecret
  exact controlFree_escapeWith _ _

theorem controlFree_of_splitCredentials? {ends cs rest : List Char} {c : Credentials}
    (h : splitCredentials? ends cs = some (c, rest)) : ControlFree c.text := by
  unfold splitCredentials? at h
  simp only at h
  split at h
  · obtain ⟨-, h⟩ := Option.ite_none_left_eq_some.mp h
    obtain ⟨rfl, -⟩ := Prod.mk.inj (Option.some.inj h)
    exact controlFree_readCredentials _
  · obtain ⟨rfl, -⟩ := Prod.mk.inj (Option.some.inj h)
    exact .nil

theorem controlFree_destination {a : Authority} (h : ControlFree a.host) : ControlFree a.destination := by
  unfold Authority.destination
  split
  · have hcolon : isControl ':' = false := by decide
    simp [h, hcolon, controlFree_natText]
  · simpa using h

/-- Whatever is read after it, an authority is made of its credentials and its host. -/
theorem controlFree_of_parts {c : Credentials} {host rest : List Char} {a : Authority}
    {after : Option (Option Nat × List Char)} (hc : ControlFree c.text) (hhost : ControlFree host)
    (h : (after.bind fun p => if host.isEmpty ∧ c ≠ .none then none else
      pure (({ credentials := c, host := host, service := p.1 } : Authority), p.2)) = some (a, rest)) :
    ControlFree a.text := by
  obtain ⟨p, -, h⟩ := Option.bind_eq_some_iff.mp h
  obtain ⟨-, h⟩ := Option.ite_none_left_eq_some.mp h
  obtain ⟨rfl, -⟩ := Prod.mk.inj (Option.some.inj h)
  exact ControlFree.append_iff.mpr ⟨hc, controlFree_destination hhost⟩

theorem controlFree_of_authority? {scheme cs rest : List Char} {a : Authority}
    (h : authority? scheme cs = some (a, rest)) : ControlFree a.text := by
  simp only [authority?, Option.bind_eq_bind, Option.bind_eq_some_iff] at h
  obtain ⟨⟨credentials, cs'⟩, hcredentials, h⟩ := h
  have hc := controlFree_of_splitCredentials? hcredentials
  -- The scheme decides how the host is read, the character after it whether a service is.
  split at h
  · obtain ⟨host, hhost, h⟩ := Option.bind_eq_some_iff.mp h
    have hfree := controlFree_of_host? hhost
    split at h
    · split at h
      · exact controlFree_of_parts hc hfree h
      · exact controlFree_of_parts hc hfree h
    · exact controlFree_of_parts hc hfree h
  · obtain ⟨host, hhost, h⟩ := Option.bind_eq_some_iff.mp h
    have hfree := controlFree_of_genericHost? hhost
    split at h
    · split at h
      · exact controlFree_of_parts hc hfree h
      · exact controlFree_of_parts hc hfree h
    · exact controlFree_of_parts hc hfree h

section Paths

/-- Segments without control characters. -/
def SegmentsFree (segments : List (List Char)) : Prop := ∀ s ∈ segments, ControlFree s

theorem SegmentsFree.cons {s : List Char} {segments : List (List Char)} (hs : ControlFree s)
    (h : SegmentsFree segments) : SegmentsFree (s :: segments) :=
  List.forall_mem_cons.mpr ⟨hs, h⟩

theorem segmentsFree_segments (special : Bool) (cs : List Char) : SegmentsFree (segments special cs) := by
  intro s hs
  obtain ⟨part, -, rfl⟩ := List.mem_map.mp hs
  exact controlFree_escapeWith _ _

theorem controlFree_pathText {segments : List (List Char)} (h : SegmentsFree segments) :
    ControlFree (pathText segments) := by
  refine .flatMap ?_
  intro s hs
  exact ControlFree.cons_iff.mpr ⟨by decide, h s hs⟩

theorem segmentsFree_goBack {done : List (List Char)} (h : SegmentsFree done) :
    SegmentsFree (goBack done) := by
  unfold goBack
  split
  · exact h
  · split
    · exact h
    · exact (List.forall_mem_cons.mp h).2

theorem segmentsFree_pushSegment {done : List (List Char)} {segment : List Char} (hd : SegmentsFree done)
    (hs : ControlFree segment) (isLast : Bool) : SegmentsFree (pushSegment done segment isLast) := by
  unfold pushSegment
  split
  · split
    · exact .cons .nil (segmentsFree_goBack hd)
    · exact segmentsFree_goBack hd
  · split
    · split
      · exact .cons .nil hd
      · exact hd
    · exact .cons hs hd

theorem segmentsFree_resolve {done segments : List (List Char)} (hd : SegmentsFree done)
    (hs : SegmentsFree segments) : SegmentsFree (resolve done segments) := by
  have hreverse {xs : List (List Char)} (hx : SegmentsFree xs) : SegmentsFree xs.reverse :=
    fun s hmem => hx s (List.mem_reverse.mp hmem)
  fun_induction resolve done segments with
  | case1 done => exact hreverse hd
  | case2 done segment => exact hreverse (segmentsFree_pushSegment hd (hs segment (by simp)) true)
  | case3 done segment rest _ ih =>
    obtain ⟨hsegment, hrest⟩ := List.forall_mem_cons.mp hs
    exact ih (segmentsFree_pushSegment hd hsegment false) hrest

theorem controlFree_normalPath (special : Bool) (cs : List Char) : ControlFree (normalPath special cs) := by
  have hnone : SegmentsFree [] := fun _ hs => absurd hs List.not_mem_nil
  exact controlFree_pathText (segmentsFree_resolve hnone (segmentsFree_segments special _))

theorem segmentsFree_pushFileSegment {done : List (List Char) × Bool} {segment : List Char}
    (hd : SegmentsFree done.1) (hs : ControlFree segment) (isLast : Bool) :
    SegmentsFree (pushFileSegment done segment isLast).1 := by
  unfold pushFileSegment
  split
  · rename_i letter sign hdone
    split
    · have hletter : isControl letter = false := hs letter (List.mem_cons_self ..)
      have hdrive : ControlFree [letter, ':'] := by
        simp only [ControlFree.cons_iff, hletter]
        decide
      exact .cons hdrive (hdone ▸ hd)
    · exact segmentsFree_pushSegment (hdone ▸ hd) hs isLast
  · exact segmentsFree_pushSegment hd hs isLast

theorem segmentsFree_resolveFile {done : List (List Char) × Bool} {segments : List (List Char)}
    (hd : SegmentsFree done.1) (hs : SegmentsFree segments) :
    SegmentsFree (resolveFile done segments).1 := by
  fun_induction resolveFile done segments with
  | case1 done => exact hd
  | case2 done segment => exact segmentsFree_pushFileSegment hd (hs segment (by simp)) true
  | case3 done segment rest _ ih =>
    obtain ⟨hsegment, hrest⟩ := List.forall_mem_cons.mp hs
    exact ih (segmentsFree_pushFileSegment hd hsegment false) hrest

theorem controlFree_filePath (cs : List Char) : ControlFree (filePath cs).1 := by
  have hnone : SegmentsFree [] := fun _ hs => absurd hs List.not_mem_nil
  have hdone : SegmentsFree (resolveFile ([], false) (segments true cs)).1 :=
    segmentsFree_resolveFile hnone (segmentsFree_segments true cs)
  have hpath := controlFree_pathText fun s hs => hdone s (List.mem_reverse.mp hs)
  exact ControlFree.cons_iff.mpr ⟨by decide, hpath.sublist (List.dropWhile_sublist _)⟩

end Paths

section Parts

theorem isAscii_of_isSchemeChar {c : Char} (h : isSchemeChar c = true) : c.toNat < 128 := by
  have hranges : ((decide (c.val ≥ 'A'.val ∧ c.val ≤ 'Z'.val) || (c.val ≥ 'a'.val && c.val ≤ 'z'.val))
      || c.isDigit || c = '+' || c = '-' || c = '.') = true := h
  simp only [Bool.or_eq_true, Bool.and_eq_true, decide_eq_true_eq, ge_iff_le, UInt32.le_iff_toNat_le,
    Char.isDigit_iff_toNat, Char.reduceVal, Char.reduceToNat, UInt32.reduceToNat] at hranges
  have hv : c.val.toNat = c.toNat := rfl
  rcases hranges with (((h | h) | rfl) | rfl) | rfl
  · omega
  · omega
  · decide
  · decide
  · decide

theorem not_isControl_toLower {c : Char} (h : isSchemeChar c = true) : isControl c.toLower = false := by
  have hascii : ∀ n < 128, isSchemeChar (Char.ofNat n) = true → isControl (Char.ofNat n).toLower = false := by
    decide
  have hc := hascii c.toNat (isAscii_of_isSchemeChar h)
  rw [Char.ofNat_toNat] at hc
  exact hc h

theorem controlFree_of_splitScheme {cs scheme rest : List Char} (h : splitScheme cs = some (scheme, rest)) :
    ControlFree scheme := by
  unfold splitScheme at h
  simp only at h
  split at h
  · obtain ⟨-, h⟩ := Option.ite_none_right_eq_some.mp h
    obtain ⟨rfl, -⟩ := Prod.mk.inj (Option.some.inj h)
    intro c hc
    obtain ⟨d, hd, rfl⟩ := List.mem_map.mp hc
    exact not_isControl_toLower (List.mem_takeWhile_imp hd)
  · cases h

/-- The parts of an address without control characters. -/
structure IsFree (u : Url) : Prop where
  scheme : ControlFree u.scheme
  authority : ∀ a ∈ u.authority, ControlFree a.text
  path : ControlFree u.path
  query : ∀ q ∈ u.query, ControlFree q
  fragment : ∀ f ∈ u.fragment, ControlFree f

theorem controlFree_query (special : Bool) (cs : List Char) :
    ∀ q ∈ (queryAndFragment special cs).1, ControlFree q := by
  have hescape (cs : List Char) :
      ControlFree ((if special then escapeSpecialQuery else escapeQuery) cs) := by
    split
    · exact controlFree_escapeWith _ cs
    · exact controlFree_escapeWith _ cs
  intro q hq
  unfold queryAndFragment at hq
  simp only at hq
  split at hq
  · split at hq
    · obtain rfl := Option.some.inj hq
      exact hescape _
    · obtain rfl := Option.some.inj hq
      exact hescape _
  · cases hq
  · cases hq

theorem controlFree_fragment (special : Bool) (cs : List Char) :
    ∀ f ∈ (queryAndFragment special cs).2, ControlFree f := by
  intro f hf
  unfold queryAndFragment at hf
  simp only at hf
  split at hf
  · split at hf
    · obtain rfl := Option.some.inj hf
      exact controlFree_escapeWith _ _
    · cases hf
  · obtain rfl := Option.some.inj hf
    exact controlFree_escapeWith _ _
  · cases hf

theorem controlFree_of_fileHost? {cs host rest : List Char} (h : fileHost? cs = some (host, rest)) :
    ControlFree host := by
  have hempty {after : List Char} (h : some (([] : List Char), after) = some (host, rest)) :
      ControlFree host := by
    obtain ⟨rfl, -⟩ := Prod.mk.inj (Option.some.inj h)
    exact .nil
  unfold fileHost? at h
  split at h
  · split at h
    · simp only at h
      split at h
      · exact hempty h
      · split at h
        · exact hempty h
        · obtain ⟨name, hname, h⟩ := Option.map_eq_some_iff.mp h
          split at h
          · exact hempty (congrArg some h)
          · obtain ⟨rfl, -⟩ := Prod.mk.inj h
            exact controlFree_of_host? hname
    · exact hempty h
  · exact hempty h

end Parts

theorem isFree_of_file? {cs : List Char} {u : Url} (h : file? cs = some u) : u.IsFree := by
  simp only [file?, Option.bind_eq_bind, Option.bind_eq_some_iff] at h
  obtain ⟨⟨host, rest⟩, hhost, h⟩ := h
  obtain rfl := Option.some.inj h
  have hscheme : ControlFree fileScheme := by decide
  refine ⟨hscheme, ?_, controlFree_filePath _, controlFree_query true _, controlFree_fragment true _⟩
  intro a ha
  obtain rfl := Option.some.inj ha
  have hnone : ControlFree Credentials.none.text := .nil
  refine ControlFree.append_iff.mpr ⟨hnone, controlFree_destination ?_⟩
  simp only
  split
  · exact .nil
  · exact controlFree_of_fileHost? hhost

theorem isFree_of_special? {scheme cs : List Char} {u : Url} (hs : ControlFree scheme)
    (h : special? scheme cs = some u) : u.IsFree := by
  simp only [special?, Option.bind_eq_bind, Option.bind_eq_some_iff] at h
  obtain ⟨⟨authority, rest⟩, hauthority, h⟩ := h
  obtain rfl := Option.some.inj h
  refine ⟨hs, ?_, controlFree_normalPath true _, controlFree_query true _, controlFree_fragment true _⟩
  intro a ha
  obtain rfl := Option.some.inj ha
  exact controlFree_of_authority? hauthority

theorem isFree_of_generic? {scheme cs : List Char} {u : Url} (hs : ControlFree scheme)
    (h : generic? scheme cs = some u) : u.IsFree := by
  have hpath (named : Bool) (path : List Char) :
      ControlFree (if named = true then if path.isEmpty = true then [] else normalPath false path
        else if path.head? = some '/' then normalPath false path else escapeOpaque path) := by
    split_ifs
    · exact .nil
    · exact controlFree_normalPath false path
    · exact controlFree_normalPath false path
    · exact controlFree_escapeWith [] path
  simp only [generic?, Option.bind_eq_bind] at h
  split at h
  · obtain ⟨p, hp, h⟩ := Option.bind_eq_some_iff.mp h
    obtain ⟨⟨authority, rest⟩, hauthority, rfl⟩ := Option.map_eq_some_iff.mp hp
    obtain rfl := Option.some.inj h
    have hpath := hpath true (cut ['?', '#'] rest).1
    refine ⟨hs, ?_, hpath, controlFree_query false _, controlFree_fragment false _⟩
    intro a ha
    obtain rfl := Option.some.inj ha
    exact controlFree_of_authority? hauthority
  · obtain ⟨p, hp, h⟩ := Option.bind_eq_some_iff.mp h
    obtain rfl := Option.some.inj hp
    obtain rfl := Option.some.inj h
    have hpath := hpath false (cut ['?', '#'] cs).1
    refine ⟨hs, ?_, hpath, controlFree_query false _, controlFree_fragment false _⟩
    intro a ha
    cases ha

/-- Every address that is read has its parts in escaped or checked form. -/
theorem isFree_of_read? {input : String} {u : Url} (h : read? input = some u) : u.IsFree := by
  unfold read? at h
  split at h
  · cases h
  · rename_i scheme rest hscheme
    have hs := controlFree_of_splitScheme hscheme
    split at h
    · exact isFree_of_special? hs h
    · split at h
      · exact isFree_of_file? h
      · exact isFree_of_generic? hs h

namespace IsFree
variable {u : Url}

theorem withoutCredentials (h : u.IsFree) : u.withoutCredentials.IsFree := by
  refine ⟨h.scheme, ?_, h.path, h.query, h.fragment⟩
  intro a ha
  obtain ⟨b, hb, rfl⟩ := Option.map_eq_some_iff.mp ha
  have hfree := h.authority b hb
  split
  · exact ControlFree.append_iff.mpr ⟨.nil, (ControlFree.append_iff.mp hfree).2⟩
  · exact hfree

theorem controlFree_front (h : u.IsFree) : ControlFree u.front := by
  have hslash : isControl '/' = false := by decide
  unfold front
  split
  · rename_i a ha
    simp [hslash, h.authority a ha]
  · decide
  · exact .nil

theorem controlFree_queryText (h : u.IsFree) : ControlFree u.queryText := by
  have hmark : isControl '?' = false := by decide
  unfold queryText
  split
  · rename_i q hq
    exact ControlFree.cons_iff.mpr ⟨hmark, h.query q hq⟩
  · exact .nil

theorem controlFree_text (h : u.IsFree) : ControlFree u.text.toList := by
  have hmarks : ControlFree [':'] := by decide
  have hfragment : isControl '#' = false := by decide
  simp only [text, String.toList_ofList, ControlFree.append_iff]
  refine ⟨⟨⟨⟨⟨h.scheme, hmarks⟩, h.controlFree_front⟩, h.path⟩, h.controlFree_queryText⟩, ?_⟩
  split
  · rename_i f hf
    exact ControlFree.cons_iff.mpr ⟨hfragment, h.fragment f hf⟩
  · exact .nil

end IsFree

end Url

namespace Endpoint
variable {endpoint : String}

theorem controlFree_of_address {url : Url} (h : address endpoint = .ok url) :
    ControlFree url.text.toList := by
  unfold address at h
  split at h
  · cases h
  · rename_i given hgiven
    simp only at h
    split at h
    · obtain rfl := Except.ok.inj h
      exact (Url.isFree_of_read? hgiven).withoutCredentials.controlFree_text
    · cases h

/-- An address that is refused has been read, so it is told in normal form as well. -/
theorem fault_of_address {fault : NetworkFault} (h : address endpoint = .error fault) :
    fault = .noAddress ∨ ∃ url, fault = .badAddress url ∧ ControlFree url.toList := by
  unfold address at h
  split at h
  · exact .inl (Except.error.inj h).symm
  · rename_i given hgiven
    simp only at h
    split at h
    · cases h
    · have hfree := (Url.isFree_of_read? hgiven).withoutCredentials.controlFree_text
      exact .inr ⟨_, (Except.error.inj h).symm, hfree⟩

end Endpoint
end QueueBoard
