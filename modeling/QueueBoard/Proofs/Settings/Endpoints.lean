import Mathlib.Data.List.DropRight
import QueueBoard.Fetch.Jobs
import QueueBoard.Settings

/-! # Endpoints of settings

The endpoint of an address is the one address that it is with some slashes behind it and that does not end
in a slash. It begins as the address does, unless the address has nothing but slashes behind its scheme: the
slashes of the scheme are then trimmed too, and no request can be sent.
-/
namespace QueueBoard

namespace Endpoint

def slashes (n : Nat) : String := String.ofList (List.replicate n '/')

/-- An address without the slashes at its end. -/
structure Trims (url endpoint : String) : Prop where
  eq_append : ∃ n, url = endpoint ++ slashes n
  no_slash : endpoint.toList.getLast? ≠ some '/'

/-- Addresses that differ in the slashes at their ends only. -/
def DifferInSlashes (url url' : String) : Prop :=
  ∃ front m n, url = front ++ slashes m ∧ url' = front ++ slashes n

section Trim
variable {url url' endpoint front back : String}

theorem toList_trim (url : String) : (trim url).toList = url.toList.rdropWhile (· = '/') :=
  String.toList_ofList

theorem toList_slashes (n : Nat) : (slashes n).toList = List.replicate n '/' := String.toList_ofList

theorem exists_eq_slashes_iff (text : String) : (∃ n, text = slashes n) ↔ ∀ c ∈ text.toList, c = '/' := by
  constructor
  · rintro ⟨n, rfl⟩ c hc
    rw [toList_slashes] at hc
    exact List.eq_of_mem_replicate hc
  · intro h
    refine ⟨text.toList.length, ?_⟩
    rw [← String.toList_inj, toList_slashes]
    exact List.eq_replicate_of_mem h

/-- A text is not of slashes only if and only if it has another character. -/
theorem exists_ne_slash_iff (text : String) : (∃ c ∈ text.toList, c ≠ '/') ↔ ∀ n, text ≠ slashes n := by
  rw [← not_exists, exists_eq_slashes_iff]
  simp only [not_forall, exists_prop, ne_eq]

theorem trims_trim (url : String) : Trims url (trim url) where
  eq_append := by
    have hslash : ∀ c ∈ (String.ofList (url.toList.rtakeWhile (· = '/'))).toList, c = '/' := by
      intro c hc
      rw [String.toList_ofList] at hc
      have hpassed := List.mem_rtakeWhile_imp hc
      exact of_decide_eq_true hpassed
    obtain ⟨n, hn⟩ := (exists_eq_slashes_iff _).mpr hslash
    refine ⟨n, ?_⟩
    rw [← hn, ← String.toList_inj, String.toList_append, toList_trim, String.toList_ofList,
      List.rdropWhile_append_rtakeWhile]
  no_slash := by
    rw [toList_trim]
    by_cases hne : url.toList.rdropWhile (· = '/') = []
    · rw [hne]
      exact nofun
    · have hlast := List.rdropWhile_last_not (· = '/') url.toList hne
      rw [List.getLast?_eq_some_getLast hne, ne_eq, Option.some.injEq]
      exact fun hslash => hlast (decide_eq_true hslash)

theorem trim_append_slashes (url : String) (n : Nat) : trim (url ++ slashes n) = trim url := by
  have hslash : ∀ c ∈ List.replicate n '/', decide (c = '/') = true :=
    fun c hc => decide_eq_true (List.eq_of_mem_replicate hc)
  rw [trim, trim, trimSlashes, trimSlashes, String.toList_append, toList_slashes, List.reverse_append,
    List.reverse_replicate, List.dropWhile_append_of_pos hslash]

theorem trim_of_no_slash (h : url.toList.getLast? ≠ some '/') : trim url = url := by
  rw [← String.toList_inj, toList_trim, List.rdropWhile_eq_self_iff]
  intro hne hlast
  apply h
  rw [List.getLast?_eq_some_getLast hne, of_decide_eq_true hlast]

theorem trim_eq_iff : trim url = endpoint ↔ Trims url endpoint := by
  constructor
  · rintro rfl
    exact trims_trim url
  · rintro ⟨⟨n, rfl⟩, hlast⟩
    rw [trim_append_slashes, trim_of_no_slash hlast]

theorem trim_trim (url : String) : trim (trim url) = trim url :=
  trim_of_no_slash (trims_trim url).no_slash

theorem trim_eq_trim_iff : trim url = trim url' ↔ DifferInSlashes url url' := by
  constructor
  · intro h
    obtain ⟨m, hm⟩ := (trims_trim url).eq_append
    obtain ⟨n, hn⟩ := (trims_trim url').eq_append
    exact ⟨trim url, m, n, hm, h ▸ hn⟩
  · rintro ⟨front, m, n, rfl, rfl⟩
    rw [trim_append_slashes, trim_append_slashes]

/-- Nothing is trimmed in front of a text that has another character than slashes. -/
theorem trim_append (front : String) (h : ∃ c ∈ back.toList, c ≠ '/') :
    trim (front ++ back) = front ++ trim back := by
  obtain ⟨⟨n, hn⟩, hlast⟩ := trims_trim back
  refine trim_eq_iff.mpr ⟨⟨n, ?_⟩, ?_⟩
  · rw [String.append_assoc, ← hn]
  · rw [String.toList_append, List.getLast?_append]
    cases hc : (trim back).toList.getLast? with
    | none =>
      -- Nothing is left of a text of slashes only.
      have hempty : trim back = "" := String.toList_inj.mp (List.getLast?_eq_none_iff.mp hc)
      rw [hempty, String.empty_append] at hn
      exact absurd hn ((exists_ne_slash_iff back).mp h n)
    | some c => rwa [hc] at hlast

end Trim
end Endpoint

namespace Settings

/-- What an address may begin with. -/
def schemes : List String := ["http://", "https://"]

/-- An address is cut between a scheme and the rest of it. -/
structure Splits (url scheme rest : String) : Prop where
  mem_schemes : scheme ∈ schemes
  eq_append : url = scheme ++ rest

/-- The settings keep the two rules for the address. -/
structure KeepsUrlRules (s : Settings) : Prop where
  not_empty : s.violation? ≠ some .emptyUrl
  has_scheme : s.violation? ≠ some .badScheme

/-- The settings with the endpoint in place of the address. -/
def trimmed (s : Settings) : Settings := { s with queueUrl := Endpoint.trim s.queueUrl }

section Schemes
variable {s : Settings} {url scheme rest : String}

theorem isPrefixOf_toList_iff (front url : String) :
    front.toList.isPrefixOf url.toList = true ↔ ∃ rest, url = front ++ rest := by
  rw [List.isPrefixOf_iff_prefix]
  constructor
  · rintro ⟨rest, hrest⟩
    refine ⟨String.ofList rest, ?_⟩
    rw [← String.toList_inj, String.toList_append, String.toList_ofList, hrest]
  · rintro ⟨rest, rfl⟩
    rw [String.toList_append]
    exact List.prefix_append _ _

theorem hasScheme_iff : hasScheme url = true ↔ ∃ scheme rest, Splits url scheme rest := by
  have hany : hasScheme url = schemes.any (fun scheme => scheme.toList.isPrefixOf url.toList) := by
    simp [hasScheme, schemes]
  rw [hany, List.any_eq_true]
  simp only [isPrefixOf_toList_iff]
  constructor
  · rintro ⟨scheme, hmem, rest, hurl⟩
    exact ⟨scheme, rest, hmem, hurl⟩
  · rintro ⟨scheme, rest, hmem, hurl⟩
    exact ⟨scheme, hmem, rest, hurl⟩

theorem keepsUrlRules_iff : s.KeepsUrlRules ↔ hasScheme s.queueUrl = true := by
  constructor
  · rintro ⟨hempty, hscheme⟩
    unfold violation? at hempty hscheme
    by_contra hnone
    by_cases hurl : s.queueUrl = ""
    · exact hempty (if_pos hurl)
    · rw [if_neg hurl, if_pos hnone] at hscheme
      exact hscheme rfl
  · intro hscheme
    have hurl : s.queueUrl ≠ "" := by
      intro hurl
      rw [hurl] at hscheme
      exact absurd hscheme (by decide)
    have hother : ∀ v, v = .emptyUrl ∨ v = .badScheme → s.violation? ≠ some v := by
      intro v hv
      rw [violation?, if_neg hurl, if_neg (not_not.mpr hscheme)]
      rcases hv with rfl | rfl <;> split_ifs <;> simp
    exact ⟨hother _ (.inl rfl), hother _ (.inr rfl)⟩

/-- Of a scheme with slashes only behind it no scheme is left, and no address either. -/
theorem trim_bare (h : scheme ∈ schemes) (n : Nat) :
    hasScheme (Endpoint.trim (scheme ++ Endpoint.slashes n)) = false ∧
      Url.read? (Endpoint.trim (scheme ++ Endpoint.slashes n)) = none := by
  have hall : ∀ scheme ∈ schemes,
      hasScheme (Endpoint.trim scheme) = false ∧ Url.read? (Endpoint.trim scheme) = none := by
    decide +kernel
  rw [Endpoint.trim_append_slashes]
  exact hall scheme h

/-- The scheme stays in front of a rest that has another character than slashes. -/
theorem Splits.trim (h : Splits url scheme rest) (hrest : ∃ c ∈ rest.toList, c ≠ '/') :
    Splits (Endpoint.trim url) scheme (Endpoint.trim rest) where
  mem_schemes := h.mem_schemes
  eq_append := by rw [h.eq_append, Endpoint.trim_append scheme hrest]

theorem Splits.hasScheme_trim_iff (h : Splits url scheme rest) :
    hasScheme (Endpoint.trim url) = true ↔ ∃ c ∈ rest.toList, c ≠ '/' := by
  constructor
  · intro hscheme
    rw [Endpoint.exists_ne_slash_iff]
    rintro n rfl
    obtain ⟨hnone, -⟩ := trim_bare h.mem_schemes n
    rw [h.eq_append, hnone] at hscheme
    exact Bool.false_ne_true hscheme
  · exact fun hrest => hasScheme_iff.mpr ⟨scheme, _, h.trim hrest⟩

theorem Splits.splits_trim_iff (h : Splits url scheme rest) :
    (∃ kept, Splits (Endpoint.trim url) scheme kept) ↔ ∀ n, rest ≠ Endpoint.slashes n := by
  rw [← Endpoint.exists_ne_slash_iff]
  constructor
  · rintro ⟨kept, hkept⟩
    exact h.hasScheme_trim_iff.mp (hasScheme_iff.mpr ⟨scheme, kept, hkept⟩)
  · exact fun hrest => ⟨_, h.trim hrest⟩

/-- No request is sent for a scheme with slashes only behind it. -/
theorem jobs_of_bare {n : Nat} (h : Splits url scheme (Endpoint.slashes n)) (answer : Http.Answer) :
    Fetch.jobs (Endpoint.trim url) answer = .error (.network .noAddress) := by
  obtain ⟨-, hread⟩ := trim_bare h.mem_schemes n
  have haddress : Endpoint.address (Endpoint.trim url) = .error .noAddress := by
    rw [h.eq_append, Endpoint.address, hread]
  rw [Fetch.jobs, Fetch.receive, haddress]

end Schemes

/-- The endpoint of an address is what remains of it without the slashes at its end, so it is its own
endpoint and addresses that differ in these slashes have the same one. Settings keep the rules for the
address with their endpoint in its place if and only if the address, cut behind its scheme, has another
character than slashes. In this case its scheme is kept, and otherwise every fetch fails. -/
theorem endpoints_keep_schemes_unless_bare :
    (∀ url endpoint, Endpoint.trim url = endpoint ↔ Endpoint.Trims url endpoint) ∧
      (∀ url, Endpoint.trim (Endpoint.trim url) = Endpoint.trim url) ∧
      (∀ url url', Endpoint.trim url = Endpoint.trim url' ↔ Endpoint.DifferInSlashes url url') ∧
      (∀ s : Settings, s.KeepsUrlRules ↔ ∃ scheme rest, Splits s.queueUrl scheme rest) ∧
      ∀ (s : Settings) (scheme rest : String), Splits s.queueUrl scheme rest →
        (s.trimmed.KeepsUrlRules ↔ ∃ c ∈ rest.toList, c ≠ '/') ∧
        ((∃ kept, Splits (Endpoint.trim s.queueUrl) scheme kept) ↔ ∀ n, rest ≠ Endpoint.slashes n) ∧
        ∀ n, rest = Endpoint.slashes n → ∀ answer,
          Fetch.jobs (Endpoint.trim s.queueUrl) answer = .error (.network .noAddress) := by
  refine ⟨fun _ _ => Endpoint.trim_eq_iff, Endpoint.trim_trim, fun _ _ => Endpoint.trim_eq_trim_iff,
    fun s => keepsUrlRules_iff.trans hasScheme_iff, ?_⟩
  intro s scheme rest h
  refine ⟨keepsUrlRules_iff.trans h.hasScheme_trim_iff, h.splits_trim_iff, ?_⟩
  rintro n rfl answer
  exact jobs_of_bare h answer

/-- An address with slashes at its end, and a scheme with slashes only behind it. -/
theorem endpoint_of_bare_scheme_is_no_address :
    let s : Settings := { default with queueUrl := "https://a//b//" }
    let bare : Settings := { default with queueUrl := "http:////" }
    (Splits s.queueUrl "https://" "a//b//" ∧ Splits bare.queueUrl "http://" "//") ∧
      (s.KeepsUrlRules ∧ Endpoint.trim s.queueUrl = "https://a//b" ∧ s.trimmed.KeepsUrlRules) ∧
      bare.KeepsUrlRules ∧ Endpoint.trim bare.queueUrl = "http:" ∧ ¬ bare.trimmed.KeepsUrlRules ∧
      Fetch.jobs "http:" .closed = .error (.network .noAddress) := by
  intro s bare
  obtain ⟨-, -, -, hrules, hkept⟩ := endpoints_keep_schemes_unless_bare
  have hs : Splits s.queueUrl "https://" "a//b//" := ⟨by decide, by decide⟩
  have hbare : Splits bare.queueUrl "http://" "//" := ⟨by decide, by decide⟩
  obtain ⟨hsrules, -, -⟩ := hkept s _ _ hs
  obtain ⟨hbarerules, -, hfails⟩ := hkept bare _ _ hbare
  have htrim : Endpoint.trim bare.queueUrl = "http:" := by decide
  have hslashes : "//" = Endpoint.slashes 2 := by decide
  refine ⟨⟨hs, hbare⟩, ⟨(hrules s).mpr ⟨_, _, hs⟩, by decide, hsrules.mpr ?_⟩,
    (hrules bare).mpr ⟨_, _, hbare⟩, htrim, ?_, ?_⟩
  · exact ⟨'a', by decide, by decide⟩
  · intro hrules
    exact (Endpoint.exists_ne_slash_iff "//").mp (hbarerules.mp hrules) 2 hslashes
  · have hfetch := hfails 2 hslashes .closed
    rwa [htrim] at hfetch

end Settings
end QueueBoard
