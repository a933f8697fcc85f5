import QueueBoard.Proofs.Settings.Modes
import QueueBoard.Proofs.Settings.Numbers
import QueueBoard.Proofs.Text.Utf8

/-! # Settings of an environment

Only the visual mode can make an environment fail. Every other variable gives its setting or leaves the
default, and none has an influence on the setting of another one. Settings come back from an environment
that they are written to, in whatever spelling.
-/
namespace QueueBoard.Settings

section Variables
variable {value : Option Bytes} {text : String}

theorem text?_eq_some_iff : text? value = some text ↔ value = some (bytesOf text) := by
  cases value with
  | none => simp [text?]
  | some bytes => rw [text?, Option.bind_some, Utf8.text?_eq_some_iff, Option.some.injEq]

theorem text?_eq_none_iff : text? value = none ↔ ∀ text, value ≠ some (bytesOf text) := by
  rw [Option.eq_none_iff_forall_ne_some]
  simp only [ne_eq, text?_eq_some_iff]

end Variables

/-- A text is that of its variable, and the fallback if the variable has none. -/
structure ReadsText (value : Option Bytes) (fallback text : String) : Prop where
  given : ∀ other, value = some (bytesOf other) → text = other
  otherwise : (∀ other, value ≠ some (bytesOf other)) → text = fallback

theorem readsText_iff {value : Option Bytes} {fallback text : String} :
    ReadsText value fallback text ↔ text = (text? value).getD fallback := by
  cases h : text? value with
  | some other =>
    have hvalue := text?_eq_some_iff.mp h
    constructor
    · exact fun hreads => hreads.given other hvalue
    · rintro rfl
      refine ⟨fun other' hother => ?_, fun hnone => absurd hvalue (hnone text)⟩
      rw [text?_eq_some_iff.mpr hother] at h
      exact (Option.some.inj h).symm
  | none =>
    have hnone := text?_eq_none_iff.mp h
    exact ⟨fun hreads => hreads.otherwise hnone,
      fun htext => ⟨fun other hother => absurd hother (hnone other), fun _ => htext⟩⟩

/-- A number is the one that its variable spells within the bound, and the fallback if it spells none. -/
structure ReadsNumber (value : Option Bytes) (fallback n : Nat) : Prop where
  spelled : ∀ text m, value = some (bytesOf text) → Numeral.Spells text m → m ≤ Numeral.wordBound → n = m
  otherwise : (∀ text m, value = some (bytesOf text) → Numeral.Spells text m → Numeral.wordBound < m) →
    n = fallback

theorem readsNumber_number (value : Option Bytes) (fallback : Nat) :
    ReadsNumber value fallback (number value fallback) where
  spelled text m hvalue hm hbound := by
    have hread := Numeral.bounded?_eq_some_iff.mpr ⟨hm, hbound⟩
    rw [number, text?_eq_some_iff.mpr hvalue, Option.bind_some, hread, Option.getD_some]
  otherwise h := by
    have hnone : (text? value).bind (Numeral.bounded? Numeral.wordBound) = none := by
      rw [Option.eq_none_iff_forall_ne_some]
      intro m hm
      obtain ⟨text, htext, hread⟩ := Option.bind_eq_some_iff.mp hm
      obtain ⟨hspells, hbound⟩ := Numeral.bounded?_eq_some_iff.mp hread
      have hbeyond := h text m (text?_eq_some_iff.mp htext) hspells
      omega
    rw [number, hnone, Option.getD_none]

/-- A variable leaves one number only. -/
theorem ReadsNumber.unique {value : Option Bytes} {fallback n m : Nat} (hn : ReadsNumber value fallback n)
    (hm : ReadsNumber value fallback m) : n = m := by
  -- Either one number within the bound is spelled, or all that are spelled are beyond it.
  by_cases h : ∃ text k, value = some (bytesOf text) ∧ Numeral.Spells text k ∧ k ≤ Numeral.wordBound
  · obtain ⟨text, k, hvalue, hk, hbound⟩ := h
    rw [hn.spelled text k hvalue hk hbound, hm.spelled text k hvalue hk hbound]
  · have hbeyond : ∀ text k, value = some (bytesOf text) → Numeral.Spells text k → Numeral.wordBound < k := by
      intro text k hvalue hk
      exact Nat.lt_of_not_le fun hbound => h ⟨text, k, hvalue, hk, hbound⟩
    rw [hn.otherwise hbeyond, hm.otherwise hbeyond]

theorem readsNumber_iff {value : Option Bytes} {fallback n : Nat} :
    ReadsNumber value fallback n ↔ n = number value fallback :=
  ⟨fun h => h.unique (readsNumber_number value fallback), fun h => h ▸ readsNumber_number value fallback⟩

/-- A mode is the one that its variable names, and the mapped one if the variable has no text. -/
structure ReadsMode (value : Option Bytes) (m : VisualMode) : Prop where
  named : ∀ text, value = some (bytesOf text) → m.Names text
  otherwise : (∀ text, value ≠ some (bytesOf text)) → m = .mapped

section Modes
variable {value : Option Bytes} {m : VisualMode} {text : String}

theorem mode_of_text (h : value = some (bytesOf text)) : mode value =
    if modeName text = VisualMode.mapped.word then .ok .mapped
    else if modeName text = VisualMode.plain.word then .ok .plain
    else .error (.unknownMode (modeName text)) := by
  rw [mode, text?_eq_some_iff.mpr h]
  rfl

theorem mode_of_no_text (h : ∀ text, value ≠ some (bytesOf text)) : mode value = .ok .mapped := by
  rw [mode, text?_eq_none_iff.mpr h]

theorem mode_of_text_eq_ok_iff (h : value = some (bytesOf text)) :
    mode value = .ok m ↔ m.Names text := by
  have hother : VisualMode.mapped.word ≠ VisualMode.plain.word := by decide
  rw [mode_of_text h, ← VisualMode.modeName_eq_iff]
  cases m <;> split_ifs <;> simp_all

theorem mode_eq_ok_iff : mode value = .ok m ↔ ReadsMode value m := by
  by_cases h : ∃ text, value = some (bytesOf text)
  · obtain ⟨text, htext⟩ := h
    rw [mode_of_text_eq_ok_iff htext]
    constructor
    · intro hm
      refine ⟨fun other hother => ?_, fun hnone => absurd htext (hnone text)⟩
      rwa [← mode_of_text_eq_ok_iff hother, mode_of_text_eq_ok_iff htext]
    · exact fun hm => hm.named text htext
  · have hnone : ∀ text, value ≠ some (bytesOf text) := not_exists.mp h
    rw [mode_of_no_text hnone, Except.ok.injEq]
    exact ⟨fun hm => ⟨fun text htext => absurd htext (hnone text), fun _ => hm.symm⟩,
      fun hm => (hm.otherwise hnone).symm⟩

/-- No mode is read exactly where there is a text that names none. -/
theorem mode_eq_error_iff : (∃ e, mode value = .error e) ↔
    ∃ text, value = some (bytesOf text) ∧ ∀ m : VisualMode, ¬ m.Names text := by
  constructor
  · rintro ⟨e, he⟩
    by_contra h
    by_cases htext : ∃ text, value = some (bytesOf text)
    · obtain ⟨text, htext⟩ := htext
      refine h ⟨text, htext, fun m hm => ?_⟩
      rw [← mode_of_text_eq_ok_iff htext, he] at hm
      cases hm
    · rw [mode_of_no_text (not_exists.mp htext)] at he
      cases he
  · rintro ⟨text, htext, hnone⟩
    cases hm : mode value with
    | error e => exact ⟨e, rfl⟩
    | ok m => exact absurd ((mode_of_text_eq_ok_iff htext).mp hm) (hnone m)

end Modes

/-- The settings that an environment leaves, each by its own variable. -/
structure Follows (s : Settings) (env : Environment) : Prop where
  queueUrl : ReadsText env.queueUrl default.queueUrl s.queueUrl
  pollInterval : ReadsNumber env.pollInterval default.pollInterval s.pollInterval
  requestTimeout : ReadsNumber env.requestTimeout default.requestTimeout s.requestTimeout
  maxLabelLength : ReadsNumber env.maxLabelLength default.maxLabelLength s.maxLabelLength
  visualMode : ReadsMode env.visualMode s.visualMode

/-- An environment that settings are written to: the address as it is, the numbers in some decimal form and
the mode by a text that names it. -/
structure Writes (s : Settings) (env : Environment) : Prop where
  queueUrl : env.queueUrl = some (bytesOf s.queueUrl)
  pollInterval : ∃ plus zeros,
    env.pollInterval = some (bytesOf (Numeral.decimal plus zeros s.pollInterval))
  requestTimeout : ∃ plus zeros,
    env.requestTimeout = some (bytesOf (Numeral.decimal plus zeros s.requestTimeout))
  maxLabelLength : ∃ plus zeros,
    env.maxLabelLength = some (bytesOf (Numeral.decimal plus zeros s.maxLabelLength))
  visualMode : ∃ text, env.visualMode = some (bytesOf text) ∧ s.visualMode.Names text

/-- Numbers of eight bytes. -/
structure Fits (s : Settings) : Prop where
  pollInterval : s.pollInterval ≤ Numeral.wordBound
  requestTimeout : s.requestTimeout ≤ Numeral.wordBound
  maxLabelLength : s.maxLabelLength ≤ Numeral.wordBound

section Environments
variable {env env' : Environment} {s s' : Settings}

theorem ofEnvironment_eq_error_iff :
    (∃ e, ofEnvironment env = .error e) ↔ ∃ e, mode env.visualMode = .error e := by
  unfold ofEnvironment
  cases mode env.visualMode with
  | ok m => simp [Except.map]
  | error e => simp [Except.map]

theorem ofEnvironment_eq_ok_iff : ofEnvironment env = .ok s ↔ s.Follows env := by
  have hfields : ofEnvironment env = .ok s ↔ mode env.visualMode = .ok s.visualMode ∧
      s.queueUrl = (text? env.queueUrl).getD default.queueUrl ∧
      s.pollInterval = number env.pollInterval default.pollInterval ∧
      s.requestTimeout = number env.requestTimeout default.requestTimeout ∧
      s.maxLabelLength = number env.maxLabelLength default.maxLabelLength := by
    obtain ⟨url, interval, timeout, length, visualMode⟩ := s
    unfold ofEnvironment
    cases mode env.visualMode with
    | error e => simp [Except.map]
    | ok m =>
      simp only [Except.map, Except.ok.injEq, mk.injEq]
      constructor
      · rintro ⟨rfl, rfl, rfl, rfl, rfl⟩
        exact ⟨rfl, rfl, rfl, rfl, rfl⟩
      · rintro ⟨rfl, rfl, rfl, rfl, rfl⟩
        exact ⟨rfl, rfl, rfl, rfl, rfl⟩
  rw [hfields, mode_eq_ok_iff, ← readsText_iff, ← readsNumber_iff, ← readsNumber_iff, ← readsNumber_iff]
  exact ⟨fun ⟨hm, hu, hp, hr, hl⟩ => ⟨hu, hp, hr, hl, hm⟩, fun h =>
    ⟨h.visualMode, h.queueUrl, h.pollInterval, h.requestTimeout, h.maxLabelLength⟩⟩

/-- Settings that an environment leaves differ only where their variables do. -/
structure AgreesOn (s s' : Settings) (env env' : Environment) : Prop where
  queueUrl : env.queueUrl = env'.queueUrl → s.queueUrl = s'.queueUrl
  pollInterval : env.pollInterval = env'.pollInterval → s.pollInterval = s'.pollInterval
  requestTimeout : env.requestTimeout = env'.requestTimeout → s.requestTimeout = s'.requestTimeout
  maxLabelLength : env.maxLabelLength = env'.maxLabelLength → s.maxLabelLength = s'.maxLabelLength
  visualMode : env.visualMode = env'.visualMode → s.visualMode = s'.visualMode

theorem Follows.agreesOn (h : s.Follows env) (h' : s'.Follows env') : s.AgreesOn s' env env' where
  queueUrl he := by rw [readsText_iff.mp h.queueUrl, readsText_iff.mp h'.queueUrl, he]
  pollInterval he := h.pollInterval.unique (he ▸ h'.pollInterval)
  requestTimeout he := h.requestTimeout.unique (he ▸ h'.requestTimeout)
  maxLabelLength he := h.maxLabelLength.unique (he ▸ h'.maxLabelLength)
  visualMode he := by
    have hmode := mode_eq_ok_iff.mpr h.visualMode
    rw [he, mode_eq_ok_iff.mpr h'.visualMode] at hmode
    exact (Except.ok.inj hmode).symm

theorem readsNumber_decimal {plus : Bool} {zeros n : Nat} (h : n ≤ Numeral.wordBound) (fallback : Nat) :
    ReadsNumber (some (bytesOf (Numeral.decimal plus zeros n))) fallback n := by
  rw [readsNumber_iff, number, text?_eq_some_iff.mpr rfl, Option.bind_some,
    Numeral.bounded?_eq_some_iff.mpr ⟨Numeral.spells_decimal plus zeros n, h⟩, Option.getD_some]

theorem Writes.follows (h : s.Writes env) (hs : s.Fits) : s.Follows env where
  queueUrl := by rw [readsText_iff, text?_eq_some_iff.mpr h.queueUrl, Option.getD_some]
  pollInterval := by
    obtain ⟨plus, zeros, hvalue⟩ := h.pollInterval
    exact hvalue ▸ readsNumber_decimal hs.pollInterval _
  requestTimeout := by
    obtain ⟨plus, zeros, hvalue⟩ := h.requestTimeout
    exact hvalue ▸ readsNumber_decimal hs.requestTimeout _
  maxLabelLength := by
    obtain ⟨plus, zeros, hvalue⟩ := h.maxLabelLength
    exact hvalue ▸ readsNumber_decimal hs.maxLabelLength _
  visualMode := by
    obtain ⟨text, hvalue, hnames⟩ := h.visualMode
    exact mode_eq_ok_iff.mp ((mode_of_text_eq_ok_iff hvalue).mpr hnames)

end Environments

/-- An environment fails if and only if the variable of the mode has a text that names none. Otherwise it
leaves exactly the settings that follow its variables, each of them its own. Settings are read again from
every environment that they are written to. -/
theorem settings_follow_environments :
    (∀ env, (∃ e, ofEnvironment env = .error e) ↔
        ∃ text, env.visualMode = some (bytesOf text) ∧ ∀ mode : VisualMode, ¬ mode.Names text) ∧
      (∀ env s, ofEnvironment env = .ok s ↔ s.Follows env) ∧
      (∀ env env' s s', ofEnvironment env = .ok s → ofEnvironment env' = .ok s' → s.AgreesOn s' env env') ∧
      ∀ env s, s.Fits → s.Writes env → ofEnvironment env = .ok s := by
  refine ⟨fun env => ?_, fun env s => ofEnvironment_eq_ok_iff, ?_, ?_⟩
  · rw [ofEnvironment_eq_error_iff, mode_eq_error_iff]
  · intro env env' s s' h h'
    exact (ofEnvironment_eq_ok_iff.mp h).agreesOn (ofEnvironment_eq_ok_iff.mp h')
  · intro env s hs h
    exact ofEnvironment_eq_ok_iff.mpr (h.follows hs)

/-- Settings that are written with a plus sign, zeros, capitals and white space; a numeral beyond the
bound; and a text that names no mode. -/
theorem settings_read_in_odd_spellings :
    let s : Settings := ⟨"u", 7, Numeral.wordBound, 0, .plain⟩
    let env : Environment := ⟨some (bytesOf "u"), some (bytesOf "+007"),
      some (bytesOf "18446744073709551615"), some (bytesOf "0"), some (bytesOf "\u3000pLAIn\n")⟩
    let beyond : Environment :=
      { env with requestTimeout := some (bytesOf "18446744073709551616"), visualMode := none }
    let fancy : Environment := { env with visualMode := some (bytesOf "fancy") }
    (s.Fits ∧ s.Writes env ∧ ofEnvironment env = .ok s) ∧
      (ofEnvironment beyond = .ok ⟨"u", 7, 10000, 0, .mapped⟩ ∧
        s.AgreesOn ⟨"u", 7, 10000, 0, .mapped⟩ env beyond) ∧
      ∃ text, fancy.visualMode = some (bytesOf text) ∧ ∀ mode : VisualMode, ¬ mode.Names text := by
  intro s env beyond fancy
  obtain ⟨hfails, -, hagree, hwritten⟩ := settings_follow_environments
  have hfits : s.Fits := ⟨by decide, by decide, by decide⟩
  have hnames : VisualMode.plain.Names "\u3000pLAIn\n" := VisualMode.modeName_eq_iff.mp (by decide)
  have hwrites : s.Writes env :=
    ⟨rfl, ⟨true, 2, by decide⟩, ⟨false, 0, by decide⟩, ⟨false, 0, by decide⟩, ⟨_, rfl, hnames⟩⟩
  have hs : ofEnvironment env = .ok s := hwritten env s hfits hwrites
  have hbeyond : ofEnvironment beyond = .ok ⟨"u", 7, 10000, 0, .mapped⟩ := by decide +kernel
  have hfancy : ∃ e, ofEnvironment fancy = .error e := ⟨.unknownMode "fancy", by decide +kernel⟩
  exact ⟨⟨hfits, hwrites, hs⟩, ⟨hbeyond, hagree env beyond s _ hs hbeyond⟩, (hfails fancy).mp hfancy⟩

end QueueBoard.Settings
