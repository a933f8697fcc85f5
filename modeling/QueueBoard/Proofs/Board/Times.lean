import Mathlib.Data.List.Basic
import QueueBoard.Board.Item

/-! # Times on the status line

The status line tells an instant by its local time of day, in three fields of two digits. An ordinary second
is told by its place in the local day. A leap second is told as second 60 of the minute whose last second it
marks. So an instant is told by these two things alone, whatever its day and its fraction of a second are.
-/
namespace QueueBoard

namespace Instant

/-- The nanoseconds mark a leap second. -/
def IsLeap (t : Instant) : Prop := 1000000000 ≤ t.nanos

instance (t : Instant) : Decidable t.IsLeap := inferInstanceAs (Decidable (1000000000 ≤ t.nanos))

/-- Nanoseconds are those of one second, or of the leap second behind the last second of a minute. -/
structure WellFormed (t : Instant) : Prop where
  nanos_lt : t.nanos < 2000000000
  last_of_leap : t.IsLeap → t.seconds % 60 = 59

/-- The second as a clock counts it that is ahead by an offset of minutes. -/
def localSecond (offset : Int) (t : Instant) : Int := t.seconds + 60 * offset

end Instant

/-- What the three fields of a clock show. -/
structure TimeOfDay where
  hour : Nat
  minute : Nat
  second : Nat
deriving DecidableEq, Repr

namespace TimeOfDay

/-- The time of day of an ordinary second. -/
structure OfSecond (d : TimeOfDay) (second : Int) : Prop where
  hour_le : d.hour ≤ 23
  minute_le : d.minute ≤ 59
  second_le : d.second ≤ 59
  sum_eq : 3600 * (d.hour : Int) + 60 * d.minute + d.second = second % 86400

/-- The local time of day of an instant. A leap second has the hour and the minute of its second 59. -/
structure IsLocal (d : TimeOfDay) (offset : Int) (t : Instant) : Prop where
  ordinary : ¬ t.IsLeap → d.OfSecond (t.localSecond offset)
  leap : t.IsLeap → d.second = 60 ∧ { d with second := 59 }.OfSecond (t.localSecond offset)

/-- Two decimal digits that write a number. -/
structure IsField (digits : List Char) (n : Nat) : Prop where
  length_eq : digits.length = 2
  isDigit : ∀ c ∈ digits, c.isDigit = true
  value_eq : Nat.ofDigitChars 10 digits 0 = n

/-- A text writes a time of day, with a colon between any two fields. -/
def Writes (d : TimeOfDay) (text : String) : Prop :=
  ∃ hour minute second, IsField hour d.hour ∧ IsField minute d.minute ∧ IsField second d.second ∧
    text.toList = hour ++ ':' :: minute ++ ':' :: second

section Fields
variable {cs ds : List Char} {n : Nat}

theorem isField_twoDigits (h : n < 100) : IsField (Instant.twoDigits n) n := by
  have hdigit : ∀ d < 10, Char.ofNat (48 + d) = d.digitChar := by decide
  have htens : n / 10 < 10 := Nat.div_lt_of_lt_mul h
  have hunits : n % 10 < 10 := Nat.mod_lt _ (by decide)
  rw [Instant.twoDigits, Nat.mod_eq_of_lt htens, hdigit _ htens, hdigit _ hunits]
  refine ⟨rfl, ?_, ?_⟩
  · simp [Nat.isDigit_digitChar, htens, hunits]
  · rw [Nat.ofDigitChars_cons_digitChar_of_lt_ten htens, Nat.ofDigitChars_cons_digitChar_of_lt_ten hunits,
      Nat.ofDigitChars_nil]
    omega

/-- A number is written by one field only. -/
theorem IsField.unique (hc : IsField cs n) (hd : IsField ds n) : cs = ds := by
  obtain ⟨a, b, rfl⟩ := List.length_eq_two.mp hc.length_eq
  obtain ⟨a', b', rfl⟩ := List.length_eq_two.mp hd.length_eq
  have hcd := hc.isDigit
  have hdd := hd.isDigit
  have hvalue := hc.value_eq.trans hd.value_eq.symm
  simp only [List.forall_mem_cons, Char.isDigit_iff_toNat, Char.reduceToNat] at hcd hdd
  simp only [Nat.ofDigitChars_cons, Nat.ofDigitChars_nil, Char.reduceToNat] at hvalue
  have htens : a.toNat = a'.toNat := by omega
  have hunits : b.toNat = b'.toNat := by omega
  rw [Char.toNat_inj.mp htens, Char.toNat_inj.mp hunits]

end Fields

section Comparisons
variable {d d' : TimeOfDay}

/-- Texts that write times of day are the same if and only if the times are. -/
theorem Writes.text_eq_iff {text text' : String} (h : d.Writes text) (h' : d'.Writes text') :
    text = text' ↔ d = d' := by
  obtain ⟨hour, minute, second, hh, hm, hs, htext⟩ := h
  obtain ⟨hour', minute', second', hh', hm', hs', htext'⟩ := h'
  constructor
  · rintro rfl
    have hsame := htext.symm.trans htext'
    rw [List.append_assoc, List.append_assoc] at hsame
    -- All fields have one length, so equal texts have equal fields.
    obtain ⟨rfl, hrest⟩ := List.append_inj hsame (hh.length_eq.trans hh'.length_eq.symm)
    obtain ⟨rfl, hlast⟩ := List.append_inj (List.cons.inj hrest).2 (hm.length_eq.trans hm'.length_eq.symm)
    obtain rfl := (List.cons.inj hlast).2
    cases d
    cases d'
    rw [mk.injEq]
    exact ⟨hh.value_eq.symm.trans hh'.value_eq, hm.value_eq.symm.trans hm'.value_eq,
      hs.value_eq.symm.trans hs'.value_eq⟩
  · rintro rfl
    rw [← String.toList_inj, htext, htext', hh.unique hh', hm.unique hm', hs.unique hs']

/-- Ordinary seconds have the same time of day if and only if they have the same place in their days. -/
theorem OfSecond.eq_iff {k k' : Int} (h : d.OfSecond k) (h' : d'.OfSecond k') :
    d = d' ↔ k % 86400 = k' % 86400 := by
  obtain ⟨hour, minute, second⟩ := d
  obtain ⟨hour', minute', second'⟩ := d'
  obtain ⟨-, hminute, hsecond, hsum⟩ := h
  obtain ⟨-, hminute', hsecond', hsum'⟩ := h'
  rw [mk.injEq, ← hsum, ← hsum']
  dsimp only at *
  omega

/-- The fields of a second with a place in its day. -/
theorem ofSecond_place {n : Nat} {k : Int} (hn : n < 86400) (hk : (n : Int) = k % 86400) :
    OfSecond ⟨n / 3600, n / 60 % 60, n % 60⟩ k where
  hour_le := Nat.le_of_lt_succ (Nat.div_lt_of_lt_mul hn)
  minute_le := Nat.le_of_lt_succ (Nat.mod_lt _ (by decide))
  second_le := Nat.le_of_lt_succ (Nat.mod_lt _ (by decide))
  sum_eq := by
    rw [← hk]
    dsimp only
    omega

variable {offset offset' : Int} {t t' : Instant}

theorem IsLocal.fields_le (h : d.IsLocal offset t) : d.hour ≤ 23 ∧ d.minute ≤ 59 ∧ d.second ≤ 60 := by
  by_cases hleap : t.IsLeap
  · obtain ⟨hsecond, hof⟩ := h.leap hleap
    exact ⟨hof.hour_le, hof.minute_le, Nat.le_of_eq hsecond⟩
  · have hof := h.ordinary hleap
    exact ⟨hof.hour_le, hof.minute_le, Nat.le_succ_of_le hof.second_le⟩

theorem IsLocal.second_eq_iff (h : d.IsLocal offset t) : d.second = 60 ↔ t.IsLeap := by
  by_cases hleap : t.IsLeap
  · exact iff_of_true (h.leap hleap).1 hleap
  · have hle := (h.ordinary hleap).second_le
    exact iff_of_false (by omega) hleap

/-- Instants have the same time of day if and only if they have the same place in their local days and are
alike in being leap seconds. -/
theorem IsLocal.eq_iff (h : d.IsLocal offset t) (h' : d'.IsLocal offset' t') :
    d = d' ↔ t.localSecond offset % 86400 = t'.localSecond offset' % 86400 ∧ (t.IsLeap ↔ t'.IsLeap) := by
  have halike : d = d' → (t.IsLeap ↔ t'.IsLeap) := by
    rintro rfl
    exact h.second_eq_iff.symm.trans h'.second_eq_iff
  by_cases hleap : t.IsLeap ↔ t'.IsLeap
  · rw [and_iff_left hleap]
    by_cases ht : t.IsLeap
    · obtain ⟨hsecond, hof⟩ := h.leap ht
      obtain ⟨hsecond', hof'⟩ := h'.leap (hleap.mp ht)
      rw [← hof.eq_iff hof']
      obtain ⟨hour, minute, second⟩ := d
      obtain ⟨hour', minute', second'⟩ := d'
      obtain rfl : second = 60 := hsecond
      obtain rfl : second' = 60 := hsecond'
      simp only [mk.injEq, and_true]
    · exact (h.ordinary ht).eq_iff (h'.ordinary (mt hleap.mpr ht))
  · exact iff_of_false (fun hd => hleap (halike hd)) (fun hboth => hleap hboth.2)

end Comparisons
end TimeOfDay

namespace Instant
variable {t : Instant}

/-- The fields of the time of day that is written. -/
def timeOfDay (offset : Int) (t : Instant) : TimeOfDay := ⟨t.hour offset, t.minute offset, t.second offset⟩

theorem secondOfDay_eq (offset : Int) (t : Instant) :
    (t.secondOfDay offset : Int) = t.localSecond offset % 86400 :=
  Int.toNat_of_nonneg (Int.emod_nonneg _ (by decide))

theorem leap_eq_zero (h : ¬ t.IsLeap) : t.leap = 0 := Nat.div_eq_of_lt (Nat.lt_of_not_le h)

theorem leap_eq_one (ht : t.WellFormed) (h : t.IsLeap) : t.leap = 1 :=
  Nat.div_eq_of_lt_le h ht.nanos_lt

theorem isLocal_timeOfDay (ht : t.WellFormed) (offset : Int) : (t.timeOfDay offset).IsLocal offset t := by
  have hof := TimeOfDay.ofSecond_place (secondOfDay_lt offset t) (secondOfDay_eq offset t)
  constructor
  case ordinary =>
    intro h
    rwa [timeOfDay, second, leap_eq_zero h]
  case leap =>
    intro h
    -- Offsets are whole minutes, so a leap second stays behind a second 59.
    have hlast : t.secondOfDay offset % 60 = 59 := by
      have hday := secondOfDay_eq offset t
      have hunix := ht.last_of_leap h
      unfold localSecond at hday
      omega
    rw [hlast] at hof
    rw [timeOfDay, second, leap_eq_one ht h, hlast]
    exact ⟨rfl, hof⟩

theorem writes_clockText (ht : t.WellFormed) (offset : Int) :
    (t.timeOfDay offset).Writes (t.clockText offset) := by
  obtain ⟨hhour, hminute, hsecond⟩ := (isLocal_timeOfDay ht offset).fields_le
  have htext : (t.clockText offset).toList = twoDigits (t.hour offset) ++ ':' :: twoDigits (t.minute offset)
      ++ ':' :: twoDigits (t.second offset) := String.toList_ofList
  exact ⟨_, _, _, TimeOfDay.isField_twoDigits (Nat.lt_of_le_of_lt hhour (by decide)),
    TimeOfDay.isField_twoDigits (Nat.lt_of_le_of_lt hminute (by decide)),
    TimeOfDay.isField_twoDigits (Nat.lt_of_le_of_lt hsecond (by decide)), htext⟩

/-- An instant is written by its local time of day and by nothing else. -/
theorem clockText_eq_iff (ht : t.WellFormed) (offset : Int) (text : String) :
    t.clockText offset = text ↔ ∃ d : TimeOfDay, d.IsLocal offset t ∧ d.Writes text := by
  have hlocal := isLocal_timeOfDay ht offset
  have hwrites := writes_clockText ht offset
  constructor
  · rintro rfl
    exact ⟨_, hlocal, hwrites⟩
  · rintro ⟨d, hd, htext⟩
    rw [hwrites.text_eq_iff htext, hlocal.eq_iff hd]
    exact ⟨rfl, Iff.rfl⟩

end Instant

namespace PollStatus

/-- The instant that a status is dated by: its own one, or that of the last success. -/
inductive DatedBy : PollStatus → Option Instant → Instant → Prop
  | ready (t : Instant) (last : Option Instant) : DatedBy (.ready t) last t
  | loading (t : Instant) : DatedBy .loading (some t) t

theorem DatedBy.statusLine_eq {status : PollStatus} {last : Option Instant} {t : Instant}
    (h : status.DatedBy last t) (offset : Int) :
    statusLine offset status last = lastUpdatedText offset t := by
  cases h <;> rfl

/-- The line of a status that is dated gives the local time of day in three fields of two digits, and no
other line does. Two such lines are the same if and only if their instants have the same second of the local
day and are alike in being leap seconds. -/
theorem status_line_tells_local_time {t t' : Instant} (ht : t.WellFormed) (ht' : t'.WellFormed)
    {status status' : PollStatus} {last last' : Option Instant} (h : status.DatedBy last t)
    (h' : status'.DatedBy last' t') (offset offset' : Int) :
    (∀ line, statusLine offset status last = line ↔
        ∃ (d : TimeOfDay) (clock : String),
          d.IsLocal offset t ∧ d.Writes clock ∧ line = "Last updated: " ++ clock) ∧
      (statusLine offset status last = statusLine offset' status' last' ↔
        t.localSecond offset % 86400 = t'.localSecond offset' % 86400 ∧ (t.IsLeap ↔ t'.IsLeap)) := by
  rw [h.statusLine_eq, h'.statusLine_eq, lastUpdatedText, lastUpdatedText]
  constructor
  · intro line
    constructor
    · rintro rfl
      obtain ⟨d, hd, hclock⟩ := (Instant.clockText_eq_iff ht offset _).mp rfl
      exact ⟨d, _, hd, hclock, rfl⟩
    · rintro ⟨d, clock, hd, hclock, rfl⟩
      rw [(Instant.clockText_eq_iff ht offset clock).mpr ⟨d, hd, hclock⟩]
  · obtain ⟨d, hd, hclock⟩ := (Instant.clockText_eq_iff ht offset _).mp rfl
    obtain ⟨d', hd', hclock'⟩ := (Instant.clockText_eq_iff ht' offset' _).mp rfl
    rw [String.append_right_inj, hclock.text_eq_iff hclock', hd.eq_iff hd']

/-- Two leap seconds of different days, and the second before one of them, west of the meridian. -/
theorem leap_seconds_told_in_the_west :
    let t : Instant := ⟨-1, 1500000000⟩
    let t' : Instant := ⟨86399, 1000000000⟩
    let before : Instant := ⟨-1, 999999999⟩
    (t.WellFormed ∧ t'.WellFormed ∧ before.WellFormed) ∧
      (statusLine (-90) (.ready t) none = "Last updated: 22:29:60" ∧
        ∃ (d : TimeOfDay) (clock : String), d.IsLocal (-90) t ∧ d.Writes clock ∧
          "Last updated: 22:29:60" = "Last updated: " ++ clock) ∧
      statusLine (-90) (.ready t) none = statusLine (-90) .loading (some t') ∧
      statusLine (-90) (.ready t) none ≠ statusLine (-90) (.ready before) (some t') := by
  intro t t' before
  have ht : t.WellFormed := ⟨by decide, fun _ => by decide⟩
  have ht' : t'.WellFormed := ⟨by decide, fun _ => by decide⟩
  have hbefore : before.WellFormed := ⟨by decide, fun h => absurd h (by decide)⟩
  have hline : statusLine (-90) (.ready t) none = "Last updated: 22:29:60" := by decide
  obtain ⟨htold, hsame⟩ :=
    status_line_tells_local_time ht ht' (.ready t none) (.loading t') (-90) (-90)
  obtain ⟨-, hother⟩ :=
    status_line_tells_local_time ht hbefore (.ready t none) (.ready before (some t')) (-90) (-90)
  refine ⟨⟨ht, ht', hbefore⟩, ⟨hline, (htold _).mp hline⟩, hsame.mpr ⟨by decide, by decide⟩, ?_⟩
  intro hline
  exact absurd ((hother.mp hline).2.mp (by decide)) (by decide)

end PollStatus
end QueueBoard
