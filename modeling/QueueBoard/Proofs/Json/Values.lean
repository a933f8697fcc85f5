import Mathlib.Data.List.DropRight
import QueueBoard.Proofs.Json.Scalars

/-! # Passing over values

The open brackets are kept in a list. What is passed over is what is due at a place, which is a value
if none has come yet, and then the rest of every open bracket from the innermost one. So what is
passed over from the start is a value, and every value is passed over.
-/
namespace QueueBoard.Json

def Bracket.opener : Bracket → UInt8
  | .square => 0x5B
  | .curly => 0x7B

/-- What comes before the blanks and the value of an item. -/
inductive ItemStart : Bracket → Bytes → Prop
  | square (gap : Gap) : ItemStart .square gap.bytes
  | curly {k : Bytes} (before colon : Gap) : LooseText k →
      ItemStart .curly (before.bytes ++ 0x22 :: k ++ 0x22 :: colon.bytes ++ [0x3A])

/-- What follows an item, up to the closing bracket. -/
inductive ItemsEnd (k : Bracket) : Bytes → Prop
  | close (gap : Gap) : ItemsEnd k (gap.bytes ++ [k.closer])
  | more {i v t : Bytes} (gap before : Gap) : ItemStart k i → IsValue v → ItemsEnd k t →
      ItemsEnd k (gap.bytes ++ 0x2C :: (i ++ before.bytes ++ v ++ t))

/-- What closes the open brackets, of which the innermost comes first. -/
inductive Closes : List Bracket → Bytes → Prop
  | nil : Closes [] []
  | cons {k : Bracket} {outer : List Bracket} {t u : Bytes} : ItemsEnd k t → Closes outer u →
      Closes (k :: outer) (t ++ u)

/-- What is still to come inside the open brackets. -/
inductive Due : Turn → List Bracket → Bytes → Prop
  | closed {stack : List Bracket} {t : Bytes} : Closes stack t → Due .closed stack t
  | value {stack : List Bracket} {v t : Bytes} (gap : Gap) : IsValue v → Closes stack t →
      Due .value stack (gap.bytes ++ v ++ t)

theorem ItemStart.gap_append {k : Bracket} {i : Bytes} (h : ItemStart k i) (gap : Gap) :
    ItemStart k (gap.bytes ++ i) := by
  cases h with
  | square g => exact .square (gap.append g)
  | curly before colon hk => simpa using ItemStart.curly (gap.append before) colon hk

theorem exists_elements {t : Bytes} (h : ItemsEnd .square t) {v : Bytes} (hv : IsValue v) (gap : Gap) :
    ∃ e, IsElements e ∧ gap.bytes ++ v ++ t = e ++ [0x5D] := by
  induction h generalizing v gap with
  | close after =>
    exact ⟨_, .last gap after hv, by simp [Bracket.closer]⟩
  | @more i w t after before hi hw ht ih =>
    cases hi with
    | square g =>
      obtain ⟨e, he, hsplit⟩ := ih hw (g.append before)
      refine ⟨_, .more gap after hv he, ?_⟩
      simp only [Gap.append_bytes, List.append_assoc] at hsplit
      simp only [List.append_assoc, List.cons_append, hsplit]

theorem exists_members {t : Bytes} (h : ItemsEnd .curly t) {i v : Bytes} (hi : ItemStart .curly i)
    (hv : IsValue v) (gap : Gap) :
    ∃ e, IsMembers e ∧ i ++ gap.bytes ++ v ++ t = e ++ [0x7D] := by
  induction h generalizing i v gap with
  | close after =>
    cases hi with
    | curly before colon hk =>
      exact ⟨_, .last before colon gap after hk hv, by simp [Bracket.closer]⟩
  | more after before' hj hw ht ih =>
    obtain ⟨e, he, hsplit⟩ := ih hj hw before'
    cases hi with
    | curly before colon hk =>
      refine ⟨_, .more before colon gap after hk hv he, ?_⟩
      simp only [List.append_assoc] at hsplit
      simp only [List.append_assoc, List.cons_append, List.nil_append, hsplit]

/-- A bracket with its items is a value. -/
theorem isValue_of_items {k : Bracket} {i v t : Bytes} (hi : ItemStart k i) (hv : IsValue v)
    (ht : ItemsEnd k t) (gap : Gap) : IsValue (k.opener :: (i ++ gap.bytes ++ v ++ t)) := by
  cases k with
  | square =>
    cases hi with
    | square g =>
      obtain ⟨e, he, hsplit⟩ := exists_elements ht hv (g.append gap)
      simp only [Gap.append_bytes, List.append_assoc] at hsplit
      simp only [List.append_assoc, hsplit]
      exact .elements he
  | curly =>
    obtain ⟨e, he, hsplit⟩ := exists_members ht hi hv gap
    rw [hsplit]
    exact .members he

/-- A bracket with nothing but blanks in it is a value. -/
theorem isValue_of_empty (k : Bracket) (gap : Gap) :
    IsValue (k.opener :: (gap.bytes ++ [k.closer])) := by
  cases k with
  | square => exact .noElements gap
  | curly => exact .noMembers gap

section Steps
variable {k : Bracket} {s r : Bytes}

theorem start_of_itemStart (h : itemStart k s = .ok r) : ∃ i, ItemStart k i ∧ s = i ++ r := by
  cases k with
  | square =>
    cases h
    exact ⟨_, .square .empty, rfl⟩
  | curly =>
    obtain ⟨gap, hs⟩ := exists_gap s
    simp only [itemStart] at h
    split at h
    · simp [stopAt] at h
    rename_i b u hu
    split at h
    · rename_i hb
      obtain ⟨v, hk, hc⟩ := bind_eq_ok.mp h
      obtain ⟨key, hkey, rfl⟩ := loose_of_skipText hk
      obtain ⟨colon, rfl⟩ := gap_of_colon hc
      exact ⟨_, .curly gap colon hkey, by rw [hs, hu, hb]; simp⟩
    · simp [stopAt] at h

theorem closed_of_opened (h : opened k s = .ok (.closed, r)) :
    ∃ gap : Gap, s = gap.bytes ++ k.closer :: r := by
  obtain ⟨gap, hs⟩ := exists_gap s
  unfold opened at h
  split at h
  · simp [stopAt] at h
  rename_i b u hu
  split at h
  · rename_i hb
    cases h
    exact ⟨gap, by rw [hs, hu, hb]⟩
  · obtain ⟨v, -, hv⟩ := map_eq_ok.mp h
    cases hv

theorem start_of_opened (h : opened k s = .ok (.value, r)) : ∃ i, ItemStart k i ∧ s = i ++ r := by
  obtain ⟨gap, hs⟩ := exists_gap s
  unfold opened at h
  split at h
  · simp [stopAt] at h
  rename_i b u hu
  split at h
  · cases h
  · obtain ⟨v, hi, hv⟩ := map_eq_ok.mp h
    cases hv
    obtain ⟨i, hstart, hsplit⟩ := start_of_itemStart hi
    exact ⟨_, hstart.gap_append gap, by rw [List.append_assoc, ← hsplit, ← hu, ← hs]⟩

theorem closed_of_afterItem (h : afterItem k s = .ok (.closed, r)) :
    ∃ gap : Gap, s = gap.bytes ++ k.closer :: r := by
  obtain ⟨gap, hs⟩ := exists_gap s
  unfold afterItem at h
  split at h
  · simp [stopAt] at h
  rename_i b u hu
  split at h
  · obtain ⟨v, -, hv⟩ := map_eq_ok.mp h
    cases hv
  split at h
  · rename_i hb
    cases h
    exact ⟨gap, by rw [hs, hu, hb]⟩
  · simp [stopAt] at h

theorem start_of_afterItem (h : afterItem k s = .ok (.value, r)) :
    ∃ (gap : Gap) (i : Bytes), ItemStart k i ∧ s = gap.bytes ++ 0x2C :: (i ++ r) := by
  obtain ⟨gap, hs⟩ := exists_gap s
  unfold afterItem at h
  split at h
  · simp [stopAt] at h
  rename_i b u hu
  split at h
  · rename_i hb
    obtain ⟨v, hi, hv⟩ := map_eq_ok.mp h
    cases hv
    obtain ⟨i, hstart, rfl⟩ := start_of_itemStart hi
    exact ⟨gap, i, hstart, by rw [hs, hu, hb]⟩
  split at h
  · cases h
  · simp [stopAt] at h

theorem opener_of_ofByte? {b : UInt8} (h : Bracket.ofByte? b = some k) : b = k.opener := by
  unfold Bracket.ofByte? at h
  split at h
  · rename_i hb
    cases h
    exact hb
  split at h
  · rename_i hb
    cases h
    exact hb
  · cases h

end Steps

/-- What is passed over inside the open brackets is what is due there. -/
theorem due_of_skipInside {turn : Turn} {stack : List Bracket} {s r : Bytes}
    (h : skipInside turn stack s = .ok r) : ∃ d, Due turn stack d ∧ s = d ++ r := by
  fun_induction skipInside turn stack s with
  | case1 s =>
    cases h
    exact ⟨[], .closed .nil, rfl⟩
  | case2 => cases h
  | case3 s k outer r' ha ih =>
    obtain ⟨d, hd, rfl⟩ := ih h
    obtain ⟨gap, rfl⟩ := closed_of_afterItem ha
    cases hd with
    | closed hu => exact ⟨_, .closed (.cons (.close gap) hu), by simp⟩
  | case4 s k outer r' ha ih =>
    obtain ⟨d, hd, rfl⟩ := ih h
    obtain ⟨gap, i, hi, rfl⟩ := start_of_afterItem ha
    cases hd with
    | value before hv ht =>
      cases ht with
      | cons ht hu => exact ⟨_, .closed (.cons (.more gap before hi hv ht) hu), by simp⟩
  | case5 => simp [stopAt] at h
  | case6 => cases h
  | case7 s stack b r' hb k hk r1 ho ih =>
    obtain ⟨d, hd, rfl⟩ := ih h
    obtain ⟨gap, hs⟩ := exists_gap s
    obtain ⟨inner, rfl⟩ := closed_of_opened ho
    cases hd with
    | closed hu =>
      refine ⟨_, .value gap (isValue_of_empty k inner) hu, ?_⟩
      rw [hs, hb, opener_of_ofByte? hk]
      simp
  | case8 s stack b r' hb k hk r1 ho ih =>
    obtain ⟨d, hd, rfl⟩ := ih h
    obtain ⟨gap, hs⟩ := exists_gap s
    obtain ⟨i, hi, rfl⟩ := start_of_opened ho
    cases hd with
    | value before hv ht =>
      cases ht with
      | cons ht hu =>
        refine ⟨_, .value gap (isValue_of_items hi hv ht before) hu, ?_⟩
        rw [hs, hb, opener_of_ofByte? hk]
        simp
  | case9 => cases h
  | case10 s stack b r' hb hk r1 ho ih =>
    obtain ⟨d, hd, rfl⟩ := ih h
    obtain ⟨gap, hs⟩ := exists_gap s
    obtain ⟨v, hv, hsplit⟩ := scalar_of_skipScalar ho
    cases hd with
    | closed hu =>
      refine ⟨_, .value gap (.scalar hv) hu, ?_⟩
      rw [hs, hb, hsplit]
      simp

/-- What is passed over is a value after blanks. -/
theorem value_of_skipValue {s r : Bytes} (h : skipValue s = .ok r) :
    ∃ (gap : Gap) (v : Bytes), IsValue v ∧ s = gap.bytes ++ v ++ r := by
  obtain ⟨d, hd, rfl⟩ := due_of_skipInside h
  cases hd with
  | @value _ v t gap hv ht =>
    cases ht
    exact ⟨gap, v, hv, by simp⟩

section Unfold
variable {k : Bracket} {outer stack : List Bracket} {s u r : Bytes} {b : UInt8}

theorem skipInside_closed (h : afterItem k s = .ok (.closed, r)) :
    skipInside .closed (k :: outer) s = skipInside .closed outer r := by
  rw [skipInside]
  split <;> rename_i ha <;> rw [h] at ha <;> cases ha
  rfl

theorem skipInside_next (h : afterItem k s = .ok (.value, r)) :
    skipInside .closed (k :: outer) s = skipInside .value (k :: outer) r := by
  rw [skipInside]
  split <;> rename_i ha <;> rw [h] at ha <;> cases ha
  rfl

theorem skipInside_scalar (hs : skipBlank s = b :: u) (hb : Bracket.ofByte? b = none)
    (h : skipScalar b u = .ok r) : skipInside .value stack s = skipInside .closed stack r := by
  rw [skipInside]
  split <;> rename_i hd <;> rw [hs] at hd <;> cases hd
  simp only [hb]
  split <;> rename_i ho <;> rw [h] at ho <;> cases ho
  rfl

theorem skipInside_empty (hs : skipBlank s = b :: u) (hb : Bracket.ofByte? b = some k)
    (h : opened k u = .ok (.closed, r)) :
    skipInside .value stack s = skipInside .closed stack r := by
  rw [skipInside]
  split <;> rename_i hd <;> rw [hs] at hd <;> cases hd
  simp only [hb]
  split <;> rename_i ho <;> rw [h] at ho <;> cases ho
  rfl

theorem skipInside_items (hs : skipBlank s = b :: u) (hb : Bracket.ofByte? b = some k)
    (h : opened k u = .ok (.value, r)) :
    skipInside .value stack s = skipInside .value (k :: stack) r := by
  rw [skipInside]
  split <;> rename_i hd <;> rw [hs] at hd <;> cases hd
  simp only [hb]
  split <;> rename_i ho <;> rw [h] at ho <;> cases ho
  rfl

end Unfold

theorem IsValue.head {v : Bytes} (h : IsValue v) :
    ∃ b u, v = b :: u ∧ isBlank b = false ∧ b ≠ 0x5D := by
  cases h with
  | scalar hv =>
    obtain ⟨b, u, rfl, hb, -, hne⟩ := hv.head
    exact ⟨b, u, rfl, hb, hne⟩
  | noElements | elements | noMembers | members => exact ⟨_, _, rfl, rfl, by decide⟩

theorem skipBlank_value {v : Bytes} (h : IsValue v) (gap : Gap) (r : Bytes) :
    skipBlank (gap.bytes ++ (v ++ r)) = v ++ r := by
  obtain ⟨b, u, rfl, hb, -⟩ := h.head
  rw [skipBlank_gap, List.cons_append, skipBlank_cons hb]

/-- Blanks, commas and closing brackets do not go on with a number. -/
theorem endsNumber_gap (gap : Gap) {b : UInt8} (r : Bytes)
    (hb : isDigit b = false ∧ b ≠ 0x2E ∧ isExponentMark b = false) :
    EndsNumber (gap.bytes ++ b :: r) := by
  have hblank := gap.blank
  intro c hc
  cases hg : gap.bytes with
  | nil =>
    rw [hg] at hc
    cases hc
    exact hb
  | cons d ds =>
    rw [hg] at hc
    cases hc
    have hd : isBlank c = true := hblank c (by simp [hg])
    simp only [isBlank, Bool.or_eq_true, decide_eq_true_eq] at hd
    rcases hd with ((rfl | rfl) | rfl) | rfl <;> decide

theorem afterItem_close (k : Bracket) (gap : Gap) (r : Bytes) :
    afterItem k (gap.bytes ++ k.closer :: r) = .ok (.closed, r) := by
  have hk : isBlank k.closer = false ∧ k.closer ≠ 0x2C := by
    cases k <;> decide
  unfold afterItem
  rw [skipBlank_gap, skipBlank_cons hk.1]
  simp [hk.2]

theorem afterItem_comma {k : Bracket} {s r : Bytes} (h : itemStart k s = .ok r) (gap : Gap) :
    afterItem k (gap.bytes ++ 0x2C :: s) = .ok (.value, r) := by
  unfold afterItem
  rw [skipBlank_gap, skipBlank_cons rfl]
  simp [h, Except.map]

theorem opened_close (k : Bracket) (gap : Gap) (r : Bytes) :
    opened k (gap.bytes ++ k.closer :: r) = .ok (.closed, r) := by
  have hk : isBlank k.closer = false := by
    cases k <;> rfl
  unfold opened
  rw [skipBlank_gap, skipBlank_cons hk]
  simp

theorem itemStart_key {k : Bytes} (h : LooseText k) (before colon : Gap) (r : Bytes) :
    itemStart .curly (before.bytes ++ 0x22 :: (k ++ 0x22 :: (colon.bytes ++ 0x3A :: r))) = .ok r := by
  simp only [itemStart]
  rw [skipBlank_gap, skipBlank_cons rfl]
  simp [skipText_loose h, Except.bind, colon_gap]

theorem opened_key {k : Bytes} (h : LooseText k) (before colon : Gap) (r : Bytes) :
    opened .curly (before.bytes ++ 0x22 :: (k ++ 0x22 :: (colon.bytes ++ 0x3A :: r)))
      = .ok (.value, r) := by
  have hkey := itemStart_key h .empty colon r
  unfold opened
  rw [skipBlank_gap, skipBlank_cons rfl]
  simp only [Gap.empty, List.nil_append] at hkey
  simp [hkey, Except.map, Bracket.closer]

theorem IsElements.skipBlank_eq {e : Bytes} (h : IsElements e) (r : Bytes) :
    ∃ b u, skipBlank (e ++ r) = b :: u ∧ isBlank b = false ∧ b ≠ 0x5D := by
  have hvalue {v : Bytes} (hv : IsValue v) (gap : Gap) (u : Bytes) :
      ∃ b u', skipBlank (gap.bytes ++ (v ++ u)) = b :: u' ∧ isBlank b = false ∧ b ≠ 0x5D := by
    rw [skipBlank_value hv]
    obtain ⟨b, u', rfl, hb⟩ := hv.head
    exact ⟨b, u' ++ u, rfl, hb⟩
  cases h with
  | last before after hv => simpa only [List.append_assoc] using hvalue hv before (after.bytes ++ r)
  | @more v t before after hv ht =>
    simpa only [List.append_assoc, List.cons_append] using hvalue hv before (after.bytes ++ 0x2C :: (t ++ r))

theorem opened_elements {e : Bytes} (h : IsElements e) (r : Bytes) :
    opened .square (e ++ r) = .ok (.value, skipBlank (e ++ r)) := by
  obtain ⟨b, u, hs, -, hb⟩ := h.skipBlank_eq r
  unfold opened
  rw [hs]
  simp [Bracket.closer, hb, itemStart, Except.map]

/-- Whether a value is passed over wherever it comes. -/
def Passed (v : Bytes) : Prop :=
  ∀ (stack : List Bracket) (s r : Bytes), EndsNumber r → skipBlank s = v ++ r →
    skipInside .value stack s = skipInside .closed stack r

/-- Whether the elements of a sequence are passed over with its closing bracket. -/
def ElementsPassed (e : Bytes) : Prop :=
  ∀ (stack : List Bracket) (s r : Bytes), skipBlank s = skipBlank (e ++ 0x5D :: r) →
    skipInside .value (.square :: stack) s = skipInside .closed stack r

/-- Whether the members of a map are passed over with its closing bracket. -/
def MembersPassed (m : Bytes) : Prop :=
  ∀ r : Bytes, ∃ s, itemStart .curly (m ++ 0x7D :: r) = .ok s ∧
    opened .curly (m ++ 0x7D :: r) = .ok (.value, s) ∧
    ∀ stack : List Bracket, skipInside .value (.curly :: stack) s = skipInside .closed stack r

section Passed
variable {v e m k : Bytes}

theorem passed_scalar (h : IsScalar v) : Passed v := by
  intro stack s r hr hs
  obtain ⟨b, u, rfl, -, hb, -⟩ := h.head
  exact skipInside_scalar hs hb (skipScalar_scalar h hr rfl)

theorem passed_empty (k : Bracket) (gap : Gap) : Passed (k.opener :: (gap.bytes ++ [k.closer])) := by
  intro stack s r hr hs
  have hk : Bracket.ofByte? k.opener = some k := by
    cases k <;> rfl
  refine skipInside_empty hs hk ?_
  simpa using opened_close k gap r

theorem passed_elements (he : IsElements e) (h : ElementsPassed e) : Passed (0x5B :: e ++ [0x5D]) := by
  intro stack s r hr hs
  have hopened := opened_elements he (0x5D :: r)
  rw [skipInside_items (k := .square) hs rfl (by simpa using hopened)]
  exact h stack _ r (List.dropWhile_idempotent isBlank _)

theorem passed_members (h : MembersPassed m) : Passed (0x7B :: m ++ [0x7D]) := by
  intro stack s r hr hs
  obtain ⟨u, -, hopened, hu⟩ := h r
  rw [skipInside_items (k := .curly) hs rfl (by simpa using hopened)]
  exact hu stack

theorem elementsPassed_last (hv : IsValue v) (h : Passed v) (before after : Gap) :
    ElementsPassed (before.bytes ++ v ++ after.bytes) := by
  intro stack s r hs
  rw [List.append_assoc, List.append_assoc, skipBlank_value hv] at hs
  rw [h _ s _ (endsNumber_gap after r (by decide)) hs]
  exact skipInside_closed (afterItem_close .square after r)

theorem elementsPassed_more (hv : IsValue v) (h : Passed v) (he : ElementsPassed e)
    (before after : Gap) : ElementsPassed (before.bytes ++ v ++ after.bytes ++ 0x2C :: e) := by
  intro stack s r hs
  simp only [List.append_assoc, List.cons_append] at hs
  rw [skipBlank_value hv] at hs
  rw [h _ s _ (endsNumber_gap after _ (by decide)) hs,
    skipInside_next (afterItem_comma (k := .square) rfl after)]
  exact he stack _ r rfl

theorem membersPassed_last (hk : LooseText k) (hv : IsValue v) (h : Passed v)
    (before colon value after : Gap) :
    MembersPassed (before.bytes ++ 0x22 :: k ++ 0x22 :: colon.bytes ++ 0x3A :: value.bytes ++ v
      ++ after.bytes) := by
  intro r
  have hstart := itemStart_key hk before colon (value.bytes ++ (v ++ (after.bytes ++ 0x7D :: r)))
  have hopened := opened_key hk before colon (value.bytes ++ (v ++ (after.bytes ++ 0x7D :: r)))
  refine ⟨_, by simpa using hstart, by simpa using hopened, ?_⟩
  intro stack
  rw [h _ _ _ (endsNumber_gap after r (by decide)) (skipBlank_value hv value _)]
  exact skipInside_closed (afterItem_close .curly after r)

theorem membersPassed_more (hk : LooseText k) (hv : IsValue v) (h : Passed v) (hm : MembersPassed m)
    (before colon value after : Gap) :
    MembersPassed (before.bytes ++ 0x22 :: k ++ 0x22 :: colon.bytes ++ 0x3A :: value.bytes ++ v
      ++ after.bytes ++ 0x2C :: m) := by
  intro r
  obtain ⟨u, hu, -, hpassed⟩ := hm r
  have hstart := itemStart_key hk before colon
    (value.bytes ++ (v ++ (after.bytes ++ 0x2C :: (m ++ 0x7D :: r))))
  have hopened := opened_key hk before colon
    (value.bytes ++ (v ++ (after.bytes ++ 0x2C :: (m ++ 0x7D :: r))))
  refine ⟨_, by simpa using hstart, by simpa using hopened, ?_⟩
  intro stack
  rw [h _ _ _ (endsNumber_gap after _ (by decide)) (skipBlank_value hv value _),
    skipInside_next (afterItem_comma hu after)]
  exact hpassed stack

end Passed

mutual

theorem IsValue.passed : ∀ {v : Bytes}, IsValue v → Passed v
  | _, .scalar h => passed_scalar h
  | _, .noElements gap => passed_empty .square gap
  | _, .elements h => passed_elements h h.passed
  | _, .noMembers gap => passed_empty .curly gap
  | _, .members h => passed_members h.passed

theorem IsElements.passed : ∀ {e : Bytes}, IsElements e → ElementsPassed e
  | _, .last before after h => elementsPassed_last h h.passed before after
  | _, .more before after h he => elementsPassed_more h h.passed he.passed before after

theorem IsMembers.passed : ∀ {m : Bytes}, IsMembers m → MembersPassed m
  | _, .last before colon value after hk h =>
    membersPassed_last hk h h.passed before colon value after
  | _, .more before colon value after hk h hm =>
    membersPassed_more hk h h.passed hm.passed before colon value after

end

/-- Every value after blanks is passed over. -/
theorem skipValue_value {v r : Bytes} (h : IsValue v) (hr : EndsNumber r) (gap : Gap) :
    skipValue (gap.bytes ++ (v ++ r)) = .ok r := by
  rw [skipValue, h.passed [] _ r hr (skipBlank_value h gap r), skipInside]

end QueueBoard.Json
