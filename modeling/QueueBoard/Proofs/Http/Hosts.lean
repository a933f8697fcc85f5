import QueueBoard.Http.Url.Host
import QueueBoard.Proofs.Text.Controls

/-! # Hosts have no control characters

Every label of a domain name is sound, so it has none, and its ASCII form adds digits and a mark only.
The other hosts are numerals, or escaped as a whole.
-/
namespace QueueBoard

namespace Domain

namespace Punycode

theorem not_isControl_digit {n : Nat} (h : n < 36) : isControl (digit n) = false := by
  unfold digit
  split
  · exact not_isControl_ofNat (by omega) (by omega)
  · exact not_isControl_ofNat (by omega) (by omega)

theorem threshold_le (k bias : Nat) : threshold k bias ≤ 26 := Nat.min_le_left ..

theorem controlFree_digits (bias k q : Nat) : ControlFree (digits bias k q) := by
  fun_induction digits bias k q with
  | case1 k q t hlt =>
    have ht := threshold_le k bias
    have hq : q < 36 := by omega
    simp [not_isControl_digit hq]
  | case2 k q t hge ih =>
    have ht := threshold_le k bias
    have hr : (q - t) % (36 - t) < 36 - t := Nat.mod_lt _ (by omega)
    have hd : t + (q - t) % (36 - t) < 36 := by omega
    simp [not_isControl_digit hd, ih]

theorem controlFree_step {s : State} (h : ControlFree s.out) (code : Nat) (c : Char) :
    ControlFree (step code s c).out := by
  unfold step
  split
  · exact h
  · split
    · exact ControlFree.append_iff.mpr ⟨h, controlFree_digits _ _ _⟩
    · exact h

theorem controlFree_foldl_step {s : State} (h : ControlFree s.out) (code : Nat) (label : List Char) :
    ControlFree (label.foldl (step code) s).out := by
  induction label generalizing s with
  | nil => exact h
  | cons c label ih => exact ih (controlFree_step h code c)

theorem controlFree_codes (label : List Char) (others : List Nat) (next : Nat) {s : State}
    (h : ControlFree s.out) : ControlFree (codes label others next s).out := by
  induction others generalizing next s with
  | nil => exact h
  | cons code others ih => exact ih (code + 1) (controlFree_foldl_step (by exact h) code label)

/-- The form keeps the ASCII characters of the label and adds digits. -/
theorem controlFree_encode {label : List Char} (h : ControlFree label) : ControlFree (encode label) := by
  have hbasic : ControlFree (label.filter (·.toNat < 128)) := h.sublist List.filter_sublist
  refine controlFree_codes label _ 128 ?_
  split
  · exact .nil
  · exact ControlFree.append_iff.mpr ⟨hbasic, by decide⟩

end Punycode

theorem isForbidden_of_isControl {c : Char} (h : isControl c = true) : isForbidden c = true := by
  simp only [isControl, Bool.or_eq_true, decide_eq_true_eq] at h
  rcases h with h | h
  · have hle : c.toNat ≤ 0x20 := by omega
    simp [isForbidden, hle]
  · simp [isForbidden, h]

theorem controlFree_of_isSound {label : List Char} (h : isSound label = true) : ControlFree label := by
  intro c hc
  simp only [isSound, Bool.and_eq_true, List.all_eq_true] at h
  have hallowed : isForbidden c = false := by simpa using h.1.1.1 c hc
  by_contra hcontrol
  simp [isForbidden_of_isControl (Bool.not_eq_false _ ▸ hcontrol)] at hallowed

theorem controlFree_asciiLabel {label : List Char} (h : ControlFree label) :
    ControlFree (asciiLabel label) := by
  unfold asciiLabel
  split
  · exact h
  · have hencode := Punycode.controlFree_encode h
    simp only [ControlFree.cons_iff, hencode]
    decide

theorem controlFree_of_ascii? {name domain : List Char} (h : ascii? name = some domain) :
    ControlFree domain := by
  obtain ⟨labels, hlabels, rfl⟩ := Option.map_eq_some_iff.mp h
  simp only [labels?, Option.bind_eq_bind, Option.bind_eq_some_iff, Option.ite_none_right_eq_some] at hlabels
  obtain ⟨folded, -, plain, -, hsound, hplain⟩ := hlabels
  obtain rfl := Option.some.inj hplain
  rw [Bool.and_eq_true, List.all_eq_true] at hsound
  refine .joinWith (by decide) ?_
  intro part hpart
  obtain ⟨label, hlabel, rfl⟩ := List.mem_map.mp hpart
  exact controlFree_asciiLabel (controlFree_of_isSound (hsound.1 label hlabel))

end Domain

namespace Url

theorem controlFree_natText (n : Nat) : ControlFree (natText n) := controlFree_toDigits (by decide) n

theorem controlFree_of_fourBytes? {cs host : List Char} (h : fourBytes? cs = some host) :
    ControlFree host := by
  simp only [fourBytes?, Option.bind_eq_bind, Option.bind_eq_some_iff, Option.ite_none_left_eq_some] at h
  obtain ⟨numbers, -, last, -, -, h⟩ := h
  obtain rfl := Option.some.inj h
  refine .joinWith (by decide) ?_
  intro part hpart
  obtain ⟨n, -, rfl⟩ := List.mem_map.mp hpart
  exact controlFree_natText n

theorem controlFree_groups (groups : List Nat) :
    ControlFree (joinWith [':'] (groups.map groupText)) := by
  refine .joinWith (by decide) ?_
  intro part hpart
  obtain ⟨n, -, rfl⟩ := List.mem_map.mp hpart
  exact controlFree_toDigits (by decide) n

theorem controlFree_eightGroupsText (groups : List Nat) : ControlFree (eightGroupsText groups) := by
  unfold eightGroupsText
  split
  · exact controlFree_groups groups
  · simp only [ControlFree.append_iff, controlFree_groups]
    decide

theorem controlFree_of_bracketed? {cs host : List Char} (h : bracketed? cs = some host) :
    ControlFree host := by
  obtain ⟨-, h⟩ := Option.ite_none_right_eq_some.mp h
  obtain ⟨groups, -, rfl⟩ := Option.map_eq_some_iff.mp h
  simp only [List.cons_append, ControlFree.cons_iff, ControlFree.append_iff, controlFree_eightGroupsText]
  decide

theorem controlFree_of_host? {cs host : List Char} (h : host? cs = some host) : ControlFree host := by
  unfold host? at h
  split at h
  · exact controlFree_of_bracketed? h
  · split at h
    · cases h
    · rename_i domain hdomain
      obtain ⟨-, h⟩ := Option.ite_none_left_eq_some.mp h
      split at h
      · exact controlFree_of_fourBytes? h
      · obtain rfl := Option.some.inj h
        exact Domain.controlFree_of_ascii? hdomain

theorem controlFree_of_genericHost? {cs host : List Char} (h : genericHost? cs = some host) :
    ControlFree host := by
  unfold genericHost? at h
  split at h
  · exact controlFree_of_bracketed? h
  · obtain ⟨-, h⟩ := Option.ite_none_left_eq_some.mp h
    obtain rfl := Option.some.inj h
    exact controlFree_escapeWith [] cs

end Url
end QueueBoard
