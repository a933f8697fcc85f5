import Mathlib.Logic.Function.Iterate
import QueueBoard.Board.Label
import QueueBoard.Proofs.Text.Utf8

/-! # Labels are cut between characters

The place where a name is cut is found by a walk over its bytes, from one first byte of a character to
the next. The walk stops in front of a character or passes all of them, so what is cut off and what is
left are texts again. The marker stands behind the limit, where every smaller limit cuts it off.
-/
namespace QueueBoard

namespace Utf8

/-- The number of bytes of a character, by the first of them. -/
def width (a : UInt8) : Nat :=
  if a < 0x80 then 1 else if a < 0xE0 then 2 else if a < 0xF0 then 3 else 4

theorem width_of_form {a : UInt8} {t : Bytes} {n : Nat} (h : Form a t n) : width a = t.length + 1 := by
  have hlt (x : UInt8) : a < x ↔ a.toNat < x.toNat := UInt8.lt_iff_toNat_lt
  simp only [width, hlt, UInt8.reduceToNat]
  cases h with
  | one h => rw [if_pos h, List.length_nil]
  | two h => rw [if_neg (by omega), if_pos (by omega)]; rfl
  | three h => rw [if_neg (by omega), if_neg (by omega), if_pos (by omega)]; rfl
  | four h => rw [if_neg (by omega), if_neg (by omega), if_neg (by omega)]; rfl

end Utf8

namespace Label

/-- The place of the character with an index, found by a walk over the bytes of the characters before it. -/
def cut? : Nat → Bytes → Option Nat
  | _, [] => none
  | 0, _ :: _ => some 0
  | n + 1, a :: rest => (cut? n (rest.drop (Utf8.width a - 1))).map (Utf8.width a + ·)

/-- Bytes up to a place with the marker behind them. -/
def cutAt (place : Option Nat) (name : Bytes) : Bytes :=
  match place with
  | none => name
  | some cut => name.take cut ++ bytesOf marker

section Walk
variable {n : Nat} {cs : List Char}

/-- A step of the walk passes one character. -/
theorem cut?_encode_cons (n : Nat) (c : Char) (cs : List Char) :
    cut? (n + 1) (Utf8.encode (c :: cs))
      = (cut? n (Utf8.encode cs)).map ((String.utf8EncodeChar c).length + ·) := by
  obtain ⟨a, t, he, hform⟩ := Utf8.form_encode c
  have hwidth := Utf8.width_of_form hform
  rw [Utf8.encode_cons, he, List.cons_append, cut?, hwidth, Nat.add_sub_cancel, List.drop_left,
    List.length_cons]

/-- The walk stops where the bytes of the characters before the index end. -/
theorem cut?_of_lt (h : n < cs.length) :
    cut? n (Utf8.encode cs) = some (Utf8.encode (cs.take n)).length := by
  induction cs generalizing n with
  | nil => cases h
  | cons c cs ih =>
    cases n with
    | zero =>
      obtain ⟨a, t, he, -⟩ := Utf8.form_encode c
      rw [Utf8.encode_cons, he]
      rfl
    | succ n =>
      rw [cut?_encode_cons, ih (Nat.lt_of_succ_lt_succ h), List.take_succ_cons, Utf8.encode_cons,
        List.length_append]
      rfl

theorem cut?_of_le (h : cs.length ≤ n) : cut? n (Utf8.encode cs) = none := by
  induction cs generalizing n with
  | nil => simp [cut?]
  | cons c cs ih =>
    obtain ⟨n, rfl⟩ : ∃ m, n = m + 1 := Nat.exists_eq_add_one_of_ne_zero (by rintro rfl; cases h)
    rw [cut?_encode_cons, ih (Nat.le_of_succ_le_succ h), Option.map_none]

/-- Where the walk stops, the bytes of the first characters are told from those of the others. -/
theorem take_drop_encode (n : Nat) (cs : List Char) :
    (Utf8.encode cs).take (Utf8.encode (cs.take n)).length = Utf8.encode (cs.take n) ∧
      (Utf8.encode cs).drop (Utf8.encode (cs.take n)).length = Utf8.encode (cs.drop n) := by
  have hsplit : Utf8.encode cs = Utf8.encode (cs.take n) ++ Utf8.encode (cs.drop n) := by
    rw [← Utf8.encode_append, List.take_append_drop]
  rw [hsplit]
  exact ⟨List.take_left, List.drop_left⟩

end Walk

section Truncate
variable {k limit : Nat} {name : String}

theorem truncate_of_le (h : name.length ≤ limit) : truncate limit name = name := if_pos h

theorem truncate_of_lt (h : limit < name.length) :
    truncate limit name = String.ofList (name.toList.take limit) ++ marker := if_neg (by omega)

theorem toList_truncate_of_lt (h : limit < name.length) :
    (truncate limit name).toList = name.toList.take limit ++ marker.toList := by
  rw [truncate_of_lt h, String.toList_append, String.toList_ofList]

theorem lt_length_truncate (h : limit < name.length) : limit < (truncate limit name).length := by
  have hmarker : marker.toList.length = 3 := by decide
  rw [← String.length_toList] at h ⊢
  rw [toList_truncate_of_lt h, List.length_append, hmarker, List.length_take]
  omega

/-- A label has the bytes of its name up to the place that the walk finds. -/
theorem bytesOf_truncate (limit : Nat) (name : String) :
    bytesOf (truncate limit name) = cutAt (cut? limit (bytesOf name)) (bytesOf name) := by
  have hname : bytesOf name = Utf8.encode name.toList := rfl
  rcases Nat.lt_or_ge limit name.length with h | h
  · have hlabel : bytesOf (truncate limit name)
        = Utf8.encode (name.toList.take limit) ++ bytesOf marker := by
      rw [bytesOf, toList_truncate_of_lt h, List.flatMap_append]
      rfl
    rw [hlabel, hname, cut?_of_lt h, cutAt, (take_drop_encode limit name.toList).1]
  · rw [truncate_of_le h, hname, cut?_of_le h, cutAt]

theorem truncate_truncate (h : k ≤ limit) : truncate k (truncate limit name) = truncate k name := by
  rcases Nat.lt_or_ge limit name.length with hname | hname
  · have hlabel := lt_length_truncate hname
    -- The marker stands behind the limit, so the smaller limit does not reach it.
    have htake : (name.toList.take limit ++ marker.toList).take k = name.toList.take k := by
      rw [List.take_append_of_le_length, List.take_take, Nat.min_eq_left h]
      rw [List.length_take, String.length_toList]
      omega
    rw [truncate_of_lt (Nat.lt_of_le_of_lt h hlabel), toList_truncate_of_lt hname, htake,
      truncate_of_lt (Nat.lt_of_le_of_lt h hname)]
  · rw [truncate_of_le hname]

theorem iterate_truncate (limit times : Nat) (name : String) :
    (truncate limit)^[times + 1] name = truncate limit name := by
  induction times with
  | zero => rfl
  | succ times ih => rw [Function.iterate_succ_apply', ih, truncate_truncate (Nat.le_refl limit)]

end Truncate

/-- A name that is read from bytes is cut in front of a character or not at all. A label is a text, it is
the name as long as the limit allows that, and otherwise it has the bytes of exactly the first characters
and the marker. No label is cut again by the limit that made it, and a smaller limit makes of it the label
that it makes of the name. -/
theorem labels_are_cut_between_characters {bytes : Bytes} {name : String}
    (hname : Utf8.text? bytes = some name) {k limit : Nat} (h : k ≤ limit) :
    let label := truncate limit name
    Utf8.text? (bytesOf label) = some label ∧
      bytesOf label = cutAt (cut? limit bytes) bytes ∧
      (name.length ≤ limit → cut? limit bytes = none ∧ bytesOf label = bytes) ∧
      (limit < name.length → ∃ cut, cut? limit bytes = some cut ∧
        Utf8.strict (bytes.take cut) = .ok (name.toList.take limit) ∧
        Utf8.strict (bytes.drop cut) = .ok (name.toList.drop limit) ∧
        bytesOf label = bytes.take cut ++ bytesOf marker) ∧
      truncate k label = truncate k name ∧
      ∀ times, (truncate limit)^[times + 1] name = label := by
  obtain rfl := Utf8.text?_eq_some_iff.mp hname
  intro label
  have hlabel : bytesOf label = cutAt (cut? limit (bytesOf name)) (bytesOf name) :=
    bytesOf_truncate limit name
  refine ⟨Utf8.text?_eq_some_iff.mpr rfl, hlabel, ?_, ?_, truncate_truncate h,
    fun times => iterate_truncate limit times name⟩
  · intro hle
    have hcut : cut? limit (bytesOf name) = none := cut?_of_le hle
    rw [hcut] at hlabel
    exact ⟨hcut, hlabel⟩
  · intro hlt
    have hcut : cut? limit (bytesOf name) = some (Utf8.encode (name.toList.take limit)).length :=
      cut?_of_lt hlt
    obtain ⟨htake, hdrop⟩ := take_drop_encode limit name.toList
    rw [hcut] at hlabel
    refine ⟨_, hcut, ?_, ?_, hlabel⟩
    · rw [bytesOf, ← Utf8.encode, htake, Utf8.strict_encode]
    · rw [bytesOf, ← Utf8.encode, hdrop, Utf8.strict_encode]

/-- A name with characters of one to four bytes, cut in front of the longest one. -/
theorem name_cut_before_longest_character :
    let name := "aë→𝄞b"
    let label := truncate 3 name
    Utf8.text? (bytesOf name) = some name ∧ (2 ≤ 3 ∧ 3 < name.length) ∧
      (cut? 3 (bytesOf name) = some 6 ∧
        Utf8.strict ((bytesOf name).take 6) = .ok ['a', 'ë', '→'] ∧
        Utf8.strict ((bytesOf name).drop 6) = .ok ['𝄞', 'b']) ∧
      label = "aë→..." ∧ truncate 2 label = "aë..." := by
  intro name label
  have hname : Utf8.text? (bytesOf name) = some name := Utf8.text?_eq_some_iff.mpr rfl
  have hlonger : 3 < name.length := by decide
  have hsmaller : 2 ≤ 3 := by decide
  obtain ⟨-, -, -, hcut, hagain, -⟩ := labels_are_cut_between_characters hname hsmaller
  obtain ⟨cut, hplace, htake, hdrop, -⟩ := hcut hlonger
  have hsix : cut? 3 (bytesOf name) = some 6 := by decide
  obtain rfl : cut = 6 := Option.some.inj (hplace.symm.trans hsix)
  have hfirst : name.toList.take 3 = ['a', 'ë', '→'] := by decide
  have hlast : name.toList.drop 3 = ['𝄞', 'b'] := by decide
  have hlabel : label = "aë→..." := by decide
  have hshorter : truncate 2 name = "aë..." := by decide
  rw [hfirst] at htake
  rw [hlast] at hdrop
  exact ⟨hname, ⟨hsmaller, hlonger⟩, ⟨hsix, htake, hdrop⟩, hlabel, hagain.trans hshorter⟩

end Label
end QueueBoard
