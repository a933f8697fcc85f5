import QueueBoard.Http.Head
import QueueBoard.Text.Hex

/-! # Bodies sent in chunks

A chunk is its size in hexadecimal on a line of its own, which an extension may follow, then as many
bytes and a line break. A chunk of size zero ends the body. After it come the trailers, which have to
be fields but are not kept. Here a line break is a carriage return and a line feed.
-/
namespace QueueBoard.Http.Chunks

/-- All extensions of a body together have fewer bytes than this. -/
def extensionBound : Nat := 16384

/-- There are at most so many trailers. -/
def trailerBound : Nat := 100

/-- The trailers and the line break after them have fewer bytes than this. -/
def trailerBytesBound : Nat := 16384

def isHexByte (b : UInt8) : Bool := (Hex.digit? b.toNat).isSome

def valueOf (digits : Bytes) : Nat :=
  digits.foldl (fun n d => n * 16 + (Hex.digit? d.toNat).getD 0) 0

/-- A size and what follows its digits. -/
def size? (s : Bytes) : Option (Nat × Bytes) :=
  if s.takeWhile isHexByte = [] then none
  else some (valueOf (s.takeWhile isHexByte), s.dropWhile isHexByte)

def isNotReturn (b : UInt8) : Bool := b ≠ 0x0D

/-- The rest of a size line: the length of its extension and what follows the line. -/
def sizeLineEnd? (s : Bytes) : Option (Nat × Bytes) :=
  match s.dropWhile isBlankByte with
  | 0x0D :: 0x0A :: r => some (0, r)
  | 0x3B :: e =>
    match e.dropWhile isNotReturn with
    | 0x0D :: 0x0A :: r =>
      if (e.takeWhile isNotReturn).contains 0x0A then none
      else some ((e.takeWhile isNotReturn).length, r)
    | _ => none
  | _ => none

theorem dropWhile_length_le (p : UInt8 → Bool) (s : Bytes) : (s.dropWhile p).length ≤ s.length :=
  (List.dropWhile_suffix p).length_le

theorem size?_length_le {s r : Bytes} {n : Nat} (h : size? s = some (n, r)) :
    r.length ≤ s.length := by
  unfold size? at h
  split at h <;> cases h
  exact dropWhile_length_le _ _

theorem sizeLineEnd?_length_lt {s r : Bytes} {n : Nat} (h : sizeLineEnd? s = some (n, r)) :
    r.length < s.length := by
  have hs := dropWhile_length_le isBlankByte s
  unfold sizeLineEnd? at h
  split at h
  · rename_i hd
    rw [hd] at hs
    cases h
    simp only [List.length_cons] at hs
    omega
  · rename_i e hd
    have he := dropWhile_length_le isNotReturn e
    rw [hd, List.length_cons] at hs
    split at h
    · rename_i hr
      rw [hr] at he
      split at h <;> cases h
      simp only [List.length_cons] at he
      omega
    · cases h
  · cases h

/-- The number of trailers up to the line break that stands alone, and what follows it. -/
def trailerCount? (s : Bytes) : Option (Nat × Bytes) :=
  match s with
  | [] => none
  | b :: r =>
    if b = 0x0D then
      match r with
      | 0x0A :: rest => some (0, rest)
      | _ => none
    else
      match _h : r.dropWhile isNotReturn with
      | 0x0D :: 0x0A :: rest => (trailerCount? rest).map (fun p => (p.1 + 1, p.2))
      | _ => none
termination_by s.length
decreasing_by
  have hr := dropWhile_length_le isNotReturn r
  rw [_h] at hr
  simp only [List.length_cons] at hr ⊢
  omega

/-- Whether the body ends well after its last chunk. -/
def endsWell (s : Bytes) : Bool :=
  match trailerCount? s with
  | none => false
  | some (0, _) => true
  | some (count, rest) =>
    let trailers := s.take (s.length - rest.length)
    count ≤ trailerBound && trailers.length < trailerBytesBound && (fields? count trailers).isSome

/-- The body, if all of it is there; `spent` bytes went to the extensions of earlier chunks. -/
def bodyFrom? (spent : Nat) (s : Bytes) : Option Bytes :=
  match _hn : size? s with
  | none => none
  | some (n, r) =>
    match _hl : sizeLineEnd? r with
    | none => none
    | some (extension, data) =>
      if extensionBound ≤ spent + extension then none
      else if n = 0 then if endsWell data then some [] else none
      else
        match _hd : data.drop n with
        | 0x0D :: 0x0A :: rest => (bodyFrom? (spent + extension) rest).map (data.take n ++ ·)
        | _ => none
termination_by s.length
decreasing_by
  have h1 := size?_length_le _hn
  have h2 := sizeLineEnd?_length_lt _hl
  have h3 : (data.drop n).length ≤ data.length := by simp
  rw [_hd] at h3
  simp only [List.length_cons] at h3
  omega

def body? (s : Bytes) : Option Bytes := bodyFrom? 0 s

end QueueBoard.Http.Chunks
