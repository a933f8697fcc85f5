/-! # Labels in ASCII

A label with other characters is written as its ASCII characters, then the others as differences of
their numbers in a mixed radix whose thresholds adapt to the last difference.
-/
namespace QueueBoard.Domain.Punycode

def digit (n : Nat) : Char := if n < 26 then Char.ofNat (97 + n) else Char.ofNat (22 + n)

def threshold (k bias : Nat) : Nat := min 26 (max 1 (k - bias))

/-- A difference in the mixed radix, from the place `k` on. -/
def digits (bias k q : Nat) : List Char :=
  let t := threshold k bias
  if q < t then [digit q]
  else digit (t + (q - t) % (36 - t)) :: digits bias (k + 36) ((q - t) / (36 - t))
termination_by q
decreasing_by
  have h1 : 1 ≤ threshold k bias := by unfold threshold; omega
  have h2 := Nat.div_le_self (q - threshold k bias) (36 - threshold k bias)
  omega

def settle (delta k : Nat) : Nat :=
  if 455 < delta then settle (delta / 35) (k + 36) else k + 36 * delta / (delta + 38)
termination_by delta
decreasing_by omega

def adapt (delta count : Nat) (first : Bool) : Nat :=
  let d := if first then delta / 700 else delta / 2
  settle (d + d / count) 0

structure State where
  delta : Nat
  bias : Nat
  written : Nat
  first : Bool
  out : List Char

/-- One character of the label, while the characters numbered `code` are written. -/
def step (code : Nat) (s : State) (c : Char) : State :=
  if c.toNat < code then { s with delta := s.delta + 1 }
  else if c.toNat = code then
    { delta := 0, bias := adapt s.delta (s.written + 1) s.first, written := s.written + 1,
      first := false, out := s.out ++ digits s.bias 36 s.delta }
  else s

/-- All characters with the numbers of an ascending list. -/
def codes (label : List Char) : List Nat → Nat → State → State
  | [], _, s => s
  | code :: rest, next, s =>
    let s := label.foldl (step code) { s with delta := s.delta + (code - next) * (s.written + 1) }
    codes label rest (code + 1) { s with delta := s.delta + 1 }

def encode (label : List Char) : List Char :=
  let basic := label.filter (·.toNat < 128)
  let others := ((label.filter (128 ≤ ·.toNat)).map Char.toNat).mergeSort.eraseDups
  let start := if basic.isEmpty then [] else basic ++ ['-']
  (codes label others 128 ⟨0, 72, basic.length, true, start⟩).out

/-- The value of a digit in lower case. -/
def value? (c : Char) : Option Nat :=
  if c.isLower then some (c.toNat - 97)
  else if c.isDigit then some (c.toNat - 22)
  else none

/-- Every number while a difference is read is below this. -/
def bound : Nat := 4294967296

/-- A difference from the place `k` on, added to `sum`, and what follows its last digit. -/
def difference? (bias k weight sum : Nat) : List Char → Option (Nat × List Char)
  | [] => none
  | c :: cs =>
    match value? c with
    | none => none
    | some d =>
      let t := threshold k bias
      if bound ≤ sum + d * weight then none
      else if d < t then some (sum + d * weight, cs)
      else if bound ≤ weight * (36 - t) then none
      else difference? bias (k + 36) (weight * (36 - t)) (sum + d * weight) cs

theorem difference?_length_lt {bias k weight sum n : Nat} {cs rest : List Char}
    (h : difference? bias k weight sum cs = some (n, rest)) : rest.length < cs.length := by
  fun_induction difference? bias k weight sum cs with
  | case1 => cases h
  | case2 => cases h
  | case3 => cases h
  | case4 => cases h; simp
  | case5 => cases h
  | case6 _ _ _ _ _ _ _ _ _ _ _ ih =>
    have := ih h
    simp only [List.length_cons]
    omega

/-- The label so far with the characters that the differences put into it. -/
def fill? (label : List Char) (code place bias : Nat) (cs : List Char) : Option (List Char) :=
  if cs.isEmpty then some label
  else
    match _h : difference? bias 36 1 place cs with
    | none => none
    | some (n, rest) =>
      let size := label.length + 1
      let code := code + n / size
      if code.isValidChar then
        fill? (label.take (n % size) ++ Char.ofNat code :: label.drop (n % size)) code (n % size + 1)
          (adapt (n - place) size (place = 0)) rest
      else none
termination_by cs.length
decreasing_by exact difference?_length_lt _h

/-- The label that a form in ASCII stands for. -/
def decode? (cs : List Char) : Option (List Char) :=
  let digits := (cs.reverse.takeWhile (· ≠ '-')).reverse
  match cs.reverse.dropWhile (· ≠ '-') with
  | [] => fill? [] 128 0 72 digits
  | [_] => none
  | _ :: basic => fill? basic.reverse 128 0 72 digits

end QueueBoard.Domain.Punycode
