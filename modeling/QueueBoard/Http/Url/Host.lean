import QueueBoard.Domain.Name
import QueueBoard.Http.Url.Escape

/-! # Hosts

A host is a domain name in ASCII, four numbers below 256 or eight 16-bit numbers in brackets. A name
whose last label is numeric has to be an address of four bytes. Where a scheme says nothing about its
hosts, a host is any text or eight numbers in brackets.
-/
namespace QueueBoard.Url

/-- Characters that no host holds. -/
def isForbidden (c : Char) : Bool :=
  ['\x00', '\t', '\n', '\r', ' ', '#', '/', ':', '<', '>', '?', '@', '[', '\\', ']', '^', '|'].contains c

def valueIn (radix : Nat) (cs : List Char) : Option Nat :=
  cs.foldl (fun acc c => do
    let n ← acc
    let d ← Hex.digit? c.toNat
    if d < radix then some (n * radix + d) else none) (some 0)

/-- A number in decimal, in octal after a zero or in hexadecimal after `0x`. -/
def addressPart? : List Char → Option Nat
  | [] => none
  | '0' :: 'x' :: cs => valueIn 16 cs
  | '0' :: 'X' :: cs => valueIn 16 cs
  | ['0'] => some 0
  | '0' :: cs => valueIn 8 cs
  | cs => valueIn 10 cs

def lastLabel (cs : List Char) : List Char :=
  let parts := splitAtAll '.' cs
  let parts := if parts.getLast? = some [] ∧ 1 < parts.length then parts.dropLast else parts
  parts.getLast?.getD []

def isNumeric (cs : List Char) : Bool :=
  let last := lastLabel cs
  (!last.isEmpty && last.all Char.isDigit) || (addressPart? last).isSome

def natText (n : Nat) : List Char := Nat.toDigits 10 n

/-- The address that up to four numbers stand for; the last one fills the bytes that are left. -/
def fourBytes? (cs : List Char) : Option (List Char) := do
  let parts := splitAtAll '.' cs
  let parts := if parts.getLast? = some [] ∧ 1 < parts.length then parts.dropLast else parts
  let numbers ← parts.mapM addressPart?
  let last ← numbers.getLast?
  let front := numbers.dropLast
  if 4 < numbers.length ∨ front.any (255 < ·) ∨ Nat.pow 256 (5 - numbers.length) ≤ last then none
  else
    let address := front.zipIdx.foldl (fun sum p => sum + p.1 * Nat.pow 256 (3 - p.2)) last
    return joinWith ['.']
      ([address / 16777216, address / 65536 % 256, address / 256 % 256, address % 256].map natText)

/-- One 16-bit number of up to four hexadecimal digits. -/
def group? (cs : List Char) : Option Nat :=
  if cs.isEmpty || 4 < cs.length then none else valueIn 16 cs

/-- The last two groups may be written as four decimal bytes. -/
def tailGroups? (cs : List Char) : Option (List Nat) :=
  if cs.contains '.' then do
    let parts := splitAtAll '.' cs
    let bytes ← parts.mapM (fun p =>
      if p.isEmpty || (1 < p.length && p.head? = some '0') then none else valueIn 10 p)
    match bytes with
    | [a, b, c, d] =>
      if [a, b, c, d].all (· < 256) then some [a * 256 + b, c * 256 + d] else none
    | _ => none
  else (group? cs).map ([·])

/-- All groups of an address or of its end. -/
def groups? (cs : List Char) : Option (List Nat) :=
  if cs.isEmpty then some []
  else do
    let parts := splitAtAll ':' cs
    let front ← parts.dropLast.mapM group?
    let last ← tailGroups? (parts.getLast?.getD [])
    return front ++ last

/-- The groups before a double colon. -/
def frontGroups? (cs : List Char) : Option (List Nat) :=
  if cs.isEmpty then some [] else (splitAtAll ':' cs).mapM group?

/-- The texts before and after the first double colon. -/
def splitDouble : List Char → Option (List Char × List Char)
  | ':' :: ':' :: cs => some ([], cs)
  | c :: cs => (splitDouble cs).map (fun p => (c :: p.1, p.2))
  | [] => none

def eightGroups? (cs : List Char) : Option (List Nat) :=
  match splitDouble cs with
  | none => (groups? cs).filter (·.length = 8)
  | some (front, back) => do
    let before ← frontGroups? front
    let after ← groups? back
    if before.length + after.length < 8 then
      return before ++ List.replicate (8 - before.length - after.length) 0 ++ after
    else none

/-- The length of the run of zeros at the front. -/
def zeroRun (groups : List Nat) : Nat := (groups.takeWhile (· = 0)).length

/-- The start and the length of the first longest run of two or more zeros. -/
def longestRun (groups : List Nat) : Option (Nat × Nat) :=
  (List.range groups.length).foldl (fun best i =>
    let n := zeroRun (groups.drop i)
    match best with
    | none => if 1 < n then some (i, n) else none
    | some (_, m) => if m < n then some (i, n) else best) none

def groupText (n : Nat) : List Char := Nat.toDigits 16 n

def eightGroupsText (groups : List Nat) : List Char :=
  match longestRun groups with
  | none => joinWith [':'] (groups.map groupText)
  | some (i, n) =>
    joinWith [':'] ((groups.take i).map groupText) ++ [':', ':']
      ++ joinWith [':'] ((groups.drop (i + n)).map groupText)

/-- The normal form of eight groups in brackets. -/
def bracketed? (cs : List Char) : Option (List Char) :=
  if cs.getLast? = some ']' then
    (eightGroups? cs.dropLast).map (fun groups => '[' :: eightGroupsText groups ++ [']'])
  else none

/-- The normal form of a host, if it is one. -/
def host? : List Char → Option (List Char)
  | '[' :: rest => bracketed? rest
  | cs =>
    match Domain.ascii? (Utf8.lenient (unescape cs)) with
    | none => none
    | some domain =>
      if domain.isEmpty then none
      else if isNumeric domain then fourBytes? domain
      else some domain

/-- The same for a host of which the scheme says nothing. -/
def genericHost? : List Char → Option (List Char)
  | '[' :: rest => bracketed? rest
  | cs => if cs.any isForbidden then none else some (escapeOpaque cs)

end QueueBoard.Url
