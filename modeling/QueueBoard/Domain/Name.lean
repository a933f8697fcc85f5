import QueueBoard.Domain.Direction
import QueueBoard.Domain.Folding
import QueueBoard.Domain.Joining
import QueueBoard.Domain.NormalForm
import QueueBoard.Domain.Punycode
import QueueBoard.Text.Parts

/-! # Domain names

A domain name is folded, brought into normal form and split at its dots. A label in ASCII form stands
for another one, which has to be folded and in normal form already. All labels have to be sound; those
that are not in ASCII are then written in ASCII form.
-/
namespace QueueBoard.Domain

/-- A character that no name holds. -/
def isForbidden (c : Char) : Bool :=
  c.toNat ≤ 0x20 || c.toNat = 0x7F
    || ['#', '%', '/', ':', '<', '>', '?', '@', '[', '\\', ']', '^', '|'].contains c

def isAscii (cs : List Char) : Bool := cs.all (·.toNat < 0x80)

/-- Longer ASCII forms are not read. -/
def longestForm : Nat := 2000

/-- Longer labels have no ASCII form. -/
def longestLabel : Nat := 1000

/-- The label that what follows the mark of an ASCII form stands for. -/
def ofForm? (form : List Char) : Option (List Char) :=
  if isAscii form ∧ form.length ≤ longestForm ∧ form.getLast? ≠ some '-' ∧ form ≠ [] then
    (Punycode.decode? form).filter (fun label => label.all isKept && normalForm label = label)
  else none

/-- The label that a label stands for. -/
def plain? : List Char → Option (List Char)
  | 'x' :: 'n' :: '-' :: '-' :: form => ofForm? form
  | label => some label

def isSound (label : List Char) : Bool :=
  label.all (!isForbidden ·) && !label.head?.any isMark && joinsWell [] label
    && (isAscii label || label.length ≤ longestLabel)

def asciiLabel (label : List Char) : List Char :=
  if isAscii label then label else 'x' :: 'n' :: '-' :: '-' :: Punycode.encode label

/-- The labels of a name, none of them in ASCII form. -/
def labels? (name : List Char) : Option (List (List Char)) := do
  let folded ← name.mapM fold?
  let labels ← (splitAtAll '.' (normalForm folded.flatten)).mapM plain?
  if labels.all isSound && isConsistent labels then some labels else none

/-- A domain name in ASCII. -/
def ascii? (name : List Char) : Option (List Char) :=
  (labels? name).map (fun labels => joinWith ['.'] (labels.map asciiLabel))

end QueueBoard.Domain
