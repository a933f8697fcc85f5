import QueueBoard.Text.Utf8
import QueueBoard.Text.Quoted
import QueueBoard.Number.Layout

/-! # What can be wrong with a document

A fault is a cause and the number of bytes that were left when it was found. The place in the
document follows from the two: lines are counted from one, columns count the bytes before.
-/
namespace QueueBoard.Json

/-- The kind of value that stood where another one was wanted. -/
inductive Found
  | null
  | boolean (b : Bool)
  | integer (n : Int)
  | real (negative : Bool) (size : Binary64)
  | text (s : String)
  | sequence
  | map

inductive Wanted
  | listing
  | record
  | text
  | nothing

/-- A field that every record has once. -/
inductive RecordField
  | name
  | state
deriving DecidableEq, Repr

def RecordField.key : RecordField → String
  | name => "name"
  | state => "state"

inductive Cause
  | endInSequence
  | endInMap
  | endInText
  | endInValue
  | colonWanted
  | commaOrBracketWanted
  | commaOrBraceWanted
  | wordWanted
  | valueWanted
  | badEscape
  | badNumber
  | numberTooLarge
  | badCodePoint
  | controlCharacter
  | keyNotText
  | loneSurrogate
  | cutSurrogate
  | trailingComma
  | trailingBytes
  | wrongKind (found : Found) (wanted : Wanted)
  | wrongLength (length : Nat)
  | missingField (field : RecordField)
  | repeatedField (field : RecordField)

structure Fault where
  cause : Cause
  left : Nat

/-- A real is positional from `10 ^ (-5)` to below `10 ^ 16`; other exponents carry their sign. -/
def realLayout : Layout := ⟨-5, 15, 'e', true⟩

def Found.describe : Found → String
  | null => "null"
  | boolean true => "boolean `true`"
  | boolean false => "boolean `false`"
  | integer n => "integer `" ++ toString n ++ "`"
  | real negative size => "floating point `" ++ realLayout.text negative size ++ "`"
  | text s => "string " ++ Quoted.quote s
  | sequence => "sequence"
  | map => "map"

def Wanted.describe : Wanted → String
  | listing => "a sequence"
  | record => "struct JobRecord"
  | text => "a string"
  | nothing => "unit"

def Cause.describe : Cause → String
  | endInSequence => "EOF while parsing a list"
  | endInMap => "EOF while parsing an object"
  | endInText => "EOF while parsing a string"
  | endInValue => "EOF while parsing a value"
  | colonWanted => "expected `:`"
  | commaOrBracketWanted => "expected `,` or `]`"
  | commaOrBraceWanted => "expected `,` or `\x7d`"
  | wordWanted => "expected ident"
  | valueWanted => "expected value"
  | badEscape => "invalid escape"
  | badNumber => "invalid number"
  | numberTooLarge => "number out of range"
  | badCodePoint => "invalid unicode code point"
  | controlCharacter => "control character (\\u0000-\\u001F) found while parsing a string"
  | keyNotText => "key must be a string"
  | loneSurrogate => "lone leading surrogate in hex escape"
  | cutSurrogate => "unexpected end of hex escape"
  | trailingComma => "trailing comma"
  | trailingBytes => "trailing characters"
  | wrongKind found wanted => "invalid type: " ++ found.describe ++ ", expected " ++ wanted.describe
  | wrongLength length =>
    "invalid length " ++ toString length ++ ", expected " ++ Wanted.record.describe ++ " with 2 elements"
  | missingField field => "missing field `" ++ field.key ++ "`"
  | repeatedField field => "duplicate field `" ++ field.key ++ "`"

structure Place where
  line : Nat
  column : Nat
deriving DecidableEq, Repr

/-- A line feed opens the next line, any other byte takes a column. -/
def Place.step (p : Place) (b : UInt8) : Place :=
  if b = 0x0A then ⟨p.line + 1, 0⟩ else ⟨p.line, p.column + 1⟩

def Place.after (read : Bytes) : Place := read.foldl Place.step ⟨1, 0⟩

def Fault.place (f : Fault) (document : Bytes) : Place :=
  Place.after (document.take (document.length - f.left))

def Fault.describe (f : Fault) (document : Bytes) : String :=
  let p := f.place document
  f.cause.describe ++ " at line " ++ toString p.line ++ " column " ++ toString p.column

/-- A reader takes a value off the front of what is left. -/
abbrev Result (α : Type) := Except Fault (α × Bytes)

/-- A fault found after what has been read. -/
def stop {α : Type} (cause : Cause) (rest : Bytes) : Except Fault α := .error ⟨cause, rest.length⟩

/-- A fault found at the next byte, which counts as read. -/
def stopAt {α : Type} (cause : Cause) (rest : Bytes) : Except Fault α :=
  .error ⟨cause, rest.length - 1⟩

section Chains
variable {α β : Type} {x : Except Fault α} {b : β}

theorem bind_eq_ok {f : α → Except Fault β} : x.bind f = .ok b ↔ ∃ a, x = .ok a ∧ f a = .ok b := by
  cases x with
  | error fault => simp [Except.bind]
  | ok a => simp [Except.bind]

theorem map_eq_ok {f : α → β} : x.map f = .ok b ↔ ∃ a, x = .ok a ∧ f a = b := by
  cases x with
  | error fault => simp [Except.map]
  | ok a => simp [Except.map]

end Chains

end QueueBoard.Json
