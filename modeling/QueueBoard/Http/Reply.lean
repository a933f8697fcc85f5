import QueueBoard.Http.Chunks
import QueueBoard.Text.Parts

/-! # Replies

What a server sends is read as heads, of which the last one is final, and a body. The fields of the
head tell how far the body goes, what kind it is of and where a redirect leads. A reply whose body is cut
short or broken has a head all the same.
-/
namespace QueueBoard.Http

/-- How the end of a body is known. -/
inductive Framing
  | sized (length : Nat)
  | chunked
  | untilClose
deriving DecidableEq, Repr

namespace Framing

/-- The largest length of a body, two less than the largest number of 64 bits. -/
def lengthBound : Nat := 18446744073709551613

/-- The body if all of it is there; more bytes than a sized body takes do not matter. -/
def body? : Framing → Bytes → Option Bytes
  | sized length, s => if length ≤ s.length then some (s.take length) else none
  | chunked, s => Chunks.body? s
  | untilClose, s => some s

/-- A byte that may stand in a field that is read for its meaning. -/
def isPlainByte (b : UInt8) : Bool := b = 0x09 || (0x20 ≤ b && b ≤ 0x7E)

/-- The parts between commas. -/
def parts (s : Bytes) : List Bytes := splitAtAll 0x2C s

def length? (part : Bytes) : Option Nat :=
  let digits := trimBlanks part
  if digits ≠ [] ∧ digits.all isDigitByte then
    some (digits.foldl (fun n d => n * 10 + (d.toNat - 48)) 0)
  else none

/-- The length that all parts of all values agree on. -/
def agreedLength? (values : List Bytes) : Option Nat :=
  match (values.flatMap parts).map length? with
  | some n :: rest => if rest.all (· = some n) ∧ n ≤ lengthBound then some n else none
  | _ => none

/-- The name `chunked`. -/
def chunkedName : Bytes := [0x63, 0x68, 0x75, 0x6E, 0x6B, 0x65, 0x64]

/-- Whether the last coding of a value is `chunked`. -/
def endsChunked (value : Bytes) : Bool :=
  value.all isPlainByte && ((parts value).getLast?.map (fun p => (trimBlanks p).map lowerByte)) = some chunkedName

end Framing

/-- The name `transfer-encoding`. -/
def transferEncoding : Bytes :=
  [0x74, 0x72, 0x61, 0x6E, 0x73, 0x66, 0x65, 0x72, 0x2D, 0x65, 0x6E, 0x63, 0x6F, 0x64, 0x69, 0x6E, 0x67]

/-- The name `content-length`. -/
def contentLength : Bytes :=
  [0x63, 0x6F, 0x6E, 0x74, 0x65, 0x6E, 0x74, 0x2D, 0x6C, 0x65, 0x6E, 0x67, 0x74, 0x68]

/-- The framing of the body after a final head, if the head does not contradict itself. -/
def Head.framing? (head : Head) : Option Framing :=
  if Head.isBodiless head.status then some (.sized 0)
  else
    match (head.values transferEncoding).getLast? with
    | some coding =>
      if ¬ head.current then none
      else if Framing.endsChunked coding then some .chunked
      else some .untilClose
    | none =>
      match head.values contentLength with
      | [] => some .untilClose
      | values => (Framing.agreedLength? values).map .sized

/-- The name `location`. -/
def location : Bytes := [0x6C, 0x6F, 0x63, 0x61, 0x74, 0x69, 0x6F, 0x6E]

/-- The name `content-type`. -/
def contentType : Bytes := [0x63, 0x6F, 0x6E, 0x74, 0x65, 0x6E, 0x74, 0x2D, 0x74, 0x79, 0x70, 0x65]

structure Reply where
  status : Nat
  /-- Where a redirect leads, as it is given. -/
  location : Option Bytes
  /-- The kind of the body, as it is given. -/
  contentType : Option Bytes
  /-- Absent if it is not complete. -/
  body : Option Bytes
deriving DecidableEq, Repr

/-- The reply with a head; of several fields with one name the first one counts. -/
def Head.reply (head : Head) (body : Option Bytes) : Reply :=
  ⟨head.status, (head.values location).head?, (head.values contentType).head?, body⟩

/-- The reply that is sent before the connection is closed. -/
def Reply.read? (s : Bytes) : Option Reply :=
  match _h : Head.read? s with
  | none => none
  | some (head, r) =>
    if Head.isInterim head.status then Reply.read? r
    else head.framing?.map (fun f => head.reply (f.body? r))
termination_by s.length
decreasing_by exact Head.read?_length_lt _h

end QueueBoard.Http
