import QueueBoard.Http.Url.Escape
import QueueBoard.Text.Parts

/-! # Paths

An absolute path is a list of segments, each after a slash. A dot segment stays where it is, a double
dot segment goes back by one segment, but never by the letter of a drive.
-/
namespace QueueBoard.Url

def isDot (cs : List Char) : Bool :=
  let s := String.ofList (cs.map Char.toLower)
  s = "." || s = "%2e"

def isDoubleDot (cs : List Char) : Bool :=
  let s := String.ofList (cs.map Char.toLower)
  s = ".." || s = ".%2e" || s = "%2e." || s = "%2e%2e"

/-- The letter of a drive and a colon or a bar. -/
def isDrive : List Char → Bool
  | [letter, sign] => letter.isAlpha && (sign = ':' || sign = '|')
  | _ => false

/-- Whether a segment is a drive, up to a backslash if it holds one there. -/
def startsWithDrive (segment : List Char) : Bool :=
  isDrive (segment.take 2) && (segment.drop 2).head?.all (· = '\\')

/-- The segments before a double dot segment, last one first. -/
def goBack : List (List Char) → List (List Char)
  | [] => []
  | segment :: done => if startsWithDrive segment then segment :: done else done

/-- The segments so far, last one first, after one more. -/
def pushSegment (done : List (List Char)) (segment : List Char) (isLast : Bool) :
    List (List Char) :=
  if isDoubleDot segment then if isLast then [] :: goBack done else goBack done
  else if isDot segment then if isLast then [] :: done else done
  else segment :: done

def resolve : List (List Char) → List (List Char) → List (List Char)
  | done, [] => done.reverse
  | done, [segment] => (pushSegment done segment true).reverse
  | done, segment :: rest => resolve (pushSegment done segment false) rest

/-- The escaped segments of a path whose first slash has been read. -/
def segments (special : Bool) (cs : List Char) : List (List Char) :=
  let cs := if special then cs.map (fun c => if c = '\\' then '/' else c) else cs
  (splitAtAll '/' cs).map escapePath

def pathText (segments : List (List Char)) : List Char := segments.flatMap ('/' :: ·)

def isSlash (special : Bool) (c : Char) : Bool := c = '/' || (special && c = '\\')

def dropSlash (special : Bool) : List Char → List Char
  | [] => []
  | c :: cs => if isSlash special c then cs else c :: cs

/-- An absolute path without dot segments, whether or not it is given with its first slash. -/
def normalPath (special : Bool) (cs : List Char) : List Char :=
  pathText (resolve [] (segments special (dropSlash special cs)))

/-! The path of a file may start with a drive, after which a bar is written as a colon. -/

/-- The segments of a file so far, last one first, and whether they start with a drive. -/
def pushFileSegment (done : List (List Char) × Bool) (segment : List Char) (isLast : Bool) :
    List (List Char) × Bool :=
  match done.1, segment with
  | [], [letter, _] =>
    if isDrive segment then ([[letter, ':']], true) else (pushSegment [] segment isLast, done.2)
  | _, _ => (pushSegment done.1 segment isLast, done.2)

def resolveFile : List (List Char) × Bool → List (List Char) → List (List Char) × Bool
  | done, [] => done
  | done, [segment] => pushFileSegment done segment true
  | done, segment :: rest => resolveFile (pushFileSegment done segment false) rest

/-- The path of a file after its first slash, and whether it starts with a drive. -/
def filePath (cs : List Char) : List Char × Bool :=
  let done := resolveFile ([], false) (segments true cs)
  ('/' :: (pathText done.1.reverse).dropWhile (· = '/'), done.2)

end QueueBoard.Url
