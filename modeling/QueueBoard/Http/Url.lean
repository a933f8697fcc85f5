import QueueBoard.Http.Url.Host
import QueueBoard.Http.Url.Path

/-! # Addresses

An address is read into its parts and written back in normal form: scheme and host in lower case, no
service number that is the scheme's own, no dot segments, unsafe bytes escaped. A reference at an address
is one itself or lacks some of the parts in front.
-/
namespace QueueBoard

/-- A user and a secret, both escaped. -/
structure Credentials where
  user : List Char
  secret : Option (List Char)
deriving DecidableEq, Repr

structure Authority where
  credentials : Credentials
  /-- In normal form, and empty if the address names none. -/
  host : List Char
  /-- The number of a service other than the scheme's own. -/
  service : Option Nat
deriving DecidableEq, Repr

structure Url where
  scheme : List Char
  authority : Option Authority
  path : List Char
  query : Option (List Char)
  fragment : Option (List Char)
deriving DecidableEq, Repr

namespace Credentials

def none : Credentials := ⟨[], .none⟩

def text (c : Credentials) : List Char :=
  if c = none then []
  else c.user ++ (match c.secret with
    | some secret => ':' :: secret
    | .none => []) ++ ['@']

/-- The user and the secret in plain text, where there are any to be told. -/
def plain? (c : Credentials) : Option (String × Option String) := do
  let user ← Utf8.text? (Url.unescape c.user)
  let secret := c.secret.bind (fun secret => Utf8.text? (Url.unescape secret))
  if user = "" ∧ secret = .none then .none else return (user, secret)

end Credentials

namespace Authority

/-- The host and, after a colon, the number of the service. -/
def destination (a : Authority) : List Char :=
  a.host ++ match a.service with
    | some n => ':' :: Url.natText n
    | none => []

def text (a : Authority) : List Char := a.credentials.text ++ a.destination

end Authority

namespace Url

def httpScheme : List Char := ['h', 't', 't', 'p']

def httpsScheme : List Char := ['h', 't', 't', 'p', 's']

def fileScheme : List Char := ['f', 'i', 'l', 'e']

/-- The service number of a scheme whose addresses always name a host. -/
def defaultService? (scheme : List Char) : Option Nat :=
  if scheme = httpScheme ∨ scheme = ['w', 's'] then some 80
  else if scheme = httpsScheme ∨ scheme = ['w', 's', 's'] then some 443
  else if scheme = ['f', 't', 'p'] then some 21
  else none

/-- Whether requests to an address go over a secure connection. -/
def isSecure (u : Url) : Bool := u.scheme = httpsScheme

def isSpecial (scheme : List Char) : Bool := (defaultService? scheme).isSome

def queryText (u : Url) : List Char :=
  match u.query with
  | some q => '?' :: q
  | none => []

/-- What is sent as the target of a request. -/
def target (u : Url) : String := String.ofList (u.path ++ u.queryText)

/-- What stands between the scheme and the path: a path that looks like a host is marked as a path. -/
def front (u : Url) : List Char :=
  match u.authority, u.path with
  | some a, _ => '/' :: '/' :: a.text
  | none, '/' :: '/' :: _ => ['/', '.']
  | none, _ => []

def text (u : Url) : String :=
  String.ofList (u.scheme ++ [':'] ++ u.front ++ u.path ++ u.queryText
    ++ (match u.fragment with
      | some f => '#' :: f
      | none => []))

def host (u : Url) : List Char :=
  match u.authority with
  | some a => a.host
  | none => []

/-- The address without its credentials, unless there is no plain text of them. -/
def withoutCredentials (u : Url) : Url :=
  { u with authority := u.authority.map (fun a =>
      if a.credentials.plain?.isSome then { a with credentials := .none } else a) }

/-- The characters that count: none of the line breaks and tabs, no blanks or controls at the ends. -/
def significant (cs : List Char) : List Char :=
  let isEdge := fun (c : Char) => decide (c.toNat ≤ 0x20)
  let inner := ((cs.dropWhile isEdge).reverse.dropWhile isEdge).reverse
  inner.filter (fun c => c ≠ '\t' && c ≠ '\n' && c ≠ '\r')

def isSchemeChar (c : Char) : Bool := c.isAlphanum || c = '+' || c = '-' || c = '.'

/-- The scheme in lower case and what follows its colon. -/
def splitScheme (cs : List Char) : Option (List Char × List Char) :=
  let scheme := cs.takeWhile isSchemeChar
  match scheme, cs.dropWhile isSchemeChar with
  | c :: _, ':' :: rest => if c.isAlpha then some (scheme.map Char.toLower, rest) else none
  | _, _ => none

/-- The part before the first of some characters, and the rest. -/
def cut (stops : List Char) (cs : List Char) : List Char × List Char :=
  (cs.takeWhile (fun c => !stops.contains c), cs.dropWhile (fun c => !stops.contains c))

/-- The characters that end an authority. -/
def authorityEnds (special : Bool) : List Char :=
  if special then ['/', '\\', '?', '#'] else ['/', '?', '#']

/-- The parts after a path: a query and a fragment. -/
def queryAndFragment (special : Bool) (cs : List Char) :
    Option (List Char) × Option (List Char) :=
  let escape := if special then escapeSpecialQuery else escapeQuery
  match cs with
  | '?' :: rest =>
    match cut ['#'] rest with
    | (q, '#' :: f) => (some (escape q), some (escapeFragment f))
    | (q, _) => (some (escape q), none)
  | '#' :: f => (none, some (escapeFragment f))
  | _ => (none, none)

/-- A user up to the first colon and a secret after it. -/
def readCredentials (cs : List Char) : Credentials :=
  let secret := (cs.dropWhile (· ≠ ':')).tail
  ⟨escapeCredentials (cs.takeWhile (· ≠ ':')),
    if secret.isEmpty then none else some (escapeCredentials secret)⟩

/-- The credentials up to the last at sign of an authority, and what follows it. An at sign that has
nothing on either side of it, not even the end of the address, is refused. -/
def splitCredentials? (ends cs : List Char) : Option (Credentials × List Char) :=
  let (authority, rest) := cut ends cs
  if authority.contains '@' then
    let after := (authority.reverse.takeWhile (· ≠ '@')).reverse
    let given := authority.take (authority.length - after.length - 1)
    if given.isEmpty ∧ after.isEmpty ∧ ¬ rest.isEmpty then none
    else some (readCredentials given, after ++ rest)
  else some (.none, cs)

/-- A host and what follows it. The colons inside brackets belong to the host. -/
def splitHost (ends : List Char) (bracketed : Bool) : List Char → List Char × List Char
  | [] => ([], [])
  | c :: cs =>
    if ends.contains c ∨ (c = ':' ∧ ¬ bracketed) then ([], c :: cs)
    else
      let (host, rest) := splitHost ends (c = '[' || (bracketed && c ≠ ']')) cs
      (c :: host, rest)

/-- The number of a service other than the scheme's own, and what follows its digits. -/
def service? (scheme : List Char) (cs : List Char) : Option (Option Nat × List Char) :=
  let digits := cs.takeWhile Char.isDigit
  let rest := cs.dropWhile Char.isDigit
  if rest.head?.all ['/', '\\', '?', '#'].contains then
    (valueIn 10 digits).bind (fun n =>
      if 65535 < n then none
      else if digits.isEmpty ∨ defaultService? scheme = some n then some (none, rest)
      else some (some n, rest))
  else none

/-- The authority after two slashes, and what follows it. -/
def authority? (scheme cs : List Char) : Option (Authority × List Char) := do
  let special := isSpecial scheme
  let ends := authorityEnds special
  let (credentials, cs) ← splitCredentials? ends cs
  let (name, rest) := splitHost ends false cs
  let host ← if special then host? name else genericHost? name
  let (service, rest) ← match rest with
    | ':' :: digits => if host.isEmpty then none else service? scheme digits
    | _ => some (none, rest)
  if host.isEmpty ∧ credentials ≠ .none then none else return (⟨credentials, host, service⟩, rest)

/-- What follows the scheme of a file: its host and the rest, from which the path is read. Without a
host all slashes that are left belong to the path. -/
def fileHost? (cs : List Char) : Option (List Char × List Char) :=
  match cs with
  | a :: b :: rest =>
    if isSlash true a && isSlash true b then
      let (name, after) := cut (authorityEnds true) rest
      if isDrive name then some ([], rest)
      else if name.isEmpty then some ([], after)
      else (host? name).map (fun host =>
        if host = ['l', 'o', 'c', 'a', 'l', 'h', 'o', 's', 't'] then ([], after)
        else (host, dropSlash true after))
    else some ([], dropSlash true cs)
  | _ => some ([], dropSlash true cs)

/-- The address of a file. A drive is on no host. -/
def file? (cs : List Char) : Option Url := do
  let (host, rest) ← fileHost? cs
  let (path, rest) := cut ['?', '#'] rest
  let (path, onDrive) := filePath path
  let (query, fragment) := queryAndFragment true rest
  return ⟨fileScheme, some ⟨.none, if onDrive then [] else host, none⟩, path, query, fragment⟩

/-- An address of a scheme that says nothing about it, after its colon. -/
def generic? (scheme cs : List Char) : Option Url := do
  let (authority, rest) ← match cs with
    | '/' :: '/' :: rest => (authority? scheme rest).map (fun p => (some p.1, p.2))
    | _ => some (none, cs)
  let (path, rest) := cut ['?', '#'] rest
  let (query, fragment) := queryAndFragment false rest
  let path :=
    if authority.isSome then if path.isEmpty then [] else normalPath false path
    else if path.head? = some '/' then normalPath false path
    else escapeOpaque path
  return ⟨scheme, authority, path, query, fragment⟩

/-- An address of a scheme whose addresses always name a host, after its colon. -/
def special? (scheme cs : List Char) : Option Url := do
  let (authority, rest) ← authority? scheme (cs.dropWhile (isSlash true))
  let (path, rest) := cut ['?', '#'] rest
  let (query, fragment) := queryAndFragment true rest
  return ⟨scheme, some authority, normalPath true path, query, fragment⟩

/-- An absolute address. -/
def read? (input : String) : Option Url :=
  match splitScheme (significant input.toList) with
  | none => none
  | some (scheme, rest) =>
    if isSpecial scheme then special? scheme rest
    else if scheme = fileScheme then file? rest
    else generic? scheme rest

/-- What of an address whose scheme is special stays in front of a reference that has no scheme. -/
def kept (base : Url) (reference : List Char) : List Char :=
  let origin := base.scheme ++ [':'] ++ base.front
  let slashes := (reference.takeWhile (isSlash true)).length
  if 1 < slashes then base.scheme ++ [':']
  else if slashes = 1 then origin
  else if reference = [] ∨ reference.head? = some '#' then origin ++ base.path ++ base.queryText
  else if reference.head? = some '?' then origin ++ base.path
  else origin ++ (base.path.reverse.dropWhile (· ≠ '/')).reverse

/-- The text of the absolute address that a reference stands for at an address whose scheme is special.
The same scheme in front of a reference does not count. -/
def join (base : Url) (reference : String) : String :=
  let reference := significant reference.toList
  String.ofList (match splitScheme reference with
    | none => base.kept reference ++ reference
    | some (scheme, rest) => if scheme = base.scheme then base.kept rest ++ rest else reference)

end Url
end QueueBoard
