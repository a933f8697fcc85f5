import QueueBoard.Http.Url
import QueueBoard.Fetch.Failure

/-! # Endpoints

An endpoint is an address without slashes at its end. A request is sent to it over HTTP only, be it over a
secure connection or not.
-/
namespace QueueBoard.Endpoint

def standard : String := "http://localhost:8080/cards/queue"

def trimSlashes (cs : List Char) : List Char := (cs.reverse.dropWhile (· = '/')).reverse

def trim (url : String) : String := String.ofList (trimSlashes url.toList)

/-- Characters a host may hold but a request may not name. -/
def unsendable : List Char := ['"', '\x60', '\x7b', '\x7d']

/-- The longest address of a request. -/
def longestAddress : Nat := 65534

/-- Whether a request may name an address. -/
def isNameable (url : Url) : Bool :=
  !url.host.any unsendable.contains && url.text.length ≤ longestAddress

def isHttp (url : Url) : Bool := url.scheme = Url.httpScheme || url.scheme = Url.httpsScheme

def isSendable (url : Url) : Bool := isHttp url && isNameable url

/-- The address of a request. Credentials that have a plain text are not part of it. -/
def address (endpoint : String) : Except NetworkFault Url :=
  match Url.read? endpoint with
  | none => .error .noAddress
  | some url =>
    let url := url.withoutCredentials
    if ¬ url.host.isEmpty ∧ isSendable url then .ok url else .error (.badAddress url.text)

/-- The address a request is sent to, if one is sent. -/
def request? (endpoint : String) : Option Url := (address endpoint).toOption

def requestLine (url : Url) : String := "GET " ++ url.target ++ " HTTP/1.1"

end QueueBoard.Endpoint
