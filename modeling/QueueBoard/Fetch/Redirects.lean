import QueueBoard.Fetch.Endpoint
import QueueBoard.Http.Answer

/-! # Redirects

A server may lead on to another address, where the request is repeated, and so on. The reply that leads
nowhere is the one that is received. A location that stands for no address a request may name leads
nowhere, one of another protocol and one too many of them end the fetch.
-/
namespace QueueBoard.Fetch

/-- How often a server may lead on. -/
def redirectBound : Nat := 10

/-- The statuses that tell to repeat a request at another address. -/
def redirectStatuses : List Nat := [301, 302, 303, 307, 308]

/-- Where the reply from an address leads. -/
def next? (client : Http.Client) (url : Url) (reply : Http.Reply) : Option Url :=
  if redirectStatuses.contains reply.status then do
    let location ← Utf8.text? (← reply.location)
    let target ← Url.read? (← client.target? url location)
    if Endpoint.isNameable target then some target else none
  else none

/-- The reply that is received in the end, when the server at an address is asked first and `room`
redirects may be followed. -/
def follow (client : Http.Client) : Nat → Url → List Http.Contact → Except NetworkFault Http.Reply
  | room, url, contacts =>
    match contacts.head?.bind (·.reply? url) with
    | none => .error (.noReply url.text)
    | some reply =>
      match next? client url reply, room with
      | none, _ => .ok reply
      | some _, 0 => .error (.redirects url.text)
      | some target, room + 1 =>
        if Endpoint.isHttp target then follow client room target contacts.tail
        else .error (.badAddress target.text)

/-- The reply to a fetch from an endpoint. -/
def receive (endpoint : String) (answer : Http.Answer) : Except NetworkFault Http.Reply :=
  match Endpoint.address endpoint with
  | .error fault => .error fault
  | .ok url => follow answer.client redirectBound url answer.contacts

end QueueBoard.Fetch
