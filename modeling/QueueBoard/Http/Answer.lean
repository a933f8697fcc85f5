import QueueBoard.Http.Reply
import QueueBoard.Http.Url

/-! # Answers

A fetch asks one server after the other, as long as redirects lead from one to the next. Each of them
closes its connection or sends something, over a secure connection or not. What a location stands for and
how a text in another encoding than UTF-8 is read is up to the library that sends the requests.
-/
namespace QueueBoard.Http

/-- What a server does with one request. -/
inductive Reaction
  | closed
  /-- A well-formed head with a declared length, and the bytes that follow it. -/
  | response (status length : Nat) (body : Bytes)
  | raw (bytes : Bytes)
deriving DecidableEq, Repr

def Reaction.reply? : Reaction → Option Reply
  | closed => none
  | raw bytes => Reply.read? bytes
  | response status length body =>
    if status < 100 ∨ 999 < status then none
    else if Head.isInterim status then Reply.read? body
    else if Head.isBodiless status then some ⟨status, none, none, some []⟩
    else if Framing.lengthBound < length then none
    else some ⟨status, none, none, (Framing.sized length).body? body⟩

/-- A server that is asked, and whether it takes requests over secure connections only. -/
structure Contact where
  secure : Bool
  reaction : Reaction
deriving DecidableEq, Repr

/-- What is received from a server when it is asked for an address. -/
def Contact.reply? (contact : Contact) (url : Url) : Option Reply :=
  if contact.secure = url.isSecure then contact.reaction.reply? else none

/-- What the library that sends the requests makes of the fields of replies. -/
structure Client where
  /-- The absolute address that a location stands for if it is given at an address. -/
  target? : Url → String → Option String
  /-- How a text is read whose kind names another encoding than UTF-8. -/
  decoder? : Bytes → Option (Bytes → List Char)

/-- A client that resolves all locations and reads all texts in UTF-8. -/
def Client.standard : Client where
  target? url location := some (url.join location)
  decoder? _ := none

/-- What comes of one fetch: the servers in the order in which they are asked. One that is not there
closes its connection. -/
structure Answer where
  client : Client
  contacts : List Contact

namespace Answer

/-- The answer of one server that takes requests over plain connections. -/
def plain (reaction : Reaction) : Answer := ⟨.standard, [⟨false, reaction⟩]⟩

def closed : Answer := plain .closed

def response (status length : Nat) (body : Bytes) : Answer := plain (.response status length body)

def raw (bytes : Bytes) : Answer := plain (.raw bytes)

end Answer
end QueueBoard.Http
