/-! # Failures of a fetch -/
namespace QueueBoard

/-- Why no reply could be used. -/
inductive NetworkFault
  /-- The endpoint is not an absolute address. -/
  | noAddress
  /-- The address is not one a request can be sent to. -/
  | badAddress (url : String)
  | noReply (url : String)
  /-- The server at the address leads on once too often. -/
  | redirects (url : String)
  | brokenBody
deriving DecidableEq, Repr

inductive Failure
  | network (fault : NetworkFault)
  | status (code : Nat) (body : String)
  | malformed (detail : String)
deriving DecidableEq, Repr

def NetworkFault.message : NetworkFault → String
  | noAddress => "builder error"
  | badAddress url => "builder error for url (" ++ url ++ ")"
  | noReply url => "error sending request for url (" ++ url ++ ")"
  | redirects url => "error following redirect for url (" ++ url ++ ")"
  | brokenBody => "error decoding response body"

namespace Failure

def message : Failure → String
  | network fault => "Network error: " ++ fault.message
  | status code _ => "HTTP error! status: " ++ toString code
  | malformed detail => "Failed to decode queue: " ++ detail

/-- Whether the server blames the request. -/
def isClientError : Failure → Bool
  | status code _ => 400 ≤ code && code < 500
  | _ => false

/-- Whether the server blames itself. -/
def isServerError : Failure → Bool
  | status code _ => 500 ≤ code
  | _ => false

/-- Whether the next poll may succeed with nothing changed here. -/
def isTransient : Failure → Bool
  | network _ => true
  | status code body => isServerError (status code body)
  | malformed _ => false

end Failure
end QueueBoard
