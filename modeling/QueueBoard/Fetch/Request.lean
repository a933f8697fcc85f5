import QueueBoard.Fetch.Endpoint
import QueueBoard.Text.Base64

/-! # Requests

What is sent over a connection of its own, and where the connection goes. Credentials of an endpoint
are sent in a field and not in the address. A request that a redirect leads to tells where it comes from.
-/
namespace QueueBoard

/-- The host and service number to connect to; a bracketed host is given without its brackets. -/
def Url.destination? (url : Url) : Option (String × Nat) := do
  let authority ← url.authority
  let service ← authority.service <|> Url.defaultService? url.scheme
  return (String.ofList (authority.host.filter (fun c => c ≠ '[' && c ≠ ']')), service)

namespace Endpoint

/-- The field for a user and a secret. -/
def authorization : String × Option String → String
  | (user, secret) =>
    "authorization: Basic " ++ String.ofList (Base64.encode (bytesOf (user ++ ":" ++ secret.getD "")))
      ++ "\r\n"

/-- The field for the credentials of an endpoint, if it has any. -/
def credentialsField (endpoint : String) : String :=
  match (Url.read? endpoint).bind (·.authority) with
  | some a => (a.credentials.plain?.map authorization).getD ""
  | none => ""

/-- The field that tells which address a redirect has come from. A connection that is not secure is told of
no address of one that is. -/
def refererField (source target : Url) : String :=
  if source.isSecure ∧ ¬ target.isSecure then ""
  else
    let source : Url := { source with
      authority := source.authority.map (fun a => ⟨.none, a.host, a.service⟩)
      fragment := none }
    "referer: " ++ source.text ++ "\r\n"

/-- The request for an address, with some fields in front of its own ones. -/
def request (fields : String) (url : Url) : String :=
  requestLine url ++ "\r\n" ++ fields ++ "accept: */*\r\nhost: "
    ++ String.ofList ((url.authority.map (·.destination)).getD []) ++ "\r\nconnection: close\r\n\r\n"

end Endpoint
end QueueBoard
