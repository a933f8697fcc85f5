import QueueBoard.Fetch.Outcome
import QueueBoard.Fetch.Redirects
import QueueBoard.Listing
import QueueBoard.Log
import QueueBoard.Text.Document

/-! # Fetching the jobs

The status of a reply comes before its body: any status but a success is a failure whatever the body
is, and the text of a body that is not complete is empty. The body of a success has to be complete and a
listing as a whole.
-/
namespace QueueBoard.Fetch

def isSuccess (status : Nat) : Bool := 200 ≤ status && status < 300

/-- The text of the body of a reply. -/
def text (client : Http.Client) (reply : Http.Reply) : String :=
  (reply.body.map (Document.text (reply.contentType.bind client.decoder?))).getD ""

def ofReply (client : Http.Client) (reply : Http.Reply) : Outcome :=
  if isSuccess reply.status then
    match reply.body with
    | none => .error (.network .brokenBody)
    | some body => (Listing.decode body).mapError .malformed
  else .error (.status reply.status (text client reply))

/-- The outcome of one fetch from an endpoint. -/
def jobs (endpoint : String) (answer : Http.Answer) : Outcome :=
  match receive endpoint answer with
  | .error fault => .error (.network fault)
  | .ok reply => ofReply answer.client reply

def log (endpoint : String) : Outcome → List LogLine
  | .ok jobs => [⟨.debug, "Fetched " ++ toString jobs.length ++ " job(s) from " ++ endpoint⟩]
  | .error _ => []

end QueueBoard.Fetch
