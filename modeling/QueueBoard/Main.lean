import QueueBoard.Fetch.Request
import QueueBoard.Monitor
import QueueBoard.Poller.Run
import Std.Async.DNS
import Std.Async.TCP
import Std.Time.Zoned

/-! # The program

Reads its settings from the environment, polls the endpoint and prints a frame after every poll until
it is interrupted. What is decided is decided by the poller and the monitor; here are the clock, the
connections and the output.
-/
namespace QueueBoard.Program

/-- Milliseconds of Unix time. -/
def now : IO Nat := do
  return (← Std.Time.Timestamp.now).toMillisecondsSinceUnixEpoch.val.toNat

def environment : IO Environment := do
  let value (name : String) : IO (Option Bytes) := return (← IO.getEnv name).map bytesOf
  return ⟨← value "QUEUE_URL", ← value "POLL_INTERVAL_MS", ← value "REQUEST_TIMEOUT_MS",
    ← value "MAX_LABEL_LENGTH", ← value "VISUAL_MODE"⟩

/-- The minutes of local time east of UTC, or zero where the zone is not known. -/
def offset : IO Int := do
  try
    let rules ← Std.Time.Database.defaultGetLocalZoneRules
    return (rules.timezoneAt (← Std.Time.Timestamp.now)).offset.second.val / 60
  catch _ => return 0

/-- Colours can be forced and forbidden; otherwise a terminal gets them. -/
def usesColor : IO Bool := do
  if (← IO.getEnv "CLICOLOR_FORCE").any (· ≠ "0") then return true
  if (← IO.getEnv "NO_COLOR").isSome || (← IO.getEnv "CLICOLOR") = some "0" then return false
  (← IO.getStdout).isTty

partial def receive (socket : Std.Async.TCP.Socket.Client) (got : ByteArray) :
    Std.Async.Async ByteArray := do
  match ← socket.recv? 65536 with
  | some more => receive socket (got ++ more)
  | none => return got

def socketAddress (service : UInt16) : Std.Net.IPAddr → Std.Net.SocketAddress
  | .v4 a => .v4 ⟨a, service⟩
  | .v6 a => .v6 ⟨a, service⟩

/-- One request over a connection of its own, and all that is sent back. -/
def exchange (fields : String) (url : Url) : IO Http.Reaction := do
  let some (host, service) := url.destination? | return .closed
  let addresses ← (Std.Async.DNS.getAddrInfo host "").block
  for a in addresses do
    try
      let socket ← Std.Async.TCP.Socket.Client.mk
      (socket.connect (socketAddress (UInt16.ofNat service) a)).block
      (socket.send (Endpoint.request fields url).toUTF8).block
      return .raw (← (receive socket .empty).block).toList
    catch _ => continue
  return .closed

/-- The server of an address and those that redirects lead to. No connection is a secure one. -/
def visit (credentials fields : String) : Nat → Url → IO (List Http.Contact)
  | room, url => do
    let reaction ← if url.isSecure then pure .closed
      else try exchange (credentials ++ fields) url catch _ => pure .closed
    let contact : Http.Contact := ⟨false, reaction⟩
    match (contact.reply? url).bind (Fetch.next? .standard url), room with
    | some target, room + 1 =>
      let credentials := if url.destination? = target.destination? then credentials else ""
      return contact :: (← visit credentials (Endpoint.refererField url target) room target)
    | _, _ => return [contact]

/-- The answer to one fetch from an endpoint. -/
def ask (endpoint : String) : IO Http.Answer := do
  match Endpoint.request? endpoint with
  | none => return .closed
  | some url => return ⟨.standard, ← visit (Endpoint.credentialsField endpoint) "" Fetch.redirectBound url⟩

def draw (view : View) (s : PollState) : IO Unit := do
  let out ← IO.getStdout
  try
    out.write ⟨(view.draw .none s).bytes.toArray⟩
    out.flush
  catch _ => return

/-- A fetch that has begun: its cycle, the time it has to end by and its answer. -/
structure Pending where
  cycle : Nat
  deadline : Nat
  answer : Task (Except IO.Error Http.Answer)

/-- The answer of a fetch that has ended; one that takes too long ends without an answer. -/
def Pending.ended? (p : Pending) (time : Nat) : IO (Option Http.Answer) := do
  if ← IO.hasFinished p.answer then
    match p.answer.get with
    | .ok answer => return some answer
    | .error _ => return some .closed
  return if p.deadline ≤ time then some .closed else none

def cycleOf? : Poller.Event → Option Nat
  | .issued cycle _ _ _ => some cycle
  | _ => none

partial def loop (settings : Settings) (view : View) (poller : Poller) (pending : List Pending) :
    IO Unit := do
  let endpoint := Endpoint.trim settings.queueUrl
  let time ← now
  let mut p := poller
  let mut answers := []
  let mut waiting := []
  for fetch in pending do
    match ← fetch.ended? time with
    | some answer =>
      let (q, a) := p.step ⟨.release fetch.cycle (Fetch.jobs endpoint answer), true⟩
      p := q
      answers := answers ++ [a]
    | none => waiting := waiting ++ [fetch]
  let (q, a) := p.step ⟨.stall (time - p.clock), true⟩
  for a in answers ++ [a] do
    for s in a.notices do draw view s
  for cycle in a.trace.filterMap cycleOf? do
    waiting := waiting ++ [⟨cycle, time + settings.requestTimeout, ← IO.asTask (ask endpoint)⟩]
  let pause := min 20 ((q.due?.getD time) - time)
  IO.sleep (UInt32.ofNat (max 1 pause))
  loop settings view q waiting

def run (settings : Settings) : IO UInt32 := do
  let view := { Monitor.view settings (← usesColor) with offset := ← offset }
  let poller := Monitor.poller settings (← now) []
  let start := Poller.Action.start settings.pollInterval
  draw view poller.published
  match poller.startError? start with
  | some e =>
    IO.eprint (Monitor.StartError.poller e).report
    return Monitor.exitCode (.poller e)
  | none =>
    loop settings view (poller.step ⟨start, false⟩).1 []
    return 0

end QueueBoard.Program

def main : IO UInt32 := do
  match QueueBoard.Monitor.settings (← QueueBoard.Program.environment) with
  | .error e =>
    IO.eprint e.report
    return QueueBoard.Monitor.exitCode e
  | .ok settings => QueueBoard.Program.run settings
