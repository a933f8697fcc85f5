import QueueBoard.Fetch.Jobs
import QueueBoard.Poller.Run
import QueueBoard.Screen.Drawing
import QueueBoard.Screen.Transcript
import QueueBoard.Settings

/-! # The monitor

The monitor starts with settings that keep their rules and otherwise ends at once. It draws the
loading state, starts its poller and then draws a frame after every poll. What it leaves on its outputs
follows from its environment, from what the server answers and from how time passes.
-/
namespace QueueBoard.Monitor

inductive StartError
  | settings (error : SettingsError)
  | violation (v : Violation)
  | poller (error : Poller.StartError)
deriving DecidableEq, Repr

def settings (env : Environment) : Except StartError Settings :=
  match Settings.ofEnvironment env with
  | .error e => .error (.settings e)
  | .ok s =>
    match s.violation? with
    | some v => .error (.violation v)
    | none => .ok s

def exitCode (_ : StartError) : UInt32 := 1

/-- The lines of a cause are indented. -/
def indent (text : String) : List Char :=
  "    ".toList ++ text.toList.flatMap (fun c => if c = '\n' then '\n' :: "    ".toList else [c])

/-- What is told about a failure that has a cause. -/
def causedBy (failure cause : String) : String :=
  "Error: " ++ failure ++ "\n\nCaused by:\n" ++ String.ofList (indent cause) ++ "\n"

/-- What is told about a start that failed. -/
def StartError.report : StartError → String
  | settings e => causedBy "Failed to load configuration" e.message
  | violation v => "Error: " ++ v.message ++ "\n"
  | poller e => causedBy "Failed to start queue poller" e.message

/-- The view of the settings, with local time being that of UTC. -/
def view (s : Settings) (color : Bool) : View := ⟨s.options, color, 0⟩

/-- What is drawn for the poll states one after the other. -/
def output (v : View) (ss : List PollState) : List Char := ss.flatMap v.text

/-- What a monitor leaves behind up to some time, and its exit code if it has ended by then. -/
structure Outputs where
  stdout : List Char
  stderr : String
  exitCode : Option UInt32
deriving DecidableEq, Repr

/-- The outputs of a monitor that ends because a start failed. -/
def Outputs.failed (stdout : List Char) (e : StartError) : Outputs :=
  ⟨stdout, e.report, some (Monitor.exitCode e)⟩

/-- What happens to a monitor while it runs. -/
inductive Turn
  | wait (ms : Nat)
  /-- Time passes while the monitor is not served. -/
  | stall (ms : Nat)
  /-- The server answers the request of a cycle, or the request ends without an answer. -/
  | answered (cycle : Nat) (answer : Http.Answer)

def Turn.step (endpoint : String) : Turn → Poller.Step
  | wait ms => ⟨.wait ms, true⟩
  | stall ms => ⟨.stall ms, true⟩
  | answered cycle answer => ⟨.release cycle (Fetch.jobs endpoint answer), true⟩

/-- The answer to the request of a cycle, unless it takes its time. -/
def scripted (endpoint : String) : Option Http.Answer → Poller.Scripted
  | some answer => .now (Fetch.jobs endpoint answer)
  | none => .wait

/-- The poller of a monitor, with the answers to its cycles in their order. -/
def poller (s : Settings) (clock : Nat) (answers : List (Option Http.Answer)) : Poller :=
  .new clock (answers.map (scripted (Endpoint.trim s.queueUrl))) []

/-- All steps of the poller. -/
def steps (s : Settings) (turns : List Turn) : List Poller.Step :=
  ⟨.start s.pollInterval, true⟩ :: turns.map (Turn.step (Endpoint.trim s.queueUrl))

/-- The monitor draws the poll state before it starts its poller, and then every state that it is told. -/
def run (env : Environment) (color : Bool) (clock : Nat) (answers : List (Option Http.Answer))
    (turns : List Turn) : Outputs :=
  match settings env with
  | .error e => .failed [] e
  | .ok s =>
    let v := view s color
    let p := poller s clock answers
    match p.startError? (.start s.pollInterval) with
    | some e => .failed (v.text p.published) (.poller e)
    | none => ⟨output v (p.published :: (p.run (steps s turns)).flatMap (·.notices)), "", none⟩

end QueueBoard.Monitor
