import QueueBoard.Board.Item
import QueueBoard.Fetch.Endpoint
import QueueBoard.Text.Blank
import QueueBoard.Text.Numeral
import QueueBoard.Text.Utf8

/-! # Settings

The settings are read from five environment variables. A variable that is not set or not UTF-8 leaves
its default, and so does a number that cannot be read; a visual mode has to be one of the two.
-/
namespace QueueBoard

structure Settings where
  queueUrl : String
  /-- In milliseconds, as is the next one. -/
  pollInterval : Nat
  requestTimeout : Nat
  maxLabelLength : Nat
  visualMode : VisualMode
deriving DecidableEq, Repr

/-- The values of the variables that are set. -/
structure Environment where
  queueUrl : Option Bytes
  pollInterval : Option Bytes
  requestTimeout : Option Bytes
  maxLabelLength : Option Bytes
  visualMode : Option Bytes
deriving DecidableEq, Repr

/-- The mode is neither of the two, written here without blanks around it and in lower case. -/
inductive SettingsError
  | unknownMode (mode : String)
deriving DecidableEq, Repr

def SettingsError.message : SettingsError → String
  | unknownMode mode => "VISUAL_MODE must be `mapped` or `plain`, got `" ++ mode ++ "`"

inductive Violation
  | emptyUrl
  | badScheme
  | zeroInterval
  | zeroTimeout
  | zeroLabelLength
deriving DecidableEq, Repr

def Violation.message : Violation → String
  | emptyUrl => "queue_url cannot be empty"
  | badScheme => "queue_url must start with http:// or https://"
  | zeroInterval => "poll_interval must be greater than 0"
  | zeroTimeout => "request_timeout must be greater than 0"
  | zeroLabelLength => "max_label_length must be greater than 0"

namespace Settings

def default : Settings := ⟨Endpoint.standard, 3000, 10000, Label.defaultLimit, .mapped⟩

def options (s : Settings) : RenderOptions := ⟨s.maxLabelLength, s.visualMode⟩

/-- The text of a variable. -/
def text? (value : Option Bytes) : Option String := value.bind Utf8.text?

def number (value : Option Bytes) (fallback : Nat) : Nat :=
  ((text? value).bind (Numeral.bounded? Numeral.wordBound)).getD fallback

/-- A text without blanks around it and in lower case, as far as it is ASCII. -/
def modeName (text : String) : String :=
  String.ofList ((Blank.trim text.toList).map Char.toLower)

def mode (value : Option Bytes) : Except SettingsError VisualMode :=
  match text? value with
  | none => .ok .mapped
  | some text =>
    if modeName text = "mapped" then .ok .mapped
    else if modeName text = "plain" then .ok .plain
    else .error (.unknownMode (modeName text))

def ofEnvironment (env : Environment) : Except SettingsError Settings :=
  (mode env.visualMode).map (fun mode =>
    { queueUrl := (text? env.queueUrl).getD default.queueUrl
      pollInterval := number env.pollInterval default.pollInterval
      requestTimeout := number env.requestTimeout default.requestTimeout
      maxLabelLength := number env.maxLabelLength default.maxLabelLength
      visualMode := mode })

def hasScheme (url : String) : Bool :=
  ['h', 't', 't', 'p', ':', '/', '/'].isPrefixOf url.toList
    || ['h', 't', 't', 'p', 's', ':', '/', '/'].isPrefixOf url.toList

/-- The first rule the settings do not keep. -/
def violation? (s : Settings) : Option Violation :=
  if s.queueUrl = "" then some .emptyUrl
  else if ¬ hasScheme s.queueUrl then some .badScheme
  else if s.pollInterval = 0 then some .zeroInterval
  else if s.requestTimeout = 0 then some .zeroTimeout
  else if s.maxLabelLength = 0 then some .zeroLabelLength
  else none

end Settings
end QueueBoard
