/-! # Log lines -/
namespace QueueBoard

inductive Level
  | debug
  | info
  | warn
deriving DecidableEq, Repr

structure LogLine where
  level : Level
  text : String
deriving DecidableEq, Repr

def Level.text : Level → String
  | debug => "DEBUG"
  | info => "INFO"
  | warn => "WARN"

def LogLine.line (l : LogLine) : String := l.level.text ++ " " ++ l.text

end QueueBoard
