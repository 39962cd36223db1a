import Blockbook.Text.Basic

/-!
# Log records

What a run reports beside its result: a level and a message. A record is shown when its level is
within the limit of the run.
-/

namespace Blockbook

/-- How much a record matters, from what matters most. -/
inductive LogLevel where
  | error
  | warn
  | info
  | debug
  | trace
deriving DecidableEq, Repr

namespace LogLevel

/-- The rank of a level, the most important first. -/
def rank : LogLevel → Nat
  | .error => 1
  | .warn => 2
  | .info => 3
  | .debug => 4
  | .trace => 5

def name : LogLevel → Text
  | .error => "ERROR"
  | .warn => "WARN"
  | .info => "INFO"
  | .debug => "DEBUG"
  | .trace => "TRACE"

end LogLevel

/-- A record of the log. -/
structure LogRecord where
  level : LogLevel
  message : Text
deriving DecidableEq, Repr

end Blockbook
