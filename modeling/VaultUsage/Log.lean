/-!
# Log records
-/

namespace VaultUsage

inductive LogLevel where
  | error
  | warn
  | info
  | debug
  deriving DecidableEq, Repr

namespace LogLevel

def name : LogLevel → String
  | error => "ERROR"
  | warn => "WARN"
  | info => "INFO"
  | debug => "DEBUG"

/-- How many levels are more urgent. -/
def rank : LogLevel → Nat
  | error => 0
  | warn => 1
  | info => 2
  | debug => 3

def admits (most level : LogLevel) : Bool := decide (level.rank ≤ most.rank)

end LogLevel

structure LogRecord where
  level : LogLevel
  message : String
  deriving DecidableEq, Repr

def LogRecord.render (r : LogRecord) : String := r.level.name ++ " " ++ r.message

end VaultUsage
