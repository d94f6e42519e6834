/-!
# Log events

What happened, how important it is, in which part of the program, and the values that go with it.
-/

namespace CaseRouting.Log

inductive Level where
  | trace
  | debug
  | info
  | warn
  | error
  deriving DecidableEq

namespace Level

def name : Level → String
  | .trace => "TRACE"
  | .debug => "DEBUG"
  | .info => "INFO"
  | .warn => "WARN"
  | .error => "ERROR"

/-- How important the level is. -/
def rank : Level → Nat
  | .trace => 0
  | .debug => 1
  | .info => 2
  | .warn => 3
  | .error => 4

end Level

/-- A value as it is shown, a text that is shown in quotes, or a count. -/
inductive Datum where
  | shown (s : String)
  | quoted (s : String)
  | count (n : Nat)
  deriving DecidableEq

structure Event where
  level : Level
  target : String
  message : String
  data : List (String × Datum)
  deriving DecidableEq

end CaseRouting.Log
