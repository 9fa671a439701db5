import PromptGateway.Text.Quoted

/-! # Events

What the program tells about its work: a level, the part that speaks, and a message with details.
-/

namespace PromptGateway

inductive Level
  | debug
  | info
  | warn
  | error
  deriving DecidableEq, Repr

def Level.rank : Level → Nat
  | .debug => 0
  | .info => 1
  | .warn => 2
  | .error => 3

def Level.name : Level → String
  | .debug => "DEBUG"
  | .info => "INFO"
  | .warn => "WARN"
  | .error => "ERROR"

structure Event where
  level : Level
  target : String
  message : String
  details : List (String × String) := []
  deriving DecidableEq, Repr

/-- The text of a truth value in an event. -/
def Event.flagText (b : Bool) : String := if b then "true" else "false"

end PromptGateway
