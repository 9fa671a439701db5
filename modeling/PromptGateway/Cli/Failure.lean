import PromptGateway.Database
import PromptGateway.Error

/-! # Failures of commands

How a command that fails is told to the user, and the code with which the program ends.
-/

namespace PromptGateway.Cli

inductive Failure
  | arguments (reason : String)
  | notFound (reason : String)
  | database (reason : String)
  | platform (reason : String)
  | other (reason : String)
  deriving DecidableEq, Repr

namespace Failure

def ofService (e : ServiceError) : Failure :=
  match e.cls with
  | .invalidArgument => arguments e.message
  | .notFound => notFound e.message
  | .internal => database e.message

def ofOpening (fault : Database.Fault) : Failure := other fault.message

def message : Failure → String
  | arguments reason => "Invalid arguments: " ++ reason
  | database reason => "Database error: " ++ reason
  | notFound reason | platform reason | other reason => reason

def exitCode : Failure → Nat
  | arguments _ => 64
  | platform _ => 69
  | database _ => 73
  | notFound _ | other _ => 1

end Failure

end PromptGateway.Cli
