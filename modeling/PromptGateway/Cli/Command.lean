import PromptGateway.Platform.Profile

/-! # Commands

What a user can ask the program to do from the command line.
-/

namespace PromptGateway.Cli

inductive Command
  | serve (port : Nat) (origins : List String)
  | list (pageSize : Int64) (pageToken? : Option String) (all : Bool)
  | add (profile : Profile)
  | remove (reference : String)
  | ask (reference : String) (words : List String)
  deriving DecidableEq, Repr

structure Invocation where
  database : String
  timeoutSeconds : Nat
  isVerbose : Bool
  command? : Option Command
  deriving DecidableEq, Repr

end PromptGateway.Cli
