import PromptGateway.Platform.Reference
import PromptGateway.Page
import PromptGateway.Duration

/-! # Errors

The ways in which the registry and the services fail, their wordings, and the three classes by which
the front ends tell them apart.
-/

namespace PromptGateway

inductive StoreError
  | notFound (what : String)
  | storage (reason : String)
  | decoding (reason : String)
  deriving DecidableEq, Repr

def StoreError.message : StoreError → String
  | .notFound what => "Not found: " ++ what
  | .storage reason => "Storage error: " ++ reason
  | .decoding reason => "Serialization error: " ++ reason

inductive ServiceError
  | store (error : StoreError)
  | invalid (reason : String)
  | internal (reason : String)
  deriving DecidableEq, Repr

/-- Who is to blame: the caller, a platform that is not there, or the service itself. -/
inductive ErrorClass
  | invalidArgument
  | notFound
  | internal
  deriving DecidableEq, Repr

namespace ServiceError

def message : ServiceError → String
  | store error => error.message
  | invalid reason => "Validation error: " ++ reason
  | internal reason => "Internal error: " ++ reason

def cls : ServiceError → ErrorClass
  | store (.notFound _) => .notFound
  | store _ | internal _ => .internal
  | invalid _ => .invalidArgument

/-- The failure of a caller who refers to no platform. -/
def ofReference (fault : Reference.Fault) : ServiceError := invalid fault.message

/-- The failure of a caller whose page token is none. -/
def ofToken (fault : PageCursor.TokenFault) : ServiceError :=
  invalid ("invalid page token: " ++ fault.message)

/-- The failure of an operation on the registry: what is not found is told as such. -/
def ofStore (operation : String) : StoreError → ServiceError
  | .notFound what => store (.notFound what)
  | error => internal ("failed to " ++ operation ++ ": " ++ error.message)

end ServiceError

/-- The failures of a call to a platform. A reply is none, whatever its status. -/
inductive CallError
  | timeout (limit : Duration)
  | connect (reason : String)
  | body (reason : String)
  deriving DecidableEq, Repr

def CallError.message : CallError → String
  | .timeout limit => "AI platform request timed out after " ++ limit.text
  | .connect reason => "Failed to connect to AI platform: " ++ reason
  | .body reason => "Failed to read response: " ++ reason

end PromptGateway
