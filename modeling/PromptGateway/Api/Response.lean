import PromptGateway.Api.Request
import PromptGateway.Error

/-! # Responses

The responses of the API: the views of what was asked for, and failures as JSON with their status.
Whether a browser may hand a response on to the page that asked is told by the headers of origins.
-/

namespace PromptGateway.Api

/-- A response. The names of headers are in small letters. -/
structure Response where
  status : Nat
  headers : List (String × String) := []
  body : String := ""
  deriving DecidableEq, Repr

namespace Response

def json (status : Nat) (body : String) : Response :=
  { status, headers := [("content-type", "application/json")], body }

def plain (status : Nat) (body : String) : Response :=
  { status, headers := [("content-type", "text/plain; charset=utf-8")], body }

def headOnly (r : Response) : Response := { r with body := "" }

def adding (r : Response) (headers : List (String × String)) : Response :=
  { r with headers := r.headers ++ headers }

end Response

inductive Failure
  | badRequest (reason : String)
  | notFound (reason : String)
  | internal (reason : String)
  deriving DecidableEq, Repr

namespace Failure

def ofService (e : ServiceError) : Failure :=
  match e.cls with
  | .invalidArgument => badRequest e.message
  | .notFound => notFound e.message
  | .internal => internal e.message

def status : Failure → Nat
  | badRequest _ => 400
  | notFound _ => 404
  | internal _ => 500

def reason : Failure → String
  | badRequest reason | notFound reason | internal reason => reason

def message : Failure → String
  | badRequest reason => "Bad request: " ++ reason
  | notFound reason => "Not found: " ++ reason
  | internal reason => "Internal error: " ++ reason

def shape : Json.Shape :=
  .record "Failure" false <|
    .cons "error" .required .text <| .cons "status" .required (.number .word32) .nil

def text (f : Failure) : String := shape.write (f.reason, UInt32.ofNat f.status, ())

def response (f : Failure) : Response := .json f.status f.text

end Failure

/-! ## Origins -/

inductive Origins
  | all
  | only (origins : List String)
  deriving DecidableEq, Repr

namespace Origins

/-- Whether origins can be served. A list names single origins, so the star may not stand in it. -/
def isUsable : Origins → Bool
  | all => true
  | only origins => !origins.contains "*"

/-- Whether pages of an origin may see responses. What cannot stand in a header is no origin. -/
def allows (o : Origins) (origin : String) : Bool :=
  match o with
  | all => true
  | only origins => (origins.filter isHeaderValue).contains origin

def allowHeader (o : Origins) (origin? : Option String) : List (String × String) :=
  match o, origin? with
  | all, _ => [("access-control-allow-origin", "*")]
  | only _, some origin =>
    if o.allows origin then [("access-control-allow-origin", origin)] else []
  | only _, none => []

def varyHeader : String × String :=
  ("vary", "origin, access-control-request-method, access-control-request-headers")

def mark (o : Origins) (r : Request) (response : Response) : Response :=
  response.adding (varyHeader :: o.allowHeader (r.header? "origin"))

/-- The response to a browser that asks before it sends a request: every request is allowed. -/
def preflight (o : Origins) (r : Request) (methods : List String) : Response :=
  o.mark r
    { status := 200
      headers := [("access-control-allow-methods", "*"), ("access-control-allow-headers", "*"),
        ("allow", String.intercalate "," methods)] }

end Origins

end PromptGateway.Api
