import PromptGateway.MediaType
import PromptGateway.Program
import PromptGateway.Url

/-! # The client

What the gateway puts on the line to ask a platform, and the requests that it refuses because their
address or their credential cannot be written down.
-/

namespace PromptGateway.Client

/-- The sender of requests: how long a request may take, and the name that the sender gives. -/
structure Agent where
  timeout : Duration := ⟨60, 0⟩
  name : String := "aigw/0.3.0"
  deriving DecidableEq, Repr

def headerMessage : String := "builder error: failed to parse header value"

def Agent.nameMessage : String := "failed to create HTTP client: " ++ headerMessage

def Agent.isUsable (a : Agent) : Bool := isHeaderValue a.name

structure Message where
  url : Url
  line : String
  headers : List (String × String)
  body : String
  deriving DecidableEq, Repr

inductive Refusal
  | address (fault : Url.Fault)
  | scheme (url : Url)
  | header
  | length (url : Url)
  deriving DecidableEq, Repr

def Refusal.message : Refusal → String
  | address fault => "builder error: " ++ fault.message
  | scheme url => "builder error for url (" ++ url.text ++ "): URL scheme is not allowed"
  | header => headerMessage
  | length url => "builder error for url (" ++ url.text ++ "): Parsed Url is not a valid Uri"

def schemes : List String := ["http", "https"]

/-- The number of characters from which on an address is too long to be asked for. -/
def longestUrl : Nat := 65534

def credential (bearer? : Option String) : List (String × String) :=
  match bearer? with
  | some token => [("authorization", "Bearer " ++ token)]
  | none => []

/-- Writes down a request. A name and a password in the address are not part of it. -/
def Agent.message (a : Agent) (p : Post) : Except Refusal Message := do
  let url ← (Url.read p.url).mapError .address
  if !url.hasHost then throw (.scheme url)
  let url := url.withoutUser
  if !(credential p.bearer?).all fun (_, value) => isHeaderValue value then throw .header
  if !schemes.contains url.scheme then throw (.scheme url)
  if longestUrl < url.text.length then throw (.length url)
  let body := p.body.text
  return { url, body
           line := "POST " ++ url.requestTarget ++ " HTTP/1.1"
           headers := [("content-type", "application/json")] ++ credential p.bearer? ++
             [("accept", "*/*"), ("user-agent", a.name),
               ("host", (url.host?.map fun host => Url.authorityText host url.port?).getD ""),
               ("content-length", toString body.utf8ByteSize)] }

def Refusal.failure (r : Refusal) : CallError := .connect r.message

def lost (url : Url) (reason : String) : CallError :=
  .connect ("error sending request for url (" ++ url.text ++ "): " ++ reason)

/-- What becomes of a request where nobody listens. -/
def Agent.unheard (a : Agent) (p : Post) : Outcome :=
  match a.message p with
  | .error refusal => .failed refusal.failure
  | .ok message =>
    .failed (lost message.url
      "error trying to connect: tcp connect error: Connection refused (os error 111)")

end PromptGateway.Client
