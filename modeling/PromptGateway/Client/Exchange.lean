import PromptGateway.Client
import PromptGateway.Encoding.Charset
import PromptGateway.MediaType

/-! # Exchanges

A request and what the other end makes of it: the reply that arrives in time and as a whole, or the
failure that the caller is told.
-/

namespace PromptGateway.Client

/-- A reply as it is put on the line. Its announced length may differ from that of its body. -/
structure RawReply where
  status : Nat
  headers : List (String × String) := []
  body : List UInt8
  length : Nat
  deriving DecidableEq, Repr

/--
The other end of a connection: how many milliseconds it waits when it has read a request, what it
writes then, and how long it waits after that before it hangs up.
-/
structure Peer where
  before : Nat := 0
  reply? : Option RawReply := none
  after : Nat := 0
  deriving DecidableEq, Repr

/-- What a reply's status says about its body. -/
inductive Framing
  | unreadable
  | preliminary
  | empty
  | announced
  deriving DecidableEq, Repr

/-- The framing of the replies with a status. A status has three digits. -/
def Framing.ofStatus (status : Nat) : Framing :=
  if status < 100 ∨ 999 < status then unreadable
  else if [101, 204, 304].contains status then empty
  else if status < 200 then preliminary
  else announced

def charsetLabel? (headers : List (String × String)) : Option String := do
  let (_, value) ← headers.find? fun (name, _) => Text.lower name == "content-type"
  let value := (Text.trim value).toList
  if isHeaderText value then (← MediaType.read? value).parameter? "charset" else none

def RawReply.reply (r : RawReply) (body : List UInt8) : PostReply :=
  { status := r.status, body := Charset.decodeLabelled (charsetLabel? r.headers) body }

/-- Fails with a timeout if a moment, in milliseconds after the request, comes too late. -/
def Agent.inTime {α : Type} (a : Agent) (moment : Nat) (outcome : Except CallError α) :
    Except CallError α :=
  if a.timeout.toMillis ≤ moment then .error (.timeout a.timeout) else outcome

def Agent.receive (a : Agent) (m : Message) (peer : Peer) : Except CallError PostReply :=
  let hungUp := peer.before + peer.after
  let cut := a.inTime hungUp (.error (lost m.url "connection closed before message completed"))
  match peer.reply? with
  | none => cut
  | some r =>
    a.inTime peer.before <|
      match Framing.ofStatus r.status with
      | .unreadable => .error (lost m.url "invalid HTTP status-code parsed")
      | .preliminary =>
        if r.body = [] then cut else .error (lost m.url "invalid HTTP version parsed")
      | .empty => .ok (r.reply [])
      | .announced =>
        if r.length ≤ r.body.length then .ok (r.reply (r.body.take r.length))
        else
          a.inTime hungUp (.error (.body ("request or response body error: " ++
            "error reading a body from connection: end of file before message length reached")))

def callEvents : Except CallError PostReply → List Event
  | .ok r =>
    [{ level := .debug, target := "aigw.gateway", message := "Upstream call completed"
       details := [("status", toString r.status), ("body_len", toString r.body.utf8ByteSize)] }]
  | .error _ => []

end PromptGateway.Client
