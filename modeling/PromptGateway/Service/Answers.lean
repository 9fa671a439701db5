import PromptGateway.Program
import PromptGateway.Answer.Reply

/-! # Answering prompts

The gateway between callers and platforms: it looks up the platform, sends it the prompt and takes
the answer out of the reply. Trouble with the platform is a result like any other; only a bad
reference and a failing registry are failures.
-/

namespace PromptGateway.Answers

def event (level : Level) (message : String) (details : List (String × String)) : Event :=
  { level, target := "aigw.gateway", message, details }

def okStatus : Nat := 200

def request (p : Platform) (prompt : String) : Post :=
  { url := Text.trim p.profile.url
    bearer? := if p.hasAccessKey then some p.profile.accessKey else none
    body := .ofPrompt p.profile.model prompt }

def resultOf (kind : Kind) (r : PostReply) : AnswerResult :=
  if r.status ≠ okStatus then
    .failed s!"AI platform returned error status: {r.status}, body: {r.body}"
  else
    match Json.Value.read (.ofString r.body) with
    | .error failure => .failed ("Failed to parse response: " ++ failure.message)
    | .ok reply =>
      match Reply.answer? kind reply with
      | some answer => .answered answer
      | none => .failed ("Failed to parse response: " ++ Reply.shapeMessage kind)

/-- What is told of a reply of which the result is known. -/
def replyEvents (id : Int32) (r : PostReply) (result : AnswerResult) : List Event :=
  if r.status ≠ okStatus then
    [event .warn "AI platform returned error status"
      [("platform_id", toString id.toInt), ("status", toString r.status)]]
  else
    match result with
    | .answered answer =>
      [event .debug "AI platform answered"
        [("platform_id", toString id.toInt), ("answer_len", toString answer.utf8ByteSize)]]
    | .failed _ => []

def cancelled (id : Int32) : Program AnswerResult := do
  Program.note (event .debug "Answer request cancelled" [("platform_id", toString id.toInt)])
  return .failed "Request cancelled"

def ask (p : Platform) (prompt : String) : Program AnswerResult := do
  Program.note (event .debug "Posting prompt to AI platform"
    [("platform_id", toString p.id.toInt), ("platform_type", p.profile.kind.tag),
      ("url", p.profile.url), ("model", p.profile.model)])
  match ← Program.post (request p prompt) with
  | .interrupted => cancelled p.id
  | .failed e =>
    Program.note (event .warn "AI platform request failed"
      [("platform_id", toString p.id.toInt), ("error", e.message)])
    return .failed e.message
  | .reply r =>
    let result := resultOf p.profile.kind r
    (replyEvents p.id r result).forM Program.note
    return result

/--
Answers a prompt through the platform that a reference names. A request that the caller has given up
before is not sent, but its reference is still followed.
-/
def generate (reference prompt : String) (givenUp : Bool) : Action AnswerResult := do
  let id ← match Reference.read reference with
    | .ok id => pure id
    | .error fault => throw (.ofReference fault)
  let platform ← ExceptT.mk do return (← Program.store (.get id)).mapError ServiceError.store
  ExceptT.lift (if givenUp then cancelled id else ask platform prompt)

end PromptGateway.Answers
