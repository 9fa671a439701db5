import PromptGateway.Answer.Think
import PromptGateway.Platform.Kind

/-! # Replies

Where the answer stands in the reply of a platform: each kind of platform has one place for it.
-/

namespace PromptGateway.Reply

/-- The answer at the place where a kind of platform puts it. -/
def answer? (kind : Kind) (reply : Json.Value) : Option String :=
  match kind with
  | .unspecified => do (← reply.get? "response").string?
  | .ollama => do
    let text ← (← (← reply.get? "message").get? "content").string?
    return Think.strip text
  | .deepseek => do
    let choices ← (← reply.get? "choices").items?
    let message ← (← choices.head?).get? "message"
    (← message.get? "content").string?

def shapeMessage (kind : Kind) : String := "invalid " ++ kind.label ++ " response format"

end PromptGateway.Reply
