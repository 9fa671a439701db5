import PromptGateway.Json.Shape

/-! # Chat requests and their results

The request that is sent to a platform: a model and the messages it should continue, of which there
is one, the prompt of the user. The result is an answer or the reason why there is none.
-/

namespace PromptGateway

structure ChatMessage where
  role : String
  content : String
  deriving DecidableEq, Repr

namespace ChatMessage

def shape : Json.Shape :=
  .record "ChatMessage" false <|
    .cons "role" .required .text <| .cons "content" .required .text .nil

def toCarrier (m : ChatMessage) : shape.Carrier := (m.role, m.content, ())

def ofCarrier : shape.Carrier → ChatMessage
  | (role, content, ()) => ⟨role, content⟩

end ChatMessage

structure ChatRequest where
  model : String
  messages : List ChatMessage
  stream : Bool
  deriving DecidableEq, Repr

namespace ChatRequest

def userRole : String := "user"

/-- The request with one message of the user, the reply to which is wanted in one piece. -/
def ofPrompt (model prompt : String) : ChatRequest := ⟨model, [⟨userRole, prompt⟩], false⟩

def shape : Json.Shape :=
  .record "ChatRequest" false <|
    .cons "model" .required .text <| .cons "messages" .required (.list ChatMessage.shape) <|
    .cons "stream" .required .flag .nil

def toCarrier (r : ChatRequest) : shape.Carrier :=
  (r.model, r.messages.map ChatMessage.toCarrier, r.stream, ())

def ofCarrier : shape.Carrier → ChatRequest
  | (model, messages, stream, ()) => ⟨model, messages.map ChatMessage.ofCarrier, stream⟩

def text (r : ChatRequest) : String := shape.write r.toCarrier

end ChatRequest

inductive AnswerResult
  | answered (answer : String)
  | failed (reason : String)
  deriving DecidableEq, Repr

namespace AnswerResult

/-- The JSON form of a result, which has room for both an answer and a reason. -/
def shape : Json.Shape :=
  .record "AnswerResultWire" false <|
    .cons "success" .required .flag <| .cons "answer" .defaulted (.optional .text) <|
    .cons "errorMessage" .defaulted (.optional .text) .nil

def toCarrier : AnswerResult → shape.Carrier
  | answered answer => (true, some answer, none, ())
  | failed reason => (false, none, some reason, ())

/-- The wording for members that are no result. -/
def mixedMessage : String := "answer result must carry exactly one of answer or errorMessage"

/-- The result with some members: a success has an answer only, and a failure a reason only. -/
def ofCarrier : shape.Carrier → Except String AnswerResult
  | (true, some answer, none, ()) => .ok (answered answer)
  | (false, none, some reason, ()) => .ok (failed reason)
  | _ => .error mixedMessage

def read (c : Json.Cursor) : Except Json.Failure AnswerResult := do
  let (members, c) ← shape.read Json.maxDepth c
  let result ← (ofCarrier members).mapError fun reason => { flaw := .refused reason }
  Json.atEnd c
  return result

def text (r : AnswerResult) : String := shape.write r.toCarrier

def isSuccess : AnswerResult → Bool
  | answered _ => true
  | failed _ => false

def answer? : AnswerResult → Option String
  | answered answer => some answer
  | failed _ => none

def reason? : AnswerResult → Option String
  | answered _ => none
  | failed reason => some reason

end AnswerResult

end PromptGateway
