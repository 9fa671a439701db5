import PromptGateway.Api.Resource
import PromptGateway.Api.Response
import PromptGateway.Service.Platforms
import PromptGateway.Service.Answers

/-! # The API

The program that answers a request: the route and the method decide which service is asked, and its
outcome becomes the response.
-/

namespace PromptGateway.Api

abbrev Handler := ExceptT Failure Program

def serve {α : Type} (a : Action α) : Handler α :=
  ExceptT.mk do return (← a.run).mapError Failure.ofService

def understood {α : Type} (r : Except String α) : Handler α :=
  match r with
  | .ok a => return a
  | .error reason => throw (.badRequest reason)

def platformNumber (reference : String) : Handler Int32 :=
  match Reference.read reference with
  | .ok id => return id
  | .error fault => throw (.ofService (.ofReference fault))

def listPlatforms (query? : Option (List Char)) : Handler Response := do
  let request ← understood (pageRequest query?)
  let page ← serve (Platforms.list request)
  return .json 200 (Listing.of page).text

def createPlatform (r : Request) : Handler Response := do
  let members ← understood (r.json profileShape)
  let platform ← serve (Platforms.create (profileOf members))
  return .json 200 (PlatformView.of platform).text

def showPlatform (reference : String) : Handler Response := do
  let id ← platformNumber reference
  let platform ← serve (Platforms.get id)
  return .json 200 (PlatformView.of platform).text

def changePlatform (reference : String) (r : Request) : Handler Response := do
  let id ← platformNumber reference
  let (profile, mask, ()) ← understood (r.json updateShape)
  let platform ← serve (Platforms.update id (profileOf profile) mask)
  return .json 200 (PlatformView.of platform).text

def removePlatform (reference : String) : Handler Response := do
  let id ← platformNumber reference
  serve (Platforms.delete id)
  return { status := 204 }

def answerPrompt (reference prompt : String) : Handler Response := do
  let result ← serve (Answers.generate reference prompt false)
  return .json 200 result.text

def answerAt (reference : String) (r : Request) : Handler Response := do
  let (prompt, ()) ← understood (r.json promptShape)
  answerPrompt reference prompt

def answerNamed (r : Request) : Handler Response := do
  let (reference, prompt, ()) ← understood (r.json namedPromptShape)
  answerPrompt reference prompt

/-- The response of a handler; that the service itself is to blame is told as an event. -/
def respond (h : Handler Response) : Program Response := do
  match ← h.run with
  | .ok response => return response
  | .error (.internal reason) =>
    Program.note { level := .error, target := "aigw_axum::error", message := "Request failed"
                   details := [("error", reason)] }
    return (Failure.internal reason).response
  | .error failure => return failure.response

/-- Goes on with the reference of a path, if its bytes are text. -/
def withReference (reference : List Char) (h : String → Handler Response) : Program Response :=
  match decodeReference? reference with
  | some reference => respond (h reference)
  | none => return .plain 400 "Invalid URL: Invalid UTF-8 in `ref`"

/-- Answers a request whose method the route takes; a request for the head alone asks as for all. -/
def answerRoute (r : Request) (query? : Option (List Char)) (method : String) :
    Route → Program Response
  | .health => return .plain 200 "OK"
  | .platforms =>
    if method = "POST" then respond (createPlatform r) else respond (listPlatforms query?)
  | .platform reference =>
    withReference reference fun reference =>
      if method = "PATCH" then changePlatform reference r
      else if method = "DELETE" then removePlatform reference
      else showPlatform reference
  | .answers reference => withReference reference fun reference => answerAt reference r
  | .namedAnswers => respond (answerNamed r)

def methodRefused (route : Route) : Response :=
  { status := 405, headers := [("allow", String.intercalate "," route.methods)] }

def answer (origins : Origins) (r : Request) : Program Response := do
  let target := Target.of r.target
  match Route.ofPath? target.path with
  | none => return { status := 404 }
  | some route =>
    if r.method = "OPTIONS" ∧ route ≠ .health then
      return origins.preflight r route.methods
    let mark (response : Response) : Response :=
      if route = .health then response else origins.mark r response
    if route.methods.contains r.method then
      let response ← answerRoute r target.query? r.method route
      return mark (if r.method = "HEAD" then response.headOnly else response)
    else return mark (methodRefused route)

end PromptGateway.Api
