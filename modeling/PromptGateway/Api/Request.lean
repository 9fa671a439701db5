import PromptGateway.Encoding.Percent
import PromptGateway.MediaType
import PromptGateway.Json.Shape
import PromptGateway.Page

/-! # Requests

A request to the API, and what the API takes out of it: the route that its target leads to, the
values of its query, and the JSON of its body.
-/

namespace PromptGateway.Api

/-- A request. The names of headers are in small letters. -/
structure Request where
  method : String
  target : String
  headers : List (String × String) := []
  body : List UInt8 := []
  deriving Repr

def Request.header? (r : Request) (name : String) : Option String :=
  (r.headers.find? (·.1 == name)).map (·.2)

/-! ## Targets -/

/-- The path of a target and its query, without scheme, host and fragment. -/
structure Target where
  path : List Char
  query? : Option (List Char)
  deriving Repr

def fromPath (target : List Char) : List Char :=
  match target with
  | '/' :: _ => target
  | _ =>
    match Text.cut? "://".toList target with
    | some (_, rest) =>
      match rest.dropWhile fun c => c != '/' && c != '?' && c != '#' with
      | '/' :: path => '/' :: path
      | other => '/' :: other
    | none => target

def Target.of (target : String) : Target :=
  let text := (Text.spanUntil (· == '#') (fromPath target.toList)).1
  match Text.cutAt? '?' text with
  | some (path, query) => ⟨path, some query⟩
  | none => ⟨text, none⟩

/-- What the API has. The references to platforms are as they stand in the path. -/
inductive Route
  | health
  | platforms
  | platform (reference : List Char)
  | answers (reference : List Char)
  | namedAnswers
  deriving DecidableEq, Repr

def Route.ofSegments? : List String → Option Route
  | ["ai-platforms"] => some .platforms
  | ["ai-platforms", reference] =>
    if reference = "" then none else some (.platform reference.toList)
  | ["ai-platforms", reference, "generate"] =>
    if reference = "" then none else some (.answers reference.toList)
  | ["generate"] => some .namedAnswers
  | _ => none

def Route.ofPath? (path : List Char) : Option Route :=
  match (Text.splitAt '/' path).map String.ofList with
  | ["", "health"] => some .health
  | "" :: "api" :: segments => ofSegments? segments
  | _ => none

def Route.methods : Route → List String
  | .health => ["GET", "HEAD"]
  | .platforms => ["GET", "HEAD", "POST"]
  | .platform _ => ["GET", "HEAD", "PATCH", "DELETE"]
  | .answers _ | .namedAnswers => ["POST"]

/-- A reference in a path, if its bytes are text. -/
def decodeReference? (reference : List Char) : Option String :=
  Utf8.decode? (Percent.decode (Utf8.encodeChars reference))

/-! ## Queries -/

structure ListingQuery where
  size? : Option Int64 := none
  token? : Option String := none
  deriving Repr

def queryMessage (reason : String) : String := "Failed to deserialize query string: " ++ reason

/-- Takes in one more value. Each may be given once. -/
def ListingQuery.take (q : ListingQuery) : String × String → Except String ListingQuery
  | ("pageSize", value) =>
    match q.size?, Text.readInt64 value.toList with
    | some _, _ => .error (queryMessage "duplicate field `pageSize`")
    | none, .ok size => .ok { q with size? := some size }
    | none, .error fault => .error (queryMessage ("pageSize: " ++ fault.message))
  | ("pageToken", value) =>
    match q.token? with
    | some _ => .error (queryMessage "duplicate field `pageToken`")
    | none => .ok { q with token? := some value }
  | _ => .ok q

def pageRequest (query? : Option (List Char)) : Except String PageRequest := do
  let q ← (Percent.decodeForm (query?.getD [])).foldlM ListingQuery.take {}
  return { size := q.size?.getD 0, token? := q.token? }

/-! ## Bodies -/

def maxBodySize : Nat := 2097152

def Request.isJson (r : Request) : Bool :=
  match r.header? "content-type" with
  | some value =>
    isHeaderText value.toList && ((MediaType.read? value.toList).map MediaType.isJson).getD false
  | none => false

/-- The wording for JSON that is not understood: whether it is none, or holds the wrong data. -/
def bodyMessage (failure : Json.Failure) : String :=
  (if failure.flaw.concernsData then "Failed to deserialize the JSON body into the target type: "
    else "Failed to parse the request body as JSON: ") ++ failure.locatedMessage

def Request.json (r : Request) (s : Json.Shape) : Except String s.Carrier :=
  if !r.isJson then .error "Expected request with `Content-Type: application/json`"
  else if maxBodySize < r.body.length then
    .error "Failed to buffer the request body: length limit exceeded"
  else (s.readAll (.ofBytes r.body)).mapError bodyMessage

end PromptGateway.Api
