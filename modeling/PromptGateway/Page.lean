import PromptGateway.Encoding.Base64Url
import PromptGateway.Json.Shape
import PromptGateway.Text.Blank

/-! # Pages

A listing is cut into pages. A cursor says where a page begins and how long it may be; it travels
between caller and service as an opaque token. Each page is fetched with one row more than it may
hold, and that row tells whether another page follows.
-/

namespace PromptGateway

/-- Where a page begins and how many rows it may hold. -/
structure PageCursor where
  limit : UInt32
  offset : UInt32
  deriving DecidableEq, Repr

namespace PageCursor

def defaultSize : UInt32 := 10

def maxSize : UInt32 := 1000

def first (size : Int64) : PageCursor :=
  { limit :=
      if size ≤ 0 then defaultSize
      else if size ≤ 1000 then UInt32.ofNat size.toInt.toNat
      else maxSize
    offset := 0 }

/-- A sum, or the largest number of 32 bits where the sum is larger. -/
def saturatingAdd (a b : UInt32) : UInt32 := UInt32.ofNat (min (a.toNat + b.toNat) 4294967295)

def next (c : PageCursor) : PageCursor := { c with offset := saturatingAdd c.offset c.limit }

def fetchLimit (c : PageCursor) : UInt32 := saturatingAdd c.limit 1

/-- The JSON form of a cursor, which may hold nothing else. -/
def shape : Json.Shape :=
  .record "PageCursor" true <|
    .cons "limit" .required (.number .word32) <| .cons "offset" .required (.number .word32) .nil

def toCarrier (c : PageCursor) : shape.Carrier := (c.limit, c.offset, ())

def ofCarrier : shape.Carrier → PageCursor
  | (limit, offset, ()) => ⟨limit, offset⟩

def token (c : PageCursor) : String :=
  Base64Url.encode (Utf8.encodeChars (shape.chars c.toCarrier))

inductive TokenFault
  | encoding (fault : Base64Url.Fault)
  | payload (failure : Json.Failure)
  | zeroLimit

def TokenFault.message : TokenFault → String
  | .encoding fault => "page token is not valid base64: " ++ fault.message
  | .payload failure => "page token has an invalid payload: " ++ failure.message
  | .zeroLimit => "page token limit must be positive"

/-- The cursor of a token; blanks around the token do not count. -/
def ofToken (s : String) : Except TokenFault PageCursor := do
  let bytes ← (Base64Url.decode (Utf8.encode (Text.trim s))).mapError .encoding
  let members ← (shape.readAll (.ofBytes bytes)).mapError .payload
  let cursor := ofCarrier members
  if cursor.limit = 0 then throw .zeroLimit
  return cursor

end PageCursor

/-- What a caller asks for: a size, or the token of a page that was announced before. -/
structure PageRequest where
  size : Int64 := 0
  token? : Option String := none
  deriving DecidableEq, Repr

/-- The cursor of a request; a token that is blank counts as none. -/
def PageRequest.cursor (r : PageRequest) : Except PageCursor.TokenFault PageCursor :=
  match r.token? with
  | some token =>
    if Text.allBlank token then .ok (.first r.size) else PageCursor.ofToken token
  | none => .ok (.first r.size)

/-- Some rows of a listing, and the token of the page after them. -/
structure Page (α : Type) where
  items : List α
  nextToken? : Option String
  deriving Repr

/-- The page that the rows fetched for a cursor make up. -/
def Page.ofRows {α : Type} (rows : List α) (c : PageCursor) : Page α :=
  if c.limit.toNat < rows.length then
    { items := rows.take c.limit.toNat, nextToken? := some c.next.token }
  else { items := rows, nextToken? := none }

end PromptGateway
