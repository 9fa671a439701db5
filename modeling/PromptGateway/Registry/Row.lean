import PromptGateway.Platform
import PromptGateway.Error

/-! # Rows

A platform as the registry stores it: the number, the two times in seconds and the kind are kept as
plain numbers and text of a wider range than a platform has, so not every row is one.
-/

namespace PromptGateway

/-- A stored row. The number and the times are within 64 bits. -/
structure Row where
  id : Int
  kindTag : String
  url : String
  accessKey : String
  displayName : String
  description : String
  model : String
  createdTs : Int
  updatedTs : Int
  deriving DecidableEq, Repr

namespace Row

def idMessage (id : Int) : String :=
  "error occurred while decoding column \"id\": " ++
    (if id < 0 then Text.IntegerFault.tooSmall else Text.IntegerFault.tooLarge).message

def number (r : Row) : Except StoreError Int32 :=
  if -2147483648 ≤ r.id ∧ r.id ≤ 2147483647 then .ok (Int32.ofInt r.id)
  else .error (.storage (idMessage r.id))

def moment (seconds : Int) : Except StoreError Moment :=
  match Moment.ofSeconds? seconds 0 with
  | some m => .ok m
  | none => .error (.decoding s!"timestamp out of range: {seconds}")

/-- The profile of a row; a kind that is not known counts as unspecified. -/
def profile (r : Row) : Profile :=
  { kind := .ofTag r.kindTag, url := r.url, accessKey := r.accessKey, displayName := r.displayName
    description := r.description, model := r.model }

def decodeAs (r : Row) (id : Int32) : Except StoreError Platform := do
  let createdAt ← moment r.createdTs
  let updatedAt ← moment r.updatedTs
  return { id, profile := r.profile, createdAt, updatedAt }

def decode (r : Row) : Except StoreError Platform := do r.decodeAs (← r.number)

/-- The platforms that rows stand for: all numbers are looked at before the first time. -/
def decodeAll (rows : List Row) : Except StoreError (List Platform) := do
  let numbered ← rows.mapM fun r => return (r, ← r.number)
  numbered.mapM fun (r, id) => r.decodeAs id

def ofEntry (e : Entry) (id : Int) : Row :=
  { id, kindTag := e.profile.kind.tag, url := e.profile.url, accessKey := e.profile.accessKey
    displayName := e.profile.displayName, description := e.profile.description
    model := e.profile.model, createdTs := e.createdAt.seconds, updatedTs := e.updatedAt.seconds }

def update (r : Row) (c : Changes) : Row :=
  { r with
    kindTag := (c.kind?.map Kind.tag).getD r.kindTag
    url := c.url?.getD r.url
    accessKey := c.accessKey?.getD r.accessKey
    displayName := c.displayName?.getD r.displayName
    description := c.description?.getD r.description
    model := c.model?.getD r.model
    updatedTs := c.updatedAt.seconds }

/-- The order of listings: the youngest first, and of the same age the higher number first. -/
def listedBefore (a b : Row) : Bool :=
  b.createdTs < a.createdTs || (a.createdTs == b.createdTs && b.id ≤ a.id)

end Row

end PromptGateway
