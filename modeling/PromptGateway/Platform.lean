import PromptGateway.Platform.Profile

/-! # Platforms

A platform is an inference endpoint in the registry: a profile with an identity and two times. An
entry is a platform that has no identity yet, and changes say which fields of one to overwrite.
-/

namespace PromptGateway

structure Platform where
  id : Int32
  profile : Profile
  createdAt : Moment
  updatedAt : Moment
  deriving DecidableEq, Repr

/-- A platform before it has an identity. -/
structure Entry where
  profile : Profile
  createdAt : Moment
  updatedAt : Moment
  deriving DecidableEq, Repr

/-- What to overwrite in a platform; a field without a value stays as it is. -/
structure Changes where
  kind? : Option Kind := none
  url? : Option String := none
  accessKey? : Option String := none
  displayName? : Option String := none
  description? : Option String := none
  model? : Option String := none
  updatedAt : Moment
  deriving DecidableEq, Repr

def Entry.ofProfile (p : Profile) (now : Moment) : Entry := ⟨p.trimmed, now, now⟩

namespace Changes

def set (c : Changes) (p : Profile) : Field → Changes
  | .kind => { c with kind? := some p.kind }
  | .url => { c with url? := some p.url }
  | .accessKey => { c with accessKey? := some p.accessKey }
  | .displayName => { c with displayName? := some p.displayName }
  | .description => { c with description? := some p.description }
  | .model => { c with model? := some p.model }

def ofProfile (p : Profile) (fields : List Field) (updatedAt : Moment) : Changes :=
  fields.foldl (fun c f => c.set p.trimmed f) { updatedAt }

def value? (c : Changes) : Field → Option String
  | .kind => c.kind?.map Kind.tag
  | .url => c.url?
  | .accessKey => c.accessKey?
  | .displayName => c.displayName?
  | .description => c.description?
  | .model => c.model?

def apply (c : Changes) (p : Profile) : Profile :=
  { kind := c.kind?.getD p.kind, url := c.url?.getD p.url,
    accessKey := c.accessKey?.getD p.accessKey, displayName := c.displayName?.getD p.displayName,
    description := c.description?.getD p.description, model := c.model?.getD p.model }

end Changes

namespace Platform

/-- Whether calls to the platform carry a credential. -/
def hasAccessKey (p : Platform) : Bool := p.profile.accessKey != ""

def shape : Json.Shape :=
  .record "AiPlatform" false <|
    .cons "id" .required (.number .int32) <| .cons "platform_type" .required Kind.shape <|
    .cons "url" .required .text <| .cons "access_key" .required .text <|
    .cons "display_name" .required .text <| .cons "description" .required .text <|
    .cons "model" .required .text <| .cons "created_at" .required .moment <|
    .cons "updated_at" .required .moment .nil

def toCarrier (p : Platform) : shape.Carrier :=
  (p.id, p.profile.kind.toCarrier, p.profile.url, p.profile.accessKey, p.profile.displayName,
    p.profile.description, p.profile.model, p.createdAt, p.updatedAt, ())

def ofCarrier : shape.Carrier → Platform
  | (id, kind, url, accessKey, displayName, description, model, createdAt, updatedAt, ()) =>
    { id, createdAt, updatedAt,
      profile :=
        { kind := .ofCarrier kind, url, accessKey, displayName, description, model } }

end Platform

end PromptGateway
