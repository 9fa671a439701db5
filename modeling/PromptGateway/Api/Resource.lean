import PromptGateway.Platform
import PromptGateway.Platform.Reference
import PromptGateway.Page

/-! # Resources

The JSON forms in which the API shows platforms and takes requests. A platform is shown without its
credential; that it has one is told.
-/

namespace PromptGateway.Api

open Json (Shape)

structure PlatformView where
  name : String
  id : Int32
  kind : Kind
  url : String
  hasAccessKey : Bool
  displayName : String
  description : String
  model : String
  createTime : Int64
  updateTime : Int64
  deriving DecidableEq, Repr

namespace PlatformView

/-- The view of a platform, its times in seconds. -/
def of (p : Platform) : PlatformView :=
  { name := Reference.name p.id, id := p.id, kind := p.profile.kind, url := p.profile.url
    hasAccessKey := p.hasAccessKey, displayName := p.profile.displayName
    description := p.profile.description, model := p.profile.model
    createTime := Int64.ofInt p.createdAt.seconds, updateTime := Int64.ofInt p.updatedAt.seconds }

def shape : Shape :=
  .record "PlatformDto" false <|
    .cons "name" .required .text <| .cons "id" .required (.number .int32) <|
    .cons "platformType" .required Kind.shape <| .cons "url" .required .text <|
    .cons "hasAccessKey" .required .flag <| .cons "displayName" .required .text <|
    .cons "description" .required .text <| .cons "model" .required .text <|
    .cons "createTime" .required (.number .int64) <|
    .cons "updateTime" .required (.number .int64) .nil

def toCarrier (v : PlatformView) : shape.Carrier :=
  (v.name, v.id, v.kind.toCarrier, v.url, v.hasAccessKey, v.displayName, v.description, v.model,
    v.createTime, v.updateTime, ())

def ofCarrier : shape.Carrier → PlatformView
  | (name, id, kind, url, hasAccessKey, displayName, description, model, createTime, updateTime,
      ()) =>
    { name, id, kind := .ofCarrier kind, url, hasAccessKey, displayName, description, model,
      createTime, updateTime }

def text (v : PlatformView) : String := shape.write v.toCarrier

end PlatformView

structure Listing where
  platforms : List PlatformView
  nextPageToken? : Option String
  deriving DecidableEq, Repr

namespace Listing

def of (page : Page Platform) : Listing := ⟨page.items.map PlatformView.of, page.nextToken?⟩

def shape : Shape :=
  .record "ListPlatformsResponse" false <|
    .cons "platforms" .required (.list PlatformView.shape) <|
    .cons "nextPageToken" .defaulted (.optional .text) .nil

def toCarrier (l : Listing) : shape.Carrier :=
  (l.platforms.map PlatformView.toCarrier, l.nextPageToken?, ())

def ofCarrier : shape.Carrier → Listing
  | (platforms, token, ()) => ⟨platforms.map PlatformView.ofCarrier, token⟩

def text (l : Listing) : String := shape.write l.toCarrier

end Listing

def profileKey : Field → String
  | .kind => "platformType"
  | .url => "url"
  | .accessKey => "accessKey"
  | .displayName => "displayName"
  | .description => "description"
  | .model => "model"

def profileShape : Shape :=
  .record "PlatformInputDto" false (Profile.fields profileKey .nil)

def profileOf : profileShape.Carrier → Profile
  | (kind, url, accessKey, displayName, description, model, ()) =>
    { kind := .ofCarrier kind, url, accessKey, displayName, description, model }

/-- The JSON form of an update: the new values, and the paths of the fields to write. -/
def updateShape : Shape :=
  .record "UpdatePlatformRequest" false <|
    .cons "platform" .required profileShape <|
    .cons "updateMask" .defaulted (.list .text) .nil

/-- The JSON form of a prompt to a platform that the address names. -/
def promptShape : Shape :=
  .record "GenerateAnswerRequest" false <| .cons "prompt" .required .text .nil

/-- The JSON form of a prompt to a platform that the request names. -/
def namedPromptShape : Shape :=
  .record "GenerateByNameRequest" false <|
    .cons "name" .required .text <| .cons "prompt" .required .text .nil

end PromptGateway.Api
