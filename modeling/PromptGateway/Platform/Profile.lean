import PromptGateway.Platform.Kind

/-! # Profiles

The part of a platform that callers write: where it is, how to talk to it and what it is called. Its
fields can be named by paths, and a list of paths is a mask that selects the fields of an update.
-/

namespace PromptGateway

structure Profile where
  kind : Kind := .unspecified
  url : String := ""
  accessKey : String := ""
  displayName : String := ""
  description : String := ""
  model : String := ""
  deriving DecidableEq, Repr, Inhabited

inductive Field
  | kind
  | url
  | accessKey
  | displayName
  | description
  | model
  deriving DecidableEq, Repr

namespace Field

/-- All fields, in the order in which they are checked. -/
def all : List Field := [kind, url, accessKey, displayName, description, model]

def path : Field → String
  | kind => "platform_type"
  | url => "url"
  | accessKey => "access_key"
  | displayName => "display_name"
  | description => "description"
  | model => "model"

/-- A field that may not be blank in the registry. -/
def isRequired : Field → Bool
  | url | accessKey | displayName | model => true
  | kind | description => false

/--
The field that a path names: the path itself, or its words joined without underscores in letters of
any case. Blanks around it do not count.
-/
def ofPath? (s : String) : Option Field :=
  let given := Text.trimChars s.toList
  all.find? fun f =>
    f.path.toList == given || Text.sameIgnoringCase (f.path.toList.filter (· != '_')) given

/-- The fields that paths name, each once in the order of its first path, or the first bad path. -/
def ofPaths (named : List Field) : List String → Except String (List Field)
  | [] => .ok named
  | path :: rest =>
    match ofPath? path with
    | none => .error path
    | some f => ofPaths (if named.contains f then named else named ++ [f]) rest

end Field

namespace Profile

def value (p : Profile) : Field → String
  | .kind => p.kind.tag
  | .url => p.url
  | .accessKey => p.accessKey
  | .displayName => p.displayName
  | .description => p.description
  | .model => p.model

def blankField? (p : Profile) (fields : List Field) : Option Field :=
  fields.find? fun f => f.isRequired && Text.allBlank (p.value f)

/-- The profile as it is stored: its address is trimmed. -/
def trimmed (p : Profile) : Profile := { p with url := Text.trim p.url }

/-- The members of a profile in its JSON form, all of them optional; `key` spells their names. -/
def fields (key : Field → String) (rest : Json.Fields) : Json.Fields :=
  .cons (key .kind) .defaulted Kind.shape <| .cons (key .url) .defaulted .text <|
  .cons (key .accessKey) .defaulted .text <| .cons (key .displayName) .defaulted .text <|
  .cons (key .description) .defaulted .text <| .cons (key .model) .defaulted .text rest

def shape : Json.Shape := .record "AiPlatformInput" false (fields Field.path .nil)

def toCarrier (p : Profile) : shape.Carrier :=
  (p.kind.toCarrier, p.url, p.accessKey, p.displayName, p.description, p.model, ())

def ofCarrier : shape.Carrier → Profile
  | (kind, url, accessKey, displayName, description, model, ()) =>
    { kind := .ofCarrier kind, url, accessKey, displayName, description, model }

end Profile

end PromptGateway
