import PromptGateway.Program

/-! # Keeping platforms

The service through which callers create, read, list, change and delete platforms. It checks what
they ask for, names the operation when the registry fails, and tells of what it has done.
-/

namespace PromptGateway.Platforms

def event (level : Level) (message : String) (details : List (String × String)) : Event :=
  { level, target := "aigw.registry", message, details }

/-- A call on the registry in the course of a named operation. -/
def store (operation : String) (c : Call) : Action c.Result :=
  ExceptT.mk do return (← Program.store c).mapError (.ofStore operation)

def note (level : Level) (message : String) (details : List (String × String)) : Action Unit :=
  ExceptT.lift (Program.note (event level message details))

def requiredMessage (f : Field) : String := f.path ++ " is required"

/-- Fails at the first required field among some that is blank. -/
def requireFields (p : Profile) (fields : List Field) : Action Unit :=
  match p.blankField? fields with
  | some f => throw (.invalid (requiredMessage f))
  | none => return ()

def create (p : Profile) : Action Platform := do
  requireFields p Field.all
  let now ← ExceptT.lift Program.now
  let created ← store "create AI platform" (.insert (.ofProfile p now))
  note .info "AI platform created"
    [("id", toString created.id.toInt), ("platform_type", created.profile.kind.tag)]
  return created

def get (id : Int32) : Action Platform := store s!"get AI platform {id.toInt}" (.get id)

def list (request : PageRequest) : Action (Page Platform) := do
  let cursor ← match request.cursor with
    | .ok cursor => pure cursor
    | .error fault => throw (.ofToken fault)
  let rows ← store "list AI platforms" (.find (.ofCursor cursor))
  let page := Page.ofRows rows cursor
  note .debug "Listed AI platforms"
    [("limit", toString cursor.limit.toNat), ("offset", toString cursor.offset.toNat),
      ("returned", toString page.items.length),
      ("has_more", Event.flagText page.nextToken?.isSome)]
  return page

/--
The fields that a mask selects. No mask selects all fields, but then a blank credential means that
the one in the registry is kept.
-/
def maskedFields (p : Profile) (mask : List String) : Except ServiceError (List Field) :=
  if mask.isEmpty then
    .ok (Field.all.filter fun f => f ≠ .accessKey || !Text.allBlank p.accessKey)
  else
    (Field.ofPaths [] mask).mapError fun path =>
      .invalid ("unsupported update mask path: " ++ path)

/-- Overwrites the fields that a mask selects. The platform never seems older than it is. -/
def update (id : Int32) (p : Profile) (mask : List String) : Action Platform := do
  let fields ← maskedFields p mask
  let operation := s!"update AI platform {id.toInt}"
  let existing ← store operation (.get id)
  let now ← ExceptT.lift Program.now
  let changes := Changes.ofProfile p fields (now.latest existing.createdAt)
  requireFields p fields
  note .debug "Updating AI platform"
    [("id", toString id.toInt), ("fields", Text.quotedList (fields.map Field.path))]
  let updated ← store operation (.update id changes)
  note .info "AI platform updated" [("id", toString id.toInt)]
  return updated

def delete (id : Int32) : Action Unit := do
  store s!"delete AI platform {id.toInt}" (.delete id)
  note .info "AI platform deleted" [("id", toString id.toInt)]

end PromptGateway.Platforms
