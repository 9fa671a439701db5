import PromptGateway.Cli.Failure
import PromptGateway.Cli.Table
import PromptGateway.Service.Platforms
import PromptGateway.Service.Answers

/-! # Carrying out commands

The programs behind the commands that work on the registry. They call the services and print what
comes of it; what was printed before a failure stays.
-/

namespace PromptGateway.Cli

/-- A program that prints, and that may fail. -/
abbrev Task := ExceptT Failure Program

def serviceTask {α : Type} (a : Action α) : Task α :=
  ExceptT.mk do return (← a.run).mapError Failure.ofService

def say (text : String) : Task Unit := ExceptT.lift (Program.print text)

def addPlatform (p : Profile) : Task Unit := do
  let platform ← serviceTask (Platforms.create p)
  say ("Registered " ++ Reference.name platform.id ++
    " (" ++ platform.profile.displayName ++ ", " ++
    platform.profile.kind.label ++ ")\n")

def emptyText : String := "No AI platforms registered.\nUse 'aigw add' to register one.\n"

def moreText (token : String) : String :=
  "\nMore platforms available. Next page: --page-token " ++ token ++ "\n"

def countText (count : Nat) : String := s!"\n{count} platform(s)\n"

/-- A number of pages beyond which no listing goes. -/
def mostPages : Nat := 4294967296

/-- Prints pages; `printed` platforms have been printed before. Only `all` goes beyond one page. -/
def printPages (all : Bool) (printed : Nat) (request : PageRequest) : Nat → Task Unit
  | 0 => return ()
  | pages + 1 => do
    let page ← serviceTask (Platforms.list request)
    if printed = 0 ∧ page.items = [] then say emptyText
    else
      say ((if printed = 0 then Table.header else "") ++ String.join (page.items.map Table.row))
      let printed := printed + page.items.length
      match page.nextToken? with
      | some token =>
        if all then printPages all printed { token? := some token } pages
        else say (moreText token)
      | none => say (countText printed)

def listPlatforms (pageSize : Int64) (pageToken? : Option String) (all : Bool) : Task Unit :=
  printPages all 0 ⟨pageSize, pageToken?⟩ mostPages

def removePlatform (reference : String) : Task Unit := do
  match Reference.read reference with
  | .error fault => throw (.ofService (.ofReference fault))
  | .ok id =>
    serviceTask (Platforms.delete id)
    say ("Removed " ++ Reference.name id ++ "\n")

def askPlatform (reference prompt : String) : Task Unit := do
  match ← serviceTask (Answers.generate reference prompt false) with
  | .answered answer => say (answer ++ "\n")
  | .failed reason => throw (.platform reason)

end PromptGateway.Cli
