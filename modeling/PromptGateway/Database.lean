import PromptGateway.Database.Target
import PromptGateway.Disk
import PromptGateway.Event
import PromptGateway.Url

/-! # Databases

Opening the registry that an address names. A file that is not there is made, and so are the
directories on the way to it; one that is there is taken up as it was left.
-/

namespace PromptGateway.Database

inductive Fault
  | disk (fault : DiskFault)
  | zeroInPath
  | zeroInName
  | notOpened
  | foreignHost (name : String)
  | address (fault : Url.Fault)
  | unreachable
  deriving DecidableEq, Repr

/-- A reason within its frame, and after it once more by itself. -/
def twice (frame reason : String) : String := frame ++ reason ++ ": " ++ reason

def Fault.message : Fault → String
  | disk fault => fault.message
  | zeroInPath => "file name contained an unexpected NUL byte"
  | zeroInName =>
    twice "error communicating with database: "
      "filename passed to SQLite must not contain nul bytes"
  | notOpened => twice "error returned from database: " "(code: 14) unable to open database file"
  | foreignHost name =>
    twice "error returned from database: " ("(code: 1) invalid uri authority: " ++ name)
  | address fault => twice "error with configuration: " fault.message
  | unreachable => "pool timed out while waiting for an open connection"

inductive Store
  | passing
  | file (place : Place)
  deriving DecidableEq, Repr

structure Opening where
  outcome : Except Fault Store
  disk : Disk
  events : List Event

def registry (d : Disk) : Store → Registry
  | .passing => {}
  | .file place =>
    match d.node? place with
    | some (.registry g) => g
    | _ => {}

def keep (d : Disk) (g : Registry) : Store → Disk
  | .passing => d
  | .file place => d.put place (.registry g)

def openPlace (d : Disk) (place : Place) : Except Fault Store × Disk :=
  if place = [] ∨ place.any Path.isLong then (.error .notOpened, d)
  else
    match d.node? place with
    | some (.registry _) => (.ok (.file place), d)
    | some _ => (.error .notOpened, d)
    | none =>
      if d.isOpen place.dropLast then (.ok (.file place), d.put place (.registry {}))
      else (.error .notOpened, d)

def hasZero (text : String) : Bool := text.toList.contains '\x00'

/-- Opens the file of a path once the way to it is there. -/
def openSite (d : Disk) (text : String) : Except Fault Store × Disk :=
  if hasZero text then (.error .zeroInName, d)
  else
    match Site.read text with
    | .error host => (.error (.foreignHost host), d)
    | .ok .passing => (.ok .passing, d)
    | .ok (.path text) =>
      openPlace d (d.placeOf (Path.read text))

def openFile (d : Disk) (text : String) : Except Fault Store × Disk :=
  let parent := (Path.read text).parent
  if parent.names.any hasZero then (.error .zeroInPath, d)
  else
    match d.ensurePath parent with
    | (.error fault, d) => (.error (.disk fault), d)
    | (.ok (), d) => openSite d text

def path? (address : String) : Option Path :=
  match Target.read address with
  | .file path =>
    match Site.read path with
    | .ok (.path text) => some (Path.read text)
    | _ => none
  | _ => none

def beginEvent (message : String) (details : List (String × String)) : Event :=
  { level := .info, target := "aigw_db::factory", message, details }

def readyEvent (path : String) : Event :=
  { level := .debug, target := "aigw_db::setup", message := "SQLite database ready"
    details := [("path", path)] }

/-- Opens the registry that an address names. No server can be reached. -/
def openAddress (d : Disk) (address : String) : Opening :=
  match Target.read address with
  | .memory =>
    { outcome := .ok .passing, disk := d
      events := [beginEvent "Using in-memory SQLite registry" []] }
  | .server url =>
    { outcome := .error (match Url.read url with
        | .error fault => .address fault
        | .ok _ => .unreachable)
      disk := d, events := [beginEvent "Using PostgreSQL registry" []] }
  | .file path =>
    let (outcome, disk) := openFile d path
    let ready := if outcome.toBool then [readyEvent path] else []
    { outcome, disk, events := beginEvent "Using SQLite registry" [("path", path)] :: ready }

end PromptGateway.Database
