import PromptGateway.Registry
import PromptGateway.Text.Search

/-! # Disks

The part of a disk that the gateway sees: directories, and files that hold registries. Directories
are made on the way to a file; names that lead upwards are followed as far as the root.
-/

namespace PromptGateway

/-- A place on a disk: the names that lead to it from the root. -/
abbrev Place := List String

/-- What stands at a place. Nothing can be made in a sealed directory. -/
inductive Node
  | directory
  | sealed
  | registry (g : Registry)
  deriving Repr

structure Disk where
  nodes : List (Place × Node) := [(["proc"], .sealed), (["home"], .directory)]
  home : Place := ["home"]

inductive DiskFault
  | missing
  | taken
  | notDirectory
  | longName
  deriving DecidableEq, Repr

def DiskFault.message : DiskFault → String
  | .missing => "No such file or directory (os error 2)"
  | .taken => "File exists (os error 17)"
  | .notDirectory => "Not a directory (os error 20)"
  | .longName => "File name too long (os error 36)"

/-- A path: names that lead on from the root or from the working directory. -/
structure Path where
  isAbsolute : Bool
  names : List String
  deriving DecidableEq, Repr

namespace Path

/-- Reads a path. Repeated slashes and names that lead nowhere do not count. -/
def read (text : String) : Path :=
  { isAbsolute := text.startsWith "/"
    names := ((Text.splitAt '/' text.toList).map String.ofList).filter fun name =>
      name ≠ "" && name ≠ "." }

def text (p : Path) : String :=
  (if p.isAbsolute then "/" else "") ++ String.intercalate "/" p.names

def parent (p : Path) : Path := { p with names := p.names.dropLast }

def longestName : Nat := 255

def isLong (name : String) : Bool := longestName < name.utf8ByteSize

/-- One step along a path that looks at the names alone. -/
def step (place : Place) (name : String) : Place :=
  if name = ".." then place.dropLast else place ++ [name]

/-- The place to which a path leads from a starting point if its names alone are looked at. -/
def place (p : Path) (start : Place) : Place := p.names.foldl step start

end Path

namespace Disk

/-- What stands at a place. The root is a directory. -/
def node? (d : Disk) (place : Place) : Option Node :=
  if place = [] then some .directory else (d.nodes.find? (·.1 == place)).map (·.2)

def isDirectory (d : Disk) (place : Place) : Bool :=
  match d.node? place with
  | some .directory | some .sealed => true
  | _ => false

def isOpen (d : Disk) (place : Place) : Bool :=
  match d.node? place with
  | some .directory => true
  | _ => false

/-- Puts something at a place, where it replaces what stands there. -/
def put (d : Disk) (place : Place) (node : Node) : Disk :=
  { d with nodes := d.nodes.filter (·.1 != place) ++ [(place, node)] }

def start (d : Disk) (p : Path) : Place := if p.isAbsolute then [] else d.home

/-- Follows names from a place. Each of them but the last has to lead to a directory. -/
def walk (d : Disk) (place : Place) : List String → Except DiskFault Place
  | [] => .ok place
  | name :: rest =>
    match d.node? place with
    | none => .error .missing
    | some (.registry _) => .error .notDirectory
    | some _ =>
      if Path.isLong name then .error .longName else d.walk (Path.step place name) rest

def make (d : Disk) (start : Place) (names : List String) : Except DiskFault Disk := do
  let place ← d.walk start names
  if (d.node? place).isSome then throw .taken
  if d.isOpen place.dropLast then return d.put place .directory else throw .missing

/-- Makes one directory, with which it is content if the directory is there already. -/
def ensure (d : Disk) (start : Place) (names : List String) : Except DiskFault Unit × Disk :=
  match d.make start names with
  | .ok d => (.ok (), d)
  | .error fault =>
    match d.walk start names with
    | .ok place => (if d.isDirectory place then .ok () else .error fault, d)
    | .error _ => (.error fault, d)

/--
Makes a directory together with those on the way to it, whose names come in reverse. The directory
itself is tried first, and only if the way to it is missing are the ones before it made.
-/
def ensureAll (d : Disk) (start : Place) : List String → Except DiskFault Unit × Disk
  | [] => (.ok (), d)
  | name :: front =>
    let names := (name :: front).reverse
    match d.make start names with
    | .error .missing =>
      match d.ensureAll start front with
      | (.ok (), d) => d.ensure start names
      | failure => failure
    | _ => d.ensure start names

def ensurePath (d : Disk) (p : Path) : Except DiskFault Unit × Disk :=
  d.ensureAll (d.start p) p.names.reverse

/-- The name of a place within the working directory; the names of directories end in a slash. -/
def entry? (d : Disk) (place : Place) (node : Node) : Option String :=
  if place.take d.home.length = d.home ∧ d.home.length < place.length then
    let name := String.intercalate "/" (place.drop d.home.length)
    match node with
    | .registry _ => some name
    | _ => some (name ++ "/")
  else none

def placeOf (d : Disk) (p : Path) : Place := p.place (d.start p)

def withFile (d : Disk) (p : Path) (g : Registry) : Disk :=
  (d.ensurePath p.parent).2.put (d.placeOf p) (.registry g)

def registry? (d : Disk) (p : Path) : Option Registry :=
  match d.node? (d.placeOf p) with
  | some (.registry g) => some g
  | _ => none

def listing (d : Disk) : List String :=
  (d.nodes.filterMap fun (place, node) => d.entry? place node).mergeSort (· ≤ ·)

end Disk

end PromptGateway
