import PromptGateway.Cli
import PromptGateway.Cli.Variables
import PromptGateway.Registry.Saved
import Std.Time.DateTime.Timestamp

/-! # The program

What the program takes from its surroundings and leaves there: the arguments, the environment, the
clock, and the file in which the registry is kept from one run to the next.
-/

namespace PromptGateway.Cli

def readEnvironment : IO Environment := do
  let set ← Flag.environmentNames.filterMapM fun name => do
    return (← IO.getEnv name).map (name, ·)
  try return Variables.apply set (← IO.FS.readFile ".env")
  catch _ => return set

def readClock : IO Moment := do
  let nanos := (← Std.Time.Timestamp.now).toNanosecondsSinceUnixEpoch.val
  return (Moment.ofSeconds? (nanos / 1000000000) (nanos % 1000000000).toNat).getD default

def readDisk (path : Path) : IO Disk := do
  try
    match Registry.read (← IO.FS.readFile path.text) with
    | .ok g => return ({} : Disk).withFile path g
    | .error _ => return {}
  catch _ => return {}

def writeDisk (path : Path) (d : Disk) : IO Unit := do
  if let some g := d.registry? path then
    if path.parent.names ≠ [] then IO.FS.createDirAll path.parent.text
    IO.FS.writeFile path.text g.text

def perform (i : Invocation) : IO UInt32 := do
  let path? := Database.path? i.database
  let disk ← (path?.map readDisk).getD (pure {})
  let report := i.run (← readClock) disk
  IO.print report.output
  if let some path := path? then writeDisk path report.disk
  if let some reason := report.ending.reason? then IO.eprintln ("Error: " ++ reason)
  return UInt32.ofNat report.ending.exitCode

def runArguments (arguments : List String) : IO UInt32 := do
  match readArguments (← readEnvironment) arguments with
  | .ok i => perform i
  | .error refusal =>
    if refusal = .help then IO.print usage
    else if refusal = .version then IO.print versionText
    else IO.eprintln refusal.message
    return UInt32.ofNat refusal.exitCode

end PromptGateway.Cli

def main (arguments : List String) : IO UInt32 := PromptGateway.Cli.runArguments arguments
