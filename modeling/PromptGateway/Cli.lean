import PromptGateway.Cli.Arguments
import PromptGateway.Cli.Perform
import PromptGateway.Server
import PromptGateway.World

/-! # The command line

One run of the program: what it prints, how it ends, and the disk after it.
-/

namespace PromptGateway.Cli

def usage : String :=
  "Register AI platforms and ask them questions\n\n" ++
  "Usage: aigw [OPTIONS] [COMMAND]\n\n" ++
  "Commands:\n" ++
  "  serve   Run the HTTP API server\n" ++
  "  list    List registered platforms\n" ++
  "  add     Register a platform\n" ++
  "  remove  Delete a platform\n" ++
  "  ask     Ask a platform a question\n" ++
  "  help    Print this message or the help of the given subcommand(s)\n"

def versionText : String := "aigw 0.3.0\n"

def servingText (port : Nat) : String := s!"Starting aigw API on port {port}\n"

/-- How a run of the program ends. One that halts ends where it stands, and gives no reason. -/
inductive Ending
  | done
  | failed (failure : Failure)
  | halted
  deriving DecidableEq, Repr

namespace Ending

def ofFailure? (failure? : Option Failure) : Ending := (failure?.map failed).getD done

def ofStart {α : Type} : Except Server.Fault α → Ending
  | .ok _ => done
  | .error (.database fault) => failed (.ofOpening fault)
  | .error .starInOrigins => halted

def reason? : Ending → Option String
  | failed failure => some failure.message
  | done | halted => none

def exitCode : Ending → Nat
  | done => 0
  | failed failure => failure.exitCode
  | halted => 101

end Ending

structure Report where
  output : String
  ending : Ending := .done
  disk : Disk

/-- The program of a command. A server needs no registry that has been opened before. -/
def Command.task : Command → Task Unit
  | .serve port _ => say (servingText port)
  | .list pageSize pageToken? all => listPlatforms pageSize pageToken? all
  | .add profile => addPlatform profile
  | .remove reference => removePlatform reference
  | .ask reference words => askPlatform reference (String.intercalate " " words)

def failureOf {α : Type} : Except Failure α → Option Failure
  | .ok _ => none
  | .error failure => some failure

/-- The settings of a server for some origins; without any, all origins are allowed. -/
def serverSettings (database : String) (timeout : Duration) (port : Nat) (origins : List String) :
    Server.Settings :=
  { port, database, timeout, origins := if origins = [] then .all else .only origins }

/-- Serves until the user stops it, which is a success. -/
def serve (s : Server.Settings) (d : Disk) : Report :=
  let start := Server.start d s
  { output := servingText s.port, disk := start.disk
    ending := .ofStart start.outcome }

/-- The world in which commands work on a registry. Nobody listens to what they send. -/
def worldOf (g : Registry) (timeout : Duration) (clock : Moment) : World :=
  { registry := g, clock, endpoint := .rule (Client.Agent.unheard { timeout }) }

def withRegistry (database : String) (timeout : Duration) (clock : Moment) (t : Task Unit)
    (d : Disk) : Report :=
  let opening := Database.openAddress d database
  match opening.outcome with
  | .error fault =>
    { output := "", disk := opening.disk, ending := .failed (.ofOpening fault) }
  | .ok store =>
    let w := worldOf (Database.registry opening.disk store) timeout clock
    let (outcome, w) := Program.runIn t.run w
    { output := w.output, ending := .ofFailure? (failureOf outcome)
      disk := Database.keep opening.disk w.registry store }

def Invocation.run (i : Invocation) (clock : Moment) (d : Disk) : Report :=
  let timeout : Duration := ⟨i.timeoutSeconds, 0⟩
  match i.command? with
  | none => { output := usage, disk := d }
  | some (.serve port origins) => serve (serverSettings i.database timeout port origins) d
  | some command => withRegistry i.database timeout clock command.task d

end PromptGateway.Cli
