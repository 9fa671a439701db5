import PromptGateway.Api
import PromptGateway.Client
import PromptGateway.Database

/-! # The server

The settings of a server of the API, and how it starts: it tells of its settings, opens the
registry, and looks at the origins that it shall serve.
-/

namespace PromptGateway.Server

structure Settings where
  port : Nat := 8080
  database : String := "sqlite://aigw.db"
  timeout : Duration := ⟨60, 0⟩
  origins : Api.Origins := .all
  deriving DecidableEq, Repr

def Settings.agent (s : Settings) : Client.Agent := { timeout := s.timeout }

def startEvent (s : Settings) : Event :=
  { level := .info, target := "aigw_axum::bootstrap", message := "Axum bootstrap"
    details := [("port", toString s.port),
      ("upstream_timeout_secs", toString s.timeout.seconds)] }

/-- Why a server does not start. Building one with the star among its origins halts the program. -/
inductive Fault
  | database (fault : Database.Fault)
  | starInOrigins
  deriving DecidableEq, Repr

structure Start where
  outcome : Except Fault Database.Store
  disk : Disk
  events : List Event

/-- Starts a server. Its registry is opened even if the origins turn out not to be usable. -/
def start (d : Disk) (s : Settings) : Start :=
  let opening := Database.openAddress d s.database
  { outcome := do
      let store ← opening.outcome.mapError .database
      if s.origins.isUsable then return store else throw .starInOrigins
    disk := opening.disk
    events := startEvent s :: opening.events }

end PromptGateway.Server
