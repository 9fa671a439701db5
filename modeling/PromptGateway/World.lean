import PromptGateway.Program
import PromptGateway.Registry

/-! # The world of a program

The surroundings in which a program runs: a registry, a clock, the platforms, and what has been
told, sent and written so far. Every effect is one step of the world.
-/

namespace PromptGateway

/-- What a world can be made to do instead of what is asked. -/
structure Fault where
  method : Method
  error : StoreError
  deriving DecidableEq, Repr

/-- The platforms behind a world: replies that were agreed on, or a rule that finds the outcome. -/
inductive Endpoint
  | script (outcomes : List Outcome)
  | rule (outcome : Post → Outcome)

def Endpoint.ask (e : Endpoint) (p : Post) : Outcome × Endpoint :=
  match e with
  | .script [] => (.failed (.connect "script is empty"), .script [])
  | .script (outcome :: rest) => (outcome, .script rest)
  | .rule outcome => (outcome p, .rule outcome)

structure World where
  registry : Registry := {}
  clock : Moment := Moment.epoch
  endpoint : Endpoint := .script []
  faults : List Fault := []
  events : List Event := []
  sent : List Post := []
  output : String := ""

namespace World

/-- The answer of a registry, which a fault replaces without touching the rows. -/
def askRegistry (w : World) (c : Call) : Except StoreError c.Result × World :=
  match w.faults.find? (·.method == c.method) with
  | some fault => (.error fault.error, w)
  | none =>
    let (answer, registry) := w.registry.perform c
    (answer, { w with registry })

def perform : (e : Effect) → World → e.Answer × World
  | .store c, w => w.askRegistry c
  | .post p, w =>
    let (outcome, endpoint) := w.endpoint.ask p
    (outcome, { w with endpoint, sent := w.sent ++ [p] })
  | .now, w => (w.clock, w)
  | .note e, w => ((), { w with events := w.events ++ [e] })
  | .print text, w => ((), { w with output := w.output ++ text })

end World

def Program.runIn {α : Type} (p : Program α) (w : World) : α × World := p.run World.perform w

def Action.runIn {α : Type} (a : Action α) (w : World) : Except ServiceError α × World :=
  Program.runIn a.run w

end PromptGateway
