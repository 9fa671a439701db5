import PromptGateway.Proofs.Secrecy.Front

/-! # Sessions that keep credentials to themselves

A session is a sequence of requests and commands to one registry. Whoever sees all that the program
responds, prints and tells cannot find out which credentials the platforms have, as long as the
platforms themselves do not give them away.
-/

namespace PromptGateway

inductive Demand
  | request (origins : Api.Origins) (r : Api.Request)
  | command (c : Cli.Command)

inductive Demand.Result
  | response (r : Api.Response)
  | ended (failure? : Option Cli.Failure)

def Demand.program : Demand → Program Demand.Result
  | request origins r => .response <$> Api.answer origins r
  | command c => (fun outcome => .ended (Cli.failureOf outcome)) <$> c.task.run

theorem Demand.alike_program (d : Demand) : d.program.Alike Eq d.program := by
  cases d with
  | request origins r =>
    refine (Api.alike_answer r origins).bind ?_
    rintro response _ rfl
    exact .done rfl
  | command c =>
    refine (Cli.alike_task c).bind fun o o' ho => ?_
    rw [ho.eq]
    exact .done rfl

/-- A demand, the reading of the clock when it comes, and the faults that it meets. -/
structure Turn where
  demand : Demand
  clock : Moment
  faults : List Fault

structure Turn.Record where
  result : Demand.Result
  events : List Event
  output : String
  sent : List Post

/-- Equality of records but for the credentials of requests to platforms. -/
structure Turn.Record.Alike (a b : Turn.Record) : Prop where
  result : a.result = b.result
  events : a.events = b.events
  output : a.output = b.output
  sent : List.Forall₂ Post.Alike a.sent b.sent

namespace World

variable {w w' : World}

def facing (w : World) (t : Turn) : World :=
  { w with clock := t.clock, faults := t.faults, events := [], output := "", sent := [] }

theorem Alike.facing (h : w.Alike w') (t : Turn) : (w.facing t).Alike (w'.facing t) :=
  { h with clock := rfl, faults := rfl, events := rfl, output := rfl, sent := .nil }

def turn (w : World) (t : Turn) : Turn.Record × World :=
  let (result, w) := t.demand.program.runIn (w.facing t)
  (⟨result, w.events, w.output, w.sent⟩, w)

def session (w : World) : List Turn → List Turn.Record × World
  | [] => ([], w)
  | t :: turns =>
    let (record, w) := w.turn t
    let (records, w) := w.session turns
    (record :: records, w)

theorem Alike.turn (h : w.Alike w') (t : Turn) :
    (w.turn t).1.Alike (w'.turn t).1 ∧ (w.turn t).2.Alike (w'.turn t).2 := by
  obtain ⟨hr, hw⟩ := t.demand.alike_program.runIn (h.facing t)
  exact ⟨⟨hr, hw.events, hw.output, hw.sent⟩, hw⟩

theorem Alike.session (h : w.Alike w') (turns : List Turn) :
    List.Forall₂ Turn.Record.Alike (w.session turns).1 (w'.session turns).1 ∧
      (w.session turns).2.Alike (w'.session turns).2 := by
  induction turns generalizing w w' with
  | nil => exact ⟨.nil, h⟩
  | cons t turns ih =>
    obtain ⟨hr, hw⟩ := h.turn t
    obtain ⟨hrs, hw⟩ := ih hw
    exact ⟨.cons hr hrs, hw⟩

end World

/--
Registries that differ in credentials only cannot be told apart. In every session with platforms
that reply without regard to credentials, all responses, outputs, exit codes and events are the
same, requests to platforms differ in credentials only, and so do the registries in the end.
-/
theorem World.session_keeps_credentials {g g' : Registry} (hg : g.Alike g') {e : Endpoint}
    (he : e.IgnoresBearer) (turns : List Turn) :
    List.Forall₂ Turn.Record.Alike (World.session { registry := g, endpoint := e } turns).1
      (World.session { registry := g', endpoint := e } turns).1 ∧
    (World.session { registry := g, endpoint := e } turns).2.registry.Alike
      (World.session { registry := g', endpoint := e } turns).2.registry := by
  have hw : World.Alike { registry := g, endpoint := e } { registry := g', endpoint := e } :=
    { registry := hg, clock := rfl, endpoint := rfl, ignores := he, faults := rfl, events := rfl
      sent := .nil, output := rfl }
  obtain ⟨hr, hw⟩ := hw.session turns
  exact ⟨hr, hw.registry⟩

def keyed (accessKey : String) : Registry :=
  { rows := [{ id := 1, kindTag := "OLLAMA", url := "u", accessKey, displayName := "n"
               description := "", model := "m", createdTs := 0, updatedTs := 0 }]
    lastId := 1 }

def inquiries : List Turn :=
  let turn (demand : Demand) : Turn := ⟨demand, .epoch, []⟩
  [turn (.request .all { method := "GET", target := "/api/ai-platforms/1" }),
    turn (.command (.ask "1" ["hello"])), turn (.command (.ask "1" ["again"])),
    turn (.command (.list 10 none true)),
    turn (.request .all { method := "DELETE", target := "/api/ai-platforms/1" })]

theorem World.session_keeps_credentials_keyed :
    (keyed "secret").Alike (keyed "hidden") ∧ List.Forall₂ Turn.Record.Alike
      (World.session { registry := keyed "secret", endpoint := .script [.interrupted] }
        inquiries).1
      (World.session { registry := keyed "hidden", endpoint := .script [.interrupted] }
        inquiries).1 := by
  have hg : (keyed "secret").Alike (keyed "hidden") :=
    ⟨.cons ⟨rfl, by decide⟩ .nil, rfl⟩
  have he : (Endpoint.script [.interrupted]).IgnoresBearer := trivial
  exact ⟨hg, (World.session_keeps_credentials hg he inquiries).1⟩

example : ((World.session { registry := keyed "secret" } (inquiries.take 3)).1.map fun r =>
    r.sent.map Post.bearer?) = [[], [some "secret"], [some "secret"]] := by rfl

end PromptGateway
