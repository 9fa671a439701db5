import PromptGateway.Api
import PromptGateway.Proofs.Api.Request
import PromptGateway.Proofs.Program

/-! # Answers to requests

What comes of a request is what comes of the handler that its route and its method lead to. A
handler that asks a service once tells of its outcome.
-/

namespace PromptGateway

namespace Api

variable {α : Type} (w : World)

theorem runIn_serve (a : Action α) :
    Program.runIn (serve a).run w = ((a.runIn w).1.mapError Failure.ofService, (a.runIn w).2) :=
  Program.runIn_map (Except.mapError Failure.ofService) a.run w

def told (f : α → Response) : Except ServiceError α → Response
  | .ok a => f a
  | .error e => (Failure.ofService e).response

theorem runIn_respond_serve (a : Action α) (f : α → Response) :
    ∃ w', (respond (serve a >>= fun x => return f x)).runIn w = (told f (a.runIn w).1, w') ∧
      w'.sent = (a.runIn w).2.sent ∧ w'.registry = (a.runIn w).2.registry := by
  unfold respond
  rw [Program.runIn_bind, Program.runIn_bindExcept, runIn_serve]
  cases (a.runIn w).1 with
  | ok x => exact ⟨_, rfl, rfl, rfl⟩
  | error e =>
    -- a failure of the service itself is told as an event too, which nothing here looks at
    dsimp only [Except.mapError, told]
    cases Failure.ofService e <;> exact ⟨_, rfl, rfl, rfl⟩

/-- What comes of a request that a route takes with one of its own methods. -/
theorem runIn_answer {r : Request} {route : Route} {p : Program Response} (origins : Origins)
    (hp : Route.ofPath? (Target.of r.target).path = some route) (hh : route ≠ .health)
    (hm : route.methods.contains r.method = true) (ho : r.method ≠ "OPTIONS")
    (hd : r.method ≠ "HEAD")
    (ha : answerRoute r (Target.of r.target).query? r.method route = p) :
    (answer origins r).runIn w = (origins.mark r (p.runIn w).1, (p.runIn w).2) := by
  unfold answer
  simp only [hp, ho, hh, hm, hd, ha, false_and, if_false, if_true]
  exact Program.runIn_map (origins.mark r) _ w

def platformHandler (reference : String) (r : Request) : Handler Response :=
  if r.method = "PATCH" then changePlatform reference r
  else if r.method = "DELETE" then removePlatform reference
  else showPlatform reference

section Platforms

variable {w} {segment reference : String} {r : Request} (origins : Origins)

/-- What comes of a request for the platform that a segment of the path refers to. -/
theorem runIn_platform (hs : Spells segment reference) (hr : reference ≠ "")
    (ht : r.target = "/api/ai-platforms/" ++ segment) (hm : r.method ∈ ["GET", "PATCH", "DELETE"])
    {h : Handler Response} (hh : platformHandler reference r = h) :
    (answer origins r).runIn w =
      (origins.mark r ((respond h).runIn w).1, ((respond h).runIn w).2) := by
  have ha : answerRoute r (Target.of r.target).query? r.method (.platform segment.toList) =
      respond h := by
    rw [answerRoute, withReference, hs.decodeReference?, ← hh]
    rfl
  have hp : Route.ofPath? (Target.of r.target).path = some (.platform segment.toList) := by
    rw [ht, hs.ofPath?_platform hr]
  have hc : (Route.platform segment.toList).methods.contains r.method = true ∧
      r.method ≠ "OPTIONS" ∧ r.method ≠ "HEAD" := by
    simp only [List.mem_cons, List.not_mem_nil, or_false] at hm
    rcases hm with hm | hm | hm <;> simp [hm, Route.methods]
  exact runIn_answer w origins hp (by simp) hc.1 hc.2.1 hc.2.2 ha

/-- What comes of such a request when its handler asks a service once. -/
theorem runIn_platform_serve (hs : Spells segment reference) (hr : reference ≠ "")
    (ht : r.target = "/api/ai-platforms/" ++ segment) (hm : r.method ∈ ["GET", "PATCH", "DELETE"])
    {a : Action α} {f : α → Response}
    (hh : platformHandler reference r = serve a >>= fun x => return f x) :
    ∃ w', (answer origins r).runIn w = (origins.mark r (told f (a.runIn w).1), w') ∧
      w'.registry = (a.runIn w).2.registry := by
  obtain ⟨w', hw, -, hg⟩ := runIn_respond_serve w a f
  refine ⟨w', ?_, hg⟩
  rw [runIn_platform origins hs hr ht hm hh, hw]

end Platforms

end Api

end PromptGateway
