import PromptGateway.Proofs.Api.Failure
import PromptGateway.Server

/-! # Origins that are let in

No route of its own accord lets pages of any origin see its response. The API lets in the origin of
a request if it is one of those that it is set up with and can stand in a header, and no other one;
what stands beside the API lets in none. A server that is set up with the star does not start.
-/

namespace PromptGateway

namespace Api

/-- The origins that a response lets in. -/
def Response.admitted (r : Response) : List String :=
  (r.headers.filter (·.1 == "access-control-allow-origin")).map (·.2)

/-- The origins of a request that are among some origins and can stand in a header. -/
def Request.admissible (r : Request) (origins : List String) : List String :=
  (r.header? "origin").toList.filter fun origin => origin ∈ origins ∧ isHeaderValue origin

theorem Request.admissible_eq {r : Request} {origin : String}
    (h : r.header? "origin" = some origin) (origins : List String) :
    r.admissible origins =
      if origin ∈ origins ∧ isHeaderValue origin = true then [origin] else [] := by
  rw [admissible, h]
  split <;> simp_all

namespace Response

@[simp] theorem admitted_adding (r : Response) (headers : List (String × String)) :
    (r.adding headers).admitted =
      r.admitted ++ (headers.filter (·.1 == "access-control-allow-origin")).map (·.2) := by
  simp [admitted, adding]

@[simp] theorem admitted_headOnly (r : Response) : r.headOnly.admitted = r.admitted := rfl

@[simp] theorem admitted_json (status : Nat) (body : String) :
    (json status body).admitted = [] := by
  simp [admitted, json]

@[simp] theorem admitted_plain (status : Nat) (body : String) :
    (plain status body).admitted = [] := by
  simp [admitted, plain]

theorem Success.admitted_eq_nil {r : Response} (h : r.Success) : r.admitted = [] := by
  cases h with
  | view text => exact admitted_json 200 text
  | nothing => rfl

end Response

variable {origins : List String} {r : Request} {route : Route}

theorem allows_only_iff {origin : String} : (Origins.only origins).allows origin = true ↔
    origin ∈ origins ∧ isHeaderValue origin = true := by
  rw [Origins.allows, List.contains_iff_mem, List.mem_filter]

/-- The headers of origins let in what is admissible. -/
theorem admitted_mark (origins : List String) (r : Request) (response : Response) :
    ((Origins.only origins).mark r response).admitted =
      response.admitted ++ r.admissible origins := by
  rw [Origins.mark, Response.admitted_adding]
  congr 1
  cases h : r.header? "origin" with
  | none => simp [Origins.allowHeader, Origins.varyHeader, Request.admissible, h]
  | some origin =>
    rw [Request.admissible_eq h]
    dsimp only [Origins.allowHeader]
    by_cases ha : origin ∈ origins ∧ isHeaderValue origin = true
    · rw [if_pos (allows_only_iff.mpr ha), if_pos ha]
      rfl
    · rw [if_neg (mt allows_only_iff.mp ha), if_neg ha]
      rfl

theorem admitted_methodRefused (route : Route) : (methodRefused route).admitted = [] := by
  simp [methodRefused, Response.admitted]

theorem admitted_preflight (origins : List String) (r : Request) (methods : List String) :
    ((Origins.only origins).preflight r methods).admitted = r.admissible origins := by
  rw [Origins.preflight, admitted_mark]
  simp [Response.admitted]

theorem admitted_answerRoute (r : Request) (query? : Option (List Char)) (method : String)
    (route : Route) : (answerRoute r query? method route).Always fun response =>
      response.admitted = [] :=
  always_answerRoute (fun _ h => h.admitted_eq_nil)
    (fun f => Response.admitted_json f.status f.text) (Response.admitted_plain 200 "OK")
    (.inr (Response.admitted_plain 400 _)) r query? method

/-- A request for the API lets in what is admissible, and one beside it nothing. -/
theorem always_admitted (hp : Route.ofPath? (Target.of r.target).path = some route)
    (origins : List String) : (answer (.only origins) r).Always fun response =>
      response.admitted = if route = .health then [] else r.admissible origins := by
  have hm (response : Response) (h : response.admitted = []) :
      (if route = .health then response else (Origins.only origins).mark r response).admitted =
        if route = .health then [] else r.admissible origins := by
    split
    · exact h
    · rw [admitted_mark, h, List.nil_append]
  unfold answer
  simp only [hp]
  by_cases ho : r.method = "OPTIONS" ∧ route ≠ .health
  · rw [if_pos ho, if_neg ho.2]
    exact admitted_preflight origins r route.methods
  · rw [if_neg ho]
    by_cases ht : route.methods.contains r.method = true
    · rw [if_pos ht]
      refine (admitted_answerRoute r _ r.method route).bind fun response h => hm _ ?_
      split
      · exact h
      · exact h
    · rw [if_neg ht]
      exact hm _ (admitted_methodRefused route)

/-- A server whose registry can be opened starts, unless the star is among its origins. -/
theorem outcome_start {d : Disk} {s : Server.Settings} {store : Database.Store}
    (hs : s.origins = .only origins)
    (ho : (Database.openAddress d s.database).outcome = .ok store) :
    (Server.start d s).outcome = if "*" ∈ origins then .error .starInOrigins else .ok store := by
  have hu : (Origins.only origins).isUsable = true ↔ "*" ∉ origins := by
    rw [Origins.isUsable, Bool.not_eq_true', ← Bool.not_eq_true, List.contains_iff_mem]
  unfold Server.start
  simp only [ho, hs]
  change (if (Origins.only origins).isUsable = true then Except.ok store
    else Except.error Server.Fault.starInOrigins) = _
  by_cases h : "*" ∈ origins
  · rw [if_pos h, if_neg fun hn => hu.mp hn h]
  · rw [if_neg h, if_pos (hu.mpr h)]

/--
A server starts exactly if the star is not among its origins. Whatever its surroundings answer, the
response to a request for the API lets in the origin of the request if it is one of those that the
server is set up with and can stand in a header, and lets in nothing else. The response to one for
its health lets in nothing.
-/
theorem lets_in_exactly (origins : List String) :
    (∀ (d : Disk) (s : Server.Settings) (store : Database.Store), s.origins = .only origins →
      (Database.openAddress d s.database).outcome = .ok store →
      (Server.start d s).outcome = if "*" ∈ origins then .error .starInOrigins else .ok store) ∧
    ("*" ∉ origins → ∀ {σ : Type} (surroundings : (e : Effect) → σ → e.Answer × σ) (t : σ)
      (r : Request) (route : Route), Route.ofPath? (Target.of r.target).path = some route →
      let response := ((answer (.only origins) r).run surroundings t).1
      (route = .health → response.admitted = []) ∧
      (route ≠ .health → ∀ origin, r.header? "origin" = some origin →
        response.admitted =
          if origin ∈ origins ∧ isHeaderValue origin = true then [origin] else [])) := by
  refine ⟨fun d s store hs ho => outcome_start hs ho, fun _ σ surroundings t r route hp => ?_⟩
  have ha := (always_admitted hp origins).run surroundings t
  refine ⟨fun hh => ha.trans (if_pos hh), fun hh origin ho => ?_⟩
  rw [← Request.admissible_eq ho]
  exact ha.trans (if_neg hh)

def askingFrom (origin : String) : Request := { asking "7" with headers := [("origin", origin)] }

theorem lets_in_exactly_pair :
    let origins := ["http://a", "b\n"]
    let settings : Server.Settings := { database := "sqlite::memory:", origins := .only origins }
    (Server.start {} settings).outcome = .ok .passing ∧
      ((answer (.only origins) (askingFrom "http://a")).runIn {}).1.admitted = ["http://a"] ∧
      ((answer (.only origins) (askingFrom "http://b")).runIn {}).1.admitted = [] := by
  obtain ⟨hs, ha⟩ := lets_in_exactly ["http://a", "b\n"]
  have hp : Route.ofPath? (Target.of (asking "7").target).path = some (.platform ['7']) := rfl
  have ha (origin : String) :=
    (ha (by decide) World.perform {} (askingFrom origin) _ hp).2 nofun origin rfl
  refine ⟨hs {} _ .passing rfl rfl, (ha "http://a").trans (by decide), ?_⟩
  exact (ha "http://b").trans (by decide)

/-- A server that is set up with the star does not start. -/
theorem start_star :
    (Server.start {} { database := "sqlite::memory:", origins := .only ["*"] }).outcome =
      .error .starInOrigins :=
  (outcome_start rfl rfl).trans (if_pos (List.mem_singleton_self "*"))

end Api

end PromptGateway
