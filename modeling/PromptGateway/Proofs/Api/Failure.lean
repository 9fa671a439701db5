import PromptGateway.Api
import PromptGateway.Proofs.Json.Value
import PromptGateway.World

/-! # How failures are told

Whatever its surroundings answer, a handler succeeds or ends in a failure, and a failure is told as
an object of JSON with its reason and its status. The one refusal that comes before a handler is
that of a path whose reference is no text: it is told in plain words.
-/

namespace PromptGateway

namespace Program

variable {α β : Type} {P : α → Prop} {Q : β → Prop}

/-- That all ends of a program are of a kind, whatever its surroundings answer. -/
def Always (P : α → Prop) : Program α → Prop
  | done a => P a
  | step _ next => ∀ answer, (next answer).Always P

theorem always_true (p : Program α) : p.Always fun _ => True := by
  induction p with
  | done a => trivial
  | step e next ih => exact ih

theorem Always.bind {p : Program α} (hp : p.Always P) {f : α → Program β}
    (hf : ∀ a, P a → (f a).Always Q) : (p >>= f).Always Q := by
  induction p with
  | done a => exact hf a hp
  | step e next ih => exact fun answer => ih answer (hp answer)

theorem Always.run {p : Program α} (h : p.Always P) {σ : Type}
    (answer : (e : Effect) → σ → e.Answer × σ) (s : σ) : P (p.run answer s).1 := by
  induction p generalizing s with
  | done a => exact h
  | step e next ih => exact ih _ (h _) _

end Program

namespace Api

/-! ## Failures -/

def account (reason : String) (status : Nat) : Json.Value :=
  .object [("error", .string reason), ("status", .number (.integer status))]

/-- That a response tells of a failure as an object of JSON, with its own status. -/
structure Response.Explains (r : Response) : Prop where
  status : r.status = 400 ∨ r.status = 404 ∨ r.status = 500
  contentType : ("content-type", "application/json") ∈ r.headers
  body : ∃ reason, Json.Value.read (.ofString r.body) = .ok (account reason r.status)

namespace Failure

variable (f : Failure)

theorem status_cases : f.status = 400 ∨ f.status = 404 ∨ f.status = 500 := by
  cases f with
  | badRequest reason => exact .inl rfl
  | notFound reason => exact .inr (.inl rfl)
  | internal reason => exact .inr (.inr rfl)

theorem text_eq : f.text = (account f.reason f.status).text := by
  have hs : Json.Width.word32.toInt (UInt32.ofNat f.status) = f.status := by cases f <;> rfl
  simp [text, shape, Json.Shape.write, Json.Shape.chars, Json.Fields.members, Json.joinMembers, hs,
    account, Json.Value.text, Json.Value.chars, Json.Value.memberChars, Json.Number.chars]

theorem plain_account : (account f.reason f.status).Plain Json.maxDepth := by
  have hs := f.status_cases
  refine .object fun m hm => ?_
  rcases List.mem_cons.mp hm with rfl | hm
  · exact .string f.reason
  · obtain rfl := List.mem_singleton.mp hm
    exact .integer (by omega) (by omega)

theorem explains_response : f.response.Explains where
  status := f.status_cases
  contentType := List.mem_singleton_self _
  body := by
    have h := f.plain_account.read_text
    rw [← f.text_eq] at h
    exact ⟨f.reason, h⟩

end Failure

/-- The responses to what succeeds: a view of what was asked for, or nothing. -/
inductive Response.Success : Response → Prop
  | view (text : String) : Success (.json 200 text)
  | nothing : Success { status := 204 }

/-- That a response is a success, or explains a failure. -/
def Response.Told (r : Response) : Prop := r.status = 200 ∨ r.status = 204 ∨ r.Explains

theorem Response.Success.told {r : Response} (h : r.Success) : r.Told := by
  cases h with
  | view text => exact .inl rfl
  | nothing => exact .inr (.inl rfl)

theorem Response.Explains.adding {r : Response} (h : r.Explains)
    (headers : List (String × String)) : (r.adding headers).Explains where
  status := h.status
  contentType := List.mem_append_left headers h.contentType
  body := h.body

theorem Response.Told.adding {r : Response} (h : r.Told) (headers : List (String × String)) :
    (r.adding headers).Told :=
  h.imp_right (Or.imp_right fun he => he.adding headers)

/-! ## Handlers -/

section Handlers

variable {α : Type}

/-- That the response of a handler that does not fail is a success. -/
def Handler.Succeeds (h : Handler Response) : Prop :=
  h.run.Always fun r => ∀ response, r = .ok response → response.Success

theorem succeeds_bind (x : Handler α) {k : α → Handler Response} (hk : ∀ a, (k a).Succeeds) :
    Handler.Succeeds (x >>= k) := by
  refine (Program.always_true x.run).bind fun r _ => ?_
  cases r with
  | ok a => exact hk a
  | error f => exact nofun

theorem succeeds_pure {response : Response} (h : response.Success) :
    Handler.Succeeds (pure response) := by
  rintro _ ⟨⟩
  exact h

/-- A handler that ends with a view of what it was asked for. -/
theorem succeeds_json (x : Handler α) (text : α → String) :
    Handler.Succeeds (x >>= fun a => return .json 200 (text a)) :=
  succeeds_bind x fun _ => succeeds_pure (.view _)

theorem succeeds_answerPrompt (reference prompt : String) :
    (answerPrompt reference prompt).Succeeds := succeeds_json _ _

variable (reference : String) (r : Request)

theorem succeeds_listPlatforms (query? : Option (List Char)) : (listPlatforms query?).Succeeds :=
  succeeds_bind _ fun _ => succeeds_json _ _

theorem succeeds_createPlatform : (createPlatform r).Succeeds :=
  succeeds_bind _ fun _ => succeeds_json _ _

theorem succeeds_showPlatform : (showPlatform reference).Succeeds :=
  succeeds_bind _ fun _ => succeeds_json _ _

theorem succeeds_changePlatform : (changePlatform reference r).Succeeds :=
  succeeds_bind _ fun _ => succeeds_bind _ fun _ => succeeds_json _ _

theorem succeeds_removePlatform : (removePlatform reference).Succeeds :=
  succeeds_bind _ fun _ => succeeds_bind _ fun _ => succeeds_pure .nothing

theorem succeeds_answerAt : (answerAt reference r).Succeeds :=
  succeeds_bind _ fun _ => succeeds_answerPrompt reference _

theorem succeeds_answerNamed : (answerNamed r).Succeeds :=
  succeeds_bind _ fun _ => succeeds_answerPrompt _ _

/-- What a handler comes to is a success, or a failure that is explained. -/
theorem Handler.Succeeds.respond {P : Response → Prop}
    (hs : ∀ response, response.Success → P response) (hf : ∀ f : Failure, P f.response)
    {h : Handler Response} (hh : h.Succeeds) : (respond h).Always P := by
  refine hh.bind fun r hr => ?_
  cases r with
  | ok response => exact hs response (hr response rfl)
  | error f =>
    have he := hf f
    cases f with
    | badRequest reason => exact he
    | notFound reason => exact he
    | internal reason => exact fun _ => he

end Handlers

/-! ## Requests -/

def Route.reference? : Route → Option (List Char)
  | .platform reference | .answers reference => some reference
  | _ => none

/-- That the bytes of the reference in the path of a route are text, if there is one. -/
def Route.Legible (route : Route) : Prop :=
  ∀ reference ∈ route.reference?, (decodeReference? reference).isSome

/-- That a response refuses a path whose reference is no text, in plain words. -/
structure Response.Refuses (r : Response) : Prop where
  status : r.status = 400
  body : r.body = "Invalid URL: Invalid UTF-8 in `ref`"

/-- The words of the refusal are no JSON. -/
theorem Response.Refuses.read_body {r : Response} (h : r.Refuses) :
    ∃ failure, Json.Value.read (.ofString r.body) = .error failure := by
  have hc : Json.Cursor.ofString r.body =
      ⟨.char 'I' :: Json.symbols "nvalid URL: Invalid UTF-8 in `ref`".toList, {}⟩ := by
    rw [h.body]
    rfl
  rw [hc, Json.Value.read, Json.readValue.eq_def]
  simp only [Json.Cursor.skipSpace_char 'I' rfl]
  exact ⟨_, rfl⟩

theorem Response.Refuses.not_told {r : Response} (h : r.Refuses) : ¬ r.Told := by
  rintro (hs | hs | ⟨-, -, reason, hb⟩)
  · cases h.status.symm.trans hs
  · cases h.status.symm.trans hs
  · obtain ⟨failure, he⟩ := h.read_body
    cases he.symm.trans hb

theorem Response.Refuses.adding {r : Response} (h : r.Refuses)
    (headers : List (String × String)) : (r.adding headers).Refuses :=
  ⟨h.status, h.body⟩

def refusal : Response := .plain 400 "Invalid URL: Invalid UTF-8 in `ref`"

section Routes

variable {P : Response → Prop} (hs : ∀ response, response.Success → P response)
  (hf : ∀ f : Failure, P f.response)

include hs hf

theorem always_withReference {reference : List Char}
    (hr : (decodeReference? reference).isSome ∨ P refusal) {f : String → Handler Response}
    (hh : ∀ reference, (f reference).Succeeds) : (withReference reference f).Always P := by
  unfold withReference
  cases hd : decodeReference? reference with
  | some text => exact (hh text).respond hs hf
  | none =>
    rw [hd] at hr
    exact hr.resolve_left nofun

/--
What a route comes to is a success, or a failure that is explained, or, if the bytes of the
reference in its path are no text, the refusal.
-/
theorem always_answerRoute (hh : P (.plain 200 "OK")) {route : Route}
    (hr : route.Legible ∨ P refusal) (r : Request) (query? : Option (List Char)) (method : String) :
    (answerRoute r query? method route).Always P := by
  have hr {reference : List Char} (h : route.reference? = some reference) :
      (decodeReference? reference).isSome ∨ P refusal := hr.imp_left fun hl => hl reference h
  cases route with
  | health => exact hh
  | platforms =>
    rw [answerRoute]
    split
    · exact (succeeds_createPlatform r).respond hs hf
    · exact (succeeds_listPlatforms query?).respond hs hf
  | platform reference =>
    rw [answerRoute]
    refine always_withReference hs hf (hr rfl) fun reference => ?_
    split
    · exact succeeds_changePlatform reference r
    · split
      · exact succeeds_removePlatform reference
      · exact succeeds_showPlatform reference
  | answers reference =>
    exact always_withReference hs hf (hr rfl) fun reference => succeeds_answerAt reference r
  | namedAnswers => exact (succeeds_answerNamed r).respond hs hf

end Routes

theorem told_answerRoute {route : Route} (hl : route.Legible) (r : Request)
    (query? : Option (List Char)) (method : String) :
    (answerRoute r query? method route).Always Response.Told :=
  always_answerRoute (fun _ h => h.told) (fun f => .inr (.inr f.explains_response)) (.inl rfl)
    (.inl hl) r query? method

theorem refuses_withReference {reference : List Char}
    (h : ¬ (decodeReference? reference).isSome) (f : String → Handler Response) :
    (withReference reference f).Always Response.Refuses := by
  rw [withReference, Option.not_isSome_iff_eq_none.mp h]
  exact ⟨rfl, rfl⟩

theorem refuses_answerRoute {route : Route} (hl : ¬ route.Legible) (r : Request)
    (query? : Option (List Char)) (method : String) :
    (answerRoute r query? method route).Always Response.Refuses := by
  have hn {reference : List Char} (hr : route.reference? = some reference) :
      ¬ (decodeReference? reference).isSome := by
    intro hs
    refine hl fun reference' hr' => ?_
    obtain rfl := Option.some.inj (hr.symm.trans hr')
    exact hs
  cases route with
  | platform reference => exact refuses_withReference (hn rfl) _
  | answers reference => exact refuses_withReference (hn rfl) _
  | _ => exact absurd nofun hl

variable {r : Request} {route : Route}

/-- A request that a route takes, if it is not for the head alone, ends as the route does. -/
theorem always_answer {P : Response → Prop}
    (hp : Route.ofPath? (Target.of r.target).path = some route)
    (hm : r.method ∈ ["GET", "POST", "PATCH", "DELETE"])
    (ht : route.methods.contains r.method = true)
    (ha : (answerRoute r (Target.of r.target).query? r.method route).Always P)
    (hP : ∀ response headers, P response → P (response.adding headers)) (origins : Origins) :
    (answer origins r).Always P := by
  have hn : r.method ≠ "OPTIONS" ∧ r.method ≠ "HEAD" := by
    constructor <;> (intro he; simp [he] at hm)
  unfold answer
  simp only [hp, hn, ht, false_and, if_false, if_true]
  refine ha.bind fun response hr => ?_
  split
  · exact hr
  · exact hP response _ hr

/--
Whatever the registry and the platforms answer, every failure is explained, except where the bytes
of the reference in the path are no text.
-/
theorem told_iff_legible {σ : Type} (surroundings : (e : Effect) → σ → e.Answer × σ) (s : σ)
    (origins : Origins) (hp : Route.ofPath? (Target.of r.target).path = some route)
    (hm : r.method ∈ ["GET", "POST", "PATCH", "DELETE"])
    (ht : route.methods.contains r.method = true) :
    (((answer origins r).run surroundings s).1.Told ↔ route.Legible) ∧
      (¬ route.Legible → ((answer origins r).run surroundings s).1.Refuses) := by
  have told (hl : route.Legible) : ((answer origins r).run surroundings s).1.Told :=
    (always_answer hp hm ht (told_answerRoute hl r _ _) (fun _ headers h => h.adding headers)
      origins).run surroundings s
  have refuses (hl : ¬ route.Legible) : ((answer origins r).run surroundings s).1.Refuses :=
    (always_answer hp hm ht (refuses_answerRoute hl r _ _) (fun _ headers h => h.adding headers)
      origins).run surroundings s
  exact ⟨⟨fun h => by_contra fun hl => (refuses hl).not_told h, told⟩, refuses⟩

def asking (segment : String) : Request :=
  { method := "GET", target := "/api/ai-platforms/" ++ segment }

theorem told_iff_legible_absent :
    Route.ofPath? (Target.of (asking "7").target).path = some (.platform ['7']) ∧
      ((answer .all (asking "7")).runIn {}).1.Told ∧
      ((answer .all (asking "7")).runIn {}).1.status = 404 := by
  have hp : Route.ofPath? (Target.of (asking "7").target).path = some (.platform ['7']) := rfl
  have hl : (Route.platform ['7']).Legible := by
    rintro _ ⟨⟩
    rfl
  refine ⟨hp, (told_iff_legible World.perform {} .all hp ?_ rfl).1.mpr hl, rfl⟩
  simp [asking]

/-- A byte that is no text is refused with a body that is no JSON. -/
theorem refused_byte :
    Route.ofPath? (Target.of (asking "%FF").target).path = some (.platform "%FF".toList) ∧
      ((answer .all (asking "%FF")).runIn {}).1.status = 400 ∧
      ∃ failure, Json.Value.read (.ofString ((answer .all (asking "%FF")).runIn {}).1.body) =
        .error failure := by
  have hr : ((answer .all (asking "%FF")).runIn {}).1.Refuses := ⟨rfl, rfl⟩
  exact ⟨rfl, hr.status, hr.read_body⟩

end Api

end PromptGateway
