import PromptGateway.Cli
import PromptGateway.Proofs.Api.Answer
import PromptGateway.Proofs.Service

/-! # One reference in all front ends

A reference means the same in the path of a request, in the body of a request and on the command
line. What a service comes to is told by each front end in its own codes, which stand for each
other.
-/

namespace PromptGateway

namespace Answers

variable (reference prompt : String) (givenUp : Bool) (w : World)

theorem output_forM_note (events : List Event) (w : World) :
    ((events.forM Program.note).runIn w).2.output = w.output := by
  induction events generalizing w with
  | nil => rfl
  | cons e events ih =>
    change ((Program.note e >>= fun _ => events.forM Program.note).runIn w).2.output = w.output
    rw [Program.runIn_bind]
    exact ih (w.tell e)

theorem output_ask (q : Platform) : ((ask q prompt).runIn w).2.output = w.output := by
  unfold ask
  rw [Program.runIn_bind, Program.runIn_bind]
  cases ((Program.post (request q prompt)).runIn _).1 with
  | interrupted => rfl
  | failed e => rfl
  | reply r =>
    rw [Program.runIn_bind]
    exact (output_forM_note _ _).trans rfl

/-- The service itself prints nothing. -/
theorem output_generate : ((generate reference prompt givenUp).runIn w).2.output = w.output := by
  unfold Action.runIn
  rw [run_generate]
  cases Reference.read reference with
  | error fault => rfl
  | ok id =>
    dsimp only
    rw [← w.on_registry, Program.runIn_store]
    cases (w.ask (.get id) w.registry).1 with
    | error e => rfl
    | ok q =>
      dsimp only
      rw [Program.runIn_map]
      cases givenUp with
      | true => rfl
      | false => exact output_ask prompt _ q

end Answers

namespace Api

variable (w : World)

section Requests

variable (segment reference prompt : String) (headers : List (String × String)) (origins : Origins)

/-- A prompt to the platform that a segment of the path refers to. -/
def promptAt : Request :=
  { method := "POST", target := "/api/ai-platforms/" ++ segment ++ "/generate", headers
    body := Utf8.encode (promptShape.write (prompt, ())) }

/-- A prompt to the platform that the body refers to. -/
def promptNamed : Request :=
  { method := "POST", target := "/api/generate", headers
    body := Utf8.encode (namedPromptShape.write (reference, prompt, ())) }

def removalAt : Request :=
  { method := "DELETE", target := "/api/ai-platforms/" ++ segment, headers }

theorem writes_prompt : promptShape.Writes (prompt, ()) := by
  refine Json.Shape.writes_record (by decide) ?_ "GenerateAnswerRequest" false
  exact ⟨fun _ => Json.Shape.writes_text prompt, trivial⟩

theorem writes_namedPrompt : namedPromptShape.Writes (reference, prompt, ()) := by
  refine Json.Shape.writes_record (by decide) ?_ "GenerateByNameRequest" false
  exact ⟨fun _ => Json.Shape.writes_text reference, fun _ => Json.Shape.writes_text prompt, trivial⟩

theorem runIn_answerPrompt : ∃ w', (respond (answerPrompt reference prompt)).runIn w =
      (told (fun result => .json 200 result.text)
        ((Answers.generate reference prompt false).runIn w).1, w') ∧
    w'.sent = ((Answers.generate reference prompt false).runIn w).2.sent := by
  obtain ⟨w', hw, hs, -⟩ := runIn_respond_serve w (Answers.generate reference prompt false)
    fun result => .json 200 result.text
  exact ⟨w', hw, hs⟩

variable {segment reference prompt headers}

/-- That a handler answers the prompt of a request, unless the body of the request is too long. -/
structure Prompts (h : Handler Response) (r : Request) (reference prompt : String) : Prop where
  asks : r.isJson = true → r.body.length ≤ maxBodySize → h = answerPrompt reference prompt
  refuses : maxBodySize < r.body.length → ∃ reason, h = throw (.badRequest reason)

/-- A handler that goes on to a prompt with the members of the body. -/
theorem prompts_of_json {r : Request} {s : Json.Shape} (members : s.Carrier)
    (k : s.Carrier → Handler Response) (hk : k members = answerPrompt reference prompt)
    (hb : r.isJson = true → r.body.length ≤ maxBodySize → r.json s = .ok members) :
    Prompts (understood (r.json s) >>= k) r reference prompt where
  asks hj hl := by
    rw [hb hj hl]
    exact hk
  refuses hl := by
    obtain ⟨reason, he⟩ := Request.json_of_maxBodySize_lt hl s
    refine ⟨reason, ?_⟩
    rw [he]
    rfl

theorem prompts_promptAt : Prompts (answerAt reference (promptAt segment prompt headers))
    (promptAt segment prompt headers) reference prompt := by
  refine prompts_of_json (s := promptShape) (prompt, ())
    (fun members => answerPrompt reference members.1) rfl fun hj hl => ?_
  exact Request.json_write (writes_prompt prompt) (by decide) (by decide) hj hl (by rw [promptAt])

theorem prompts_promptNamed : Prompts (answerNamed (promptNamed reference prompt headers))
    (promptNamed reference prompt headers) reference prompt := by
  refine prompts_of_json (s := namedPromptShape) (reference, prompt, ())
    (fun members => answerPrompt members.1 members.2.1) rfl fun hj hl => ?_
  exact Request.json_write (writes_namedPrompt reference prompt) (by decide) (by decide) hj hl
    (by rw [promptNamed])

theorem runIn_promptAt (hs : Spells segment reference) (hr : reference ≠ "") :
    let response := (respond (answerAt reference (promptAt segment prompt headers))).runIn w
    (answer origins (promptAt segment prompt headers)).runIn w =
      (origins.mark (promptAt segment prompt headers) response.1, response.2) := by
  refine runIn_answer w (r := promptAt segment prompt headers) origins (hs.ofPath?_answers hr)
    (by simp) (by simp [Route.methods, promptAt]) (by simp [promptAt]) (by simp [promptAt]) ?_
  rw [answerRoute, withReference, hs.decodeReference?]

theorem route_generate : Route.ofPath? (Target.of "/api/generate").path = some .namedAnswers := by
  decide +kernel

theorem runIn_promptNamed :
    let response := (respond (answerNamed (promptNamed reference prompt headers))).runIn w
    (answer origins (promptNamed reference prompt headers)).runIn w =
      (origins.mark (promptNamed reference prompt headers) response.1, response.2) := by
  refine runIn_answer w (r := promptNamed reference prompt headers) origins route_generate
    (by decide) (by simp [Route.methods, promptNamed]) (by simp [promptNamed])
    (by simp [promptNamed]) ?_
  rw [answerRoute]

/-- What a reference that is none, or the service, makes of the removal of a platform. -/
def removal (reference : String) : Action Unit :=
  match Reference.read reference with
  | .ok id => Platforms.delete id
  | .error fault => throw (.ofReference fault)

theorem runIn_removalAt (headers : List (String × String)) (hs : Spells segment reference)
    (hr : reference ≠ "") :
    ∃ w', (answer origins (removalAt segment headers)).runIn w =
      (origins.mark (removalAt segment headers)
        (told (fun _ => { status := 204 }) ((removal reference).runIn w).1), w') ∧
      w'.registry = ((removal reference).runIn w).2.registry := by
  refine runIn_platform_serve origins hs hr rfl (by simp [removalAt]) ?_
  change removePlatform reference = _
  unfold removePlatform platformNumber removal
  cases Reference.read reference <;> rfl

end Requests

end Api

namespace Cli

variable (reference prompt : String) (w : World)

theorem runIn_serviceTask {α : Type} (a : Action α) :
    Program.runIn (serviceTask a).run w =
      ((a.runIn w).1.mapError Failure.ofService, (a.runIn w).2) :=
  Program.runIn_map (Except.mapError Failure.ofService) a.run w

theorem runIn_askPlatform : Program.runIn (askPlatform reference prompt).run w =
    match (Answers.generate reference prompt false).runIn w with
    | (.ok (.answered a), w') => (.ok (), { w' with output := w'.output ++ (a ++ "\n") })
    | (.ok (.failed reason), w') => (.error (.platform reason), w')
    | (.error e, w') => (.error (.ofService e), w') := by
  unfold askPlatform
  rw [Program.runIn_bindExcept, runIn_serviceTask]
  obtain ⟨r, w'⟩ := (Answers.generate reference prompt false).runIn w
  cases r with
  | error e => rfl
  | ok result => cases result <;> rfl

theorem runIn_removePlatform : ∃ w', Program.runIn (removePlatform reference).run w =
      (((Api.removal reference).runIn w).1.mapError Failure.ofService, w') ∧
    w'.registry = ((Api.removal reference).runIn w).2.registry := by
  unfold removePlatform Api.removal
  cases Reference.read reference with
  | error fault => exact ⟨_, rfl, rfl⟩
  | ok id =>
    simp only [Program.runIn_bindExcept, runIn_serviceTask]
    cases ((Platforms.delete id).runIn w).1 with
    | error e => exact ⟨_, rfl, rfl⟩
    | ok u => exact ⟨_, rfl, rfl⟩

def exitOf {α : Type} (outcome : Except Failure α) : Nat :=
  ((failureOf outcome).map Failure.exitCode).getD 0

end Cli

/-- That the API and the command line tell of one and the same failure. -/
structure ToldAlike (response : Api.Response) (failure : Cli.Failure) : Prop where
  codes : (response.status, failure.exitCode) ∈ [(400, 64), (404, 1), (500, 73)]
  reason : ∃ e, response.body = (Api.Failure.ofService e).text ∧ failure = .ofService e

theorem toldAlike (origins : Api.Origins) (r : Api.Request) (e : ServiceError) :
    ToldAlike (origins.mark r (Api.Failure.ofService e).response) (.ofService e) where
  codes := by
    change ((Api.Failure.ofService e).status, (Cli.Failure.ofService e).exitCode) ∈ _
    unfold Api.Failure.ofService Cli.Failure.ofService
    cases e.cls <;> simp [Api.Failure.status, Cli.Failure.exitCode]
  reason := ⟨e, rfl, rfl⟩

/--
That the response to a prompt means the same as the outcome on the command line and what was
written to the output before and after it.
-/
inductive SameAnswer (response : Api.Response) (outcome : Except Cli.Failure Unit)
    (before after : String) : Prop
  | answered (answer : String) (hs : response.status = 200)
    (hb : response.body = (AnswerResult.answered answer).text) (ho : outcome = .ok ())
    (hp : after = before ++ (answer ++ "\n"))
  | failed (reason : String) (hs : response.status = 200)
    (hb : response.body = (AnswerResult.failed reason).text) (failure : Cli.Failure)
    (ho : outcome = .error failure) (hc : failure.exitCode = 69) (hm : failure.message = reason)
    (hp : after = before)
  | refused (failure : Cli.Failure) (h : ToldAlike response failure)
    (ho : outcome = .error failure) (hp : after = before)

/-- That the response to a removal means the same as the outcome on the command line. -/
inductive SameRemoval (response : Api.Response) (outcome : Except Cli.Failure Unit) : Prop
  | removed (hs : response.status = 204) (ho : outcome = .ok ())
  | refused (failure : Cli.Failure) (h : ToldAlike response failure) (ho : outcome = .error failure)

section Fronts

open Api Cli

variable (w : World) (origins : Origins) {segment reference prompt : String}
  {headers : List (String × String)}

theorem sameAnswer (r : Request) :
    SameAnswer (origins.mark r (told (fun result => .json 200 result.text)
        ((Answers.generate reference prompt false).runIn w).1))
      (Program.runIn (askPlatform reference prompt).run w).1 w.output
      (Program.runIn (askPlatform reference prompt).run w).2.output := by
  have hp := Answers.output_generate reference prompt false w
  rw [runIn_askPlatform]
  generalize (Answers.generate reference prompt false).runIn w = o at hp ⊢
  obtain ⟨result, w'⟩ := o
  cases result with
  | error e => exact .refused _ (toldAlike origins r e) rfl hp
  | ok result =>
    cases result with
    | answered a => exact .answered a rfl rfl rfl (congrArg (· ++ (a ++ "\n")) hp)
    | failed reason => exact .failed reason rfl rfl _ rfl rfl rfl hp

theorem sent_askPlatform : (Program.runIn (askPlatform reference prompt).run w).2.sent =
    ((Answers.generate reference prompt false).runIn w).2.sent := by
  rw [runIn_askPlatform]
  split <;> simp_all

/--
A prompt in a request comes to the same as on the command line. If the body of the request is too
long, it is refused instead, and nothing is asked.
-/
theorem sameAnswer_or_refused {r : Request} {h : Handler Response}
    (hp : Prompts h r reference prompt) (ha : (answer origins r).runIn w =
      (origins.mark r ((respond h).runIn w).1, ((respond h).runIn w).2)) :
    let answered := (answer origins r).runIn w
    let byHand := Program.runIn (askPlatform reference prompt).run w
    (r.isJson = true → r.body.length ≤ maxBodySize → answered.2.sent = byHand.2.sent ∧
      SameAnswer answered.1 byHand.1 w.output byHand.2.output) ∧
    (maxBodySize < r.body.length → answered.1.status = 400 ∧ answered.2 = w) := by
  simp only [ha]
  refine ⟨fun hj hl => ?_, fun hl => ?_⟩
  · obtain ⟨w', hw, hs⟩ := runIn_answerPrompt w reference prompt
    rw [hp.asks hj hl, hw]
    exact ⟨hs.trans (sent_askPlatform w).symm, sameAnswer w origins r⟩
  · obtain ⟨reason, rfl⟩ := hp.refuses hl
    exact ⟨rfl, rfl⟩

/--
A reference means the same in the path, in the body and on the command line: the same request is
sent and the outcome is the same, and so is a removal. Only a request whose body is too long is
refused before the service is asked.
-/
theorem fronts_agree (hs : Spells segment reference) (hr : reference ≠ "") :
    let byHand := Program.runIn (askPlatform reference prompt).run w
    let removed := (answer origins (removalAt segment headers)).runIn w
    let removedByHand := Program.runIn (Cli.removePlatform reference).run w
    (∀ r ∈ [promptAt segment prompt headers, promptNamed reference prompt headers],
      let answered := (answer origins r).runIn w
      (r.isJson = true → r.body.length ≤ maxBodySize → answered.2.sent = byHand.2.sent ∧
        SameAnswer answered.1 byHand.1 w.output byHand.2.output) ∧
      (maxBodySize < r.body.length → answered.1.status = 400 ∧ answered.2 = w)) ∧
    removed.2.registry = removedByHand.2.registry ∧ SameRemoval removed.1 removedByHand.1 := by
  obtain ⟨w₁, h₁, hg₁⟩ := runIn_removalAt w origins headers hs hr
  obtain ⟨w₂, h₂, hg₂⟩ := runIn_removePlatform reference w
  simp only [h₁, h₂]
  refine ⟨?_, hg₁.trans hg₂.symm, ?_⟩
  · rw [List.forall_mem_cons, List.forall_mem_singleton]
    exact ⟨sameAnswer_or_refused w origins prompts_promptAt (runIn_promptAt w origins hs hr),
      sameAnswer_or_refused w origins prompts_promptNamed (runIn_promptNamed w origins)⟩
  · cases ((removal reference).runIn w).1 with
    | error e => exact .refused _ (toldAlike origins _ e) rfl
    | ok u => exact .removed rfl rfl

def answering : World :=
  { registry :=
      { rows :=
          [.ofEntry (.ofProfile { url := "http://h", accessKey := "k", model := "m" } .epoch) 1]
        lastId := 1 }
    endpoint := .script [.reply ⟨200, "\x7b\"response\": \"hello\"\x7d"⟩] }

theorem fronts_agree_answering :
    let headers := [("content-type", "application/json")]
    let byPath := (answer .all (promptAt "ai-platforms%2F1%20%C3%A9" "hi" headers)).runIn answering
    let byHand := Program.runIn (askPlatform "ai-platforms/1 é" "hi").run answering
    byPath.2.sent = byHand.2.sent ∧ SameAnswer byPath.1 byHand.1 "" byHand.2.output := by
  have hs : Spells "ai-platforms%2F1%20%C3%A9" "ai-platforms/1 é" := by
    have h := spells_encodeSet "ai-platforms/1 é"
    rwa [show String.ofList _ = "ai-platforms%2F1%20%C3%A9" from by decide] at h
  have h := @fronts_agree answering .all _ _ "hi" [("content-type", "application/json")] hs
    (by decide)
  exact (h.1 _ (.head _)).1 (by decide) (by decide)

/-- A prompt is not longer than the body that carries it. -/
theorem length_le_body_promptNamed :
    prompt.toList.length < (promptNamed reference prompt headers).body.length := by
  have hp := Json.length_le_stringChars prompt
  have ht : prompt.toList.length <
      (namedPromptShape.write (reference, prompt, ())).toList.length := by
    simp only [Json.Shape.write, String.toList_ofList, Json.Shape.chars, Json.Fields.members,
      namedPromptShape, Json.joinMembers, List.length_cons, List.length_append]
    omega
  have hb : (promptNamed reference prompt headers).body =
      Utf8.encode (namedPromptShape.write (reference, prompt, ())) := by rw [promptNamed]
  rw [hb, Utf8.encode]
  exact Nat.lt_of_lt_of_le ht (Utf8.length_le_encodeChars _)

theorem fronts_disagree_long :
    let prompt := String.ofList (List.replicate maxBodySize 'm')
    let headers := [("content-type", "application/json")]
    ((answer .all (promptNamed "1" prompt headers)).runIn {}).1.status = 400 ∧
      exitOf (Program.runIn (askPlatform "1" prompt).run {}).1 = 1 := by
  constructor
  · refine ((sameAnswer_or_refused {} .all prompts_promptNamed (runIn_promptNamed {} .all)).2 ?_).1
    refine Nat.lt_of_le_of_lt ?_ length_le_body_promptNamed
    rw [String.toList_ofList, List.length_replicate]
  · generalize String.ofList (List.replicate maxBodySize 'm') = prompt
    rw [runIn_askPlatform]
    rfl

end Fronts

end PromptGateway
