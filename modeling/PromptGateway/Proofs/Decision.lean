import PromptGateway.Proofs.Except
import PromptGateway.Proofs.Reference
import PromptGateway.Proofs.Registry.Table
import PromptGateway.Proofs.Reply
import PromptGateway.Proofs.Service

/-! # The decision of the gateway

What becomes of a prompt, and what is sent for it, in terms of the text of the reference, the stored
row and the reply. Only a reference that is none, a number without a row and a registry that fails
are failures, and nothing is sent then. All that happens to the one request is a result.
-/

namespace PromptGateway

namespace Row

variable {r : Row} {e : StoreError}

theorem cls_of_moment {seconds : Int} (h : moment seconds = .error e) :
    (ServiceError.store e).cls = .internal := by
  unfold moment at h
  split at h
  · cases h
  · cases h
    rfl

theorem cls_of_number (h : r.number = .error e) : (ServiceError.store e).cls = .internal := by
  unfold number at h
  split at h
  · cases h
  · cases h
    rfl

/-- A row that is no platform is to be blamed on the service, not on the caller. -/
theorem cls_of_decode (h : r.decode = .error e) : (ServiceError.store e).cls = .internal := by
  obtain hn | ⟨id, -, h⟩ := bind_eq_error_iff.mp h
  · exact cls_of_number hn
  obtain hc | ⟨createdAt, -, h⟩ := bind_eq_error_iff.mp h
  · exact cls_of_moment hc
  obtain hu | ⟨updatedAt, -, h⟩ := bind_eq_error_iff.mp h
  · exact cls_of_moment hu
  · cases h

end Row

namespace World

variable {w : World} {id : Int32}

/-- A row is stored under a number and stands for a platform. -/
structure Stores (w : World) (id : Int32) (r : Row) (q : Platform) : Prop where
  noFault : w.fault? .get = none
  row : w.registry.row? id.toInt = some r
  decode : r.decode = .ok q

/-- There is no row with a number. -/
inductive Misses (w : World) (id : Int32) : Prop
  | fault {what : String} (h : w.fault? .get = some (.notFound what))
  | row (hf : w.fault? .get = none) (h : w.registry.row? id.toInt = none)

/-- The registry fails, or the row with a number is no platform. -/
inductive Breaks (w : World) (id : Int32) : Prop
  | fault {e : StoreError} (h : w.fault? .get = some e) (he : ∀ what, e ≠ .notFound what)
  | row {r : Row} (hf : w.fault? .get = none) (hr : w.registry.row? id.toInt = some r)
    (h : ∀ q, r.decode ≠ .ok q)

theorem ask_get_of_fault {e : StoreError} (h : w.fault? .get = some e) :
    (w.ask (.get id) w.registry).1 = .error e := by
  rw [ask_of_fault?_eq_some (c := .get id) h]

theorem ask_get_of_noFault (h : w.fault? .get = none) :
    (w.ask (.get id) w.registry).1 = w.registry.get id := by
  rw [ask_of_fault?_eq_none (c := .get id) h]
  rfl

/-- A failure to get a platform tells by its class whether there is a row. -/
theorem cls_of_ask_get {e : StoreError} (h : (w.ask (.get id) w.registry).1 = .error e) :
    (w.Misses id ∧ (ServiceError.store e).cls = .notFound) ∨
      (w.Breaks id ∧ (ServiceError.store e).cls = .internal) := by
  cases hf : w.fault? .get with
  | some e' =>
    rw [ask_get_of_fault hf] at h
    cases h
    cases e with
    | notFound what => exact .inl ⟨.fault hf, rfl⟩
    | storage reason => exact .inr ⟨.fault hf nofun, rfl⟩
    | decoding reason => exact .inr ⟨.fault hf nofun, rfl⟩
  | none =>
    rw [ask_get_of_noFault hf, Registry.get] at h
    cases hr : w.registry.row? id.toInt with
    | none =>
      rw [hr] at h
      cases h
      exact .inl ⟨.row hf hr, rfl⟩
    | some r =>
      rw [hr] at h
      refine .inr ⟨.row hf hr fun q hq => ?_, Row.cls_of_decode h⟩
      cases h.symm.trans hq

theorem stores_of_ask_get {q : Platform} (h : (w.ask (.get id) w.registry).1 = .ok q) :
    ∃ r, w.Stores id r q := by
  have hf := fault?_eq_none_of_ok h
  rw [ask_get_of_noFault hf] at h
  obtain ⟨r, hr, hd⟩ := Registry.get_eq_ok_iff.mp h
  exact ⟨r, hf, hr, hd⟩

end World

namespace Program

theorem fst_runIn_post (p : Post) (w : World) :
    ((post p).runIn w).1 = (w.endpoint.ask p).1 := rfl

theorem endpoint_runIn_note (e : Event) (w : World) :
    ((note e).runIn w).2.endpoint = w.endpoint := rfl

end Program

namespace Answers

/-- What a request has to be for a prompt to the platform of a row. -/
structure Carries (r : Row) (prompt : String) (post : Post) : Prop where
  url : post.url = Text.trim r.url
  bearer : ∀ key, post.bearer? = some key ↔ key = r.accessKey ∧ key ≠ ""
  model : post.body.model = r.model
  messages : post.body.messages = [⟨"user", prompt⟩]
  stream : post.body.stream = false

/-- What a result has to be for what becomes of a request to a kind of platform. -/
inductive Becomes (kind : Kind) : Outcome → AnswerResult → Prop
  | interrupted : Becomes kind .interrupted (.failed "Request cancelled")
  | timeout (limit : Duration) : Becomes kind (.failed (.timeout limit))
      (.failed ("AI platform request timed out after " ++ limit.text))
  | connect (reason : String) : Becomes kind (.failed (.connect reason))
      (.failed ("Failed to connect to AI platform: " ++ reason))
  | body (reason : String) : Becomes kind (.failed (.body reason))
      (.failed ("Failed to read response: " ++ reason))
  | reply {r : PostReply} {result : AnswerResult} (h : Judged kind r result) :
    Becomes kind (.reply r) result

/-- What a prompt comes to in a world, and the requests that are sent for it. -/
inductive Decision (w : World) (reference prompt : String) :
    Bool → Except ServiceError AnswerResult → List Post → Prop
  | malformed {givenUp : Bool} {e : ServiceError}
    (h : ∀ id, ¬ Reference.Refers (Text.trimChars reference.toList) id)
    (he : e.cls = .invalidArgument) : Decision w reference prompt givenUp (.error e) []
  | missing {givenUp : Bool} {e : ServiceError} {id : Int32}
    (h : Reference.Refers (Text.trimChars reference.toList) id) (hm : w.Misses id)
    (he : e.cls = .notFound) : Decision w reference prompt givenUp (.error e) []
  | broken {givenUp : Bool} {e : ServiceError} {id : Int32}
    (h : Reference.Refers (Text.trimChars reference.toList) id) (hb : w.Breaks id)
    (he : e.cls = .internal) : Decision w reference prompt givenUp (.error e) []
  | givenUp {r : Row} {q : Platform} {id : Int32}
    (h : Reference.Refers (Text.trimChars reference.toList) id) (hr : w.Stores id r q) :
    Decision w reference prompt true (.ok (.failed "Request cancelled")) []
  | sent {r : Row} {q : Platform} {id : Int32} {post : Post} {result : AnswerResult}
    (h : Reference.Refers (Text.trimChars reference.toList) id) (hr : w.Stores id r q)
    (hc : Carries r prompt post)
    (hb : Becomes (Kind.ofTag r.kindTag) (w.endpoint.ask post).1 result) :
    Decision w reference prompt false (.ok result) [post]

variable {r : Row} {q : Platform}

theorem carries_request (prompt : String) (h : r.decode = .ok q) :
    Carries r prompt (request q prompt) := by
  obtain ⟨-, hp, -⟩ := Row.decode_eq_ok_iff.mp h
  refine { url := ?_, bearer := fun key => ?_, model := ?_, messages := rfl, stream := rfl }
  · rw [request, hp]
    rfl
  · rw [request, Platform.hasAccessKey, hp, Option.ite_none_right_eq_some, bne_iff_ne,
      Option.some.injEq]
    constructor
    · rintro ⟨hk, rfl⟩
      exact ⟨rfl, hk⟩
    · rintro ⟨rfl, hk⟩
      exact ⟨hk, rfl⟩
  · rw [request, hp]
    rfl

theorem becomes_ask (prompt : String) (h : r.decode = .ok q) (w : World) :
    Becomes (Kind.ofTag r.kindTag) (w.endpoint.ask (request q prompt)).1
      ((ask q prompt).runIn w).1 := by
  have hk : q.profile.kind = Kind.ofTag r.kindTag :=
    congrArg Profile.kind (Row.decode_eq_ok_iff.mp h).2.1
  rw [← hk]
  unfold ask
  rw [Program.runIn_bind, Program.runIn_bind, Program.fst_runIn_post,
    Program.endpoint_runIn_note]
  cases (w.endpoint.ask (request q prompt)).1 with
  | interrupted => exact .interrupted
  | failed e =>
    cases e with
    | timeout limit => exact .timeout limit
    | connect reason => exact .connect reason
    | body reason => exact .body reason
  | reply r =>
    rw [Program.runIn_bind]
    exact .reply (judged_resultOf q.profile.kind r)

/-- A prompt comes to what is decided for it. -/
theorem decision_generate (w : World) (reference prompt : String) (givenUp : Bool) :
    ∃ posts, ((generate reference prompt givenUp).runIn w).2.sent = w.sent ++ posts ∧
      Decision w reference prompt givenUp
        ((generate reference prompt givenUp).runIn w).1 posts := by
  unfold Action.runIn
  rw [run_generate]
  cases hr : Reference.read reference with
  | error fault =>
    refine ⟨[], (List.append_nil _).symm, .malformed (fun id h => ?_) rfl⟩
    cases hr.symm.trans (Reference.read_eq_ok_iff.mpr h)
  | ok id =>
    have h := Reference.read_eq_ok_iff.mp hr
    dsimp only
    rw [← w.on_registry, Program.runIn_store]
    simp only [World.on_registry]
    cases hg : (w.ask (.get id) w.registry).1 with
    | error e =>
      refine ⟨[], (List.append_nil _).symm, ?_⟩
      obtain ⟨hm, he⟩ | ⟨hb, he⟩ := World.cls_of_ask_get hg
      · exact .missing h hm he
      · exact .broken h hb he
    | ok q =>
      obtain ⟨r, hs⟩ := World.stores_of_ask_get hg
      dsimp only
      rw [Program.runIn_map, World.ask_get_snd]
      cases givenUp with
      | true => exact ⟨[], (List.append_nil _).symm, .givenUp h hs⟩
      | false =>
        exact ⟨[request q prompt], sent_ask prompt q w,
          .sent h hs (carries_request prompt hs.decode) (becomes_ask prompt hs.decode w)⟩

end Answers

end PromptGateway
