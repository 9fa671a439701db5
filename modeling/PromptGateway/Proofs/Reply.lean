import Mathlib.Data.List.Basic
import PromptGateway.Service.Answers

/-! # What a reply says

Each kind of platform has one place in the JSON of a reply where its answer stands. The result of a
reply is the text at this place, or a message that says what the reply lacks.
-/

namespace PromptGateway

/-- A step into a JSON value: to the member of an object, or to the first item of an array. -/
inductive Json.Step
  | member (name : String)
  | first

/--
The steps that lead from a JSON value to a part of it. Where a name occurs twice among the members
of an object, the last one counts.
-/
inductive Json.Leads : List Step → Value → Value → Prop
  | here (v : Value) : Leads [] v v
  | member {name : String} {steps : List Step} {v w : Value} {before after : List (String × Value)}
    (hn : name ∉ after.map Prod.fst) (h : Leads steps v w) :
    Leads (.member name :: steps) (.object (before ++ (name, v) :: after)) w
  | first {steps : List Step} {v w : Value} {items : List Value} (h : Leads steps v w) :
    Leads (.first :: steps) (.array (v :: items)) w

namespace Json

variable {name : String} {steps : List Step} {v w : Value}

theorem Value.get?_eq_some_iff : v.get? name = some w ↔
    ∃ before after, v = .object (before ++ (name, w) :: after) ∧ name ∉ after.map Prod.fst := by
  constructor
  · intro h
    cases v with
    | object members =>
      obtain ⟨⟨key, u⟩, hf, rfl⟩ := Option.map_eq_some_iff.mp h
      obtain ⟨hk, before, after, he, hn⟩ := List.find?_eq_some_iff_append.mp hf
      obtain rfl : key = name := by simpa using hk
      refine ⟨after.reverse, before.reverse, ?_, ?_⟩
      · rw [← members.reverse_reverse, he]
        simp
      · rw [List.map_reverse, List.mem_reverse, List.mem_map]
        rintro ⟨m, hm, rfl⟩
        simpa using hn m hm
    | _ => cases h
  · rintro ⟨before, after, rfl, hn⟩
    refine Option.map_eq_some_iff.mpr ⟨(name, w), ?_, rfl⟩
    refine List.find?_eq_some_iff_append.mpr
      ⟨beq_self_eq_true name, after.reverse, before.reverse, by simp, fun m hm => ?_⟩
    rw [Bool.not_eq_true', beq_eq_false_iff_ne]
    rintro rfl
    exact hn (List.mem_map_of_mem (List.mem_reverse.mp hm))

theorem Value.items?_eq_some_iff {items : List Value} :
    v.items? = some items ↔ v = .array items := by
  cases v <;> simp [items?]

theorem Value.string?_eq_some_iff {s : String} : v.string? = some s ↔ v = .string s := by
  cases v <;> simp [string?]

theorem leads_nil_iff : Leads [] v w ↔ v = w := by
  constructor
  · rintro ⟨⟩
    rfl
  · rintro rfl
    exact .here v

theorem leads_member_iff : Leads (.member name :: steps) v w ↔
    ∃ u, v.get? name = some u ∧ Leads steps u w := by
  simp only [Value.get?_eq_some_iff]
  constructor
  · intro h
    cases h with
    | member hn h => exact ⟨_, ⟨_, _, rfl, hn⟩, h⟩
  · rintro ⟨u, ⟨before, after, rfl, hn⟩, h⟩
    exact .member hn h

theorem leads_first_iff : Leads (.first :: steps) v w ↔
    ∃ items u, v.items? = some items ∧ items.head? = some u ∧ Leads steps u w := by
  constructor
  · intro h
    cases h with
    | first h => exact ⟨_, _, rfl, rfl, h⟩
  · rintro ⟨items, u, hi, hu, h⟩
    obtain rfl := Value.items?_eq_some_iff.mp hi
    obtain ⟨rest, rfl⟩ := List.head?_eq_some_iff.mp hu
    exact .first h

end Json

namespace Reply

/-- Where the answer stands in the replies of a kind of platform. -/
def place : Kind → List Json.Step
  | .unspecified => [.member "response"]
  | .ollama => [.member "message", .member "content"]
  | .deepseek => [.member "choices", .first, .member "message", .member "content"]

def finish : Kind → String → String
  | .ollama => Think.strip
  | .unspecified | .deepseek => id

theorem answer?_eq_some_iff {kind : Kind} {reply : Json.Value} {a : String} :
    answer? kind reply = some a ↔
      ∃ s, Json.Leads (place kind) reply (.string s) ∧ finish kind s = a := by
  cases kind with
  | unspecified =>
    simp [answer?, place, finish, Option.bind_eq_some_iff, Json.leads_member_iff,
      Json.leads_nil_iff, Json.Value.string?_eq_some_iff]
  | ollama =>
    simp only [answer?, place, finish, Option.bind_eq_bind, Option.bind_eq_some_iff,
      Option.pure_def, Option.some.injEq, Json.leads_member_iff, Json.leads_nil_iff,
      Json.Value.string?_eq_some_iff]
    constructor
    · rintro ⟨message, hm, content, hc, s, hs, ha⟩
      exact ⟨s, ⟨message, hm, content, hc, hs⟩, ha⟩
    · rintro ⟨s, ⟨message, hm, content, hc, hs⟩, ha⟩
      exact ⟨message, hm, content, hc, s, hs, ha⟩
  | deepseek =>
    simp [answer?, place, finish, Option.bind_eq_some_iff, Json.leads_member_iff,
      Json.leads_first_iff, Json.leads_nil_iff, Json.Value.string?_eq_some_iff]

end Reply

namespace Answers

open Json (Leads)

/-- What a result has to be for a reply of a kind of platform. -/
structure Judged (kind : Kind) (r : PostReply) (result : AnswerResult) : Prop where
  answered : ∀ a, result = .answered a ↔ r.status = 200 ∧
    ∃ v s, Json.Value.read (.ofString r.body) = .ok v ∧
      Leads (Reply.place kind) v (.string s) ∧ a = Reply.finish kind s
  failed : ∀ reason, result = .failed reason ↔
    (r.status ≠ 200 ∧
      reason = "AI platform returned error status: " ++ toString r.status ++ ", body: " ++ r.body) ∨
    (r.status = 200 ∧ ∃ failure, Json.Value.read (.ofString r.body) = .error failure ∧
      reason = "Failed to parse response: " ++ failure.message) ∨
    (r.status = 200 ∧ ∃ v, Json.Value.read (.ofString r.body) = .ok v ∧
      (∀ s, ¬ Leads (Reply.place kind) v (.string s)) ∧
      reason = "Failed to parse response: invalid " ++ kind.label ++ " response format")

variable {kind : Kind} {r : PostReply}

theorem resultOf_of_status_ne (h : r.status ≠ 200) : resultOf kind r =
    .failed ("AI platform returned error status: " ++ toString r.status ++ ", body: " ++ r.body) :=
  if_pos h

theorem resultOf_of_read_error {failure : Json.Failure} (h : r.status = 200)
    (hv : Json.Value.read (.ofString r.body) = .error failure) :
    resultOf kind r = .failed ("Failed to parse response: " ++ failure.message) := by
  rw [resultOf, okStatus, if_neg (not_not_intro h), hv]

theorem resultOf_of_leads {v : Json.Value} {s : String} (h : r.status = 200)
    (hv : Json.Value.read (.ofString r.body) = .ok v)
    (hs : Leads (Reply.place kind) v (.string s)) :
    resultOf kind r = .answered (Reply.finish kind s) := by
  rw [resultOf, okStatus, if_neg (not_not_intro h), hv]
  dsimp only
  rw [Reply.answer?_eq_some_iff.mpr ⟨s, hs, rfl⟩]

theorem resultOf_of_misplaced {v : Json.Value} (h : r.status = 200)
    (hv : Json.Value.read (.ofString r.body) = .ok v)
    (hs : ∀ s, ¬ Leads (Reply.place kind) v (.string s)) : resultOf kind r =
      .failed ("Failed to parse response: invalid " ++ kind.label ++ " response format") := by
  have hn : Reply.answer? kind v = none := by
    cases ha : Reply.answer? kind v with
    | none => rfl
    | some a =>
      obtain ⟨s, hl, -⟩ := Reply.answer?_eq_some_iff.mp ha
      exact absurd hl (hs s)
  rw [resultOf, okStatus, if_neg (not_not_intro h), hv]
  dsimp only
  rw [hn]
  refine congrArg AnswerResult.failed ?_
  rw [Reply.shapeMessage, ← String.append_assoc, ← String.append_assoc]
  rfl

theorem reply_cases (kind : Kind) (r : PostReply) : r.status ≠ 200 ∨ r.status = 200 ∧
    ((∃ failure, Json.Value.read (.ofString r.body) = .error failure) ∨
      ∃ v, Json.Value.read (.ofString r.body) = .ok v ∧
        ((∃ s, Leads (Reply.place kind) v (.string s)) ∨
          ∀ s, ¬ Leads (Reply.place kind) v (.string s))) := by
  by_cases h : r.status = 200
  · cases hv : Json.Value.read (.ofString r.body) with
    | error failure => exact .inr ⟨h, .inl ⟨failure, rfl⟩⟩
    | ok v => exact .inr ⟨h, .inr ⟨v, rfl, (em _).imp_right not_exists.mp⟩⟩
  · exact .inl h

/-- The result of a reply is an answer exactly if there is one at its place. -/
theorem judged_resultOf (kind : Kind) (r : PostReply) : Judged kind r (resultOf kind r) where
  answered a := by
    constructor
    · intro hr
      obtain h | ⟨h, ⟨failure, hv⟩ | ⟨v, hv, ⟨s, hs⟩ | hs⟩⟩ := reply_cases kind r
      · rw [resultOf_of_status_ne h] at hr
        cases hr
      · rw [resultOf_of_read_error h hv] at hr
        cases hr
      · rw [resultOf_of_leads h hv hs] at hr
        cases hr
        exact ⟨h, v, s, hv, hs, rfl⟩
      · rw [resultOf_of_misplaced h hv hs] at hr
        cases hr
    · rintro ⟨h, v, s, hv, hs, rfl⟩
      exact resultOf_of_leads h hv hs
  failed reason := by
    constructor
    · intro hr
      obtain h | ⟨h, ⟨failure, hv⟩ | ⟨v, hv, ⟨s, hs⟩ | hs⟩⟩ := reply_cases kind r
      · rw [resultOf_of_status_ne h] at hr
        cases hr
        exact .inl ⟨h, rfl⟩
      · rw [resultOf_of_read_error h hv] at hr
        cases hr
        exact .inr (.inl ⟨h, failure, hv, rfl⟩)
      · rw [resultOf_of_leads h hv hs] at hr
        cases hr
      · rw [resultOf_of_misplaced h hv hs] at hr
        cases hr
        exact .inr (.inr ⟨h, v, hv, hs, rfl⟩)
    · rintro (⟨h, rfl⟩ | ⟨h, failure, hv, rfl⟩ | ⟨h, v, hv, hs, rfl⟩)
      · exact resultOf_of_status_ne h
      · exact resultOf_of_read_error h hv
      · exact resultOf_of_misplaced h hv hs

end Answers

end PromptGateway
