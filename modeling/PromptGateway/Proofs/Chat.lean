import PromptGateway.Proofs.Json.Written
import PromptGateway.Answer.Chat

/-! # Chat requests and results carry any text

Whatever stands in a request or a result, its text is read back as it was. An object is read as a
result if and only if it has a truth value and the matching one of an answer and a reason.
-/

namespace PromptGateway

open Json (Cursor Fields ObjectDocument Shape StringText textsOf)
open Utf8 (Symbol)

/-! ## Requests -/

theorem ChatMessage.writes (m : ChatMessage) : ChatMessage.shape.Writes m.toCarrier := by
  refine Shape.writes_record ?_ ?_ "ChatMessage" false
  · decide
  · exact ⟨fun _ => Shape.writes_text m.role, fun _ => Shape.writes_text m.content, trivial⟩

namespace ChatRequest

theorem writes (r : ChatRequest) : shape.Writes r.toCarrier := by
  have hm : (Shape.list ChatMessage.shape).Writes (r.messages.map ChatMessage.toCarrier) :=
    Shape.writes_list (List.forall_mem_map.mpr fun m _ => m.writes)
  refine Shape.writes_record ?_ ?_ "ChatRequest" false
  · decide
  · exact ⟨fun _ => Shape.writes_text r.model, fun _ => hm, fun _ => Shape.writes_flag r.stream,
      trivial⟩

def read (c : Cursor) : Except Json.Failure ChatRequest := (shape.readAll c).map ofCarrier

theorem ofCarrier_toCarrier (r : ChatRequest) : ofCarrier r.toCarrier = r := by
  have hm : ChatMessage.ofCarrier ∘ ChatMessage.toCarrier = id := rfl
  simp [ofCarrier, toCarrier, hm]

theorem read_text (r : ChatRequest) : read (.ofString r.text) = .ok r := by
  rw [read, text, r.writes.readAll (by decide) (by decide)]
  exact congrArg Except.ok r.ofCarrier_toCarrier

end ChatRequest

/-! ## Results -/

namespace AnswerResult

variable {r : AnswerResult} {c : Cursor} {members : List (String × List Symbol)}

theorem writes (m : shape.Carrier) : shape.Writes m := by
  have ho (v : Option String) (h : (Shape.optional .text).omits v = false) :
      (Shape.optional .text).Writes v := by
    cases v with
    | none => cases h
    | some s => exact (Shape.writes_text s).some
  obtain ⟨success, answer, reason, ⟨⟩⟩ := m
  refine Shape.writes_record ?_ ?_ "AnswerResultWire" false
  · decide
  · exact ⟨fun _ => Shape.writes_flag success, ho answer, ho reason, trivial⟩

theorem ofCarrier_eq_ok_iff {m : shape.Carrier} : ofCarrier m = .ok r ↔ m = r.toCarrier := by
  constructor
  · intro h
    unfold ofCarrier at h
    split at h <;> cases h <;> rfl
  · rintro rfl
    cases r <;> rfl

theorem read_eq_ok_iff : read c = .ok r ↔ shape.readAll c = .ok r.toCarrier := by
  simp only [read, Shape.readAll, bind_eq_ok_iff, mapError_eq_ok_iff, ofCarrier_eq_ok_iff]
  constructor
  · rintro ⟨⟨m, c'⟩, hr, _, rfl, u, he, h⟩
    cases h
    exact ⟨_, hr, u, he, rfl⟩
  · rintro ⟨⟨m, c'⟩, hr, u, he, h⟩
    cases h
    exact ⟨_, hr, r, rfl, u, he, rfl⟩

/-- Members are read as a result only if they are those of this result. -/
theorem read_write_iff {m : shape.Carrier} :
    read (.ofString (shape.write m)) = .ok r ↔ m = r.toCarrier := by
  rw [read_eq_ok_iff, (writes m).readAll (by decide) (by decide)]
  exact ⟨Except.ok.inj, congrArg Except.ok⟩

/-- That a member that may be left out gives a string, or nothing: then it lacks or says so. -/
def Gives (members : List (String × List Symbol)) (name : String) : Option String → Prop
  | some s => ∃ t, textsOf name members = [t] ∧ StringText s t
  | none => textsOf name members = [] ∨ textsOf name members = [Json.symbols "null".toList]

/-- That the members of an object are those of a result, whatever other members it has. -/
structure Tells (members : List (String × List Symbol)) (r : AnswerResult) : Prop where
  success : textsOf "success" members =
    [Json.symbols (if r.isSuccess then "true".toList else "false".toList)]
  answer : Gives members "answer" r.answer?
  reason : Gives members "errorMessage" r.reason?

theorem gives_of_holds {name : String} {rest : Fields} {slot : Option (Option String)}
    {slots : rest.Slots} {v : Option String}
    (h : (Fields.cons name .defaulted (.optional .text) rest).Holds members (slot, slots))
    (hv : slot.or (Fields.absent? .defaulted (.optional .text)) = some v) :
    Gives members name v := by
  match slot, h.1, hv with
  | none, h, rfl => exact .inl h
  | some none, ⟨t, ht, hs⟩, rfl => exact .inr (ht.trans (congrArg (fun t => [t]) hs))
  | some (some s), ⟨t, ht, hs⟩, rfl => exact ⟨t, ht, hs⟩

theorem Gives.exists_holds {name : String} {v : Option String} (h : Gives members name v)
    {rest : Fields} {slots : rest.Slots} (hr : rest.Holds members slots) (hn : name ∉ rest.keys) :
    ∃ slot,
      (Fields.cons name .defaulted (.optional .text) rest).Holds members (slot, slots) ∧
        slot.or (Fields.absent? .defaulted (.optional .text)) = some v := by
  have hr' := (rest.holds_filter_iff hn).mpr hr
  cases v with
  | some s =>
    obtain ⟨t, ht, hs⟩ := h
    exact ⟨some (some s), ⟨⟨t, ht, hs⟩, hr'⟩, rfl⟩
  | none =>
    obtain ht | ht := h
    · exact ⟨none, ⟨ht, hr'⟩, rfl⟩
    · exact ⟨some none, ⟨⟨_, ht, rfl⟩, hr'⟩, rfl⟩

theorem toCarrier_eq (r : AnswerResult) :
    r.toCarrier = (r.isSuccess, r.answer?, r.reason?, ()) := by
  cases r <;> rfl

/-- The texts from which a result is read: lists of its members, and objects that tell it. -/
theorem tells_of_spelled {t : List Symbol} (h : shape.Spelled r.toCarrier t) :
    (∃ items, Json.ListText (· = ·) items t) ∨
    ∃ members, Json.ObjectText StringText members t ∧ (∀ m ∈ members, Json.ValueText m.2) ∧
      Tells members r := by
  obtain ⟨items, hl, -⟩ | ⟨members, ⟨success, answer, reason, ⟨⟩⟩, ho, hh, hf, hu⟩ := h
  · exact .inl ⟨items, hl⟩
  · have ha := (Fields.holds_filter_iff _ (by decide)).mp hh.2
    have hr := (Fields.holds_filter_iff _ (by decide)).mp ha.2
    rw [toCarrier_eq] at hf
    obtain ⟨hfs, hf⟩ := Fields.fill_cons_eq_ok_iff.mp hf
    obtain ⟨hfa, hf⟩ := Fields.fill_cons_eq_ok_iff.mp hf
    obtain ⟨hfr, -⟩ := Fields.fill_cons_eq_ok_iff.mp hf
    refine .inr ⟨members, ho, fun m hm => ?_, ?_, gives_of_holds ha hfa, gives_of_holds hr hfr⟩
    · by_cases hk : m.1 ∈ ["success", "answer", "errorMessage"]
      · exact Fields.valuedByName _ _ _ hh m hm hk
      · exact (hu m hm hk).2
    · match success, hh.1, hfs with
      | some _, ⟨t, ht, hs⟩, rfl => exact ht.trans (congrArg (fun t => [t]) hs)

theorem Tells.spelled {t : List Symbol} (h : Tells members r)
    (ho : Json.ObjectText StringText members t) (hv : ∀ m ∈ members, Json.ValueText m.2) :
    shape.Spelled r.toCarrier t := by
  have hn : Fields.nil.Holds members () := trivial
  obtain ⟨reason, hr, hfr⟩ := h.reason.exists_holds hn List.not_mem_nil
  obtain ⟨answer, ha, hfa⟩ := h.answer.exists_holds hr (by decide)
  refine .inr ⟨members, (some r.isSuccess, answer, reason, ()), ho,
    ⟨⟨_, h.success, rfl⟩, (Fields.holds_filter_iff _ (by decide)).mpr ha⟩, ?_,
    fun m hm _ => ⟨rfl, hv m hm⟩⟩
  rw [toCarrier_eq]
  exact Fields.fill_cons_eq_ok_iff.mpr ⟨rfl, Fields.fill_cons_eq_ok_iff.mpr
    ⟨hfa, Fields.fill_cons_eq_ok_iff.mpr ⟨hfr, rfl⟩⟩⟩

/-- An object is read as a result if and only if its members tell this result. -/
theorem read_object_iff (ho : ∃ members, ObjectDocument members c.rest) :
    read c = .ok r ↔ ∃ members, ObjectDocument members c.rest ∧ Tells members r := by
  rw [read_eq_ok_iff, Shape.readAll_eq_ok_iff (by decide) (by decide)]
  constructor
  · rintro ⟨b, t, b', hb, ht, hb', hl⟩
    obtain ⟨items, hi⟩ | ⟨members, hm, hv, ht⟩ := tells_of_spelled ht
    · obtain ⟨members, hm, -⟩ := ho
      exact (Json.Document.not_list_and_object ⟨b, t, b', hb, hi, hb', hl⟩ hm).elim
    · exact ⟨members, ⟨⟨b, t, b', hb, hm, hb', hl⟩, hv⟩, ht⟩
  · rintro ⟨members, ⟨⟨b, t, b', hb, hm, hb', hl⟩, hv⟩, ht⟩
    exact ⟨b, t, b', hb, ht.spelled hm hv, hb', hl⟩

example : read (.ofString
    "\x7b\"errorMessage\": null, \"note\": [1], \"success\": true, \"answer\": \"a\\n\"\x7d") =
      .ok (.answered "a\n") := by rfl

end AnswerResult

/--
Requests and results are read back from their texts whatever strings they hold; members that are
those of no result are refused, and an object is read as a result exactly if its members tell it.
-/
theorem chat_texts_faithful :
    (∀ r : AnswerResult, AnswerResult.read (.ofString r.text) = .ok r) ∧
    (∀ m r, AnswerResult.read (.ofString (AnswerResult.shape.write m)) = .ok r ↔
      m = AnswerResult.toCarrier r) ∧
    (∀ r : ChatRequest, ChatRequest.read (.ofString r.text) = .ok r) ∧
    (∀ model prompt r, ChatRequest.read (.ofString (ChatRequest.ofPrompt model prompt).text) =
      .ok r ↔ r = ⟨model, [⟨"user", prompt⟩], false⟩) ∧
    ∀ c r, (∃ members, ObjectDocument members c.rest) →
      (AnswerResult.read c = .ok r ↔
        ∃ members, ObjectDocument members c.rest ∧ AnswerResult.Tells members r) := by
  refine ⟨fun r => AnswerResult.read_write_iff.mpr rfl, fun m r => AnswerResult.read_write_iff,
    ChatRequest.read_text, fun model prompt r => ?_, fun c r => AnswerResult.read_object_iff⟩
  rw [ChatRequest.read_text]
  exact ⟨fun h => (Except.ok.inj h).symm, fun h => congrArg Except.ok h.symm⟩

/-- An object that gives an answer and says that it has no reason. -/
theorem chat_texts_faithful_null : ∃ members,
    ObjectDocument members (Cursor.ofString
      "\x7b\"errorMessage\":null,\"success\":true,\"answer\":\"a\"\x7d").rest ∧
    AnswerResult.Tells members (.answered "a") := by
  have hm (name : String) (t : List Symbol) : Json.MemberText StringText (name, t)
      (Json.symbols (Json.stringChars name) ++ .char ':' :: t) :=
    ⟨_, [], [], Json.stringText_stringChars name, Json.blank_nil, Json.blank_nil, rfl⟩
  have hg : Json.Gap false [.char ','] := ⟨[], [], Json.blank_nil, Json.blank_nil, rfl⟩
  have ho : ObjectDocument [("errorMessage", Json.symbols "null".toList),
      ("success", Json.symbols "true".toList), ("answer", Json.symbols (Json.stringChars "a"))]
      (Cursor.ofString
        "\x7b\"errorMessage\":null,\"success\":true,\"answer\":\"a\"\x7d").rest := by
    refine ⟨⟨[], _, [], Json.blank_nil, ⟨_, .cons Json.blank_nil (hm _ _) (.cons hg (hm _ _)
      (.cons hg (hm _ _) (.nil Json.blank_nil))), rfl⟩, Json.blank_nil, by rfl⟩, ?_⟩
    simp only [List.forall_mem_cons]
    exact ⟨.null, .true, .string (Json.stringText_stringChars "a").quoted, List.forall_mem_nil _⟩
  obtain ⟨-, -, -, -, h⟩ := chat_texts_faithful
  exact (h _ _ ⟨_, ho⟩).mp rfl

end PromptGateway
