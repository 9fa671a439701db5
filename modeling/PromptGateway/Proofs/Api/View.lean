import PromptGateway.Api.Resource
import PromptGateway.Proofs.Json.Written

/-! # Views in requests

The text of a view is read as the profile that it shows: what a profile has no member for is passed
over, and the credential is blank. Put into the body of an update, it is read as the new values.
-/

namespace PromptGateway

theorem Kind.writes (k : Kind) : Kind.shape.Writes k.toCarrier := by
  cases k <;> exact Json.Shape.writes_tag rfl

@[simp] theorem Kind.ofCarrier_toCarrier (k : Kind) : Kind.ofCarrier k.toCarrier = k := by
  cases k <;> rfl

namespace Api

open Json (stringChars integerChars recordText memberText symbols ValueText)

namespace PlatformView

/-- The profile that a view shows, as it is read from it. -/
def profile (v : PlatformView) : profileShape.Carrier :=
  (v.kind.toCarrier, v.url, "", v.displayName, v.description, v.model, ())

def parts (v : PlatformView) : List (String × List Char) :=
  [("name", stringChars v.name), ("id", integerChars v.id.toInt),
    ("platformType", Kind.shape.chars v.kind.toCarrier), ("url", stringChars v.url),
    ("hasAccessKey", Json.Shape.flag.chars v.hasAccessKey),
    ("displayName", stringChars v.displayName), ("description", stringChars v.description),
    ("model", stringChars v.model), ("createTime", integerChars v.createTime.toInt),
    ("updateTime", integerChars v.updateTime.toInt)]

theorem toList_text (v : PlatformView) : v.text.toList = recordText v.parts := by
  rw [text, Json.Shape.write, String.toList_ofList]
  rfl

theorem length_model_lt (v : PlatformView) : v.model.toList.length < v.text.toList.length := by
  have hm : ("model", stringChars v.model) ∈ v.parts := by simp [parts]
  rw [toList_text]
  exact Nat.lt_of_le_of_lt (Json.length_le_stringChars v.model) (Json.length_lt_recordText hm)

theorem valueText_of_mem_parts (v : PlatformView) : ∀ m ∈ v.parts, ValueText (symbols m.2) := by
  have ht (s : String) : ValueText (symbols (stringChars s)) :=
    .string (Json.stringText_stringChars s).quoted
  have hn (n : Int) : ValueText (symbols (integerChars n)) :=
    .number (Json.numberText_integerChars n)
  have hk := Kind.shape.valued _ _ v.kind.writes
  have hf := Json.Shape.valued_flag v.hasAccessKey _ rfl
  simp only [parts, List.forall_mem_cons]
  exact ⟨ht _, hn _, hk, ht _, hf, ht _, ht _, ht _, hn _, hn _, List.forall_mem_nil _⟩

/-- A view is a text of the profile that it shows: no member of it is read as the credential. -/
theorem spelled_text (v : PlatformView) :
    profileShape.Spelled v.profile (symbols v.text.toList) := by
  have ht (s : String) := Json.Shape.writes_text s
  rw [toList_text]
  refine .inr ⟨_, (some v.kind.toCarrier, some v.url, none, some v.displayName, some v.description,
    some v.model, ()), Json.objectText_recordText v.parts, ?_, rfl, fun m hm _ => ⟨rfl, ?_⟩⟩
  · exact ⟨⟨_, rfl, v.kind.writes⟩, ⟨_, rfl, ht v.url⟩, rfl, ⟨_, rfl, ht v.displayName⟩,
      ⟨_, rfl, ht v.description⟩, ⟨_, rfl, ht v.model⟩, trivial⟩
  · obtain ⟨n, hn, rfl⟩ := List.mem_map.mp hm
    exact v.valueText_of_mem_parts n hn

end PlatformView

/-- The ways to send a view back without a mask or with an empty one. -/
inductive Envelope
  | bare
  | maskBehind
  | maskBefore

def Envelope.around (view : String) : Envelope → String
  | bare => "\x7b\"platform\":" ++ view ++ "\x7d"
  | maskBehind => "\x7b\"platform\":" ++ view ++ ",\"updateMask\":[]\x7d"
  | maskBefore => "\x7b\"updateMask\":[],\"platform\":" ++ view ++ "\x7d"

def Envelope.parts (view : String) : Envelope → List (String × List Char)
  | bare => [("platform", view.toList)]
  | maskBehind => [("platform", view.toList), ("updateMask", ['[', ']'])]
  | maskBefore => [("updateMask", ['[', ']']), ("platform", view.toList)]

theorem memberText_platform (cs : List Char) :
    memberText ("platform", cs) = "\"platform\":".toList ++ cs := by
  rw [memberText, show stringChars "platform" = "\"platform\"".toList from by decide]
  rfl

theorem Envelope.toList_around (e : Envelope) (view : String) :
    (e.around view).toList = recordText (e.parts view) := by
  cases e with
  | bare =>
    change ("\x7b\"platform\":" ++ view ++ "\x7d").toList = recordText [("platform", view.toList)]
    rw [String.toList_append, String.toList_append, Json.recordText_cons, memberText_platform,
      List.append_assoc, List.append_assoc]
    rfl
  | maskBehind =>
    change ("\x7b\"platform\":" ++ view ++ ",\"updateMask\":[]\x7d").toList =
      recordText [("platform", view.toList), ("updateMask", ['[', ']'])]
    rw [String.toList_append, String.toList_append, Json.recordText_cons, memberText_platform,
      List.append_assoc, List.append_assoc]
    rfl
  | maskBefore =>
    change ("\x7b\"updateMask\":[],\"platform\":" ++ view ++ "\x7d").toList =
      recordText [("updateMask", ['[', ']']), ("platform", view.toList)]
    rw [String.toList_append, String.toList_append, Json.recordText_cons, List.map_singleton,
      List.flatMap_singleton, memberText_platform, List.append_assoc, List.cons_append,
      List.append_assoc]
    rfl

theorem Envelope.length_lt_around (e : Envelope) (view : String) :
    view.toList.length < (e.around view).toList.length := by
  have hm : ("platform", view.toList) ∈ e.parts view := by cases e <;> simp [parts]
  rw [toList_around]
  exact Json.length_lt_recordText hm

/-- The mask that is read from a body. -/
def Envelope.mask? : Envelope → Option (List String)
  | bare => none
  | maskBehind => some []
  | maskBefore => some []

/-- The text of a profile in an envelope is one of an update without a mask. -/
theorem Envelope.spelled_around (e : Envelope) {view : String} {v : profileShape.Carrier}
    (h : profileShape.Spelled v (symbols view.toList)) :
    updateShape.Spelled (v, [], ()) (symbols (e.around view).toList) := by
  have hl : Json.ListText Json.StringText [] (symbols ['[', ']']) :=
    ⟨[], .nil Json.blank_nil, rfl⟩
  have hk : ∀ m ∈ e.parts view, m.1 ∈ ["platform", "updateMask"] := by
    cases e <;> simp [parts]
  rw [toList_around]
  refine .inr ⟨_, (some v, e.mask?, ()), Json.objectText_recordText (e.parts view), ?_,
    by cases e <;> rfl, fun m hm hu => ?_⟩
  · cases e with
    | bare => exact ⟨⟨_, rfl, h⟩, rfl, trivial⟩
    | maskBehind => exact ⟨⟨_, rfl, h⟩, ⟨_, rfl, hl⟩, trivial⟩
    | maskBefore => exact ⟨⟨_, rfl, h⟩, ⟨_, rfl, hl⟩, trivial⟩
  · obtain ⟨n, hn, rfl⟩ := List.mem_map.mp hm
    exact absurd (hk n hn) hu

end Api

end PromptGateway
