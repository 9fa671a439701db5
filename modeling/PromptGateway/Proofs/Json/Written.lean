import PromptGateway.Proofs.Json.Completeness.Shape

/-! # What is written is a text of the value

The text that is written of a value is one of its texts, whatever characters its strings hold, so it
is read as this value.
-/

namespace PromptGateway.Json

open Utf8 (Symbol)

/-! ## Parts -/

section Parts

variable {α β : Type} {piece : β → List Symbol → Prop} {f : α → β} {text : α → List Char}
  {as : List α}

theorem parts_flatMap_comma (h : ∀ a ∈ as, piece (f a) (symbols (text a))) :
    Parts piece false (as.map f) (symbols ((as.map text).flatMap (',' :: ·))) := by
  induction as with
  | nil => exact .nil blank_nil
  | cons a as ih =>
    obtain ⟨ha, h⟩ := List.forall_mem_cons.mp h
    rw [List.map_cons, List.map_cons, List.flatMap_cons, symbols_append]
    exact .cons (g := [.char ',']) ⟨[], [], blank_nil, blank_nil, rfl⟩ ha (ih h)

theorem parts_joinMembers (h : ∀ a ∈ as, piece (f a) (symbols (text a))) :
    Parts piece true (as.map f) (symbols (joinMembers (as.map text))) := by
  cases as with
  | nil => exact .nil blank_nil
  | cons a as =>
    obtain ⟨ha, h⟩ := List.forall_mem_cons.mp h
    have hg : Gap true [] := blank_nil
    rw [List.map_cons, List.map_cons, joinMembers_cons, symbols_append]
    exact .cons hg ha (parts_flatMap_comma h)

end Parts

/-! ## Shapes -/

/-- That the text that is written of a value is a text of it. -/
def Shape.Writes (s : Shape) (v : s.Carrier) : Prop := s.Spelled v (symbols (s.chars v))

theorem Shape.writes_text (v : String) : Shape.text.Writes v := stringText_stringChars v

theorem Shape.writes_flag (v : Bool) : Shape.flag.Writes v := rfl

theorem Shape.writes_number (w : Width) (v : w.Carrier) : (Shape.number w).Writes v := rfl

theorem Shape.writes_tag {first : String} {others : List String} {i : Fin (others.length + 1)}
    (h : tagOf first others ((first :: others).getD i first) = .ok i) :
    (Shape.tag first others).Writes i :=
  ⟨_, h, .inl (stringText_stringChars _)⟩

theorem Shape.Writes.some {s : Shape} {v : s.Carrier} (h : s.Writes v) :
    (Shape.optional s).Writes (some v) := h

theorem Shape.writes_list {s : Shape} {vs : List s.Carrier} (h : ∀ v ∈ vs, s.Writes v) :
    (Shape.list s).Writes vs := by
  have hp := parts_joinMembers (f := id) h
  rw [List.map_id] at hp
  exact ⟨_, hp, by simp [Shape.chars]⟩

namespace Fields

def Writes : (fields : Fields) → fields.Carrier → Prop
  | .nil, () => True
  | .cons _ _ s rest, (v, vs) => (s.omits v = false → s.Writes v) ∧ rest.Writes vs

def written (fields : Fields) (vs : fields.Carrier) : List (String × List Symbol) :=
  (fields.parts vs).map fun m => (m.1, symbols m.2)

theorem mem_keys_of_written {fields : Fields} {vs : fields.Carrier} {m : String × List Symbol}
    (hm : m ∈ fields.written vs) : m.1 ∈ fields.keys := by
  obtain ⟨n, hn, rfl⟩ := List.mem_map.mp hm
  exact fields.mem_keys_of_parts vs n hn

theorem holds_written : (fields : Fields) → (vs : fields.Carrier) → fields.keys.Nodup →
    fields.Writes vs → fields.Holds (fields.written vs) (fields.slots vs)
  | .nil, () => fun _ _ => trivial
  | .cons key presence s rest, (v, vs) => by
    rintro hk ⟨hw, hws⟩
    obtain ⟨hkey, hk⟩ := List.nodup_cons.mp hk
    have ih := holds_written rest vs hk hws
    have hne : ∀ m ∈ rest.written vs, m.1 ≠ key := by
      rintro m hm rfl
      exact hkey (mem_keys_of_written hm)
    have hn : textsOf key (rest.written vs) = [] := by
      rw [textsOf, List.filter_eq_nil_iff.mpr fun m hm => by simpa using hne m hm]
      rfl
    have hf : (rest.written vs).filter (fun m => m.1 ≠ key) = rest.written vs :=
      List.filter_eq_self.mpr fun m hm => by simpa using hne m hm
    cases hv : s.omits v with
    | true =>
      have hwritten : (cons key presence s rest).written (v, vs) = rest.written vs := by
        simp [written, parts, hv]
      rw [hwritten, slots, hv]
      exact ⟨hn, by rwa [hf]⟩
    | false =>
      have hwritten : (cons key presence s rest).written (v, vs) =
          (key, symbols (s.chars v)) :: rest.written vs := by
        simp [written, parts, hv]
      rw [hwritten, slots, hv]
      refine ⟨⟨symbols (s.chars v), ?_, hw hv⟩, ?_⟩
      · rw [textsOf, List.filter_cons_of_pos (by simp)]
        exact congrArg (_ :: ·) hn
      · rwa [List.filter_cons_of_neg (by simp), hf]

end Fields

/-- The text of a record with some members is that of an object with these members. -/
theorem objectText_recordText (parts : List (String × List Char)) :
    ObjectText StringText (parts.map fun m => (m.1, symbols m.2)) (symbols (recordText parts)) := by
  have hp : Parts (MemberText StringText) true (parts.map fun m => (m.1, symbols m.2))
      (symbols (joinMembers (parts.map memberText))) :=
    parts_joinMembers fun m _ => ⟨_, [], [], stringText_stringChars m.1, blank_nil, blank_nil,
      by simp [memberText]⟩
  exact ⟨_, hp, by simp [recordText]⟩

/-- A record is written as one of its texts if its members are and no two of them share a name. -/
theorem Shape.writes_record {fields : Fields} {vs : fields.Carrier} (hk : fields.keys.Nodup)
    (h : fields.Writes vs) (name : String) (strict : Bool) :
    (Shape.record name strict fields).Writes vs := by
  have ho := objectText_recordText (fields.parts vs)
  rw [recordText, ← fields.members_eq] at ho
  exact .inr ⟨fields.written vs, fields.slots vs, ho, fields.holds_written vs hk h,
    fields.fill_slots vs, fun m hm hn => absurd (Fields.mem_keys_of_written hm) hn⟩

/-- A text of a value is read as this value. -/
theorem Shape.readAll_of_spelled {s : Shape} {v : s.Carrier} {cs : List Char}
    (h : s.Spelled v (symbols cs)) (hs : s.definite = true) (hd : s.depth ≤ maxDepth)
    (p : Position) : s.readAll ⟨symbols cs, p⟩ = .ok v :=
  (Shape.readAll_eq_ok_iff hs hd).mpr ⟨[], _, [], blank_nil, h, blank_nil, by simp⟩

/-- The text that is written of a value is read as this value. -/
theorem Shape.Writes.readAll {s : Shape} {v : s.Carrier} (h : s.Writes v) (hs : s.definite = true)
    (hd : s.depth ≤ maxDepth) : s.readAll (.ofString (s.write v)) = .ok v := by
  rw [Cursor.ofString, Shape.write, String.toList_ofList]
  exact Shape.readAll_of_spelled h hs hd _

end PromptGateway.Json
