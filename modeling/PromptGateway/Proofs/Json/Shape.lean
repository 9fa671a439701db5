import PromptGateway.Json.Shape

/-! # The members of records

The members of a record are written one after the other, those left out that have no value. They are
read by their names into the slots of the record, whatever their order, until the slots fill it.
-/

namespace PromptGateway.Json

/-! ## Written members -/

def memberText (m : String × List Char) : List Char := stringChars m.1 ++ ':' :: m.2

theorem joinMembers_cons (m : List Char) (ms : List (List Char)) :
    joinMembers (m :: ms) = m ++ ms.flatMap (',' :: ·) := by
  induction ms generalizing m with
  | nil => simp [joinMembers]
  | cons n ms ih =>
    rw [joinMembers, ih, List.flatMap_cons, List.cons_append]
    simp

def recordText (parts : List (String × List Char)) : List Char :=
  '\x7b' :: (joinMembers (parts.map memberText) ++ ['\x7d'])

theorem recordText_cons (m : String × List Char) (parts : List (String × List Char)) :
    recordText (m :: parts) =
      '\x7b' :: (memberText m ++ ((parts.map memberText).flatMap (',' :: ·) ++ ['\x7d'])) := by
  rw [recordText, List.map_cons, joinMembers_cons, List.append_assoc]

/-- The text of a record is longer than those of its members. -/
theorem length_lt_recordText {parts : List (String × List Char)} {m : String × List Char}
    (hm : m ∈ parts) : m.2.length < (recordText parts).length := by
  have ht : m.2.length ≤ (memberText m).length := by
    rw [memberText, List.length_append, List.length_cons]
    omega
  have hj : (memberText m).length ≤ (joinMembers (parts.map memberText)).length := by
    cases parts with
    | nil => cases hm
    | cons n parts =>
      rw [List.map_cons, joinMembers_cons, List.length_append]
      rcases List.mem_cons.mp hm with rfl | hm
      · exact Nat.le_add_right _ _
      · have hs := List.sublist_flatten_of_mem
          (List.mem_map_of_mem (f := (',' :: ·)) (List.mem_map_of_mem (f := memberText) hm))
        exact Nat.le_add_left_of_le ((List.sublist_cons_self ',' _).trans hs).length_le
  rw [recordText, List.length_cons, List.length_append]
  omega

/-- Whether a member with a value is left out. -/
def Shape.omits : (s : Shape) → s.Carrier → Bool
  | .optional _, none => true
  | _, _ => false

namespace Fields

/-- The members that are written: their names and the texts of their values. -/
def parts : (fields : Fields) → fields.Carrier → List (String × List Char)
  | .nil, () => []
  | .cons key _ s rest, (v, vs) =>
    if s.omits v then rest.parts vs else (key, s.chars v) :: rest.parts vs

/-- The slots after all members that are written have been read. -/
def slots : (fields : Fields) → fields.Carrier → fields.Slots
  | .nil, () => ()
  | .cons _ _ s rest, (v, vs) => (if s.omits v then none else some v, rest.slots vs)

theorem members_eq : (fields : Fields) → (vs : fields.Carrier) →
    fields.members vs = (fields.parts vs).map memberText
  | .nil, () => rfl
  | .cons key _ s rest, (v, vs) => by
    have ih := members_eq rest vs
    cases s with
    | optional s =>
      cases v with
      | none => exact ih
      | some v => exact congrArg (_ :: ·) ih
    | _ => exact congrArg (_ :: ·) ih

theorem fill_slots : (fields : Fields) → (vs : fields.Carrier) →
    fields.fill (fields.slots vs) = .ok vs
  | .nil, () => rfl
  | .cons key presence s rest, (v, vs) => by
    have ih := fill_slots rest vs
    cases hv : s.omits v with
    | true =>
      cases s with
      | optional s =>
        cases v with
        | none =>
          cases presence <;>
            simp [slots, fill, absent?, Shape.omits, Shape.default, ih, Except.map]
        | some v => cases hv
      | _ => cases hv
    | false => simp [slots, fill, hv, ih, Except.map]

theorem mem_keys_of_parts : (fields : Fields) → (vs : fields.Carrier) →
    ∀ m ∈ fields.parts vs, m.1 ∈ fields.keys
  | .nil, () => nofun
  | .cons key _ s rest, (v, vs) => by
    intro m hm
    have ih := mem_keys_of_parts rest vs m
    rw [parts] at hm
    split at hm
    · exact List.mem_cons_of_mem _ (ih hm)
    · rcases List.mem_cons.mp hm with rfl | hm
      · exact List.mem_cons_self
      · exact List.mem_cons_of_mem _ (ih hm)

end Fields

/-! ## Members that are read -/

/-- That members lead one after the other from one state to another. -/
def Collects {α σ : Type} (step : α → σ → σ → Prop) : List α → σ → σ → Prop
  | [], state, final => state = final
  | m :: parts, state, final => ∃ next, step m state next ∧ Collects step parts next final

theorem Collects.mono {α σ : Type} {step step' : α → σ → σ → Prop} {parts : List α}
    {state final : σ} (h : Collects step parts state final)
    (hs : ∀ m state next, step m state next → step' m state next) :
    Collects step' parts state final := by
  induction parts generalizing state with
  | nil => exact h
  | cons m parts ih =>
    obtain ⟨next, hn, h⟩ := h
    exact ⟨next, hs m state next hn, ih h⟩

namespace Fields

def memberReader (fields : Fields) (strict : Bool) (d : Nat) (key : String) (slots : fields.Slots)
    (c : Cursor) : Except Failure (fields.Slots × Cursor) :=
  match fields.readMember key slots d c with
  | some reading => reading
  | none => (readUnknown strict fields key c).map (slots, ·)

theorem readMember_eq_none {key : String} {d : Nat} {c : Cursor} : (fields : Fields) →
    (slots : fields.Slots) → key ∉ fields.keys → fields.readMember key slots d c = none
  | .nil, () => fun _ => rfl
  | .cons name _ s rest, (slot, slots) => by
    intro h
    rw [keys, List.mem_cons, not_or] at h
    refine (if_neg h.1).trans ?_
    rw [readMember_eq_none rest slots h.2]
    rfl

end Fields

end PromptGateway.Json
