import Mathlib.Data.List.Induction
import PromptGateway.Proofs.Except
import PromptGateway.Proofs.Json.Grammar
import PromptGateway.Proofs.Json.Shape

/-! # The texts of a shape

A value of a shape has one text or many: the members of a record may stand in any order, with blanks
around them, beside members that the record does not have if it is not strict. All of them are texts
of JSON values.
-/

namespace PromptGateway.Json

open Utf8 (Symbol)

variable {t : List Symbol}

def textsOf (name : String) (members : List (String × List Symbol)) : List (List Symbol) :=
  (members.filter fun m => m.1 = name).map (·.2)

mutual

/-- That a text is one of a value of a shape. -/
def Shape.Spelled : (s : Shape) → s.Carrier → List Symbol → Prop
  | .text, v, t => StringText v t
  | .flag, v, t => t = symbols (Shape.flag.chars v)
  | .number w, v, t => t = symbols (integerChars (w.toInt v))
  | .moment, v, t => ∃ s, StringText s t ∧ Moment.read s = .ok v
  | .tag first others, i, t => ∃ name, tagOf first others name = .ok i ∧
    (StringText name t ∨ ObjectText StringText [(name, symbols ['n', 'u', 'l', 'l'])] t)
  | .optional s, v, t =>
    match v with
    | none => t = symbols ['n', 'u', 'l', 'l']
    | some v => s.Spelled v t
  | .list s, vs, t => ListText s.Spelled vs t
  | .record _ strict fields, vs, t =>
    (∃ items, ListText (· = ·) items t ∧ fields.InOrder vs items) ∨
    ∃ members slots, ObjectText StringText members t ∧ fields.Holds members slots ∧
      fields.fill slots = .ok vs ∧
      ∀ m ∈ members, m.1 ∉ fields.keys → strict = false ∧ ValueText m.2

/-- That some texts are those of the members of a record in their order, without omitted ones. -/
def Fields.InOrder : (fields : Fields) → fields.Carrier → List (List Symbol) → Prop
  | .nil, (), items => items = []
  | .cons _ presence s rest, (v, vs), items =>
    match items with
    | [] => presence = .defaulted ∧ v = s.default ∧ rest.InOrder vs []
    | t :: items => s.Spelled v t ∧ rest.InOrder vs items

/-- That the slots of a record are filled from some members, each from the only one of its name. -/
def Fields.Holds : (fields : Fields) → List (String × List Symbol) → fields.Slots → Prop
  | .nil, _, () => True
  | .cons name _ s rest, members, (slot, slots) =>
    (match slot with
    | none => textsOf name members = []
    | some v => ∃ t, textsOf name members = [t] ∧ s.Spelled v t) ∧
    rest.Holds (members.filter fun m => m.1 ≠ name) slots

end

/-- A member as it fills a slot of a record. -/
def Fields.Fills : (fields : Fields) → String × List Symbol → fields.Slots → fields.Slots → Prop
  | .nil, _, _, _ => False
  | .cons name _ s rest, m, (slot, slots), (slot', slots') =>
    if m.1 = name then slot = none ∧ (∃ v, slot' = some v ∧ s.Spelled v m.2) ∧ slots' = slots
    else slot' = slot ∧ rest.Fills m slots slots'

namespace Fields

variable {m : String × List Symbol} {members : List (String × List Symbol)}

theorem holds_noSlots : (fields : Fields) → fields.Holds [] fields.noSlots
  | .nil => trivial
  | .cons _ _ _ rest => ⟨rfl, holds_noSlots rest⟩

theorem textsOf_filter_of_ne {name other : String} (h : name ≠ other) :
    textsOf name (members.filter fun m => m.1 ≠ other) = textsOf name members := by
  have hp (m : String × List Symbol) :
      (decide (m.1 = name) && decide (m.1 ≠ other)) = decide (m.1 = name) := by
    by_cases hm : m.1 = name
    · simp [hm, h]
    · simp [hm]
  rw [textsOf, List.filter_filter, textsOf]
  simp only [hp]

/-- What the slots hold does not depend on members that the record does not have. -/
theorem holds_filter_iff {other : String} : (fields : Fields) →
    {members : List (String × List Symbol)} → {slots : fields.Slots} → other ∉ fields.keys →
    (fields.Holds (members.filter fun m => m.1 ≠ other) slots ↔ fields.Holds members slots)
  | .nil, _, () => fun _ => Iff.rfl
  | .cons name _ s rest, members, (slot, slots) => by
    intro h
    rw [keys, List.mem_cons, not_or] at h
    refine and_congr ?_ ?_
    · rw [textsOf_filter_of_ne (Ne.symm h.1)]
    · rw [List.filter_filter, List.filter_congr fun m _ => Bool.and_comm .., ← List.filter_filter]
      exact holds_filter_iff rest h.2

theorem fill_cons_eq_ok_iff {key : String} {presence : Presence} {s : Shape} {rest : Fields}
    {slot : Option s.Carrier} {slots : rest.Slots} {v : s.Carrier} {vs : rest.Carrier} :
    (cons key presence s rest).fill (slot, slots) = .ok (v, vs) ↔
      slot.or (absent? presence s) = some v ∧ rest.fill slots = .ok vs := by
  rw [fill]
  cases slot.or (absent? presence s) with
  | none => simp
  | some w =>
    simp only [map_eq_ok_iff, Prod.mk.injEq, Option.some.injEq]
    constructor
    · rintro ⟨_, h, rfl, rfl⟩
      exact ⟨rfl, h⟩
    · rintro ⟨rfl, h⟩
      exact ⟨vs, h, rfl, rfl⟩

theorem textsOf_concat_of_ne {name : String} (h : m.1 ≠ name) :
    textsOf name (members ++ [m]) = textsOf name members := by
  simp [textsOf, h]

theorem textsOf_concat_of_eq {name : String} (h : m.1 = name) :
    textsOf name (members ++ [m]) = textsOf name members ++ [m.2] := by
  simp [textsOf, h]

theorem filter_concat_of_ne {name : String} (h : m.1 ≠ name) :
    (members ++ [m]).filter (fun m => m.1 ≠ name) =
      members.filter (fun m => m.1 ≠ name) ++ [m] := by
  simp [h]

theorem filter_concat_of_eq {name : String} (h : m.1 = name) :
    (members ++ [m]).filter (fun m => m.1 ≠ name) = members.filter (fun m => m.1 ≠ name) := by
  simp [h]

/-- A member that the record does not have fills no slot. -/
theorem holds_concat_iff : (fields : Fields) → {members : List (String × List Symbol)} →
    {slots : fields.Slots} → m.1 ∉ fields.keys →
    (fields.Holds (members ++ [m]) slots ↔ fields.Holds members slots)
  | .nil, _, () => fun _ => Iff.rfl
  | .cons name _ s rest, members, (slot, slots) => by
    intro h
    rw [keys, List.mem_cons, not_or] at h
    refine and_congr ?_ ?_
    · rw [textsOf_concat_of_ne h.1]
    · rw [filter_concat_of_ne h.1]
      exact holds_concat_iff rest h.2

theorem Holds.filled : {fields : Fields} → {members : List (String × List Symbol)} →
    {slots next : fields.Slots} → fields.Holds members slots → fields.Fills m slots next →
    fields.Holds (members ++ [m]) next
  | .nil, _, (), () => fun _ _ => trivial
  | .cons name _ s rest, members, (slot, slots), (slot', slots') => by
    intro h hf
    rw [Fills] at hf
    split at hf
    · rename_i hn
      obtain ⟨rfl, ⟨v, rfl, hv⟩, rfl⟩ := hf
      refine ⟨⟨m.2, ?_, hv⟩, ?_⟩
      · rw [textsOf_concat_of_eq hn, show textsOf name members = [] from h.1]
        rfl
      · rw [filter_concat_of_eq hn]
        exact h.2
    · rename_i hn
      obtain ⟨rfl, hf⟩ := hf
      refine ⟨?_, ?_⟩
      · rw [textsOf_concat_of_ne hn]
        exact h.1
      · rw [filter_concat_of_ne hn]
        exact h.2.filled hf

/-- A member either fills a slot or is unknown and passed over. -/
def Meets (fields : Fields) (strict : Bool) (m : String × List Symbol) (slots next : fields.Slots) :
    Prop :=
  fields.Fills m slots next ∨ m.1 ∉ fields.keys ∧ next = slots ∧ strict = false ∧ ValueText m.2

theorem Fills.mem_keys : {fields : Fields} → {slots next : fields.Slots} →
    fields.Fills m slots next → m.1 ∈ fields.keys
  | .nil, (), () => False.elim
  | .cons name _ s rest, (slot, slots), (slot', slots') => by
    intro h
    rw [Fills] at h
    split at h
    · exact List.mem_cons.mpr (.inl ‹_›)
    · exact List.mem_cons_of_mem _ h.2.mem_keys

theorem Holds.eq_noSlots : {fields : Fields} → {slots : fields.Slots} → fields.Holds [] slots →
    slots = fields.noSlots
  | .nil, () => fun _ => rfl
  | .cons _ _ _ rest, (none, slots) => by
    rintro ⟨-, h⟩
    have ih : slots = rest.noSlots := Holds.eq_noSlots h
    exact congrArg (none, ·) ih
  | .cons _ _ _ rest, (some v, slots) => by
    rintro ⟨⟨t, ht, -⟩, -⟩
    cases ht

/-- The last member that the record has is the one that filled its slot. -/
theorem Holds.exists_fills : {fields : Fields} → {members : List (String × List Symbol)} →
    {next : fields.Slots} → fields.Holds (members ++ [m]) next → m.1 ∈ fields.keys →
    ∃ slots, fields.Holds members slots ∧ fields.Fills m slots next
  | .nil, _, () => fun _ hm => nomatch hm
  | .cons name _ s rest, members, (slot, slots) => by
    rintro ⟨hslot, hrest⟩ hm
    by_cases hn : m.1 = name
    · rw [textsOf_concat_of_eq hn] at hslot
      rw [filter_concat_of_eq hn] at hrest
      cases slot with
      | none => simp at hslot
      | some v =>
        obtain ⟨t, ht, hv⟩ := hslot
        obtain ⟨he, rfl⟩ : textsOf name members = [] ∧ m.2 = t := by
          simpa [List.append_eq_singleton_iff] using ht
        refine ⟨(none, slots), ⟨he, hrest⟩, ?_⟩
        rw [Fills, if_pos hn]
        exact ⟨rfl, ⟨v, rfl, hv⟩, rfl⟩
    · rw [textsOf_concat_of_ne hn] at hslot
      rw [filter_concat_of_ne hn] at hrest
      obtain ⟨slots', hh, hf⟩ := hrest.exists_fills ((List.mem_cons.mp hm).resolve_left hn)
      refine ⟨(slot, slots'), ⟨hslot, hh⟩, ?_⟩
      rw [Fills, if_neg hn]
      exact ⟨rfl, hf⟩

theorem collects_concat {α σ : Type} {step : α → σ → σ → Prop} {a : α} {parts : List α}
    {state mid final : σ} (h : Collects step parts state mid) (ha : step a mid final) :
    Collects step (parts ++ [a]) state final := by
  induction parts generalizing state with
  | nil =>
    obtain rfl : state = mid := h
    exact ⟨final, ha, rfl⟩
  | cons b parts ih =>
    obtain ⟨next, hn, h⟩ := h
    exact ⟨next, hn, ih h⟩

theorem Holds.of_collects {fields : Fields} {strict : Bool} {slots final : fields.Slots}
    {seen : List (String × List Symbol)} (h : fields.Holds seen slots)
    (hc : Collects (fields.Meets strict) members slots final) :
    fields.Holds (seen ++ members) final ∧
      ∀ m ∈ members, m.1 ∉ fields.keys → strict = false ∧ ValueText m.2 := by
  induction members generalizing seen slots with
  | nil =>
    obtain rfl : slots = final := hc
    exact ⟨by rwa [List.append_nil], nofun⟩
  | cons m members ih =>
    obtain ⟨next, hm, hc⟩ := hc
    rw [List.append_cons]
    obtain hf | ⟨hu, rfl, hv⟩ := hm
    · obtain ⟨hh, hr⟩ := ih (h.filled hf) hc
      exact ⟨hh, List.forall_mem_cons.mpr ⟨fun hn => absurd hf.mem_keys hn, hr⟩⟩
    · obtain ⟨hh, hr⟩ := ih ((fields.holds_concat_iff hu).mpr h) hc
      exact ⟨hh, List.forall_mem_cons.mpr ⟨fun _ => hv, hr⟩⟩

theorem Holds.collects {fields : Fields} {strict : Bool} {slots : fields.Slots}
    (h : fields.Holds members slots)
    (hu : ∀ m ∈ members, m.1 ∉ fields.keys → strict = false ∧ ValueText m.2) :
    Collects (fields.Meets strict) members fields.noSlots slots := by
  induction members using List.reverseRecOn generalizing slots with
  | nil => exact h.eq_noSlots.symm
  | append_singleton members m ih =>
    obtain ⟨hu, hm⟩ := List.forall_mem_append.mp hu
    by_cases hk : m.1 ∈ fields.keys
    · obtain ⟨before, hh, hf⟩ := h.exists_fills hk
      exact collects_concat (ih hh hu) (.inl hf)
    · obtain ⟨hs, hv⟩ := hm m List.mem_cons_self hk
      exact collects_concat (ih ((fields.holds_concat_iff hk).mp h) hu) (.inr ⟨hk, rfl, hs, hv⟩)

/-- The slots hold in the end what was collected member by member. -/
theorem collects_meets_iff {fields : Fields} {strict : Bool} {slots : fields.Slots} :
    Collects (fields.Meets strict) members fields.noSlots slots ↔
      fields.Holds members slots ∧
        ∀ m ∈ members, m.1 ∉ fields.keys → strict = false ∧ ValueText m.2 :=
  ⟨fields.holds_noSlots.of_collects, fun ⟨h, hu⟩ => h.collects hu⟩

end Fields

/-! ## Texts of shapes are texts of values -/

theorem numberText_integerChars (n : Int) : NumberText (integerChars n) := by
  have hw (m : Nat) : WholeText (Nat.toDigits 10 m) := by
    refine ⟨⟨Nat.toDigits_ne_nil, fun c hc => Text.isDigit_of_mem_toDigits hc⟩, fun h => ?_⟩
    rw [Text.eq_zero_of_head?_toDigits h, Nat.toDigits_zero]
  unfold integerChars
  split
  · exact ⟨['-'], _, [], [], .inr rfl, hw n.natAbs, .inl rfl, .inl rfl, by simp⟩
  · exact ⟨[], _, [], [], .inl rfl, hw n.toNat, .inl rfl, .inl rfl, by simp⟩

theorem valueText_of_parts {α : Type} {piece : α → List Symbol → Prop} {as : List α} {first : Bool}
    (h : Parts piece first as t) (hp : ∀ a t, piece a t → ValueText t) :
    ∃ items, Parts (· = ·) first items t ∧ ∀ i ∈ items, ValueText i := by
  induction h with
  | nil hb => exact ⟨[], .nil hb, nofun⟩
  | cons hg ht h ih =>
    obtain ⟨items, hps, hv⟩ := ih
    exact ⟨_ :: items, .cons hg rfl hps, List.forall_mem_cons.mpr ⟨hp _ _ ht, hv⟩⟩

theorem quoted_of_parts {members : List (String × List Symbol)} {first : Bool}
    (h : Parts (MemberText StringText) first members t) (hv : ∀ m ∈ members, ValueText m.2) :
    ∃ named : List (List Symbol × List Symbol),
      Parts (MemberText fun name t => QuotedText name ∧ t = name) first named t ∧
        ∀ m ∈ named, ValueText m.2 := by
  induction h with
  | nil hb => exact ⟨[], .nil hb, nofun⟩
  | @cons first m members g t more hg ht h ih =>
    obtain ⟨hm, hv⟩ := List.forall_mem_cons.mp hv
    obtain ⟨named, hps, hn⟩ := ih hv
    obtain ⟨name, b, b', hname, hb, hb', rfl⟩ := ht
    exact ⟨(name, m.2) :: named, .cons hg ⟨name, b, b', ⟨hname.quoted, rfl⟩, hb, hb', rfl⟩ hps,
      List.forall_mem_cons.mpr ⟨hm, hn⟩⟩

theorem ObjectText.valueText {members : List (String × List Symbol)}
    (h : ObjectText StringText members t) (hv : ∀ m ∈ members, ValueText m.2) : ValueText t := by
  obtain ⟨inner, hp, rfl⟩ := h
  obtain ⟨named, hps, hn⟩ := quoted_of_parts hp hv
  exact .object ⟨inner, hps, rfl⟩ hn

/-- That the texts of a shape are texts of values. -/
def Shape.Valued (s : Shape) : Prop := ∀ v t, s.Spelled v t → ValueText t

theorem Shape.Valued.optional {s : Shape} (hs : s.Valued) : (Shape.optional s).Valued
  | none, _, h => h ▸ .null
  | some v, t, h => hs v t h

theorem Shape.Valued.list {s : Shape} (hs : s.Valued) : (Shape.list s).Valued := by
  rintro vs t ⟨inner, hp, rfl⟩
  obtain ⟨items, hps, hv⟩ := valueText_of_parts hp hs
  exact .list ⟨inner, hps, rfl⟩ hv

theorem Shape.valued_flag : Shape.flag.Valued
  | true, _, h => h ▸ .true
  | false, _, h => h ▸ .false

theorem Shape.valued_tag (first : String) (others : List String) :
    (Shape.tag first others).Valued := by
  rintro i t ⟨name, -, h | h⟩
  · exact .string h.quoted
  · exact h.valueText (by simpa using .null)

namespace Fields

def ValuedInOrder (fields : Fields) : Prop :=
  ∀ vs items, fields.InOrder vs items → ∀ i ∈ items, ValueText i

def ValuedByName (fields : Fields) : Prop :=
  ∀ members slots, fields.Holds members slots → ∀ m ∈ members, m.1 ∈ fields.keys → ValueText m.2

variable {name : String} {presence : Presence} {s : Shape} {rest : Fields}

theorem ValuedInOrder.cons (hs : s.Valued) (h : rest.ValuedInOrder) :
    (Fields.cons name presence s rest).ValuedInOrder
  | (_, _), [], _ => nofun
  | (v, vs), _ :: items, ⟨ht, hi⟩ => List.forall_mem_cons.mpr ⟨hs v _ ht, h vs items hi⟩

theorem ValuedByName.cons (hs : s.Valued) (h : rest.ValuedByName) :
    (Fields.cons name presence s rest).ValuedByName := by
  rintro members ⟨slot, slots⟩ ⟨hslot, hrest⟩ m hm hk
  by_cases hn : m.1 = name
  · have ht : m.2 ∈ textsOf name members :=
      List.mem_map.mpr ⟨m, List.mem_filter.mpr ⟨hm, decide_eq_true hn⟩, rfl⟩
    cases slot with
    | none =>
      have he : textsOf name members = [] := hslot
      rw [he] at ht
      cases ht
    | some v =>
      obtain ⟨t, he, hv⟩ := hslot
      rw [he, List.mem_singleton] at ht
      exact ht ▸ hs v t hv
  · have hm' : m ∈ members.filter fun m => m.1 ≠ name :=
      List.mem_filter.mpr ⟨hm, decide_eq_true hn⟩
    exact h _ slots hrest m hm' ((List.mem_cons.mp hk).resolve_left hn)

end Fields

theorem Shape.valued_record {fields : Fields} (hi : fields.ValuedInOrder) (hn : fields.ValuedByName)
    (name : String) (strict : Bool) : (Shape.record name strict fields).Valued := by
  rintro vs t (⟨items, ⟨inner, hp, rfl⟩, ho⟩ | ⟨members, slots, hm, hh, -, hu⟩)
  · exact .list ⟨inner, hp, rfl⟩ (hi vs items ho)
  · refine hm.valueText fun m hmem => ?_
    by_cases hk : m.1 ∈ fields.keys
    · exact hn members slots hh m hmem hk
    · exact (hu m hmem hk).2

mutual

/-- The texts of a shape are texts of values. -/
theorem Shape.valued : (s : Shape) → s.Valued
  | .text => fun _ _ h => .string h.quoted
  | .flag => Shape.valued_flag
  | .number _ => fun _ _ h => h ▸ .number (numberText_integerChars _)
  | .moment => fun _ _ ⟨_, h, _⟩ => .string h.quoted
  | .tag first others => Shape.valued_tag first others
  | .optional s => s.valued.optional
  | .list s => s.valued.list
  | .record name strict fields =>
    Shape.valued_record fields.valuedInOrder fields.valuedByName name strict

theorem Fields.valuedInOrder : (fields : Fields) → fields.ValuedInOrder
  | .nil => fun _ _ h => h ▸ nofun
  | .cons _ _ s rest => .cons s.valued rest.valuedInOrder

theorem Fields.valuedByName : (fields : Fields) → fields.ValuedByName
  | .nil => fun _ _ _ _ _ => nofun
  | .cons _ _ s rest => .cons s.valued rest.valuedByName

end

end PromptGateway.Json
