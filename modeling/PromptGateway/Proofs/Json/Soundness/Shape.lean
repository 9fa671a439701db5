import PromptGateway.Proofs.Json.Soundness.Skip
import PromptGateway.Proofs.Json.Spelled

/-! # What a shape is read from

Nothing but its texts is read as a value of a shape: not a text that repeats a member, nor one that
lacks a required member or holds one that the record does not know. What is passed over beside the
members of a record are texts of values.
-/

namespace PromptGateway.Json

open Utf8 (Symbol)

variable {c c' : Cursor}

theorem Width.toInt_of_ofInt? {w : Width} {n : Int} {v : w.Carrier} (h : w.ofInt? n = some v) :
    w.toInt v = n := by
  cases w with
  | word32 =>
    simp only [ofInt?, Option.ite_none_right_eq_some, Option.some.injEq] at h
    obtain ⟨⟨h0, hn⟩, rfl⟩ := h
    have hm : n.toNat % 4294967296 = n.toNat := Nat.mod_eq_of_lt (by omega)
    change ((UInt32.ofNat n.toNat).toNat : Int) = n
    rw [UInt32.toNat_ofNat', hm, Int.toNat_of_nonneg h0]
  | int32 =>
    simp only [ofInt?, Option.ite_none_right_eq_some, Option.some.injEq] at h
    obtain ⟨⟨h0, hn⟩, rfl⟩ := h
    exact Int32.toInt_ofInt_of_le h0 hn
  | int64 =>
    simp only [ofInt?, Option.ite_none_right_eq_some, Option.some.injEq] at h
    obtain ⟨⟨h0, hn⟩, rfl⟩ := h
    exact Int64.toInt_ofInt_of_le h0 hn

/-- Only whole numbers of a size are numbers of this size. -/
theorem Width.eq_of_ofNumber {w : Width} {x : Number} {v : w.Carrier}
    (h : w.ofNumber x = .ok v) : x = .integer (w.toInt v) := by
  cases x with
  | real x => cases h
  | integer n =>
    rw [Width.ofNumber] at h
    split at h
    · cases h
      rw [toInt_of_ofInt? ‹_›]
    · cases h

/-- Whatever a shape is read from is one of its texts, behind blanks. -/
def Shape.Sound (s : Shape) : Prop :=
  ∀ d c c' v, s.read d c = .ok (v, c') →
    ∃ b t, Blank b ∧ c.rest = b ++ (t ++ c'.rest) ∧ s.Spelled v t

def Width.take (w : Width) (r : Except Failure (Number × Cursor)) :
    Except Failure (w.Carrier × Cursor) := do
  let (n, c) ← r
  return (← (w.ofNumber n).mapError c.flawHere, c)

theorem chars_of_take {w : Width} {v : w.Carrier} {negative : Bool}
    (h : w.take (readNumber negative c) = .ok (v, c')) :
    c.rest = symbols (Nat.toDigits 10 (w.toInt v).natAbs) ++ c'.rest ∧
      integerChars (w.toInt v) =
        (if negative then ['-'] else []) ++ Nat.toDigits 10 (w.toInt v).natAbs := by
  obtain ⟨⟨n, c1⟩, hn, h⟩ := bind_eq_ok_iff.mp h
  obtain ⟨x, hx, h⟩ := bind_eq_ok_iff.mp h
  cases h
  obtain rfl := Width.eq_of_ofNumber (mapError_eq_ok_iff.mp hx)
  exact (chars_of_readNumber hn).symm

theorem Shape.sound_number (w : Width) : (Shape.number w).Sound := by
  intro d c c' v h
  rw [Shape.read] at h
  unfold readWhole at h
  dsimp only at h
  obtain ⟨b, hb, hl, -⟩ := c.skipSpace_spec
  split at h
  · rename_i ch hn
    split at h
    · subst ch
      obtain ⟨hr, hc⟩ := chars_of_take h
      refine ⟨b, _, hb, ?_, rfl⟩
      rw [hl, Cursor.rest_of_next? hn, hr, hc]
      simp
    split at h
    · obtain ⟨hr, hc⟩ := chars_of_take h
      refine ⟨b, _, hb, ?_, rfl⟩
      rw [hl, hr, hc]
      simp
    · cases h
  · cases h

theorem Shape.sound_flag : Shape.flag.Sound := by
  intro d c c' v h
  rw [Shape.read, readFlag] at h
  obtain ⟨b, hb, hl, -⟩ := c.skipSpace_spec
  split at h
  · obtain ⟨c1, hw, h⟩ := map_eq_ok_iff.mp h
    cases h
    refine ⟨b, _, hb, ?_, rfl⟩
    rw [hl, Cursor.rest_of_next? ‹_›, Cursor.rest_of_word hw]
    rfl
  · obtain ⟨c1, hw, h⟩ := map_eq_ok_iff.mp h
    cases h
    refine ⟨b, _, hb, ?_, rfl⟩
    rw [hl, Cursor.rest_of_next? ‹_›, Cursor.rest_of_word hw]
    rfl
  · cases h

theorem stringText_of_readTextAs {α : Type} {expected : String} {meaning : String → Except Flaw α}
    {a : α} (h : readTextAs expected meaning c = .ok (a, c')) :
    ∃ b t s, Blank b ∧ c.rest = b ++ (t ++ c'.rest) ∧ StringText s t ∧ meaning s = .ok a := by
  unfold readTextAs at h
  dsimp only at h
  obtain ⟨b, hb, hl, -⟩ := c.skipSpace_spec
  split at h
  · obtain ⟨⟨s, c1⟩, hs, h⟩ := bind_eq_ok_iff.mp h
    obtain ⟨x, hx, h⟩ := bind_eq_ok_iff.mp h
    cases h
    obtain ⟨t, ht, hr⟩ := stringText_of_readString hs
    refine ⟨b, _, s, hb, ?_, ht, mapError_eq_ok_iff.mp hx⟩
    rw [hl, Cursor.rest_of_next? ‹_›, hr]
    rfl
  · cases h

theorem Shape.sound_text : Shape.text.Sound := by
  intro d c c' v h
  rw [Shape.read] at h
  obtain ⟨b, t, s, hb, hl, ht, hs⟩ := stringText_of_readTextAs h
  cases hs
  exact ⟨b, t, hb, hl, ht⟩

theorem Shape.sound_moment : Shape.moment.Sound := by
  intro d c c' v h
  rw [Shape.read] at h
  obtain ⟨b, t, s, hb, hl, ht, hs⟩ := stringText_of_readTextAs h
  exact ⟨b, t, hb, hl, s, ht, mapError_eq_ok_iff.mp hs⟩

theorem rest_of_readNull (h : readNull c = .ok c') :
    ∃ b, Blank b ∧ c.rest = b ++ (symbols ['n', 'u', 'l', 'l'] ++ c'.rest) := by
  unfold readNull at h
  dsimp only at h
  obtain ⟨b, hb, hl, -⟩ := c.skipSpace_spec
  split at h
  · refine ⟨b, hb, ?_⟩
    rw [hl, Cursor.rest_of_next? ‹_›, Cursor.rest_of_word h]
    rfl
  · cases h

theorem Shape.sound_tag (first : String) (others : List String) :
    (Shape.tag first others).Sound := by
  intro d c c' i h
  rw [Shape.read] at h
  unfold readTag at h
  dsimp only at h
  obtain ⟨b, hb, hl, -⟩ := c.skipSpace_spec
  split at h
  · cases h
  · obtain ⟨b', t, s, hb', hr, ht, hs⟩ := stringText_of_readTextAs h
    exact ⟨b ++ b', t, hb.append hb', by rw [hl, hr]; simp, s, hs, .inl ht⟩
  · split at h
    · cases h
    · obtain ⟨b1, hb1, hl1, -⟩ := c.skipSpace.drop.skipSpace_spec
      split at h
      · cases h
      · obtain ⟨⟨j, c1⟩, hn, h⟩ := bind_eq_ok_iff.mp h
        obtain ⟨c2, hc, h⟩ := bind_eq_ok_iff.mp h
        obtain ⟨c3, hz, h⟩ := bind_eq_ok_iff.mp h
        obtain ⟨b2, t, s, hb2, hl2, ht, hs⟩ := stringText_of_readTextAs hn
        obtain ⟨b3, hb3, hl3⟩ := rest_of_readColon hc
        obtain ⟨b4, hb4, hl4⟩ := rest_of_readNull (mapError_eq_ok_iff.mp hz)
        obtain ⟨b5, hb5, hl5, -⟩ := c3.skipSpace_spec
        split at h
        · cases h
          refine ⟨b, _, hb, ?_, s, hs, .inr ⟨_, .cons (g := b1 ++ b2) (hb1.append hb2)
            ⟨t, b3, b4, ht, hb3, hb4, rfl⟩ (.nil hb5), rfl⟩⟩
          rw [hl, Cursor.rest_of_next? ‹c.skipSpace.next? = _›, hl1, hl2, hl3, hl4, hl5,
            Cursor.rest_of_next? ‹c3.skipSpace.next? = _›]
          simp
        · cases h
        · cases h
      · cases h
      · cases h
  · cases h

/-- A member that a record does not have is passed over, unless the record may hold nothing else. -/
theorem rest_of_readUnknown {strict : Bool} {fields : Fields} {key : String}
    (h : readUnknown strict fields key c = .ok c') :
    strict = false ∧ ∃ b b' v, Blank b ∧ Blank b' ∧
      c.rest = b ++ .char ':' :: (b' ++ (v ++ c'.rest)) ∧ ValueText v := by
  cases strict with
  | true => cases h
  | false =>
    obtain ⟨c1, hc, h⟩ := bind_eq_ok_iff.mp h
    obtain ⟨b, hb, hl⟩ := rest_of_readColon hc
    obtain ⟨b', v, hb', hv, hl'⟩ := valueText_of_skipValue (mapError_eq_ok_iff.mp h)
    exact ⟨rfl, b, b', v, hb, hb', by rw [hl, hl'], hv⟩

theorem Shape.Sound.optional {s : Shape} (hs : s.Sound) : (Shape.optional s).Sound := by
  intro d c c' v h
  rw [Shape.read] at h
  dsimp only at h
  obtain ⟨b, hb, hl, -⟩ := c.skipSpace_spec
  split at h
  · obtain ⟨c1, hw, h⟩ := map_eq_ok_iff.mp h
    cases h
    refine ⟨b, _, hb, ?_, rfl⟩
    rw [hl, Cursor.rest_of_next? ‹_›, Cursor.rest_of_word hw]
    rfl
  · obtain ⟨⟨v, c1⟩, hv, h⟩ := map_eq_ok_iff.mp h
    cases h
    obtain ⟨b', t, hb', hr, ht⟩ := hs _ _ _ _ hv
    exact ⟨b ++ b', t, hb.append hb', by rw [hl, hr]; simp, ht⟩

theorem Shape.Sound.list {s : Shape} (hs : s.Sound) : (Shape.list s).Sound := by
  intro d c c' v h
  unfold Shape.read at h
  dsimp only at h
  obtain ⟨b, hb, hl, -⟩ := c.skipSpace_spec
  split at h
  · split at h
    · cases h
    · obtain ⟨⟨items, c1⟩, hi, h⟩ := bind_eq_ok_iff.mp h
      obtain ⟨c2, hc, h⟩ := bind_eq_ok_iff.mp h
      cases h
      obtain ⟨more, t, hp, hl1, hm⟩ := parts_of_readItems (fun _ a c c' ha => hs _ _ _ _ ha) hi
      obtain rfl : items = more := hm
      obtain ⟨b', hb', hl2⟩ := rest_of_closeList hc
      refine ⟨b, _, hb, ?_, t ++ b', hp.append_blank hb', rfl⟩
      rw [hl, Cursor.rest_of_next? ‹_›, hl1, hl2]
      simp
  · cases h

namespace Fields

/-- Whatever a member is read from by its name fills a slot, from a text behind a colon. -/
def SoundByName (fields : Fields) : Prop :=
  ∀ key d slots next c c', fields.readMember key slots d c = some (.ok (next, c')) →
    ∃ b b' v, Blank b ∧ Blank b' ∧ c.rest = b ++ .char ':' :: (b' ++ (v ++ c'.rest)) ∧
      fields.Fills (key, v) slots next

/-- Whatever values are read from in their order are texts of them. -/
def SoundInOrder (fields : Fields) : Prop :=
  ∀ expected index d vs c c', fields.readList expected index d c = .ok (vs, c') →
    ∃ items t, Parts (· = ·) (index == 0) items t ∧ c.rest = t ++ c'.rest ∧
      fields.InOrder vs items

variable {name : String} {presence : Presence} {s : Shape} {rest : Fields}

theorem SoundByName.cons (h : rest.SoundByName) (hs : s.Sound) :
    (Fields.cons name presence s rest).SoundByName := by
  rintro key d ⟨slot, slots⟩ ⟨slot', slots'⟩ c c' hr
  unfold readMember at hr
  split at hr
  · rename_i hk
    cases slot with
    | some v => cases hr
    | none =>
      obtain ⟨c1, hc, hr⟩ := bind_eq_ok_iff.mp (Option.some.inj hr)
      obtain ⟨⟨v, c2⟩, hv, hr⟩ := bind_eq_ok_iff.mp hr
      cases hr
      obtain ⟨b, hb, hl⟩ := rest_of_readColon hc
      obtain ⟨b', t, hb', hl', ht⟩ := hs _ _ _ _ (mapError_eq_ok_iff.mp hv)
      refine ⟨b, b', t, hb, hb', by rw [hl, hl'], ?_⟩
      rw [Fills, if_pos hk]
      exact ⟨rfl, ⟨v, rfl, ht⟩, rfl⟩
  · rename_i hk
    obtain ⟨reading, hr, he⟩ := Option.map_eq_some_iff.mp hr
    obtain ⟨⟨slots1, c1⟩, rfl, he⟩ := map_eq_ok_iff.mp he
    cases he
    obtain ⟨b, b', v, hb, hb', hl, hf⟩ := h _ _ _ _ _ _ hr
    refine ⟨b, b', v, hb, hb', hl, ?_⟩
    rw [Fills, if_neg hk]
    exact ⟨rfl, hf⟩

/-- Before the end of a list there is no further item. -/
theorem nil_of_parts {α : Type} {piece : α → List Symbol → Prop} {items : List α}
    {t l : List Symbol} (h : Parts piece false items t) (hl : (t ++ l).head? = some (.char ']')) :
    items = [] ∧ Blank t := by
  cases h with
  | nil hb => exact ⟨rfl, hb⟩
  | cons hg ht h =>
    obtain ⟨b, b', hb, hb', rfl⟩ := hg
    cases b with
    | nil => cases hl
    | cons s b =>
      obtain rfl : s = .char ']' := Option.some.inj hl
      cases hb _ List.mem_cons_self

theorem SoundInOrder.cons (h : rest.SoundInOrder) (hs : s.Sound) :
    (Fields.cons name presence s rest).SoundInOrder := by
  rintro expected index d ⟨v, vs⟩ c c' hr
  unfold readList at hr
  obtain ⟨⟨more, c1⟩, hn, hr⟩ := bind_eq_ok_iff.mp hr
  obtain ⟨g, hl, hg⟩ := gap_of_nextItem hn
  cases more with
  | true =>
    simp only [if_true] at hr hg
    obtain ⟨⟨v', c2⟩, hv, hr⟩ := bind_eq_ok_iff.mp hr
    obtain ⟨⟨vs', c3⟩, hvs, hr⟩ := bind_eq_ok_iff.mp hr
    cases hr
    obtain ⟨b, t, hb, hl1, ht⟩ := hs _ _ _ _ (mapError_eq_ok_iff.mp hv)
    obtain ⟨items, t', hp, hl2, ho⟩ := h _ _ _ _ _ _ hvs
    refine ⟨t :: items, (g ++ b) ++ (t ++ t'), .cons (hg.append_blank hb) rfl hp, ?_, ht, ho⟩
    rw [hl, hl1, hl2]
    simp
  | false =>
    simp only [Bool.false_eq_true, if_false] at hr hg
    split at hr
    · rename_i hpres
      obtain ⟨_, he, hr⟩ := bind_eq_ok_iff.mp hr
      cases he
      obtain ⟨⟨vs', c2⟩, hvs, hr⟩ := bind_eq_ok_iff.mp hr
      cases hr
      obtain ⟨items, t, hp, hl1, ho⟩ := h _ _ _ _ _ _ hvs
      have hnext : c1.rest.head? = some (.char ']') := hg.2
      rw [hl1] at hnext
      obtain ⟨rfl, ht⟩ := nil_of_parts hp hnext
      exact ⟨[], g ++ t, .nil (hg.1.append ht), by rw [hl, hl1]; simp, hpres, rfl, ho⟩
    · cases hr

theorem notMem_of_readMember {key : String} {d : Nat} : (fields : Fields) →
    (slots : fields.Slots) → fields.readMember key slots d c = none → key ∉ fields.keys
  | .nil, () => fun _ => List.not_mem_nil
  | .cons name _ s rest, (slot, slots) => by
    intro h
    unfold readMember at h
    split at h
    · split at h <;> cases h
    · rw [keys, List.mem_cons, not_or]
      exact ⟨‹_›, notMem_of_readMember rest slots (Option.map_eq_none_iff.mp h)⟩

theorem meets_of_memberReader {fields : Fields} (hn : fields.SoundByName) {strict : Bool} {d : Nat}
    {key : String} {slots next : fields.Slots}
    (h : fields.memberReader strict d key slots c = .ok (next, c')) :
    ∃ b b' v, Blank b ∧ Blank b' ∧ c.rest = b ++ .char ':' :: (b' ++ (v ++ c'.rest)) ∧
      fields.Meets strict (key, v) slots next := by
  unfold memberReader at h
  split at h
  · subst h
    obtain ⟨b, b', v, hb, hb', hl, hf⟩ := hn _ _ _ _ _ _ ‹_›
    exact ⟨b, b', v, hb, hb', hl, .inl hf⟩
  · obtain ⟨c1, hu, h⟩ := map_eq_ok_iff.mp h
    cases h
    obtain ⟨hs, b, b', v, hb, hb', hl, hv⟩ := rest_of_readUnknown hu
    exact ⟨b, b', v, hb, hb', hl, .inr ⟨fields.notMem_of_readMember _ ‹_›, rfl, hs, hv⟩⟩

theorem soundByName_nil : Fields.nil.SoundByName := by
  intro key d slots next c c' h
  cases h

theorem soundInOrder_nil : Fields.nil.SoundInOrder := by
  intro expected index d vs c c' h
  cases h
  exact ⟨[], [], .nil blank_nil, rfl, rfl⟩

end Fields

/-- A record is read from a list of its values or from an object with its members. -/
theorem Shape.sound_record {fields : Fields} (hn : fields.SoundByName) (ho : fields.SoundInOrder)
    (name : String) (strict : Bool) : (Shape.record name strict fields).Sound := by
  intro d c c' vs h
  unfold Shape.read at h
  dsimp only at h
  obtain ⟨b, hb, hl, -⟩ := c.skipSpace_spec
  split at h
  · split at h
    · cases h
    · obtain ⟨⟨values, c1⟩, hv, h⟩ := bind_eq_ok_iff.mp h
      obtain ⟨c2, hc, h⟩ := bind_eq_ok_iff.mp h
      cases h
      obtain ⟨items, t, hp, hl1, ht⟩ := ho _ _ _ _ _ _ hv
      obtain ⟨b', hb', hl2⟩ := rest_of_closeList hc
      refine ⟨b, _, hb, ?_, .inl ⟨items, ⟨t ++ b', hp.append_blank hb', rfl⟩, ht⟩⟩
      rw [hl, Cursor.rest_of_next? ‹_›, hl1, hl2]
      simp
  split at h
  · split at h
    · cases h
    · rename_i depth
      obtain ⟨⟨slots, c1⟩, hm, h⟩ := bind_eq_ok_iff.mp h
      obtain ⟨values, hf, h⟩ := bind_eq_ok_iff.mp h
      obtain ⟨c2, hc, h⟩ := bind_eq_ok_iff.mp h
      cases h
      obtain ⟨members, t, hp, hl1, hcol⟩ := parts_of_readMembers
        (fun key slots next c c' hr => fields.meets_of_memberReader hn hr) hm
      obtain ⟨b', hb', hl2⟩ := rest_of_closeObject hc
      obtain ⟨hh, hu⟩ := Fields.collects_meets_iff.mp hcol
      refine ⟨b, _, hb, ?_, .inr ⟨members, slots, ⟨t ++ b', hp.append_blank hb', rfl⟩, hh,
        mapError_eq_ok_iff.mp hf, hu⟩⟩
      rw [hl, Cursor.rest_of_next? ‹_›, hl1, hl2]
      simp
  · cases h

mutual

/-- Whatever a shape is read from is one of its texts, behind blanks. -/
theorem Shape.sound : (s : Shape) → s.Sound
  | .text => Shape.sound_text
  | .flag => Shape.sound_flag
  | .number w => Shape.sound_number w
  | .moment => Shape.sound_moment
  | .tag first others => Shape.sound_tag first others
  | .optional s => s.sound.optional
  | .list s => s.sound.list
  | .record name strict fields =>
    Shape.sound_record fields.soundByName fields.soundInOrder name strict

theorem Fields.soundByName : (fields : Fields) → fields.SoundByName
  | .nil => Fields.soundByName_nil
  | .cons _ _ s rest => rest.soundByName.cons s.sound

theorem Fields.soundInOrder : (fields : Fields) → fields.SoundInOrder
  | .nil => Fields.soundInOrder_nil
  | .cons _ _ s rest => rest.soundInOrder.cons s.sound

end

theorem blank_of_atEnd (h : atEnd c = .ok ()) : Blank c.rest := by
  unfold atEnd at h
  dsimp only at h
  obtain ⟨b, hb, hl, -⟩ := c.skipSpace_spec
  split at h
  · rename_i he
    rw [hl, List.isEmpty_iff.mp he, List.append_nil]
    exact hb
  · cases h

/-- A whole text that is read as a value of a shape is one of its texts between blanks. -/
theorem Shape.spelled_of_readAll {s : Shape} {v : s.Carrier} (h : s.readAll c = .ok v) :
    Document (s.Spelled v) c.rest := by
  obtain ⟨⟨v', c1⟩, hv, h⟩ := bind_eq_ok_iff.mp h
  obtain ⟨_, he, h⟩ := bind_eq_ok_iff.mp h
  cases h
  obtain ⟨b, t, hb, hl, ht⟩ := s.sound _ _ _ _ hv
  exact ⟨b, t, c1.rest, hb, ht, blank_of_atEnd he, hl⟩

end PromptGateway.Json
