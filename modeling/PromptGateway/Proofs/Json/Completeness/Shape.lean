import PromptGateway.Proofs.Json.Completeness.Skip
import PromptGateway.Proofs.Json.Soundness.Shape

/-! # A shape is read from all its texts

Every text of a value of a shape is read as this value, provided that it lies no deeper than the
reader goes. Together with soundness this says exactly which texts are read, and as what.
-/

namespace PromptGateway.Json

open Utf8 (Symbol)

variable {b t rest : List Symbol}

/-! ## Depths -/

mutual

def Shape.depth : Shape → Nat
  | .text | .flag | .number _ | .moment => 0
  | .tag _ _ => 1
  | .optional s => s.depth
  | .list s => s.depth + 1
  | .record _ _ fields => fields.depth + 1

def Fields.depth : Fields → Nat
  | .nil => 0
  | .cons _ _ s rest => max s.depth rest.depth

end

/-- Whether a value may be nothing. -/
def Shape.isOptional : Shape → Bool
  | .optional _ => true
  | _ => false

mutual

/-- Whether no optional value is that of another one, so that nothing is written in one way only. -/
def Shape.definite : Shape → Bool
  | .text | .flag | .number _ | .moment | .tag _ _ => true
  | .optional s => !s.isOptional && s.definite
  | .list s => s.definite
  | .record _ _ fields => fields.definite

def Fields.definite : Fields → Bool
  | .nil => true
  | .cons _ _ s rest => s.definite && rest.definite

end

/-! ## Blanks in front -/

namespace Cursor

theorem skipSpace_skipSpace (c : Cursor) : c.skipSpace.skipSpace = c.skipSpace := by
  obtain ⟨-, -, -, hn⟩ := c.skipSpace_spec
  exact skipSpace_of_endsBlank hn c.skipSpace.position

end Cursor

theorem Shape.read_skipSpace (s : Shape) (d : Nat) (c : Cursor) :
    s.read d c.skipSpace = s.read d c := by
  cases s <;>
  simp only [Shape.read, readTextAs, readFlag, readWhole, readTag, Cursor.skipSpace_skipSpace]

/-- That a shape is read from all its texts. -/
def Shape.Complete (s : Shape) : Prop :=
  ∀ v t, s.Spelled v t → ∀ d rest p, s.depth ≤ d → Ends rest →
    Reads (s.read d ⟨t ++ rest, p⟩) v rest

/-- Blanks may stand in front. -/
theorem Shape.Complete.blank {s : Shape} {v : s.Carrier} {d : Nat} (h : s.Complete)
    (ht : s.Spelled v t) (hd : s.depth ≤ d) (hb : Blank b) (hr : Ends rest) (p : Position) :
    Reads (s.read d ⟨b ++ (t ++ rest), p⟩) v rest := by
  obtain ⟨p', he⟩ := Cursor.skipSpace_append hb (s.valued v t ht).begins.endsBlank p
  rw [← s.read_skipSpace, he]
  exact h v t ht d rest p' hd hr

/-! ## Scalars -/

theorem reads_readTextAs {α : Type} (expected : String) {meaning : String → Except Flaw α}
    {str : String} {a : α} (h : StringText str t) (hm : meaning str = .ok a) (p : Position)
    (rest : List Symbol) : Reads (readTextAs expected meaning ⟨t ++ rest, p⟩) a rest := by
  obtain ⟨body, hs, rfl⟩ := h
  obtain ⟨p', he⟩ := reads_readString ⟨body, hs, rfl⟩ (p.after (.char '"')) rest
  refine ⟨p', ?_⟩
  rw [List.cons_append, readTextAs, Cursor.skipSpace_of_endsBlank (endsBlank_cons rfl)]
  refine (if_pos rfl).trans ?_
  simp only [Cursor.drop, he, bind, Except.bind, hm]
  rfl

theorem Shape.complete_text : Shape.text.Complete := by
  intro v t ht d rest p _ _
  rw [Shape.read]
  exact reads_readTextAs "a string" ht rfl p rest

theorem Shape.complete_flag : Shape.flag.Complete := by
  intro v t ht d rest p _ _
  subst ht
  rw [Shape.read]
  cases v <;> exact ⟨_, rfl⟩

theorem Shape.complete_number (w : Width) : (Shape.number w).Complete := by
  intro v t ht d rest p _ hr
  subst ht
  rw [Shape.read]
  exact readWhole_integerChars w v hr p

theorem Shape.complete_moment : Shape.moment.Complete := by
  rintro v t ⟨str, ht, hm⟩ d rest p _ _
  rw [Shape.read]
  exact reads_readTextAs _ ht (mapError_eq_ok_iff.mpr hm) p rest

theorem skips_readNull (hb : Blank b) (rest : List Symbol) (p : Position) :
    Skips (readNull ⟨b ++ (symbols ['n', 'u', 'l', 'l'] ++ rest), p⟩) rest := by
  obtain ⟨p', he⟩ := Cursor.skipSpace_cons (s := .char 'n') hb rfl
    (symbols ['u', 'l', 'l'] ++ rest) p
  have hl : b ++ (symbols ['n', 'u', 'l', 'l'] ++ rest) =
      b ++ .char 'n' :: (symbols ['u', 'l', 'l'] ++ rest) := rfl
  rw [hl, readNull, he]
  exact Cursor.skips_word ['u', 'l', 'l'] rest (p'.after (.char 'n'))

theorem Shape.complete_tag (first : String) (others : List String) :
    (Shape.tag first others).Complete := by
  rintro i t ⟨name, hi, h | h⟩ d rest p hd _
  · obtain ⟨p', he⟩ := reads_readTextAs "variant identifier" h hi p rest
    obtain ⟨body, hs, rfl⟩ := h
    refine ⟨p', ?_⟩
    rw [List.cons_append] at he ⊢
    rw [Shape.read, readTag.eq_def, Cursor.skipSpace_of_endsBlank (endsBlank_cons rfl)]
    exact he
  · obtain ⟨inner, hp, rfl⟩ := h
    obtain ⟨d, rfl⟩ := Nat.exists_eq_succ_of_ne_zero (Nat.ne_of_gt hd)
    cases hp with
    | @cons _ _ _ g m more hg hm hmore =>
      obtain ⟨n, b1, b2, hn, hb1, hb2, rfl⟩ := hm
      cases hmore with
      | nil hb3 =>
        obtain ⟨body, hs, rfl⟩ := hn
        have hl : (.char '\x7b' :: (g ++ (.char '"' :: (body ++ [.char '"']) ++ (b1 ++ .char ':' ::
            (b2 ++ symbols ['n', 'u', 'l', 'l'])) ++ more) ++ [.char '\x7d']) ++ rest :
            List Symbol) = .char '\x7b' :: (g ++ .char '"' :: (body ++ [.char '"'] ++ (b1 ++
              .char ':' :: (b2 ++ (symbols ['n', 'u', 'l', 'l'] ++
                (more ++ .char '\x7d' :: rest)))))) := by simp
        obtain ⟨p1, h1⟩ := Cursor.skipSpace_cons (s := .char '"') hg rfl (body ++ [.char '"'] ++
          (b1 ++ .char ':' :: (b2 ++ (symbols ['n', 'u', 'l', 'l'] ++
            (more ++ .char '\x7d' :: rest))))) (p.after (.char '\x7b'))
        obtain ⟨p2, h2⟩ := reads_readTextAs "variant identifier" ⟨body, hs, rfl⟩ hi p1
          (b1 ++ .char ':' :: (b2 ++ (symbols ['n', 'u', 'l', 'l'] ++
            (more ++ .char '\x7d' :: rest))))
        obtain ⟨p3, h3⟩ := skips_readColon hb1 (b2 ++ (symbols ['n', 'u', 'l', 'l'] ++
          (more ++ .char '\x7d' :: rest))) p2
        obtain ⟨p4, h4⟩ := skips_readNull hb2 (more ++ .char '\x7d' :: rest) p3
        obtain ⟨p5, h5⟩ := Cursor.skipSpace_cons (s := .char '\x7d') hb3 rfl rest p4
        refine ⟨p5.after (.char '\x7d'), ?_⟩
        rw [hl, Shape.read, readTag.eq_def, Cursor.skipSpace_of_endsBlank (endsBlank_cons rfl)]
        rw [List.cons_append] at h2
        simp only [Cursor.next?, List.head?_cons, Cursor.drop, h1, h2, h3, h4, h5, bind,
          Except.bind, Except.mapError]

/-! ## Optional values and lists -/

/-- Only an optional value is written with the word for nothing. -/
theorem Shape.head?_ne_of_spelled {s : Shape} {v : s.Carrier} (hs : s.isOptional = false)
    (h : s.Spelled v t) : (t ++ rest).head? ≠ some (.char 'n') := by
  cases s with
  | text =>
    obtain ⟨body, -, rfl⟩ := h
    simp
  | flag =>
    subst h
    cases v <;> simp [Shape.chars]
  | number w =>
    subst h
    obtain ⟨c, ds, hc, hd⟩ := (numberText_integerChars (w.toInt v)).exists_cons
    have hn : c ≠ 'n' := by
      rintro rfl
      obtain hd | hd := hd <;> cases hd
    simp [hc, hn]
  | moment =>
    obtain ⟨_, ⟨body, -, rfl⟩, -⟩ := h
    simp
  | tag first others =>
    obtain ⟨_, -, ⟨body, -, rfl⟩ | ⟨inner, -, rfl⟩⟩ := h <;> simp
  | optional s => cases hs
  | list s =>
    obtain ⟨inner, -, rfl⟩ := h
    simp
  | record name strict fields =>
    obtain ⟨_, ⟨inner, -, rfl⟩, -⟩ | ⟨_, _, ⟨inner, -, rfl⟩, -⟩ := h <;> simp

theorem Shape.Complete.optional {s : Shape} (hs : s.Complete) (ho : s.isOptional = false) :
    (Shape.optional s).Complete := by
  intro v t ht d rest p hd hr
  cases v with
  | none =>
    obtain rfl : t = symbols ['n', 'u', 'l', 'l'] := ht
    rw [Shape.read]
    exact ⟨_, rfl⟩
  | some v =>
    have ht' : s.Spelled v t := ht
    obtain ⟨p', he⟩ := hs v t ht d rest p hd hr
    refine ⟨p', ?_⟩
    rw [Shape.read, Cursor.skipSpace_of_endsBlank (s.valued v t ht').begins.endsBlank]
    refine (if_neg (s.head?_ne_of_spelled ho ht')).trans ?_
    rw [he]
    rfl

theorem Shape.Complete.list {s : Shape} (hs : s.Complete) : (Shape.list s).Complete := by
  rintro vs t ⟨inner, hp, rfl⟩ d rest p hd _
  obtain ⟨d, rfl⟩ := Nat.exists_eq_succ_of_ne_zero (Nat.ne_of_gt (Nat.zero_lt_of_lt hd))
  have hd' : s.depth ≤ d := Nat.le_of_succ_le_succ hd
  have hl : vs.length < (.char '[' :: (inner ++ [.char ']']) ++ rest : List Symbol).length := by
    have := hp.length_le fun v t ht => by
      obtain ⟨s, t', rfl, -⟩ := (s.valued v t ht).begins
      exact List.cons_ne_nil s t'
    simp only [List.length_append, List.length_cons]
    omega
  have he : (.char '[' :: (inner ++ [.char ']']) ++ rest : List Symbol) =
      .char '[' :: (inner ++ .char ']' :: rest) := by simp
  rw [he] at hl ⊢
  obtain ⟨p1, h1⟩ : Reads (readItems (fun _ => s.read d) [] _ ⟨inner ++ .char ']' :: rest,
      p.after (.char '[')⟩) vs (.char ']' :: rest) :=
    reads_readItems hp (fun v t ht => ⟨(s.valued v t ht).begins,
      fun _ rest p hr => hs v t ht d rest p hd' hr⟩) rfl hl rest (p.after (.char '['))
  refine ⟨p1.after (.char ']'), ?_⟩
  rw [Shape.read, Cursor.skipSpace_of_endsBlank (endsBlank_cons rfl)]
  refine (if_pos rfl).trans ?_
  refine (congrArg (· >>= _) h1).trans ?_
  rfl

/-! ## Records -/

namespace Fields

variable {name : String} {presence : Presence} {s : Shape} {rest : Fields}
  {m : String × List Symbol} {members : List (String × List Symbol)}

/-- That the value of a member is read from all its texts, by its name. -/
def CompleteByName (fields : Fields) : Prop :=
  ∀ m slots next, fields.Fills m slots next → ∀ d b b' rest p, fields.depth ≤ d → Blank b →
    Blank b' → Ends rest → ∃ reading,
      fields.readMember m.1 slots d ⟨b ++ .char ':' :: (b' ++ (m.2 ++ rest)), p⟩ = some reading ∧
        Reads reading next rest

/-- That the values of members are read in their order from all their texts. -/
def CompleteInOrder (fields : Fields) : Prop :=
  ∀ vs items, fields.InOrder vs items → ∀ expected index d t, fields.depth ≤ d →
    Parts (· = ·) (index == 0) items t → ∀ rest p, ∃ b p', Blank b ∧
      fields.readList expected index d ⟨t ++ .char ']' :: rest, p⟩ =
        .ok (vs, ⟨b ++ .char ']' :: rest, p'⟩)

theorem CompleteByName.cons (hs : s.Complete) (h : rest.CompleteByName) :
    (Fields.cons name presence s rest).CompleteByName := by
  rintro m ⟨slot, slots⟩ ⟨slot', slots'⟩ hf d b b' more p hd hb hb' hr
  obtain ⟨hds, hdr⟩ := Nat.max_le.mp hd
  rw [Fills] at hf
  unfold readMember
  split at hf
  · rename_i hn
    obtain ⟨rfl, ⟨v, rfl, hv⟩, rfl⟩ := hf
    refine ⟨_, if_pos hn, ?_⟩
    obtain ⟨p1, h1⟩ := skips_readColon hb (b' ++ (m.2 ++ more)) p
    obtain ⟨p2, h2⟩ := hs.blank hv hds hb' hr p1
    refine ⟨p2, ?_⟩
    simp only [h1, h2, bind, Except.bind, Except.mapError]
    rfl
  · rename_i hn
    obtain ⟨rfl, hf⟩ := hf
    obtain ⟨reading, he, p', hr⟩ := h m slots slots' hf d b b' more p hdr hb hb' hr
    refine ⟨_, (if_neg hn).trans (congrArg _ he), p', ?_⟩
    rw [hr]
    rfl

theorem CompleteInOrder.cons (hs : s.Complete) (h : rest.CompleteInOrder) :
    (Fields.cons name presence s rest).CompleteInOrder := by
  rintro ⟨v, vs⟩ items ho expected index d t hd hp more p
  obtain ⟨hds, hdr⟩ := Nat.max_le.mp hd
  have hi : (index + 1 == 0) = false := rfl
  unfold readList
  cases hp with
  | nil hb =>
    obtain ⟨rfl, rfl, ho⟩ := ho
    obtain ⟨p1, h1⟩ := nextItem_end (index == 0) hb more p
    obtain ⟨b, p2, hb', h2⟩ := h vs [] ho expected (index + 1) d [] hdr (.nil blank_nil) more p1
    refine ⟨b, p2, hb', ?_⟩
    rw [List.nil_append] at h2
    simp only [h1, bind, Except.bind, Bool.false_eq_true, if_false, if_true, h2]
    rfl
  | @cons _ t' items g t more' hg ht hp =>
    obtain rfl : t' = t := ht
    obtain ⟨hv, ho⟩ := ho
    have he : Ends (more' ++ .char ']' :: more) :=
      hp.ends (delimited_cons (.inr (.inl rfl))).ends
    obtain ⟨p1, h1⟩ := nextItem_gap hg (s.valued v t' hv).begins (more' ++ .char ']' :: more) p
    obtain ⟨p2, h2⟩ := hs v t' hv d _ p1 hds he
    obtain ⟨b, p3, hb, h3⟩ := h vs items ho expected (index + 1) d more' hdr hp more p2
    refine ⟨b, p3, hb, ?_⟩
    rw [List.append_assoc, List.append_assoc]
    simp only [h1, bind, Except.bind, if_true, h2, Except.mapError, h3]
    rfl

theorem completeByName_nil : Fields.nil.CompleteByName := fun _ _ _ h => h.elim

theorem completeInOrder_nil : Fields.nil.CompleteInOrder := by
  rintro ⟨⟩ items rfl expected index d t _ hp rest p
  cases hp with
  | nil hb => exact ⟨t, p, hb, rfl⟩

/-- A member is read by its name, or passed over if the record does not have it. -/
theorem readsMember_of_meets {fields : Fields} (hn : fields.CompleteByName) {strict : Bool}
    {slots next : fields.Slots} (h : fields.Meets strict m slots next) {d : Nat}
    (hd : fields.depth ≤ d) : ReadsMember (fields.memberReader strict d) m slots next := by
  intro b b' rest p hb hb' hr
  unfold memberReader
  obtain hf | ⟨hk, rfl, rfl, hv⟩ := h
  · obtain ⟨reading, he, hread⟩ := hn m slots next hf d b b' rest p hd hb hb' hr
    rw [he]
    exact hread
  · obtain ⟨p1, h1⟩ := skips_readColon hb (b' ++ (m.2 ++ rest)) p
    obtain ⟨p2, h2⟩ := skips_skipValue hv hb' hr p1
    refine ⟨p2, ?_⟩
    rw [readMember_eq_none fields next hk]
    simp only [readUnknown, Bool.false_eq_true, if_false, h1, bind, Except.bind, h2]
    rfl

end Fields

theorem Shape.complete_record {fields : Fields} (hn : fields.CompleteByName)
    (ho : fields.CompleteInOrder) (name : String) (strict : Bool) :
    (Shape.record name strict fields).Complete := by
  intro vs t ht d rest p hd _
  obtain ⟨d, rfl⟩ := Nat.exists_eq_succ_of_ne_zero (Nat.ne_of_gt (Nat.zero_lt_of_lt hd))
  have hd' : fields.depth ≤ d := Nat.le_of_succ_le_succ hd
  obtain ⟨items, ⟨inner, hp, rfl⟩, hi⟩ | ⟨members, slots, ⟨inner, hp, rfl⟩, hh, hf, hu⟩ := ht
  · have he : (.char '[' :: (inner ++ [.char ']']) ++ rest : List Symbol) =
        .char '[' :: (inner ++ .char ']' :: rest) := by simp
    obtain ⟨b, p1, hb, h1⟩ := ho vs items hi (sizedName name fields) 0 d inner hd' hp rest
      (p.after (.char '['))
    obtain ⟨p2, h2⟩ := skips_closeList hb rest p1
    refine ⟨p2, ?_⟩
    rw [he, Shape.read, Cursor.skipSpace_of_endsBlank (endsBlank_cons rfl)]
    refine (if_pos rfl).trans ?_
    refine (congrArg (· >>= _) h1).trans ?_
    simp only [bind, Except.bind, h2]
    rfl
  · have he : (.char '\x7b' :: (inner ++ [.char '\x7d']) ++ rest : List Symbol) =
        .char '\x7b' :: (inner ++ .char '\x7d' :: rest) := by simp
    have hl : members.length <
        (.char '\x7b' :: (inner ++ .char '\x7d' :: rest) : List Symbol).length := by
      have := hp.length_le fun m t ht => by
        obtain ⟨n, b, b', ⟨body, -, rfl⟩, -, -, rfl⟩ := ht
        exact List.cons_ne_nil _ _
      simp only [List.length_append, List.length_cons]
      omega
    have hc := (Fields.collects_meets_iff.mpr ⟨hh, hu⟩).mono fun m slots next hm =>
      Fields.readsMember_of_meets hn hm hd'
    obtain ⟨p1, h1⟩ := reads_readMembers hp hc hl rest (p.after (.char '\x7b'))
    refine ⟨p1.after (.char '\x7d'), ?_⟩
    rw [he, Shape.read, Cursor.skipSpace_of_endsBlank (endsBlank_cons rfl)]
    refine (if_neg (by simp [Cursor.next?])).trans ((if_pos rfl).trans ?_)
    refine (congrArg (· >>= _) h1).trans ?_
    simp only [bind, Except.bind, hf, Except.mapError]
    rfl

mutual

/-- A shape is read from all its texts. -/
theorem Shape.complete : (s : Shape) → s.definite = true → s.Complete
  | .text => fun _ => Shape.complete_text
  | .flag => fun _ => Shape.complete_flag
  | .number w => fun _ => Shape.complete_number w
  | .moment => fun _ => Shape.complete_moment
  | .tag first others => fun _ => Shape.complete_tag first others
  | .optional s => fun h => by
    simp only [Shape.definite, Bool.and_eq_true, Bool.not_eq_true'] at h
    exact (s.complete h.2).optional h.1
  | .list s => fun h => (s.complete h).list
  | .record name strict fields => fun h =>
    Shape.complete_record (fields.completeByName h) (fields.completeInOrder h) name strict

theorem Fields.completeByName : (fields : Fields) → fields.definite = true → fields.CompleteByName
  | .nil => fun _ => Fields.completeByName_nil
  | .cons _ _ s rest => fun h => by
    simp only [Fields.definite, Bool.and_eq_true] at h
    exact (rest.completeByName h.2).cons (s.complete h.1)

theorem Fields.completeInOrder :
    (fields : Fields) → fields.definite = true → fields.CompleteInOrder
  | .nil => fun _ => Fields.completeInOrder_nil
  | .cons _ _ s rest => fun h => by
    simp only [Fields.definite, Bool.and_eq_true] at h
    exact (rest.completeInOrder h.2).cons (s.complete h.1)

end

/-! ## Whole texts -/

theorem atEnd_of_blank (hb : Blank b) (p : Position) : atEnd ⟨b, p⟩ = .ok () := by
  obtain ⟨p', he⟩ := Cursor.skipSpace_append hb endsBlank_nil p
  rw [List.append_nil] at he
  rw [atEnd, he]
  rfl

/-- The whole texts that are read as a value are exactly its texts between blanks. -/
theorem Shape.readAll_eq_ok_iff {s : Shape} {v : s.Carrier} {c : Cursor}
    (hs : s.definite = true) (hd : s.depth ≤ maxDepth) :
    s.readAll c = .ok v ↔ Document (s.Spelled v) c.rest := by
  refine ⟨Shape.spelled_of_readAll, fun ⟨b, t, b', hb, ht, hb', hl⟩ => ?_⟩
  have he : Ends b' := by simpa using hb'.ends delimited_nil.ends
  obtain ⟨p', hr⟩ := (s.complete hs).blank ht hd hb he c.position
  rw [← hl] at hr
  refine (congrArg (· >>= _) hr).trans ?_
  simp only [bind, Except.bind, atEnd_of_blank hb' p']
  rfl

end PromptGateway.Json
