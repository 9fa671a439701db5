import PromptGateway.Proofs.Json.Written

/-! # Values are read back from their texts

The text of a value without floats is read as this value, whatever characters its strings and the
names of its members hold, if it lies no deeper than the reader goes.
-/

namespace PromptGateway.Json

open Utf8 (Symbol)

variable {b rest : List Symbol} {d : Nat} {v : Value}

theorem Cursor.skipSpace_char (c : Char) (h : isSpace (.char c) = false) (rest : List Symbol)
    (p : Position) : skipSpace ⟨.char c :: rest, p⟩ = ⟨.char c :: rest, p⟩ :=
  skipSpace_of_endsBlank (endsBlank_cons h) p

theorem skips_closeObject (hb : Blank b) (rest : List Symbol) (p : Position) :
    Skips (closeObject ⟨b ++ .char '\x7d' :: rest, p⟩) rest := by
  obtain ⟨p', he⟩ := Cursor.skipSpace_cons (s := .char '\x7d') hb rfl _ p
  exact ⟨p'.after (.char '\x7d'), by rw [closeObject, he]; rfl⟩

namespace Value

/-- That a value holds no floats, whole numbers of 64 bits, and no more than `d` levels. -/
inductive Plain : Nat → Value → Prop
  | null {d : Nat} : Plain d null
  | bool {d : Nat} (b : Bool) : Plain d (bool b)
  | integer {d : Nat} {n : Int} (hl : -9223372036854775808 ≤ n) (hu : n < 18446744073709551616) :
    Plain d (number (.integer n))
  | string {d : Nat} (s : String) : Plain d (string s)
  | array {d : Nat} {items : List Value} (h : ∀ v ∈ items, Plain d v) : Plain (d + 1) (array items)
  | object {d : Nat} {members : List (String × Value)} (h : ∀ m ∈ members, Plain d m.2) :
    Plain (d + 1) (object members)

/-! ## Texts -/

theorem itemChars_eq (items : List Value) : itemChars items = joinMembers (items.map chars) := by
  induction items with
  | nil => rfl
  | cons v items ih =>
    cases items with
    | nil => rfl
    | cons v' items =>
      rw [itemChars, ih]
      · rfl
      · exact List.cons_ne_nil v' items

/-- Between the brackets of an array stand the texts of its items. -/
theorem parts_itemChars (items : List Value) :
    Parts (fun v t => v ∈ items ∧ symbols v.chars = t) true items (symbols (itemChars items)) := by
  have h : Parts (fun v t => v ∈ items ∧ symbols v.chars = t) true (items.map id)
      (symbols (joinMembers (items.map chars))) := parts_joinMembers fun v hv => ⟨hv, rfl⟩
  rwa [List.map_id, ← itemChars_eq] at h

def parts (members : List (String × Value)) : List (String × List Char) :=
  members.map fun m => (m.1, m.2.chars)

theorem memberChars_eq (members : List (String × Value)) :
    memberChars members = joinMembers ((parts members).map memberText) := by
  induction members with
  | nil => rfl
  | cons m members ih =>
    obtain ⟨key, v⟩ := m
    cases members with
    | nil => rfl
    | cons m' members =>
      rw [memberChars, ih]
      · simp [parts, memberText, joinMembers]
      · exact List.cons_ne_nil m' members

theorem chars_object (members : List (String × Value)) :
    (object members).chars = recordText (parts members) := by
  rw [chars, memberChars_eq, recordText]

/-! ## Reading -/

/-- That a value is read from its text where another text follows that does not go on with it. -/
def ReadsBack (d : Nat) (v : Value) : Prop :=
  ∀ rest p, Ends rest → Reads (readValue d ⟨symbols v.chars ++ rest, p⟩) v rest

theorem begins_chars (v : Value) (h : v.Plain d) : Begins (symbols v.chars) := by
  cases h with
  | null => exact begins_char rfl (by decide)
  | bool b => cases b <;> exact begins_char rfl (by decide)
  | @integer _ n hl hu =>
    rcases (numberText_integerChars n).exists_cons with ⟨c, cs, hc, rfl | hd⟩
    · rw [chars, Number.chars, hc]
      exact begins_char rfl (by decide)
    · rw [chars, Number.chars, hc]
      refine begins_char (isSpace_of_isDigit hd) ?_
      rintro rfl
      cases hd
  | string s => exact begins_char rfl (by decide)
  | array h => exact begins_char rfl (by decide)
  | object h => exact begins_char rfl (by decide)

theorem readValue_skipSpace (d : Nat) (c : Cursor) : readValue d c.skipSpace = readValue d c := by
  rw [readValue.eq_def, readValue.eq_def]
  simp only [Cursor.skipSpace_skipSpace]

/-- Blanks may stand in front. -/
theorem ReadsBack.blank (h : v.ReadsBack d) (hv : v.Plain d) (hb : Blank b) (hr : Ends rest)
    (p : Position) : Reads (readValue d ⟨b ++ (symbols v.chars ++ rest), p⟩) v rest := by
  obtain ⟨p', he⟩ := Cursor.skipSpace_append hb (begins_chars v hv).endsBlank p
  rw [← readValue_skipSpace, he]
  exact h rest p' hr

theorem readsBack_null : ReadsBack d null := by
  intro rest p _
  rw [chars, readValue.eq_def]
  exact ⟨_, rfl⟩

theorem readsBack_bool (b : Bool) : ReadsBack d (bool b) := by
  intro rest p _
  rw [readValue.eq_def]
  cases b <;> exact ⟨_, rfl⟩

theorem readsBack_integer {n : Int} (hl : -9223372036854775808 ≤ n)
    (hu : n < 18446744073709551616) : ReadsBack d (number (.integer n)) := by
  intro rest p hr
  rw [chars, Number.chars]
  rcases integerChars_cases hl hu hr with ⟨ds, hc, hread⟩ | ⟨c, ds, hc, hd, hread⟩
  · obtain ⟨p', he⟩ := hread (p.after (.char '-'))
    refine ⟨p', ?_⟩
    rw [hc, symbols_cons, List.cons_append, readValue.eq_def]
    simp [Cursor.skipSpace_char '-' rfl, Cursor.next?, Cursor.drop, he, Except.map]
  · obtain ⟨p', he⟩ := hread p
    refine ⟨p', ?_⟩
    have hne (c' : Char) (hc' : Text.isDigit c' = false) : c ≠ c' := by
      rintro rfl
      cases hd.symm.trans hc'
    rw [hc, symbols_cons, List.cons_append, readValue.eq_def]
    simp [Cursor.skipSpace_char c (isSpace_of_isDigit hd), Cursor.next?, hne 'n' rfl, hne 't' rfl,
      hne 'f' rfl, hne '-' rfl, hd, he, Except.map]

theorem readsBack_string (s : String) : ReadsBack d (string s) := by
  intro rest p _
  obtain ⟨body, hs, ht⟩ := stringText_stringChars s
  obtain ⟨p', he⟩ := reads_readString ⟨body, hs, rfl⟩ (p.after (.char '"')) rest
  refine ⟨p', ?_⟩
  rw [List.append_assoc, List.singleton_append] at he
  rw [chars, ht, readValue.eq_def, List.cons_append]
  simp [Cursor.skipSpace_char '"' rfl, Cursor.next?, Text.isDigit, Cursor.drop, he, Except.map]

theorem readsBack_array {items : List Value} (hp : ∀ v ∈ items, v.Plain d)
    (hi : ∀ v ∈ items, ReadsBack d v) : ReadsBack (d + 1) (array items) := by
  intro rest p _
  have ht := parts_itemChars items
  have hl : items.length <
      (.char '[' :: (symbols (itemChars items) ++ .char ']' :: rest) : List Symbol).length := by
    have := ht.length_le fun v t hv => by
      obtain ⟨s, t', he, -⟩ := begins_chars v (hp v hv.1)
      exact hv.2 ▸ he ▸ List.cons_ne_nil s t'
    simp only [List.length_append, List.length_cons]
    omega
  obtain ⟨p1, h1⟩ : Reads (readItems (fun _ => readValue d) [] _
      ⟨symbols (itemChars items) ++ .char ']' :: rest, p.after (.char '[')⟩) items
        (.char ']' :: rest) := by
    refine reads_readItems ht ?_ rfl hl rest (p.after (.char '['))
    rintro v t ⟨hv, rfl⟩
    exact ⟨begins_chars v (hp v hv), fun _ => hi v hv⟩
  obtain ⟨p2, h2⟩ := skips_closeList blank_nil rest p1
  refine ⟨p2, ?_⟩
  have he : symbols (array items).chars ++ rest =
      .char '[' :: (symbols (itemChars items) ++ .char ']' :: rest) := by simp [chars]
  rw [he, readValue.eq_def]
  simp only [Cursor.skipSpace_char '[' rfl]
  refine (congrArg (· >>= _) h1).trans ?_
  rw [List.nil_append] at h2
  simp [bind, Except.bind, h2, pure, Except.pure]

def memberReader (d : Nat) (key : String) (read : List (String × Value)) (c : Cursor) :
    Except Failure (List (String × Value) × Cursor) := do
  let (v, c) ← readValue d (← readColon c)
  return ((key, v) :: read, c)

theorem collects_parts {members : List (String × Value)} (hp : ∀ m ∈ members, m.2.Plain d)
    (hi : ∀ m ∈ members, m.2.ReadsBack d) (read : List (String × Value)) :
    Collects (ReadsMember (memberReader d)) ((parts members).map fun m => (m.1, symbols m.2)) read
      (members.reverse ++ read) := by
  induction members generalizing read with
  | nil => rfl
  | cons m members ih =>
    obtain ⟨hpm, hp⟩ := List.forall_mem_cons.mp hp
    obtain ⟨hm, hi⟩ := List.forall_mem_cons.mp hi
    refine ⟨m :: read, ?_, by simpa [parts] using ih hp hi (m :: read)⟩
    intro b b' rest p hb hb' hr
    obtain ⟨p1, h1⟩ := skips_readColon hb (b' ++ (symbols m.2.chars ++ rest)) p
    obtain ⟨p2, h2⟩ := hm.blank hpm hb' hr p1
    refine ⟨p2, ?_⟩
    simp only [memberReader, h1, h2, bind, Except.bind]
    rfl

theorem readsBack_object {members : List (String × Value)} (hp : ∀ m ∈ members, m.2.Plain d)
    (hi : ∀ m ∈ members, m.2.ReadsBack d) : ReadsBack (d + 1) (object members) := by
  intro rest p _
  obtain ⟨inner, ht, he⟩ := objectText_recordText (parts members)
  have hl : ((parts members).map fun m => (m.1, symbols m.2)).length <
      (.char '\x7b' :: (inner ++ .char '\x7d' :: rest) : List Symbol).length := by
    have := ht.length_le fun m t ht => by
      obtain ⟨n, b, b', ⟨body, -, rfl⟩, -, -, rfl⟩ := ht
      exact List.cons_ne_nil _ _
    simp only [List.length_append, List.length_cons]
    omega
  obtain ⟨p1, h1⟩ := reads_readMembers ht (collects_parts hp hi []) hl rest
    (p.after (.char '\x7b'))
  obtain ⟨p2, h2⟩ := skips_closeObject blank_nil rest p1
  refine ⟨p2, ?_⟩
  rw [chars_object, he, List.cons_append, List.append_assoc, readValue.eq_def]
  simp only [Cursor.skipSpace_char '\x7b' rfl]
  refine (congrArg (· >>= _) h1).trans ?_
  rw [List.nil_append] at h2
  simp [bind, Except.bind, h2, pure, Except.pure]

theorem Plain.readsBack (h : v.Plain d) : v.ReadsBack d := by
  induction h with
  | null => exact readsBack_null
  | bool b => exact readsBack_bool b
  | integer hl hu => exact readsBack_integer hl hu
  | string s => exact readsBack_string s
  | array hp ih => exact readsBack_array hp ih
  | object hp ih => exact readsBack_object hp ih

/-- A value without floats is read back from its text. -/
theorem Plain.read_text (h : v.Plain maxDepth) : read (.ofString v.text) = .ok v := by
  have he : Ends [] := delimited_nil.ends
  obtain ⟨p, hr⟩ := h.readsBack [] {} he
  rw [List.append_nil] at hr
  rw [read, Cursor.ofString, text, String.toList_ofList]
  refine (congrArg (· >>= _) hr).trans ?_
  simp only [bind, Except.bind, atEnd_of_blank blank_nil p]
  rfl

end Value

end PromptGateway.Json
