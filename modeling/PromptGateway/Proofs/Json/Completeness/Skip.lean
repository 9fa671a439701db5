import PromptGateway.Proofs.Json.Completeness.Parts

/-! # Every value can be passed over

Passing over a value takes any text of a value, however deep its lists and objects lie within each
other. Each symbol costs at most two steps, so twice the length of a text is measure enough.
-/

namespace PromptGateway.Json

open Utf8 (Symbol)

variable {b g t v rest : List Symbol} {first : Bool} {c : Char}

/-! ## What values begin with -/

theorem NumberText.exists_cons {cs : List Char} (h : NumberText cs) :
    ∃ c ds, cs = c :: ds ∧ (c = '-' ∨ Text.isDigit c = true) := by
  obtain ⟨sign, whole, fraction, exponent, rfl | rfl, hw, -, -, rfl⟩ := h
  · obtain ⟨c, ds, rfl⟩ := List.exists_cons_of_ne_nil hw.1.1
    exact ⟨c, _, rfl, .inr (hw.1.2 c List.mem_cons_self)⟩
  · exact ⟨'-', _, rfl, .inl rfl⟩

theorem begins_char (hs : Cursor.isSpace (.char c) = false) (hc : c ≠ ']') :
    Begins (.char c :: t) :=
  ⟨.char c, t, rfl, hs, fun h => hc (Symbol.char.inj h)⟩

theorem ValueText.begins (h : ValueText v) : Begins v := by
  cases h with
  | null => exact begins_char rfl (by decide)
  | true => exact begins_char rfl (by decide)
  | false => exact begins_char rfl (by decide)
  | number h =>
    obtain ⟨c, ds, rfl, rfl | hc⟩ := h.exists_cons
    · exact begins_char rfl (by decide)
    · refine begins_char (isSpace_of_isDigit hc) ?_
      rintro rfl
      cases hc
  | string h =>
    obtain ⟨body, -, rfl⟩ := h
    exact begins_char rfl (by decide)
  | list h hi =>
    obtain ⟨inner, -, rfl⟩ := h
    exact begins_char rfl (by decide)
  | object h hm =>
    obtain ⟨inner, -, rfl⟩ := h
    exact begins_char rfl (by decide)

/-! ## Steps -/

/-- That a text is passed over where a value is expected, in so many steps. -/
def Passes (v : List Symbol) : Prop :=
  ∃ k ≤ 2 * v.length, ∀ enclosing b rest p measure, Blank b → Ends rest →
    ∃ p', skipFrom .before enclosing (measure + k) ⟨b ++ (v ++ rest), p⟩ =
      skipFrom (.behind true) enclosing measure ⟨rest, p'⟩

theorem passes_of_skipScalar (hs : Cursor.isSpace (.char c) = false) (hl : c ≠ '[')
    (hb : c ≠ '\x7b') (h : ∀ rest p, Ends rest →
      Skips (skipScalar c ⟨.char c :: (t ++ rest), p⟩) rest) : Passes (.char c :: t) := by
  refine ⟨1, by rw [List.length_cons]; omega, fun enclosing b rest p measure hblank hr => ?_⟩
  obtain ⟨p1, he⟩ := Cursor.skipSpace_cons hblank hs (t ++ rest) p
  obtain ⟨p2, hc⟩ := h rest p1 hr
  refine ⟨p2, ?_⟩
  rw [List.cons_append, skipFrom, he]
  simp [Cursor.next?, hc, bind, Except.bind]

/-- That a part of a list or an object is passed over, in so many steps behind its name. -/
def Open.Passes (o : Open) (t : List Symbol) : Prop :=
  ∃ k ≤ 2 * t.length, ∀ enclosing b rest p measure, Blank b → Ends rest →
    ∃ c p', (if o = .object then skipName ⟨b ++ (t ++ rest), p⟩ else .ok ⟨b ++ (t ++ rest), p⟩) =
      .ok c ∧ skipFrom .before (o :: enclosing) (measure + k) c =
        skipFrom (.behind true) (o :: enclosing) measure ⟨rest, p'⟩

/-- That a text begins with a symbol that is neither a blank nor closes the list or object. -/
def Open.Begins (o : Open) (t : List Symbol) : Prop :=
  ∃ s t', t = s :: t' ∧ Cursor.isSpace s = false ∧ s ≠ .char o.closer

/-- The parts that are left of a list or an object are passed over, up to what closes it. -/
theorem skipFrom_parts {α : Type} {piece : α → List Symbol → Prop} {o : Open} {as : List α}
    (h : Parts piece first as t)
    (hp : ∀ a ∈ as, ∀ t, piece a t → o.Begins t ∧ o.Passes t) :
    ∃ k ≤ 2 * t.length + (if first then 2 else 1), ∀ enclosing rest p measure,
      ∃ p', skipFrom (.behind (!first)) (o :: enclosing) (measure + k)
          ⟨t ++ .char o.closer :: rest, p⟩ =
        skipFrom (.behind true) enclosing measure ⟨rest, p'⟩ := by
  have hs : Cursor.isSpace (.char o.closer) = false := by cases o <;> rfl
  have he (rest : List Symbol) : Ends (.char o.closer :: rest) := by
    cases o
    · exact (delimited_cons (.inr (.inl rfl))).ends
    · exact (delimited_cons (.inr (.inr rfl))).ends
  induction h with
  | @nil first b hb =>
    refine ⟨1, by split <;> omega, fun enclosing rest p measure => ?_⟩
    obtain ⟨p', he⟩ := Cursor.skipSpace_cons hb hs rest p
    refine ⟨p'.after (.char o.closer), ?_⟩
    rw [skipFrom, he]
    simp [Cursor.next?, Cursor.drop]
  | @cons first a as g t more hg ht h ih =>
    obtain ⟨ha, hp⟩ := List.forall_mem_cons.mp hp
    obtain ⟨⟨s, t', rfl, hst, hc⟩, k, hk, hskip⟩ := ha t ht
    obtain ⟨k', hk', hmore⟩ := ih hp
    have hends (rest : List Symbol) : Ends (more ++ .char o.closer :: rest) := h.ends (he rest)
    have hl : k' + k + 1 ≤ 2 * (g ++ (s :: t' ++ more)).length + if first then 2 else 1 := by
      have hc : (if first then 0 else 1) ≤ g.length := by
        cases first with
        | true => exact Nat.zero_le _
        | false =>
          obtain ⟨b, b', -, -, rfl⟩ := hg
          rw [List.length_append, List.length_cons]
          exact Nat.le_add_left_of_le (Nat.le_add_left 1 _)
      simp only [List.length_append] at hk hk' ⊢
      cases first <;> simp only [Bool.false_eq_true, if_false, if_true] at hc hk' ⊢ <;> omega
    refine ⟨k' + k + 1, hl, fun enclosing rest p measure => ?_⟩
    -- up to the part and over it, then over those that are left
    have hpass (b : List Symbol) (hb : Blank b) (p : Position) : ∃ c p',
        (if o = .object then skipName ⟨b ++ (s :: t' ++ (more ++ .char o.closer :: rest)), p⟩
          else .ok ⟨b ++ (s :: t' ++ (more ++ .char o.closer :: rest)), p⟩) = .ok c ∧
        skipFrom .before (o :: enclosing) (measure + k' + k) c =
          skipFrom (.behind true) enclosing measure ⟨rest, p'⟩ := by
      obtain ⟨c, p1, hn, h1⟩ := hskip enclosing b _ p (measure + k') hb (hends rest)
      obtain ⟨p2, h2⟩ := hmore enclosing rest p1 measure
      exact ⟨c, p2, hn, h1.trans h2⟩
    rw [← Nat.add_assoc, ← Nat.add_assoc, List.append_assoc, List.append_assoc]
    cases first with
    | true =>
      obtain ⟨p1, h1⟩ := Cursor.skipSpace_cons hg hst (t' ++ (more ++ .char o.closer :: rest)) p
      obtain ⟨c, p2, hn, h2⟩ := hpass [] blank_nil p1
      refine ⟨p2, ?_⟩
      rw [List.cons_append, skipFrom, h1]
      simp only [Cursor.next?, List.head?_cons, hc, if_false, Bool.not_true, Bool.false_eq_true]
      exact (congrArg (· >>= _) hn).trans h2
    | false =>
      obtain ⟨b, b', hb, hb', rfl⟩ := hg
      obtain ⟨p1, h1⟩ := Cursor.skipSpace_cons (s := .char ',') hb rfl
        (b' ++ (s :: t' ++ (more ++ .char o.closer :: rest))) p
      obtain ⟨c, p2, hn, h2⟩ := hpass b' hb' (p1.after (.char ','))
      refine ⟨p2, ?_⟩
      have hcomma : Symbol.char ',' ≠ .char o.closer := by cases o <;> decide
      rw [List.append_assoc, List.cons_append, skipFrom, h1]
      simp only [Cursor.next?, List.head?_cons, hcomma, if_false, Bool.not_false, if_true]
      exact (congrArg (· >>= _) hn).trans h2

/-! ## Values -/

theorem Passes.item (h : Passes v) : Open.list.Passes v := by
  obtain ⟨k, hk, h⟩ := h
  refine ⟨k, hk, fun enclosing b rest p measure hb hr => ?_⟩
  obtain ⟨p', he⟩ := h (.list :: enclosing) b rest p measure hb hr
  exact ⟨_, p', rfl, he⟩

theorem Passes.member {name : List Symbol} (hn : QuotedText name) (h : Passes v)
    (ht : MemberText (fun name t => QuotedText name ∧ t = name) (name, v) t) :
    Open.object.Passes t := by
  obtain ⟨_, b1, b2, ⟨-, rfl⟩, hb1, hb2, rfl⟩ := ht
  obtain ⟨k, hk, h⟩ := h
  refine ⟨k, ?_, fun enclosing b rest p measure hb hr => ?_⟩
  · simp only [List.length_append, List.length_cons]
    omega
  obtain ⟨body, hq, rfl⟩ := hn
  obtain ⟨p1, h1⟩ := Cursor.skipSpace_cons (s := .char '"') hb rfl
    (body ++ .char '"' :: (b1 ++ .char ':' :: (b2 ++ (v ++ rest)))) p
  obtain ⟨p2, h2⟩ := skips_skipString ⟨body, hq, rfl⟩ (p1.after (.char '"'))
    (b1 ++ .char ':' :: (b2 ++ (v ++ rest)))
  obtain ⟨p3, h3⟩ := skips_readColon hb1 (b2 ++ (v ++ rest)) p2
  obtain ⟨p4, h4⟩ := h (.object :: enclosing) b2 rest p3 measure hb2 hr
  refine ⟨_, p4, ?_, h4⟩
  have hl : b ++ (.char '"' :: (body ++ [.char '"']) ++ (b1 ++ .char ':' :: (b2 ++ v)) ++ rest) =
      b ++ .char '"' :: (body ++ .char '"' :: (b1 ++ .char ':' :: (b2 ++ (v ++ rest)))) := by simp
  have hl' : body ++ [.char '"'] ++ (b1 ++ .char ':' :: (b2 ++ (v ++ rest))) =
      body ++ .char '"' :: (b1 ++ .char ':' :: (b2 ++ (v ++ rest))) := by simp
  rw [hl'] at h2
  rw [if_pos rfl, hl, skipName, h1]
  simp only [Cursor.next?, List.head?_cons, Cursor.drop, h2, bind, Except.bind, h3]

theorem passes_list {items : List (List Symbol)} (h : ListText (· = ·) items t)
    (hi : ∀ i ∈ items, Begins i ∧ Passes i) : Passes t := by
  obtain ⟨inner, hp, rfl⟩ := h
  obtain ⟨k, hk, h⟩ := skipFrom_parts (o := .list) hp fun i hmem t ht => by
    subst ht
    exact ⟨(hi i hmem).1, (hi i hmem).2.item⟩
  refine ⟨k + 1, ?_, fun enclosing b rest p measure hb hr => ?_⟩
  · simp only [if_true, List.length_cons, List.length_append] at hk ⊢
    omega
  obtain ⟨p1, h1⟩ := Cursor.skipSpace_cons (s := .char '[') hb rfl (inner ++ .char ']' :: rest) p
  obtain ⟨p2, h2⟩ := h enclosing rest (p1.after (.char '[')) measure
  refine ⟨p2, ?_⟩
  have hl : b ++ (.char '[' :: (inner ++ [.char ']']) ++ rest) =
      b ++ .char '[' :: (inner ++ .char ']' :: rest) := by simp
  rw [hl, ← Nat.add_assoc, skipFrom, h1]
  exact h2

theorem passes_object {members : List (List Symbol × List Symbol)}
    (h : ObjectText (fun name t => QuotedText name ∧ t = name) members t)
    (hm : ∀ m ∈ members, Passes m.2) : Passes t := by
  obtain ⟨inner, hp, rfl⟩ := h
  obtain ⟨k, hk, h⟩ := skipFrom_parts (o := .object) hp fun m hmem t ht => by
    obtain ⟨name, b, b', hn, hb, hb', rfl⟩ := ht
    refine ⟨?_, (hm m hmem).member hn.1 ⟨name, b, b', hn, hb, hb', rfl⟩⟩
    obtain ⟨⟨body, -, hbody⟩, rfl⟩ := hn
    rw [hbody]
    exact ⟨_, _, rfl, rfl, by decide⟩
  refine ⟨k + 1, ?_, fun enclosing b rest p measure hb hr => ?_⟩
  · simp only [if_true, List.length_cons, List.length_append] at hk ⊢
    omega
  obtain ⟨p1, h1⟩ := Cursor.skipSpace_cons (s := .char '\x7b') hb rfl
    (inner ++ .char '\x7d' :: rest) p
  obtain ⟨p2, h2⟩ := h enclosing rest (p1.after (.char '\x7b')) measure
  refine ⟨p2, ?_⟩
  have hl : b ++ (.char '\x7b' :: (inner ++ [.char '\x7d']) ++ rest) =
      b ++ .char '\x7b' :: (inner ++ .char '\x7d' :: rest) := by simp
  rw [hl, ← Nat.add_assoc, skipFrom, h1]
  exact h2

theorem passes_number {cs : List Char} (h : NumberText cs) : Passes (symbols cs) := by
  obtain ⟨sign, whole, fraction, exponent, hs, hw, hf, he, rfl⟩ := h
  obtain rfl | rfl := hs
  · obtain ⟨c, ds, rfl⟩ := List.exists_cons_of_ne_nil hw.1.1
    have hd : Text.isDigit c = true := hw.1.2 c List.mem_cons_self
    have hne (d : Char) (hd' : Text.isDigit d = false) : c ≠ d := by
      rintro rfl
      cases hd.symm.trans hd'
    refine passes_of_skipScalar (isSpace_of_isDigit hd) (hne _ (by decide)) (hne _ (by decide))
      fun rest p hr => ?_
    obtain ⟨n, hn⟩ := reads_readNumeral false false hw hf he hr p
    rw [skipScalar, if_neg (hne _ (by decide)), if_neg (hne _ (by decide)),
      if_neg (hne _ (by decide)), if_neg (hne _ (by decide)), if_pos hd]
    exact hn.skips
  · refine passes_of_skipScalar rfl (by decide) (by decide) fun rest p hr => ?_
    obtain ⟨n, hn⟩ := reads_readNumeral false true hw hf he hr (p.after (.char '-'))
    exact hn.skips

/-- Every text of a value is passed over. -/
theorem ValueText.passes (h : ValueText v) : Passes v := by
  induction h with
  | null => exact passes_of_skipScalar rfl (by decide) (by decide) fun rest p _ => ⟨_, rfl⟩
  | true => exact passes_of_skipScalar rfl (by decide) (by decide) fun rest p _ => ⟨_, rfl⟩
  | false => exact passes_of_skipScalar rfl (by decide) (by decide) fun rest p _ => ⟨_, rfl⟩
  | number h => exact passes_number h
  | string h =>
    obtain ⟨body, hb, rfl⟩ := h
    exact passes_of_skipScalar rfl (by decide) (by decide) fun rest p _ =>
      skips_skipString ⟨body, hb, rfl⟩ _ rest
  | @list items t h hi ih =>
    exact passes_list h fun i hmem => ⟨(hi i hmem).begins, ih i hmem⟩
  | @object members t h hm ih => exact passes_object h ih

/-- A text of a value is passed over as a whole. -/
theorem skips_skipValue (h : ValueText v) (hb : Blank b) (hr : Ends rest) (p : Position) :
    Skips (skipValue ⟨b ++ (v ++ rest), p⟩) rest := by
  obtain ⟨k, hk, hp⟩ := h.passes
  have hl : ∃ measure, 2 * (b ++ (v ++ rest)).length + 2 = measure + 1 + k := by
    refine ⟨2 * (b ++ (v ++ rest)).length + 1 - k, ?_⟩
    simp only [List.length_append]
    omega
  obtain ⟨measure, hl⟩ := hl
  obtain ⟨p', he⟩ := hp [] b rest p (measure + 1) hb hr
  refine ⟨p', ?_⟩
  rw [skipValue, hl, he]
  rfl

end PromptGateway.Json
