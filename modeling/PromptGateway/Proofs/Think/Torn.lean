import PromptGateway.Proofs.Think

/-! # Torn marks

When a mark is dropped, what stands on its two sides is joined, and together this can spell a mark
that the text did not hold. The first of its characters then stand directly in front of the mark
that was dropped. Where no mark stands directly behind the beginning of a mark, none is left when
the passes are over, and to strip what is left does not change it.
-/

namespace PromptGateway.Think

open Text

variable {mark u v a b text : List Char}

/-- The beginning of a mark that lacks its end. -/
def Stub (u : List Char) : Prop := u ≠ [] ∧ ∃ mark ∈ marks, u <+: mark ∧ u ≠ mark

/-- A text in which a mark stands directly behind the beginning of a mark. -/
def Torn (text : List Char) : Prop := ∃ u, Stub u ∧ ∃ mark ∈ marks, u ++ mark <:+: text

/-- A text that does not end within a mark. -/
def Whole (text : List Char) : Prop := ∀ u, Stub u → ¬ u <:+ text

instance (text : List Char) : Decidable (Torn text) :=
  decidable_of_iff (∃ whole ∈ marks, ∃ u ∈ whole.inits, (u ≠ [] ∧ u ≠ whole) ∧
    ∃ mark ∈ marks, u ++ mark <:+: text) <| by
    constructor
    · rintro ⟨whole, hw, u, hu, ⟨hne, hn⟩, h⟩
      exact ⟨u, ⟨hne, whole, hw, (List.mem_inits u whole).mp hu, hn⟩, h⟩
    · rintro ⟨u, ⟨hne, whole, hw, hu, hn⟩, h⟩
      exact ⟨whole, hw, u, (List.mem_inits u whole).mpr hu, ⟨hne, hn⟩, h⟩

theorem Stub.of_prefix (h : Stub u) (hv : v <+: u) (hne : v ≠ []) : Stub v := by
  obtain ⟨-, mark, hm, hu, hn⟩ := h
  refine ⟨hne, mark, hm, hv.trans hu, ?_⟩
  rintro rfl
  exact hn (hu.eq_of_length_le hv.length_le)

theorem Torn.mono (h : Torn a) (hab : a <:+: b) : Torn b := by
  obtain ⟨u, hu, mark, hm, hi⟩ := h
  exact ⟨u, hu, mark, hm, hi.trans hab⟩

/-- What stands in front of a mark does not end within another one. -/
theorem whole_of_not_torn (hm : mark ∈ marks) (h : ¬ Torn (a ++ (mark ++ b))) : Whole a := by
  rintro u hu ⟨before, rfl⟩
  exact h ⟨u, hu, mark, hm, before, b, by simp⟩

/-- A mark in two texts after each other is in one of them, unless the first ends within it. -/
theorem Whole.infix_append (ha : Whole a) (hm : mark ∈ marks) (h : mark <:+: a ++ b) :
    mark <:+: a ∨ mark <:+: b := by
  rcases List.infix_append_iff.mp h with h | h | ⟨u, v, rfl, hu, hv⟩
  · exact .inl h
  · exact .inr h
  by_cases hun : u = []
  · subst hun
    exact .inr hv.isInfix
  by_cases hvn : v = []
  · subst hvn
    rw [List.append_nil]
    exact .inl hu.isInfix
  · exact absurd hu (ha u ⟨hun, _, hm, List.prefix_append u v, by simpa using hvn⟩)

theorem Whole.torn_append (ha : Whole a) (h : Torn (a ++ b)) : Torn a ∨ Torn b := by
  obtain ⟨u, hu, mark, hm, h⟩ := h
  rcases List.infix_append_iff.mp h with h | h | ⟨x, y, he, hx, hy⟩
  · exact .inl ⟨u, hu, mark, hm, h⟩
  · exact .inr ⟨u, hu, mark, hm, h⟩
  rcases List.append_eq_append_iff.mp he with ⟨v, rfl, rfl⟩ | ⟨v, rfl, rfl⟩
  · -- the border is behind the stub: what of the mark stands in front of it is a stub or all
    by_cases hv : v = []
    · subst hv
      rw [List.append_nil] at hx
      exact absurd hx (ha u hu)
    by_cases hyn : y = []
    · subst hyn
      exact .inl ⟨u, hu, _, hm, by simpa using hx.isInfix⟩
    · have hs : Stub v := ⟨hv, _, hm, List.prefix_append v y, by simpa using hyn⟩
      exact absurd ((List.suffix_append u v).trans hx) (ha v hs)
  · by_cases hxn : x = []
    · subst hxn
      exact .inr ⟨v, hu, mark, hm, hy.isInfix⟩
    · exact absurd hx (ha x (hu.of_prefix (List.prefix_append x v) hxn))

/-- Blocks are dropped without tearing what is left. -/
theorem Parts.not_torn_kept {p : Parts} (h : ¬ Torn p.text) : ¬ Torn p.kept := by
  obtain ⟨blocks, rest⟩ := p
  induction blocks with
  | nil => exact h
  | cons b blocks ih =>
    rw [text_cons] at h
    rw [kept_cons]
    intro ht
    rcases (whole_of_not_torn opening_mem_marks h).torn_append ht with hb | hb
    · exact h (hb.mono (List.prefix_append _ _).isInfix)
    · refine ih (fun hr => h (hr.mono (List.IsSuffix.isInfix ?_))) hb
      exact ⟨b.kept ++ (opening ++ (b.reasoning ++ closing)), by simp⟩

/-- What passes from the text behind the first mark to the whole text holds of every text. -/
@[elab_as_elim]
theorem mark_induction {motive : List Char → Prop} (hm : mark ∈ marks)
    (unmarked : ∀ text, ¬ mark <:+: text → motive text)
    (marked : ∀ before behind, ¬ mark <:+: before → motive behind →
      motive (before ++ (mark ++ behind))) (text : List Char) : motive text := by
  induction hn : text.length using Nat.strong_induction_on generalizing text with
  | h n ih =>
    subst hn
    cases hc : cut? mark text with
    | none => exact unmarked text (cut?_eq_none_iff.mp hc)
    | some parts =>
      obtain ⟨before, behind⟩ := parts
      obtain ⟨rfl, hb⟩ := eq_of_cut? (ne_nil_of_mem_marks hm) hc
      have hlt : behind.length < (before ++ mark ++ behind).length := by
        have := List.length_pos_of_ne_nil (ne_nil_of_mem_marks hm)
        simp only [List.length_append]
        omega
      rw [List.append_assoc] at ih hlt ⊢
      exact marked before behind hb (ih _ hlt behind rfl)

theorem eraseAll_mark (hm : mark ∈ marks) (ha : ¬ mark <:+: a) (b : List Char) :
    eraseAll mark (a ++ (mark ++ b)) = a ++ eraseAll mark b :=
  eraseAll_of_cut? (ne_nil_of_mem_marks hm) (cut?_mark hm ha b)

theorem infix_behind (a mark b : List Char) : b <:+: a ++ (mark ++ b) :=
  ((List.suffix_append mark b).trans (List.suffix_append a _)).isInfix

/-- A pass that drops one of the marks does not tear another. -/
theorem not_torn_eraseAll (hm : mark ∈ marks) (h : ¬ Torn text) : ¬ Torn (eraseAll mark text) := by
  induction text using mark_induction hm with
  | unmarked text ht => rwa [eraseAll_eq_self ht]
  | marked before behind hb ih =>
    rw [eraseAll_mark hm hb]
    intro ht
    rcases (whole_of_not_torn hm h).torn_append ht with ht | ht
    · exact h (ht.mono (List.prefix_append _ _).isInfix)
    · exact ih (fun hr => h (hr.mono (infix_behind _ _ _))) ht

/-- Such a pass leaves none of the marks that it drops, and spells no other. -/
theorem infix_of_infix_eraseAll {m : List Char} (hm : mark ∈ marks) (h : ¬ Torn text)
    (hm' : m ∈ marks) (hi : m <:+: eraseAll mark text) : m ≠ mark ∧ m <:+: text := by
  induction text using mark_induction hm with
  | unmarked text ht =>
    rw [eraseAll_eq_self ht] at hi
    exact ⟨fun he => ht (he ▸ hi), hi⟩
  | marked before behind hb ih =>
    rw [eraseAll_mark hm hb] at hi
    rcases (whole_of_not_torn hm h).infix_append hm' hi with hi | hi
    · exact ⟨fun he => hb (he ▸ hi), hi.trans (List.prefix_append _ _).isInfix⟩
    · obtain ⟨hne, hi⟩ := ih (fun hr => h (hr.mono (infix_behind _ _ _))) hi
      exact ⟨hne, hi.trans (infix_behind _ _ _)⟩

theorem trimChars_infix (cs : List Char) : trimChars cs <:+: cs :=
  (List.rdropWhile_prefix isBlank (trimStart cs)).isInfix.trans
    (List.dropWhile_suffix isBlank).isInfix

@[simp] theorem trim_strip (s : String) : trim (strip s) = strip s := by
  rw [trim, toList_strip, stripChars, trimChars_trimChars]
  rfl

/--
What is left of a text is trimmed. If no mark in the text is torn, it also holds no mark, and
stripping it again does not change it.
-/
theorem unmarked_strip (s : String) : trim (strip s) = strip s ∧ (¬ Torn s.toList →
    (¬ opening <:+: (strip s).toList ∧ ¬ closing <:+: (strip s).toList) ∧
      strip (strip s) = strip s) := by
  refine ⟨trim_strip s, fun h => ?_⟩
  obtain ⟨p, hp, hs⟩ := Parts.exists_proper s.toList
  have hk : ¬ Torn p.kept := Parts.not_torn_kept (hs ▸ h)
  have ht := not_torn_eraseAll opening_mem_marks hk
  have hi : (strip s).toList <:+: eraseAll closing (eraseAll opening p.kept) := by
    rw [toList_strip, ← hs, hp.stripChars_text]
    exact trimChars_infix _
  have hno : ¬ opening <:+: (strip s).toList := by
    intro hm
    obtain ⟨-, hm⟩ := infix_of_infix_eraseAll closing_mem_marks ht opening_mem_marks (hm.trans hi)
    exact (infix_of_infix_eraseAll opening_mem_marks hk opening_mem_marks hm).1 rfl
  have hnc : ¬ closing <:+: (strip s).toList := by
    intro hm
    exact (infix_of_infix_eraseAll closing_mem_marks ht closing_mem_marks (hm.trans hi)).1 rfl
  refine ⟨⟨hno, hnc⟩, ?_⟩
  rw [strip_of_unmarked hno hnc, trim_strip]

/-- A text with two blocks, a closing that is left over, and stubs that no mark follows. -/
def twoBlocks : String := "<think>a < b</think> 1 <think>c</think></think>< 2"

theorem unmarked_strip_twoBlocks : ¬ Torn twoBlocks.toList ∧ strip twoBlocks = "1 < 2" ∧
    strip (strip twoBlocks) = strip twoBlocks := by
  have ht : ¬ Torn twoBlocks.toList := by decide
  exact ⟨ht, by decide, ((unmarked_strip twoBlocks).2 ht).2⟩

/-- A mark that stands within another one. -/
def tornMark : String := "<th</think>ink>42"

/-- Dropping a mark spells the one around it anew, and this one is left. -/
theorem marked_strip_tornMark : strip tornMark = "<think>42" ∧
    opening <:+: (strip tornMark).toList ∧ strip (strip tornMark) ≠ strip tornMark := by
  decide

end PromptGateway.Think
