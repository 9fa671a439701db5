import PromptGateway.Answer.Think
import PromptGateway.Proofs.Text.Blank
import PromptGateway.Proofs.Text.Pattern

/-! # Texts without their reasoning

Every text has one way to be taken apart into what is kept and the reasoning between two marks, and
only the kept parts decide what is left of it. Marks are dropped in passes after each other. A pass
joins what stands around a mark, and this can spell a new one, unless no mark in the text stands
directly behind the beginning of another.
-/

namespace PromptGateway.Think

open Text

def marks : List (List Char) := [opening, closing]

theorem opening_mem_marks : opening ∈ marks := List.mem_cons_self

theorem closing_mem_marks : closing ∈ marks := List.mem_cons_of_mem _ List.mem_cons_self

section Mark

variable {mark text before rest kept : List Char}

/-- A mark does not hold its first character again. -/
theorem exists_tail (hm : mark ∈ marks) : ∃ tail, mark = '<' :: tail ∧ '<' ∉ tail := by
  rcases List.mem_pair.mp hm with rfl | rfl
  · exact ⟨"think>".toList, rfl, by decide⟩
  · exact ⟨"/think>".toList, rfl, by decide⟩

theorem ne_nil_of_mem_marks (hm : mark ∈ marks) : mark ≠ [] := by
  obtain ⟨tail, rfl, -⟩ := exists_tail hm
  exact List.cons_ne_nil _ _

theorem cut?_mark (hm : mark ∈ marks) (h : ¬ mark <:+: before) (rest : List Char) :
    cut? mark (before ++ (mark ++ rest)) = some (before, rest) := by
  obtain ⟨tail, rfl, ht⟩ := exists_tail hm
  exact cut?_append ht h rest

theorem suffix_of_cut?_mark (hm : mark ∈ marks)
    (hc : cut? mark (before ++ (mark ++ rest)) = some (kept, text)) : rest <:+ text := by
  obtain ⟨tail, rfl, ht⟩ := exists_tail hm
  exact suffix_of_cut? ht hc

end Mark

/-- A part that is kept, and the reasoning behind it. -/
@[ext]
structure Block where
  kept : List Char
  reasoning : List Char

/-- A text in parts: blocks, and what follows the last of them. -/
structure Parts where
  blocks : List Block
  rest : List Char

namespace Parts

variable {b : Block} {blocks : List Block} {rest : List Char}

/-- The text that is made up of the parts, with the reasoning of each block between two marks. -/
def text (p : Parts) : List Char :=
  p.blocks.foldr (fun b behind => b.kept ++ (opening ++ (b.reasoning ++ (closing ++ behind))))
    p.rest

def kept (p : Parts) : List Char := p.blocks.flatMap Block.kept ++ p.rest

@[simp] theorem text_nil : text ⟨[], rest⟩ = rest := rfl

@[simp] theorem text_cons : text ⟨b :: blocks, rest⟩ =
    b.kept ++ (opening ++ (b.reasoning ++ (closing ++ text ⟨blocks, rest⟩))) := rfl

@[simp] theorem kept_nil : kept ⟨[], rest⟩ = rest := rfl

@[simp] theorem kept_cons : kept ⟨b :: blocks, rest⟩ = b.kept ++ kept ⟨blocks, rest⟩ := by
  simp [kept]

/-- Each part ends at the first mark that can end it, and no block is left at the end. -/
structure Proper (p : Parts) : Prop where
  kept : ∀ b ∈ p.blocks, ¬ opening <:+: b.kept
  reasoning : ∀ b ∈ p.blocks, ¬ closing <:+: b.reasoning
  rest : ∀ before inside behind, p.rest ≠ before ++ opening ++ inside ++ closing ++ behind

theorem Proper.tail (h : Proper ⟨b :: blocks, rest⟩) : Proper ⟨blocks, rest⟩ where
  kept c hc := h.kept c (List.mem_cons_of_mem _ hc)
  reasoning c hc := h.reasoning c (List.mem_cons_of_mem _ hc)
  rest := h.rest

theorem Proper.cut?_text (h : Proper ⟨b :: blocks, rest⟩) :
    cut? opening (text ⟨b :: blocks, rest⟩) =
      some (b.kept, b.reasoning ++ (closing ++ text ⟨blocks, rest⟩)) :=
  cut?_mark opening_mem_marks (h.kept b List.mem_cons_self) _

theorem Proper.cut?_reasoning (h : Proper ⟨b :: blocks, rest⟩) :
    cut? closing (b.reasoning ++ (closing ++ text ⟨blocks, rest⟩)) =
      some (b.reasoning, text ⟨blocks, rest⟩) :=
  cut?_mark closing_mem_marks (h.reasoning b List.mem_cons_self) _

/-- Behind an opening that nothing closes there is no whole block. -/
theorem proper_of_cut? {text : List Char}
    (h : ∀ before inside, cut? opening text = some (before, inside) → cut? closing inside = none) :
    Proper ⟨[], text⟩ where
  kept := nofun
  reasoning := nofun
  rest before inside behind ht := by
    have he : text = before ++ (opening ++ (inside ++ closing ++ behind)) := by simpa using ht
    cases hc : cut? opening text with
    | none => exact cut?_eq_none_iff.mp hc ⟨before, inside ++ closing ++ behind, by simp [he]⟩
    | some parts =>
      obtain ⟨first, inside'⟩ := parts
      refine cut?_eq_none_iff.mp (h first inside' hc) ?_
      have hs := suffix_of_cut?_mark opening_mem_marks (he ▸ hc)
      exact List.IsInfix.trans ⟨inside, behind, rfl⟩ hs.isInfix

/-- Every text can be taken apart. -/
theorem exists_proper (t : List Char) : ∃ p : Parts, p.Proper ∧ p.text = t := by
  induction hn : t.length using Nat.strong_induction_on generalizing t with
  | h n ih =>
    subst hn
    by_cases h : ∀ before inside, cut? opening t = some (before, inside) →
        cut? closing inside = none
    · exact ⟨⟨[], t⟩, proper_of_cut? h, rfl⟩
    · push Not at h
      obtain ⟨before, inside, ho, hc⟩ := h
      obtain ⟨⟨reasoning, behind⟩, hc⟩ := Option.ne_none_iff_exists'.mp hc
      obtain ⟨rfl, hb⟩ := eq_of_cut? (ne_nil_of_mem_marks opening_mem_marks) ho
      obtain ⟨rfl, hr⟩ := eq_of_cut? (ne_nil_of_mem_marks closing_mem_marks) hc
      have hlt : behind.length <
          (before ++ opening ++ (reasoning ++ closing ++ behind)).length := by
        have hp : 0 < opening.length := by decide
        simp only [List.length_append]
        omega
      obtain ⟨⟨blocks, rest⟩, hp, rfl⟩ := ih _ hlt behind rfl
      refine ⟨⟨⟨before, reasoning⟩ :: blocks, rest⟩, ?_, by simp⟩
      exact ⟨List.forall_mem_cons.mpr ⟨hb, hp.kept⟩, List.forall_mem_cons.mpr ⟨hr, hp.reasoning⟩,
        hp.rest⟩

/-- Where the first block begins and ends is told by the text. -/
theorem Proper.eq_of_text_eq {p q : Parts} (hp : p.Proper) (hq : q.Proper)
    (h : p.text = q.text) : p = q := by
  obtain ⟨blocks, rest⟩ := p
  obtain ⟨blocks', rest'⟩ := q
  induction blocks generalizing blocks' with
  | nil =>
    cases blocks' with
    | nil => rw [show rest = rest' from h]
    | cons b blocks' =>
      have hr : rest = text ⟨b :: blocks', rest'⟩ := h
      exact absurd (hr.trans (by simp)) (hp.rest b.kept b.reasoning (text ⟨blocks', rest'⟩))
  | cons b blocks ih =>
    cases blocks' with
    | nil =>
      have hr : rest' = text ⟨b :: blocks, rest⟩ := h.symm
      exact absurd (hr.trans (by simp)) (hq.rest b.kept b.reasoning (text ⟨blocks, rest⟩))
    | cons b' blocks' =>
      have ho := hp.cut?_text
      rw [h, hq.cut?_text] at ho
      obtain ⟨hk, hi⟩ := Prod.mk.inj (Option.some.inj ho)
      have hc := hp.cut?_reasoning
      rw [← hi, hq.cut?_reasoning] at hc
      obtain ⟨hr, ht⟩ := Prod.mk.inj (Option.some.inj hc)
      obtain ⟨rfl, rfl⟩ := Parts.mk.inj (ih hp.tail _ hq.tail ht.symm)
      rw [Block.ext hk hr]

theorem dropBlocks_text {measure : Nat} (h : Proper ⟨blocks, rest⟩)
    (hm : blocks.length ≤ measure) (dropped : List (List Char)) :
    dropBlocks dropped (text ⟨blocks, rest⟩) measure =
      dropped.reverse.flatten ++ kept ⟨blocks, rest⟩ := by
  induction blocks generalizing measure dropped with
  | nil =>
    rw [text_nil, kept_nil]
    cases measure with
    | zero => simp [dropBlocks]
    | succ measure =>
      rw [dropBlocks]
      cases ho : cut? opening rest with
      | none => simp
      | some parts =>
        obtain ⟨before, inside⟩ := parts
        cases hc : cut? closing inside with
        | none => simp [hc]
        | some parts =>
          obtain ⟨reasoning, behind⟩ := parts
          obtain ⟨rfl, -⟩ := eq_of_cut? (ne_nil_of_mem_marks opening_mem_marks) ho
          obtain ⟨rfl, -⟩ := eq_of_cut? (ne_nil_of_mem_marks closing_mem_marks) hc
          exact absurd (by simp) (h.rest before reasoning behind)
  | cons b blocks ih =>
    cases measure with
    | zero => simp at hm
    | succ measure =>
      rw [dropBlocks, h.cut?_text]
      dsimp only
      rw [h.cut?_reasoning]
      dsimp only
      rw [ih h.tail (by simpa using hm), kept_cons]
      simp

theorem length_blocks_le (p : Parts) : p.blocks.length ≤ p.text.length := by
  obtain ⟨blocks, rest⟩ := p
  induction blocks with
  | nil => simp
  | cons b blocks ih =>
    have hp : 0 < opening.length := by decide
    simp only [text_cons, List.length_append, List.length_cons] at ih ⊢
    omega

theorem Proper.stripChars_text {p : Parts} (h : p.Proper) :
    stripChars p.text = trimChars (eraseAll closing (eraseAll opening p.kept)) := by
  rw [stripChars, dropBlocks_text h p.length_blocks_le]
  rfl

end Parts

theorem toList_strip (s : String) : (strip s).toList = stripChars s.toList := by
  rw [strip, String.toList_ofList]

theorem strip_of_unmarked {s : String} (ho : ¬ opening <:+: s.toList)
    (hc : ¬ closing <:+: s.toList) : strip s = trim s := by
  have hp : Parts.Proper ⟨[], s.toList⟩ := by
    refine Parts.proper_of_cut? fun before inside h => ?_
    cases (cut?_eq_none_iff.mpr ho).symm.trans h
  have hs := hp.stripChars_text
  rw [Parts.text_nil, Parts.kept_nil, eraseAll_eq_self ho, eraseAll_eq_self hc]
    at hs
  rw [strip, hs, trim]

/--
A text is taken apart in one way only. What is left of it is what is kept, without the openings that
one pass from left to right meets, then without the closings that another one meets, and trimmed. By
`Text.erased_iff` such a pass can only go one way. So the reasoning does not count, and a text
without marks is only trimmed.
-/
theorem strip_taken_apart (s : String) :
    ∃ p : Parts, (p.Proper ∧ p.text = s.toList) ∧
      (∀ q : Parts, q.Proper → q.text = s.toList → q = p) ∧
      (∃ unopened unmarked, Erased opening p.kept unopened ∧ Erased closing unopened unmarked ∧
        strip s = String.ofList (trimChars unmarked)) ∧
      (∀ q : Parts, q.Proper → q.blocks.map Block.kept = p.blocks.map Block.kept →
        q.rest = p.rest → strip (String.ofList q.text) = strip s) ∧
      (¬ opening <:+: s.toList → ¬ closing <:+: s.toList → strip s = trim s) := by
  obtain ⟨p, hp, hs⟩ := Parts.exists_proper s.toList
  refine ⟨p, ⟨hp, hs⟩, ?_, ?_, ?_, strip_of_unmarked⟩
  · intro q hq ht
    exact hq.eq_of_text_eq hp (ht.trans hs.symm)
  · refine ⟨_, _, erased_eraseAll (ne_nil_of_mem_marks opening_mem_marks) _,
      erased_eraseAll (ne_nil_of_mem_marks closing_mem_marks) _, ?_⟩
    rw [strip, ← hs, hp.stripChars_text]
  · intro q hq hk hr
    have he : q.kept = p.kept := by
      rw [Parts.kept, Parts.kept, List.flatMap_def, hk, hr, ← List.flatMap_def]
    rw [strip, strip, String.toList_ofList, ← hs, hq.stripChars_text, hp.stripChars_text, he]

end PromptGateway.Think
