import Mathlib.Data.List.Infix
import PromptGateway.Text.Search

/-! # Occurrences of a pattern

A text is cut at the first occurrence of a pattern in it, and erasing drops every occurrence that a
pass from left to right meets. A pattern whose first character it does not hold again never
overlaps itself, so a text has only one first occurrence of it, wherever it is looked for.
-/

namespace PromptGateway.Text

variable {pattern text before rest tail : List Char} {head c : Char}

theorem after?_eq_some_iff : after? pattern text = some rest ↔ text = pattern ++ rest := by
  induction pattern generalizing text with
  | nil => simp [after?]
  | cons p pattern ih =>
    cases text with
    | nil => simp [after?]
    | cons c text =>
      rw [after?, List.cons_append, List.cons.injEq]
      by_cases h : p = c
      · simp [h, ih]
      · simp [h, Ne.symm h]

theorem after?_eq_none_iff : after? pattern text = none ↔ ¬ pattern <+: text := by
  rw [Option.eq_none_iff_forall_ne_some]
  constructor
  · rintro h ⟨rest, rfl⟩
    exact h rest (after?_eq_some_iff.mpr rfl)
  · rintro h rest hr
    exact h ⟨rest, (after?_eq_some_iff.mp hr).symm⟩

theorem cutFrom_eq_map (before text : List Char) : cutFrom pattern before text =
    (cut? pattern text).map fun (kept, rest) => (before.reverse ++ kept, rest) := by
  induction text generalizing before with
  | nil => cases h : after? pattern [] <;> simp [cut?, cutFrom, h]
  | cons c text ih =>
    rw [cut?, cutFrom, cutFrom]
    cases after? pattern (c :: text) with
    | some rest => simp
    | none =>
      dsimp only
      rw [ih, ih [c], Option.map_map]
      congr 1
      funext ⟨kept, rest⟩
      simp

theorem cut?_append_self (pattern rest : List Char) :
    cut? pattern (pattern ++ rest) = some ([], rest) := by
  have ha : after? pattern (pattern ++ rest) = some rest := after?_eq_some_iff.mpr rfl
  cases pattern with
  | nil => cases rest <;> rfl
  | cons head tail =>
    rw [List.cons_append] at ha ⊢
    rw [cut?, cutFrom, ha]
    rfl

theorem cut?_cons (h : ¬ pattern <+: c :: text) :
    cut? pattern (c :: text) = (cut? pattern text).map fun (kept, rest) => (c :: kept, rest) := by
  rw [cut?, cutFrom, after?_eq_none_iff.mpr h]
  exact cutFrom_eq_map [c] text

theorem cut?_eq_none_iff : cut? pattern text = none ↔ ¬ pattern <:+: text := by
  induction text with
  | nil =>
    cases pattern <;> simp [cut?, cutFrom, after?]
  | cons c text ih =>
    rw [List.infix_cons_iff, not_or]
    by_cases h : pattern <+: c :: text
    · obtain ⟨rest, hr⟩ := h
      rw [← hr, cut?_append_self]
      simp
    · rw [cut?_cons h, Option.map_eq_none_iff, ih]
      exact (and_iff_right h).symm

/-- What is found is an occurrence, and there is none before it. -/
theorem eq_of_cut? (hp : pattern ≠ []) (h : cut? pattern text = some (before, rest)) :
    text = before ++ pattern ++ rest ∧ ¬ pattern <:+: before := by
  induction text generalizing before with
  | nil =>
    have hn : cut? pattern [] = none := cut?_eq_none_iff.mpr (by simpa using hp)
    cases hn.symm.trans h
  | cons c text ih =>
    by_cases hc : pattern <+: c :: text
    · obtain ⟨rest', hr⟩ := hc
      rw [← hr, cut?_append_self] at h
      cases h
      exact ⟨hr.symm, by simpa using hp⟩
    · rw [cut?_cons hc, Option.map_eq_some_iff] at h
      obtain ⟨⟨kept, rest'⟩, hk, he⟩ := h
      obtain ⟨rfl, rfl⟩ := Prod.mk.inj he
      obtain ⟨rfl, hn⟩ := ih hk
      refine ⟨rfl, ?_⟩
      rw [List.infix_cons_iff, not_or]
      refine ⟨fun hp' => hc (hp'.trans ⟨pattern ++ rest', ?_⟩), hn⟩
      simp

section Head

variable (h : head ∉ tail)
include h

theorem not_prefix_append (hb : ¬ head :: tail <+: before) (hne : before ≠ []) (rest : List Char) :
    ¬ head :: tail <+: before ++ (head :: tail ++ rest) := by
  intro hp
  rcases List.prefix_or_prefix_of_prefix hp (List.prefix_append before _) with hp' | ⟨u, hu⟩
  · exact hb hp'
  rw [← hu, List.prefix_append_right_inj] at hp
  obtain ⟨b, before, rfl⟩ := List.exists_cons_of_ne_nil hne
  obtain ⟨rfl, ht⟩ := List.cons.inj hu
  -- what is left of the pattern would begin as the pattern itself does
  cases u with
  | nil => exact hb ⟨[], by simp [← ht]⟩
  | cons c u =>
    obtain ⟨rfl, -⟩ := List.cons_prefix_cons.mp hp
    exact h (by simp [← ht])

theorem cut?_append (hb : ¬ head :: tail <:+: before) (rest : List Char) :
    cut? (head :: tail) (before ++ (head :: tail ++ rest)) = some (before, rest) := by
  induction before with
  | nil => exact cut?_append_self _ _
  | cons b before ih =>
    rw [List.infix_cons_iff, not_or] at hb
    have hn := not_prefix_append h hb.1 (List.cons_ne_nil b before) rest
    rw [List.cons_append] at hn ⊢
    rw [cut?_cons hn, ih hb.2]
    rfl

/-- What follows some occurrence is at the end of what follows the first one. -/
theorem suffix_of_cut? {kept : List Char}
    (hc : cut? (head :: tail) (before ++ (head :: tail ++ rest)) = some (kept, text)) :
    rest <:+ text := by
  cases hb : cut? (head :: tail) before with
  | none =>
    rw [cut?_append h (cut?_eq_none_iff.mp hb)] at hc
    cases hc
    exact List.suffix_rfl
  | some parts =>
    obtain ⟨first, between⟩ := parts
    obtain ⟨rfl, hn⟩ := eq_of_cut? (List.cons_ne_nil _ _) hb
    have he : first ++ head :: tail ++ between ++ (head :: tail ++ rest) =
        first ++ (head :: tail ++ (between ++ (head :: tail ++ rest))) := by
      simp
    rw [he, cut?_append h hn] at hc
    cases hc
    exact ⟨between ++ head :: tail, by simp⟩

end Head

/--
What a pass from left to right leaves of a text when it drops each occurrence of a pattern that it
meets and keeps every other character.
-/
inductive Erased (pattern : List Char) : List Char → List Char → Prop
  | nil : Erased pattern [] []
  | drop {text rest : List Char} (h : Erased pattern text rest) :
    Erased pattern (pattern ++ text) rest
  | keep {c : Char} {text rest : List Char} (hc : ¬ pattern <+: c :: text)
    (h : Erased pattern text rest) : Erased pattern (c :: text) (c :: rest)

theorem eraseFrom_append (kept dropped text : List Char) :
    eraseFrom pattern dropped.length kept (dropped ++ text) = eraseFrom pattern 0 kept text := by
  induction dropped with
  | nil => rfl
  | cons c dropped ih => exact ih

theorem eraseFrom_eq_append (skip : Nat) (kept text : List Char) :
    eraseFrom pattern skip kept text = kept.reverse ++ eraseFrom pattern skip [] text := by
  induction text generalizing skip kept with
  | nil => simp [eraseFrom]
  | cons c text ih =>
    cases skip with
    | succ skip => exact ih skip kept
    | zero =>
      rw [eraseFrom, eraseFrom]
      split
      · exact ih _ kept
      · rw [ih 0 (c :: kept), ih 0 [c]]
        simp

theorem eraseAll_append_self (hp : pattern ≠ []) (text : List Char) :
    eraseAll pattern (pattern ++ text) = eraseAll pattern text := by
  have ha : after? pattern (pattern ++ text) = some text := after?_eq_some_iff.mpr rfl
  obtain ⟨head, tail, rfl⟩ := List.exists_cons_of_ne_nil hp
  rw [List.cons_append] at ha ⊢
  rw [eraseAll, eraseFrom, ha]
  exact eraseFrom_append [] tail text

theorem eraseAll_cons (h : ¬ pattern <+: c :: text) :
    eraseAll pattern (c :: text) = c :: eraseAll pattern text := by
  rw [eraseAll, eraseFrom, after?_eq_none_iff.mpr h]
  exact eraseFrom_eq_append 0 [c] text

/-- Erasing is such a pass. -/
theorem erased_eraseAll (hp : pattern ≠ []) (text : List Char) :
    Erased pattern text (eraseAll pattern text) := by
  induction hn : text.length using Nat.strong_induction_on generalizing text with
  | h n ih =>
    subst hn
    by_cases h : pattern <+: text
    · obtain ⟨rest, rfl⟩ := h
      rw [eraseAll_append_self hp]
      refine .drop (ih _ ?_ rest rfl)
      rw [List.length_append]
      exact Nat.lt_add_of_pos_left (List.length_pos_of_ne_nil hp)
    · cases text with
      | nil => exact .nil
      | cons c text =>
        rw [eraseAll_cons h]
        exact .keep h (ih _ (Nat.lt_succ_self _) text rfl)

/-- There is only one way for such a pass to go. -/
theorem erased_iff (hp : pattern ≠ []) :
    Erased pattern text rest ↔ rest = eraseAll pattern text := by
  constructor
  · intro h
    induction h with
    | nil => rfl
    | drop h ih => rw [eraseAll_append_self hp, ih]
    | keep hc h ih => rw [eraseAll_cons hc, ih]
  · rintro rfl
    exact erased_eraseAll hp text

theorem eraseAll_eq_self (h : ¬ pattern <:+: text) : eraseAll pattern text = text := by
  induction text with
  | nil => rfl
  | cons c text ih =>
    rw [List.infix_cons_iff, not_or] at h
    rw [eraseAll_cons h.1, ih h.2]

/-- The part before the first occurrence stays, and the pass goes on behind it. -/
theorem eraseAll_of_cut? (hp : pattern ≠ []) (h : cut? pattern text = some (before, rest)) :
    eraseAll pattern text = before ++ eraseAll pattern rest := by
  induction text generalizing before with
  | nil =>
    rw [cut?_eq_none_iff.mpr (by simpa using hp)] at h
    cases h
  | cons c text ih =>
    by_cases hc : pattern <+: c :: text
    · obtain ⟨rest', hr⟩ := hc
      rw [← hr, cut?_append_self] at h
      cases h
      rw [← hr, eraseAll_append_self hp, List.nil_append]
    · rw [cut?_cons hc, Option.map_eq_some_iff] at h
      obtain ⟨⟨kept, rest'⟩, hk, he⟩ := h
      obtain ⟨rfl, rfl⟩ := Prod.mk.inj he
      rw [eraseAll_cons hc, ih hk, List.cons_append]

end PromptGateway.Text
