import Mathlib.Data.List.TakeDrop
import Mathlib.Data.List.TakeWhile
import PromptGateway.Text.Search

/-! # Cutting at a separator

A text is cut at the first separator in it, and the pieces of two texts with a separator between
them are those of both.
-/

namespace PromptGateway.Text

variable {separator : Char} {text : List Char}

theorem cutFrom_append (h : separator ∉ text) (before rest : List Char) :
    cutFrom [separator] before (text ++ separator :: rest) =
      some (before.reverse ++ text, rest) := by
  induction text generalizing before with
  | nil => simp [cutFrom, after?]
  | cons c text ih =>
    rw [List.mem_cons, not_or] at h
    rw [List.cons_append, cutFrom, after?, if_neg (by simpa using h.1)]
    simpa using ih h.2 (c :: before)

theorem cutAt?_append (h : separator ∉ text) (rest : List Char) :
    cutAt? separator (text ++ separator :: rest) = some (text, rest) :=
  cutFrom_append h [] rest

theorem cutFrom_eq_none (h : separator ∉ text) (before : List Char) :
    cutFrom [separator] before text = none := by
  induction text generalizing before with
  | nil => rfl
  | cons c text ih =>
    rw [List.mem_cons, not_or] at h
    rw [cutFrom, after?, if_neg (by simpa using h.1)]
    exact ih h.2 (c :: before)

theorem cutAt?_eq_none (h : separator ∉ text) : cutAt? separator text = none :=
  cutFrom_eq_none h []

theorem splitFrom_append (piece text rest : List Char) :
    splitFrom separator piece (text ++ separator :: rest) =
      splitFrom separator piece text ++ splitAt separator rest := by
  induction text generalizing piece with
  | nil => simp [splitFrom, splitAt]
  | cons c text ih =>
    rw [List.cons_append, splitFrom, splitFrom]
    split
    · rw [ih, List.cons_append]
    · rw [ih]

theorem splitAt_append (text rest : List Char) :
    splitAt separator (text ++ separator :: rest) =
      splitAt separator text ++ splitAt separator rest :=
  splitFrom_append [] text rest

theorem splitFrom_eq_singleton (h : separator ∉ text) (piece : List Char) :
    splitFrom separator piece text = [piece.reverse ++ text] := by
  induction text generalizing piece with
  | nil => simp [splitFrom]
  | cons c text ih =>
    rw [List.mem_cons, not_or] at h
    rw [splitFrom, if_neg (by simpa using Ne.symm h.1), ih h.2]
    simp

theorem splitAt_eq_singleton (h : separator ∉ text) : splitAt separator text = [text] :=
  splitFrom_eq_singleton h []

theorem splitFrom_ne_nil (separator : Char) (piece text : List Char) :
    splitFrom separator piece text ≠ [] := by
  induction text generalizing piece with
  | nil => simp [splitFrom]
  | cons c text ih =>
    rw [splitFrom]
    split
    · simp
    · exact ih _

theorem splitAt_ne_nil (separator : Char) (text : List Char) : splitAt separator text ≠ [] :=
  splitFrom_ne_nil separator [] text

theorem spanUntil_eq_self {stop : Char → Bool} (h : ∀ c ∈ text, stop c = false) :
    spanUntil stop text = (text, []) := by
  have hp : ∀ c ∈ text, (!stop c) = true := fun c hc => by simp [h c hc]
  rw [spanUntil, List.span_eq_takeWhile_dropWhile, List.takeWhile_eq_self_iff.mpr hp,
    List.dropWhile_eq_nil_iff.mpr hp]

end PromptGateway.Text
