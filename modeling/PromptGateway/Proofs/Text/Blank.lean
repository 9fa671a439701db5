import Mathlib.Data.List.DropRight
import PromptGateway.Text.Blank

/-! # Trimming

Trimming is idempotent, and what is left of a text is empty exactly when the text is blank.
-/

namespace PromptGateway.Text

theorem trimEnd_eq_rdropWhile (cs : List Char) : trimEnd cs = cs.rdropWhile isBlank := rfl

theorem trimStart_eq_self {cs : List Char} (h : ∀ hl : 0 < cs.length, ¬ isBlank cs[0]) :
    trimStart cs = cs :=
  List.dropWhile_eq_self_iff.mpr h

theorem trimStart_head_not_blank (cs : List Char) (hl : 0 < (trimStart cs).length) :
    ¬ isBlank (trimStart cs)[0] :=
  List.dropWhile_eq_self_iff.mp (List.dropWhile_idempotent isBlank cs) hl

@[simp] theorem trimChars_trimChars (cs : List Char) : trimChars (trimChars cs) = trimChars cs := by
  have hp : trimChars cs <+: trimStart cs := List.rdropWhile_prefix isBlank (trimStart cs)
  have hs : trimStart (trimChars cs) = trimChars cs := by
    apply trimStart_eq_self
    intro hl
    rw [hp.getElem hl]
    exact trimStart_head_not_blank cs (hl.trans_le hp.length_le)
  calc trimChars (trimChars cs) = trimEnd (trimStart (trimChars cs)) := rfl
    _ = trimEnd (trimEnd (trimStart cs)) := by rw [hs]; rfl
    _ = trimChars cs := List.rdropWhile_idempotent isBlank (trimStart cs)

theorem trimChars_eq_nil_iff {cs : List Char} : trimChars cs = [] ↔ cs.all isBlank := by
  rw [trimChars, trimEnd_eq_rdropWhile, List.rdropWhile_eq_nil_iff, List.all_eq_true]
  constructor
  · intro h c hc
    rw [← List.takeWhile_append_dropWhile (p := isBlank) (l := cs), List.mem_append] at hc
    rcases hc with hc | hc
    · exact List.mem_takeWhile_imp hc
    · exact h c hc
  · exact fun h c hc => h c ((List.dropWhile_sublist isBlank).subset hc)

@[simp] theorem trim_trim (s : String) : trim (trim s) = trim s := by
  simp [trim]

theorem trim_eq_empty_iff {s : String} : trim s = "" ↔ allBlank s = true := by
  rw [trim, allBlank, ← trimChars_eq_nil_iff, String.ofList_eq_empty_iff]

@[simp] theorem allBlank_trim (s : String) : allBlank (trim s) = allBlank s := by
  rw [Bool.eq_iff_iff, ← trim_eq_empty_iff, ← trim_eq_empty_iff, trim_trim]

/-- A text without blanks stays as it is. -/
theorem trimChars_eq_self {cs : List Char} (h : ∀ c ∈ cs, isBlank c = false) :
    trimChars cs = cs := by
  have hs : trimStart cs = cs := by
    apply trimStart_eq_self
    intro hl
    simp [h _ (List.getElem_mem hl)]
  have he : trimEnd cs = cs := by
    rw [trimEnd_eq_rdropWhile, List.rdropWhile_eq_self_iff]
    intro hl
    simp [h _ (List.getLast_mem hl)]
  rw [trimChars, hs, he]

theorem trim_eq_self_iff {s : String} : trim s = s ↔ trimChars s.toList = s.toList := by
  rw [trim, ← String.toList_inj, String.toList_ofList]

theorem trim_eq_self {s : String} (h : ∀ c ∈ s.toList, isBlank c = false) : trim s = s := by
  rw [trim, trimChars_eq_self h, String.ofList_toList]

/-- A text without blanks at its ends has none there either behind characters that are no blanks. -/
theorem trimChars_append {front cs : List Char} (hf : ∀ c ∈ front, isBlank c = false)
    (hc : trimChars cs = cs) : trimChars (front ++ cs) = front ++ cs := by
  cases front with
  | nil => exact hc
  | cons c front =>
    have hs : trimStart (c :: front ++ cs) = c :: front ++ cs := by
      apply trimStart_eq_self
      simpa using hf c (List.mem_cons_self ..)
    have he : trimEnd cs = cs := by
      rw [← hc]
      exact List.rdropWhile_idempotent isBlank (trimStart cs)
    have hl : trimEnd (c :: front ++ cs) = c :: front ++ cs := by
      rw [trimEnd_eq_rdropWhile, List.rdropWhile_eq_self_iff]
      intro hn
      by_cases hcs : cs = []
      · subst hcs
        simpa using hf _ (List.getLast_mem (l := c :: front) (by simp))
      · rw [List.getLast_append_of_ne_nil _ hcs]
        exact List.rdropWhile_eq_self_iff.mp he hcs
    rw [trimChars, hs, hl]

/-- Blanks at both ends of a text do not count. -/
theorem trim_append {before after : String} (hb : allBlank before = true)
    (ha : allBlank after = true) (s : String) : trim (before ++ s ++ after) = trim s := by
  rw [allBlank, List.all_eq_true] at hb ha
  have hs : trimStart (before.toList ++ s.toList ++ after.toList) =
      trimStart (s.toList ++ after.toList) := by
    rw [trimStart, List.append_assoc, List.dropWhile_append_of_pos hb]
    rfl
  have he (cs : List Char) : trimEnd (cs ++ after.toList) = trimEnd cs := by
    rw [trimEnd, List.reverse_append,
      List.dropWhile_append_of_pos fun c hc => ha c (List.mem_reverse.mp hc)]
    rfl
  have hd : trimEnd (trimStart (s.toList ++ after.toList)) = trimEnd (trimStart s.toList) := by
    rw [trimStart, List.dropWhile_append]
    split
    · rename_i hn
      rw [List.isEmpty_iff] at hn
      rw [trimStart, hn, List.dropWhile_eq_nil_iff.mpr ha]
    · exact he _
  rw [trim, trim, trimChars, trimChars, String.toList_append, String.toList_append, hs, hd]

end PromptGateway.Text
