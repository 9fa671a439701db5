import Mathlib.Algebra.Group.Nat.Defs
import Mathlib.Data.Nat.Basic
import PromptGateway.Text.Ascii

/-! # Decimal digits

The digits that a number is written with: they are digits, they stand for the number, and the first
one is a zero only if the number is. No other digits without a zero in front stand for the number.
-/

namespace PromptGateway.Text

theorem isDigit_eq (c : Char) : isDigit c = c.isDigit := by
  simp only [isDigit, Char.isDigit, Char.le_def, UInt32.le_iff_toNat_le, ge_iff_le]

theorem isDigit_of_mem_toDigits {n : Nat} {c : Char} (hc : c ∈ Nat.toDigits 10 n) :
    isDigit c = true :=
  (isDigit_eq c).trans (Nat.isDigit_of_mem_toDigits (by decide) (by decide) hc)

theorem eq_zero_of_head?_toDigits {n : Nat} (h : (Nat.toDigits 10 n).head? = some '0') : n = 0 := by
  induction n using Nat.base_induction 10 (by decide) with
  | single m hm =>
    rw [Nat.toDigits_of_lt_base hm] at h
    simpa using h
  | digit m k hk hm ih =>
    obtain ⟨c, cs, he⟩ := List.exists_cons_of_ne_nil (Nat.toDigits_ne_nil (n := m) (b := 10))
    rw [← Nat.toDigits_append_toDigits (by decide) hm hk, he] at h
    exact absurd (ih (he ▸ h)) (Nat.ne_of_gt hm)

theorem eq_zero_of_digitValue {c : Char} (hc : isDigit c = true) (h : digitValue c = 0) :
    c = '0' := by
  simp only [isDigit, Char.le_def, UInt32.le_iff_toNat_le, Bool.and_eq_true,
    decide_eq_true_eq] at hc
  have hn : c.toNat = '0'.toNat := Nat.le_antisymm (Nat.le_of_sub_eq_zero h) hc.1
  exact Char.toNat_inj.mp hn

/-- No digit follows a zero in front. -/
theorem tail_toDigits {n : Nat} {c : Char} {cs : List Char} (he : Nat.toDigits 10 n = c :: cs)
    (h : digitValue c = 0) : cs = [] := by
  have hc : isDigit c = true := isDigit_of_mem_toDigits (n := n) (he ▸ List.mem_cons_self)
  obtain rfl := eq_zero_of_digitValue hc h
  obtain rfl : n = 0 := eq_zero_of_head?_toDigits (he ▸ rfl)
  rw [Nat.toDigits_zero] at he
  exact (List.cons.inj he).2.symm

theorem le_ofDigitChars (cs : List Char) (n : Nat) : n ≤ Nat.ofDigitChars 10 cs n := by
  rw [Nat.ofDigitChars_eq_ofDigitChars_zero]
  have h : 1 * n ≤ 10 ^ cs.length * n := Nat.mul_le_mul_right n (Nat.one_le_pow _ _ (by decide))
  omega

theorem bounds_of_isDigit {c : Char} (hc : isDigit c = true) : 48 ≤ c.toNat ∧ c.toNat ≤ 57 := by
  simp only [isDigit, Char.le_def, UInt32.le_iff_toNat_le, Bool.and_eq_true,
    decide_eq_true_eq] at hc
  exact hc

theorem digitValue_lt {c : Char} (hc : isDigit c = true) : digitValue c < 10 := by
  have hb := bounds_of_isDigit hc
  rw [digitValue]
  omega

theorem toDigits_digitValue {c : Char} (hc : isDigit c = true) :
    Nat.toDigits 10 (digitValue c) = [c] := by
  have hd : ∀ d < 10, Nat.toDigits 10 d = [Char.ofNat (d + 48)] := by decide
  rw [hd _ (digitValue_lt hc), digitValue, Nat.sub_add_cancel (bounds_of_isDigit hc).1,
    Char.ofNat_toNat]

/-- Digits behind those of a positive number. -/
theorem toDigits_ofDigitChars {cs : List Char} (hcs : ∀ c ∈ cs, isDigit c = true) {n : Nat}
    (hn : 0 < n) : Nat.toDigits 10 (Nat.ofDigitChars 10 cs n) = Nat.toDigits 10 n ++ cs := by
  induction cs generalizing n with
  | nil => simp
  | cons c cs ih =>
    obtain ⟨hc, hcs⟩ := List.forall_mem_cons.mp hcs
    rw [Nat.ofDigitChars_cons]
    change Nat.toDigits 10 (Nat.ofDigitChars 10 cs (10 * n + digitValue c)) = _
    rw [ih hcs (by omega), ← Nat.toDigits_append_toDigits (by decide) hn (digitValue_lt hc),
      toDigits_digitValue hc, List.append_assoc]
    rfl

/-- Digits without a needless zero in front are those that their number is written with. -/
theorem eq_toDigits {cs : List Char} (hn : cs ≠ []) (hcs : ∀ c ∈ cs, isDigit c = true)
    (h0 : cs.head? = some '0' → cs = ['0']) : Nat.toDigits 10 (Nat.ofDigitChars 10 cs 0) = cs := by
  cases cs with
  | nil => exact absurd rfl hn
  | cons c cs =>
    obtain ⟨hc, hcs⟩ := List.forall_mem_cons.mp hcs
    by_cases hz : c = '0'
    · subst hz
      rw [h0 rfl]
      rfl
    · have hp : 0 < digitValue c :=
        Nat.pos_of_ne_zero fun h => hz (eq_zero_of_digitValue hc h)
      rw [Nat.ofDigitChars_cons]
      change Nat.toDigits 10 (Nat.ofDigitChars 10 cs (0 + digitValue c)) = _
      rw [Nat.zero_add, toDigits_ofDigitChars hcs hp, toDigits_digitValue hc]
      rfl

end PromptGateway.Text
