import PromptGateway.Proofs.Text.Decimal
import PromptGateway.Text.Blank
import PromptGateway.Text.Integer

/-! # Integers and their texts

The texts that are read as an integer within bounds: one or more digits behind at most one sign,
whose value is within the bounds. Zeros in front do not matter.
-/

namespace PromptGateway.Text

/-- One or more digits, and the number that they stand for. -/
structure Digits (cs : List Char) (n : Nat) : Prop where
  ne_nil : cs ≠ []
  digits : ∀ c ∈ cs, isDigit c = true
  value : Nat.ofDigitChars 10 cs 0 = n

/-- The digits that a number is written with stand for it. -/
theorem digits_toString (n : Nat) : Digits (toString (n : Int)).toList n := by
  have hd : (toString (n : Int)).toList = Nat.toDigits 10 n := Nat.toList_repr
  rw [hd]
  exact
    { ne_nil := Nat.toDigits_ne_nil
      digits := fun _ hc => isDigit_of_mem_toDigits hc
      value := Nat.ofDigitChars_toDigits (by decide) (by decide) }

/-- Digits behind at most one sign, and the number that they stand for. -/
inductive Signed : List Char → Int → Prop
  | bare {cs : List Char} {n : Nat} (h : Digits cs n) : Signed cs n
  | plus {cs : List Char} {n : Nat} (h : Digits cs n) : Signed ('+' :: cs) n
  | minus {cs : List Char} {n : Nat} (h : Digits cs n) : Signed ('-' :: cs) (-n)

/-- An integer is written with a minus in front of its digits if it is negative. -/
theorem signed_toString (m : Int) : Signed (toString m).toList m := by
  cases m with
  | ofNat n => exact .bare (digits_toString n)
  | negSucc n =>
    have he : (toString (Int.negSucc n)).toList =
        '-' :: (toString ((n + 1 : Nat) : Int)).toList := by
      change (String.append "-" (Nat.repr (n + 1))).toList = _
      exact String.toList_append
    rw [he]
    exact .minus (digits_toString (n + 1))

variable {lo hi m : Int} {n : Nat} {c : Char} {cs : List Char}

theorem ofDigitChars_cons (c : Char) (cs : List Char) (n : Nat) :
    Nat.ofDigitChars 10 (c :: cs) n = Nat.ofDigitChars 10 cs (n * 10 + digitValue c) := by
  rw [Nat.ofDigitChars_cons, Nat.mul_comm]
  rfl

theorem readUp_eq_ok_iff (hn : n ≤ hi) : readUp hi n cs = .ok m ↔
    (∀ c ∈ cs, isDigit c = true) ∧ m = Nat.ofDigitChars 10 cs n ∧ m ≤ hi := by
  induction cs generalizing n with
  | nil =>
    rw [readUp, Except.ok.injEq]
    constructor
    · rintro rfl
      exact ⟨nofun, rfl, hn⟩
    · rintro ⟨-, rfl, -⟩
      rfl
  | cons c cs ih =>
    rw [readUp, List.forall_mem_cons, ofDigitChars_cons]
    by_cases hc : isDigit c = true
    · simp only [hc, if_true, true_and]
      have he : (n : Int) * 10 + digitValue c = (n * 10 + digitValue c : Nat) := by push_cast; rfl
      rw [he]
      split
      · exact ih ‹_›
      · rename_i hh
        -- A number over the bound only grows with further digits.
        have hle := le_ofDigitChars cs (n * 10 + digitValue c)
        constructor
        · rintro ⟨⟩
        · rintro ⟨-, rfl, hm⟩
          omega
    · simp [hc]

/-- A number that goes down is the opposite of one that goes up. -/
theorem readDown_eq_ok_iff : readDown lo (-n) cs = .ok m ↔ readUp (-lo) n cs = .ok (-m) := by
  induction cs generalizing n with
  | nil =>
    rw [readDown, readUp, Except.ok.injEq, Except.ok.injEq]
    omega
  | cons c cs ih =>
    rw [readDown, readUp]
    by_cases hc : isDigit c = true
    · simp only [hc, if_true]
      have he : (n : Int) * 10 + digitValue c = (n * 10 + digitValue c : Nat) := by push_cast; rfl
      have hd : -(n : Int) * 10 - digitValue c = -(n * 10 + digitValue c : Nat) := by
        push_cast
        omega
      rw [he, hd]
      by_cases hl : lo ≤ -(n * 10 + digitValue c : Nat)
      · rw [if_pos hl, if_pos (by omega)]
        exact ih
      · rw [if_neg hl, if_neg (by omega)]
        exact ⟨nofun, nofun⟩
    · simp [hc]

theorem readUp_zero_eq_ok_iff (hhi : 0 ≤ hi) (hcs : cs ≠ []) :
    readUp hi 0 cs = .ok m ↔ ∃ n : Nat, Digits cs n ∧ m = n ∧ m ≤ hi := by
  refine (readUp_eq_ok_iff (n := 0) hhi).trans ⟨?_, ?_⟩
  · rintro ⟨hd, hm, hle⟩
    exact ⟨_, ⟨hcs, hd, rfl⟩, hm, hle⟩
  · rintro ⟨n, ⟨-, hd, rfl⟩, hm, hle⟩
    exact ⟨hd, hm, hle⟩

theorem Digits.notMem (h : Digits cs n) (hc : isDigit c = false) : c ∉ cs := by
  intro hm
  rw [h.digits c hm] at hc
  cases hc

theorem Signed.notMem (h : Signed cs m) (hc : isDigit c = false) (hp : c ≠ '+') (hm : c ≠ '-') :
    c ∉ cs := by
  cases h with
  | bare h => exact h.notMem hc
  | plus h => exact List.not_mem_cons_of_ne_of_not_mem hp (h.notMem hc)
  | minus h => exact List.not_mem_cons_of_ne_of_not_mem hm (h.notMem hc)

theorem isBlank_of_isDigit (h : isDigit c = true) : isBlank c = false := by
  simp only [isDigit, Bool.and_eq_true, decide_eq_true_eq, Char.le_def, UInt32.le_iff_toNat_le] at h
  have hn : 0x30 ≤ c.toNat ∧ c.toNat ≤ 0x39 := h
  simp only [isBlank, Bool.or_eq_false_iff, Bool.and_eq_false_iff, decide_eq_false_iff_not,
    beq_eq_false_iff_ne]
  omega

theorem Signed.isBlank_eq_false (h : Signed cs m) : ∀ c ∈ cs, isBlank c = false := by
  cases h with
  | bare h => exact fun c hc => isBlank_of_isDigit (h.digits c hc)
  | plus h | minus h =>
    exact List.forall_mem_cons.mpr ⟨rfl, fun c hc => isBlank_of_isDigit (h.digits c hc)⟩

theorem not_digits_nil : ¬ Digits [] n := fun h => h.ne_nil rfl

theorem not_digits_cons (hc : isDigit c = false) : ¬ Digits (c :: cs) n :=
  fun h => h.notMem hc List.mem_cons_self

theorem signed_plus_iff : Signed ('+' :: cs) m ↔ ∃ n : Nat, Digits cs n ∧ m = n := by
  constructor
  · rintro (h | h)
    · exact absurd h (not_digits_cons rfl)
    · exact ⟨_, h, rfl⟩
  · rintro ⟨n, h, rfl⟩
    exact .plus h

theorem signed_minus_iff : Signed ('-' :: cs) m ↔ ∃ n : Nat, Digits cs n ∧ m = -n := by
  constructor
  · intro h
    cases h with
    | bare h => exact absurd h (not_digits_cons rfl)
    | minus h => exact ⟨_, h, rfl⟩
  · rintro ⟨n, h, rfl⟩
    exact .minus h

theorem signed_bare_iff (hp : cs.head? ≠ some '+') (hm : cs.head? ≠ some '-') :
    Signed cs m ↔ ∃ n : Nat, Digits cs n ∧ m = n := by
  constructor
  · intro h
    cases h with
    | bare h => exact ⟨_, h, rfl⟩
    | plus h => exact absurd rfl hp
    | minus h => exact absurd rfl hm
  · rintro ⟨n, h, rfl⟩
    exact .bare h

theorem readInteger_eq_ok_iff (hlo : lo < 0) (hhi : 0 ≤ hi) :
    readInteger lo hi cs = .ok m ↔ Signed cs m ∧ lo ≤ m ∧ m ≤ hi := by
  have hup {ds : List Char} (hne : ds ≠ []) : readUp hi 0 ds = .ok m ↔
      (∃ n : Nat, Digits ds n ∧ m = n) ∧ lo ≤ m ∧ m ≤ hi := by
    rw [readUp_zero_eq_ok_iff hhi hne]
    constructor
    · rintro ⟨n, h, rfl, hle⟩
      exact ⟨⟨n, h, rfl⟩, by omega, hle⟩
    · rintro ⟨⟨n, h, rfl⟩, -, hle⟩
      exact ⟨n, h, rfl, hle⟩
  unfold readInteger
  split
  · rw [signed_bare_iff (by simp) (by simp)]
    refine ⟨nofun, ?_⟩
    rintro ⟨⟨n, h, -⟩, -⟩
    exact absurd h not_digits_nil
  · rw [signed_plus_iff]
    refine ⟨nofun, ?_⟩
    rintro ⟨⟨n, h, -⟩, -⟩
    exact absurd h not_digits_nil
  · rw [signed_minus_iff]
    refine ⟨nofun, ?_⟩
    rintro ⟨⟨n, h, -⟩, -⟩
    exact absurd h not_digits_nil
  · rename_i digits hne
    rw [signed_plus_iff]
    exact hup hne
  · rename_i digits hne
    have hz : readDown lo 0 digits = .ok m ↔ readUp (-lo) 0 digits = .ok (-m) :=
      readDown_eq_ok_iff (n := 0)
    rw [if_pos hlo, signed_minus_iff, hz, readUp_zero_eq_ok_iff (by omega) hne]
    constructor
    · rintro ⟨n, h, hm, hle⟩
      exact ⟨⟨n, h, by omega⟩, by omega, by omega⟩
    · rintro ⟨⟨n, h, hm⟩, hl, -⟩
      exact ⟨n, h, by omega, by omega⟩
  · rename_i hnil _ _ hplus hminus
    rw [signed_bare_iff, hup hnil]
    · intro h
      obtain ⟨ds, rfl⟩ := List.head?_eq_some_iff.mp h
      exact hplus ds rfl
    · intro h
      obtain ⟨ds, rfl⟩ := List.head?_eq_some_iff.mp h
      exact hminus ds rfl

/-- The texts of 32-bit integers. -/
theorem readInt32_eq_ok_iff {id : Int32} : readInt32 cs = .ok id ↔ Signed cs id.toInt := by
  have hl := id.le_toInt
  have hh := id.toInt_lt
  rw [readInt32]
  constructor
  · intro h
    cases hm : readInteger (-2147483648) 2147483647 cs with
    | error e => rw [hm] at h; cases h
    | ok m =>
      rw [hm] at h
      cases h
      obtain ⟨hs, hlo, hhi⟩ := (readInteger_eq_ok_iff (by decide) (by decide)).mp hm
      rwa [Int32.toInt_ofInt_of_le (by omega) (by omega)]
  · intro h
    rw [(readInteger_eq_ok_iff (by decide) (by decide)).mpr ⟨h, by omega, by omega⟩]
    exact congrArg Except.ok (Int32.ofInt_toInt id)

end PromptGateway.Text
