import PromptGateway.Proofs.Except
import PromptGateway.Proofs.Json.Grammar

/-! # What scalars are read from

Whatever is read as a blank, a word, a string or a number is a text of it: reading takes such a text
from the front and leaves the rest. The grammar says what these texts are.
-/

namespace PromptGateway.Json

open Utf8 (Symbol)

variable {c c' : Cursor} {s : Symbol} {l rest : List Symbol} {p : Position}

/-! ## Blanks and words -/

namespace Cursor

theorem rest_of_next? (h : c.next? = some s) : c.rest = s :: c.drop.rest := by
  unfold next? at h
  unfold drop
  cases hc : c.rest with
  | nil =>
    rw [hc] at h
    cases h
  | cons t rest =>
    rw [hc] at h
    cases h
    rfl

theorem skipSpaceFrom_spec (p : Position) (l : List Symbol) :
    ∃ b, Blank b ∧ l = b ++ (skipSpaceFrom p l).rest ∧
      ∀ s, (skipSpaceFrom p l).next? = some s → isSpace s = false := by
  induction l generalizing p with
  | nil => exact ⟨[], blank_nil, rfl, nofun⟩
  | cons s l ih =>
    rw [skipSpaceFrom]
    cases hs : isSpace s with
    | true =>
      obtain ⟨b, hb, hl, hn⟩ := ih (p.after s)
      exact ⟨s :: b, List.forall_mem_cons.mpr ⟨hs, hb⟩, congrArg (s :: ·) hl, hn⟩
    | false =>
      refine ⟨[], blank_nil, rfl, fun t ht => ?_⟩
      obtain rfl : s = t := Option.some.inj ht
      exact hs

/-- Blanks are dropped, and what is left begins with none. -/
theorem skipSpace_spec (c : Cursor) :
    ∃ b, Blank b ∧ c.rest = b ++ c.skipSpace.rest ∧
      ∀ s, c.skipSpace.next? = some s → isSpace s = false :=
  skipSpaceFrom_spec c.position c.rest

theorem rest_of_word {cs : List Char} (h : word cs c = .ok c') :
    c.rest = symbols cs ++ c'.rest := by
  induction cs generalizing c with
  | nil =>
    cases h
    rfl
  | cons d cs ih =>
    rw [word] at h
    split at h
    · cases h
    · rename_i s hs
      split at h
      · rename_i hd
        obtain rfl : s = .char d := by simpa using hd
        rw [rest_of_next? hs, ih h]
        rfl
      · cases h

end Cursor

/-! ## Strings -/

/-- A step of reading a string: what it takes, what that spells, and the reading that follows. -/
inductive StringStep (read : List Char) (stray : Option Position) (r : String × Cursor) :
    List Symbol → Prop
  | close {rest : List Symbol} (hs : stray = none) (hr : r.1 = String.ofList read.reverse)
    (hc : r.2.rest = rest) : StringStep read stray r (.char '"' :: rest)
  | spell {t rest : List Symbol} {c : Char} {p : Position}
    (ht : ∀ t' cs, Spells t' cs → Spells (t ++ t') (c :: cs)) (hl : 1 ≤ t.length)
    (h : stringFrom (c :: read) none stray p rest = .ok r) :
    StringStep read stray r (t ++ rest)
  | stray {b : UInt8} {rest : List Symbol} {p q : Position}
    (h : stringFrom read none (some q) p rest = .ok r) :
    StringStep read stray r (.stray b :: rest)

variable {read : List Char} {high : Option Nat} {stray : Option Position} {r : String × Cursor}

/-- Behind the first half of a pair stands the second. -/
theorem exists_of_stringFrom_high {m : Nat} (h : stringFrom read (some m) stray p l = .ok r) :
    ∃ e n rest p', CodeText e n ∧ (0xDC00 ≤ n ∧ n ≤ 0xDFFF) ∧ l = e ++ rest ∧
      stringFrom (Char.ofNat (0x10000 + (m - 0xD800) * 0x400 + (n - 0xDC00)) :: read) none stray p'
        rest = .ok r := by
  unfold stringFrom at h
  split at h
  · cases h
  · rename_i a b c d rest
    split at h
    · cases h
    · rename_i n hn
      dsimp only at h
      split at h
      · exact ⟨_, n, rest, _, ⟨a, b, c, d, hn, rfl⟩, ‹_›, rfl, h⟩
      · cases h
  · split at h
    · cases h
    · cases h
    · cases h
  · cases h

/-- Each step of reading a string closes it, spells a character or meets a stray byte. -/
theorem stringStep_of_stringFrom (h : stringFrom read none stray p l = .ok r) :
    StringStep read stray r l := by
  unfold stringFrom at h
  split at h
  · cases h
  · rename_i a b c d rest
    split at h
    · cases h
    · rename_i n hn
      have he : CodeText [.char '\\', .char 'u', a, b, c, d] n := ⟨a, b, c, d, hn, rfl⟩
      dsimp only at h
      split at h
      · cases h
      · split at h
        · rename_i hm
          obtain ⟨f, m, rest, p', hf, hm', rfl, hr⟩ := exists_of_stringFrom_high h
          refine .spell (t := [.char '\\', .char 'u', a, b, c, d] ++ f) (fun t' cs ht => ?_)
            (by simp) hr
          rw [List.append_assoc]
          exact .pair he hm hf hm' ht
        · exact .spell (t := [.char '\\', .char 'u', a, b, c, d])
            (fun t' cs ht => .code he (by omega) ht) (by simp) h
  · rename_i rest hr
    split at h
    · cases h
    · cases h
    · rename_i s rest _
      simp only [Option.isSome_none, Bool.false_eq_true, if_false] at h
      split at h
      · exact .spell (t := [.char '\\', s]) (fun t' cs ht => .escape ‹_› ht) (by simp) h
      · cases h
  · rename_i s rest _ hb
    simp only [Option.isSome_none, Bool.false_eq_true, if_false] at h
    split at h
    · subst s
      split at h
      · cases h
      · cases h
        exact .close rfl rfl rfl
    · rename_i hq
      split at h
      · cases h
      · rename_i hc
        cases s with
        | char d =>
          refine .spell (t := [.char d]) (fun t' cs ht => ?_) (by simp) h
          exact .plain (by simpa using hq) (by simpa using hb) (by simpa [isControl] using hc) ht
        | stray b =>
          cases stray with
          | none => exact .stray h
          | some q => exact .stray h

/-- What is read as a string spells it, up to its closing quote. -/
theorem spells_of_stringFrom (h : stringFrom read none stray p l = .ok r) :
    stray = none ∧ ∃ t cs, Spells t cs ∧ l = t ++ .char '"' :: r.2.rest ∧
      r.1 = String.ofList (read.reverse ++ cs) := by
  induction hn : l.length using Nat.strongRecOn generalizing l read stray p with
  | ind n ih =>
    subst hn
    cases stringStep_of_stringFrom h with
    | close hs hr hc =>
      refine ⟨hs, [], [], .nil, by rw [hc]; rfl, by simpa using hr⟩
    | @spell t rest c p ht hl hr =>
      obtain ⟨hs, t', cs, hsp, rfl, he⟩ := ih _ (by rw [List.length_append]; omega) hr rfl
      exact ⟨hs, t ++ t', c :: cs, ht t' cs hsp, by simp, by simpa using he⟩
    | @stray b rest p q hr =>
      obtain ⟨hs, -⟩ := ih _ (Nat.lt_succ_self _) hr rfl
      cases hs

/-- What is read as a string behind its opening quote is a text of it. -/
theorem stringText_of_readString {str : String} (h : readString c = .ok (str, c')) :
    ∃ t, StringText str (.char '"' :: t) ∧ c.rest = t ++ c'.rest := by
  obtain ⟨-, t, cs, ht, hl, hr⟩ := spells_of_stringFrom h
  refine ⟨t ++ [.char '"'], ⟨t, ?_, rfl⟩, by simpa using hl⟩
  obtain rfl : str = String.ofList cs := hr
  rwa [String.toList_ofList]

/-- What is passed over as a string may stand between quotes. -/
theorem quotable_of_skipStringFrom (h : skipStringFrom p l = .ok c') :
    ∃ t, Quotable t ∧ l = t ++ .char '"' :: c'.rest := by
  induction hn : l.length using Nat.strongRecOn generalizing l p with
  | ind n ih =>
    subst hn
    unfold skipStringFrom at h
    split at h
    · cases h
    · rename_i a b c d rest
      split at h
      · cases h
      · rename_i n hn
        obtain ⟨t, ht, rfl⟩ := ih rest.length (by simp only [List.length_cons]; omega) h rfl
        exact ⟨[.char '\\', .char 'u', a, b, c, d] ++ t, .code ⟨a, b, c, d, hn, rfl⟩ ht, rfl⟩
    · split at h
      · cases h
      · cases h
      · rename_i s rest _ _
        split at h
        · rename_i c hs
          obtain ⟨t, ht, rfl⟩ := ih rest.length (by simp only [List.length_cons]; omega) h rfl
          exact ⟨.char '\\' :: s :: t, .escape hs ht, rfl⟩
        · cases h
    · rename_i s rest _ hb
      split at h
      · subst s
        cases h
        exact ⟨[], .nil, rfl⟩
      · rename_i hq
        split at h
        · cases h
        · rename_i hc
          obtain ⟨t, ht, rfl⟩ := ih rest.length (Nat.lt_succ_self _) h rfl
          exact ⟨s :: t, .plain hq (by simpa using hb) (by simpa using hc) ht, rfl⟩

/-- What is passed over as a string behind its opening quote is a text between quotes. -/
theorem quotedText_of_skipString (h : skipString c = .ok c') :
    ∃ t, QuotedText (.char '"' :: t) ∧ c.rest = t ++ c'.rest := by
  obtain ⟨t, ht, hl⟩ := quotable_of_skipStringFrom h
  exact ⟨t ++ [.char '"'], ⟨t, ht, rfl⟩, by simpa using hl⟩

/-! ## Numbers -/

theorem digitsFrom_spec (read : List Nat) (p : Position) (l : List Symbol) :
    ∃ cs, (∀ c ∈ cs, Text.isDigit c = true) ∧ l = symbols cs ++ (digitsFrom read p l).2.rest ∧
      (digitsFrom read p l).1 = (cs.map Text.digitValue).reverse ++ read := by
  induction l generalizing read p with
  | nil => exact ⟨[], nofun, rfl, rfl⟩
  | cons s l ih =>
    rw [digitsFrom]
    cases hs : digit? s with
    | none => exact ⟨[], nofun, rfl, rfl⟩
    | some d =>
      cases s with
      | stray b => cases hs
      | char c =>
        simp only [digit?, Option.ite_none_right_eq_some, Option.some.injEq] at hs
        obtain ⟨hc, rfl⟩ := hs
        obtain ⟨cs, hcs, hl, hr⟩ := ih (Text.digitValue c :: read) (p.right 1)
        exact ⟨c :: cs, List.forall_mem_cons.mpr ⟨hc, hcs⟩, congrArg (.char c :: ·) hl,
          by simpa using hr⟩

theorem digits_spec (c : Cursor) :
    ∃ cs, (∀ d ∈ cs, Text.isDigit d = true) ∧ c.rest = symbols cs ++ (digits c).2.rest ∧
      (digits c).1 = cs.map Text.digitValue := by
  obtain ⟨cs, hcs, hl, hr⟩ := digitsFrom_spec [] c.position c.rest
  exact ⟨cs, hcs, hl, by simp [digits, hr]⟩

theorem digitsText_of_digits {ds : List Nat} (h : digits c = (ds, c')) (hd : ds ≠ []) :
    ∃ cs, DigitsText cs ∧ c.rest = symbols cs ++ c'.rest ∧ ds = cs.map Text.digitValue := by
  obtain ⟨cs, hcs, hl, hr⟩ := digits_spec c
  rw [h] at hl hr
  refine ⟨cs, ⟨?_, hcs⟩, hl, hr⟩
  rintro rfl
  exact hd hr

theorem exponent_of_readExponent {wanted : Bool} {e : Exponent}
    (h : readExponent wanted c = .ok (e, c')) :
    ∃ sign ds, (sign = [] ∨ sign = ['+'] ∨ sign = ['-']) ∧ DigitsText ds ∧
      c.rest = symbols (sign ++ ds) ++ c'.rest := by
  unfold readExponent at h
  split at h
  rename_i negative c1 hc
  have hs : ∃ sign, (sign = [] ∨ sign = ['+'] ∨ sign = ['-']) ∧
      c.rest = symbols sign ++ c1.rest := by
    split at hc
    · cases hc
      exact ⟨['+'], .inr (.inl rfl), Cursor.rest_of_next? ‹_›⟩
    · cases hc
      exact ⟨['-'], .inr (.inr rfl), Cursor.rest_of_next? ‹_›⟩
    · cases hc
      exact ⟨[], .inl rfl, rfl⟩
  obtain ⟨sign, hs, hl⟩ := hs
  split at h
  · split at h <;> cases h
  · rename_i ds after hne hds
    cases h
    obtain ⟨cs, hcs, hr, -⟩ := digitsText_of_digits hds hne
    exact ⟨sign, cs, hs, hcs, by rw [hl, hr]; simp⟩

def readEnd (wanted : Bool) (n : Numeral) (c : Cursor) : Except Failure (Numeral × Cursor) :=
  match c.next? with
  | some (.char 'e') | some (.char 'E') => do
    let (e, c) ← readExponent wanted c.drop
    .ok ({ n with exponent := some e }, c)
  | _ => .ok (n, c)

theorem exponent_of_readEnd {wanted : Bool} {m n : Numeral}
    (h : readEnd wanted m c = .ok (n, c')) :
    ∃ exponent, ExponentText exponent ∧ c.rest = symbols exponent ++ c'.rest ∧
      n.negative = m.negative ∧ n.whole = m.whole ∧ n.fraction = m.fraction ∧
      (n.exponent = none → exponent = []) := by
  unfold readEnd at h
  split at h
  · obtain ⟨⟨e, c1⟩, hr, h⟩ := bind_eq_ok_iff.mp h
    cases h
    obtain ⟨sign, ds, hs, hds, hl⟩ := exponent_of_readExponent hr
    exact ⟨'e' :: (sign ++ ds), .inr ⟨'e', sign, ds, .inl rfl, hs, hds, rfl⟩,
      by rw [Cursor.rest_of_next? ‹_›, hl]; rfl, rfl, rfl, rfl, nofun⟩
  · obtain ⟨⟨e, c1⟩, hr, h⟩ := bind_eq_ok_iff.mp h
    cases h
    obtain ⟨sign, ds, hs, hds, hl⟩ := exponent_of_readExponent hr
    exact ⟨'E' :: (sign ++ ds), .inr ⟨'E', sign, ds, .inr rfl, hs, hds, rfl⟩,
      by rw [Cursor.rest_of_next? ‹_›, hl]; rfl, rfl, rfl, rfl, nofun⟩
  · cases h
    exact ⟨[], .inl rfl, rfl, rfl, rfl, rfl, fun _ => rfl⟩

/-- What follows the whole part of a number when it is read. -/
theorem tail_of_readNumeralTail {wanted : Bool} {m n : Numeral}
    (h : readNumeralTail wanted m c = .ok (n, c')) :
    ∃ fraction exponent, FractionText fraction ∧ ExponentText exponent ∧
      c.rest = symbols (fraction ++ exponent) ++ c'.rest ∧
      n.negative = m.negative ∧ n.whole = m.whole ∧ (n.fraction = none → fraction = []) ∧
      (n.exponent = none → exponent = []) := by
  unfold readNumeralTail at h
  dsimp only at h
  split at h
  · split at h
    · split at h <;> cases h
    · rename_i ds after hne hds
      obtain ⟨cs, hcs, hr, -⟩ := digitsText_of_digits hds hne
      obtain ⟨exponent, het, hl, hneg, hw, hf, hn⟩ := exponent_of_readEnd h
      refine ⟨'.' :: cs, exponent, .inr ⟨cs, hcs, rfl⟩, het, ?_, hneg, hw, ?_, hn⟩
      · rw [Cursor.rest_of_next? ‹_›, hr, hl]
        simp
      · intro hf'
        cases hf.symm.trans hf'
  · obtain ⟨exponent, het, hl, hneg, hw, -, hn⟩ := exponent_of_readEnd h
    exact ⟨[], exponent, .inl rfl, het, hl, hneg, hw, fun _ => rfl, hn⟩

/-- That some characters are those of a numeral behind its sign. -/
def Numeral.Written (n : Numeral) (cs : List Char) : Prop :=
  ∃ whole fraction exponent, WholeText whole ∧ FractionText fraction ∧ ExponentText exponent ∧
    cs = whole ++ (fraction ++ exponent) ∧ n.whole = whole.map Text.digitValue ∧
    (n.fraction = none → fraction = []) ∧ (n.exponent = none → exponent = [])

theorem Numeral.Written.numberText {n : Numeral} {cs sign : List Char} (h : n.Written cs)
    (hs : sign = [] ∨ sign = ['-']) : NumberText (sign ++ cs) := by
  obtain ⟨whole, fraction, exponent, hw, hf, he, rfl, -⟩ := h
  exact ⟨sign, whole, fraction, exponent, hs, hw, hf, he, rfl⟩

/-- What is read as a numeral. -/
theorem written_of_readNumeral {wanted negative : Bool} {n : Numeral}
    (h : readNumeral wanted negative c = .ok (n, c')) :
    n.negative = negative ∧ ∃ cs, n.Written cs ∧ c.rest = symbols cs ++ c'.rest := by
  unfold readNumeral at h
  split at h
  · split at h <;> cases h
  · rename_i ds after hne hds
    split at h
    · cases h
    · rename_i hz
      obtain ⟨cs, hcs, hl, rfl⟩ := digitsText_of_digits hds hne
      obtain ⟨fraction, exponent, hf, he, hr, hneg, hw, hfn, hen⟩ :=
        tail_of_readNumeralTail h
      refine ⟨hneg, cs ++ (fraction ++ exponent), ⟨cs, fraction, exponent, ⟨hcs, fun h0 => ?_⟩, hf,
        he, rfl, hw, hfn, hen⟩, by rw [hl, hr]; simp⟩
      cases cs with
      | nil => cases h0
      | cons d cs =>
        obtain rfl : d = '0' := Option.some.inj h0
        cases cs with
        | nil => rfl
        | cons e cs => exact absurd ⟨rfl, by simp⟩ hz

theorem takeWord_eq_nil {cs : List Char} {n m : Nat}
    (h : takeWord n (cs.map Text.digitValue) = (m, [])) : m = Nat.ofDigitChars 10 cs n := by
  induction cs generalizing n with
  | nil =>
    cases h
    rfl
  | cons c cs ih =>
    rw [List.map_cons, takeWord] at h
    split at h
    · rw [Nat.ofDigitChars_cons, Nat.mul_comm]
      exact ih h
    · cases h

/-- A numeral means a whole number only if it has neither a fraction nor an exponent. -/
theorem Numeral.value_eq_integer {n : Numeral} {after : Position} {m : Int}
    (h : n.value after = .ok (.integer m)) :
    n.fraction = none ∧ n.exponent = none ∧ ∃ k, takeWord 0 n.whole = (k, []) ∧
      if n.negative then k ≠ 0 ∧ m = -(k : Int) else m = k := by
  unfold Numeral.value at h
  cases hw : takeWord 0 n.whole with
  | mk k dropped =>
    rw [hw] at h
    dsimp only at h
    split at h
    · split at h
      · split at h <;> cases h
      · generalize (if dropped.isEmpty then takeWord k (n.fraction.getD [])
          else (k, n.fraction.getD [])).1 = significand at h
        split at h <;> cases h
    · split at h
      · split at h <;> cases h
      · rename_i he hn
        simp only [Bool.or_eq_true, Bool.not_eq_true', not_or, Bool.not_eq_true,
          Option.isSome_eq_false_iff, Option.isNone_iff_eq_none, Bool.not_eq_false,
          List.isEmpty_iff] at hn
        obtain ⟨hf, rfl⟩ := hn
        refine ⟨hf, he, k, rfl, ?_⟩
        rw [hf] at h
        cases hneg : n.negative with
        | false =>
          rw [hneg] at h
          cases h
          rfl
        | true =>
          rw [hneg] at h
          change (if k = 0 ∨ 9223372036854775808 < k then .ok (.real _)
            else .ok (.integer (-(k : Int))) : Except Failure Number) = .ok (.integer m) at h
          split at h
          · cases h
          · rename_i hk
            cases h
            exact ⟨fun h0 => hk (.inl h0), rfl⟩

/-- A whole number is read from the digits that it is written with. -/
theorem chars_of_readNumber {negative : Bool} {m : Int}
    (h : readNumber negative c = .ok (.integer m, c')) :
    integerChars m = (if negative then ['-'] else []) ++ Nat.toDigits 10 m.natAbs ∧
      c.rest = symbols (Nat.toDigits 10 m.natAbs) ++ c'.rest := by
  unfold readNumber at h
  obtain ⟨⟨n, c1⟩, hn, h⟩ := bind_eq_ok_iff.mp h
  obtain ⟨x, hx, h⟩ := bind_eq_ok_iff.mp h
  cases h
  obtain ⟨hneg, cs, ⟨whole, fraction, exponent, hw, -, -, rfl, hd, hf, he⟩, hl⟩ :=
    written_of_readNumeral hn
  obtain ⟨hfn, hen, k, hk, hm⟩ := n.value_eq_integer hx
  rw [hd] at hk
  obtain rfl := takeWord_eq_nil hk
  rw [hf hfn, he hen, List.append_nil, List.append_nil] at hl
  have hcs := Text.eq_toDigits hw.1.1 hw.1.2 hw.2
  rw [hneg] at hm
  cases negative with
  | false =>
    obtain rfl : m = (Nat.ofDigitChars 10 whole 0 : Nat) := hm
    rw [Int.natAbs_natCast, hcs]
    refine ⟨?_, hl⟩
    rw [integerChars, if_neg (by omega), Int.toNat_natCast, hcs]
    rfl
  | true =>
    obtain ⟨h0, rfl⟩ : Nat.ofDigitChars 10 whole 0 ≠ 0 ∧
      m = -(Nat.ofDigitChars 10 whole 0 : Nat) := hm
    rw [Int.natAbs_neg, Int.natAbs_natCast, hcs]
    refine ⟨?_, hl⟩
    rw [integerChars, if_pos (by omega), Int.natAbs_neg, Int.natAbs_natCast, hcs]
    rfl

end PromptGateway.Json
