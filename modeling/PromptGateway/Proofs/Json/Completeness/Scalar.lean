import PromptGateway.Json.Shape
import PromptGateway.Proofs.Json.Grammar

/-! # Scalars are read from all their texts

Blanks are dropped wherever they may stand, and a string is read from whatever spells it, whether
its characters are written as they are or by their numbers. What follows a number must not go on
with it.
-/

namespace PromptGateway.Json

open Utf8 (Symbol)

variable {s : Symbol} {b t rest : List Symbol} {cs : List Char}

/-! ## Blanks and words -/

def EndsBlank (rest : List Symbol) : Prop := ∀ s, rest.head? = some s → Cursor.isSpace s = false

theorem endsBlank_nil : EndsBlank [] := nofun

theorem endsBlank_cons (h : Cursor.isSpace s = false) : EndsBlank (s :: rest) := by
  intro t ht
  obtain rfl : s = t := Option.some.inj ht
  exact h

theorem Cursor.skipSpace_of_endsBlank (h : EndsBlank rest) (p : Position) :
    skipSpace ⟨rest, p⟩ = ⟨rest, p⟩ := by
  cases rest with
  | nil => rfl
  | cons s rest => simp [skipSpace, skipSpaceFrom, h s rfl]

/-- Blanks are dropped up to the first other symbol. -/
theorem Cursor.skipSpace_append (hb : Blank b) (hr : EndsBlank rest) (p : Position) :
    ∃ p', skipSpace ⟨b ++ rest, p⟩ = ⟨rest, p'⟩ := by
  induction b generalizing p with
  | nil =>
    refine ⟨p, ?_⟩
    cases rest with
    | nil => rfl
    | cons s rest => simp [skipSpace, skipSpaceFrom, hr s rfl]
  | cons s b ih =>
    obtain ⟨hs, hb⟩ := List.forall_mem_cons.mp hb
    obtain ⟨p', he⟩ := ih hb (p.after s)
    exact ⟨p', by simpa [skipSpace, skipSpaceFrom, hs] using he⟩

theorem Cursor.skipSpace_cons (hb : Blank b) (hs : isSpace s = false) (rest : List Symbol)
    (p : Position) : ∃ p', skipSpace ⟨b ++ s :: rest, p⟩ = ⟨s :: rest, p'⟩ :=
  skipSpace_append hb (endsBlank_cons hs) p

theorem Cursor.skips_word (cs : List Char) (rest : List Symbol) (p : Position) :
    Skips (word cs ⟨symbols cs ++ rest, p⟩) rest := by
  induction cs generalizing p with
  | nil => exact ⟨p, rfl⟩
  | cons c cs ih =>
    obtain ⟨p', he⟩ := ih (p.after (.char c))
    exact ⟨p', by simpa [word, next?, drop] using he⟩

/-! ## Strings -/

theorem stringFrom_plain (read : List Char) {c : Char} (hq : c ≠ '"') (hb : c ≠ '\\')
    (hc : ¬ c.toNat < 0x20) :
    stringFrom read none none p (.char c :: rest) =
      stringFrom (c :: read) none none (p.after (.char c)) rest := by
  rw [stringFrom]
  · simp [hq, hc, isControl]
  · simp [hb]
  · simp [hb]

theorem stringFrom_escape {c : Char} (h : simpleEscape? s = some c) (read : List Char)
    (p : Position) (rest : List Symbol) :
    ∃ p', stringFrom read none none p (.char '\\' :: s :: rest) =
      stringFrom (c :: read) none none p' rest := by
  unfold simpleEscape? at h
  split at h <;> cases h <;> exact ⟨_, rfl⟩

theorem stringFrom_code {n : Nat} (he : CodeText t n) (hn : n < 0xD800 ∨ 0xDFFF < n)
    (read : List Char) (p : Position) (rest : List Symbol) :
    ∃ p', stringFrom read none none p (t ++ rest) =
      stringFrom (Char.ofNat n :: read) none none p' rest := by
  obtain ⟨a, b, c, d, hx, rfl⟩ := he
  refine ⟨p.right 6, ?_⟩
  simp only [List.cons_append, List.nil_append, stringFrom, hx]
  rw [if_neg (by omega), if_neg (by omega)]

theorem stringFrom_pair {u : List Symbol} {m n : Nat} (he : CodeText t m)
    (hm : 0xD800 ≤ m ∧ m ≤ 0xDBFF) (hf : CodeText u n) (hn : 0xDC00 ≤ n ∧ n ≤ 0xDFFF)
    (read : List Char) (p : Position) (rest : List Symbol) :
    ∃ p', stringFrom read none none p (t ++ (u ++ rest)) =
      stringFrom (Char.ofNat (0x10000 + (m - 0xD800) * 0x400 + (n - 0xDC00)) :: read) none none p'
        rest := by
  obtain ⟨a, b, c, d, hx, rfl⟩ := he
  obtain ⟨a', b', c', d', hx', rfl⟩ := hf
  refine ⟨(p.right 6).right 6, ?_⟩
  simp only [List.cons_append, List.nil_append, stringFrom, hx, hx']
  rw [if_neg (by omega), if_pos hm, if_pos hn]

theorem reads_stringFrom (h : Spells t cs) (read : List Char) (p : Position) (rest : List Symbol) :
    Reads (stringFrom read none none p (t ++ .char '"' :: rest))
      (String.ofList (read.reverse ++ cs)) rest := by
  induction h generalizing read p with
  | nil => exact ⟨p.right 1, by rw [List.append_nil]; rfl⟩
  | @plain c t cs hq hb hc h ih =>
    rw [List.cons_append, stringFrom_plain read hq hb hc]
    simpa using ih (c :: read) (p.after (.char c))
  | @escape s c t cs hs h ih =>
    obtain ⟨p', he⟩ := stringFrom_escape hs read p (t ++ .char '"' :: rest)
    rw [List.cons_append, List.cons_append, he]
    simpa using ih (c :: read) p'
  | @code e t n cs hn hr h ih =>
    obtain ⟨p', he⟩ := stringFrom_code hn hr read p (t ++ .char '"' :: rest)
    rw [List.append_assoc, he]
    simpa using ih (Char.ofNat n :: read) p'
  | pair he hm hf hn h ih =>
    obtain ⟨p', he⟩ := stringFrom_pair he hm hf hn read p (_ ++ .char '"' :: rest)
    rw [List.append_assoc, List.append_assoc, he]
    simpa using ih (_ :: read) p'

/-- A string is read from whatever spells it between quotes. -/
theorem reads_readString {str : String} (h : StringText str (.char '"' :: t)) (p : Position)
    (rest : List Symbol) : Reads (readString ⟨t ++ rest, p⟩) str rest := by
  obtain ⟨body, hb, ht⟩ := h
  obtain rfl := (List.cons.inj ht).2
  simpa [readString] using reads_stringFrom hb [] p rest

theorem skips_skipStringFrom (h : Quotable t) (p : Position) (rest : List Symbol) :
    Skips (skipStringFrom p (t ++ .char '"' :: rest)) rest := by
  induction h generalizing p with
  | nil => exact ⟨_, rfl⟩
  | @plain s t hq hb hc h ih =>
    obtain ⟨p', he⟩ := ih (p.after s)
    refine ⟨p', ?_⟩
    rw [List.cons_append, skipStringFrom]
    · simpa [hq, hc] using he
    · simp [hb]
    · simp [hb]
  | @escape s c t hs h ih =>
    obtain ⟨p', he⟩ := ih (p.right 2)
    refine ⟨p', ?_⟩
    rw [← he]
    unfold simpleEscape? at hs
    split at hs <;> cases hs <;> rfl
  | @code e t n hn h ih =>
    obtain ⟨a, b, c, d, hx, rfl⟩ := hn
    obtain ⟨p', he⟩ := ih (p.right 6)
    exact ⟨p', by simpa only [List.cons_append, List.nil_append, skipStringFrom, hx] using he⟩

theorem skips_skipString (h : QuotedText (.char '"' :: t)) (p : Position) (rest : List Symbol) :
    Skips (skipString ⟨t ++ rest, p⟩) rest := by
  obtain ⟨body, hb, ht⟩ := h
  obtain rfl := (List.cons.inj ht).2
  simpa [skipString] using skips_skipStringFrom hb p rest

/-! ## Numbers -/

theorem digits_digitsText (h : DigitsText cs) (hr : EndsDigits rest) (p : Position) :
    ∃ d ds p', digits ⟨symbols cs ++ rest, p⟩ = (d :: ds, ⟨rest, p'⟩) := by
  obtain ⟨p', he⟩ := digits_chars h.2 hr p
  obtain ⟨c, cs, rfl⟩ := List.exists_cons_of_ne_nil h.1
  exact ⟨_, _, p', he⟩

theorem endsDigits_cons {c : Char} (h : Text.isDigit c = false) : EndsDigits (.char c :: rest) := by
  intro s hs
  obtain rfl : Symbol.char c = s := Option.some.inj hs
  simp [digit?, h]

theorem Ends.exponent (hr : Ends rest) (h : ExponentText cs) :
    EndsDigits (symbols cs ++ rest) := by
  obtain rfl | ⟨letter, sign, ds, rfl | rfl, -, -, rfl⟩ := h
  · exact hr.digits
  · exact endsDigits_cons (by decide)
  · exact endsDigits_cons (by decide)

theorem Ends.tail {fraction exponent : List Char} (hr : Ends rest) (hf : FractionText fraction)
    (he : ExponentText exponent) : EndsDigits (symbols (fraction ++ exponent) ++ rest) := by
  obtain rfl | ⟨ds, -, rfl⟩ := hf
  · exact hr.exponent he
  · exact endsDigits_cons (by decide)

theorem reads_readExponent (wanted : Bool) {sign ds : List Char}
    (hs : sign = [] ∨ sign = ['+'] ∨ sign = ['-']) (hd : DigitsText ds) (hr : Ends rest)
    (p : Position) :
    ∃ e, Reads (readExponent wanted ⟨symbols (sign ++ ds) ++ rest, p⟩) e rest := by
  obtain rfl | rfl | rfl := hs
  · obtain ⟨c, cs, rfl⟩ := List.exists_cons_of_ne_nil hd.1
    have hc : Text.isDigit c = true := hd.2 c List.mem_cons_self
    have hp : c ≠ '+' := by
      rintro rfl
      cases hc
    have hm : c ≠ '-' := by
      rintro rfl
      cases hc
    obtain ⟨d, ds, p', he⟩ := digits_digitsText hd hr.digits p
    rw [symbols_cons, List.cons_append] at he
    exact ⟨⟨false, d :: ds, p⟩, p', by simp [readExponent, Cursor.next?, hp, hm, he]⟩
  · obtain ⟨d, ds, p', he⟩ := digits_digitsText hd hr.digits (p.after (.char '+'))
    exact ⟨⟨false, d :: ds, p.after (.char '+')⟩, p',
      by simp [readExponent, Cursor.next?, Cursor.drop, he]⟩
  · obtain ⟨d, ds, p', he⟩ := digits_digitsText hd hr.digits (p.after (.char '-'))
    exact ⟨⟨true, d :: ds, p.after (.char '-')⟩, p',
      by simp [readExponent, Cursor.next?, Cursor.drop, he]⟩

/-- Behind a fraction there is no other one. -/
theorem readNumeralTail_fraction (wanted : Bool) (n : Numeral) {d : Nat} {ds : List Nat}
    {p p' : Position} (hr : rest.head? ≠ some (.char '.'))
    (hd : digits ⟨t, p.after (.char '.')⟩ = (d :: ds, ⟨rest, p'⟩)) :
    readNumeralTail wanted n ⟨.char '.' :: t, p⟩ =
      readNumeralTail wanted { n with fraction := some (d :: ds) } ⟨rest, p'⟩ := by
  cases rest with
  | nil => simp [readNumeralTail, Cursor.next?, Cursor.drop, hd, bind, Except.bind]
  | cons s rest =>
    have hs : s ≠ .char '.' := by simpa using hr
    simp [readNumeralTail, Cursor.next?, Cursor.drop, hd, bind, Except.bind, hs]

theorem reads_readNumeralTail (wanted : Bool) (n : Numeral) {fraction exponent : List Char}
    (hf : FractionText fraction) (he : ExponentText exponent) (hr : Ends rest) (p : Position) :
    ∃ m, Reads (readNumeralTail wanted n ⟨symbols (fraction ++ exponent) ++ rest, p⟩) m rest := by
  -- behind a fraction or without one
  have hx (n : Numeral) (p : Position) :
      ∃ m, Reads (readNumeralTail wanted n ⟨symbols exponent ++ rest, p⟩) m rest := by
    obtain rfl | ⟨letter, sign, ds, hl, hs, hd, rfl⟩ := he
    · exact ⟨n, p, readNumeralTail_of_ends wanted n hr p⟩
    · obtain ⟨e, p', he⟩ := reads_readExponent wanted hs hd hr (p.after (.char letter))
      refine ⟨{ n with exponent := some e }, p', ?_⟩
      obtain rfl | rfl := hl <;>
      simp [readNumeralTail, Cursor.next?, Cursor.drop, bind, Except.bind] at he ⊢ <;> simp [he]
  obtain rfl | ⟨ds, hd, rfl⟩ := hf
  · exact hx n p
  · obtain ⟨d, ds', p', hds⟩ := digits_digitsText hd (hr.exponent he) (p.after (.char '.'))
    obtain ⟨m, p'', hm⟩ := hx { n with fraction := some (d :: ds') } p'
    refine ⟨m, p'', ?_⟩
    rw [← hm, List.cons_append, symbols_cons, symbols_append, List.cons_append, List.append_assoc]
    refine readNumeralTail_fraction wanted n ?_ hds
    obtain rfl | ⟨letter, sign, ds, rfl | rfl, -, -, rfl⟩ := he
    · exact fun h => (hr _ h).2.1 rfl
    · simp
    · simp

/-- A numeral is read from its text. -/
theorem reads_readNumeral (wanted negative : Bool) {whole fraction exponent : List Char}
    (hw : WholeText whole) (hf : FractionText fraction) (he : ExponentText exponent)
    (hr : Ends rest) (p : Position) :
    ∃ n, Reads (readNumeral wanted negative
      ⟨symbols (whole ++ (fraction ++ exponent)) ++ rest, p⟩) n rest := by
  obtain ⟨p', hd⟩ := digits_chars hw.1.2 (hr.tail hf he) p
  obtain ⟨c, cs, rfl⟩ := List.exists_cons_of_ne_nil hw.1.1
  have hz : ¬ (some (Text.digitValue c) = some 0 ∧
      1 < ((c :: cs).map Text.digitValue).length) := by
    rintro ⟨h0, hl⟩
    obtain rfl := Text.eq_zero_of_digitValue (hw.1.2 c List.mem_cons_self) (Option.some.inj h0)
    rw [hw.2 rfl] at hl
    exact absurd hl (by simp)
  obtain ⟨n, hn⟩ := reads_readNumeralTail wanted
    { negative, whole := (c :: cs).map Text.digitValue } hf he hr p'
  refine ⟨n, ?_⟩
  rw [symbols_append, List.append_assoc, readNumeral, hd]
  refine (congrArg (Reads · n rest) (if_neg hz)).mpr hn

/-! ## Whole numbers -/

theorem isSpace_of_isDigit (h : Text.isDigit c = true) : Cursor.isSpace (.char c) = false := by
  have hn (d : Char) (hd : Text.isDigit d = false) : c ≠ d := by
    rintro rfl
    cases h.symm.trans hd
  simp [Cursor.isSpace, hn ' ' (by decide), hn '\n' (by decide), hn '\t' (by decide),
    hn '\r' (by decide)]

namespace Width

theorem ofInt?_toInt (w : Width) (v : w.Carrier) : w.ofInt? (w.toInt v) = some v := by
  cases w with
  | word32 =>
    have h : (UInt32.toNat v : Int) < 4294967296 := by
      have hv := UInt32.toNat_lt v
      omega
    have hi (n : Int) (h0 : 0 ≤ n) (hn : n < 4294967296) :
        word32.ofInt? n = some (UInt32.ofNat n.toNat) := if_pos ⟨h0, hn⟩
    exact (hi _ (Int.natCast_nonneg _) h).trans (congrArg some UInt32.ofNat_toNat)
  | int32 =>
    exact (if_pos ⟨Int32.le_toInt v, Int32.toInt_lt v⟩).trans (congrArg some (Int32.ofInt_toInt v))
  | int64 =>
    exact (if_pos ⟨Int64.le_toInt v, Int64.toInt_lt v⟩).trans (congrArg some (Int64.ofInt_toInt v))

theorem toInt_bounds (w : Width) (v : w.Carrier) :
    -9223372036854775808 ≤ w.toInt v ∧ w.toInt v < 9223372036854775808 := by
  cases w with
  | word32 =>
    have h := UInt32.toNat_lt v
    simp only [toInt]
    omega
  | int32 =>
    have hl := Int32.le_toInt v
    have hu := Int32.toInt_lt v
    simp only [toInt]
    omega
  | int64 => exact ⟨Int64.le_toInt v, Int64.toInt_lt v⟩

end Width

theorem readNumber_toDigits {n : Nat} (h : n < 18446744073709551616) (hr : Ends rest)
    (p : Position) :
    Reads (readNumber false ⟨symbols (Nat.toDigits 10 n) ++ rest, p⟩) (.integer n) rest := by
  obtain ⟨p', he⟩ := readNumeral_toDigits true false n hr p
  refine ⟨p', ?_⟩
  simp only [readNumber, he, bind, Except.bind, Numeral.value_toDigits h]
  rfl

theorem readNumber_toDigits_neg {n : Nat} (h0 : n ≠ 0) (h : n ≤ 9223372036854775808)
    (hr : Ends rest) (p : Position) :
    Reads (readNumber true ⟨symbols (Nat.toDigits 10 n) ++ rest, p⟩) (.integer (-n)) rest := by
  obtain ⟨p', he⟩ := readNumeral_toDigits true true n hr p
  refine ⟨p', ?_⟩
  simp only [readNumber, he, bind, Except.bind, Numeral.value_toDigits_neg h0 h]
  rfl

/-- An integer is read behind its minus, or from its first digit on. -/
theorem integerChars_cases {n : Int} (hl : -9223372036854775808 ≤ n)
    (hu : n < 18446744073709551616) (hr : Ends rest) :
    (∃ ds, integerChars n = '-' :: ds ∧
      ∀ p, Reads (readNumber true ⟨symbols ds ++ rest, p⟩) (.integer n) rest) ∨
    ∃ c ds, integerChars n = c :: ds ∧ Text.isDigit c = true ∧
      ∀ p, Reads (readNumber false ⟨.char c :: (symbols ds ++ rest), p⟩) (.integer n) rest := by
  unfold integerChars
  split
  · rename_i hn
    refine .inl ⟨_, rfl, fun p => ?_⟩
    have h := readNumber_toDigits_neg (n := n.natAbs) (by omega) (by omega) hr p
    rwa [show -(n.natAbs : Int) = n by omega] at h
  · rename_i hn
    obtain ⟨c, ds, hc⟩ := List.exists_cons_of_ne_nil (Nat.toDigits_ne_nil (n := n.toNat) (b := 10))
    refine .inr ⟨c, ds, hc, ?_, fun p => ?_⟩
    · exact Text.isDigit_of_mem_toDigits (n := n.toNat) (hc ▸ List.mem_cons_self)
    · have h := readNumber_toDigits (n := n.toNat) (by omega) hr p
      rwa [Int.toNat_of_nonneg (by omega), hc] at h

theorem readWhole_integerChars (w : Width) (v : w.Carrier) (hr : Ends rest) (p : Position) :
    Reads (readWhole w ⟨symbols (integerChars (w.toInt v)) ++ rest, p⟩) v rest := by
  obtain ⟨hl, hu⟩ := w.toInt_bounds v
  have hv : w.ofNumber (.integer (w.toInt v)) = .ok v := by
    rw [Width.ofNumber, w.ofInt?_toInt]
  generalize w.toInt v = n at hl hu hv
  rcases integerChars_cases hl (by omega) hr with ⟨ds, hc, hread⟩ | ⟨c, ds, hc, hd, hread⟩
  · obtain ⟨p', he⟩ := hread (p.after (.char '-'))
    refine ⟨p', ?_⟩
    rw [hc, symbols_cons, List.cons_append, readWhole,
      Cursor.skipSpace_of_endsBlank (endsBlank_cons rfl)]
    simp only [Cursor.next?, Cursor.drop, List.head?_cons, if_true, he, bind, Except.bind, hv]
    rfl
  · obtain ⟨p', he⟩ := hread p
    refine ⟨p', ?_⟩
    have hm : c ≠ '-' := by
      rintro rfl
      cases hd
    rw [hc, symbols_cons, List.cons_append, readWhole,
      Cursor.skipSpace_of_endsBlank (endsBlank_cons (isSpace_of_isDigit hd))]
    simp only [Cursor.next?, List.head?_cons, hm, hd, if_true, if_false, he, bind, Except.bind, hv]
    rfl

end PromptGateway.Json
