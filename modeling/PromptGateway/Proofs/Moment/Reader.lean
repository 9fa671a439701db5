import PromptGateway.Moment.Reader
import PromptGateway.Proofs.Moment.Calendar
import PromptGateway.Proofs.Text.Integer

/-! # A moment is read from its text

The text of a moment without a fraction is read as this moment, whatever its year is: the parts of
the text are read one after the other, and they mean the day and the time that were written.
-/

namespace PromptGateway

namespace Text

variable {width n k : Nat}

theorem toList_padded (width n : Nat) : (padded width n).toList =
    List.replicate (width - (Nat.toDigits 10 n).length) '0' ++ Nat.toDigits 10 n := by
  rw [padded, String.toList_ofList]

/-- Zeros in front of the digits of a number do not matter. -/
theorem digits_padded (width n : Nat) : Digits (padded width n).toList n := by
  rw [toList_padded]
  exact
    { ne_nil := List.append_ne_nil_of_right_ne_nil _ Nat.toDigits_ne_nil
      digits := fun c hc => by
        rcases List.mem_append.mp hc with hc | hc
        · obtain rfl := List.eq_of_mem_replicate hc
          rfl
        · exact isDigit_of_mem_toDigits hc
      value := by
        rw [Nat.ofDigitChars_append, Nat.ofDigitChars_replicate_zero, Nat.mul_zero,
          Nat.ofDigitChars_toDigits (by decide) (by decide)] }

theorem length_padded_le (hw : width ≤ k) (hk : 0 < k) (hn : n < 10 ^ k) :
    (padded width n).toList.length ≤ k := by
  have hl : (Nat.toDigits 10 n).length ≤ k := (Nat.length_toDigits_le_iff (by decide) hk).mpr hn
  rw [toList_padded, List.length_append, List.length_replicate]
  omega

theorem trimStart_cons {c : Char} (hc : isBlank c = false) (cs : List Char) :
    trimStart (c :: cs) = c :: cs := by
  rw [trimStart, List.dropWhile_cons_of_neg (by simp [hc])]

theorem Digits.exists_cons {cs : List Char} (h : Digits cs n) :
    ∃ c ds, cs = c :: ds ∧ isDigit c = true := by
  obtain ⟨c, ds, rfl⟩ := List.exists_cons_of_ne_nil h.ne_nil
  exact ⟨c, ds, rfl, h.digits c List.mem_cons_self⟩

theorem Digits.trimStart_append {cs : List Char} (h : Digits cs n) (rest : List Char) :
    trimStart (cs ++ rest) = cs ++ rest := by
  obtain ⟨c, ds, rfl, hc⟩ := h.exists_cons
  exact trimStart_cons (isBlank_of_isDigit hc) _

end Text

namespace Moment

open Text (Digits isDigit isBlank digitValue padded)

variable {cs rest : List Char} {c : Char} {n limit : Nat} {lo hi : Int}

/-! ## Numbers -/

/-- Digits are read up to the first other character. -/
theorem digitsFrom_append (hcs : ∀ c ∈ cs, isDigit c = true) (hl : cs.length ≤ limit)
    (hm : Nat.ofDigitChars 10 cs n ≤ 9223372036854775807) (hc : isDigit c = false)
    (rest : List Char) :
    digitsFrom limit n (cs ++ c :: rest) = .ok (Nat.ofDigitChars 10 cs n, c :: rest) := by
  induction cs generalizing n limit with
  | nil => cases limit <;> simp [digitsFrom, hc]
  | cons d cs ih =>
    obtain ⟨hd, hcs⟩ := List.forall_mem_cons.mp hcs
    obtain ⟨limit, rfl⟩ := Nat.exists_eq_succ_of_ne_zero (Nat.ne_of_gt (Nat.zero_lt_of_lt hl))
    rw [Text.ofDigitChars_cons] at hm ⊢
    have hle := Text.le_ofDigitChars cs (n * 10 + digitValue d)
    have hn : (n : Int) * 10 + digitValue d ≤ 9223372036854775807 := by omega
    rw [List.cons_append, digitsFrom, if_pos hd, if_pos hn, ← ih hcs (Nat.le_of_succ_le_succ hl) hm]
    push_cast
    rfl

theorem number_append (h : Digits cs n) (hl : cs.length ≤ limit) (hn : n ≤ 9223372036854775807)
    (hc : isDigit c = false) (rest : List Char) :
    number limit (cs ++ c :: rest) = .ok (n, c :: rest) := by
  obtain ⟨d, ds, rfl, hd⟩ := h.exists_cons
  rw [List.cons_append, number, if_pos hd, ← List.cons_append]
  have hr := digitsFrom_append (n := 0) h.digits hl (h.value ▸ hn) hc rest
  rw [h.value] at hr
  exact hr

theorem numberWithin_padded (h : n < 100) (hlo : lo ≤ n) (hhi : n ≤ hi) (hc : isDigit c = false) :
    numberWithin 2 lo hi ((padded 2 n).toList ++ c :: rest) = .ok (n, c :: rest) := by
  have hd := Text.digits_padded 2 n
  have hl : (padded 2 n).toList.length ≤ 2 := Text.length_padded_le (by decide) (by decide) h
  rw [numberWithin, hd.trimStart_append, number_append hd hl (by omega) hc]
  exact if_pos ⟨hlo, hhi⟩

theorem separator_cons (hc : isBlank c = false) : separator c (c :: rest) = .ok rest := by
  simp [separator, Text.trimStart_cons hc]

/-! ## Years -/

theorem year_digits (h : Digits cs n) (hl : cs.length ≤ 4) (hn : n ≤ 2147483647)
    (hc : isDigit c = false) : year (cs ++ c :: rest) = .ok (n, c :: rest) := by
  have hr := number_append h hl (by omega) hc rest
  obtain ⟨d, ds, rfl, hd⟩ := h.exists_cons
  have hne (c' : Char) (hc' : isDigit c' = false) : d ≠ c' := by
    rintro rfl
    cases hd.symm.trans hc'
  rw [year, h.trimStart_append, List.cons_append]
  split
  · rename_i he
    exact absurd (List.cons.inj he).1 (hne '-' rfl)
  · rename_i he
    exact absurd (List.cons.inj he).1 (hne '+' rfl)
  · rw [← List.cons_append, hr]
    exact if_pos (by omega)

theorem year_minus (h : Digits cs n) (hn : n ≤ 2147483648) (hc : isDigit c = false) :
    year ('-' :: (cs ++ c :: rest)) = .ok (-n, c :: rest) := by
  have hl : cs.length ≤ (cs ++ c :: rest).length := by simp
  have hr := number_append h hl (by omega) hc rest
  rw [year, Text.trimStart_cons rfl]
  simp only [hr, Except.map, bind, Except.bind]
  exact if_pos (by omega)

theorem year_plus (h : Digits cs n) (hn : n ≤ 2147483647) (hc : isDigit c = false) :
    year ('+' :: (cs ++ c :: rest)) = .ok (n, c :: rest) := by
  have hl : cs.length ≤ (cs ++ c :: rest).length := by simp
  have hr := number_append h hl (by omega) hc rest
  rw [year, Text.trimStart_cons rfl]
  simp only [hr, bind, Except.bind]
  exact if_pos (by omega)

/-- A year is read from its text: four digits, or a sign and as many digits as it takes. -/
theorem year_yearText {y : Int} (hl : -2147483648 ≤ y) (hu : y ≤ 2147483647)
    (hc : isDigit c = false) :
    year ((CivilDate.yearText y).toList ++ c :: rest) = .ok (y, c :: rest) := by
  unfold CivilDate.yearText
  split
  · rename_i hy
    simp only [Bool.and_eq_true, decide_eq_true_eq] at hy
    have hw : (padded 4 y.toNat).toList.length ≤ 4 :=
      Text.length_padded_le (Nat.le_refl 4) (by decide) (by omega)
    rw [year_digits (Text.digits_padded 4 y.toNat) hw (by omega) hc, Int.toNat_of_nonneg hy.1]
  · have hd := Text.digits_padded 4 y.natAbs
    rw [String.toList_append, List.append_assoc]
    split
    · rw [show "-".toList = ['-'] from rfl, List.singleton_append,
        year_minus hd (by omega) hc, show -(y.natAbs : Int) = y by omega]
    · rw [show "+".toList = ['+'] from rfl, List.singleton_append,
        year_plus hd (by omega) hc, show (y.natAbs : Int) = y by omega]

/-! ## Moments -/

def wholeText (d : CivilDate) (hour minute second : Nat) : List Char :=
  d.text.toList ++ 'T' :: ((padded 2 hour).toList ++ ':' :: ((padded 2 minute).toList ++
    ':' :: ((padded 2 second).toList ++ ['Z'])))

theorem toList_text {a : Moment} (ha : a.nanos = 0) : a.text.toList =
    wholeText a.date (a.secondOfDay / 3600) (a.secondOfDay / 60 % 60) (a.secondOfDay % 60) := by
  simp [text, wholeText, ha, fractionText]

theorem toList_text_date (d : CivilDate) : d.text.toList =
    (CivilDate.yearText d.year).toList ++ '-' :: ((padded 2 d.month).toList ++
      '-' :: (padded 2 d.day).toList) := by
  simp [CivilDate.text]

/-- The parts of a text are those that it was written of. -/
theorem written_wholeText {d : CivilDate} (hd : d.Valid) (hl : -262143 ≤ d.year)
    (hu : d.year ≤ 262142) {hour minute second : Nat} (hh : hour ≤ 23) (hm : minute ≤ 59)
    (hs : second ≤ 59) :
    written (wholeText d hour minute second) = .ok ⟨d, hour, minute, second, 0, 0⟩ := by
  obtain ⟨hm1, hm12, hd1, hd31⟩ := hd
  replace hd31 := Nat.le_trans hd31 (CivilDate.daysInMonth_le d.year d.month)
  have hyphen (rest : List Char) : separator '-' ('-' :: rest) = .ok rest := separator_cons rfl
  have colon (rest : List Char) : separator ':' (':' :: rest) = .ok rest := separator_cons rfl
  have year (rest : List Char) : year ((CivilDate.yearText d.year).toList ++ '-' :: rest) =
      .ok (d.year, '-' :: rest) := year_yearText (by omega) (by omega) rfl
  have month (rest : List Char) : numberWithin 2 1 12 ((padded 2 d.month).toList ++ '-' :: rest) =
      .ok (d.month, '-' :: rest) := numberWithin_padded (by omega) (by omega) (by omega) rfl
  have day (rest : List Char) : numberWithin 2 1 31 ((padded 2 d.day).toList ++ 'T' :: rest) =
      .ok (d.day, 'T' :: rest) := numberWithin_padded (by omega) (by omega) (by omega) rfl
  have hour (rest : List Char) : numberWithin 2 0 23 ((padded 2 hour).toList ++ ':' :: rest) =
      .ok (hour, ':' :: rest) := numberWithin_padded (by omega) (by omega) (by omega) rfl
  have minute (rest : List Char) : numberWithin 2 0 59 ((padded 2 minute).toList ++ ':' :: rest) =
      .ok (minute, ':' :: rest) := numberWithin_padded (by omega) (by omega) (by omega) rfl
  have second : numberWithin 2 0 60 ((padded 2 second).toList ++ ['Z']) = .ok (second, ['Z']) :=
    numberWithin_padded (by omega) (by omega) (by omega) rfl
  rw [wholeText, written, toList_text_date]
  simp only [List.append_assoc, List.cons_append, year, hyphen, month, day, hour, colon, minute,
    second, fraction, bind, Except.bind, Int.toNat_natCast]
  rfl

/-- The parts of a date and of a time of day mean the moment that is so many seconds away. -/
theorem moment_mk {a : Moment} (ha : a.nanos = 0) {d : CivilDate} (hd : d.Valid)
    (hl : -262143 ≤ d.year) (hu : d.year ≤ 262142) {hour minute second : Nat} (hs : second ≤ 59)
    (he : d.toDays * 86400 + hour * 3600 + minute * 60 + second = a.seconds) :
    Written.moment ⟨d, hour, minute, second, 0, 0⟩ = .ok a := by
  have hdate : ¬ (d.year < -262143 ∨ 262142 < d.year ∨
      CivilDate.daysInMonth d.year d.month < d.day) := by
    have := hd.day_le
    omega
  have hsecond : (second == 60) = false := beq_eq_false_iff_ne.mpr (by omega)
  obtain ⟨seconds, nanos, hf, hlast⟩ := a
  obtain rfl : nanos = 0 := ha
  simp only at he
  have hof : ofSeconds? seconds 0 = some ⟨seconds, 0, hf, hlast⟩ := dif_pos ⟨hf, hlast⟩
  rw [Written.moment]
  simp only [hdate, hsecond, Bool.false_eq_true, if_false, Int.sub_zero, he, hof]
  rfl

/-- A moment of a whole second is read from its text. -/
theorem read_text {a : Moment} (ha : a.nanos = 0) : read a.text = .ok a := by
  have hf := a.first_le
  have hl := a.le_last
  have hd : a.date.Valid := CivilDate.valid_ofDays (a.seconds / 86400)
  have hy : -262143 ≤ a.date.year ∧ a.date.year ≤ 262142 :=
    CivilDate.year_ofDays (by omega) (by omega)
  have hday : a.date.toDays = a.seconds / 86400 := CivilDate.toDays_ofDays (a.seconds / 86400)
  have hs : (a.secondOfDay : Int) = a.seconds % 86400 := by
    rw [secondOfDay]
    omega
  rw [read, toList_text ha, written_wholeText hd hy.1 hy.2 (by omega) (by omega) (by omega)]
  refine moment_mk ha hd hy.1 hy.2 (by omega) ?_
  rw [hday]
  omega

end Moment

end PromptGateway
