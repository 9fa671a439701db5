import PromptGateway.Moment

/-! # Days and dates

A count of days and the date that it becomes. Years begin in March, so that the day by which a leap
year is longer is its last one, and four centuries are always of the same length.
-/

namespace PromptGateway.CivilDate

variable {n y : Int} {d : Int}

/-! ## Years -/

/-- The year of four centuries that a day of them falls into. -/
def yearOfEra (n : Int) : Int := (n - n / 1460 + n / 36524 - n / 146096) / 365

/-- A day of four centuries as a century, a cycle of four years in it, and a day of the cycle. -/
theorem exists_cycle (h0 : 0 ≤ n) (hn : n < 146097) :
    ∃ c q s : Int, n = 36524 * c + 1461 * q + s ∧ (c = 0 ∨ c = 1 ∨ c = 2 ∨ c = 3) ∧
      (0 ≤ q ∧ q ≤ 24) ∧ (0 ≤ s ∧ s ≤ 1460) ∧ (c < 3 → 1461 * q + s < 36524) := by
  refine ⟨min (n / 36524) 3, (n - 36524 * min (n / 36524) 3) / 1461,
    (n - 36524 * min (n / 36524) 3) % 1461, ?_, ?_, ?_, ?_, ?_⟩ <;> omega

theorem yearOfEra_cycle {c q s : Int} (hc : c = 0 ∨ c = 1 ∨ c = 2 ∨ c = 3) (hq : 0 ≤ q ∧ q ≤ 24)
    (hs : 0 ≤ s ∧ s ≤ 1460) (hl : c < 3 → 1461 * q + s < 36524) :
    yearOfEra (36524 * c + 1461 * q + s) = 100 * c + 4 * q + min (s / 365) 3 := by
  generalize hn : 36524 * c + 1461 * q + s = n
  have hcentury : n / 36524 - n / 146096 = c := by omega
  have hcycle : n / 1460 = 25 * c + q + (24 * c + q + s) / 1460 := by omega
  have hday : (s - (24 * c + q + s) / 1460) / 365 = min (s / 365) 3 := by omega
  have hsum : n - n / 1460 + n / 36524 - n / 146096 =
      s - (24 * c + q + s) / 1460 + 365 * (100 * c + 4 * q) := by omega
  rw [yearOfEra, hsum, Int.add_mul_ediv_left _ _ (by decide), hday]
  omega

theorem daysBeforeYear_cycle {c q k : Int} (hc : c = 0 ∨ c = 1 ∨ c = 2 ∨ c = 3)
    (hq : 0 ≤ q ∧ q ≤ 24) (hk : 0 ≤ k ∧ k ≤ 3) :
    daysBeforeYear (100 * c + 4 * q + k) = 36524 * c + 1461 * q + 365 * k := by
  have h4 : (100 * c + 4 * q + k) / 4 = 25 * c + q := by omega
  have h100 : (100 * c + 4 * q + k) / 100 = c := by omega
  have h400 : (100 * c + 4 * q + k) / 400 = 0 := by omega
  rw [daysBeforeYear, h4, h100, h400]
  omega

/-- The year of a day begins not after it, and the next year does. -/
theorem yearOfEra_spec (h0 : 0 ≤ n) (hn : n < 146097) :
    (0 ≤ yearOfEra n ∧ yearOfEra n < 400) ∧ daysBeforeYear (yearOfEra n) ≤ n ∧
      n < daysBeforeYear (yearOfEra n + 1) := by
  obtain ⟨c, q, s, rfl, hc, hq, hs, hl⟩ := exists_cycle h0 hn
  rw [yearOfEra_cycle hc hq hs hl]
  refine ⟨by omega, ?_, ?_⟩
  · rw [daysBeforeYear_cycle hc hq (by omega)]
    omega
  · rcases (by omega : s / 365 < 3 ∨ min (s / 365) 3 = 3) with hk | hk
    · rw [Int.add_assoc (100 * c + 4 * q), daysBeforeYear_cycle hc hq (by omega)]
      omega
    -- the next year begins another cycle, perhaps another century
    · rcases (by omega : q < 24 ∨ q = 24) with hq' | rfl
      · rw [hk, show 100 * c + 4 * q + 3 + 1 = 100 * c + 4 * (q + 1) + 0 by omega,
          daysBeforeYear_cycle hc (by omega) (by decide)]
        omega
      · rw [hk, show 100 * c + 4 * 24 + 3 + 1 = 100 * (c + 1) by omega]
        rcases hc with rfl | rfl | rfl | rfl <;> simp only [daysBeforeYear] <;> omega

theorem daysBeforeYear_add_eras (y e : Int) :
    daysBeforeYear (y + 400 * e) = daysBeforeYear y + 146097 * e := by
  unfold daysBeforeYear
  omega

theorem daysBeforeYear_le {y y' : Int} (h : y ≤ y') : daysBeforeYear y ≤ daysBeforeYear y' := by
  unfold daysBeforeYear
  omega

/-- A year is longer by a day if the next one, in which its last days lie, is a leap year. -/
theorem daysBeforeYear_succ (y : Int) :
    daysBeforeYear (y + 1) = daysBeforeYear y + if isLeapYear (y + 1) then 366 else 365 := by
  unfold daysBeforeYear isLeapYear
  split <;>
  rename_i h <;>
  simp only [Bool.and_eq_true, Bool.or_eq_true, beq_iff_eq, bne_iff_ne] at h <;>
  omega

/-! ## Days of a year -/

/-- The date of a day of a year that begins in March. -/
def ofYearDay (y d : Int) : CivilDate :=
  let shifted := (5 * d + 2) / 153
  let month := if shifted < 10 then shifted + 3 else shifted - 9
  ⟨if month ≤ 2 then y + 1 else y, month.toNat, (d - (153 * shifted + 2) / 5 + 1).toNat⟩

/-- A count of days falls into a year. -/
theorem exists_ofYearDay (n : Int) : ∃ y d, ofDays n = ofYearDay y d ∧ 0 ≤ d ∧
    n = daysBeforeYear y + d - 719468 ∧ daysBeforeYear y + d < daysBeforeYear (y + 1) := by
  generalize he : (n + 719468) / 146097 = e
  generalize hd : (n + 719468) % 146097 = d
  obtain ⟨⟨h0, h400⟩, hl, hu⟩ := yearOfEra_spec (n := d) (by omega) (by omega)
  have hy : daysBeforeYear (yearOfEra d) =
      365 * yearOfEra d + yearOfEra d / 4 - yearOfEra d / 100 := by
    unfold daysBeforeYear
    omega
  refine ⟨yearOfEra d + 400 * e, d - daysBeforeYear (yearOfEra d), ?_, by omega, ?_, ?_⟩
  · rw [hy, Int.mul_comm 400 e, ← he, ← hd]
    rfl
  · rw [daysBeforeYear_add_eras]
    omega
  · rw [show yearOfEra d + 400 * e + 1 = yearOfEra d + 1 + 400 * e by omega,
      daysBeforeYear_add_eras, daysBeforeYear_add_eras]
    omega

/-- The day of a year that a day of a month is; the months are counted from March. -/
def yearDay (m k : Nat) : Int := (153 * m + 2) / 5 + k

/-- The length of a month that is counted from March, in a common year. -/
def monthLength (m : Nat) : Nat := daysInMonth 1 ((m + 2) % 12 + 1)

theorem yearDay_succ : ∀ m < 11, yearDay (m + 1) 0 = yearDay m (monthLength m) := by decide

/-- That a day lies in a month, where the last month is as long as it is in a leap year. -/
structure HasDay (m k : Nat) : Prop where
  month_lt : m < 12
  day_lt : k < monthLength m ∨ m = 11 ∧ k = 28

/-- The days of a month are those before the next one begins, and before the year ends. -/
theorem hasDay_iff {m k : Nat} (hm : m < 12) :
    HasDay m k ↔ yearDay m k < yearDay (m + 1) 0 ∧ yearDay m k ≤ 365 := by
  have hiff : (k < monthLength m ∨ m = 11 ∧ k = 28) ↔
      yearDay m k < yearDay (m + 1) 0 ∧ yearDay m k ≤ 365 := by
    rcases (by omega : m < 11 ∨ m = 11) with hlt | rfl
    · have hs := yearDay_succ m hlt
      unfold yearDay at *
      omega
    · have hl : monthLength 11 = 28 := rfl
      unfold yearDay
      omega
  rw [← hiff]
  constructor
  · intro h
    exact h.day_lt
  · intro h
    exact ⟨hm, h⟩

/-- A day of a year lies in one of its months. -/
theorem exists_yearDay (h0 : 0 ≤ d) (hd : d ≤ 365) : ∃ m k, HasDay m k ∧ d = yearDay m k := by
  obtain ⟨m, hm⟩ : ∃ m : Nat, (5 * d + 2) / 153 = m := ⟨((5 * d + 2) / 153).toNat, by omega⟩
  obtain ⟨k, rfl⟩ : ∃ k : Nat, d = yearDay m k := by
    refine ⟨(d - yearDay m 0).toNat, ?_⟩
    unfold yearDay
    omega
  have hnext : yearDay m k < yearDay (m + 1) 0 := by
    unfold yearDay at *
    omega
  exact ⟨m, k, (hasDay_iff (by omega)).mpr ⟨hnext, hd⟩, rfl⟩

theorem shifted_yearDay {m k : Nat} (h : HasDay m k) : (5 * yearDay m k + 2) / 153 = m := by
  have hnext := ((hasDay_iff h.month_lt).mp h).1
  unfold yearDay at *
  omega

theorem ofYearDay_yearDay {m k : Nat} (h : HasDay m k) :
    ofYearDay y (yearDay m k) = if m < 10 then ⟨y, m + 3, k + 1⟩ else ⟨y + 1, m - 9, k + 1⟩ := by
  have hm := h.month_lt
  have hd : (yearDay m k - (153 * (m : Int) + 2) / 5 + 1).toNat = k + 1 := by
    unfold yearDay
    omega
  unfold ofYearDay
  rw [shifted_yearDay h]
  dsimp only
  rw [hd]
  split
  · rw [if_neg (by omega), if_pos (by omega)]
    congr 1
  · rw [if_pos (by omega), if_neg (by omega)]
    congr 1
    omega

/-! ## Dates -/

structure Valid (d : CivilDate) : Prop where
  one_le_month : 1 ≤ d.month
  month_le : d.month ≤ 12
  one_le_day : 1 ≤ d.day
  day_le : d.day ≤ daysInMonth d.year d.month

theorem daysInMonth_one_le (year : Int) (month : Nat) :
    daysInMonth 1 month ≤ daysInMonth year month := by
  unfold daysInMonth
  split
  · cases isLeapYear year <;> decide
  all_goals exact Nat.le_refl _

theorem daysInMonth_le (year : Int) (month : Nat) : daysInMonth year month ≤ 31 := by
  unfold daysInMonth
  split
  · cases isLeapYear year <;> decide
  all_goals decide

/-- A count of days becomes a date of the calendar, which is as many days from the first one. -/
theorem exists_ofDays (n : Int) : ∃ y m k, HasDay m k ∧
    n = daysBeforeYear y + yearDay m k - 719468 ∧
    (m = 11 ∧ k = 28 → isLeapYear (y + 1) = true) ∧
    ofDays n = if m < 10 then ⟨y, m + 3, k + 1⟩ else ⟨y + 1, m - 9, k + 1⟩ := by
  obtain ⟨y, d, he, h0, hn, hd⟩ := exists_ofYearDay n
  have hs := daysBeforeYear_succ y
  obtain ⟨m, k, hk, rfl⟩ := exists_yearDay (d := d) h0 (by split at hs <;> omega)
  refine ⟨y, m, k, hk, hn, ?_, he.trans (ofYearDay_yearDay hk)⟩
  rintro ⟨rfl, rfl⟩
  cases hl : isLeapYear (y + 1) with
  | true => rfl
  | false =>
    rw [hl] at hs
    unfold yearDay at hd
    simp only [Bool.false_eq_true, if_false] at hs
    omega

theorem toDays_ofDays (n : Int) : (ofDays n).toDays = n := by
  obtain ⟨y, m, k, ⟨hm, -⟩, hn, -, he⟩ := exists_ofDays n
  rw [he, hn]
  unfold toDays yearDay
  split
  · rw [if_neg (by simp), show ((m + 3 : Nat) + 9 : Int) % 12 = m by omega]
    dsimp only
    omega
  · rw [if_pos (by simp; omega), show ((m - 9 : Nat) + 9 : Int) % 12 = m by omega]
    dsimp only
    rw [Int.add_sub_cancel]
    omega

theorem valid_ofDays (n : Int) : (ofDays n).Valid := by
  obtain ⟨y, m, k, ⟨hm, hk⟩, -, hl, he⟩ := exists_ofDays n
  have hle (year : Int) : monthLength m ≤ daysInMonth year ((m + 2) % 12 + 1) :=
    daysInMonth_one_le year _
  rw [he]
  split
  · have hy := hle y
    rw [show (m + 2) % 12 + 1 = m + 3 by omega] at hy
    exact ⟨by simp, by simp; omega, by simp, by simp; omega⟩
  · have hy := hle (y + 1)
    rw [show (m + 2) % 12 + 1 = m - 9 by omega] at hy
    refine ⟨by simp; omega, by simp; omega, by simp, ?_⟩
    rcases hk with hk | ⟨rfl, rfl⟩
    · exact Nat.le_trans hk hy
    · simp [daysInMonth, hl]

/-- The days that the calendar reaches lie in its years. -/
theorem year_ofDays {n : Int} (hl : -96465292 ≤ n) (hu : n ≤ 95026236) :
    -262143 ≤ (ofDays n).year ∧ (ofDays n).year ≤ 262142 := by
  obtain ⟨y, m, k, hk, hn, -, he⟩ := exists_ofDays n
  have hm := hk.month_lt
  have hs := shifted_yearDay hk
  generalize yearDay m k = d at hs hn
  have first : daysBeforeYear (-262144) = -95746130 := by decide
  have before : daysBeforeYear (-262145) = -95746496 := by decide
  have last : daysBeforeYear 262142 = 95745399 := by decide
  have behind : daysBeforeYear 262143 = 95745764 := by decide
  rw [he]
  split
  · have hf : ¬ y ≤ -262144 := fun h => by
      have := daysBeforeYear_le h
      omega
    have hb : ¬ 262143 ≤ y := fun h => by
      have := daysBeforeYear_le h
      omega
    dsimp only
    omega
  · have hf : ¬ y ≤ -262145 := fun h => by
      have := daysBeforeYear_le h
      omega
    have hb : ¬ 262142 ≤ y := fun h => by
      have := daysBeforeYear_le h
      omega
    dsimp only
    omega

end PromptGateway.CivilDate
