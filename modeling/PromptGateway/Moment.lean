import PromptGateway.Text.Ascii

/-! # Moments

A moment is a point of civil time in UTC, counted in seconds from the start of 1970 with a fraction
in nanoseconds; a fraction of a second or more belongs to a leap second. Days are counted in the
proleptic Gregorian calendar, and years run from -262143 to 262142.
-/

namespace PromptGateway

/-- A day of the proleptic Gregorian calendar. -/
structure CivilDate where
  year : Int
  month : Nat
  day : Nat
  deriving DecidableEq, Repr

namespace CivilDate

/-- A leap year is divisible by four, and a full century by four hundred. -/
def isLeapYear (year : Int) : Bool :=
  year % 4 == 0 && (year % 100 != 0 || year % 400 == 0)

def daysInMonth (year : Int) : Nat → Nat
  | 2 => if isLeapYear year then 29 else 28
  | 4 | 6 | 9 | 11 => 30
  | _ => 31

/-- The days from the first of March of year zero to the first of March of a year. -/
def daysBeforeYear (year : Int) : Int := 365 * year + year / 4 - year / 100 + year / 400

/-- The days from the first of January 1970; years are taken to begin in March. -/
def toDays (d : CivilDate) : Int :=
  let year := if d.month ≤ 2 then d.year - 1 else d.year
  let month : Int := (d.month + 9) % 12
  daysBeforeYear year + (153 * month + 2) / 5 + d.day - 1 - 719468

def ofDays (days : Int) : CivilDate :=
  let z := days + 719468
  let era := z / 146097
  let dayOfEra := z % 146097
  let yearOfEra := (dayOfEra - dayOfEra / 1460 + dayOfEra / 36524 - dayOfEra / 146096) / 365
  let dayOfYear := dayOfEra - (365 * yearOfEra + yearOfEra / 4 - yearOfEra / 100)
  let shifted := (5 * dayOfYear + 2) / 153
  let day := dayOfYear - (153 * shifted + 2) / 5 + 1
  let month := if shifted < 10 then shifted + 3 else shifted - 9
  let year := yearOfEra + era * 400
  ⟨if month ≤ 2 then year + 1 else year, month.toNat, day.toNat⟩

/-- A year of four digits, and outside of them with a sign. -/
def yearText (year : Int) : String :=
  if 0 ≤ year && year ≤ 9999 then Text.padded 4 year.toNat
  else (if year < 0 then "-" else "+") ++ Text.padded 4 year.natAbs

def text (d : CivilDate) : String :=
  yearText d.year ++ "-" ++ Text.padded 2 d.month ++ "-" ++ Text.padded 2 d.day

end CivilDate

structure Moment where
  seconds : Int
  nanos : Nat := 0
  first_le : -8334601228800 ≤ seconds := by decide
  le_last : seconds ≤ 8210266876799 := by decide
  deriving DecidableEq, Repr

namespace Moment

/-- The moment of a count of seconds and nanoseconds, if the calendar reaches it. -/
def ofSeconds? (seconds : Int) (nanos : Nat) : Option Moment :=
  if h : -8334601228800 ≤ seconds ∧ seconds ≤ 8210266876799 then
    some { seconds := seconds, nanos := nanos, first_le := h.1, le_last := h.2 }
  else none

def epoch : Moment := { seconds := 0 }

instance : Inhabited Moment := ⟨epoch⟩

/-- The whole second that a moment falls into. -/
def floor (m : Moment) : Moment := { m with nanos := 0 }

def le (a b : Moment) : Bool :=
  a.seconds < b.seconds || (a.seconds == b.seconds && a.nanos ≤ b.nanos)

def latest (a b : Moment) : Moment := if a.le b then b else a

def date (m : Moment) : CivilDate := CivilDate.ofDays (m.seconds / 86400)

def secondOfDay (m : Moment) : Nat := (m.seconds % 86400).toNat

/-- The shortest of no, three, six and nine digits that show the whole fraction. -/
def fractionText (nanos : Nat) : String :=
  if nanos == 0 then ""
  else if nanos % 1000000 == 0 then "." ++ Text.padded 3 (nanos / 1000000)
  else if nanos % 1000 == 0 then "." ++ Text.padded 6 (nanos / 1000)
  else "." ++ Text.padded 9 nanos

/-- The form of RFC 3339, the fraction only where there is one. -/
def text (m : Moment) : String :=
  let s := m.secondOfDay
  let leap := m.nanos / 1000000000
  m.date.text ++ "T" ++ Text.padded 2 (s / 3600) ++ ":" ++ Text.padded 2 (s / 60 % 60) ++ ":" ++
    Text.padded 2 (s % 60 + leap) ++ fractionText (m.nanos % 1000000000) ++ "Z"

def minuteText (m : Moment) : String :=
  let s := m.secondOfDay
  m.date.text ++ " " ++ Text.padded 2 (s / 3600) ++ ":" ++ Text.padded 2 (s / 60 % 60)

end Moment

end PromptGateway
