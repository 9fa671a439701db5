import PromptGateway.Moment
import PromptGateway.Text.Blank

/-! # Reading moments

The grammar of RFC 3339 in a lenient form: blanks may stand around the separators of the date and of
the time, a space or a small letter may stand between them, and the year may carry a sign and then
any number of digits. Each part is a function from the characters that are left.
-/

namespace PromptGateway.Moment

open Text (isBlank isDigit digitValue trimStart)

inductive Fault
  | outOfRange
  | impossible
  | invalid
  | tooShort
  | tooLong
  deriving DecidableEq, Repr

def Fault.message : Fault → String
  | .outOfRange => "input is out of range"
  | .impossible => "no possible date and time matching input"
  | .invalid => "input contains invalid characters"
  | .tooShort => "premature end of input"
  | .tooLong => "trailing input"

/-- Continues a number over at most `limit` digits; it may not leave the 64-bit range. -/
def digitsFrom : Nat → Int → List Char → Except Fault (Int × List Char)
  | 0, n, cs => .ok (n, cs)
  | _, n, [] => .ok (n, [])
  | limit + 1, n, c :: cs =>
    if isDigit c then
      let n := n * 10 + digitValue c
      if n ≤ 9223372036854775807 then digitsFrom limit n cs else .error .outOfRange
    else .ok (n, c :: cs)

/-- A number of one digit or more, and at most `limit`. -/
def number (limit : Nat) : List Char → Except Fault (Int × List Char)
  | [] => .error .tooShort
  | c :: cs => if isDigit c then digitsFrom limit 0 (c :: cs) else .error .invalid

def numberWithin (limit : Nat) (lo hi : Int) (cs : List Char) : Except Fault (Int × List Char) := do
  let (n, rest) ← number limit (trimStart cs)
  if lo ≤ n ∧ n ≤ hi then .ok (n, rest) else .error .outOfRange

/-- A year: four digits at most, or a sign and any number of digits. -/
def year (cs : List Char) : Except Fault (Int × List Char) := do
  let (n, rest) ← match trimStart cs with
    | '-' :: cs => (number cs.length cs).map fun (n, rest) => (-n, rest)
    | '+' :: cs => number cs.length cs
    | cs => number 4 cs
  if -2147483648 ≤ n ∧ n ≤ 2147483647 then .ok (n, rest) else .error .outOfRange

def separator (c : Char) (cs : List Char) : Except Fault (List Char) :=
  match trimStart cs with
  | [] => .error .tooShort
  | d :: rest => if d == c then .ok rest else .error .invalid

/-- The fraction of a second in nanoseconds; digits after the ninth do not count. -/
def fraction : List Char → Except Fault (Nat × List Char)
  | '.' :: cs => do
    let (n, rest) ← number 9 cs
    .ok (n.toNat * Nat.pow 10 (9 - (cs.length - rest.length)), rest.dropWhile isDigit)
  | cs => .ok (0, cs)

def twoDigits : List Char → Except Fault (Nat × List Char)
  | [] => .error .tooShort
  | [c] => if c.utf8Size < 2 then .error .tooShort else .error .invalid
  | a :: b :: rest =>
    if isDigit a && isDigit b then .ok (digitValue a * 10 + digitValue b, rest)
    else .error .invalid

/-- The offset from UTC in seconds: a letter `Z`, the name `UTC`, or a sign, hours and minutes. -/
def offset (cs : List Char) : Except Fault (Int × List Char) :=
  match cs with
  | [] => .error .tooShort
  | c :: rest =>
    if Text.sameIgnoringCase (cs.take 3) ['u', 't', 'c'] then .ok (0, cs.drop 3)
    else if c == 'Z' || c == 'z' then .ok (0, rest)
    else if c == '+' || c == '-' || c == '−' then do
      let (hours, rest) ← twoDigits rest
      let (minutes, rest) ← twoDigits (rest.dropWhile fun c => c == ':' || isBlank c)
      if 60 ≤ minutes then .error .outOfRange
      else
        let seconds : Int := hours * 3600 + minutes * 60
        .ok (if c == '+' then seconds else -seconds, rest)
    else .error .invalid

structure Written where
  date : CivilDate
  hour : Nat
  minute : Nat
  second : Nat
  nanos : Nat
  offset : Int
  deriving Repr

def written (cs : List Char) : Except Fault Written := do
  let (year, cs) ← year cs
  let cs ← separator '-' cs
  let (month, cs) ← numberWithin 2 1 12 cs
  let cs ← separator '-' cs
  let (day, cs) ← numberWithin 2 1 31 cs
  let cs ← match cs with
    | [] => .error .tooShort
    | c :: rest => if c == 't' || c == 'T' || c == ' ' then .ok rest else .error .invalid
  let (hour, cs) ← numberWithin 2 0 23 cs
  let cs ← separator ':' cs
  let (minute, cs) ← numberWithin 2 0 59 cs
  let cs ← separator ':' cs
  let (second, cs) ← numberWithin 2 0 60 cs
  let (nanos, cs) ← fraction cs
  let (offset, cs) ← offset (trimStart cs)
  if trimStart cs = [] then
    .ok ⟨⟨year, month.toNat, day.toNat⟩, hour.toNat, minute.toNat, second.toNat, nanos, offset⟩
  else .error .tooLong

/-- The moment that the parts mean: the day has to exist, and so has the moment after the shift. -/
def Written.moment (w : Written) : Except Fault Moment := do
  let d := w.date
  if d.year < -262143 ∨ 262142 < d.year ∨ CivilDate.daysInMonth d.year d.month < d.day then
    throw .outOfRange
  if w.offset ≤ -86400 ∨ 86400 ≤ w.offset then throw .outOfRange
  let leap := w.second == 60
  let second := if leap then 59 else w.second
  let nanos := if leap then w.nanos + 1000000000 else w.nanos
  let local_ : Int := d.toDays * 86400 + w.hour * 3600 + w.minute * 60 + second
  match ofSeconds? (local_ - w.offset) nanos with
  | some m => pure m
  | none => throw .impossible

def read (s : String) : Except Fault Moment := do (← written s.toList).moment

end PromptGateway.Moment
