import PromptGateway.Json.Failure
import PromptGateway.Encoding.Utf8

/-! # Cursors

A cursor is what is left of a text that is being read, together with the place where it begins. Each
reading function takes a cursor and returns the cursor after what it read.
-/

namespace PromptGateway.Json

open Utf8 (Symbol)

def Position.after (p : Position) : Symbol → Position
  | .char '\n' => ⟨p.line + 1, 0⟩
  | s => ⟨p.line, p.column + s.size⟩

def Position.past (p : Position) : Nat → List Symbol → Position
  | _, [] => p
  | 0, _ => p
  | n, s :: rest =>
    if s.size ≤ n then (p.after s).past (n - s.size) rest else ⟨p.line, p.column + n⟩

/-- What is left of a text, and where it begins. -/
structure Cursor where
  rest : List Symbol
  position : Position := {}

namespace Cursor

def ofString (s : String) : Cursor := ⟨s.toList.map .char, {}⟩

def ofBytes (bytes : List UInt8) : Cursor := ⟨Utf8.symbols bytes, {}⟩

/-- A flaw at the start of what is left. -/
def flawHere (c : Cursor) (flaw : Flaw) : Failure := { flaw, position? := some c.position }

/-- A flaw in the byte that comes next: its place is told as the one after that byte. -/
def flawNext (c : Cursor) (flaw : Flaw) : Failure :=
  { flaw, position? := some (c.position.past 1 c.rest) }

def next? (c : Cursor) : Option Symbol := c.rest.head?

def drop (c : Cursor) : Cursor :=
  match c.rest with
  | [] => c
  | s :: rest => ⟨rest, c.position.after s⟩

def isSpace : Symbol → Bool
  | .char ' ' | .char '\n' | .char '\t' | .char '\r' => true
  | _ => false

def skipSpaceFrom (p : Position) : List Symbol → Cursor
  | [] => ⟨[], p⟩
  | s :: rest => if isSpace s then skipSpaceFrom (p.after s) rest else ⟨s :: rest, p⟩

def skipSpace (c : Cursor) : Cursor := skipSpaceFrom c.position c.rest

/-- Reads the rest of a word of which the first letter is read already. -/
def word : List Char → Cursor → Except Failure Cursor
  | [], c => .ok c
  | expected :: letters, c =>
    match c.next? with
    | none => .error (c.flawHere .endInValue)
    | some s =>
      if s == .char expected then word letters c.drop else .error (c.flawNext .expectedLiteral)

end Cursor

/-! ## Strings -/

def hex4? (a b c d : Symbol) : Option Nat :=
  let digit : Symbol → Option Nat
    | .char c => Text.hexValue? c
    | .stray _ => none
  do return (((← digit a) * 16 + (← digit b)) * 16 + (← digit c)) * 16 + (← digit d)

def byteCount (text : List Symbol) : Nat := (text.map Symbol.size).foldr (· + ·) 0

def hexFailure (p : Position) (rest : List Symbol) : Failure :=
  if byteCount (rest.take 4) < 4 then
    { flaw := .endInString, position? := some (p.past 4 rest) }
  else { flaw := .invalidEscape, position? := some (p.past 4 rest) }

def simpleEscape? : Symbol → Option Char
  | .char '"' => some '"'
  | .char '\\' => some '\\'
  | .char '/' => some '/'
  | .char 'b' => some '\x08'
  | .char 'f' => some '\x0C'
  | .char 'n' => some '\n'
  | .char 'r' => some '\r'
  | .char 't' => some '\t'
  | _ => none

/-- A control character; these may not stand in a string as such. -/
def isControl : Symbol → Bool
  | .char c => c.toNat < 0x20
  | .stray _ => false

/-- The place a number of columns further on in the same line. -/
def Position.right (p : Position) (n : Nat) : Position := ⟨p.line, p.column + n⟩

/--
Reads a string up to its closing quote. `read` holds its characters in reverse, `high` the first
half of a surrogate pair, and `stray` the place of the first byte that belongs to no character; that
such a byte stands in the string is told only once the string has ended.
-/
def stringFrom (read : List Char) (high : Option Nat) (stray : Option Position) (p : Position) :
    List Symbol → Except Failure (String × Cursor)
  | [] => .error { flaw := .endInString, position? := some p }
  | .char '\\' :: .char 'u' :: a :: b :: c :: d :: rest =>
    match hex4? a b c d with
    | none => .error (hexFailure (p.right 2) (a :: b :: c :: d :: rest))
    | some n =>
      let p := p.right 6
      match high with
      | none =>
        if 0xDC00 ≤ n ∧ n ≤ 0xDFFF then .error { flaw := .loneSurrogate, position? := some p }
        else if 0xD800 ≤ n ∧ n ≤ 0xDBFF then stringFrom read (some n) stray p rest
        else stringFrom (Char.ofNat n :: read) none stray p rest
      | some h =>
        if 0xDC00 ≤ n ∧ n ≤ 0xDFFF then
          let code := 0x10000 + (h - 0xD800) * 0x400 + (n - 0xDC00)
          stringFrom (Char.ofNat code :: read) none stray p rest
        else .error { flaw := .loneSurrogate, position? := some p }
  | .char '\\' :: rest =>
    match rest with
    | [] => .error { flaw := .endInString, position? := some (p.right 1) }
    | .char 'u' :: rest => .error (hexFailure (p.right 2) rest)
    | s :: rest =>
      let p := p.right 1
      if high.isSome then
        .error { flaw := .unfinishedSurrogate, position? := some (p.past 1 (s :: rest)) }
      else
        match simpleEscape? s with
        | some c => stringFrom (c :: read) none stray (p.right 1) rest
        | none => .error { flaw := .invalidEscape, position? := some (p.past 1 (s :: rest)) }
  | s :: rest =>
    if high.isSome then
      .error { flaw := .unfinishedSurrogate, position? := some (p.past 1 (s :: rest)) }
    else if s = .char '"' then
      match stray with
      | some q => .error { flaw := .invalidCodePoint, position? := some q }
      | none => .ok (String.ofList read.reverse, ⟨rest, p.right 1⟩)
    else if isControl s then
      .error { flaw := .controlCharacter, position? := some (p.past 1 (s :: rest)) }
    else
      match s with
      | .char c => stringFrom (c :: read) none stray (p.after s) rest
      | .stray _ => stringFrom read none (stray.or (some (p.right 1))) (p.after s) rest

/-- Reads a string whose opening quote is read already. -/
def readString (c : Cursor) : Except Failure (String × Cursor) :=
  stringFrom [] none none c.position c.rest

/-- Passes over a string up to its closing quote; only its escapes and controls are looked at. -/
def skipStringFrom (p : Position) : List Symbol → Except Failure Cursor
  | [] => .error { flaw := .endInString, position? := some p }
  | .char '\\' :: .char 'u' :: a :: b :: c :: d :: rest =>
    match hex4? a b c d with
    | none => .error (hexFailure (p.right 2) (a :: b :: c :: d :: rest))
    | some _ => skipStringFrom (p.right 6) rest
  | .char '\\' :: rest =>
    match rest with
    | [] => .error { flaw := .endInString, position? := some (p.right 1) }
    | .char 'u' :: rest => .error (hexFailure (p.right 2) rest)
    | s :: rest =>
      match simpleEscape? s with
      | some _ => skipStringFrom (p.right 2) rest
      | none =>
        .error { flaw := .invalidEscape, position? := some ((p.right 1).past 1 (s :: rest)) }
  | s :: rest =>
    if s = .char '"' then .ok ⟨rest, p.right 1⟩
    else if isControl s then .error { flaw := .controlCharacter, position? := some p }
    else skipStringFrom (p.after s) rest

def skipString (c : Cursor) : Except Failure Cursor := skipStringFrom c.position c.rest

/-! ## Numbers -/

def digit? : Symbol → Option Nat
  | .char c => if Text.isDigit c then some (Text.digitValue c) else none
  | .stray _ => none

/-- The digits at the front of a text, in reverse order, and what follows them. -/
def digitsFrom (read : List Nat) (p : Position) : List Symbol → List Nat × Cursor
  | [] => (read, ⟨[], p⟩)
  | s :: rest =>
    match digit? s with
    | some d => digitsFrom (d :: read) (p.right 1) rest
    | none => (read, ⟨s :: rest, p⟩)

def digits (c : Cursor) : List Nat × Cursor :=
  let (read, c) := digitsFrom [] c.position c.rest
  (read.reverse, c)

structure Exponent where
  negative : Bool
  digits : List Nat
  /-- The place of the first digit. -/
  position : Position

structure Numeral where
  negative : Bool
  whole : List Nat
  fraction : Option (List Nat) := none
  exponent : Option Exponent := none

/--
Reads the exponent after its letter. Where a digit is missing at the end of the text, that the text
ends is told only if the number is wanted and not passed over.
-/
def readExponent (wanted : Bool) (c : Cursor) : Except Failure (Exponent × Cursor) :=
  let (negative, c) := match c.next? with
    | some (.char '+') => (false, c.drop)
    | some (.char '-') => (true, c.drop)
    | _ => (false, c)
  match digits c with
  | ([], _) =>
    if c.rest.isEmpty && wanted then .error (c.flawHere .endInValue)
    else .error (c.flawNext .invalidNumber)
  | (ds, after) => .ok (⟨negative, ds, c.position⟩, after)

def readNumeralTail (wanted : Bool) (n : Numeral) (c : Cursor) :
    Except Failure (Numeral × Cursor) := do
  let (n, c) ← match c.next? with
    | some (.char '.') =>
      let c := c.drop
      match digits c with
      | ([], _) =>
        if c.rest.isEmpty && wanted then .error (c.flawNext .endInValue)
        else .error (c.flawNext .invalidNumber)
      | (ds, after) => .ok ({ n with fraction := some ds }, after)
    | _ => .ok (n, c)
  match c.next? with
  | some (.char 'e') | some (.char 'E') =>
    let (e, c) ← readExponent wanted c.drop
    .ok ({ n with exponent := some e }, c)
  | _ => .ok (n, c)

/-- Reads a number whose sign is read already. No digit may follow a zero in front. -/
def readNumeral (wanted negative : Bool) (c : Cursor) : Except Failure (Numeral × Cursor) :=
  match digits c with
  | ([], _) =>
    if c.rest.isEmpty && wanted then .error (c.flawHere .endInValue)
    else .error (c.flawNext .invalidNumber)
  | (ds, after) =>
    if ds.head? = some 0 ∧ 1 < ds.length then .error (c.drop.flawNext .invalidNumber)
    else readNumeralTail wanted { negative, whole := ds } after

/-- The digits that fit into 64 bits, and how many are left over. -/
def takeWord (n : Nat) : List Nat → Nat × List Nat
  | [] => (n, [])
  | d :: rest =>
    if n * 10 + d < 18446744073709551616 then takeWord (n * 10 + d) rest else (n, d :: rest)

/-- The size of an exponent, or the number of its digits that already pass 31 bits. -/
def exponentSize (n count : Nat) : List Nat → Except Nat Nat
  | [] => .ok n
  | d :: rest =>
    let n := n * 10 + d
    if n < 2147483648 then exponentSize n (count + 1) rest else .error (count + 1)

def tenTo (n : Nat) : Float := Float.ofScientific 1 false n

/-- Divides a float by a power of ten, in steps of at most 308 places. -/
def dividePower (x : Float) (n : Nat) : Float :=
  if n ≤ 308 then x / tenTo n
  else if x == 0 then x
  else dividePower (x / tenTo 308) (n - 308)
termination_by n

def scaleFloat? (significand : Nat) (exponent : Int) : Option Float :=
  let x := significand.toUInt64.toFloat
  if exponent < 0 then some (dividePower x exponent.natAbs)
  else if exponent ≤ 308 then
    let y := x * tenTo exponent.toNat
    if y.isInf then none else some y
  else if x == 0 then some x
  else none

def clampExponent (n : Int) : Int := max (-2147483648) (min n 2147483647)

/-- The number that a numeral means; a failure is at its end unless its exponent is too large. -/
def Numeral.value (n : Numeral) (after : Position) : Except Failure Number := do
  let outOfRange (p : Position) : Failure := { flaw := .numberOutOfRange, position? := some p }
  let signed (x : Float) : Number := .real (if n.negative then -x else x)
  let (significand, dropped) := takeWord 0 n.whole
  let fraction := n.fraction.getD []
  let (significand, left) :=
    if dropped.isEmpty then takeWord significand fraction else (significand, fraction)
  let scale : Int := (dropped.length : Int) - ((fraction.length - left.length : Nat) : Int)
  let real (exponent : Int) : Except Failure Number :=
    match scaleFloat? significand exponent with
    | some x => .ok (signed x)
    | none => .error (outOfRange after)
  match n.exponent with
  | some e =>
    match exponentSize 0 0 e.digits with
    | .ok size => real (clampExponent (if e.negative then scale - size else scale + size))
    | .error count =>
      if significand ≠ 0 ∧ !e.negative then .error (outOfRange (e.position.right count))
      else .ok (signed 0)
  | none =>
    if n.fraction.isSome || !dropped.isEmpty then real scale
    else if !n.negative then .ok (.integer significand)
    else if significand = 0 ∨ 9223372036854775808 < significand then
      .ok (signed significand.toUInt64.toFloat)
    else .ok (.integer (-significand))

def readNumber (negative : Bool) (c : Cursor) : Except Failure (Number × Cursor) := do
  let (n, after) ← readNumeral true negative c
  return (← n.value after.position, after)

end PromptGateway.Json
