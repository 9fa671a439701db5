/-! # Base 64 for URLs

The alphabet with `-` and `_`, without padding. Four symbols stand for three bytes; at the end two
symbols stand for one byte and three for two, and the bits that are left over have to be zero.
-/

namespace PromptGateway.Base64Url

def symbol (n : Nat) : Char :=
  if n < 26 then Char.ofNat (65 + n)
  else if n < 52 then Char.ofNat (97 + (n - 26))
  else if n < 62 then Char.ofNat (48 + (n - 52))
  else if n == 62 then '-'
  else '_'

def value? (b : UInt8) : Option Nat :=
  let n := b.toNat
  if 65 ≤ n ∧ n ≤ 90 then some (n - 65)
  else if 97 ≤ n ∧ n ≤ 122 then some (n - 97 + 26)
  else if 48 ≤ n ∧ n ≤ 57 then some (n - 48 + 52)
  else if n = 45 then some 62
  else if n = 95 then some 63
  else none

def encodeChars : List UInt8 → List Char
  | [] => []
  | [a] => [symbol (a.toNat / 4), symbol (a.toNat % 4 * 16)]
  | [a, b] =>
    [symbol (a.toNat / 4), symbol (a.toNat % 4 * 16 + b.toNat / 16), symbol (b.toNat % 16 * 4)]
  | a :: b :: c :: rest =>
    symbol (a.toNat / 4) :: symbol (a.toNat % 4 * 16 + b.toNat / 16) ::
      symbol (b.toNat % 16 * 4 + c.toNat / 64) :: symbol (c.toNat % 64) :: encodeChars rest

def encode (bytes : List UInt8) : String := String.ofList (encodeChars bytes)

inductive Fault
  | symbol (offset : Nat) (byte : UInt8)
  | length (size : Nat)
  | lastSymbol (offset : Nat) (byte : UInt8)
  | padding
  deriving DecidableEq, Repr

def Fault.message : Fault → String
  | .symbol offset byte => s!"Invalid symbol {byte.toNat}, offset {offset}."
  | .length size => s!"Invalid input length: {size}"
  | .lastSymbol offset byte => s!"Invalid last symbol {byte.toNat}, offset {offset}."
  | .padding => "Invalid padding"

def group (v w x y : Nat) : List UInt8 :=
  [(v * 4 + w / 16).toUInt8, (w % 16 * 16 + x / 4).toUInt8, (x % 4 * 64 + y).toUInt8]

def valueAt (offset : Nat) (b : UInt8) : Except Fault Nat :=
  match value? b with
  | some v => .ok v
  | none => .error (.symbol offset b)

def pad : UInt8 := 61

/--
The values at the end of a text, and whether padding follows them. Padding may not stand in the
first two places, nor before a symbol; `index` counts the places, `firstPad` is that of the padding.
-/
def lastValues (offset : Nat) :
    Nat → Option Nat → List UInt8 → Except Fault (List Nat × Bool)
  | _, firstPad, [] => .ok ([], firstPad.isSome)
  | index, firstPad, b :: rest =>
    if b = pad then
      if index < 2 then .error (.symbol (offset + index) b)
      else lastValues offset (index + 1) (firstPad.or (some index)) rest
    else
      match firstPad with
      | some i => .error (.symbol (offset + i) pad)
      | none => do
        let v ← valueAt (offset + index) b
        let (vs, padded) ← lastValues offset (index + 1) none rest
        .ok (v :: vs, padded)

def decodeLast (offset : Nat) (text : List UInt8) : Except Fault (List UInt8) := do
  let (values, padded) ← lastValues offset 0 none text
  if values.length < 2 ∧ text ≠ [] then throw (.length (offset + values.length))
  if padded then throw .padding
  match values, text with
  | [v, w], [_, b] =>
    if w % 16 = 0 then pure [(v * 4 + w / 16).toUInt8] else throw (.lastSymbol (offset + 1) b)
  | [v, w, x], [_, _, b] =>
    if x % 4 = 0 then pure [(v * 4 + w / 16).toUInt8, (w % 16 * 16 + x / 4).toUInt8]
    else throw (.lastSymbol (offset + 2) b)
  | [v, w, x, y], _ => pure (group v w x y)
  | _, _ => pure []

/-- The bytes of a text that begins at an offset: groups of four symbols as long as more follow. -/
def decodeFrom (offset : Nat) : List UInt8 → Except Fault (List UInt8)
  | a :: b :: c :: d :: e :: rest => do
    let v ← valueAt offset a
    let w ← valueAt (offset + 1) b
    let x ← valueAt (offset + 2) c
    let y ← valueAt (offset + 3) d
    let bytes ← decodeFrom (offset + 4) (e :: rest)
    .ok (group v w x y ++ bytes)
  | text => decodeLast offset text

/-- A single byte left over at the end that is neither a symbol nor padding. -/
def stray? (text : List UInt8) : Option Fault :=
  match text.getLast? with
  | some b =>
    if text.length % 4 = 1 ∧ b ≠ pad ∧ value? b = none then some (.symbol (text.length - 1) b)
    else none
  | none => none

/-- The bytes of a text. A stray byte at the end is told before any other fault. -/
def decode (text : List UInt8) : Except Fault (List UInt8) :=
  match stray? text with
  | some fault => .error fault
  | none => decodeFrom 0 text

end PromptGateway.Base64Url
