/-! # UTF-8

Bytes as text. A sequence of bytes is cut into symbols: a character for each well-formed sequence,
and for what is none either its single bytes or one mark for each longest piece that could have
begun a character.
-/

namespace PromptGateway.Utf8

def encodeChar (c : Char) : List UInt8 :=
  let n := c.toNat
  if n < 0x80 then [n.toUInt8]
  else if n < 0x800 then [(0xC0 + n / 0x40).toUInt8, (0x80 + n % 0x40).toUInt8]
  else if n < 0x10000 then
    [(0xE0 + n / 0x1000).toUInt8, (0x80 + n / 0x40 % 0x40).toUInt8, (0x80 + n % 0x40).toUInt8]
  else
    [(0xF0 + n / 0x40000).toUInt8, (0x80 + n / 0x1000 % 0x40).toUInt8,
      (0x80 + n / 0x40 % 0x40).toUInt8, (0x80 + n % 0x40).toUInt8]

def encodeChars (cs : List Char) : List UInt8 := cs.flatMap encodeChar

def encode (s : String) : List UInt8 := encodeChars s.toList

def isTail (b : UInt8) : Bool := 0x80 ≤ b && b ≤ 0xBF

/--
What stands at the front of some bytes: a character with the number of its bytes, or the length of
the longest piece that could have begun one, and at least one byte.
-/
inductive Front
  | char (c : Char) (size : Nat)
  | broken (size : Nat)

def front (b : UInt8) (rest : List UInt8) : Front :=
  let low (x : UInt8) : Nat := x.toNat % 0x40
  if b < 0x80 then .char (Char.ofNat b.toNat) 1
  else if b < 0xC2 then .broken 1
  else if b < 0xE0 then
    match rest with
    | x :: _ => if isTail x then .char (Char.ofNat (b.toNat % 0x20 * 0x40 + low x)) 2 else .broken 1
    | [] => .broken 1
  else if b < 0xF0 then
    let lo := if b == 0xE0 then 0xA0 else 0x80
    let hi := if b == 0xED then 0x9F else 0xBF
    match rest with
    | x :: y :: _ =>
      if lo ≤ x && x ≤ hi then
        if isTail y then .char (Char.ofNat (b.toNat % 0x10 * 0x1000 + low x * 0x40 + low y)) 3
        else .broken 2
      else .broken 1
    | [x] => if lo ≤ x && x ≤ hi then .broken 2 else .broken 1
    | [] => .broken 1
  else if b < 0xF5 then
    let lo := if b == 0xF0 then 0x90 else 0x80
    let hi := if b == 0xF4 then 0x8F else 0xBF
    match rest with
    | x :: y :: z :: _ =>
      if lo ≤ x && x ≤ hi then
        if isTail y then
          if isTail z then
            .char (Char.ofNat (b.toNat % 8 * 0x40000 + low x * 0x1000 + low y * 0x40 + low z)) 4
          else .broken 3
        else .broken 2
      else .broken 1
    | [x, y] => if lo ≤ x && x ≤ hi then if isTail y then .broken 3 else .broken 2 else .broken 1
    | [x] => if lo ≤ x && x ≤ hi then .broken 2 else .broken 1
    | [] => .broken 1
  else .broken 1

/-- The characters of some bytes, `U+FFFD` for each broken piece; `skip` bytes are already read. -/
def lossyFrom : Nat → List Char → List UInt8 → List Char
  | _, read, [] => read.reverse
  | skip + 1, read, _ :: rest => lossyFrom skip read rest
  | 0, read, b :: rest =>
    match front b rest with
    | .char c size => lossyFrom (size - 1) (c :: read) rest
    | .broken size => lossyFrom (size - 1) ('\uFFFD' :: read) rest

def decodeLossy (bytes : List UInt8) : String := String.ofList (lossyFrom 0 [] bytes)

def charsFrom : Nat → List Char → List UInt8 → Option (List Char)
  | _, read, [] => some read.reverse
  | skip + 1, read, _ :: rest => charsFrom skip read rest
  | 0, read, b :: rest =>
    match front b rest with
    | .char c size => charsFrom (size - 1) (c :: read) rest
    | .broken _ => none

def decode? (bytes : List UInt8) : Option String := (charsFrom 0 [] bytes).map String.ofList

/-- A character, or a byte that belongs to none. -/
inductive Symbol
  | char (c : Char)
  | stray (b : UInt8)
  deriving DecidableEq, Repr

def Symbol.size : Symbol → Nat
  | .char c => c.utf8Size
  | .stray _ => 1

/-- The symbols of some bytes; `skip` bytes are already read. -/
def symbolsFrom : Nat → List Symbol → List UInt8 → List Symbol
  | _, read, [] => read.reverse
  | skip + 1, read, _ :: rest => symbolsFrom skip read rest
  | 0, read, b :: rest =>
    match front b rest with
    | .char c size => symbolsFrom (size - 1) (.char c :: read) rest
    | .broken _ => symbolsFrom 0 (.stray b :: read) rest

def symbols (bytes : List UInt8) : List Symbol := symbolsFrom 0 [] bytes

end PromptGateway.Utf8
