import PromptGateway.Encoding.Utf8
import PromptGateway.Text.Ascii
import PromptGateway.Text.Search

/-! # Percent encoding

Bytes written as a percent sign and two hexadecimal digits, and forms: names and values joined by
equals signs and ampersands, with a plus sign for a blank.
-/

namespace PromptGateway.Percent

def hexValue? (b : UInt8) : Option Nat := Text.hexValue? (Char.ofNat b.toNat)

/-- Replaces each encoded byte; a percent sign that begins none stays as it is. -/
def decodeFrom (read : List UInt8) : List UInt8 → List UInt8
  | 0x25 :: a :: b :: rest =>
    match hexValue? a, hexValue? b with
    | some high, some low => decodeFrom ((high * 16 + low).toUInt8 :: read) rest
    | _, _ => decodeFrom (0x25 :: read) (a :: b :: rest)
  | b :: rest => decodeFrom (b :: read) rest
  | [] => read.reverse

def decode (bytes : List UInt8) : List UInt8 := decodeFrom [] bytes

def encodeByte (b : UInt8) : List Char :=
  let digit (n : Nat) := Text.upperChar (Text.hexDigit n)
  ['%', digit (b.toNat / 16), digit (b.toNat % 16)]

/-- Encodes the bytes of the characters of a set, and of all characters beyond ASCII. -/
def encodeSet (set : Char → Bool) (text : List Char) : List Char :=
  text.flatMap fun c =>
    if 0x80 ≤ c.toNat || set c then (Utf8.encodeChar c).flatMap encodeByte else [c]

def decodeFormPart (part : List Char) : String :=
  let bytes := Utf8.encodeChars (part.map fun c => if c == '+' then ' ' else c)
  Utf8.decodeLossy (decode bytes)

def decodeForm (text : List Char) : List (String × String) :=
  ((Text.splitAt '&' text).filter (· ≠ [])).map fun part =>
    match Text.cutAt? '=' part with
    | some (name, value) => (decodeFormPart name, decodeFormPart value)
    | none => (decodeFormPart part, "")

end PromptGateway.Percent
