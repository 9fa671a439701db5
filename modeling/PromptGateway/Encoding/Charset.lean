import PromptGateway.Encoding.Utf8
import PromptGateway.Text.Ascii
import PromptGateway.Text.Search

/-! # Character sets

The ways in which the bytes of a text stand for its characters, and the labels under which they are
known. Bytes that begin with a byte order mark tell their character set themselves.
-/

namespace PromptGateway

/-- A character set. In a table, the bytes from `start` on stand for the characters listed. -/
inductive Charset
  | utf8
  | utf16 (bigEndian : Bool)
  | table (start : Nat) (chars : List Char)
  deriving DecidableEq, Repr

namespace Charset

/-! ## Tables -/

def windows1252 : Charset :=
  .table 128 "€\u0081‚ƒ„…†‡ˆ‰Š‹Œ\u008dŽ\u008f\u0090‘’“”•–—˜™š›œ\u009džŸ".toList

def latin9 : Charset := .table 160 "\u00a0¡¢£€¥Š§š©ª«¬\u00ad®¯°±²³Žµ¶·ž¹º»ŒœŸ¿".toList

def centralLetters : String :=
  "ŔÁÂĂÄĹĆÇČÉĘËĚÍÎĎĐŃŇÓÔŐÖ×ŘŮÚŰÜÝŢßŕáâăäĺćçčéęëěíîďđńňóôőö÷řůúűüýţ˙"

def latin2 : Charset :=
  .table 160 ("\u00a0Ą˘Ł¤ĽŚ§¨ŠŞŤŹ\u00adŽŻ°ą˛ł´ľśˇ¸šşťź˝žż" ++ centralLetters).toList

def windows1250 : Charset :=
  .table 128 ("€\u0081‚\u0083„…†‡\u0088‰Š‹ŚŤŽŹ\u0090‘’“”•–—\u0098™š›śťžź" ++
    "\u00a0ˇ˘Ł¤Ą¦§¨©Ş«¬\u00ad®Ż°±˛ł´µ¶·¸ąş»Ľ˝ľż" ++ centralLetters).toList

def russianLetters : String := "АБВГДЕЖЗИЙКЛМНОПРСТУФХЦЧШЩЪЫЬЭЮЯабвгдежзийклмнопрстуфхцчшщъыьэюя"

def cyrillic : Charset :=
  .table 160 ("\u00a0ЁЂЃЄЅІЇЈЉЊЋЌ\u00adЎЏ" ++ russianLetters ++ "№ёђѓєѕіїјљњћќ§ўџ").toList

def windows1251 : Charset :=
  .table 128 ("ЂЃ‚ѓ„…†‡€‰Љ‹ЊЌЋЏђ‘’“”•–—\u0098™љ›њќћџ" ++
    "\u00a0ЎўЈ¤Ґ¦§Ё©Є«¬\u00ad®Ї°±Ііґµ¶·ё№є»јЅѕї" ++ russianLetters).toList

/-- Cyrillic, with the letters at the places of the Latin ones that sound alike. -/
def koi8 : Charset :=
  .table 128 ("─│┌┐└┘├┤┬┴┼▀▄█▌▐░▒▓⌠■∙√≈≤≥\u00a0⌡°²·÷═║╒ё╓╔╕╖╗╘╙╚╛╜╝╞╟╠╡Ё╢╣╤╥╦╧╨╩╪╫╬©" ++
    "юабцдефгхийклмнопярстужвьызшэщчъЮАБЦДЕФГХИЙКЛМНОПЯРСТУЖВЬЫЗШЭЩЧЪ").toList

/-! ## Labels -/

def labels : List (Charset × List String) :=
  [(utf8, ["utf-8", "utf8", "unicode-1-1-utf-8", "unicode11utf8", "unicode20utf8",
      "x-unicode20utf8"]),
    (utf16 false, ["utf-16", "utf-16le", "ucs-2", "unicode", "csunicode", "iso-10646-ucs-2",
      "unicodefeff"]),
    (utf16 true, ["utf-16be", "unicodefffe"]),
    (windows1252, ["windows-1252", "cp1252", "x-cp1252", "ascii", "us-ascii", "ansi_x3.4-1968",
      "latin1", "l1", "csisolatin1", "iso-8859-1", "iso8859-1", "iso88591", "iso_8859-1",
      "iso_8859-1:1987", "iso-ir-100", "ibm819", "cp819"]),
    (latin9, ["iso-8859-15", "iso8859-15", "iso885915", "iso_8859-15", "l9", "csisolatin9"]),
    (latin2, ["iso-8859-2", "iso8859-2", "iso88592", "iso_8859-2", "iso_8859-2:1987", "latin2",
      "l2", "csisolatin2", "iso-ir-101"]),
    (windows1250, ["windows-1250", "cp1250", "x-cp1250"]),
    (cyrillic, ["iso-8859-5", "iso8859-5", "iso88595", "iso_8859-5", "iso_8859-5:1988", "cyrillic",
      "csisolatincyrillic", "iso-ir-144"]),
    (windows1251, ["windows-1251", "cp1251", "x-cp1251"]),
    (koi8, ["koi8-r", "koi8", "koi", "koi8_r", "cskoi8r"])]

/-- The blanks that may stand around a label. -/
def isLabelBlank (c : Char) : Bool := "\t\n\x0c\r ".toList.contains c

/-- The character set with a label. Blanks around it and the case of letters do not count. -/
def ofLabel? (label : String) : Option Charset :=
  let ends (cs : List Char) := cs.dropWhile isLabelBlank
  let plain := Text.lower (String.ofList (ends (ends label.toList).reverse).reverse)
  (labels.find? fun (_, names) => names.contains plain).map (·.1)

/-! ## Decoding -/

def broken : Char := '\uFFFD'

/-- Whether a code unit is the first half of a pair. -/
def isLead (unit : Nat) : Bool := 0xD800 ≤ unit && unit < 0xDC00

/-- Whether a code unit is the second half of a pair. -/
def isTrail (unit : Nat) : Bool := 0xDC00 ≤ unit && unit < 0xE000

def pair (lead trail : Nat) : Char :=
  Char.ofNat (0x10000 + (lead - 0xD800) * 0x400 + (trail - 0xDC00))

/--
The characters of bytes two of which make up a unit; `lead?` is the first half of a pair that waits
for the second one. A half without the other one is broken, and so is a single byte at the end.
-/
def utf16From (bigEndian : Bool) (lead? : Option Nat) (read : List Char) : List UInt8 → List Char
  | a :: b :: rest =>
    let unit := if bigEndian then a.toNat * 256 + b.toNat else b.toNat * 256 + a.toNat
    match lead? with
    | some lead =>
      if isTrail unit then utf16From bigEndian none (pair lead unit :: read) rest
      else if isLead unit then utf16From bigEndian (some unit) (broken :: read) rest
      else utf16From bigEndian none (Char.ofNat unit :: broken :: read) rest
    | none =>
      if isTrail unit then utf16From bigEndian none (broken :: read) rest
      else if isLead unit then utf16From bigEndian (some unit) read rest
      else utf16From bigEndian none (Char.ofNat unit :: read) rest
  | [_] => (broken :: read).reverse
  | [] => (if lead?.isSome then broken :: read else read).reverse

/-- The character of a byte; one outside of the table stands for the code point of its value. -/
def tableChar (start : Nat) (chars : List Char) (b : UInt8) : Char :=
  if b.toNat < start then Char.ofNat b.toNat
  else (chars[b.toNat - start]?).getD (Char.ofNat b.toNat)

def decode (bytes : List UInt8) : Charset → String
  | utf8 => Utf8.decodeLossy bytes
  | utf16 bigEndian => String.ofList (utf16From bigEndian none [] bytes)
  | table start chars => String.ofList (bytes.map (tableChar start chars))

/-- The character set that a byte order mark tells, and the bytes behind the mark. -/
def marked? : List UInt8 → Option (Charset × List UInt8)
  | 0xEF :: 0xBB :: 0xBF :: rest => some (utf8, rest)
  | 0xFF :: 0xFE :: rest => some (utf16 false, rest)
  | 0xFE :: 0xFF :: rest => some (utf16 true, rest)
  | _ => none

/-- The text of some bytes that a label comes with. A byte order mark goes before the label. -/
def decodeLabelled (label? : Option String) (bytes : List UInt8) : String :=
  match marked? bytes with
  | some (charset, rest) => charset.decode rest
  | none => ((label?.bind ofLabel?).getD utf8).decode bytes

end Charset

end PromptGateway
