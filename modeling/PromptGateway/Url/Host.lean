import PromptGateway.Encoding.Percent

/-! # Hosts

The host of an address is a domain name, or a number of the fourth or sixth version of the Internet
Protocol. A name that ends in a number has to be such a number as a whole.
-/

namespace PromptGateway.Url

inductive Fault
  | emptyHost
  | domainName
  | domainCharacter
  | port
  | ipv4
  | ipv6
  | relative
  deriving DecidableEq, Repr

def Fault.message : Fault → String
  | .emptyHost => "empty host"
  | .domainName => "invalid international domain name"
  | .domainCharacter => "invalid domain character"
  | .port => "invalid port number"
  | .ipv4 => "invalid IPv4 address"
  | .ipv6 => "invalid IPv6 address"
  | .relative => "relative URL without a base"

inductive Host
  | domain (name : List Char)
  | ipv4 (address : Nat)
  | ipv6 (pieces : List Nat)
  deriving DecidableEq, Repr

namespace Host

/-! ## Version four -/

/-- The digits of a number after the mark of its base, and the base. -/
def ipv4Base : List Char → Nat × List Char
  | '0' :: 'x' :: digits | '0' :: 'X' :: digits => (16, digits)
  | '0' :: d :: digits => (8, d :: digits)
  | digits => (10, digits)

/-- A part of a number of version four. A mark without digits stands for zero. -/
def ipv4Number? (part : List Char) : Option Nat :=
  if part = [] then none
  else
    let (base, digits) := ipv4Base part
    digits.foldlM (fun n c => do
      let d ← Text.hexValue? c
      if d < base then some (n * base + d) else none) 0

/-- The parts of a name between dots; a dot at the end does not count. -/
def dotted (name : List Char) : List (List Char) :=
  let parts := Text.splitAt '.' name
  if 1 < parts.length && parts.getLast? == some [] then parts.dropLast else parts

/-- Whether a name has to be a number of version four. -/
def endsInNumber (name : List Char) : Bool :=
  match (dotted name).getLast? with
  | some part => (part != [] && part.all Text.isDigit) || (ipv4Number? part).isSome
  | none => false

/-- Reads a number of version four: up to four parts, of which the last one fills the rest. -/
def readIpv4 (name : List Char) : Except Fault Host := do
  let parts := dotted name
  if 4 < parts.length then throw .ipv4
  let numbers ← match parts.mapM ipv4Number? with
    | some numbers => pure numbers
    | none => throw .ipv4
  let heads := numbers.dropLast
  let tail := numbers.getLast?.getD 0
  if heads.any (255 < ·) || Nat.pow 256 (4 - heads.length) ≤ tail then throw .ipv4
  let head := heads.zipIdx.foldr (fun (n, i) sum => n * Nat.pow 256 (3 - i) + sum) 0
  return .ipv4 (head + tail)

/-! ## Version six -/

def ipv6Piece? (part : List Char) : Option Nat :=
  if part = [] ∨ 4 < part.length then none
  else part.foldlM (fun n c => do return n * 16 + (← Text.hexValue? c)) 0

def decimalByte? (part : List Char) : Option Nat :=
  match part with
  | [] => none
  | '0' :: _ :: _ => none
  | _ =>
    if part.all Text.isDigit then
      let n := part.foldl (fun n c => n * 10 + Text.digitValue c) 0
      if n ≤ 255 then some n else none
    else none

/-- The two pieces of a number of version four at the end of one of version six. -/
def ipv4Pieces? (part : List Char) : Option (List Nat) :=
  match Text.splitAt '.' part with
  | [a, b, c, d] => do
    let a ← decimalByte? a
    let b ← decimalByte? b
    let c ← decimalByte? c
    let d ← decimalByte? d
    return [a * 256 + b, c * 256 + d]
  | _ => none

/-- The pieces between colons; only the last one may be a number of version four. -/
def ipv6Pieces? : List (List Char) → Option (List Nat)
  | [] => some []
  | [part] => if part.contains '.' then ipv4Pieces? part else (ipv6Piece? part).map ([·])
  | part :: rest => do return (← ipv6Piece? part) :: (← ipv6Pieces? rest)

/-- The pieces of a text between colons, of which there are none in an empty text. -/
def colonParts (text : List Char) : List (List Char) :=
  if text = [] then [] else Text.splitAt ':' text

/-- Reads a number of version six: eight pieces, or fewer with a gap of zeros. -/
def readIpv6 (text : List Char) : Except Fault Host :=
  let pieces? : Option (List Nat) :=
    match Text.cut? [':', ':'] text with
    | none => do
      let pieces ← ipv6Pieces? (colonParts text)
      if pieces.length = 8 then some pieces else none
    | some (before, behind) => do
      if before.contains '.' then none
      let left ← ipv6Pieces? (colonParts before)
      let right ← ipv6Pieces? (colonParts behind)
      if left.length + right.length ≤ 7 then
        some (left ++ List.replicate (8 - left.length - right.length) 0 ++ right)
      else none
  match pieces? with
  | some pieces => .ok (.ipv6 pieces)
  | none => .error .ipv6

/-! ## Names -/

def isForbiddenInDomain (c : Char) : Bool :=
  c.toNat ≤ 32 || c.toNat == 127 || "%#/:<>?@[\\]^|".toList.contains c

def isForbiddenInHost (c : Char) : Bool :=
  c == '\x00' || "\t\n\r #/:<>?@[\\]^|".toList.contains c

def readBracketed (text : List Char) : Except Fault Host :=
  if text.getLast? = some ']' then readIpv6 text.dropLast else .error .ipv6

def read : List Char → Except Fault Host
  | '[' :: text => readBracketed text
  | text =>
    match Utf8.decode? (Percent.decode (Utf8.encodeChars text)) with
    | none => .error .domainName
    | some name =>
      let name := (Text.lower name).toList
      if name.any isForbiddenInDomain then .error .domainName
      else if name = [] then .error .emptyHost
      else if endsInNumber name then readIpv4 name
      else .ok (.domain name)

/-- The characters that are encoded wherever they stand. -/
def isControl (c : Char) : Bool := c.toNat < 32 || c.toNat == 127

def readOpaque : List Char → Except Fault Host
  | '[' :: text => readBracketed text
  | text =>
    if text.any isForbiddenInHost then .error .domainCharacter
    else .ok (.domain (Percent.encodeSet isControl text))

/-! ## Text -/

/-- The longest run of at least two zeros: where it begins and how long it is. -/
def longestGap (pieces : List Nat) : Nat × Nat :=
  let step := fun (state : (Nat × Nat) × (Nat × Nat)) (p : Nat × Nat) =>
    let (best, (start, size)) := state
    let current := if p.1 = 0 then (if size = 0 then p.2 else start, size + 1) else (start, 0)
    (if best.2 < current.2 then current else best, current)
  let best := (pieces.zipIdx.foldl step ((0, 0), (0, 0))).1
  if best.2 < 2 then (0, 0) else best

def pieceText (pieces : List Nat) : String :=
  String.intercalate ":" (pieces.map fun n => String.ofList (Text.hexDigits n))

def text : Host → String
  | domain name => String.ofList name
  | ipv4 n =>
    String.intercalate "."
      ([n / 16777216, n / 65536 % 256, n / 256 % 256, n % 256].map toString)
  | ipv6 pieces =>
    let (start, size) := longestGap pieces
    if size = 0 then "[" ++ pieceText pieces ++ "]"
    else
      "[" ++ pieceText (pieces.take start) ++ "::" ++ pieceText (pieces.drop (start + size)) ++ "]"

end Host

end PromptGateway.Url
