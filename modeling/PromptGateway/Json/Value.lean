import PromptGateway.Decimal.Shortest
import PromptGateway.Text.Ascii

/-! # JSON values

A value of JSON, and the text of its parts. The members of an object keep their order; where a name
occurs twice, the last one counts.
-/

namespace PromptGateway.Json

/-- A number: whole within 64 bits, or else a float. -/
inductive Number
  | integer (n : Int)
  | real (x : Float)

inductive Value
  | null
  | bool (b : Bool)
  | number (n : Number)
  | string (s : String)
  | array (items : List Value)
  | object (members : List (String × Value))

instance : Inhabited Value := ⟨.null⟩

def escaped (c : Char) : List Char :=
  if c == '"' then ['\\', '"']
  else if c == '\\' then ['\\', '\\']
  else if c == '\n' then ['\\', 'n']
  else if c == '\r' then ['\\', 'r']
  else if c == '\t' then ['\\', 't']
  else if c == '\x08' then ['\\', 'b']
  else if c == '\x0C' then ['\\', 'f']
  else if c.toNat < 0x20 then
    ['\\', 'u', '0', '0', Text.hexDigit (c.toNat / 16), Text.hexDigit (c.toNat % 16)]
  else [c]

def stringChars (s : String) : List Char :=
  '"' :: (s.toList.flatMap escaped ++ ['"'])

def integerChars (n : Int) : List Char :=
  if n < 0 then '-' :: Nat.toDigits 10 n.natAbs else Nat.toDigits 10 n.toNat

def zeros (n : Nat) : List Char := List.replicate n '0'

/--
A float: its shortest digits, positional from `0.00001` up to sixteen places before the point, and
otherwise with an exponent of at least two digits.
-/
def realChars (x : Float) : List Char :=
  let sign := if 0 < x.toBits.toNat / 9223372036854775808 then ['-'] else []
  if x == 0 then sign ++ ['0', '.', '0']
  else
    let d := Decimal.ofFloat x
    let all := Nat.toDigits 10 d.digits
    let digits := (all.reverse.dropWhile (· == '0')).reverse
    let exponent := d.exponent + (all.length - digits.length : Nat)
    let point := digits.length + exponent
    sign ++
      if 0 ≤ exponent && point ≤ 16 then digits ++ zeros exponent.toNat ++ ['.', '0']
      else if 0 < point && point ≤ 16 then
        digits.take point.toNat ++ '.' :: digits.drop point.toNat
      else if -5 < point && point ≤ 0 then '0' :: '.' :: (zeros (-point).toNat ++ digits)
      else
        let head := digits.take 1
        let tail := if digits.length ≤ 1 then [] else '.' :: digits.drop 1
        let power := point - 1
        head ++ tail ++ ['e', if power < 0 then '-' else '+'] ++
          (Text.padded 2 power.natAbs).toList

def Number.chars : Number → List Char
  | .integer n => integerChars n
  | .real x => realChars x

namespace Value

mutual

def chars : Value → List Char
  | null => "null".toList
  | bool b => if b then "true".toList else "false".toList
  | number n => n.chars
  | string s => stringChars s
  | array items => '[' :: (itemChars items ++ [']'])
  | object members => '\x7b' :: (memberChars members ++ ['\x7d'])

def itemChars : List Value → List Char
  | [] => []
  | [v] => v.chars
  | v :: rest => v.chars ++ ',' :: itemChars rest

def memberChars : List (String × Value) → List Char
  | [] => []
  | [(key, v)] => stringChars key ++ ':' :: v.chars
  | (key, v) :: rest => stringChars key ++ ':' :: (v.chars ++ ',' :: memberChars rest)

end

def text (v : Value) : String := String.ofList v.chars

def get? (key : String) : Value → Option Value
  | object members => (members.reverse.find? fun m => m.1 == key).map (·.2)
  | _ => none

def items? : Value → Option (List Value)
  | array items => some items
  | _ => none

def string? : Value → Option String
  | string s => some s
  | _ => none

end Value

end PromptGateway.Json
