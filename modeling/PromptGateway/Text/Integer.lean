import PromptGateway.Text.Ascii

/-! # Decimal integers within bounds

Reading a whole text as a decimal integer, and why that can fail. The digits are read from left to
right, so of two faults the first one in the text is told.
-/

namespace PromptGateway.Text

inductive IntegerFault
  | empty
  | invalidDigit
  | tooLarge
  | tooSmall
  deriving DecidableEq, Repr

def IntegerFault.message : IntegerFault → String
  | .empty => "cannot parse integer from empty string"
  | .invalidDigit => "invalid digit found in string"
  | .tooLarge => "number too large to fit in target type"
  | .tooSmall => "number too small to fit in target type"

/-- Continues a number that is at least zero; no prefix of it may pass `hi`. -/
def readUp (hi : Int) : Int → List Char → Except IntegerFault Int
  | n, [] => .ok n
  | n, c :: rest =>
    if isDigit c then
      let n := n * 10 + digitValue c
      if n ≤ hi then readUp hi n rest else .error .tooLarge
    else .error .invalidDigit

/-- Continues a number that is at most zero; no prefix of it may pass `lo`. -/
def readDown (lo : Int) : Int → List Char → Except IntegerFault Int
  | n, [] => .ok n
  | n, c :: rest =>
    if isDigit c then
      let n := n * 10 - digitValue c
      if lo ≤ n then readDown lo n rest else .error .tooSmall
    else .error .invalidDigit

/--
Reads an integer between `lo` and `hi`. One sign may stand in front; a minus only where negative
numbers are within the bounds.
-/
def readInteger (lo hi : Int) : List Char → Except IntegerFault Int
  | [] => .error .empty
  | ['+'] => .error .invalidDigit
  | ['-'] => .error .invalidDigit
  | '+' :: digits => readUp hi 0 digits
  | '-' :: digits => if lo < 0 then readDown lo 0 digits else .error .invalidDigit
  | digits => readUp hi 0 digits

def readInt32 (cs : List Char) : Except IntegerFault Int32 :=
  (readInteger (-2147483648) 2147483647 cs).map Int32.ofInt

def readInt64 (cs : List Char) : Except IntegerFault Int64 :=
  (readInteger (-9223372036854775808) 9223372036854775807 cs).map Int64.ofInt

def readNat (hi : Nat) (cs : List Char) : Except IntegerFault Nat :=
  (readInteger 0 hi cs).map Int.toNat

end PromptGateway.Text
