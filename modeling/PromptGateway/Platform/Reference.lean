import PromptGateway.Text.Blank
import PromptGateway.Text.Search
import PromptGateway.Text.Integer

/-! # References to platforms

A platform is referred to by its number alone, or by its name: the number after the name of the
collection.
-/

namespace PromptGateway.Reference

def collection : String := "ai-platforms"

def name (id : Int32) : String := collection ++ "/" ++ toString id.toInt

inductive Fault
  | format (given : String)
  | number (given : String) (fault : Text.IntegerFault)
  deriving DecidableEq, Repr

def Fault.message : Fault → String
  | .format given =>
    "invalid resource name '" ++ given ++ "', expected '" ++ collection ++ "/\x7bid\x7d'"
  | .number given fault => "invalid platform id '" ++ given ++ "': " ++ fault.message

def readNumber (cs : List Char) : Except Fault Int32 :=
  (Text.readInt32 cs).mapError (.number (String.ofList cs))

def readTrimmed (cs : List Char) : Except Fault Int32 :=
  match Text.splitAt '/' cs with
  | [digits] =>
    if digits ≠ [] ∧ digits.all Text.isDigit then readNumber digits
    else .error (.format (String.ofList cs))
  | [parent, number] =>
    if parent = collection.toList then readNumber number else .error (.format (String.ofList cs))
  | _ => .error (.format (String.ofList cs))

/-- The number of the platform that a text refers to; blanks around the text do not count. -/
def read (s : String) : Except Fault Int32 := readTrimmed (Text.trimChars s.toList)

end PromptGateway.Reference
