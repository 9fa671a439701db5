import PromptGateway.Json.Value
import PromptGateway.Text.Quoted

/-! # Why a text is not read

The flaws of a text that is read as JSON, either as such or as a record of a given shape. A failure
is a flaw together with the place where it was found: a line and a column of the text, and the way
from the outermost value down to the one that was being read.
-/

namespace PromptGateway.Json

inductive Found
  | null
  | bool (b : Bool)
  | number (n : Number)
  | string (s : String)
  | array
  | object

def Found.text : Found → String
  | .null => "null"
  | .bool b => s!"boolean `{b}`"
  | .number (.integer n) => s!"integer `{n}`"
  | .number (.real x) => "floating point `" ++ String.ofList (realChars x) ++ "`"
  | .string s => "string " ++ Text.quoted s
  | .array => "sequence"
  | .object => "map"

def Value.found : Value → Found
  | null => .null
  | bool b => .bool b
  | number n => .number n
  | string s => .string s
  | array _ => .array
  | object _ => .object

inductive Flaw
  | endInList
  | endInObject
  | endInString
  | endInValue
  | expectedColon
  | expectedListEnd
  | expectedObjectEnd
  | expectedLiteral
  | expectedValue
  | invalidEscape
  | invalidNumber
  | numberOutOfRange
  | invalidCodePoint
  | controlCharacter
  | keyNotString
  | loneSurrogate
  | trailingComma
  | trailingCharacters
  | unfinishedSurrogate
  | tooDeep
  | wrongType (found : Found) (expected : String)
  | wrongValue (found : Found) (expected : String)
  | wrongLength (size : Nat) (expected : String)
  | unknownTag (tag : String) (known : List String)
  | unknownKey (key : String) (known : List String)
  | missingKey (key : String)
  | repeatedKey (key : String)
  | refused (reason : String)

/-- Names between backquotes, as alternatives. -/
def alternatives (names : List String) : String :=
  let shown := names.map fun name => s!"`{name}`"
  match shown with
  | [] => "there are none"
  | [a] => "expected " ++ a
  | [a, b] => "expected " ++ a ++ " or " ++ b
  | _ => "expected one of " ++ String.intercalate ", " shown

def Flaw.message : Flaw → String
  | .endInList => "EOF while parsing a list"
  | .endInObject => "EOF while parsing an object"
  | .endInString => "EOF while parsing a string"
  | .endInValue => "EOF while parsing a value"
  | .expectedColon => "expected `:`"
  | .expectedListEnd => "expected `,` or `]`"
  | .expectedObjectEnd => "expected `,` or `\x7d`"
  | .expectedLiteral => "expected ident"
  | .expectedValue => "expected value"
  | .invalidEscape => "invalid escape"
  | .invalidNumber => "invalid number"
  | .numberOutOfRange => "number out of range"
  | .invalidCodePoint => "invalid unicode code point"
  | .controlCharacter => "control character (\\u0000-\\u001F) found while parsing a string"
  | .keyNotString => "key must be a string"
  | .loneSurrogate => "lone leading surrogate in hex escape"
  | .trailingComma => "trailing comma"
  | .trailingCharacters => "trailing characters"
  | .unfinishedSurrogate => "unexpected end of hex escape"
  | .tooDeep => "recursion limit exceeded"
  | .wrongType found expected => "invalid type: " ++ found.text ++ ", expected " ++ expected
  | .wrongValue found expected => "invalid value: " ++ found.text ++ ", expected " ++ expected
  | .wrongLength size expected => s!"invalid length {size}, expected " ++ expected
  | .unknownTag tag known => s!"unknown variant `{tag}`, " ++ alternatives known
  | .unknownKey key known => s!"unknown field `{key}`, " ++ alternatives known
  | .missingKey key => s!"missing field `{key}`"
  | .repeatedKey key => s!"duplicate field `{key}`"
  | .refused reason => reason

/-- Whether the text is JSON, as far as it was read, and only holds the wrong data. -/
def Flaw.concernsData : Flaw → Bool
  | .wrongType .. | .wrongValue .. | .wrongLength .. | .unknownTag .. | .unknownKey ..
  | .missingKey .. | .repeatedKey .. | .refused .. => true
  | _ => false

/-- A place in a text: lines count from one, columns are the bytes that lie before it. -/
structure Position where
  line : Nat := 1
  column : Nat := 0
  deriving DecidableEq, Repr

/-- A step from a value to a part of it; a member whose name has not been read is unnamed. -/
inductive Segment
  | key (name : String)
  | index (i : Nat)
  | tag (name : String)
  | unnamed
  deriving DecidableEq, Repr

/-- The steps to a part of a value: names with points between them, indices in brackets. -/
def pathText : List Segment → String
  | [] => ""
  | segment :: rest =>
    let shown := match segment with
      | .key name | .tag name => name
      | .index i => s!"[{i}]"
      | .unnamed => "?"
    let joint := match rest with
      | [] | .index _ :: _ => ""
      | _ => "."
    shown ++ joint ++ pathText rest

structure Failure where
  flaw : Flaw
  position? : Option Position := none
  path : List Segment := []

def Failure.message (f : Failure) : String :=
  match f.position? with
  | some p => f.flaw.message ++ s!" at line {p.line} column {p.column}"
  | none => f.flaw.message

/-- The wording of a failure, with the path in front if it names anything. -/
def Failure.locatedMessage (f : Failure) : String :=
  if f.path.all (· == .unnamed) then f.message else pathText f.path ++ ": " ++ f.message

/-- The failure seen from one step further out. -/
def Failure.under (segment : Segment) (f : Failure) : Failure :=
  { f with path := segment :: f.path }

end PromptGateway.Json
