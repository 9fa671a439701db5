import PromptGateway.Encoding.Utf8
import PromptGateway.Text.Ascii

/-! # Media types

A media type is a type and a subtype, and after semicolons parameters with values that may be
quoted. The part of the subtype behind its last plus sign names the syntax that it is built on.
-/

namespace PromptGateway

/-- A media type. Its parts are in small letters. -/
structure MediaType where
  type : String
  subtype : String
  suffix? : Option String := none
  parameters : List (String × String) := []
  deriving DecidableEq, Repr

namespace MediaType

def isTokenChar (c : Char) : Bool :=
  c.isAlphanum || "!#$%&'*+-.^_`|~".toList.contains c

def isQuotedChar (c : Char) : Bool := 31 < c.toNat && c.toNat != 127

/-- A nonempty token at the front of a text. -/
def token (text : List Char) : Option (List Char × List Char) :=
  match text.span isTokenChar with
  | ([], _) => none
  | parts => some parts

/-- The value of a parameter, and what follows it. A quoted value has at least one character. -/
def parameterValue : List Char → Option (List Char × List Char)
  | '"' :: c :: text =>
    if isQuotedChar c then
      match text.span fun c => isQuotedChar c && c != '"' with
      | (value, '"' :: rest) => some (c :: value, rest.dropWhile (· == ' '))
      | _ => none
    else none
  | text =>
    let (value, rest) := text.span isTokenChar
    if value = [] ∧ rest ≠ [] then none else some (value, rest)

/-- The parameters of a text that follows a semicolon. The measure bounds their number. -/
def parametersOf (text : List Char) : Nat → Option (List (String × String))
  | 0 => none
  | measure + 1 =>
    match text.dropWhile (· == ' ') with
    | [] => some []
    | text => do
      let (name, rest) ← token text
      let rest ← match rest with
        | '=' :: rest => some rest
        | _ => none
      let (value, rest) ← parameterValue rest
      let parameter := (Text.lower (String.ofList name), String.ofList value)
      match rest with
      | [] => return [parameter]
      | ';' :: rest => return parameter :: (← parametersOf rest measure)
      | _ => none

/-- The parts of a subtype before and behind its last plus sign; one in front does not count. -/
def splitSubtype (text : List Char) : List Char × Option (List Char) :=
  let suffix := (text.reverse.takeWhile (· != '+')).reverse
  let stem := text.take (text.length - suffix.length - 1)
  if stem = [] then (text, none) else (stem, some suffix)

def read? (text : List Char) : Option MediaType := do
  let (type, rest) ← token text
  let rest ← match rest with
    | '/' :: rest => some rest
    | _ => none
  let (subtype, rest) ← token rest
  let parameters ← match rest with
    | [] => some []
    | ';' :: rest => parametersOf rest (rest.length + 1)
    | _ => none
  let (stem, suffix?) := splitSubtype subtype
  let name (cs : List Char) := Text.lower (String.ofList cs)
  return { type := name type, subtype := name stem, suffix? := suffix?.map name, parameters }

def parameter? (m : MediaType) (name : String) : Option String :=
  (m.parameters.find? (·.1 == name)).map (·.2)

def isJson (m : MediaType) : Bool :=
  m.type == "application" && (m.subtype == "json" || m.suffix? == some "json")

end MediaType

/-- Whether a text can stand in a header: it has no controls but tabs. -/
def isHeaderValue (text : String) : Bool :=
  (Utf8.encode text).all fun b => b == 9 || (32 ≤ b && b != 127)

def isHeaderText (text : List Char) : Bool :=
  text.all fun c => c == '\t' || (32 ≤ c.toNat && c.toNat < 127)

end PromptGateway
