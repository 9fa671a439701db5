import PromptGateway.Cli.Arguments
import PromptGateway.Text.Blank

/-! # Files of variables

A file in the working directory can set variables of the environment that are not set otherwise.
Each line sets one. Values may be quoted, and may go on over lines within quotes; unless the quotes
are single, other variables are filled in after a dollar sign. What stands before a broken line
still counts.
-/

namespace PromptGateway.Cli.Variables

/-! ## Lines -/

inductive Phase
  | plain
  | escaped
  | blank
  | single
  | singleEscaped
  | double
  | doubleEscaped
  | comment
  deriving DecidableEq, Repr

def Phase.outside : Char → Phase
  | '\\' => .escaped
  | '"' => .double
  | '\'' => .single
  | _ => .plain

def Phase.next (p : Phase) (c : Char) : Phase :=
  match p with
  | .blank => if c = '#' then .comment else outside c
  | .escaped => .plain
  | .plain => if Text.isBlank c ∧ c ≠ '\n' ∧ c ≠ '\r' then .blank else outside c
  | .double => if c = '\\' then .doubleEscaped else if c = '"' then .plain else .double
  | .doubleEscaped => .double
  | .single => if c = '\\' then .singleEscaped else if c = '\'' then .plain else .single
  | .singleEscaped => .single
  | .comment => .comment

/-- Follows a text as far as a comment; what is read is collected in reverse. -/
def follow (p : Phase) (read : List Char) : List Char → Phase × List Char
  | [] => (p, read)
  | c :: rest =>
    match p.next c with
    | .comment => (.comment, read)
    | p => follow p (c :: read) rest

def pieces (piece : List Char) : List Char → List (List Char)
  | [] => if piece = [] then [] else [piece.reverse]
  | '\n' :: rest => ('\n' :: piece).reverse :: pieces [] rest
  | c :: rest => pieces (c :: piece) rest

def withoutBreak : List Char → List Char
  | '\n' :: '\r' :: read => read.reverse
  | '\n' :: read => read.reverse
  | read => read.reverse

def firstMark (text : List Char) : Option Char := (Text.trimStart text).head?

/--
The lines that pieces make up, `none` for one that does not end. `read` is what has been read of the
current line, in reverse.
-/
def linesFrom (p : Phase) (read : List Char) : List (List Char) → List (Option (List Char))
  | [] => if p = .plain then [] else [none]
  | piece :: rest =>
    if firstMark (read.reverse ++ piece) = some '#' then some [] :: linesFrom .plain [] rest
    else
      match follow p read piece with
      | (.plain, read) => some (withoutBreak read) :: linesFrom .plain [] rest
      | (.comment, read) => some read.reverse :: linesFrom .plain [] rest
      | (p, read) => linesFrom p read rest

/-- The lines of a text. A byte order mark in front does not count. -/
def lines (text : List Char) : List (Option (List Char)) :=
  let text := match text with
    | '\uFEFF' :: rest => rest
    | _ => text
  linesFrom .plain [] (pieces [] text)

/-! ## Values -/

inductive Mode
  | plain
  | single
  | double
  | escaped (inDouble : Bool)
  | name (braced inDouble : Bool) (read : List Char)
  | ended
  deriving DecidableEq, Repr

def unescape? : Char → Option Char
  | 'n' => some '\n'
  | c => if "\\'\"$ ".toList.contains c then some c else none

def inDoubleQuotes (value : List Char) : Char → Mode × List Char
  | '"' => (.plain, value)
  | '\\' => (.escaped true, value)
  | '$' => (.name false true [], value)
  | c => (.double, c :: value)

def outsideQuotes (value : List Char) : Char → Mode × List Char
  | '\'' => (.single, value)
  | '"' => (.double, value)
  | '\\' => (.escaped false, value)
  | '$' => (.name false false [], value)
  | ' ' | '\t' => (.ended, value)
  | c => (.plain, c :: value)

def Mode.quoted (inDouble : Bool) : Mode := if inDouble then .double else .plain

/-- The text of a name in reverse, looked up and put in front of a value in reverse. -/
def fill (lookup : String → String) (name value : List Char) : List Char :=
  (lookup (String.ofList name.reverse)).toList.reverse ++ value

def inName (lookup : String → String) (braced inDouble : Bool) (name value : List Char) (c : Char) :
    Mode × List Char :=
  if c.isAlphanum then (.name braced inDouble (c :: name), value)
  else if braced then
    if c = '\x7d' then (.quoted inDouble, fill lookup name value)
    else (.name true inDouble (c :: name), value)
  else if c = '\x7b' ∧ name = [] then (.name true inDouble [], value)
  else if c = '$' then (.name false inDouble [], fill lookup name value)
  else (.quoted inDouble, c :: fill lookup name value)

def valueFrom (lookup : String → String) (mode : Mode) (value : List Char) :
    List Char → Option (List Char)
  | [] =>
    match mode with
    | .plain | .ended | .escaped false => some value.reverse
    | .name false false name => some (fill lookup name value).reverse
    | _ => none
  | c :: rest =>
    match mode with
    | .ended =>
      if c = ' ' ∨ c = '\t' then valueFrom lookup .ended value rest
      else if c = '#' then some value.reverse
      else none
    | .escaped inDouble =>
      match unescape? c with
      | some c => valueFrom lookup (.quoted inDouble) (c :: value) rest
      | none => none
    | .single =>
      if c = '\'' then valueFrom lookup .plain value rest
      else valueFrom lookup .single (c :: value) rest
    | .name braced inDouble name =>
      let (mode, value) := inName lookup braced inDouble name value c
      valueFrom lookup mode value rest
    | .double =>
      let (mode, value) := inDoubleQuotes value c
      valueFrom lookup mode value rest
    | .plain =>
      let (mode, value) := outsideQuotes value c
      valueFrom lookup mode value rest

/-! ## Settings -/

def isNameChar (c : Char) : Bool := c.isAlphanum || c == '_' || c == '.'

/-- The name of a variable at the front of a text, and what follows it and some blanks. -/
def name? (text : List Char) : Option (List Char × List Char) :=
  match text.span isNameChar with
  | (c :: name, rest) =>
    if c.isAlpha ∨ c = '_' then some (c :: name, Text.trimStart rest) else none
  | _ => none

def afterEquals? : List Char → Option (List Char)
  | '=' :: rest => some (Text.trimStart rest)
  | _ => none

def splitLine (text : List Char) : Option (List Char × List Char) := do
  let (name, rest) ← name? text
  match afterEquals? rest with
  | some value => return (name, value)
  | none =>
    if name = "export".toList then
      let (name, rest) ← name? rest
      return (name, ← afterEquals? rest)
    else none

/-- What a line comes to: nothing, a variable with its value, or a fault. -/
inductive Line
  | nothing
  | setting (name value : String)
  | broken
  deriving DecidableEq, Repr

def readLine (lookup : String → String) (line : List Char) : Line :=
  let text := Text.trimChars line
  if text = [] ∨ text.head? = some '#' then .nothing
  else
    match splitLine text with
    | none => .broken
    | some (name, value) =>
      if value = [] ∨ value.head? = some '#' then .setting (String.ofList name) ""
      else
        match valueFrom lookup .plain [] value with
        | some value => .setting (String.ofList name) (String.ofList value)
        | none => .broken

/--
The environment after some lines. A variable that is set already stays as it is; the value in the
file is then kept in `seen`, though no name is looked up there first.
-/
def applyLines (env : Environment) (seen : Environment) : List (Option (List Char)) → Environment
  | [] | none :: _ => env
  | some line :: rest =>
    let lookup (name : String) : String := ((env.lookup name).or (seen.lookup name)).getD ""
    match readLine lookup line with
    | .nothing => applyLines env seen rest
    | .broken => env
    | .setting name value =>
      let env := if (env.lookup name).isSome then env else env ++ [(name, value)]
      applyLines env ((name, value) :: seen) rest

def apply (env : Environment) (file : String) : Environment :=
  applyLines env [] (lines file.toList)

end PromptGateway.Cli.Variables
