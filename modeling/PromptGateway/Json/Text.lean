import PromptGateway.Json.Cursor

/-! # JSON texts

Lists and objects as loops over their parts, the values of a text, and passing over a value that
nobody asks for. A loop that reads parts takes the number of symbols left as its measure, for each
part takes at least one.
-/

namespace PromptGateway.Json

open Utf8 (Symbol)

/-- How many lists and objects may lie within each other. -/
def maxDepth : Nat := 127

/-- Whether another item of a list follows, and the cursor before it. -/
def nextItem (first : Bool) (c : Cursor) : Except Failure (Bool × Cursor) :=
  let c := c.skipSpace
  match c.next? with
  | none => .error (c.flawNext .endInList)
  | some (.char ']') => .ok (false, c)
  | some s =>
    if first then .ok (true, c)
    else if s = .char ',' then
      let c := c.drop.skipSpace
      match c.next? with
      | none => .error (c.flawNext .endInValue)
      | some (.char ']') => .error (c.flawNext .trailingComma)
      | some _ => .ok (true, c)
    else .error (c.flawNext .expectedListEnd)

/-- Whether another member of an object follows, and the cursor before its name. -/
def nextMember (first : Bool) (c : Cursor) : Except Failure (Bool × Cursor) :=
  let c := c.skipSpace
  match c.next? with
  | none => .error (c.flawNext .endInObject)
  | some (.char '\x7d') => .ok (false, c)
  | some s =>
    if first then
      if s = .char '"' then .ok (true, c) else .error (c.flawNext .keyNotString)
    else if s = .char ',' then
      let c := c.drop.skipSpace
      match c.next? with
      | none => .error (c.flawNext .endInValue)
      | some (.char '"') => .ok (true, c)
      | some (.char '\x7d') => .error (c.flawNext .trailingComma)
      | some _ => .error (c.flawNext .keyNotString)
    else .error (c.flawNext .expectedObjectEnd)

def readColon (c : Cursor) : Except Failure Cursor :=
  let c := c.skipSpace
  match c.next? with
  | none => .error (c.flawNext .endInObject)
  | some (.char ':') => .ok c.drop
  | some _ => .error (c.flawNext .expectedColon)

/-- Reads the bracket that ends a list of which no more items are wanted. -/
def closeList (c : Cursor) : Except Failure Cursor :=
  let c := c.skipSpace
  match c.next? with
  | none => .error (c.flawNext .endInList)
  | some (.char ']') => .ok c.drop
  | some (.char ',') =>
    let c := c.drop.skipSpace
    match c.next? with
    | some (.char ']') => .error (c.flawNext .trailingComma)
    | _ => .error (c.flawNext .trailingCharacters)
  | some _ => .error (c.flawNext .trailingCharacters)

/-- Reads the brace that ends an object of which no more members are wanted. -/
def closeObject (c : Cursor) : Except Failure Cursor :=
  let c := c.skipSpace
  match c.next? with
  | none => .error (c.flawNext .endInObject)
  | some (.char '\x7d') => .ok c.drop
  | some (.char ',') => .error (c.flawNext .trailingComma)
  | some _ => .error (c.flawNext .trailingCharacters)

/-- The place after an attempt to close a list or an object, where a failure without one is told. -/
def placeAfter (close : Cursor → Except Failure Cursor) (c : Cursor) : Position :=
  match close c with
  | .ok c => c.position
  | .error _ => c.skipSpace.position

/--
Reads the items of a list after its bracket, `item` reading the one at an index. The items read
before are kept in reverse.
-/
def readItems {α : Type} (item : Nat → Cursor → Except Failure (α × Cursor)) (read : List α) :
    Nat → Cursor → Except Failure (List α × Cursor)
  | 0, c => .error (c.flawNext .endInList)
  | measure + 1, c => do
    let (more, c) ← nextItem read.isEmpty c
    if more then
      let (a, c) ← (item read.length c).mapError (·.under (.index read.length))
      readItems item (a :: read) measure c
    else return (read.reverse, c)

/--
Reads the members of an object after its brace. `member` reads the value of a name, from the cursor
before the colon, into the state that collects the values.
-/
def readMembers {σ : Type} (member : String → σ → Cursor → Except Failure (σ × Cursor))
    (first : Bool) (state : σ) : Nat → Cursor → Except Failure (σ × Cursor)
  | 0, c => .error (c.flawNext .endInObject)
  | measure + 1, c => do
    let (more, c) ← (nextMember first c).mapError (·.under .unnamed)
    if more then
      let (key, c) ← (readString c.drop).mapError (·.under .unnamed)
      let (state, c) ← member key state c
      readMembers member false state measure c
    else return (state, c)

/-- Reads a value; at most `depth` lists and objects may lie within each other. -/
def readValue : Nat → Cursor → Except Failure (Value × Cursor)
  | depth, c =>
    let c := c.skipSpace
    match c.next? with
    | none => .error (c.flawNext .endInValue)
    | some (.stray _) => .error (c.flawNext .expectedValue)
    | some (.char ch) =>
      if ch = 'n' then (Cursor.word ['u', 'l', 'l'] c.drop).map (.null, ·)
      else if ch = 't' then (Cursor.word ['r', 'u', 'e'] c.drop).map (.bool true, ·)
      else if ch = 'f' then (Cursor.word ['a', 'l', 's', 'e'] c.drop).map (.bool false, ·)
      else if ch = '-' then (readNumber true c.drop).map fun (n, c) => (.number n, c)
      else if Text.isDigit ch then (readNumber false c).map fun (n, c) => (.number n, c)
      else if ch = '"' then (readString c.drop).map fun (s, c) => (.string s, c)
      else if ch = '[' then
        match depth with
        | 0 => .error (c.flawNext .tooDeep)
        | depth + 1 => do
          let (items, after) ← readItems (fun _ => readValue depth) [] c.rest.length c.drop
          return (.array items, ← closeList after)
      else if ch = '\x7b' then
        match depth with
        | 0 => .error (c.flawNext .tooDeep)
        | depth + 1 => do
          let member (key : String) (read : List (String × Value)) (c : Cursor) := do
            let (v, c) ← readValue depth (← readColon c)
            return ((key, v) :: read, c)
          let (members, after) ← readMembers member true [] c.rest.length c.drop
          return (.object members.reverse, ← closeObject after)
      else .error (c.flawNext .expectedValue)

def atEnd (c : Cursor) : Except Failure Unit :=
  let c := c.skipSpace
  if c.rest.isEmpty then .ok () else .error (c.flawNext .trailingCharacters)

def Value.read (c : Cursor) : Except Failure Value := do
  let (v, c) ← readValue maxDepth c
  atEnd c
  return v

/-! ## Passing over values -/

/-- A list or an object that is not closed yet. -/
inductive Open
  | list
  | object
  deriving DecidableEq

def Open.endFlaw : Open → Flaw
  | .list => .endInList
  | .object => .endInObject

def Open.commaFlaw : Open → Flaw
  | .list => .expectedListEnd
  | .object => .expectedObjectEnd

def Open.closer : Open → Char
  | .list => ']'
  | .object => '\x7d'

/-- Passes over a value that is neither a list nor an object. -/
def skipScalar (ch : Char) (c : Cursor) : Except Failure Cursor :=
  if ch = 'n' then Cursor.word ['u', 'l', 'l'] c.drop
  else if ch = 't' then Cursor.word ['r', 'u', 'e'] c.drop
  else if ch = 'f' then Cursor.word ['a', 'l', 's', 'e'] c.drop
  else if ch = '-' then (readNumeral false true c.drop).map (·.2)
  else if Text.isDigit ch then (readNumeral false false c).map (·.2)
  else if ch = '"' then skipString c.drop
  else .error (c.flawNext .expectedValue)

/-- Passes over the name of a member and its colon. -/
def skipName (c : Cursor) : Except Failure Cursor :=
  let c := c.skipSpace
  match c.next? with
  | none => .error (c.flawNext .endInObject)
  | some (.char '"') => do readColon (← skipString c.drop)
  | some _ => .error (c.flawNext .keyNotString)

/-- Where passing over a value stands: before a value, or behind one or behind an opening. -/
inductive SkipState
  | before
  | behind (comma : Bool)

/--
Passes over a value of any depth: `enclosing` are the lists and objects that are not closed yet, the
innermost first. Behind a value a comma has to come before the next one; behind an opening none may.
-/
def skipFrom (state : SkipState) (enclosing : List Open) : Nat → Cursor → Except Failure Cursor
  | 0, c => .error (c.flawNext .endInValue)
  | measure + 1, start =>
    let c := start.skipSpace
    match state with
    | .before =>
      match c.next? with
      | none => .error (c.flawNext .endInValue)
      | some (.char '[') => skipFrom (.behind false) (.list :: enclosing) measure c.drop
      | some (.char '\x7b') => skipFrom (.behind false) (.object :: enclosing) measure c.drop
      | some (.char ch) => do skipFrom (.behind true) enclosing measure (← skipScalar ch c)
      | some (.stray _) => .error (c.flawNext .expectedValue)
    | .behind comma =>
      match enclosing with
      | [] => .ok start
      | outer :: others =>
        let enter (c : Cursor) : Except Failure Cursor :=
          if outer = .object then skipName c else .ok c
        match c.next? with
        | none => .error (c.flawNext outer.endFlaw)
        | some s =>
          if s = .char outer.closer then skipFrom (.behind true) others measure c.drop
          else if comma then
            if s = .char ',' then do skipFrom .before enclosing measure (← enter c.drop)
            else .error (c.flawNext outer.commaFlaw)
          else do skipFrom .before enclosing measure (← enter c)

def skipValue (c : Cursor) : Except Failure Cursor :=
  skipFrom .before [] (2 * c.rest.length + 2) c

end PromptGateway.Json
