import PromptGateway.Json.Text
import PromptGateway.Moment.Reader
import PromptGateway.Text.Integer

/-! # Shapes

The shape of a record says which members its JSON form has and what they hold. Reading a text,
reading a parsed value and writing all follow the shape, so what is written can be read back.
-/

namespace PromptGateway.Json

open Utf8 (Symbol)

inductive Width
  | word32
  | int32
  | int64
  deriving DecidableEq, Repr

namespace Width

abbrev Carrier : Width → Type
  | word32 => UInt32
  | int32 => Int32
  | int64 => Int64

def name : Width → String
  | word32 => "u32"
  | int32 => "i32"
  | int64 => "i64"

def ofInt? : (w : Width) → Int → Option w.Carrier
  | word32, n => if 0 ≤ n ∧ n < 4294967296 then some (UInt32.ofNat n.toNat) else none
  | int32, n => if -2147483648 ≤ n ∧ n < 2147483648 then some (Int32.ofInt n) else none
  | int64, n =>
    if -9223372036854775808 ≤ n ∧ n < 9223372036854775808 then some (Int64.ofInt n) else none

def toInt : (w : Width) → w.Carrier → Int
  | word32, n => n.toNat
  | int32, n => n.toInt
  | int64, n => n.toInt

def zero : (w : Width) → w.Carrier
  | word32 => (0 : UInt32)
  | int32 => (0 : Int32)
  | int64 => (0 : Int64)

end Width

/-- Whether a member has to be there, or has a value when it is not. -/
inductive Presence
  | required
  | defaulted
  deriving DecidableEq, Repr

mutual

/-- What a value holds. -/
inductive Shape
  | text
  | flag
  | number (w : Width)
  | moment
  | tag (first : String) (others : List String)
  | optional (s : Shape)
  | list (s : Shape)
  | record (name : String) (strict : Bool) (fields : Fields)

inductive Fields
  | nil
  | cons (key : String) (presence : Presence) (shape : Shape) (rest : Fields)

end

mutual

@[reducible] def Shape.Carrier : Shape → Type
  | .text => String
  | .flag => Bool
  | .number w => w.Carrier
  | .moment => Moment
  | .tag _ others => Fin (others.length + 1)
  | .optional s => Option s.Carrier
  | .list s => List s.Carrier
  | .record _ _ fields => fields.Carrier

/-- The values of the members of a record, one beside the other. -/
@[reducible] def Fields.Carrier : Fields → Type
  | .nil => Unit
  | .cons _ _ s rest => s.Carrier × rest.Carrier

end

/-- The values of the members that have been read so far. -/
@[reducible] def Fields.Slots : Fields → Type
  | .nil => Unit
  | .cons _ _ s rest => Option s.Carrier × rest.Slots

mutual

/-- The value of a member that is left out. -/
def Shape.default : (s : Shape) → s.Carrier
  | .text => ""
  | .flag => false
  | .number w => w.zero
  | .moment => Moment.epoch
  | .tag _ _ => ⟨0, by omega⟩
  | .optional _ => none
  | .list _ => []
  | .record _ _ fields => fields.default

def Fields.default : (fields : Fields) → fields.Carrier
  | .nil => ()
  | .cons _ _ s rest => (s.default, rest.default)

end

namespace Fields

def keys : Fields → List String
  | .nil => []
  | .cons key _ _ rest => key :: rest.keys

def noSlots : (fields : Fields) → fields.Slots
  | .nil => ()
  | .cons _ _ _ rest => (none, rest.noSlots)

/-- The value of a member that is left out, if it may be. -/
def absent? : Presence → (s : Shape) → Option s.Carrier
  | .defaulted, s => some s.default
  | .required, .optional _ => some none
  | .required, _ => none

/-- The values of all members, or the first one that is missing. -/
def fill : (fields : Fields) → fields.Slots → Except Flaw fields.Carrier
  | .nil, () => .ok ()
  | .cons key presence s rest, (slot, slots) =>
    match slot.or (absent? presence s) with
    | some v => (rest.fill slots).map fun vs => (v, vs)
    | none => .error (.missingKey key)

end Fields

/-- What a list of a record's values should have been. -/
def sizedName (name : String) (fields : Fields) : String :=
  let size := fields.keys.length
  s!"struct {name} with {size} " ++ if size = 1 then "element" else "elements"

/-! ## Reading texts -/

def mismatch (expected : String) (c : Cursor) : Failure :=
  let told (found : Except Failure (Found × Cursor)) : Failure :=
    match found with
    | .ok (found, c) => c.flawHere (.wrongType found expected)
    | .error failure => failure
  match c.next? with
  | none => c.flawNext .endInValue
  | some (.stray _) => c.flawNext .expectedValue
  | some (.char ch) =>
    if ch = 'n' then told ((Cursor.word ['u', 'l', 'l'] c.drop).map (.null, ·))
    else if ch = 't' then told ((Cursor.word ['r', 'u', 'e'] c.drop).map (.bool true, ·))
    else if ch = 'f' then told ((Cursor.word ['a', 'l', 's', 'e'] c.drop).map (.bool false, ·))
    else if ch = '-' then told ((readNumber true c.drop).map fun (n, c) => (.number n, c))
    else if Text.isDigit ch then told ((readNumber false c).map fun (n, c) => (.number n, c))
    else if ch = '"' then told ((readString c.drop).map fun (s, c) => (.string s, c))
    else if ch = '[' then c.flawHere (.wrongType .array expected)
    else if ch = '\x7b' then c.flawHere (.wrongType .object expected)
    else c.flawNext .expectedValue

def readTextAs {α : Type} (expected : String) (meaning : String → Except Flaw α) (c : Cursor) :
    Except Failure (α × Cursor) :=
  let c := c.skipSpace
  if c.next? = some (.char '"') then do
    let (s, c) ← readString c.drop
    return (← (meaning s).mapError c.flawHere, c)
  else .error (mismatch expected c)

def readFlag (c : Cursor) : Except Failure (Bool × Cursor) :=
  let c := c.skipSpace
  match c.next? with
  | some (.char 't') => (Cursor.word ['r', 'u', 'e'] c.drop).map (true, ·)
  | some (.char 'f') => (Cursor.word ['a', 'l', 's', 'e'] c.drop).map (false, ·)
  | _ => .error (mismatch "a boolean" c)

/-- The whole number of a size that a number is. -/
def Width.ofNumber (w : Width) : Number → Except Flaw w.Carrier
  | .integer n =>
    match w.ofInt? n with
    | some v => .ok v
    | none => .error (.wrongValue (.number (.integer n)) w.name)
  | n => .error (.wrongType (.number n) w.name)

def readWhole (w : Width) (c : Cursor) : Except Failure (w.Carrier × Cursor) :=
  let c := c.skipSpace
  let take (r : Except Failure (Number × Cursor)) : Except Failure (w.Carrier × Cursor) := do
    let (n, c) ← r
    return (← (w.ofNumber n).mapError c.flawHere, c)
  match c.next? with
  | some (.char ch) =>
    if ch = '-' then take (readNumber true c.drop)
    else if Text.isDigit ch then take (readNumber false c)
    else .error (mismatch w.name c)
  | _ => .error (mismatch w.name c)

def readNull (c : Cursor) : Except Failure Cursor :=
  let c := c.skipSpace
  if c.next? = some (.char 'n') then Cursor.word ['u', 'l', 'l'] c.drop
  else .error (mismatch "unit" c)

def tagOf (first : String) (others : List String) (s : String) :
    Except Flaw (Fin (others.length + 1)) :=
  match (first :: others).findFinIdx? (· == s) with
  | some i => .ok ⟨i, i.isLt⟩
  | none => .error (.unknownTag s (first :: others))

/-- Reads a tag: a string, or an object whose one member has the tag for its name and no value. -/
def readTag (first : String) (others : List String) (depth : Nat) (c : Cursor) :
    Except Failure (Fin (others.length + 1) × Cursor) :=
  let c := c.skipSpace
  let name := readTextAs "variant identifier" (tagOf first others)
  match c.next? with
  | none => .error (c.flawNext .endInValue)
  | some (.char '"') => name c
  | some (.char '\x7b') =>
    match depth with
    | 0 => .error (c.flawNext .tooDeep)
    | _ + 1 => do
      let c := c.drop.skipSpace
      let (i, c) ← match c.next? with
        | none => .error (c.flawNext .endInObject)
        | some (.char '"') => name c
        | some (.char '\x7d') => .error (c.flawNext .expectedValue)
        | some _ => .error (c.flawNext .keyNotString)
      let c ← readColon c
      let c ← (readNull c).mapError (·.under (.tag ((first :: others).getD i "")))
      let c := c.skipSpace
      match c.next? with
      | some (.char '\x7d') => .ok (i, c.drop)
      | some _ => .error (c.flawHere .expectedValue)
      | none => .error (c.flawHere .endInObject)
  | some _ => .error (c.flawNext .expectedValue)

/-- The flaw of an object, told at the place behind its end where there is one. -/
def flawInObject (c : Cursor) (flaw : Flaw) : Failure :=
  { flaw, position? := some (placeAfter closeObject c) }

/-- Reads a member that the record does not have. -/
def readUnknown (strict : Bool) (fields : Fields) (key : String) (c : Cursor) :
    Except Failure Cursor :=
  if strict then .error (flawInObject c (.unknownKey key fields.keys))
  else do (skipValue (← readColon c)).mapError (·.under (.key key))

mutual

/-- Reads a value of a shape; at most `depth` lists and objects may lie within each other. -/
def Shape.read : (s : Shape) → Nat → Cursor → Except Failure (s.Carrier × Cursor)
  | .text, _, c => readTextAs "a string" .ok c
  | .flag, _, c => readFlag c
  | .number w, _, c => readWhole w c
  | .moment, _, c =>
    readTextAs "an RFC 3339 formatted date and time string"
      (fun s => (Moment.read s).mapError fun fault => .refused fault.message) c
  | .tag first others, depth, c => readTag first others depth c
  | .optional s, depth, c =>
    let c := c.skipSpace
    if c.next? = some (.char 'n') then
      (Cursor.word ['u', 'l', 'l'] c.drop).map (none, ·)
    else (s.read depth c).map fun (v, c) => (some v, c)
  | .list s, depth, c =>
    let c := c.skipSpace
    if c.next? = some (.char '[') then
      match depth with
      | 0 => .error (c.flawNext .tooDeep)
      | depth + 1 => do
        let (items, after) ← readItems (fun _ => s.read depth) [] c.rest.length c.drop
        return (items, ← closeList after)
    else .error (mismatch "a sequence" c)
  | .record name strict fields, depth, c =>
    let c := c.skipSpace
    if c.next? = some (.char '[') then
      match depth with
      | 0 => .error (c.flawNext .tooDeep)
      | depth + 1 => do
        let (values, after) ← fields.readList (sizedName name fields) 0 depth c.drop
        return (values, ← closeList after)
    else if c.next? = some (.char '\x7b') then
      match depth with
      | 0 => .error (c.flawNext .tooDeep)
      | depth + 1 => do
        let member (key : String) (slots : fields.Slots) (c : Cursor) :
            Except Failure (fields.Slots × Cursor) :=
          match fields.readMember key slots depth c with
          | some reading => reading
          | none => (readUnknown strict fields key c).map (slots, ·)
        let (slots, after) ← readMembers member true fields.noSlots c.rest.length c.drop
        let values ← (fields.fill slots).mapError (flawInObject after)
        return (values, ← closeObject after)
    else .error (mismatch s!"struct {name}" c)

/-- Reads the value of a member by its name, from the cursor before the colon. -/
def Fields.readMember :
    (fields : Fields) → String → fields.Slots → Nat → Cursor →
      Option (Except Failure (fields.Slots × Cursor))
  | .nil, _, _, _, _ => none
  | .cons name _ s rest, key, (slot, slots), depth, c =>
    if key = name then
      match slot with
      | some _ => some (.error (flawInObject c (.repeatedKey key)))
      | none =>
        some do
          let (v, c) ← (s.read depth (← readColon c)).mapError (·.under (.key key))
          return ((some v, slots), c)
    else
      (rest.readMember key slots depth c).map fun reading =>
        reading.map fun (slots, c) => ((slot, slots), c)

/-- Reads the values of the members as a list in their order; defaulted ones may lack at its end. -/
def Fields.readList :
    (fields : Fields) → String → Nat → Nat → Cursor → Except Failure (fields.Carrier × Cursor)
  | .nil, _, _, _, c => .ok ((), c)
  | .cons _ presence s rest, expected, index, depth, c => do
    let (more, c) ← nextItem (index == 0) c
    let (v, c) ←
      if more then (s.read depth c).mapError (·.under (.index index))
      else if presence = .defaulted then .ok (s.default, c)
      else
        .error { flaw := .wrongLength index expected, position? := some (placeAfter closeList c) }
    let (vs, c) ← rest.readList expected (index + 1) depth c
    return ((v, vs), c)

end

def Shape.readAll (s : Shape) (c : Cursor) : Except Failure s.Carrier := do
  let (v, c) ← s.read maxDepth c
  atEnd c
  return v

/-! ## Reading parsed values -/

/-- The flaw of a parsed value that is not the expected one. -/
def Value.mismatch (expected : String) (v : Value) : Failure :=
  { flaw := .wrongType v.found expected }

/-- The last member for each name, in the order of the names. -/
def sortedMembers (members : List (String × Value)) : List (String × Value) :=
  let distinct := members.foldr
    (fun m kept => if kept.any (·.1 == m.1) then kept else m :: kept) []
  distinct.mergeSort fun a b => a.1 ≤ b.1

def tagOfValue (first : String) (others : List String) :
    Value → Except Failure (Fin (others.length + 1))
  | .string s => (tagOf first others s).mapError ({ flaw := · })
  | .object members =>
    match sortedMembers members with
    | [(key, v)] => do
      let i ← (tagOf first others key).mapError fun flaw => { flaw }
      match v with
      | .null => return i
      | v => throw (v.mismatch "unit")
    | _ => .error { flaw := .wrongValue .object "map with a single key" }
  | v => .error (v.mismatch "string or map")

mutual

/-- The value of a shape that a parsed value stands for. -/
def Shape.ofValue : (s : Shape) → Value → Except Failure s.Carrier
  | .text, v =>
    match v with
    | .string s => .ok s
    | v => .error (v.mismatch "a string")
  | .flag, v =>
    match v with
    | .bool b => .ok b
    | v => .error (v.mismatch "a boolean")
  | .number w, v =>
    match v with
    | .number n => (w.ofNumber n).mapError ({ flaw := · })
    | v => .error (v.mismatch w.name)
  | .moment, v =>
    match v with
    | .string s => (Moment.read s).mapError fun fault => { flaw := .refused fault.message }
    | v => .error (v.mismatch "an RFC 3339 formatted date and time string")
  | .tag first others, v => tagOfValue first others v
  | .optional s, v =>
    match v with
    | .null => .ok none
    | v => (s.ofValue v).map some
  | .list s, v =>
    match v with
    | .array items => items.mapM s.ofValue
    | v => .error (v.mismatch "a sequence")
  | .record name strict fields, v =>
    match v with
    | .array items =>
      match fields.ofItems (sizedName name fields) 0 items with
      | .error failure => .error failure
      | .ok (values, []) => .ok values
      | .ok _ =>
        .error { flaw := .wrongLength items.length "fewer elements in array" }
    | .object members => do
      let slots ← (sortedMembers members).foldlM
        (fun slots (key, v) =>
          match fields.ofMember key slots v with
          | some result => result
          | none => if strict then .error { flaw := .unknownKey key fields.keys } else .ok slots)
        fields.noSlots
      (fields.fill slots).mapError ({ flaw := · })
    | v => .error (v.mismatch s!"struct {name}")

def Fields.ofMember :
    (fields : Fields) → String → fields.Slots → Value → Option (Except Failure fields.Slots)
  | .nil, _, _, _ => none
  | .cons name _ s rest, key, (slot, slots), v =>
    if key = name then
      match slot with
      | some _ => some (.error { flaw := .repeatedKey key })
      | none => some ((s.ofValue v).map fun v => (some v, slots))
    else (rest.ofMember key slots v).map fun result => result.map fun slots => (slot, slots)

/-- Takes the values of the members from a list, and returns the items left over. -/
def Fields.ofItems :
    (fields : Fields) → String → Nat → List Value → Except Failure (fields.Carrier × List Value)
  | .nil, _, _, items => .ok ((), items)
  | .cons _ presence s rest, expected, index, items => do
    let (v, items) ←
      match items with
      | v :: items => (s.ofValue v).map (·, items)
      | [] =>
        if presence = .defaulted then .ok (s.default, [])
        else .error { flaw := .wrongLength index expected }
    let (vs, items) ← rest.ofItems expected (index + 1) items
    return ((v, vs), items)

end

/-! ## Writing -/

def joinMembers : List (List Char) → List Char
  | [] => []
  | [m] => m
  | m :: rest => m ++ ',' :: joinMembers rest

mutual

/-- The text of a value of a shape, without blanks. -/
def Shape.chars : (s : Shape) → s.Carrier → List Char
  | .text, v => stringChars v
  | .flag, v => if v then "true".toList else "false".toList
  | .number w, v => integerChars (w.toInt v)
  | .moment, v => stringChars v.text
  | .tag first others, i => stringChars ((first :: others).getD i first)
  | .optional s, v =>
    match v with
    | some v => s.chars v
    | none => "null".toList
  | .list s, vs => '[' :: (joinMembers (vs.map s.chars) ++ [']'])
  | .record _ _ fields, vs => '\x7b' :: (joinMembers (fields.members vs) ++ ['\x7d'])

/-- The members of a record as texts; an optional one without a value is left out. -/
def Fields.members : (fields : Fields) → fields.Carrier → List (List Char)
  | .nil, () => []
  | .cons key _ (.optional s) rest, (v, vs) =>
    match v with
    | some v => (stringChars key ++ ':' :: s.chars v) :: rest.members vs
    | none => rest.members vs
  | .cons key _ s rest, (v, vs) => (stringChars key ++ ':' :: s.chars v) :: rest.members vs

end

def Shape.write (s : Shape) (v : s.Carrier) : String := String.ofList (s.chars v)

end PromptGateway.Json
