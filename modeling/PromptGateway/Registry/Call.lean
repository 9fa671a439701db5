import PromptGateway.Registry.Row

/-! # Calls on the registry

The operations that a registry offers, as data, together with the type of what each one yields.
-/

namespace PromptGateway

/-- Which platforms to find: those that match all that is given, in the window that is given. -/
structure Query where
  id? : Option Int32 := none
  kind? : Option Kind := none
  limit? : Option UInt32 := none
  offset? : Option UInt32 := none
  deriving DecidableEq, Repr

/-- The query for the rows of a page, and for one row more. -/
def Query.ofCursor (c : PageCursor) : Query :=
  { limit? := some c.fetchLimit, offset? := some c.offset }

/-- Whether a row matches what is given. Kinds are compared by the tag that is stored. -/
def Query.matches (q : Query) (r : Row) : Bool :=
  (match q.id? with
    | some id => r.id == id.toInt
    | none => true) &&
  (match q.kind? with
    | some k => r.kindTag == k.tag
    | none => true)

def Query.window (q : Query) (rows : List Row) : List Row :=
  let rows := match q.offset? with
    | some n => rows.drop n.toNat
    | none => rows
  match q.limit? with
  | some n => rows.take n.toNat
  | none => rows

inductive Method
  | insert
  | find
  | get
  | update
  | delete
  deriving DecidableEq, Repr

inductive Call
  | insert (e : Entry)
  | find (q : Query)
  | get (id : Int32)
  | update (id : Int32) (c : Changes)
  | delete (id : Int32)
  deriving Repr

namespace Call

def method : Call → Method
  | insert _ => .insert
  | find _ => .find
  | get _ => .get
  | update _ _ => .update
  | delete _ => .delete

/-- What an operation yields. -/
@[reducible] def Result : Call → Type
  | insert _ | get _ | update _ _ => Platform
  | find _ => List Platform
  | delete _ => Unit

end Call

end PromptGateway
