import PromptGateway.Registry.Call

/-! # The registry

A table of rows with a counter. Numbers come from the counter, which never goes back, so a number is
not given twice even when its row is gone. Each call is one step from a registry to the next.
-/

namespace PromptGateway

/-- The rows, and the highest number that was ever given or set. -/
structure Registry where
  rows : List Row := []
  lastId : Int := 0
  deriving DecidableEq, Repr

namespace Registry

def maxId : Int := 9223372036854775807

def fullError : StoreError :=
  .storage "error returned from database: (code: 13) database or disk is full"

def absent (id : Int32) : StoreError := .notFound ("AI platform with ID " ++ toString id.toInt)

def row? (g : Registry) (id : Int) : Option Row := g.rows.find? (·.id == id)

/-- Adds a row and raises the counter to its number. -/
def put (g : Registry) (r : Row) : Registry :=
  { rows := g.rows ++ [r], lastId := max g.lastId r.id }

/-- The rows that match a query, in the order of listings and cut to its window. -/
def select (g : Registry) (q : Query) : List Row :=
  q.window ((g.rows.filter q.matches).mergeSort Row.listedBefore)

/-- Why a row with a number of its own is not added. -/
inductive PutFault
  | taken
  | full
  deriving DecidableEq, Repr

def PutFault.message : PutFault → String
  | .taken =>
    "error returned from database: (code: 1555) UNIQUE constraint failed: ai_platform.id"
  | .full => "error returned from database: (code: 13) database or disk is full"

/-- Adds a row under a given number, or under the next one if none is given. -/
def add (g : Registry) (id? : Option Int) (row : Int → Row) : Except PutFault (Int × Registry) :=
  match id? with
  | some id => if (g.row? id).isSome then .error .taken else .ok (id, g.put (row id))
  | none =>
    if g.lastId < maxId then .ok (g.lastId + 1, g.put (row (g.lastId + 1))) else .error .full

/-- Stores an entry under the next number. -/
def insert (g : Registry) (e : Entry) : Except StoreError Platform × Registry :=
  if g.lastId < maxId then
    let r := Row.ofEntry e (g.lastId + 1)
    (r.decode, g.put r)
  else (.error fullError, g)

def find (g : Registry) (q : Query) : Except StoreError (List Platform) :=
  Row.decodeAll (g.select q)

def get (g : Registry) (id : Int32) : Except StoreError Platform :=
  match g.row? id.toInt with
  | some r => r.decode
  | none => .error (absent id)

/-- Changes the row with a number; that it is no platform is told only after the change. -/
def update (g : Registry) (id : Int32) (c : Changes) : Except StoreError Platform × Registry :=
  match g.row? id.toInt with
  | some r =>
    ((r.update c).decode,
      { g with rows := g.rows.map fun s => if s.id = id.toInt then s.update c else s })
  | none => (.error (absent id), g)

def delete (g : Registry) (id : Int32) : Except StoreError Unit × Registry :=
  match g.row? id.toInt with
  | some _ => (.ok (), { g with rows := g.rows.filter (·.id != id.toInt) })
  | none => (.error (absent id), g)

def perform (g : Registry) : (c : Call) → Except StoreError c.Result × Registry
  | .insert e => g.insert e
  | .find q => (g.find q, g)
  | .get id => (g.get id, g)
  | .update id c => g.update id c
  | .delete id => g.delete id

end Registry

end PromptGateway
