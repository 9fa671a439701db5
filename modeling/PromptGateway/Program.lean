import PromptGateway.Registry.Call
import PromptGateway.Answer.Chat
import PromptGateway.Event

/-! # Programs

A program is a tree of effects: what it asks of its surroundings, and how it goes on with each
answer. The services and the front ends are programs, so their meaning does not depend on the
registry, the clock and the platforms that answer them.
-/

namespace PromptGateway

structure Post where
  url : String
  bearer? : Option String
  body : ChatRequest
  deriving DecidableEq, Repr

structure PostReply where
  status : Nat
  body : String
  deriving DecidableEq, Repr

inductive Outcome
  | reply (r : PostReply)
  | failed (e : CallError)
  | interrupted
  deriving DecidableEq, Repr

/-- What a program can ask for. -/
inductive Effect
  | store (c : Call)
  | post (p : Post)
  | now
  | note (e : Event)
  | print (text : String)
  deriving Repr

@[reducible] def Effect.Answer : Effect → Type
  | .store c => Except StoreError c.Result
  | .post _ => Outcome
  | .now => Moment
  | .note _ | .print _ => Unit

/-- A tree of effects that ends in values. -/
inductive Program (α : Type) where
  | done (a : α)
  | step (e : Effect) (next : e.Answer → Program α)

namespace Program

variable {α β : Type}

def bind : Program α → (α → Program β) → Program β
  | done a, f => f a
  | step e next, f => step e fun answer => (next answer).bind f

instance : Monad Program where
  pure := done
  bind := bind

def perform (e : Effect) : Program e.Answer := step e done

def store (c : Call) : Program (Except StoreError c.Result) := perform (.store c)

def post (p : Post) : Program Outcome := perform (.post p)

/-- The whole second that the clock shows. -/
def now : Program Moment := do return (← perform .now).floor

def note (e : Event) : Program Unit := perform (.note e)

def print (text : String) : Program Unit := perform (.print text)

/-- Runs a program with surroundings that answer each effect and change with it. -/
def run {σ : Type} (answer : (e : Effect) → σ → e.Answer × σ) : Program α → σ → α × σ
  | done a, s => (a, s)
  | step e next, s =>
    let (a, s) := answer e s
    (next a).run answer s

end Program

abbrev Action := ExceptT ServiceError Program

end PromptGateway
