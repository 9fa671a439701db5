import PromptGateway.Cli.Flag
import PromptGateway.Text.Search

/-! # Arguments

Reading a command line. Flags and words are taken one after the other, first those of the program
and from the name of a command on those of the command. The value of a flag may follow it as an
argument of its own, and is looked at only when the next flag or word is taken. What the command
line leaves open is filled in from the environment, and then from defaults.
-/

namespace PromptGateway.Cli

/-- Why a command line is not carried out: it asks for an explanation, or it is not understood. -/
inductive Refusal
  | help
  | version
  | unknownArgument
  | unknownCommand
  | needlessValue
  | missingValue
  | badValue
  | repeated
  | missingArgument
  deriving DecidableEq, Repr

def Refusal.message : Refusal → String
  | help | version => ""
  | unknownArgument => "error: unexpected argument"
  | unknownCommand => "error: unrecognized command"
  | needlessValue => "error: a value is given to a flag that takes none"
  | missingValue => "error: a flag lacks its value"
  | badValue => "error: invalid value for a flag"
  | repeated => "error: a flag is given more than once"
  | missingArgument => "error: a required argument is missing"

def Refusal.exitCode : Refusal → Nat
  | help | version => 0
  | _ => 2

abbrev Environment := List (String × String)

/-- A flag the value of which is still to be looked at, or even to come. -/
structure Pending where
  flag : Flag
  value? : Option String
  deriving DecidableEq, Repr

/-- What has been taken in a scope. Behind two lone hyphens there are only words. -/
structure Taken where
  given : List (Flag × String) := []
  pending? : Option Pending := none
  words : List String := []
  onlyWords : Bool := false
  deriving DecidableEq, Repr

namespace Taken

def has (t : Taken) (f : Flag) : Bool := t.given.any (·.1 == f)

def take (t : Taken) (f : Flag) (value? : Option String) : Except Refusal Taken := do
  if f.takesValue && value?.isNone then throw .missingValue
  if f = .help then throw .help
  if f = .version then throw .version
  if t.has f && !f.repeats then throw .repeated
  let value := value?.getD ""
  if !f.reads value then throw .badValue
  return { t with given := t.given ++ [(f, value)] }

def settle (t : Taken) : Except Refusal Taken :=
  match t.pending? with
  | some p => take { t with pending? := none } p.flag p.value?
  | none => .ok t

/-- Takes a flag together with what is attached to it; without a value it is pending. -/
def attach (t : Taken) (f : Flag) (value? : Option String) : Except Refusal Taken := do
  let t ← t.settle
  if f.takesValue && value?.isNone then return { t with pending? := some ⟨f, none⟩ }
  t.take f value?

/-- Takes a flag by its name, with a value after an equals sign if it has one. -/
def takeLong (s : Scope) (t : Taken) (text : List Char) : Except Refusal Taken :=
  let (name, value?) := match Text.cutAt? '=' text with
    | some (name, value) => (name, some (String.ofList value))
    | none => (text, none)
  match s.flag? name with
  | none => .error .unknownArgument
  | some f => if !f.takesValue && value?.isSome then .error .needlessValue else t.attach f value?

def attached? : List Char → Option String
  | [] => none
  | '=' :: value => some (String.ofList value)
  | value => some (String.ofList value)

/-- Takes flags by their letters. What follows the letter of a flag with a value is the value. -/
def takeLetters (s : Scope) (t : Taken) : List Char → Except Refusal Taken
  | [] => .ok t
  | c :: rest =>
    match s.letter? c with
    | none => .error .unknownArgument
    | some f =>
      if f.takesValue then t.attach f (attached? rest)
      else do takeLetters s (← t.attach f none) rest

def wordRefusal (s : Scope) (t : Taken) (word : String) : Refusal :=
  if s.isNone && !(t.onlyWords && (word = "help" || (Verb.ofName? word).isSome)) then
    .unknownCommand
  else .unknownArgument

def takeWord (s : Scope) (t : Taken) (word : String) : Except Refusal Taken :=
  if s.takesWord t.words.length then do
    let t ← t.settle
    return { t with words := t.words ++ [word] }
  else .error (wordRefusal s t word)

/-- Whether the next argument that is no flag is a value. -/
def awaitsValue (t : Taken) : Bool :=
  match t.pending? with
  | some ⟨_, none⟩ => true
  | _ => false

def step (s : Scope) (t : Taken) (argument : String) : Except Refusal Taken :=
  if t.onlyWords then t.takeWord s argument
  else
    match argument.toList with
    | ['-', '-'] => .ok { t with onlyWords := true }
    | '-' :: '-' :: text => t.takeLong s text
    | '-' :: c :: letters => t.takeLetters s (c :: letters)
    | _ =>
      match t.pending? with
      | some ⟨f, none⟩ => .ok { t with pending? := some ⟨f, some argument⟩ }
      | _ => t.takeWord s argument

end Taken

inductive Source
  | environment
  | commandLine
  deriving DecidableEq, Repr

structure Known where
  given : List (Flag × String)
  lent : List (Flag × String)
  words : List String
  deriving DecidableEq, Repr

namespace Known

def value? (k : Known) (f : Flag) : Option (Source × String) :=
  match k.given.lookup f with
  | some value => some (.commandLine, value)
  | none => (k.lent.lookup f).map (Source.environment, ·)

def text? (k : Known) (f : Flag) : Option String := (k.value? f).map (·.2)

def has (k : Known) (f : Flag) : Bool := (k.value? f).isSome

def texts (k : Known) (f : Flag) : List String :=
  (k.given.filter (·.1 == f)).map (·.2)

end Known

/-- The value that the environment lends to a flag that is not given. -/
def lend? (env : Environment) (t : Taken) (f : Flag) : Except Refusal (Option (Flag × String)) :=
  match f.environmentName?.bind fun name => env.lookup name with
  | none => .ok none
  | some value =>
    if t.has f then .ok none
    else if f.reads value then .ok (some (f, value)) else .error .badValue

/-- Ends a scope: nothing stays pending, and the environment lends what is not given. -/
def Taken.finish (s : Scope) (env : Environment) (t : Taken) : Except Refusal Known := do
  let t ← t.settle
  let lent ← s.flags.mapM (lend? env t)
  return { given := t.given, lent := lent.filterMap id, words := t.words }

def Known.complete (v : Verb) (k : Known) : Except Refusal Known :=
  if v.required.all k.has ∧ v.fewestWords ≤ k.words.length then .ok k
  else .error .missingArgument

def readVerb (env : Environment) (v : Verb) (arguments : List String) : Except Refusal Known := do
  let t ← arguments.foldlM (Taken.step (some v)) {}
  (← t.finish (some v) env).complete v

/-- What is made of a request for help: an explanation of the program or of one command. -/
def helpRefusal : List String → Refusal
  | [] => .help
  | [name] => if name = "help" ∨ (Verb.ofName? name).isSome then .help else .unknownCommand
  | _ => .unknownCommand

/-- Reads the arguments of the program up to a command's name, and then those of the command. -/
def readFrom (env : Environment) (t : Taken) :
    List String → Except Refusal (Known × Option (Verb × Known))
  | [] => do return (← t.finish none env, none)
  | argument :: rest =>
    let verb? := if t.onlyWords || t.awaitsValue then none else Verb.ofName? argument
    match verb? with
    | some v => do
      let own ← readVerb env v rest
      return (← t.finish none env, some (v, own))
    | none =>
      if argument = "help" ∧ !t.onlyWords ∧ !t.awaitsValue then .error (helpRefusal rest)
      else do readFrom env (← t.step none argument) rest

/-- The value of a shared flag: that of the command, unless the one in front of it is stronger. -/
def sharedText? (front : Known) (own? : Option Known) (f : Flag) : Option String :=
  match front.value? f, own?.bind (·.value? f) with
  | some (.commandLine, _), some (.commandLine, text) => some text
  | some (.commandLine, text), _ => some text
  | _, some (_, text) => some text
  | some (_, text), none => some text
  | none, none => none

def commandOf (v : Verb) (k : Known) : Command :=
  let text (f : Flag) : String := (k.text? f).getD ""
  match v with
  | .serve => .serve (((k.text? .port).bind readPort?).getD 8080) (k.texts .origin)
  | .list =>
    .list (((k.text? .pageSize).bind readPageSize?).getD 10) (k.text? .pageToken) (k.has .all)
  | .add =>
    .add { kind := Kind.ofTag (text .kind), url := text .url, accessKey := text .accessKey
           displayName := text .name, description := text .description, model := text .model }
  | .remove => .remove (k.words.head?.getD "")
  | .ask => .ask (k.words.head?.getD "") k.words.tail

def readArguments (env : Environment) (arguments : List String) : Except Refusal Invocation := do
  let (front, rest?) ← readFrom env {} arguments
  let own? := rest?.map (·.2)
  return {
    database := (sharedText? front own? .database).getD "sqlite://aigw.db"
    timeoutSeconds := ((sharedText? front own? .timeout).bind readSeconds?).getD 60
    isVerbose := (sharedText? front own? .verbose).isSome
    command? := rest?.map fun (v, k) => commandOf v k }

end PromptGateway.Cli
