import PromptGateway.Cli.Command
import PromptGateway.Text.Integer

/-! # Flags

The flags of the command line: how each is spelled, whether it takes a value, which texts are values
of it, and which variable of the environment stands in for it. Every command has flags of its own,
and shares some with the program itself.
-/

namespace PromptGateway.Cli

inductive Verb
  | serve
  | list
  | add
  | remove
  | ask
  deriving DecidableEq, Repr

namespace Verb

def names : List (String × Verb) :=
  [("serve", serve), ("list", list), ("add", add), ("remove", remove), ("ask", ask)]

def ofName? (name : String) : Option Verb := names.lookup name

end Verb

inductive Flag
  | help
  | version
  | database
  | timeout
  | verbose
  | port
  | origin
  | pageSize
  | pageToken
  | all
  | kind
  | url
  | accessKey
  | name
  | model
  | description
  deriving DecidableEq, Repr

def readPort? (text : String) : Option Nat :=
  match Text.readInt64 text.toList with
  | .ok n => if 0 ≤ n ∧ n ≤ 65535 then some n.toInt.toNat else none
  | .error _ => none

def readSeconds? (text : String) : Option Nat :=
  (Text.readNat 18446744073709551615 text.toList).toOption

def readPageSize? (text : String) : Option Int64 := (Text.readInt64 text.toList).toOption

namespace Flag

def long : Flag → String
  | help => "help"
  | version => "version"
  | database => "database-url"
  | timeout => "upstream-timeout-secs"
  | verbose => "verbose"
  | port => "port"
  | origin => "allowed-origin"
  | pageSize => "page-size"
  | pageToken => "page-token"
  | all => "all"
  | kind => "type"
  | url => "url"
  | accessKey => "access-key"
  | name => "name"
  | model => "model"
  | description => "description"

def letter? : Flag → Option Char
  | help => some 'h'
  | version => some 'V'
  | verbose => some 'v'
  | port => some 'p'
  | _ => none

def takesValue : Flag → Bool
  | help | version | verbose | all => false
  | _ => true

def repeats : Flag → Bool
  | origin => true
  | _ => false

def environmentName? : Flag → Option String
  | database => some "AIGW_DATABASE_URL"
  | timeout => some "AIGW_UPSTREAM_TIMEOUT_SECS"
  | port => some "AIGW_PORT"
  | accessKey => some "AIGW_ACCESS_KEY"
  | _ => none

def environmentNames : List String :=
  [database, timeout, port, accessKey].filterMap environmentName?

def reads (f : Flag) (text : String) : Bool :=
  match f with
  | timeout => (readSeconds? text).isSome
  | port => (readPort? text).isSome
  | pageSize => (readPageSize? text).isSome
  | kind => (Kind.ofTag? text).isSome
  | _ => true

/-- The flags that every command shares with the program. -/
def shared : List Flag := [database, timeout, verbose, help]

end Flag

namespace Verb

def flags : Verb → List Flag
  | serve => [.port, .origin]
  | list => [.pageSize, .pageToken, .all]
  | add => [.kind, .url, .accessKey, .name, .model, .description]
  | remove | ask => []

/-- The flags without which a command is not understood. -/
def required : Verb → List Flag
  | add => [.url, .accessKey, .name, .model]
  | _ => []

def fewestWords : Verb → Nat
  | remove => 1
  | ask => 2
  | _ => 0

/-- Whether a command takes a word after a number of others. -/
def takesWord (v : Verb) (count : Nat) : Bool :=
  match v with
  | remove => count < 1
  | ask => true
  | _ => false

end Verb

/-- Where flags and words stand: in front of the name of a command, or behind it. -/
abbrev Scope := Option Verb

namespace Scope

def flags : Scope → List Flag
  | none => .version :: Flag.shared
  | some v => v.flags ++ Flag.shared

def flag? (s : Scope) (name : List Char) : Option Flag :=
  s.flags.find? (·.long.toList == name)

def letter? (s : Scope) (c : Char) : Option Flag := s.flags.find? (·.letter? == some c)

def takesWord (s : Scope) (count : Nat) : Bool :=
  match s with
  | none => false
  | some v => v.takesWord count

end Scope

end PromptGateway.Cli
