import PromptGateway.Text.Blank
import PromptGateway.Text.Search
import PromptGateway.Encoding.Percent

/-! # Addresses of databases

The address of a database says where the registry lives: on a server, in a file, or in memory only.
-/

namespace PromptGateway.Database

inductive Target
  | memory
  | file (path : String)
  | server (url : String)
  deriving DecidableEq, Repr

def without (mark : String) (text : List Char) : Option (List Char) :=
  Text.after? mark.toList text

/-- The path of a file in an address; it ends before the first question mark. -/
def pathOf (text : List Char) : List Char :=
  let path := ((without "sqlite://" text).or (without "sqlite:" text)).getD text
  path.takeWhile (· != '?')

def Target.read (address : String) : Target :=
  let text := Text.trimChars address.toList
  if (without "postgres://" text).isSome || (without "postgresql://" text).isSome then
    .server (String.ofList text)
  else
    let path := String.ofList (pathOf text)
    if path = ":memory:" then .memory else .file path

/-- What a file's path stands for: a registry of its own that passes, or a file. -/
inductive Site
  | passing
  | path (text : String)
  deriving DecidableEq, Repr

/-- Replaces the encoded characters of a path; an encoded zero ends it. -/
def plainPath (text : List Char) : String :=
  Utf8.decodeLossy
    ((Percent.decode (Utf8.encodeChars (text.takeWhile (· != '#')))).takeWhile (· != 0))

/--
What a file's path stands for. One that begins with the scheme `file` is an address itself, in which
only this machine may be named.
-/
def Site.read (path : String) : Except String Site := do
  let text ← match without "file:" path.toList with
    | none => pure path
    | some ('/' :: '/' :: rest) =>
      let (host, rest) := rest.span (· != '/')
      if host = [] ∨ host = "localhost".toList then pure (plainPath rest)
      else throw (String.ofList host)
    | some rest => pure (plainPath rest)
  return if text = "" ∨ text = ":memory:" then .passing else .path text

end PromptGateway.Database
