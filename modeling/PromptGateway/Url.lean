import PromptGateway.Url.Host
import PromptGateway.Text.Integer

/-! # Addresses

The addresses of the URL standard: a scheme, the authority with a host and a port, a path, a query
and a fragment. Reading an address brings it into its normal form: dot segments are resolved, the
usual port is left out, and what may not stand in a part as it is gets encoded.
-/

namespace PromptGateway

open Url (Host Fault)

/-- The path of an address: segments, or a text that has none. -/
inductive UrlPath
  | segments (list : List (List Char))
  | opaqueText (text : List Char)
  deriving DecidableEq, Repr

structure Url where
  scheme : String
  username : List Char := []
  password : List Char := []
  host? : Option Host := none
  port? : Option Nat := none
  path : UrlPath
  query? : Option (List Char) := none
  fragment? : Option (List Char) := none
  deriving DecidableEq, Repr

namespace Url

/-- The usual port of a scheme; the schemes that have one are known. -/
def usualPort? : String → Option Nat
  | "http" | "ws" => some 80
  | "https" | "wss" => some 443
  | "ftp" => some 21
  | _ => none

/-- The schemes with rules of their own. -/
def isKnown (scheme : String) : Bool := (usualPort? scheme).isSome || scheme == "file"

/-! ## Sets of characters that are encoded -/

def inFragmentSet (c : Char) : Bool := Host.isControl c || " \"<>`".toList.contains c

def inPathSet (c : Char) : Bool := inFragmentSet c || "#?^\x7b\x7d".toList.contains c

def inUserSet (c : Char) : Bool := inPathSet c || "/:;=@[\\]|".toList.contains c

def inQuerySet (known : Bool) (c : Char) : Bool :=
  Host.isControl c || " \"#<>".toList.contains c || (known && c == '\'')

/-! ## Parts -/

/-- What is left of a text without the controls and blanks at its ends, tabs and line breaks. -/
def cleaned (text : List Char) : List Char :=
  let ends (cs : List Char) := cs.dropWhile fun c => c.toNat ≤ 32
  (ends (ends text).reverse).reverse.filter fun c => c != '\t' && c != '\n' && c != '\r'

def splitScheme (text : List Char) : Option (String × List Char) :=
  match text.span fun c => c.isAlphanum || c == '+' || c == '-' || c == '.' with
  | (c :: scheme, ':' :: rest) =>
    if c.isAlpha then some (Text.lower (String.ofList (c :: scheme)), rest) else none
  | _ => none

/-- A slash, or with a known scheme a backslash. -/
def isSlash (known : Bool) (c : Char) : Bool := c == '/' || (known && c == '\\')

def endsAuthority (known : Bool) (c : Char) : Bool := isSlash known c || c == '?' || c == '#'

/-- The segments `.` and `..`, also in their encoded forms. -/
def dotName (segment : List Char) : String :=
  let plain := (Text.lower (String.ofList segment)).replace "%2e" "."
  if plain == "." || plain == ".." then plain else ""

/-- Adds a segment to a path; `last` if no slash follows it. -/
def pushSegment (path : List (List Char)) (segment : List Char) (last : Bool) : List (List Char) :=
  match dotName segment with
  | ".." => if last then path.dropLast ++ [[]] else path.dropLast
  | "." => if last then path ++ [[]] else path
  | _ => path ++ [Percent.encodeSet inPathSet segment]

/-- Adds the segments of a text to a path, the current one collected in reverse. -/
def pushSegments (known : Bool) (path : List (List Char)) (segment : List Char) :
    List Char → List (List Char)
  | [] => pushSegment path segment.reverse true
  | c :: rest =>
    if isSlash known c then pushSegments known (pushSegment path segment.reverse false) [] rest
    else pushSegments known path (c :: segment) rest

/-- Reads a path that begins behind the authority. A known scheme always has one. -/
def readPath (known : Bool) : List Char → List (List Char)
  | [] => if known then [[]] else []
  | c :: rest =>
    if isSlash known c then pushSegments known [] [] rest else pushSegments known [] [] (c :: rest)

/-- Reads a port; the usual one is left out. -/
def readPort (usual? : Option Nat) (text : List Char) : Except Fault (Option Nat) :=
  if text = [] then .ok none
  else if text.head? = some '+' then .error .port
  else
    match Text.readNat 65535 text with
    | .ok n => .ok (if some n = usual? then none else some n)
    | .error _ => .error .port

/-- The host and the port of an authority: a colon within brackets does not separate them. -/
def splitPort (inBrackets : Bool) (host : List Char) : List Char → List Char × Option (List Char)
  | [] => (host.reverse, none)
  | c :: rest =>
    if c == ':' && !inBrackets then (host.reverse, some rest)
    else splitPort (c == '[' || (inBrackets && c != ']')) (c :: host) rest

/-- What stands before the last `@` of an authority, and what stands behind it. -/
def splitUser (authority : List Char) : Option (List Char × List Char) :=
  let behind := (authority.reverse.takeWhile (· != '@')).reverse
  if behind.length = authority.length then none
  else some (authority.take (authority.length - behind.length - 1), behind)

def readAuthority (scheme : String) (authority : List Char) : Except Fault Url := do
  let known := isKnown scheme
  let (user, place) := (splitUser authority).getD ([], authority)
  let (name, password) := (Text.cutAt? ':' user).getD (user, [])
  if place = [] ∧ (splitUser authority).isSome then throw .emptyHost
  let (hostText, portText?) := splitPort false [] place
  if hostText = [] ∧ known then throw .emptyHost
  let host ← if known then Host.read hostText else Host.readOpaque hostText
  if hostText = [] ∧ (portText?.isSome || (splitUser authority).isSome) then throw .emptyHost
  let port? ← readPort (usualPort? scheme) (portText?.getD [])
  return { scheme, host? := some host, port?, path := .segments []
           username := Percent.encodeSet inUserSet name
           password := Percent.encodeSet inUserSet password }

def addTail (url : Url) (tail : List Char) : Url :=
  let (front, fragment?) := match Text.cutAt? '#' tail with
    | some (front, fragment) => (front, some (Percent.encodeSet inFragmentSet fragment))
    | none => (tail, none)
  let query? := match front with
    | '?' :: query => some (Percent.encodeSet (inQuerySet (isKnown url.scheme)) query)
    | _ => none
  { url with query?, fragment? }

def splitTail (text : List Char) : List Char × List Char :=
  Text.spanUntil (fun c => c == '?' || c == '#') text

def readHierarchy (scheme : String) (text : List Char) : Except Fault Url := do
  let known := isKnown scheme
  let (authority, rest) := Text.spanUntil (endsAuthority known) text
  let url ← readAuthority scheme authority
  let (path, tail) := splitTail rest
  return addTail { url with path := .segments (readPath known path) } tail

/-- Reads what follows the colon of the scheme `file`. This machine is no host. -/
def readFile (text : List Char) : Except Fault Url := do
  let nobody : Host := .domain []
  let (host, rest) ← match text with
    | a :: b :: rest =>
      if isSlash true a && isSlash true b then do
        let (name, rest) := Text.spanUntil (endsAuthority true) rest
        let host ← if name = [] then pure nobody else Host.read name
        pure (if host = .domain "localhost".toList then nobody else host, rest)
      else pure (nobody, text)
    | _ => pure (nobody, text)
  let (path, tail) := splitTail rest
  return addTail
    { scheme := "file", host? := some host, path := .segments (readPath true path) } tail

def readChars (text : List Char) : Except Fault Url :=
  match splitScheme (cleaned text) with
  | none => .error .relative
  | some (scheme, rest) =>
    if scheme == "file" then readFile rest
    else if isKnown scheme then readHierarchy scheme (rest.dropWhile (isSlash true))
    else
      match rest with
      | '/' :: '/' :: rest => readHierarchy scheme rest
      | '/' :: rest =>
        let (path, tail) := splitTail rest
        .ok (addTail { scheme, path := .segments (readPath false ('/' :: path)) } tail)
      | rest =>
        let (path, tail) := splitTail rest
        .ok (addTail { scheme, path := .opaqueText (Percent.encodeSet Host.isControl path) } tail)

def read (s : String) : Except Fault Url := readChars s.toList

/-! ## Text -/

/-- Whether an address has a host that can be reached. -/
def hasHost (url : Url) : Bool :=
  match url.host? with
  | none | some (.domain []) => false
  | some _ => true

def withoutUser (url : Url) : Url := { url with username := [], password := [] }

def pathText : UrlPath → String
  | .segments list => String.join (list.map fun s => "/" ++ String.ofList s)
  | .opaqueText text => String.ofList text

def marked (mark : String) (part? : Option (List Char)) : String :=
  match part? with
  | some part => mark ++ String.ofList part
  | none => ""

def userText (url : Url) : String :=
  if url.username = [] ∧ url.password = [] then ""
  else
    String.ofList url.username ++
      (if url.password = [] then "" else ":" ++ String.ofList url.password) ++ "@"

def authorityText (host : Host) (port? : Option Nat) : String :=
  match port? with
  | some port => s!"{host.text}:{port}"
  | none => host.text

def requestTarget (url : Url) : String := pathText url.path ++ marked "?" url.query?

def text (url : Url) : String :=
  let front := match url.host? with
    | some host => "//" ++ url.userText ++ authorityText host url.port?
    | none => if (pathText url.path).startsWith "//" then "/." else ""
  url.scheme ++ ":" ++ front ++ url.requestTarget ++ marked "#" url.fragment?

end Url

end PromptGateway
