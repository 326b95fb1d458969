import Throughput.Text.Blank
import Throughput.Url.Host
import Throughput.Url.Path

/-!
# URLs

Absolute URLs by the rules that browsers follow. A web address is taken apart into host, port, path
and query; of any other well-formed URL only the scheme is kept.
-/

namespace Throughput.Url

structure WebAddress where
  host : Host
  port : Option UInt16
  path : List Char
  query : Option (List Char)
  deriving DecidableEq, Repr

inductive Reference where
  | http (address : WebAddress)
  | other (scheme : List Char)
  deriving DecidableEq, Repr

/-- The text without blanks and controls at its ends and without tabs and line ends inside. -/
def clean (text : List Char) : List Char :=
  (Text.trimBy (fun c => c.toNat ≤ 0x20) text).filter fun c => !(c = '\t' || c = '\n' || c = '\r')

def isSchemeChar (c : Char) : Bool :=
  c.isAlphanum || c = '+' || c = '-' || c = '.'

/-- The scheme in lower case and what follows its colon. -/
def splitScheme? (text : List Char) : Option (List Char × List Char) :=
  let scheme := text.takeWhile isSchemeChar
  match text.dropWhile isSchemeChar with
  | ':' :: rest =>
    if scheme.head?.any Char.isAlpha then some (scheme.map Char.toLower, rest) else none
  | _ => none

/-- How the schemes differ in their rules. -/
inductive SchemeClass where
  | file
  | web
  | plain
  deriving DecidableEq, Repr

def SchemeClass.of (scheme : List Char) : SchemeClass :=
  match String.ofList scheme with
  | "file" => .file
  | "http" | "https" | "ws" | "wss" | "ftp" => .web
  | _ => .plain

def endsAuthority (web : Bool) (c : Char) : Bool :=
  c = '/' || c = '?' || c = '#' || (web && c = '\\')

/-- The text behind the last `@`, and the user information before it. -/
def splitUser (authority : List Char) : Option (List Char) × List Char :=
  if authority.contains '@' then
    let host := (authority.reverse.takeWhile (· ≠ '@')).reverse
    (some (authority.take (authority.length - host.length - 1)), host)
  else
    (none, authority)

/-- The host and what follows it. A colon inside brackets belongs to the host. -/
def splitHost : (inBrackets : Bool) → List Char → List Char × List Char
  | _, [] => ([], [])
  | inBrackets, c :: rest =>
    if c = ':' ∧ !inBrackets then
      ([], c :: rest)
    else
      let inside := if c = '[' then true else if c = ']' then false else inBrackets
      let (host, after) := splitHost inside rest
      (c :: host, after)

def parsePort (text : List Char) : Except Fault (Option UInt16) :=
  match text with
  | ':' :: digits =>
    if digits.isEmpty then .ok none
    else
      match Text.decimal? digits with
      | some port => if port ≤ Numeric.maxWord16 then .ok (some (.ofNat port)) else .error .badPort
      | none => .error .badPort
  | _ => .ok none

/-- An authority taken apart: text of the host, text of the port, and what comes behind. -/
structure Authority where
  user : Option (List Char)
  host : List Char
  port : List Char
  rest : List Char
  deriving Repr

def splitAuthority (web : Bool) (text : List Char) : Authority :=
  let (user, address) := splitUser (text.takeWhile fun c => !endsAuthority web c)
  let (host, port) := splitHost false address
  { user, host, port, rest := text.dropWhile fun c => !endsAuthority web c }

/-- A web address behind its scheme. Any number of slashes may precede the authority. -/
def parseWeb (text : List Char) : Except Fault WebAddress := do
  let authority := splitAuthority true (text.dropWhile isSlash)
  if authority.host.isEmpty then
    throw .emptyHost
  let host ← Host.parse authority.host
  let port ← parsePort authority.port
  let beforeFragment := authority.rest.takeWhile (· ≠ '#')
  let query := match beforeFragment.dropWhile (· ≠ '?') with
    | _ :: query => some (percentEncode isEscapedInQuery query)
    | [] => none
  return { host, port, path := Path.parse (beforeFragment.takeWhile (· ≠ '?')), query }

/-- Checks what follows a scheme without rules of its own. Two slashes announce an authority, whose
host may be empty if nothing comes with it. -/
def checkPlain (text : List Char) : Except Fault Unit := do
  match text with
  | '/' :: '/' :: rest =>
    let authority := splitAuthority false rest
    if authority.user = some [] ∧ authority.host.isEmpty ∧ authority.port.isEmpty ∧
        !authority.rest.isEmpty then
      throw .emptyHost
    Host.checkPlain authority.host
    if authority.host.isEmpty ∧ !authority.port.isEmpty then
      throw .emptyHost
    let port := authority.port.takeWhile (· ≠ '\\')
    let _ ← parsePort port
    if authority.host.isEmpty ∧ authority.user.any fun user => user ≠ [] && user ≠ [':'] then
      throw .emptyHost
  | _ => return

/-- Checks what follows `file:`. Two slashes announce a host, unless a drive letter comes next. -/
def checkFile (text : List Char) : Except Fault Unit := do
  match text with
  | first :: second :: rest =>
    if isSlash first && isSlash second then
      let host := rest.takeWhile fun c => !endsAuthority true c
      if !host.isEmpty && !Path.isDrive host then
        let _ ← Host.parse host
  | _ => return

def parse (text : List Char) : Except Fault Reference :=
  match splitScheme? (clean text) with
  | none => .error .relativeWithoutBase
  | some (scheme, rest) =>
    match SchemeClass.of scheme with
    | .file => (checkFile rest).map fun _ => .other scheme
    | .plain => (checkPlain rest).map fun _ => .other scheme
    | .web =>
      (parseWeb rest).map fun address =>
        if scheme = "http".toList then .http address else .other scheme

end Throughput.Url
