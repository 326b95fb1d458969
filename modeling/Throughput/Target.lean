import Throughput.Error
import Throughput.Text.Blank
import Throughput.Text.Fields
import Throughput.Url.Basic

/-!
# Download targets

Host, port and request path of the object that every worker downloads. A bare `host/path` is read as
a web address.
-/

namespace Throughput

structure Target where
  host : String
  port : UInt16
  /-- Path and query; it starts with a slash. -/
  path : String
  deriving DecidableEq, Repr

namespace Target

def defaultPort : UInt16 := 80

def schemeMark : List Char := "://".toList

def complete (text : List Char) : List Char :=
  if Text.occursIn schemeMark text then text else "http://".toList ++ text

def ofAddress (address : Url.WebAddress) : Except TargetFault Target :=
  let host := address.host.text
  if host.isEmpty then
    .error .missingHost
  else
    let query := match address.query with
      | some query => '?' :: query
      | none => []
    .ok { host := String.ofList host
          port := address.port.getD defaultPort
          path := String.ofList (address.path ++ query) }

def parseChars (text : List Char) : Except TargetFault Target :=
  let trimmed := Text.trim text
  if trimmed.isEmpty then
    .error .empty
  else
    match Url.parse (complete trimmed) with
    | .error fault => .error (.url fault)
    | .ok (.other scheme) => .error (.unsupportedScheme (String.ofList scheme))
    | .ok (.http address) => ofAddress address

def parse (text : String) : Except TargetFault Target :=
  parseChars text.toList

end Target

end Throughput
