import Throughput.Address.Ipv6
import Throughput.Url.Fault
import Throughput.Url.Idna
import Throughput.Url.Percent

/-!
# Hosts

The host of a URL is a domain name or an address. A name that ends in a number is read as an IPv4
address, whose parts may be octal or hexadecimal and may be fewer than four.
-/

namespace Throughput.Url

open Address

inductive Host where
  | domain (name : List Char)
  | ipv4 (address : Ipv4)
  | ipv6 (address : Ipv6)
  deriving DecidableEq, Repr

namespace Host

def text : Host → List Char
  | .domain name => name
  | .ipv4 address => address.text
  | .ipv6 address => address.text

/-- A number in the base that its beginning tells. A lone mark of the base is zero. -/
def looseNumber? (text : List Char) : Option Nat :=
  match text with
  | [] => none
  | ['0'] => some 0
  | '0' :: 'x' :: digits | '0' :: 'X' :: digits =>
    if digits.isEmpty then some 0 else Text.number? 16 digits
  | '0' :: digits => Text.number? 8 digits
  | digits => Text.number? 10 digits

/-- The parts of a name, without the empty one behind a final dot. -/
def dottedParts (name : List Char) : List (List Char) :=
  let parts := Text.splitOn '.' name
  if parts.getLast? = some [] then parts.dropLast else parts

def endsInNumber (name : List Char) : Bool :=
  match (dottedParts name).getLast? with
  | none => false
  | some last => (!last.isEmpty && last.all Char.isDigit) || (looseNumber? last).isSome

/-- The last part fills all the bytes that the parts before it leave. -/
def looseIpv4? (name : List Char) : Option Ipv4 :=
  match (dottedParts name).mapM looseNumber? with
  | none => none
  | some numbers =>
    let before := numbers.dropLast
    match numbers.getLast? with
    | none => none
    | some last =>
      let room := 8 * (4 - before.length)
      if 4 < numbers.length ∨ before.any (255 < ·) ∨ 1 <<< room ≤ last then
        none
      else
        let high := before.foldl (fun n byte => 256 * n + byte) 0
        some (.ofNat (high <<< room + last))

def bracketed? (text : List Char) : Option (List Char) :=
  match text with
  | '[' :: inner => if inner.getLast? = some ']' then some inner.dropLast else none
  | _ => none

def parseIpv6 (text : List Char) : Except Fault Host :=
  match (bracketed? text).bind Ipv6.parse? with
  | some address => .ok (.ipv6 address)
  | none => .error .badIpv6

def parse (text : List Char) : Except Fault Host :=
  if text.head? = some '[' then
    parseIpv6 text
  else
    match (percentDecoded? text).bind Idna.toAscii? with
    | none => .error .badDomain
    | some name =>
      if name.isEmpty then .error .emptyHost
      else if endsInNumber name then
        match looseIpv4? name with
        | some address => .ok (.ipv4 address)
        | none => .error .badIpv4
      else .ok (.domain name)

/-- Characters that the host of no URL may hold. -/
def isForbidden (c : Char) : Bool :=
  "\x00\t\n\r #/:<>?@[\\]^|".toList.contains c

/-- Is the text a host of a URL whose scheme has no rules of its own? -/
def checkPlain (text : List Char) : Except Fault Unit :=
  if text.head? = some '[' then (parseIpv6 text).map fun _ => ()
  else if text.any isForbidden then .error .badHostCharacter
  else .ok ()

end Host

end Throughput.Url
