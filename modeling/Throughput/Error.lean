import Throughput.Span
import Throughput.Url.Fault

/-!
# Errors

A definition that breaks a bound is refused before anything is sent; a run that has started ends
with a result or with one `MeasureError`. Both carry the cause, and `message` is its wording.
-/

namespace Throughput

/-- Why a text names no download target. -/
inductive TargetFault where
  | empty
  | url (fault : Url.Fault)
  | unsupportedScheme (scheme : String)
  | missingHost
  deriving DecidableEq, Repr

def TargetFault.message : TargetFault → String
  | .empty => "empty"
  | .url fault => fault.message
  | .unsupportedScheme scheme => s!"unsupported scheme '{scheme}'"
  | .missingHost => "missing host"

inductive Refusal where
  | threads (requested : Nat)
  | rampUp (requested : Nat)
  | targetTime (requested : Nat)
  | slotLength (requested limit : Nat)
  | url (fault : TargetFault)
  | iterations (requested : Nat)
  | trainLength (requested : Nat)
  | packetSize (requested : Nat)
  | unknownKind (text : String)
  | quietPeriod (quiet inactivity : Nat)
  deriving DecidableEq, Repr

def Refusal.message : Refusal → String
  | .threads n => s!"requested number of threads wrong: {n} (allowed 1..=16)"
  | .rampUp n => s!"requested ramp-up time wrong: {n}ms (allowed 0..=10000)"
  | .targetTime n => s!"requested target time wrong: {n}ms (allowed 1000..=60000)"
  | .slotLength n limit => s!"requested slot length wrong: {n}ms (allowed 100..={limit})"
  | .url fault => "invalid URL: " ++ fault.message
  | .iterations n => s!"requested iterations wrong: {n} (allowed 1..=1000)"
  | .trainLength n => s!"requested train length wrong: {n} (allowed 2..=10000)"
  | .packetSize n => s!"requested packet size wrong: {n} (allowed 12..=65507)"
  | .unknownKind text => s!"unknown measurement '{text}'"
  | .quietPeriod quiet inactivity =>
    "quiet period " ++ Span.text quiet ++ " must be shorter than the inactivity timeout " ++
      Span.text inactivity

/-- How a measurement can fail. A single failed worker is no error: it surfaces here once every
worker has failed. -/
inductive MeasureError where
  | invalid (refusal : Refusal)
  | resolution (host cause : String)
  | connection
  | transfer
  | untrustworthy
  | cancelled
  | budgetExhausted (available : Nat)
  | socket (cause : String)
  | shortRecord (length : Nat)
  deriving DecidableEq, Repr

def MeasureError.message : MeasureError → String
  | .invalid refusal => "invalid measurement definition: " ++ refusal.message
  | .resolution host cause => s!"name resolution failed for {host}: {cause}"
  | .connection => "Unable to establish a TCP connection"
  | .transfer => "No thread able to download after TCP connection was established."
  | .untrustworthy => "Unable to calculate accurate results on the measurement."
  | .cancelled => "measurement cancelled"
  | .budgetExhausted available => s!"traffic budget exhausted ({available} bytes available)"
  | .socket cause => "socket error: " ++ cause
  | .shortRecord length =>
    s!"malformed packet-train record: datagram of {length} bytes is shorter than the 12-byte header"

/-- The cause that the system gave, where there is one. -/
def MeasureError.cause? : MeasureError → Option String
  | .resolution _ cause | .socket cause => some cause
  | _ => none

end Throughput
