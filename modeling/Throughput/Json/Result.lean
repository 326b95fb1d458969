import Throughput.Json.Decode
import Throughput.Json.Value
import Throughput.Kind
import Throughput.Result
import Throughput.Sender

/-!
# Results in JSON

Every field has to be there. A result of either kind is tagged with the name of its measurement; the
tag may stand anywhere among the fields, so all of them are kept until the end of the text and only
then read.
-/

namespace Throughput

open Json

namespace Kind

def ofChars (name : List Char) : Outcome Kind :=
  match ofName? (String.ofList name) with
  | some kind => .ok kind
  | none => .error .mistyped

def ofTag (node : Node) : Outcome Kind := do
  ofChars (← node.chars)

/-- A kind that is written as an object has its name as the only key, with a null behind it. -/
def ofEntries : List Entry → Ending → Outcome Kind
  | [], .closed => .error .malformed
  | [], .cut fault _ => .error fault
  | [], .strayKey mismatch => .error mismatch
  | (key, node) :: rest, ending => do
    let kind ← ofChars (← key.value)
    node.unit
    if rest.isEmpty then ending.checkShort else .error .malformed
    return kind

/-- A kind is its name. Nothing else is looked at. -/
def ofNode : Node → Outcome Kind
  | .quoted leaf => do ofChars (← leaf.value)
  | .object entries ending => ofEntries entries ending
  | .absent => .error .truncated
  | .null | .boolean _ | .number _ | .array .. | .broken _ => .error .malformed

def json (kind : Kind) : Value :=
  .string kind.name

def ofJson (text : String) : Outcome Kind :=
  decode ofNode text

end Kind

namespace DownloadResult

def none : DownloadResult :=
  ⟨0, 0.0, [], []⟩

def fields : List (FieldShape DownloadResult) :=
  [ ⟨"actual_num_threads", fun node r => return { r with threads := ← node.word64 }⟩,
    ⟨"bandwidth_bps", fun node r => return { r with bandwidth := ← node.double }⟩,
    ⟨"bps_per_thread", fun node r => return { r with perThread := ← node.list Node.double }⟩,
    ⟨"bps_slots_per_thread", fun node r =>
      return { r with slotsPerThread := ← node.list (Node.list Node.double) }⟩ ]

def shape : Shape DownloadResult :=
  ⟨fields, none, false⟩

def entries (result : DownloadResult) : List (String × Value) :=
  [ ("actual_num_threads", .natural result.threads.toNat),
    ("bandwidth_bps", .double result.bandwidth),
    ("bps_per_thread", .doubles result.perThread),
    ("bps_slots_per_thread", .array (result.slotsPerThread.map .doubles)) ]

def json (result : DownloadResult) : Value :=
  .object result.entries

def ofJson (text : String) : Outcome DownloadResult :=
  decode shape.read text

end DownloadResult

namespace TrainsResult

def fields : List (FieldShape TrainsResult) :=
  [ ⟨"sending_speed", fun node r => return { r with sending := ← node.list Node.double }⟩,
    ⟨"receiving_speed", fun node r => return { r with receiving := ← node.list Node.double }⟩ ]

def shape : Shape TrainsResult :=
  ⟨fields, none, false⟩

def entries (result : TrainsResult) : List (String × Value) :=
  [("sending_speed", .doubles result.sending), ("receiving_speed", .doubles result.receiving)]

def json (result : TrainsResult) : Value :=
  .object result.entries

def ofJson (text : String) : Outcome TrainsResult :=
  decode shape.read text

end TrainsResult

namespace MeasurementResult

def tagName : String := "measurement"

/-- How deep brackets may be nested inside the value of a field. -/
def depthLimit : Nat := 126

def kind : MeasurementResult → Kind
  | .download _ => .httpDownload
  | .trains _ => .packetTrains

/-- The tag among the entries, and the other ones. -/
def splitTag : (tag : Option Kind) → List Entry → Outcome (Option Kind × List Entry)
  | tag, [] => .ok (tag, [])
  | tag, (key, node) :: rest => do
    if String.ofList (← key.value) = tagName then
      if tag.isSome then
        .error .mistyped
      else
        splitTag (some (← Kind.ofTag node)) rest
    else
      node.keep depthLimit
      let (found, others) ← splitTag tag rest
      return (found, (key, node) :: others)

/-- Reads what was kept. By now the text is known to be well-formed, so a fault is one of kind. -/
def ofKept (kind : Kind) (node : Node) : Outcome MeasurementResult :=
  let result := match kind with
    | .httpDownload => (DownloadResult.shape.read node).map MeasurementResult.download
    | .packetTrains => (TrainsResult.shape.read node).map MeasurementResult.trains
  result.mapError fun _ => .mistyped

def ofNode : Node → Outcome MeasurementResult
  | .object entries ending => do
    let (tag, others) ← splitTag none entries
    ending.check
    match tag with
    | some kind => ofKept kind (.object others .closed)
    | none => .error .mistyped
  | .array [] ending => do
    ending.check
    .error .mistyped
  | .array (tag :: items) ending => do
    let kind ← Kind.ofTag tag
    Node.keepItems depthLimit items
    ending.check
    ofKept kind (.array items .closed)
  | node => .error node.mismatch

def json : MeasurementResult → Value
  | .download result => .object ((tagName, .string Kind.httpDownload.name) :: result.entries)
  | .trains result => .object ((tagName, .string Kind.packetTrains.name) :: result.entries)

def ofJson (text : String) : Outcome MeasurementResult :=
  decode ofNode text

def report (result : MeasurementResult) : String :=
  result.json.render .pretty

end MeasurementResult

def SendReport.json (report : SendReport) : Value :=
  .object [("packets", .natural report.packets), ("bytes", .natural report.bytes)]

end Throughput
