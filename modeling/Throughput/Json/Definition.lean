import Throughput.Definition
import Throughput.Json.Decode
import Throughput.Json.Value

/-!
# Definitions in JSON

Absent fields take their defaults.
-/

namespace Throughput

open Json

namespace DownloadDefinition

def fields : List (FieldShape DownloadDefinition) :=
  [ ⟨"url", fun node d => return { d with url := ← node.string }⟩,
    ⟨"threads", fun node d => return { d with threads := ← node.word32 }⟩,
    ⟨"ramp_up_ms", fun node d => return { d with rampUp := ← node.word64 }⟩,
    ⟨"target_time_ms", fun node d => return { d with targetTime := ← node.word64 }⟩,
    ⟨"slot_length_ms", fun node d => return { d with slotLength := ← node.word64 }⟩,
    ⟨"avoid_caches", fun node d => return { d with avoidCaches := ← node.bool }⟩ ]

def shape : Shape DownloadDefinition :=
  ⟨fields, initial, true⟩

def json (definition : DownloadDefinition) : Value :=
  .object
    [ ("url", .string definition.url),
      ("threads", .natural definition.threads.toNat),
      ("ramp_up_ms", .natural definition.rampUp.toNat),
      ("target_time_ms", .natural definition.targetTime.toNat),
      ("slot_length_ms", .natural definition.slotLength.toNat),
      ("avoid_caches", .boolean definition.avoidCaches) ]

def ofJson (text : String) : Outcome DownloadDefinition :=
  decode shape.read text

end DownloadDefinition

namespace TrainsDefinition

def fields : List (FieldShape TrainsDefinition) :=
  [ ⟨"iterations", fun node d => return { d with iterations := ← node.word16 }⟩,
    ⟨"train_length", fun node d => return { d with trainLength := ← node.word16 }⟩,
    ⟨"packet_size", fun node d => return { d with packetSize := ← node.word64 }⟩,
    ⟨"train_gap_ms", fun node d => return { d with trainGap := ← node.word64 }⟩ ]

def shape : Shape TrainsDefinition :=
  ⟨fields, initial, true⟩

def json (definition : TrainsDefinition) : Value :=
  .object
    [ ("iterations", .natural definition.iterations.toNat),
      ("train_length", .natural definition.trainLength.toNat),
      ("packet_size", .natural definition.packetSize.toNat),
      ("train_gap_ms", .natural definition.trainGap.toNat) ]

def ofJson (text : String) : Outcome TrainsDefinition :=
  decode shape.read text

end TrainsDefinition

end Throughput
