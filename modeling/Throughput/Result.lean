/-!
# Results
-/

namespace Throughput

/-- A trusted download run. Rates are in bits per second, one entry for each worker that
contributed. -/
structure DownloadResult where
  threads : UInt64
  bandwidth : Float
  perThread : List Float
  slotsPerThread : List (List Float)

def DownloadResult.megabits (result : DownloadResult) : Float :=
  result.bandwidth / 1000000.0

/-- The rates of a packet-train run in kbit/s. Trains with an unusable interval are left out, so
both lists may be shorter than the number of trains. -/
structure TrainsResult where
  sending : List Float
  receiving : List Float

namespace TrainsResult

def none : TrainsResult :=
  ⟨[], []⟩

def isEmpty (result : TrainsResult) : Bool :=
  result.receiving.isEmpty

end TrainsResult

inductive MeasurementResult where
  | download (result : DownloadResult)
  | trains (result : TrainsResult)

end Throughput
