import Throughput.Address.Socket
import Throughput.Definition

/-!
# Options

What was given on the command line. An option that was not given leaves a configured value as it is.
-/

namespace Throughput

structure SharedOptions where
  config : Option String
  logLevel : Option String
  output : Option String
  deriving DecidableEq, Repr

namespace SharedOptions

def empty : SharedOptions :=
  ⟨none, none, none⟩

/-- What was given behind a command wins over what was given in front of it. -/
def orElse (inner outer : SharedOptions) : SharedOptions :=
  { config := inner.config <|> outer.config
    logLevel := inner.logLevel <|> outer.logLevel
    output := inner.output <|> outer.output }

end SharedOptions

structure DownloadOptions where
  url : Option String
  threads : Option UInt32
  rampUp : Option UInt64
  targetTime : Option UInt64
  slotLength : Option UInt64
  avoidCaches : Bool
  address : Option Address.Socket
  deriving DecidableEq, Repr

namespace DownloadOptions

def empty : DownloadOptions :=
  ⟨none, none, none, none, none, false, none⟩

/-- Caches are avoided if either side says so. -/
def applyTo (options : DownloadOptions) (base : DownloadDefinition) : DownloadDefinition :=
  { url := options.url.getD base.url
    threads := options.threads.getD base.threads
    rampUp := options.rampUp.getD base.rampUp
    targetTime := options.targetTime.getD base.targetTime
    slotLength := options.slotLength.getD base.slotLength
    avoidCaches := base.avoidCaches || options.avoidCaches }

theorem applyTo_empty (base : DownloadDefinition) : empty.applyTo base = base := by
  simp [empty, applyTo]

end DownloadOptions

/-- The shape of the trains, which both sides have to know. -/
structure ShapeOptions where
  iterations : Option UInt16
  trainLength : Option UInt16
  packetSize : Option UInt64
  trainGap : Option UInt64
  deriving DecidableEq, Repr

namespace ShapeOptions

def empty : ShapeOptions :=
  ⟨none, none, none, none⟩

def applyTo (options : ShapeOptions) (base : TrainsDefinition) : TrainsDefinition :=
  { iterations := options.iterations.getD base.iterations
    trainLength := options.trainLength.getD base.trainLength
    packetSize := options.packetSize.getD base.packetSize
    trainGap := options.trainGap.getD base.trainGap }

theorem applyTo_empty (base : TrainsDefinition) : empty.applyTo base = base := by
  simp [empty, applyTo]

end ShapeOptions

structure TrainsOptions where
  shape : ShapeOptions
  bind : Address.Socket
  peer : Option Address.Socket
  deriving DecidableEq, Repr

def TrainsOptions.ofPort (port : UInt16) : TrainsOptions :=
  ⟨.empty, .v4 ⟨0, 0, 0, 0⟩ port, none⟩

end Throughput
