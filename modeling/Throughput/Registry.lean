import Throughput.Download.Run
import Throughput.Failure
import Throughput.Probe.Run

/-!
# Registries

The measurements that a program can run. For each kind there is at most one entry, and the entries
stand in the order of the kinds.
-/

namespace Throughput

open Address

/-- Everything that preparing a measurement may need. Each kind takes its part. -/
structure Setup where
  download : DownloadDefinition
  trains : TrainsDefinition
  /-- Where to download from instead of looking up the host. -/
  address : Option Socket
  bind : Socket
  /-- The only sender that the probe hears. -/
  peer : Option Socket

def Setup.initial : Setup :=
  { download := .initial
    trains := .initial
    address := none
    bind := .v4 ⟨0, 0, 0, 0⟩ 0
    peer := none }

inductive Measurement where
  | download (definition : DownloadDefinition) (target : Target) (resolver : Resolver)
  | probe (definition : TrainsDefinition) (timers : ProbeTimers)

namespace Measurement

def kind : Measurement → Kind
  | .download .. => .httpDownload
  | .probe .. => .packetTrains

def status (_ : Measurement) : Status :=
  .initial

def prepareDownload (network : Network) (setup : Setup) : Except Failure Measurement :=
  match setup.download.validate with
  | .error refusal => .error (.measurement (.invalid refusal))
  | .ok target =>
    let resolver := match setup.address with
      | some address => .fixed (.ok [address])
      | none => network.resolver
    .ok (.download setup.download target resolver)

end Measurement

def Network.open (network : Network) (bind : Socket) (peer : Option Socket) :
    Except Failure Unit := do
  (network.bind bind).mapError (.bind bind)
  match peer with
  | some peer => (network.reach peer).mapError (.connect peer)
  | none => return ()

/-- The definition is looked at before the socket. -/
def Measurement.prepareProbe (network : Network) (setup : Setup) : Except Failure Measurement :=
  match setup.trains.validate with
  | .error refusal => .error (.measurement (.invalid refusal))
  | .ok definition => do
    network.open setup.bind setup.peer
    return .probe definition .initial

structure Registration where
  kind : Kind
  description : String
  prepare : Network → Setup → Except Failure Measurement

abbrev Registry := List Registration

namespace Registry

def empty : Registry := []

def find? (registry : Registry) (kind : Kind) : Option Registration :=
  List.find? (fun entry => entry.kind = kind) registry

/-- Adds an entry, or replaces the one of its kind. -/
def register (registry : Registry) (entry : Registration) : Registry :=
  Kind.all.filterMap fun kind => if kind = entry.kind then some entry else registry.find? kind

def builtin : Registry :=
  [ ⟨.httpDownload, "multi-connection HTTP download throughput", Measurement.prepareDownload⟩,
    ⟨.packetTrains, "UDP packet-train dispersion (receiving side)", Measurement.prepareProbe⟩ ]

def kinds (registry : Registry) : List (Kind × String) :=
  registry.map fun entry => (entry.kind, entry.description)

def create (registry : Registry) (network : Network) (kind : Kind) (setup : Setup) :
    Except Failure Measurement :=
  match registry.find? kind with
  | some entry => entry.prepare network setup
  | none => .error (.unregistered kind)

theorem kind_of_find? {registry : Registry} {kind : Kind} {entry : Registration}
    (h : registry.find? kind = some entry) : entry.kind = kind := by
  simpa using List.find?_some h

theorem find?_register (registry : Registry) (entry : Registration) (kind : Kind) :
    (registry.register entry).find? kind =
      if kind = entry.kind then some entry else registry.find? kind := by
  have download := @kind_of_find? registry .httpDownload
  have trains := @kind_of_find? registry .packetTrains
  unfold register
  generalize registry.find? = found at download trains ⊢
  rcases hd : found .httpDownload with _ | d <;>
    rcases ht : found .packetTrains with _ | t <;>
    rcases he : entry.kind <;> cases kind <;>
    simp_all [find?, Kind.all]

end Registry

end Throughput
