import Throughput.CommandLine.Help
import Throughput.Configuration.Load
import Throughput.Json.Result
import Throughput.Registry
import Throughput.Sender

/-!
# The program

What the program prints and how it ends, given its arguments and the host that it runs on.
-/

namespace Throughput

open CommandLine

/-- The machine under the program. Files are known by their text, and a file that cannot be written
by the cause. The far ends of connections and the datagrams that arrive are part of it. -/
structure Host where
  file : String → Option String
  writeFault? : String → Option String
  environment : List Setting.Environment.Variable
  home : Option String
  network : Network
  connections : List (List Action)
  datagrams : List Delivery
  clock : LocalTime

structure Exit where
  code : Nat
  output : String
  errors : String
  written : Option (String × String)
  deriving DecidableEq, Repr

namespace Exit

def printing (text : String) : Exit :=
  ⟨0, text, "", none⟩

def writing (path text : String) : Exit :=
  ⟨0, "", "", some (path, text)⟩

def failing (failure : Failure) : Exit :=
  ⟨1, "", failure.report, none⟩

def refusing (cause : Fault) : Exit :=
  let text := match cause with
    | .nothingGiven => helpText none
    | _ => s!"error: {cause.message}\n"
  ⟨2, "", text, none⟩

end Exit

namespace Host

/-- The file that is read if no other one is asked for. It need not be there. -/
def defaultPath? (host : Host) : Option String :=
  host.home.map (· ++ "/.config/" ++ programName ++ "/config.toml")

def settingsFile (host : Host) (shared : SharedOptions) : SettingsFile :=
  match shared.config with
  | some path => ⟨some path, host.file path⟩
  | none => ⟨none, host.defaultPath?.bind host.file⟩

def configuration (host : Host) (shared : SharedOptions) : Except Failure Configuration :=
  (Configuration.load (host.settingsFile shared) host.environment).mapError
    fun fault => .configuration fault.message

/-- How long a worker waits for its first byte. -/
def firstByteTimeout : Nat := 5000 * nanosPerMilli

def start (host : Host) (conditions : Conditions) :
    Measurement → Except MeasureError MeasurementResult
  | .download definition target resolver =>
    let surroundings : Surroundings :=
      { resolution := resolver.resolve target.host target.port
        network := host.network
        scripts := host.connections
        firstByteTimeout
        clock := host.clock }
    (Download.run definition target surroundings conditions).outcome.map .download
  | .probe definition timers =>
    (Probe.run definition timers conditions host.datagrams).outcome.map .trains

def measure (host : Host) (configuration : Configuration) (kind : Kind) (setup : Setup) :
    Except Failure MeasurementResult := do
  let measurement ← Registry.builtin.create host.network kind setup
  (host.start ⟨configuration.budget.budget, .never, true⟩ measurement).mapError (.run kind)

def deliver (host : Host) (output : Option String) (result : MeasurementResult) :
    Except Failure Exit :=
  match output with
  | none => .ok (.printing (result.report ++ "\n"))
  | some path =>
    match host.writeFault? path with
    | some cause => .error (.write path cause)
    | none => .ok (.writing path result.report)

def send (host : Host) (definition : TrainsDefinition) (bind peer : Address.Socket) :
    Except Failure Exit :=
  match definition.validate with
  | .error refusal => .error (.measurement (.invalid refusal))
  | .ok definition => do
    host.network.open bind (some peer)
    match (Sender.run definition .never .listening).outcome with
    | .ok report => return .printing (report.json.render .pretty ++ "\n")
    | .error e => .error (.measurement e)

def listing : String :=
  String.join (Registry.builtin.kinds.map fun (kind, description) =>
    kind.name ++ description ++ "\n")

def perform (host : Host) (invocation : Invocation) : Except Failure Exit := do
  let configuration ← host.configuration invocation.shared
  match invocation.activity with
  | .list => return .printing listing
  | .download options =>
    let setup := { Setup.initial with
      download := options.applyTo configuration.download
      address := options.address }
    host.deliver invocation.shared.output (← host.measure configuration .httpDownload setup)
  | .trains options =>
    let setup := { Setup.initial with
      trains := options.shape.applyTo configuration.trains
      bind := options.bind
      peer := options.peer }
    host.deliver invocation.shared.output (← host.measure configuration .packetTrains setup)
  | .send shape bind peer => host.send (shape.applyTo configuration.trains) bind peer

def run (host : Host) (arguments : List String) : Exit :=
  match Invocation.parse arguments with
  | .error (.fault cause) => .refusing cause
  | .error (.help topic) => .printing (helpText topic)
  | .error (.version topic) => .printing (versionText topic)
  | .ok invocation =>
    match host.perform invocation with
    | .ok exit => exit
    | .error failure => .failing failure

end Host

end Throughput
