import Throughput.Download.Agenda
import Throughput.Download.Coordinator
import Throughput.Network
import Throughput.Rate
import Throughput.Request
import Throughput.Resolver
import Throughput.Run

/-!
# Download runs

A whole download from name resolution to its result. The workers dial, and with their coordinator
they are carried through the agenda until the coordinator concludes, the window has lasted its time,
or the run is cancelled. Then every worker is stopped, all its traffic is charged, and the reports
are reduced to a result or found not to be trusted.
-/

namespace Throughput

structure Download where
  definition : DownloadDefinition
  coordinator : Coordinator
  tasks : List Task
  deriving DecidableEq, Repr

structure DownloadEnd where
  download : Download
  time : Nat
  /-- The start of the window, or why there is none. -/
  windowStart : Except MeasureError Nat

namespace Download

def ofDefinition (definition : DownloadDefinition) : Download :=
  let workers := definition.threads.toNat
  { definition
    coordinator := .ofWorkers workers
    tasks := (List.range workers).map fun id => (Task.ofId id).obey .connect }

def command (download : Download) (command : Command) (workers : List Nat) : Download :=
  { download with
    tasks := download.tasks.map fun task =>
      if workers.contains task.worker.id then task.obey command else task }

/-- Passes an event on to the coordinator and its orders to the workers. -/
def report (download : Download) (now : Nat) (event : WorkerEvent) :
    Download × Option (Except MeasureError Nat) :=
  match download.coordinator.onEvent download.definition now event with
  | (coordinator, .proceed) => ({ download with coordinator }, none)
  | (coordinator, .begin workers) =>
    ({ download with coordinator }.command .beginTransfer workers, none)
  | (coordinator, .conclude outcome) => ({ download with coordinator }, some outcome)

/-- What happens to one worker, and what its coordinator makes of it. -/
def happen (download : Download) (now id : Nat) (happening : Happening) :
    Download × Option (Except MeasureError Nat) :=
  match download.tasks[id]? with
  | none => (download, none)
  | some task =>
    let (task, event) := task.happen now happening
    let changed := { download with tasks := download.tasks.set id task }
    match event with
    | some event => changed.report now event
    | none => (changed, none)

/-- The end of a run in which nothing more happens. -/
def rest (download : Download) (now : Nat) : DownloadEnd :=
  match download.coordinator.window with
  | some window => ⟨download, window.stop, .ok window.start⟩
  | none => ⟨download, now, download.coordinator.windowStart⟩

/-- Goes through the agenda until the run is over. The window ends before anything that happens on
the same instant. -/
def advance (download : Download) (now : Nat) : Agenda → DownloadEnd
  | [] => download.rest now
  | appointment :: agenda =>
    match download.coordinator.expired? appointment.time with
    | some window => ⟨download, window.stop, .ok window.start⟩
    | none =>
      match appointment.occurrence with
      | .cancel => ⟨download, appointment.time, .error .cancelled⟩
      | .worker id happening =>
        match download.happen appointment.time id happening with
        | (next, some outcome) => ⟨next, appointment.time, outcome⟩
        | (next, none) => next.advance appointment.time agenda

end Download

namespace DownloadEnd

def reports (ending : DownloadEnd) : List Worker :=
  ending.download.tasks.map fun task => (task.obey .stop).worker

def traffic (ending : DownloadEnd) : Nat :=
  ending.reports.foldr (fun worker total => totalBytes worker.samples + total) 0

end DownloadEnd

namespace DownloadResult

/-- The average of a worker in the window, whose ends are told in the time of its samples. -/
def threadRate (definition : DownloadDefinition) (windowStart : Nat) (worker : Worker) : Float :=
  let start : Int := windowStart - worker.coverage.started
  averageThroughput worker.samples start (start + Span.ofMillis definition.targetTime.toNat)

def ofWorkers (definition : DownloadDefinition) (windowStart : Nat) (workers : List Worker) :
    DownloadResult :=
  let rates := workers.map (threadRate definition windowStart)
  { threads := UInt64.ofNat rates.length
    bandwidth := rates.foldl (· + ·) 0.0
    perThread := rates
    slotsPerThread :=
      workers.map fun worker => timeSlices worker.samples definition.slotLength.toNat }

/-- Only the workers that succeeded contribute, and only if the run as a whole is to be trusted. -/
def reduce (definition : DownloadDefinition) (windowStart : Nat) (workers : List Worker) :
    Except MeasureError DownloadResult :=
  if trustable (workers.map Worker.coverage) windowStart definition.targetTime.toNat then
    .ok (ofWorkers definition windowStart (workers.filter fun worker => worker.state = .succeeded))
  else
    .error .untrustworthy

end DownloadResult

structure DownloadRun extends Run DownloadResult where
  accepted : Nat
  request : Option String

/-- What surrounds a run: the answer to its one name resolution, the network, what the server does
on each connection, how long a worker waits for its first byte, and the time of day. -/
structure Surroundings where
  resolution : Resolution
  network : Network
  scripts : List (List Action)
  firstByteTimeout : Nat
  clock : LocalTime

namespace Download

def resolve (target : Target) : Resolution → Except MeasureError Address.Socket
  | .error cause => .error (.resolution target.host cause)
  | .ok [] => .error (.resolution target.host "no addresses")
  | .ok (address :: _) => .ok address

def cancelTime : Cancellation → Option Nat
  | .after time => some time
  | .never | .beforeStart => none

/-- A download from its first attempt to connect to its end. -/
def carryDialed (dialing : Dialing) (definition : DownloadDefinition) (surroundings : Surroundings)
    (accepted : Bool) (cancellation : Cancellation) : DownloadEnd :=
  (ofDefinition definition).advance 0 <|
    .ofRun (dialing.handshakes definition.threads.toNat accepted) surroundings.firstByteTimeout
      surroundings.scripts (cancelTime cancellation)

def carry (definition : DownloadDefinition) (surroundings : Surroundings) (accepted : Bool)
    (cancellation : Cancellation) : DownloadEnd :=
  carryDialed .prompt definition surroundings accepted cancellation

/-- A run that ends before any worker is started. -/
def unstarted (conditions : Conditions) (e : MeasureError) : DownloadRun :=
  { Run.close .download (.error e) 0 conditions.budget
      (Journal.ofObserved conditions.observed).start with
    accepted := 0
    request := none }

/-- What a run leaves behind that got as far as its connections. These are the ones that were made
before its end. The request is out if somebody was connected and all had their answers by then. -/
def ended (definition : DownloadDefinition) (target : Target) (surroundings : Surroundings)
    (handshakes : List Handshake) (budget : Budget) (observed : Bool) (ending : DownloadEnd) :
    DownloadRun :=
  let outcome := ending.windowStart.bind fun start =>
    DownloadResult.reduce definition start ending.reports
  let stamp := if definition.avoidCaches then some surroundings.clock else none
  { Run.close .download outcome ending.time (budget.charge ending.traffic).1
      (Journal.ofObserved observed).start with
    accepted := handshakes.countP fun handshake =>
      handshake.accepted && handshake.time ≤ ending.time
    request :=
      if Handshake.failed handshakes || ending.time < Handshake.latest handshakes then none
      else some (Request.text target stamp) }

/-- The run of a definition that was validated, towards its target, with workers that dial like
this. -/
def runDialed (dialing : Dialing) (definition : DownloadDefinition) (target : Target)
    (surroundings : Surroundings) (conditions : Conditions) : DownloadRun :=
  if conditions.budget.exhausted then
    { Run.refused .download conditions with accepted := 0, request := none }
  else if conditions.cancellation = .beforeStart then
    unstarted conditions .cancelled
  else
    match resolve target surroundings.resolution with
    | .error e => unstarted conditions e
    | .ok address =>
      let accepted := surroundings.network.accepts address
      ended definition target surroundings
        (dialing.handshakes definition.threads.toNat accepted) conditions.budget
        conditions.observed
        (carryDialed dialing definition surroundings accepted conditions.cancellation)

/-- The run of a definition whose workers all get their answers at once. -/
def run (definition : DownloadDefinition) (target : Target) (surroundings : Surroundings)
    (conditions : Conditions) : DownloadRun :=
  runDialed .prompt definition target surroundings conditions

end Download

end Throughput
