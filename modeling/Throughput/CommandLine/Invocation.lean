import Throughput.CommandLine.Options
import Throughput.CommandLine.Scan

/-!
# Invocations

The flags of the program and of its commands, and what a list of arguments asks for.
-/

namespace Throughput

open CommandLine

inductive Activity where
  | download (options : DownloadOptions)
  | trains (options : TrainsOptions)
  /-- Sending needs a peer. -/
  | send (shape : ShapeOptions) (bind peer : Address.Socket)
  | list
  deriving DecidableEq, Repr

def Activity.name : Activity → CommandName
  | .download _ => .download
  | .trains _ => .trains
  | .send .. => .send
  | .list => .list

structure Invocation where
  shared : SharedOptions
  activity : Activity
  deriving DecidableEq, Repr

namespace CommandLine

structure Given (σ : Type) where
  shared : SharedOptions
  own : σ

variable {σ τ α : Type}

namespace Given

def ofOwn (own : σ) : Given σ :=
  ⟨.empty, own⟩

def putShared (put : α → SharedOptions → SharedOptions) (value : α) (given : Given σ) : Given σ :=
  { given with shared := put value given.shared }

def putOwn (put : α → σ → σ) (value : α) (given : Given σ) : Given σ :=
  { given with own := put value given.own }

end Given

open Given

def sharedFlags : List (Flag (Given σ)) :=
  [ .taking "config" (some 'c') "CONFIG" "Config file [default: ~/.config/bwmeter/config.toml]"
      .path (putShared fun v o => { o with config := some v }),
    .taking "log-level" none "LOG_LEVEL" "Log filter, e.g. `debug` or `bwmeter_measure=trace`"
      .anyText (putShared fun v o => { o with logLevel := some v }),
    .taking "output" (some 'o') "OUTPUT" "Write the JSON result to this file instead of stdout"
      .path (putShared fun v o => { o with output := some v }) ]

/-- The flags that print something instead of starting a run. -/
def stopFlags (topic : Option CommandName) : List (Flag σ) :=
  [ ⟨"help", some 'h', .stop (.help topic), "Print help"⟩,
    ⟨"version", some 'V', .stop (.version topic), "Print version"⟩ ]

/-- The level of a command with flags of its own. -/
def commandLevel (name : CommandName) (argument : Option (Argument (Given σ)))
    (flags : List (Flag (Given σ))) : Level (Given σ) :=
  { argument
    flags := Flag.interleave flags sharedFlags ++ stopFlags (some name)
    commands := [] }

def downloadFlags : List (Flag (Given DownloadOptions)) :=
  [ .taking "threads" (some 't') "THREADS" ""
      .word32 (putOwn fun v o => { o with threads := some v }),
    .taking "ramp-up-ms" none "RAMP_UP_MS" ""
      .word64 (putOwn fun v o => { o with rampUp := some v }),
    .taking "target-time-ms" none "TARGET_TIME_MS" ""
      .word64 (putOwn fun v o => { o with targetTime := some v }),
    .taking "slot-length-ms" none "SLOT_LENGTH_MS" ""
      .word64 (putOwn fun v o => { o with slotLength := some v }),
    ⟨"avoid-caches", none, .change (putOwn (fun v o => { o with avoidCaches := v }) true),
      "Add a timestamp query parameter to every request"⟩,
    .taking "address" none "ADDRESS" "Connect to this address instead of resolving the URL host"
      .socket (putOwn fun v o => { o with address := some v }) ]

def urlArgument : Argument (Given DownloadOptions) :=
  { placeholder := "[URL]"
    read := reading .anyText (putOwn fun v o => { o with url := some v })
    description := "Object to download; `host/path` means `http://host/path`" }

def downloadLevel : Level (Given DownloadOptions) :=
  commandLevel .download (some urlArgument) downloadFlags

def putShape (put : α → ShapeOptions → ShapeOptions) :
    α → Given TrainsOptions → Given TrainsOptions :=
  putOwn fun v o => { o with shape := put v o.shape }

def shapeFlags : List (Flag (Given TrainsOptions)) :=
  [ .taking "iterations" none "ITERATIONS" ""
      .word16 (putShape fun v o => { o with iterations := some v }),
    .taking "train-length" none "TRAIN_LENGTH" ""
      .word16 (putShape fun v o => { o with trainLength := some v }),
    .taking "packet-size" none "PACKET_SIZE" ""
      .word64 (putShape fun v o => { o with packetSize := some v }),
    .taking "train-gap-ms" none "TRAIN_GAP_MS" ""
      .word64 (putShape fun v o => { o with trainGap := some v }) ]

def bindFlag (description : String) : Flag (Given TrainsOptions) :=
  .taking "bind" none "BIND" description .socket (putOwn fun v o => { o with bind := v })

def putPeer : Address.Socket → Given TrainsOptions → Given TrainsOptions :=
  putOwn fun v o => { o with peer := some v }

def peerFlag : Flag (Given TrainsOptions) :=
  .taking "peer" none "PEER" "Only accept trains from this sender" .socket putPeer

def peerArgument : Argument (Given TrainsOptions) :=
  { placeholder := "<PEER>"
    read := reading .socket putPeer
    description := "Address of the receiving probe" }

def trainsLevel : Level (Given TrainsOptions) :=
  commandLevel .trains none
    (bindFlag "Local address to receive on [default: 0.0.0.0:5202]" :: peerFlag :: shapeFlags)

def sendLevel : Level (Given TrainsOptions) :=
  commandLevel .send (some peerArgument) (bindFlag "[default: 0.0.0.0:0]" :: shapeFlags)

def listLevel : Level (Given Unit) :=
  commandLevel .list none []

def helpLevel : Level Unit :=
  { argument := some ⟨"[COMMAND]...", fun _ _ => .ok (), "Print help for the subcommand(s)"⟩
    flags := []
    commands := [] }

def topLevel : Level (Given Unit) :=
  { argument := none
    flags := sharedFlags ++ stopFlags none
    commands := CommandName.all }

/-- What the names behind `help` ask for. No command has commands of its own. -/
def helpTopic : List String → Stop
  | [] => .help none
  | word :: rest =>
    match topLevel.commandNamed? word, rest with
    | some command, [] => .help (some command)
    | some _, next :: _ => .fault (.unknownCommand next)
    | none, _ => .fault (.unknownCommand word)

def Given.map (f : σ → τ) (given : Given σ) : Given τ :=
  ⟨given.shared, f given.own⟩

def sendActivity (given : Given TrainsOptions) : Except Stop (Given Activity) :=
  match given.own.peer with
  | some peer => .ok (given.map fun own => .send own.shape own.bind peer)
  | none => .error (.fault (.missingArgument peerArgument.placeholder))

def readCommand (words : List String) : CommandName → Except Stop (Given Activity)
  | .download => do
    return (← downloadLevel.read (.ofOwn .empty) words).map .download
  | .trains => do
    return (← trainsLevel.read (.ofOwn (.ofPort 5202)) words).map .trains
  | .send => do sendActivity (← sendLevel.read (.ofOwn (.ofPort 0)) words)
  | .list => do
    return (← listLevel.read (.ofOwn ()) words).map fun _ => .list
  | .help => .error (helpTopic words)

end CommandLine

namespace Invocation

/-- What the arguments ask for. A fault behind the command is reported before one in front of it. -/
def parse (words : List String) : Except Stop Invocation := do
  match ← topLevel.scan (.ofRecord (.ofOwn ())) words with
  | (progress, none) =>
    let settled ← progress.settle
    .error (.fault (if settled.seen.isEmpty then .nothingGiven else .missingCommand))
  | (progress, some (command, rest)) =>
    let given ← readCommand rest command
    let outer ← progress.settle
    return { shared := given.shared.orElse outer.record.shared, activity := given.own }

end Invocation

end Throughput
