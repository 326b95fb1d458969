import Std.Async.System
import Std.Time
import Throughput.Program

/-!
# Command line

Reads what the program needs of its host, runs it, and prints what it says. Measurements take place
on the virtual clock of this library, on a network that is cut off.
-/

namespace Throughput

open CommandLine

def readText? (path : String) : IO (Option String) := do
  try
    return some (← IO.FS.readFile path)
  catch _ =>
    return none

def localTime : IO LocalTime := do
  let now ← Std.Time.PlainDateTime.now
  return ⟨now.year.toInt, now.month.toNat, now.day.toNat, now.hour.toNat, now.minute.toNat,
    now.second.toNat, now.nanosecond.toNat⟩

def readHost (arguments : List String) : IO Host := do
  let environment ← Std.Internal.UV.System.osEnviron
  let host : Host :=
    { file := fun _ => none
      writeFault? := fun _ => none
      environment := environment.toList
      home := environment.toList.lookup "HOME"
      network := .isolated
      connections := []
      datagrams := []
      clock := ← localTime }
  let asked := (Invocation.parse arguments).toOption.bind fun given => given.shared.config
  match asked <|> host.defaultPath? with
  | none => return host
  | some path =>
    let text ← readText? path
    return { host with file := fun other => if other = path then text else none }

def writeOutput (exit : Exit) : IO Exit := do
  match exit.written with
  | none => return exit
  | some (path, text) =>
    try
      IO.FS.writeFile path text
      return exit
    catch e =>
      return .failing (.write path (toString e))

end Throughput

open Throughput in
def main (arguments : List String) : IO UInt32 := do
  let host ← readHost arguments
  let exit ← writeOutput (host.run arguments)
  IO.print exit.output
  IO.eprint exit.errors
  return UInt32.ofNat exit.code
