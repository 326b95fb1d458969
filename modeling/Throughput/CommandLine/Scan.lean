import Throughput.CommandLine.Level

/-!
# Scanning arguments

The arguments of one level are read from left to right. A value is read only when the next flag or
argument begins, so of two faults the one that stands further left need not be the one reported.
-/

namespace Throughput.CommandLine

/-- Something that takes a value, under the name by which a fault speaks of it. -/
structure Slot (σ : Type) where
  name : String
  read : String → σ → Except ValueFault σ

structure Progress (σ : Type) where
  record : σ
  seen : List String
  /-- A slot that is not read yet, with its value if it has one. -/
  pending : Option (Slot σ × Option String)
  argumentTaken : Bool
  /-- Behind a double hyphen there are no more flags. -/
  trailing : Bool

variable {σ : Type}

namespace Progress

def ofRecord (record : σ) : Progress σ :=
  { record, seen := [], pending := none, argumentTaken := false, trailing := false }

def awaits (progress : Progress σ) : Bool :=
  match progress.pending with
  | some (_, none) => !progress.trailing
  | _ => false

/-- Nothing may be given twice. -/
def mark (progress : Progress σ) (name : String) : Except Stop (Progress σ) :=
  if progress.seen.contains name then .error (.fault (.repeatedFlag name))
  else .ok { progress with seen := name :: progress.seen }

def assign (progress : Progress σ) (slot : Slot σ) (value : String) :
    Except Stop (Progress σ) := do
  let marked ← progress.mark slot.name
  match slot.read value marked.record with
  | .ok record => return { marked with record }
  | .error .empty => .error (.fault (.missingValue slot.name))
  | .error .malformed => .error (.fault (.malformedValue slot.name value))

def settle (progress : Progress σ) : Except Stop (Progress σ) :=
  match progress.pending with
  | none => .ok progress
  | some (slot, none) => .error (.fault (.missingValue slot.name))
  | some (slot, some value) => { progress with pending := none }.assign slot value

def applyFlag (progress : Progress σ) (flag : Flag σ) (attached : Option String) :
    Except Stop (Progress σ) :=
  match flag.effect, attached with
  | .take _ read, none => do
    return { ← progress.settle with pending := some (⟨flag.shown, read⟩, none) }
  | .take _ read, some value => do (← progress.settle).assign ⟨flag.shown, read⟩ value
  | .change change, none => do
    let marked ← (← progress.settle).mark flag.shown
    return { marked with record := change marked.record }
  | .stop stop, none => do
    let _ ← progress.settle
    .error stop
  | .change _, some value | .stop _, some value =>
    .error (.fault (.surplusValue flag.shown value))

end Progress

namespace Level

def unknown (word : String) : Except Stop (Progress σ) :=
  .error (.fault (.unknownArgument word))

/-- What stands behind two hyphens: a name, and behind an equals sign its value. -/
def scanLong (level : Level σ) (progress : Progress σ) (body : List Char) :
    Except Stop (Progress σ) :=
  let name := String.ofList (body.takeWhile (· ≠ '='))
  match level.flagNamed? name with
  | none => unknown ("--" ++ name)
  | some flag =>
    match body.dropWhile (· ≠ '=') with
    | [] => progress.applyFlag flag none
    | _ :: value => progress.applyFlag flag (some (String.ofList value))

/-- The value that follows a short flag in the same argument. An equals sign may stand between. -/
def attached? : List Char → Option String
  | [] => none
  | '=' :: value => some (String.ofList value)
  | value => some (String.ofList value)

/-- What stands behind one hyphen: short flags, the last of which may take a value. -/
def scanShort (level : Level σ) (progress : Progress σ) : List Char → Except Stop (Progress σ)
  | [] => .ok progress
  | c :: rest =>
    match level.shortFlag? c with
    | none => unknown (String.ofList ['-', c])
    | some flag =>
      match flag.effect with
      | .take .. => progress.applyFlag flag (attached? rest)
      | _ => do level.scanShort (← progress.applyFlag flag none) rest

/-- Why an argument finds no place. At a level with commands it should have been one, unless it is
one behind a double hyphen. -/
def misplaced (level : Level σ) (progress : Progress σ) (word : String) : Fault :=
  if level.commands.isEmpty then .unknownArgument word
  else if progress.trailing && (level.commandNamed? word).isSome then .unknownArgument word
  else .unknownCommand word

def place (level : Level σ) (progress : Progress σ) (word : String) : Except Stop (Progress σ) :=
  match level.argument with
  | some argument =>
    if progress.argumentTaken then
      .error (.fault (level.misplaced progress word))
    else do
      return { ← progress.settle with
        pending := some (⟨argument.placeholder, argument.read⟩, some word)
        argumentTaken := true }
  | none => .error (.fault (level.misplaced progress word))

def scanWord (level : Level σ) (progress : Progress σ) (word : String) :
    Except Stop (Progress σ) :=
  if progress.trailing then
    level.place progress word
  else
    match word.toList, progress.pending with
    | ['-', '-'], _ => .ok { progress with trailing := true }
    | '-' :: '-' :: body, _ => level.scanLong progress body
    | '-' :: c :: rest, _ => level.scanShort progress (c :: rest)
    | _, some (slot, none) => .ok { progress with pending := some (slot, some word) }
    | _, _ => level.place progress word

def commandAt? (level : Level σ) (progress : Progress σ) (word : String) : Option CommandName :=
  if progress.trailing || progress.awaits then none else level.commandNamed? word

def scan (level : Level σ) (progress : Progress σ) :
    List String → Except Stop (Progress σ × Option (CommandName × List String))
  | [] => .ok (progress, none)
  | word :: rest =>
    match level.commandAt? progress word with
    | some command => .ok (progress, some (command, rest))
    | none => do level.scan (← level.scanWord progress word) rest

def read (level : Level σ) (initial : σ) (words : List String) : Except Stop σ := do
  let (progress, _) ← level.scan (.ofRecord initial) words
  return (← progress.settle).record

end Level

end Throughput.CommandLine
