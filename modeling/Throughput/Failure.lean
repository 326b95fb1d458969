import Throughput.Address.Socket
import Throughput.Error
import Throughput.Kind
import Throughput.Text.Fields

/-!
# Failures

Why the program ends without having done what it was asked for: a message and below it the messages
of its causes.
-/

namespace Throughput

open Address

inductive Failure where
  | unregistered (kind : Kind)
  | measurement (e : MeasureError)
  | bind (address : Socket) (cause : String)
  | connect (address : Socket) (cause : String)
  | run (kind : Kind) (e : MeasureError)
  | configuration (cause : String)
  | write (path cause : String)
  deriving DecidableEq, Repr

namespace Failure

def errorChain (e : MeasureError) : List String :=
  e.message :: e.cause?.toList

def chain : Failure → List String
  | .unregistered kind => [s!"no measurement registered for '{kind.name}'"]
  | .measurement e => errorChain e
  | .bind address cause => ["failed to bind " ++ String.ofList address.text, cause]
  | .connect address cause => ["failed to connect to " ++ String.ofList address.text, cause]
  | .run kind e => (kind.name ++ " measurement failed") :: errorChain e
  | .configuration cause => ["failed to load configuration", cause]
  | .write path cause => ["failed to write " ++ path, cause]

/-- A cause with its lines below each other. Several causes are numbered. -/
def causeText (number : Option Nat) (cause : String) : List Char :=
  let (first, next) : String × String := match number with
    | some n => ("    " ++ String.ofList (Text.decimal n) ++ ": ", "       ")
    | none => ("    ", "    ")
  match Text.splitOn '\n' cause.toList with
  | [] => first.toList
  | line :: lines =>
    first.toList ++ Text.joinWith '\n' (line :: lines.map (next.toList ++ ·))

def causeTexts (causes : List String) : List (List Char) :=
  match causes with
  | [cause] => [causeText none cause]
  | _ => causes.zipIdx.map fun (cause, n) => causeText (some n) cause

def report (failure : Failure) : String :=
  match failure.chain with
  | [] => ""
  | [message] => s!"Error: {message}\n"
  | message :: causes =>
    let listed := String.ofList (Text.joinWith '\n' (causeTexts causes))
    s!"Error: {message}\n\nCaused by:\n{listed}\n"

end Failure

end Throughput
