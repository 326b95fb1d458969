import Throughput.CommandLine.Fault
import Throughput.CommandLine.Value

/-!
# Levels of a command line

What may stand behind the name of the program, or of one of its commands: flags, at most one
argument without a flag, and the names of further commands. Whatever is read changes one record.
-/

namespace Throughput.CommandLine

inductive Effect (σ : Type) where
  | take (placeholder : String) (read : String → σ → Except ValueFault σ)
  | change (change : σ → σ)
  | stop (stop : Stop)

structure Flag (σ : Type) where
  name : String
  short : Option Char
  effect : Effect σ
  description : String

structure Argument (σ : Type) where
  placeholder : String
  read : String → σ → Except ValueFault σ
  description : String

structure Level (σ : Type) where
  argument : Option (Argument σ)
  flags : List (Flag σ)
  commands : List CommandName

variable {σ τ α : Type}

/-- Reads a value and puts it into the record. -/
def reading (reader : Reader α) (put : α → σ → σ) (text : String) (record : σ) :
    Except ValueFault σ :=
  (reader text).map fun value => put value record

namespace Flag

def shown (flag : Flag σ) : String :=
  "--" ++ flag.name

def key (flag : Flag σ) : String :=
  (flag.short.map Char.toString).getD flag.name

/-- Two lists of flags side by side. Of two flags at the same place the one with the smaller key
comes first. -/
def interleave : List (Flag σ) → List (Flag σ) → List (Flag σ)
  | a :: rest, b :: others =>
    if a.key ≤ b.key then a :: b :: interleave rest others else b :: a :: interleave rest others
  | [], others => others
  | rest, [] => rest

def taking (name : String) (short : Option Char) (placeholder description : String)
    (reader : Reader α) (put : α → σ → σ) : Flag σ :=
  ⟨name, short, .take placeholder (reading reader put), description⟩

end Flag

namespace Level

def flagNamed? (level : Level σ) (name : String) : Option (Flag σ) :=
  level.flags.find? (·.name = name)

def shortFlag? (level : Level σ) (c : Char) : Option (Flag σ) :=
  level.flags.find? (·.short = some c)

def commandNamed? (level : Level σ) (word : String) : Option CommandName :=
  level.commands.find? (·.answersTo word)

end Level

end Throughput.CommandLine
