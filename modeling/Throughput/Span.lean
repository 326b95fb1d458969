/-!
# Spans of time

Spans are whole numbers of nanoseconds. A span is shown in the largest unit with a non-zero integer
part, with all the decimals it needs and no trailing zeros.
-/

namespace Throughput

def nanosPerMilli : Nat := 1000000

namespace Span

def ofMillis (millis : Nat) : Nat :=
  millis * nanosPerMilli

def toMillis (nanos : Nat) : Nat :=
  nanos / nanosPerMilli

structure TimeUnit where
  size : Nat
  name : String

def second : TimeUnit := ⟨1000000000, "s"⟩

def milli : TimeUnit := ⟨1000000, "ms"⟩

def micro : TimeUnit := ⟨1000, "µs"⟩

def nano : TimeUnit := ⟨1, "ns"⟩

/-- The largest unit that fits into the span. -/
def unitOf (nanos : Nat) : TimeUnit :=
  if second.size ≤ nanos then second
  else if milli.size ≤ nanos then milli
  else if micro.size ≤ nanos then micro
  else nano

/-- The decimals of `rest / 10 ^ k` where `scale = 10 ^ k`, up to the last one that is not zero. -/
def decimals (rest scale : Nat) : List Char :=
  if h : rest = 0 ∨ scale < 10 then
    []
  else
    Nat.digitChar (rest / (scale / 10)) :: decimals (rest % (scale / 10)) (scale / 10)
  termination_by scale
  decreasing_by omega

def text (nanos : Nat) : String :=
  let unit := unitOf nanos
  let whole := toString (nanos / unit.size)
  match decimals (nanos % unit.size) unit.size with
  | [] => whole ++ unit.name
  | fraction => whole ++ "." ++ String.ofList fraction ++ unit.name

end Span

end Throughput
