import Throughput.Error

/-!
# Probe timers

A probe gives up when nothing arrives for the inactivity time, and evaluates once the line has been
silent for the quiet period. Both are spans in nanoseconds.
-/

namespace Throughput

structure ProbeTimers where
  inactivity : Nat
  quiet : Nat
  quiet_lt_inactivity : quiet < inactivity
  deriving DecidableEq, Repr

namespace ProbeTimers

def initial : ProbeTimers :=
  { inactivity := 5000 * nanosPerMilli
    quiet := 1000 * nanosPerMilli
    quiet_lt_inactivity := by decide }

def ofSpans (inactivity quiet : Nat) : Except Refusal ProbeTimers :=
  if h : quiet < inactivity then .ok ⟨inactivity, quiet, h⟩
  else .error (.quietPeriod quiet inactivity)

end ProbeTimers

end Throughput
