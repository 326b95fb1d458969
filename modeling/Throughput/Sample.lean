import Throughput.Span

/-!
# Samples

A sample is one read of a worker: when it happened, counted in nanoseconds from the moment the
request was written, and how many bytes it brought.
-/

namespace Throughput

structure Sample where
  elapsed : Int
  bytes : Int
  deriving DecidableEq, Repr

def Sample.ofMillis (millis bytes : Int) : Sample :=
  ⟨millis * nanosPerMilli, bytes⟩

def totalBytes (samples : List Sample) : Nat :=
  samples.foldr (fun sample total => sample.bytes.toNat + total) 0

@[simp]
theorem totalBytes_nil : totalBytes [] = 0 := rfl

@[simp]
theorem totalBytes_cons (sample : Sample) (samples : List Sample) :
    totalBytes (sample :: samples) = sample.bytes.toNat + totalBytes samples := rfl

theorem totalBytes_append (left right : List Sample) :
    totalBytes (left ++ right) = totalBytes left + totalBytes right := by
  induction left with
  | nil => simp
  | cons sample rest ih => simp [ih, Nat.add_assoc]

end Throughput
