import Throughput.Numeric.Word
import Throughput.Sample

/-!
# Rates

Bits per second of a span, the average of a worker's samples in a window, and the breakdown of its
samples into time slots.
-/

namespace Throughput

open Numeric

/-- A span of zero or less carries no usable timing and yields zero. -/
def bitsPerSecond (bytes span : Int) : Float :=
  if span ≤ 0 then 0.0
  else (8.0 * Float.ofInt bytes) / (Float.ofInt span / 1000000000.0)

def byteSum (samples : List Sample) : Int :=
  samples.foldr (fun sample total => sample.bytes + total) 0

theorem byteSum_append (left right : List Sample) :
    byteSum (left ++ right) = byteSum left + byteSum right := by
  induction left with
  | nil => simp [byteSum]
  | cons sample rest ih =>
    change sample.bytes + byteSum (rest ++ right) = sample.bytes + byteSum rest + byteSum right
    rw [ih, Int.add_assoc]

theorem byteSum_singleton (sample : Sample) : byteSum [sample] = sample.bytes :=
  Int.add_zero sample.bytes

/-- The bytes of the samples over the time between the first and the last of them. -/
def rateOf : List Sample → Float
  | [] => 0.0
  | first :: rest =>
    bitsPerSecond (byteSum (first :: rest)) ((rest.getLastD first).elapsed - first.elapsed)

theorem rateOf_eq {samples : List Sample} {first last : Sample}
    (hfirst : samples.head? = some first) (hlast : samples.getLast? = some last) :
    rateOf samples = bitsPerSecond (byteSum samples) (last.elapsed - first.elapsed) := by
  obtain ⟨rest, rfl⟩ := List.head?_eq_some_iff.mp hfirst
  rw [List.getLast?_cons, Option.some.injEq] at hlast
  simp only [rateOf, List.getLastD_eq_getLast?, hlast]

/-- The samples not before `start`, up to the first one after `stop`. -/
def windowSamples (samples : List Sample) (start stop : Int) : List Sample :=
  (samples.filter fun sample => start ≤ sample.elapsed).takeWhile
    fun sample => sample.elapsed ≤ stop

section Window

variable {sample : Sample} {rest : List Sample} {start stop : Int}

theorem windowSamples_before (h : sample.elapsed < start) :
    windowSamples (sample :: rest) start stop = windowSamples rest start stop := by
  rw [windowSamples, List.filter_cons_of_neg (by simpa using h), windowSamples]

theorem windowSamples_after (hstart : ¬ sample.elapsed < start) (hstop : stop < sample.elapsed) :
    windowSamples (sample :: rest) start stop = [] := by
  rw [windowSamples, List.filter_cons_of_pos (by simpa using hstart),
    List.takeWhile_cons_of_neg (by simpa using hstop)]

theorem windowSamples_inside (hstart : ¬ sample.elapsed < start)
    (hstop : ¬ stop < sample.elapsed) :
    windowSamples (sample :: rest) start stop = sample :: windowSamples rest start stop := by
  rw [windowSamples, List.filter_cons_of_pos (by simpa using hstart),
    List.takeWhile_cons_of_pos (by simpa using hstop), windowSamples]

end Window

/-- What one pass over the samples has found of a window: the first sample that is not before it,
the last one inside, and the bytes of those inside. -/
structure WindowScan where
  first : Option Sample
  last : Option Sample
  bytes : Int
  deriving DecidableEq, Repr

namespace WindowScan

def empty : WindowScan :=
  ⟨none, none, 0⟩

def begin (scan : WindowScan) (sample : Sample) : WindowScan :=
  { scan with first := some (scan.first.getD sample) }

def add (scan : WindowScan) (sample : Sample) : WindowScan :=
  { scan with last := some sample, bytes := scan.bytes + sample.bytes }

/-- Goes on to the first sample after `stop`. If none came before it, that one counts as the
first, although it is outside. -/
def pass (start stop : Int) (scan : WindowScan) : List Sample → WindowScan
  | [] => scan
  | sample :: rest =>
    if sample.elapsed < start then pass start stop scan rest
    else if stop < sample.elapsed then scan.begin sample
    else pass start stop ((scan.begin sample).add sample) rest

def rate (scan : WindowScan) : Float :=
  match scan.first, scan.last with
  | some first, some last => bitsPerSecond scan.bytes (last.elapsed - first.elapsed)
  | _, _ => 0.0

/-- The scan that has found these samples inside. -/
def ofInside (inside : List Sample) : WindowScan :=
  ⟨inside.head?, inside.getLast?, byteSum inside⟩

theorem rate_ofInside (inside : List Sample) : (ofInside inside).rate = rateOf inside := by
  cases inside with
  | nil => rfl
  | cons first rest => simp [rate, ofInside, rateOf, List.getLast?_cons]

theorem add_begin_ofInside (inside : List Sample) (sample : Sample) :
    ((ofInside inside).begin sample).add sample = ofInside (inside ++ [sample]) := by
  have hfirst : some (inside.head?.getD sample) = (inside ++ [sample]).head? := by
    cases inside <;> rfl
  simp only [add, begin, ofInside, hfirst, byteSum_append, byteSum_singleton, List.getLast?_concat]

/-- A sample outside that counts as the first one has no last one to go with. -/
theorem rate_begin_ofInside (inside : List Sample) (sample : Sample) :
    ((ofInside inside).begin sample).rate = rateOf inside := by
  cases inside with
  | nil => rfl
  | cons first rest => exact rate_ofInside (first :: rest)

theorem rate_pass (start stop : Int) (inside samples : List Sample) :
    ((ofInside inside).pass start stop samples).rate =
      rateOf (inside ++ windowSamples samples start stop) := by
  induction samples generalizing inside with
  | nil => simp [pass, windowSamples, rate_ofInside]
  | cons sample rest ih =>
    rw [pass]
    split
    · next hbefore => rw [ih, windowSamples_before hbefore]
    · next hstart =>
      split
      · next hafter =>
        rw [rate_begin_ofInside, windowSamples_after hstart hafter, List.append_nil]
      · next hstop =>
        rw [add_begin_ofInside, ih, windowSamples_inside hstart hstop, List.append_assoc,
          List.singleton_append]

end WindowScan

/-- Average throughput inside the closed window. The divisor is the time between the first and the
last sample in it, not the length of the window. -/
def averageThroughput (samples : List Sample) (start stop : Int) : Float :=
  (WindowScan.empty.pass start stop samples).rate

theorem averageThroughput_eq_rateOf (samples : List Sample) (start stop : Int) :
    averageThroughput samples start stop = rateOf (windowSamples samples start stop) :=
  WindowScan.rate_pass start stop [] samples

/-- A time slot that is still being filled. Its span starts at `origin`, the time of the last sample
of the slot before. -/
structure Slot where
  origin : Int
  last : Int
  boundary : Int
  bytes : Int
  deriving DecidableEq, Repr

namespace Slot

def rate (slot : Slot) : Float :=
  bitsPerSecond slot.bytes (slot.last - slot.origin)

def add (slot : Slot) (sample : Sample) : Slot :=
  { slot with last := sample.elapsed, bytes := slot.bytes + sample.bytes }

/-- The slot after this one, opened by a sample past the boundary. The boundary moves on by one slot
length, or to the sample if that is later still. -/
def next (slot : Slot) (length : Int) (sample : Sample) : Slot :=
  { origin := slot.last
    last := sample.elapsed
    boundary := max (clampSigned64 (slot.boundary + length)) sample.elapsed
    bytes := sample.bytes }

def slices (length : Int) (slot : Slot) : List Sample → List Float
  | [] => [slot.rate]
  | sample :: rest =>
    if slot.boundary < sample.elapsed then
      slot.rate :: slices length (slot.next length sample) rest
    else
      slices length (slot.add sample) rest

end Slot

/-- The slot length in nanoseconds. A length beyond the signed range of milliseconds counts as the
longest one that is whole in milliseconds. -/
def slotLength (millis : Nat) : Int :=
  let whole : Int := if (millis : Int) ≤ maxSigned64 then millis else maxSigned64 / nanosPerMilli
  clampSigned64 (whole * nanosPerMilli)

/-- Splits a worker's samples into consecutive slots of nominal length. Slots stretch across gaps
rather than being empty, and what remains after the last boundary makes the final slot. -/
def timeSlices (samples : List Sample) (slotMillis : Nat) : List Float :=
  match samples with
  | [] => []
  | first :: rest =>
    let length := slotLength slotMillis
    Slot.slices length ⟨first.elapsed, first.elapsed, length, first.bytes⟩ rest

end Throughput
