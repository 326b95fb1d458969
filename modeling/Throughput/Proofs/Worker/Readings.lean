import Throughput.Proofs.Tracker.Log
import Throughput.Worker.Task

/-!
# Workers by what they have read

A worker whose request went out at the start of the run is settled by its readings. The first one
decides whether it downloads. From then on it takes samples until the server ends the stream.
-/

namespace Throughput

/-- What a worker reads, and when, in nanoseconds since the start of the run. -/
structure TimedReading where
  time : Nat
  reading : Reading
  deriving DecidableEq, Repr

namespace TimedReading

def ends (timed : TimedReading) : Bool :=
  match timed.reading with
  | .bytes 0 | .broken => true
  | .bytes (_ + 1) | .timeout => false

def brings (timed : TimedReading) : Bool :=
  match timed.reading with
  | .bytes (_ + 1) => true
  | .bytes 0 | .broken | .timeout => false

def sample? (timed : TimedReading) : Option Sample :=
  match timed.reading with
  | .bytes (count + 1) => some ⟨timed.time, (count + 1 : Nat)⟩
  | .bytes 0 | .broken | .timeout => none

end TimedReading

abbrev Readings := List TimedReading

namespace Readings

/-- The first reading has come, and it brings bytes. -/
def delivers (readings : Readings) : Bool :=
  readings.head?.any TimedReading.brings

def closes (readings : Readings) : Bool :=
  readings.any TimedReading.ends

/-- The samples up to the end of the stream. -/
def samples (readings : Readings) : List Sample :=
  (readings.takeWhile fun timed => !timed.ends).filterMap TimedReading.sample?

def firstTime (readings : Readings) : Nat :=
  (readings.head?.map TimedReading.time).getD 0

/-- When the server ended the stream, or the start of the run. -/
def closingTime (readings : Readings) : Nat :=
  ((readings.find? TimedReading.ends).map TimedReading.time).getD 0

theorem ne_nil_of_delivers {readings : Readings} (h : readings.delivers = true) :
    readings ≠ [] := by
  rintro rfl
  simp [delivers] at h

section Append

variable {readings : Readings} {timed : TimedReading}

theorem delivers_append (hbegun : readings ≠ []) (more : Readings) :
    delivers (readings ++ more) = delivers readings := by
  obtain ⟨first, rest, rfl⟩ := List.exists_cons_of_ne_nil hbegun
  rfl

theorem firstTime_append (hbegun : readings ≠ []) (more : Readings) :
    firstTime (readings ++ more) = firstTime readings := by
  obtain ⟨first, rest, rfl⟩ := List.exists_cons_of_ne_nil hbegun
  rfl

theorem closes_append (more : Readings) :
    closes (readings ++ more) = (closes readings || closes more) :=
  List.any_append

theorem closes_singleton : closes [timed] = timed.ends := by
  simp [closes]

theorem samples_singleton : samples [timed] = timed.sample?.toList := by
  obtain ⟨time, reading⟩ := timed
  rcases reading with (_ | count) | _ | _ <;> rfl

theorem closingTime_append (hclosed : closes readings = true) (more : Readings) :
    closingTime (readings ++ more) = closingTime readings := by
  obtain ⟨last, hmem, hends⟩ := List.any_eq_true.mp hclosed
  have hfound : (readings.find? TimedReading.ends).isSome = true :=
    List.find?_isSome.mpr ⟨last, hmem, hends⟩
  rw [closingTime, List.find?_append, Option.or_of_isSome hfound, closingTime]

theorem exists_ending (hclosed : closes readings = true) :
    ∃ ending ∈ readings, ending.ends = true ∧ ending.time = closingTime readings := by
  obtain ⟨last, hmem, hends⟩ := List.any_eq_true.mp hclosed
  cases hfound : readings.find? TimedReading.ends with
  | none => exact absurd hends (List.find?_eq_none.mp hfound last hmem)
  | some ending =>
    refine ⟨ending, List.mem_of_find?_eq_some hfound, List.find?_some hfound, ?_⟩
    rw [closingTime, hfound]
    rfl

theorem samples_append (more : Readings) :
    samples (readings ++ more) =
      samples readings ++ if closes readings then [] else samples more := by
  induction readings with
  | nil => rfl
  | cons first rest ih =>
    by_cases hends : first.ends = true
    · simp [samples, closes, hends]
    · rw [Bool.not_eq_true] at hends
      simp only [samples, closes, List.cons_append, List.takeWhile_cons, hends, List.any_cons]
        at ih ⊢
      simp [List.filterMap_cons, ih]
      cases first.sample? <;> simp

end Append

def before (stop : Nat) (readings : Readings) : Readings :=
  readings.filter fun timed => timed.time < stop

section Before

variable {readings : Readings} {stop : Nat} (hbegun : readings ≠ [])
  (hfirst : readings.firstTime < stop)
include hbegun hfirst

theorem head?_before : (readings.before stop).head? = readings.head? := by
  obtain ⟨first, rest, rfl⟩ := List.exists_cons_of_ne_nil hbegun
  have htime : first.time < stop := hfirst
  rw [before, List.filter_cons_of_pos (by simpa using htime)]
  rfl

theorem delivers_before : (readings.before stop).delivers = readings.delivers := by
  rw [delivers, head?_before hbegun hfirst, delivers]

theorem firstTime_before : (readings.before stop).firstTime = readings.firstTime := by
  rw [firstTime, head?_before hbegun hfirst, firstTime]

theorem before_ne_nil : readings.before stop ≠ [] := by
  intro hnil
  have hhead := head?_before hbegun hfirst
  rw [hnil] at hhead
  exact hbegun (List.head?_eq_none_iff.mp hhead.symm)

end Before

end Readings

/-- The worker that has read so much. -/
def Worker.ofReadings (id : Nat) (readings : Readings) : Worker :=
  let awaiting := ((Worker.ofId id).finishConnect true).await 0
  if readings = [] then awaiting
  else if readings.delivers then
    { awaiting with
      state := if readings.closes then .succeeded else .downloading
      holdsStream := !readings.closes
      firstByte := some readings.firstTime
      samples := readings.samples }
  else awaiting.fail

namespace Task

/-- A download goes on until the stream ends. -/
theorem onRead_of_open {worker : Worker} {now : Nat} {reading : Reading}
    (hstate : worker.state = .downloading) (hopen : (TimedReading.mk now reading).ends = false) :
    (⟨worker, .bytes⟩ : Task).onRead now reading =
      (⟨worker.readNext now reading, .bytes⟩, none) := by
  rcases reading with (_ | count) | _ | _
  · cases hopen
  · simp [onRead, Worker.readNext, Worker.record, hstate, WorkerState.isFinished]
  · cases hopen
  · simp [onRead, Worker.readNext, hstate, WorkerState.isFinished]

def ofReadings (id : Nat) (readings : Readings) : Task where
  worker := .ofReadings id readings
  phase :=
    if readings = [] then .firstByte
    else if readings.delivers && !readings.closes then .bytes
    else .done

/-- What the worker reports on its next reading. -/
def eventOf (id : Nat) (before : Readings) (timed : TimedReading) : Option WorkerEvent :=
  if before = [] then some (.firstByte id timed.brings)
  else if before.delivers && !before.closes && timed.ends then some (.disconnected id)
  else none

section Step

variable {id : Nat} {before : Readings} {timed : TimedReading}

theorem happen_first :
    (ofReadings id []).happen timed.time (.read timed.reading) =
      (ofReadings id [timed], eventOf id [] timed) := by
  obtain ⟨time, reading⟩ := timed
  rcases reading with (_ | count) | _ | _ <;>
    simp [ofReadings, Worker.ofReadings, happen, onFirstRead, Worker.readFirst, eventOf,
      Readings.delivers, Readings.closes, Readings.samples, Readings.firstTime,
      TimedReading.brings, TimedReading.ends, TimedReading.sample?, Worker.finishConnect,
      Worker.ofId, Worker.await, Worker.fail, Worker.record, Worker.elapsed, settle, halt,
      Worker.stop, WorkerState.isFinished]

theorem ofReadings_append (hbegun : before ≠ [])
    (hover : (before.delivers && !before.closes) = false) (more : Readings) :
    ofReadings id (before ++ more) = ofReadings id before := by
  have hnil : before ++ more ≠ [] := List.append_ne_nil_of_left_ne_nil hbegun more
  by_cases hdelivers : before.delivers = true
  · have hcloses : before.closes = true := by simpa [hdelivers] using hover
    simp only [ofReadings, Worker.ofReadings, hbegun, hnil, Readings.delivers_append hbegun,
      Readings.closes_append, Readings.firstTime_append hbegun, Readings.samples_append, hcloses,
      Bool.true_or, if_true, List.append_nil]
  · simp only [ofReadings, Worker.ofReadings, hbegun, hnil, Readings.delivers_append hbegun,
      hdelivers, Bool.false_and, Bool.false_eq_true, if_false]

theorem happen_over (hbegun : before ≠ [])
    (hover : (before.delivers && !before.closes) = false) :
    (ofReadings id before).happen timed.time (.read timed.reading) =
      (ofReadings id (before ++ [timed]), eventOf id before timed) := by
  have hphase : (ofReadings id before).phase = .done := by
    simp [ofReadings, hbegun, hover]
  rw [ofReadings_append hbegun hover, eventOf, if_neg hbegun, hover]
  simp only [happen, hphase]
  rfl

theorem happen_downloading (hbegun : before ≠ []) (hdelivers : before.delivers = true)
    (hopen : before.closes = false) :
    (ofReadings id before).happen timed.time (.read timed.reading) =
      (ofReadings id (before ++ [timed]), eventOf id before timed) := by
  have htask : ofReadings id before = ⟨.ofReadings id before, .bytes⟩ := by
    simp [ofReadings, hbegun, hdelivers, hopen]
  have hmore : before ++ [timed] ≠ [] := by simp
  rw [htask, eventOf, if_neg hbegun, hdelivers, hopen]
  simp only [happen, onRead, ofReadings, Worker.ofReadings, hbegun, hmore, hdelivers, hopen,
    Readings.delivers_append hbegun, Readings.firstTime_append hbegun, Readings.closes_append,
    Readings.samples_append, Readings.closes_singleton, Readings.samples_singleton]
  obtain ⟨time, reading⟩ := timed
  rcases reading with (_ | count) | _ | _ <;>
    simp [TimedReading.ends, TimedReading.sample?, Worker.readNext, Worker.record, Worker.elapsed,
      Worker.finish, Worker.finishConnect, Worker.await, halt, Worker.stop, Worker.ofId,
      WorkerState.isFinished]

end Step

/-- A reading takes the task of a worker to the task that has read it as well. -/
theorem happen_ofReadings (id : Nat) (before : Readings) (timed : TimedReading) :
    (ofReadings id before).happen timed.time (.read timed.reading) =
      (ofReadings id (before ++ [timed]), eventOf id before timed) := by
  by_cases hnil : before = []
  · subst hnil
    exact happen_first
  · by_cases hopen : (before.delivers && !before.closes) = true
    · obtain ⟨hdelivers, hcloses⟩ := Bool.and_eq_true_iff.mp hopen
      exact happen_downloading hnil hdelivers (by simpa using hcloses)
    · exact happen_over hnil (Bool.eq_false_iff.mpr hopen)

/-- What the worker has reported, from its connection on. -/
def said (id : Nat) (readings : Readings) : List WorkerEvent :=
  .connected id true ::
    if readings = [] then []
    else .firstByte id readings.delivers ::
      if readings.delivers && readings.closes then [.disconnected id] else []

theorem said_concat (id : Nat) (before : Readings) (timed : TimedReading) :
    said id (before ++ [timed]) = said id before ++ (eventOf id before timed).toList := by
  have hmore : before ++ [timed] ≠ [] := by simp
  by_cases hnil : before = []
  · subst hnil
    obtain ⟨time, reading⟩ := timed
    rcases reading with (_ | count) | _ | _ <;>
      simp [said, eventOf, Readings.delivers, Readings.closes, TimedReading.brings,
        TimedReading.ends]
  · simp only [said, eventOf, hnil, hmore, if_false, Readings.delivers_append hnil,
      Readings.closes_append, Readings.closes_singleton]
    cases before.delivers <;> cases before.closes <;> cases timed.ends <;> simp

section Said

variable {id other : Nat} {ok : Bool} {readings : Readings}

@[simp]
theorem connected_mem_said : .connected other ok ∈ said id readings ↔ other = id ∧ ok = true := by
  by_cases hnil : readings = []
  · simp [said, hnil]
  · cases hclosed : readings.delivers && readings.closes <;> simp [said, hnil, hclosed]

@[simp]
theorem firstByte_mem_said :
    .firstByte other ok ∈ said id readings ↔
      other = id ∧ readings ≠ [] ∧ ok = readings.delivers := by
  by_cases hnil : readings = []
  · simp [said, hnil]
  · cases hclosed : readings.delivers && readings.closes <;> simp [said, hnil, hclosed]

@[simp]
theorem disconnected_mem_said :
    .disconnected other ∈ said id readings ↔
      other = id ∧ readings.delivers = true ∧ readings.closes = true := by
  by_cases hnil : readings = []
  · simp [said, hnil, Readings.delivers]
  · rw [← Bool.and_eq_true_iff]
    cases hclosed : readings.delivers && readings.closes <;> simp [said, hnil, hclosed]

theorem worker_of_mem_said {event : WorkerEvent} (hmem : event ∈ said id readings) :
    event.worker = id := by
  cases event with
  | connected other ok => exact (connected_mem_said.mp hmem).1
  | firstByte other ok => exact (firstByte_mem_said.mp hmem).1
  | disconnected other => exact (disconnected_mem_said.mp hmem).1

theorem worker_of_eventOf {event : WorkerEvent} {timed : TimedReading}
    (h : eventOf id readings timed = some event) : event.worker = id := by
  have hmem : event ∈ said id (readings ++ [timed]) := by
    rw [said_concat, h]
    exact List.mem_append_right _ (List.mem_singleton.mpr rfl)
  exact worker_of_mem_said hmem

end Said

end Task

namespace Worker

def reported (id : Nat) (readings : Readings) : Worker :=
  ((Task.ofReadings id readings).obey .stop).worker

variable {id : Nat} {readings : Readings}

theorem reported_of_delivers (h : readings.delivers = true) :
    reported id readings =
      { id
        state := .succeeded
        holdsStream := false
        started := some 0
        firstByte := some readings.firstTime
        samples := readings.samples } := by
  have hbegun := Readings.ne_nil_of_delivers h
  cases hcloses : readings.closes <;>
    simp [reported, Task.ofReadings, ofReadings, hbegun, h, hcloses, Task.obey, Task.halt, stop,
      await, finishConnect, ofId]

theorem reported_of_silent (hbegun : readings ≠ []) (h : readings.delivers = false) :
    reported id readings =
      { id
        state := .failed
        holdsStream := false
        started := some 0
        firstByte := none
        samples := [] } := by
  simp [reported, Task.ofReadings, ofReadings, hbegun, h, Task.obey, fail, await, finishConnect,
    ofId]

/-- A worker that reports has been stopped. -/
theorem reported_stopped (id : Nat) (readings : Readings) :
    (reported id readings).id = id ∧ (reported id readings).holdsStream = false ∧
      (reported id readings).state ≠ .downloading := by
  by_cases hbegun : readings = []
  · subst hbegun
    exact ⟨rfl, rfl, WorkerState.noConfusion⟩
  · cases hdelivers : readings.delivers with
    | true =>
      rw [reported_of_delivers hdelivers]
      exact ⟨rfl, rfl, WorkerState.noConfusion⟩
    | false =>
      rw [reported_of_silent hbegun hdelivers]
      exact ⟨rfl, rfl, WorkerState.noConfusion⟩

end Worker

end Throughput
