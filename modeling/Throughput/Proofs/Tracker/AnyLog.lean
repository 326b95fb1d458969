import Throughput.Proofs.Latch.Reports
import Throughput.Proofs.Tracker.Interleaving

/-!
# Trackers told anything

Events of strange workers, events that come twice or too early, events after the run has failed:
whatever a tracker is told, each of its latches only ever counts reports. So the transfer begins at
most once, the window opens at most once and never closes, and a run that is over stays over.
-/

namespace Throughput

/-- What an event reports to the first latch. -/
def WorkerEvent.handshake? : WorkerEvent → Option Bool
  | .connected _ ok => some ok
  | .firstByte _ _ | .disconnected _ => none

theorem WorkerEvent.length_handshakes (log : List WorkerEvent) :
    (log.filterMap handshake?).length = log.countP isConnected := by
  rw [List.length_filterMap_eq_countP]
  apply List.countP_congr
  intro event _
  cases event <;> simp [handshake?, isConnected]

theorem WorkerEvent.handshakes_concat (log : List WorkerEvent) (event : WorkerEvent) :
    (log ++ [event]).filterMap handshake? =
      log.filterMap handshake? ++ event.handshake?.toList := by
  rw [List.filterMap_append]
  cases event <;> rfl

namespace Tracker

/-- The transfer begins, or the run ends because it cannot. -/
def isBeginning : Except MeasureError Step → Bool
  | .ok (.beginTransfer _) | .error .connection => true
  | _ => false

/-- The window opens, or the run ends because it cannot. -/
def isOpening : Except MeasureError Step → Bool
  | .ok .openWindow | .error .transfer => true
  | _ => false

/-- One answer of the tracker for each event of a log. -/
def replies (workers : Nat) (log : List WorkerEvent) : List (Except MeasureError Step) :=
  Dialogue.answers onEvent (ofWorkers workers) log

/-- The failures that are passed on to the second latch where the first one answers. A run without
any connection is over, so that none are passed on. -/
def absent : Option Tally → Nat
  | none => 0
  | some tally => if tally.noneSucceeded then 0 else tally.failed

/-- The failures that are passed on by the time a list of handshakes is in. Only the first of them
count, as many as there are workers. -/
def absentIn (workers : Nat) (handshakes : List Bool) : Nat :=
  if workers ≤ handshakes.length then absent (some (.ofReports (handshakes.take workers))) else 0

/-- What an event makes a tracker report to the second latch. -/
def transferReports (tracker : Tracker) : WorkerEvent → List Bool
  | .connected _ ok => List.replicate (absent (tracker.handshakes.record ok).2) false
  | .firstByte _ ok => [ok]
  | .disconnected _ => []

/-! ### One event -/

/-- What an event does to a tracker, and how it is answered. -/
structure Moves (tracker : Tracker) (event : WorkerEvent) : Prop where
  handshakes : (tracker.onEvent event).1.handshakes =
    Dialogue.after Latch.record tracker.handshakes event.handshake?.toList
  transfers : (tracker.onEvent event).1.transfers =
    Dialogue.after Latch.record tracker.transfers (tracker.transferReports event)
  disconnected : tracker.disconnected ≤ (tracker.onEvent event).1.disconnected
  begins_iff : isBeginning (tracker.onEvent event).2 = true ↔
    tracker.handshakes.fired = false ∧ (tracker.onEvent event).1.handshakes.fired = true
  opens_iff : isOpening (tracker.onEvent event).2 = true ↔ event.isFirstByte = true ∧
    tracker.windowOpen = false ∧ (tracker.onEvent event).1.windowOpen = true
  finalizes_iff : (tracker.onEvent event).2 = .ok .finalize ↔
    (∃ worker, event = .disconnected worker) ∧ (tracker.onEvent event).1.allDisconnected = true

section Moves

variable (tracker : Tracker) (worker : Nat) (ok : Bool)

/-- The first latch counts a handshake, and where it fires the transfer begins or cannot begin. The
second latch may be told of failures then. If they make it fire as well, nobody hears of it. -/
theorem exists_onConnected_eq : ∃ answer,
    tracker.onConnected worker ok =
      ({ tracker.noteConnected worker ok with
          handshakes := (tracker.handshakes.record ok).1
          transfers := tracker.transfers.recordFailures
            (absent (tracker.handshakes.record ok).2) }, answer) ∧
      isBeginning answer = (tracker.handshakes.record ok).2.isSome ∧
      isOpening answer = false ∧ answer ≠ .ok .finalize := by
  have hhandshakes : (tracker.noteConnected worker ok).handshakes = tracker.handshakes := by
    cases ok <;> rfl
  have htransfers : (tracker.noteConnected worker ok).transfers = tracker.transfers := by
    cases ok <;> rfl
  rw [onConnected, hhandshakes, ← htransfers]
  rcases tracker.handshakes.record ok with ⟨handshakes, _ | tally⟩
  · exact ⟨.ok .wait, rfl, rfl, rfl, by simp⟩
  · by_cases hnone : tally.noneSucceeded = true
    · rw [absent, if_pos hnone]
      exact ⟨.error .connection, if_pos hnone, rfl, rfl, by simp⟩
    · rw [absent, if_neg hnone]
      exact ⟨_, if_neg hnone, rfl, rfl, by simp⟩

theorem moves_connected : tracker.Moves (.connected worker ok) := by
  obtain ⟨answer, heq, hbegins, hopens, hfinalizes⟩ := tracker.exists_onConnected_eq worker ok
  constructor <;> rw [onEvent, heq]
  case handshakes => rfl
  case transfers => exact Latch.recordFailures_eq_after _ _
  case disconnected => cases ok <;> exact Nat.le_refl _
  case begins_iff =>
    rw [hbegins]
    exact Latch.isSome_record_iff ok
  case opens_iff => simp [hopens, WorkerEvent.isFirstByte]
  case finalizes_iff => simp [hfinalizes]

/-- The second latch counts a first byte, and where it fires the window opens or cannot open. -/
theorem exists_onFirstByte_eq : ∃ answer,
    tracker.onFirstByte ok =
      ({ tracker with transfers := (tracker.transfers.record ok).1 }, answer) ∧
      isOpening answer = (tracker.transfers.record ok).2.isSome ∧
      isBeginning answer = false ∧ answer ≠ .ok .finalize := by
  rw [onFirstByte]
  rcases tracker.transfers.record ok with ⟨transfers, _ | tally⟩
  · exact ⟨.ok .wait, rfl, rfl, rfl, by simp⟩
  · by_cases hnone : tally.noneSucceeded = true
    · exact ⟨.error .transfer, if_pos hnone, rfl, rfl, by simp⟩
    · exact ⟨.ok .openWindow, if_neg hnone, rfl, rfl, by simp⟩

theorem moves_firstByte : tracker.Moves (.firstByte worker ok) := by
  obtain ⟨answer, heq, hopens, hbegins, hfinalizes⟩ := tracker.exists_onFirstByte_eq ok
  constructor <;> rw [onEvent, heq]
  case handshakes => rfl
  case transfers => rfl
  case begins_iff => simp [hbegins]
  case opens_iff =>
    rw [hopens, Latch.isSome_record_iff]
    exact (and_iff_right rfl).symm
  case finalizes_iff => simp [hfinalizes]

theorem moves_disconnected : tracker.Moves (.disconnected worker) := by
  constructor <;> rw [onEvent, onDisconnected]
  case handshakes => rfl
  case transfers => rfl
  case disconnected => exact Nat.le_succ _
  case begins_iff => split <;> simp [isBeginning]
  case opens_iff => split <;> simp [isOpening, WorkerEvent.isFirstByte]
  case finalizes_iff => split <;> simp_all

theorem moves (event : WorkerEvent) : tracker.Moves event := by
  cases event with
  | connected worker ok => exact tracker.moves_connected worker ok
  | firstByte worker ok => exact tracker.moves_firstByte worker ok
  | disconnected worker => exact tracker.moves_disconnected worker

end Moves

/-- Once the window is open, no event changes what the second latch has counted. -/
theorem transfers_onEvent {tracker : Tracker} (h : tracker.windowOpen = true)
    (event : WorkerEvent) : (tracker.onEvent event).1.transfers = tracker.transfers := by
  rw [(tracker.moves event).transfers]
  exact Latch.after_of_fired h _

theorem handshakes_onEvent {tracker : Tracker} (h : tracker.handshakes.fired = true)
    (event : WorkerEvent) : (tracker.onEvent event).1.handshakes = tracker.handshakes := by
  rw [(tracker.moves event).handshakes]
  exact Latch.after_of_fired h _

/-! ### Any log -/

section Log

variable {workers : Nat}

theorem handshakes_after (log : List WorkerEvent) :
    (after workers log).handshakes =
      Dialogue.after Latch.record (.ofExpected workers)
        (log.filterMap WorkerEvent.handshake?) := by
  induction log using List.reverseRecOn with
  | nil => rfl
  | append_singleton log event ih =>
    rw [after_concat, ((after workers log).moves event).handshakes, ih,
      WorkerEvent.handshakes_concat, Dialogue.after_append]

theorem fired_handshakes_after (hworkers : 0 < workers) (log : List WorkerEvent) :
    (after workers log).handshakes.fired = true ↔ workers ≤ log.countP WorkerEvent.isConnected := by
  rw [handshakes_after, Latch.fired_after_ofExpected hworkers, WorkerEvent.length_handshakes]

/-- The second latch is told of the absentees with the last handshake that was missing, and of none
before or after. -/
theorem absentIn_concat (handshakes : List Bool) (ok : Bool) :
    absentIn workers (handshakes ++ [ok]) =
      absentIn workers handshakes +
        absent (if handshakes.length + 1 = workers then some (.ofReports (handshakes ++ [ok]))
          else none) := by
  rw [absentIn, absentIn, List.length_append, List.length_singleton]
  by_cases hlast : handshakes.length + 1 = workers
  · have hwhole : (handshakes ++ [ok]).length ≤ workers := by
      rw [List.length_append, List.length_singleton]
      omega
    rw [if_pos hlast, if_pos (by omega), if_neg (by omega), List.take_of_length_le hwhole,
      Nat.zero_add]
  · by_cases hmore : workers ≤ handshakes.length
    · rw [if_neg hlast, if_pos hmore, if_pos (by omega), List.take_append_of_le_length hmore]
      rfl
    · rw [if_neg hlast, if_neg hmore, if_neg (by omega)]
      rfl

section Transfers

variable (hworkers : 0 < workers) (log : List WorkerEvent)
include hworkers

theorem length_transferReports (event : WorkerEvent) :
    log.countP WorkerEvent.isFirstByte +
          absentIn workers (log.filterMap WorkerEvent.handshake?) +
        ((after workers log).transferReports event).length =
      (log ++ [event]).countP WorkerEvent.isFirstByte +
        absentIn workers ((log ++ [event]).filterMap WorkerEvent.handshake?) := by
  rw [List.countP_append, WorkerEvent.handshakes_concat]
  cases event with
  | connected worker ok =>
    rw [transferReports, List.length_replicate, handshakes_after,
      Latch.record_after_ofExpected hworkers, WorkerEvent.handshake?, Option.toList_some,
      absentIn_concat]
    simp [WorkerEvent.isFirstByte, Nat.add_assoc]
  | firstByte worker ok =>
    simp [transferReports, WorkerEvent.isFirstByte, WorkerEvent.handshake?, Nat.add_right_comm]
  | disconnected worker =>
    simp [transferReports, WorkerEvent.isFirstByte, WorkerEvent.handshake?]

/-- The second latch is told of every first byte, and of the absentees. -/
theorem exists_transfers_after : ∃ reports : List Bool,
    (after workers log).transfers = Dialogue.after Latch.record (.ofExpected workers) reports ∧
      reports.length = log.countP WorkerEvent.isFirstByte +
        absentIn workers (log.filterMap WorkerEvent.handshake?) := by
  induction log using List.reverseRecOn with
  | nil => exact ⟨[], rfl, by simp [absentIn, Nat.not_le.mpr hworkers]⟩
  | append_singleton log event ih =>
    obtain ⟨reports, hreports, hlength⟩ := ih
    refine ⟨reports ++ (after workers log).transferReports event, ?_, ?_⟩
    · rw [after_concat, ((after workers log).moves event).transfers, hreports,
        Dialogue.after_append]
    · rw [List.length_append, hlength, length_transferReports hworkers]

theorem windowOpen_after_iff :
    (after workers log).windowOpen = true ↔
      workers ≤ log.countP WorkerEvent.isFirstByte +
        absentIn workers (log.filterMap WorkerEvent.handshake?) := by
  obtain ⟨reports, hreports, hlength⟩ := exists_transfers_after hworkers log
  rw [windowOpen, hreports, Latch.fired_after_ofExpected hworkers, hlength]

theorem downloading_after_le : (after workers log).downloading ≤ workers := by
  obtain ⟨reports, hreports, -⟩ := exists_transfers_after hworkers log
  rw [downloading, hreports, Latch.after_ofExpected hworkers]
  exact Nat.le_trans List.count_le_length (List.length_take_le _ _)

end Transfers

theorem after_append (log more : List WorkerEvent) :
    after workers (log ++ more) = Dialogue.after onEvent (after workers log) more :=
  Dialogue.after_append _ log more

theorem transfers_after_append {log : List WorkerEvent}
    (h : (after workers log).windowOpen = true) (more : List WorkerEvent) :
    (after workers (log ++ more)).transfers = (after workers log).transfers := by
  rw [after_append]
  refine Dialogue.after_preserves
    (fun tracker : Tracker => tracker.transfers = (after workers log).transfers) ?_ rfl more
  intro tracker event hsame
  have hopen : tracker.windowOpen = true := (congrArg Latch.fired hsame).trans h
  exact (transfers_onEvent hopen event).trans hsame

theorem disconnected_after_append (log more : List WorkerEvent) :
    (after workers log).disconnected ≤ (after workers (log ++ more)).disconnected := by
  rw [after_append]
  refine Dialogue.after_preserves
    (fun tracker : Tracker => (after workers log).disconnected ≤ tracker.disconnected) ?_
    (Nat.le_refl _) more
  intro tracker event hle
  exact Nat.le_trans hle (tracker.moves event).disconnected

theorem allDisconnected_after_append {log : List WorkerEvent}
    (h : (after workers log).allDisconnected = true) (more : List WorkerEvent) :
    (after workers (log ++ more)).allDisconnected = true := by
  rw [allDisconnected, Bool.and_eq_true, decide_eq_true_iff] at h ⊢
  obtain ⟨hopen, hgone⟩ := h
  have hsame := transfers_after_append hopen more
  rw [windowOpen, downloading, hsame]
  exact ⟨hopen, Nat.le_trans hgone (disconnected_after_append log more)⟩

end Log

/-! ### What a tracker withstands -/

/-- What holds of a tracker after any log, and of its answers to it. -/
structure Withstands (workers : Nat) (log : List WorkerEvent) : Prop where
  begins_once : (replies workers log).countP isBeginning ≤ 1
  opens_once : (replies workers log).countP isOpening ≤ 1
  /-- The transfer begins with the last handshake that was missing, whichever workers made them. -/
  begins_iff (event : WorkerEvent) : isBeginning (reply workers log event) = true ↔
    LastAnswer workers log event
  opens_iff (event : WorkerEvent) : isOpening (reply workers log event) = true ↔
    event.isFirstByte = true ∧ (after workers log).windowOpen = false ∧
      (after workers (log ++ [event])).windowOpen = true
  finalizes_iff (event : WorkerEvent) : reply workers log event = .ok .finalize ↔
    (∃ worker, event = .disconnected worker) ∧
      (after workers (log ++ [event])).allDisconnected = true
  downloading_le : (after workers log).downloading ≤ workers
  /-- The window is open once first bytes and failed handshakes make up the number of workers. -/
  windowOpen_iff : (after workers log).windowOpen = true ↔
    workers ≤ log.countP WorkerEvent.isFirstByte +
      absentIn workers (log.filterMap WorkerEvent.handshake?)
  windowOpen (more : List WorkerEvent) : (after workers log).windowOpen = true →
    (after workers (log ++ more)).windowOpen = true ∧
      (after workers (log ++ more)).downloading = (after workers log).downloading
  allDisconnected (more : List WorkerEvent) : (after workers log).allDisconnected = true →
    (after workers (log ++ more)).allDisconnected = true

section Replies

variable {workers : Nat}

theorem countP_isBeginning_le (log : List WorkerEvent) :
    (replies workers log).countP isBeginning ≤ 1 := by
  have hkeeps (tracker : Tracker) (event : WorkerEvent) (h : tracker.handshakes.fired = true) :
      (tracker.onEvent event).1.handshakes.fired = true :=
    (congrArg Latch.fired (handshakes_onEvent h event)).trans h
  exact Nat.le_trans (Nat.le_add_right _ _) (Dialogue.countP_answers_le hkeeps
    (fun tracker event => (tracker.moves event).begins_iff.mp) (ofWorkers workers) log)

theorem countP_isOpening_le (log : List WorkerEvent) :
    (replies workers log).countP isOpening ≤ 1 := by
  have hkeeps (tracker : Tracker) (event : WorkerEvent) (h : tracker.windowOpen = true) :
      (tracker.onEvent event).1.windowOpen = true :=
    (congrArg Latch.fired (transfers_onEvent h event)).trans h
  exact Nat.le_trans (Nat.le_add_right _ _) (Dialogue.countP_answers_le hkeeps
    (fun tracker event hit => ((tracker.moves event).opens_iff.mp hit).2) (ofWorkers workers) log)

theorem isBeginning_reply_iff (hworkers : 0 < workers) (log : List WorkerEvent)
    (event : WorkerEvent) :
    isBeginning (reply workers log event) = true ↔ LastAnswer workers log event := by
  have hbefore := fired_handshakes_after hworkers log
  have hafter := fired_handshakes_after hworkers (log ++ [event])
  rw [after_concat, List.countP_append, List.countP_singleton] at hafter
  rw [reply, ((after workers log).moves event).begins_iff, hafter, ← Bool.not_eq_true, hbefore,
    LastAnswer]
  by_cases hevent : event.isConnected = true
  · rw [if_pos hevent, and_iff_right hevent]
    omega
  · rw [if_neg hevent, Nat.add_zero]
    exact iff_of_false (fun hboth => hboth.1 hboth.2) fun hlast => hevent hlast.1

end Replies

/-- Whatever a tracker is told, it begins and opens at most once, counts no more downloads than it
has workers, and takes nothing back. -/
theorem tracker_withstands {workers : Nat} (hworkers : 0 < workers) (log : List WorkerEvent) :
    Withstands workers log where
  begins_once := countP_isBeginning_le log
  opens_once := countP_isOpening_le log
  begins_iff := isBeginning_reply_iff hworkers log
  opens_iff event := by
    rw [after_concat]
    exact ((after workers log).moves event).opens_iff
  finalizes_iff event := by
    rw [after_concat]
    exact ((after workers log).moves event).finalizes_iff
  downloading_le := downloading_after_le hworkers log
  windowOpen_iff := windowOpen_after_iff hworkers log
  windowOpen more hopen := by
    have hsame := transfers_after_append hopen more
    rw [Tracker.windowOpen, downloading, hsame]
    exact ⟨hopen, rfl⟩
  allDisconnected more hgone := allDisconnected_after_append hgone more

/-- A first byte that comes too early and two strange workers: the last handshake fills both
latches, so that the window opens without a word. -/
theorem tracker_withstands_strangers :
    let log : List WorkerEvent := [.firstByte 5 true, .connected 0 true, .connected 9 false,
      .connected 1 true, .firstByte 0 true, .disconnected 7, .disconnected 7]
    0 < 2 ∧ replies 2 log = [.ok .wait, .ok .wait, .ok (.beginTransfer [0]), .ok .wait, .ok .wait,
        .ok .finalize, .ok .finalize] ∧
      (after 2 (log.take 3)).windowOpen = true ∧ Withstands 2 log := by
  intro log
  exact ⟨by decide, rfl, rfl, tracker_withstands (by decide) log⟩

end Tracker

end Throughput
