import Throughput.Proofs.Latch
import Throughput.Proofs.Tracker.Log

/-!
# Tracker after an orderly log

The counters of the tracker are the numbers of workers that have reported this or that, and its
answer to an event is read off the log that ends with it.
-/

namespace Throughput

abbrev connectedOf (workers : Nat) (log : List WorkerEvent) : List Nat :=
  reporters workers (.connected · true) log

abbrev refusedOf (workers : Nat) (log : List WorkerEvent) : List Nat :=
  reporters workers (.connected · false) log

abbrev downloadingOf (workers : Nat) (log : List WorkerEvent) : List Nat :=
  reporters workers (.firstByte · true) log

abbrev silentOf (workers : Nat) (log : List WorkerEvent) : List Nat :=
  reporters workers (.firstByte · false) log

abbrev goneOf (workers : Nat) (log : List WorkerEvent) : List Nat :=
  reporters workers .disconnected log

/-- Once the transfer has begun, the workers without a connection count as failed transfers. -/
def absentees (workers : Nat) (log : List WorkerEvent) : Nat :=
  if Handshaken workers log ∧ connectedOf workers log ≠ [] then
    (refusedOf workers log).length
  else 0

namespace Tracker

/-- The tracker that has seen the log. -/
def ofLog (workers : Nat) (log : List WorkerEvent) : Tracker where
  handshakes := .ofCounts workers (connectedOf workers log).length (refusedOf workers log).length
  transfers := .ofCounts workers (downloadingOf workers log).length
    ((silentOf workers log).length + absentees workers log)
  connected := (List.range workers).map fun worker => decide (.connected worker true ∈ log)
  disconnected := (goneOf workers log).length

/-- The tracker's answer to the last event of a log. -/
def answer (workers : Nat) (log : List WorkerEvent) : WorkerEvent → Except MeasureError Step
  | .connected _ _ =>
    if Handshaken workers log then
      if connectedOf workers log = [] then .error .connection
      else .ok (.beginTransfer (connectedOf workers log))
    else .ok .wait
  | .firstByte _ _ =>
    if Settled workers log then
      if downloadingOf workers log = [] then .error .transfer else .ok .openWindow
    else .ok .wait
  | .disconnected _ => .ok (if AllGone workers log then .finalize else .wait)

end Tracker

section Counts

variable {workers : Nat} {log : List WorkerEvent}

theorem Consistent.handshaken_iff (h : Consistent workers log) :
    (connectedOf workers log).length + (refusedOf workers log).length = workers ↔
      Handshaken workers log := by
  rw [length_reporters_add h.connected, Handshaken]
  constructor
  · intro hall worker hworker
    have hlength := hall.trans List.length_range.symm
    rw [List.length_filter_eq_length_iff] at hlength
    simpa using hlength worker (List.mem_range.mpr hworker)
  · intro hall
    have hkept : (List.range workers).filter (fun worker =>
        decide (.connected worker true ∈ log ∨ .connected worker false ∈ log)) =
          List.range workers := by
      rw [List.filter_eq_self]
      intro worker hmem
      exact decide_eq_true (hall worker (List.mem_range.mp hmem))
    rw [hkept, List.length_range]

theorem Consistent.answers_le (h : Consistent workers log) :
    (connectedOf workers log).length + (refusedOf workers log).length ≤ workers := by
  rw [length_reporters_add h.connected]
  exact Nat.le_trans (List.length_filter_le _ _) (Nat.le_of_eq List.length_range)

theorem absentees_le : absentees workers log ≤ (refusedOf workers log).length := by
  rw [absentees]
  split
  · exact Nat.le_refl _
  · exact Nat.zero_le _

theorem Consistent.transfers_le (h : Consistent workers log) :
    (downloadingOf workers log).length +
      ((silentOf workers log).length + absentees workers log) ≤ workers := by
  have hup : (downloadingOf workers log).length + (silentOf workers log).length ≤
      (connectedOf workers log).length :=
    length_reporters_add_le h.firstByte h.connected_of_firstByte
  have hall := h.answers_le
  have habsent : absentees workers log ≤ (refusedOf workers log).length := absentees_le
  omega

theorem Consistent.reporters_firstByte (h : Consistent workers log)
    (hwaiting : ¬ (Handshaken workers log ∧ connectedOf workers log ≠ [])) (ok : Bool) :
    reporters workers (.firstByte · ok) log = [] := by
  by_contra hne
  obtain ⟨worker, hworker, hmem⟩ := reporters_ne_nil.mp hne
  obtain ⟨hhand, hup⟩ := h.begun worker ok hmem
  exact hwaiting ⟨hhand, reporters_ne_nil.mpr ⟨worker, hworker, hup⟩⟩

/-- The second latch is full exactly if every connected worker has said whether its first byte came.
The workers without a connection, which it counts in advance, never fill it by themselves. -/
theorem Consistent.settled_iff (h : Consistent workers log) (hworkers : 0 < workers) :
    (downloadingOf workers log).length +
        ((silentOf workers log).length + absentees workers log) = workers ↔
      Settled workers log := by
  by_cases hbegun : Handshaken workers log ∧ connectedOf workers log ≠ []
  · have hsplit : (downloadingOf workers log).length + (silentOf workers log).length =
        (connectedOf workers log).length ↔ _ :=
      length_reporters_add_eq_iff h.firstByte h.connected_of_firstByte
    have hall := h.handshaken_iff.mpr hbegun.1
    rw [absentees, if_pos hbegun, Settled, and_iff_right hbegun.1,
      and_iff_right (reporters_ne_nil.mp hbegun.2), ← hsplit]
    omega
  · have hsilent := h.reporters_firstByte hbegun
    rw [downloadingOf, silentOf, hsilent, hsilent, absentees, if_neg hbegun, List.length_nil]
    constructor
    · intro hempty
      omega
    · intro hsettled
      exact absurd ⟨hsettled.1, reporters_ne_nil.mpr hsettled.2.1⟩ hbegun

theorem Orderly.countP_report {report : Nat → Bool → WorkerEvent} {isReport : WorkerEvent → Bool}
    (hinjective : Function.Injective2 report)
    (hreport : ∀ event, isReport event = true ↔ ∃ worker ok, event = report worker ok)
    (hadmitted : ∀ log worker ok, Orderly workers log → Admits workers log (report worker ok) →
      worker < workers ∧ report worker ok ∉ log)
    (h : Orderly workers log) :
    log.countP isReport = (reporters workers (report · true) log).length +
      (reporters workers (report · false) log).length := by
  induction h with
  | nil => simp
  | @concat log event hlog hadmits ih =>
    rw [List.countP_append, ih, List.countP_singleton]
    by_cases hevent : isReport event = true
    · obtain ⟨worker, ok, rfl⟩ := (hreport event).mp hevent
      obtain ⟨hworker, hfresh⟩ := hadmitted log worker ok hlog hadmits
      rw [length_reporters_report hinjective hworker hfresh,
        length_reporters_report hinjective hworker hfresh, if_pos hevent]
      cases ok <;> simp <;> omega
    · have hne : ∀ ok worker, report worker ok ≠ event := fun ok worker heq =>
        hevent ((hreport event).mpr ⟨worker, ok, heq.symm⟩)
      rw [reporters_concat_of_ne (hne true), reporters_concat_of_ne (hne false), if_neg hevent,
        Nat.add_zero]

theorem Orderly.countP_isConnected (h : Orderly workers log) :
    log.countP WorkerEvent.isConnected =
      (connectedOf workers log).length + (refusedOf workers log).length := by
  apply h.countP_report injective_connected
  · intro event
    cases event <;> simp [WorkerEvent.isConnected]
  · intro log worker ok _ hadmits
    exact ⟨hadmits.1, hadmits.2 ok⟩

theorem Orderly.countP_isFirstByte (h : Orderly workers log) :
    log.countP WorkerEvent.isFirstByte =
      (downloadingOf workers log).length + (silentOf workers log).length := by
  apply h.countP_report injective_firstByte
  · intro event
    cases event <;> simp [WorkerEvent.isFirstByte]
  · intro log worker ok hlog hadmits
    exact ⟨hlog.consistent.below worker true hadmits.2.1, hadmits.2.2 ok⟩

end Counts

attribute [ext] Tracker

namespace Tracker

section Log

variable {workers worker : Nat} {log : List WorkerEvent}

theorem ofLog_nil (hworkers : 0 < workers) : ofLog workers [] = ofWorkers workers := by
  have habsent : absentees workers [] = 0 := by simp [absentees]
  simp [ofLog, ofWorkers, habsent, Latch.ofCounts_zero hworkers]

theorem ofLog_congr {other : List WorkerEvent} (hmem : ∀ event, event ∈ other ↔ event ∈ log) :
    ofLog workers other = ofLog workers log := by
  have hreporters : ∀ event, reporters workers event other = reporters workers event log := by
    intro event
    simp only [reporters, hmem]
  have hhand : Handshaken workers other ↔ Handshaken workers log := by
    simp only [Handshaken, hmem]
  simp only [ofLog, absentees, hreporters, hhand, hmem]

theorem answer_congr {other : List WorkerEvent} (hmem : ∀ event, event ∈ other ↔ event ∈ log)
    (event : WorkerEvent) : answer workers other event = answer workers log event := by
  have hreporters : ∀ event, reporters workers event other = reporters workers event log := by
    intro event
    simp only [reporters, hmem]
  have hhand : Handshaken workers other ↔ Handshaken workers log := by
    simp only [Handshaken, hmem]
  have hsettled : Settled workers other ↔ Settled workers log := by
    simp only [Settled, hhand, hmem]
  have hgone : AllGone workers other ↔ AllGone workers log := by
    simp only [AllGone, hsettled, hmem]
  cases event <;>
    simp only [answer, connectedOf, downloadingOf, hreporters, hhand, hsettled, hgone]

@[simp]
theorem ready_ofLog : (ofLog workers log).ready = connectedOf workers log := by
  have hindexed : (ofLog workers log).connected.zipIdx =
      (List.range workers).map fun worker => (decide (.connected worker true ∈ log), worker) := by
    apply List.ext_getElem <;> simp [ofLog]
  rw [ready, hindexed, List.filter_map, List.map_map]
  exact List.map_id _

@[simp]
theorem downloading_ofLog :
    (ofLog workers log).downloading = (downloadingOf workers log).length :=
  rfl

theorem windowOpen_ofLog (h : Consistent workers log) (hworkers : 0 < workers) :
    (ofLog workers log).windowOpen = decide (Settled workers log) :=
  decide_eq_decide.mpr (h.settled_iff hworkers)

theorem allDisconnected_ofLog (h : Consistent workers log) (hworkers : 0 < workers) :
    (ofLog workers log).allDisconnected = decide (AllGone workers log) := by
  have hgone : (downloadingOf workers log).length ≤ (goneOf workers log).length ↔ _ :=
    length_reporters_le_iff h.disconnected
  rw [allDisconnected, windowOpen_ofLog h hworkers, downloading_ofLog, Bool.and_eq_decide]
  apply decide_eq_decide.mpr
  rw [decide_eq_true_iff, decide_eq_true_iff]
  exact and_congr_right fun _ => hgone

theorem noteConnected_ofLog (ok : Bool) :
    (ofLog workers log).noteConnected worker ok =
      { ofLog workers log with
        connected := (ofLog workers (log ++ [.connected worker ok])).connected } := by
  cases ok with
  | false => simp [noteConnected, ofLog]
  | true =>
    have hset : (ofLog workers log).connected.set worker true =
        (ofLog workers (log ++ [.connected worker true])).connected := by
      apply List.ext_getElem
      · simp [ofLog]
      · intro index hleft hright
        by_cases hindex : worker = index <;> simp [ofLog, hindex, eq_comm]
    rw [noteConnected, if_pos rfl, hset]

end Log

section Connected

variable {workers worker : Nat} {log : List WorkerEvent} {ok : Bool} (h : Consistent workers log)
  (hadmits : Admits workers log (.connected worker ok))
include h hadmits

theorem record_handshakes :
    (ofLog workers log).handshakes.record ok =
      ((ofLog workers (log ++ [.connected worker ok])).handshakes,
        if Handshaken workers (log ++ [.connected worker ok]) then
          some ⟨(connectedOf workers (log ++ [.connected worker ok])).length,
            (refusedOf workers (log ++ [.connected worker ok])).length⟩
        else none) := by
  have hopen := Nat.lt_of_le_of_ne h.answers_le
    (mt h.handshaken_iff.mp hadmits.not_handshaken)
  have hcount := length_reporters_report injective_connected hadmits.1 (hadmits.2 ok)
  have hconnected : (connectedOf workers (log ++ [.connected worker ok])).length =
      (connectedOf workers log).length + ok.toNat := by
    rw [hcount]
    cases ok <;> rfl
  have hrefused : (refusedOf workers (log ++ [.connected worker ok])).length =
      (refusedOf workers log).length + (!ok).toNat := by
    rw [hcount]
    cases ok <;> rfl
  have hlast : (connectedOf workers log).length + (refusedOf workers log).length + 1 = workers ↔
      Handshaken workers (log ++ [.connected worker ok]) := by
    rw [← (h.concat hadmits).handshaken_iff, hconnected, hrefused]
    cases ok <;> simp <;> omega
  simp only [ofLog, Latch.record_ofCounts hopen, hlast, hconnected, hrefused]

/-- The second latch has counted nothing before. The last answer tells it of the absentees. -/
theorem recordFailures_transfers :
    (ofLog workers log).transfers.recordFailures
        (absentees workers (log ++ [.connected worker ok])) =
      (ofLog workers (log ++ [.connected worker ok])).transfers := by
  have hwaiting := hadmits.not_handshaken
  have hbefore := h.reporters_firstByte fun hboth => hwaiting hboth.1
  have hafter : ∀ result, reporters workers (.firstByte · result)
      (log ++ [.connected worker ok]) = [] := by
    intro result
    rw [reporters_concat_of_ne fun _ => WorkerEvent.noConfusion]
    exact hbefore result
  have habsent : absentees workers log = 0 := if_neg fun hboth => hwaiting hboth.1
  have hroom : 0 + 0 + absentees workers (log ++ [.connected worker ok]) ≤ workers := by
    have hle := (h.concat hadmits).answers_le
    rw [absentees]
    split <;> omega
  simp only [ofLog, downloadingOf, silentOf, hbefore, hafter, habsent, List.length_nil]
  rw [Latch.recordFailures_ofCounts hroom]

theorem onConnected_ofLog :
    (ofLog workers log).onConnected worker ok =
      (ofLog workers (log ++ [.connected worker ok]),
        answer workers (log ++ [.connected worker ok]) (.connected worker ok)) := by
  have hgone : (ofLog workers log).disconnected =
      (ofLog workers (log ++ [.connected worker ok])).disconnected :=
    congrArg List.length (reporters_concat_of_ne fun _ => WorkerEvent.noConfusion).symm
  have htransfers := recordFailures_transfers h hadmits
  simp only [onConnected, noteConnected_ofLog, record_handshakes h hadmits, answer]
  by_cases hhand : Handshaken workers (log ++ [.connected worker ok])
  · by_cases hup : connectedOf workers (log ++ [.connected worker ok]) = []
    · rw [absentees, if_neg fun hboth => hboth.2 hup] at htransfers
      simp only [if_pos hhand, Tally.noneSucceeded, hup]
      exact Prod.ext (Tracker.ext rfl htransfers rfl hgone) rfl
    · rw [absentees, if_pos ⟨hhand, hup⟩] at htransfers
      have hsome : (connectedOf workers (log ++ [.connected worker ok])).length ≠ 0 :=
        mt List.length_eq_zero_iff.mp hup
      simp only [if_pos hhand, Tally.noneSucceeded, hsome, hup, decide_false,
        Bool.false_eq_true, if_false]
      exact Prod.ext (Tracker.ext rfl htransfers rfl hgone)
        (congrArg (fun ready => Except.ok (Step.beginTransfer ready)) ready_ofLog)
  · rw [absentees, if_neg fun hboth => hhand hboth.1] at htransfers
    simp only [if_neg hhand]
    exact Prod.ext (Tracker.ext rfl htransfers rfl hgone) rfl

end Connected

section FirstByte

variable {workers worker : Nat} {log : List WorkerEvent} {ok : Bool}

theorem absentees_concat {event : WorkerEvent} (hhand : Handshaken workers log)
    (hother : ∀ id result, .connected id result ≠ event) :
    absentees workers (log ++ [event]) = absentees workers log := by
  have hconnected : ∀ result, reporters workers (.connected · result) (log ++ [event]) =
      reporters workers (.connected · result) log := fun result =>
    reporters_concat_of_ne fun id => hother id result
  have hstill : Handshaken workers (log ++ [event]) := hhand.append [event]
  simp only [absentees, connectedOf, refusedOf, hconnected, hhand, hstill]

variable (h : Consistent workers log) (hadmits : Admits workers log (.firstByte worker ok))
  (hworkers : 0 < workers)
include h hadmits hworkers

theorem record_transfers :
    (ofLog workers log).transfers.record ok =
      ((ofLog workers (log ++ [.firstByte worker ok])).transfers,
        if Settled workers (log ++ [.firstByte worker ok]) then
          some ⟨(downloadingOf workers (log ++ [.firstByte worker ok])).length,
            (silentOf workers (log ++ [.firstByte worker ok])).length +
              absentees workers (log ++ [.firstByte worker ok])⟩
        else none) := by
  have hworker : worker < workers := h.below worker true hadmits.2.1
  have hunsettled : ¬ Settled workers log := by
    intro hsettled
    exact (hsettled.2.2 worker hworker hadmits.2.1).elim (hadmits.2.2 true) (hadmits.2.2 false)
  have hopen := Nat.lt_of_le_of_ne h.transfers_le (mt (h.settled_iff hworkers).mp hunsettled)
  have hcount := length_reporters_report injective_firstByte hworker (hadmits.2.2 ok)
  have hdownloading : (downloadingOf workers (log ++ [.firstByte worker ok])).length =
      (downloadingOf workers log).length + ok.toNat := by
    rw [hcount]
    cases ok <;> rfl
  have hsilent : (silentOf workers (log ++ [.firstByte worker ok])).length +
        absentees workers (log ++ [.firstByte worker ok]) =
      (silentOf workers log).length + absentees workers log + (!ok).toNat := by
    rw [hcount, absentees_concat hadmits.1 fun _ _ => WorkerEvent.noConfusion,
      Nat.add_right_comm]
    cases ok <;> rfl
  have hlast : (downloadingOf workers log).length +
        ((silentOf workers log).length + absentees workers log) + 1 = workers ↔
      Settled workers (log ++ [.firstByte worker ok]) := by
    rw [← (h.concat hadmits).settled_iff hworkers, hdownloading, hsilent]
    cases ok <;> simp <;> omega
  simp only [ofLog, Latch.record_ofCounts hopen, hlast, hdownloading, hsilent]

theorem onFirstByte_ofLog :
    (ofLog workers log).onFirstByte ok =
      (ofLog workers (log ++ [.firstByte worker ok]),
        answer workers (log ++ [.firstByte worker ok]) (.firstByte worker ok)) := by
  have hgone : (ofLog workers log).disconnected =
      (ofLog workers (log ++ [.firstByte worker ok])).disconnected :=
    congrArg List.length (reporters_concat_of_ne fun _ => WorkerEvent.noConfusion).symm
  have hhandshakes : (ofLog workers log).handshakes =
      (ofLog workers (log ++ [.firstByte worker ok])).handshakes := by
    simp only [ofLog, connectedOf, refusedOf]
    rw [reporters_concat_of_ne fun _ => WorkerEvent.noConfusion,
      reporters_concat_of_ne fun _ => WorkerEvent.noConfusion]
  have hconnected : (ofLog workers log).connected =
      (ofLog workers (log ++ [.firstByte worker ok])).connected := by
    simp [ofLog]
  simp only [onFirstByte, record_transfers h hadmits hworkers, answer]
  by_cases hsettled : Settled workers (log ++ [.firstByte worker ok])
  · by_cases hdown : downloadingOf workers (log ++ [.firstByte worker ok]) = []
    · simp only [if_pos hsettled, Tally.noneSucceeded, hdown]
      exact Prod.ext (Tracker.ext hhandshakes rfl hconnected hgone) rfl
    · have hsome : (downloadingOf workers (log ++ [.firstByte worker ok])).length ≠ 0 :=
        mt List.length_eq_zero_iff.mp hdown
      simp only [if_pos hsettled, Tally.noneSucceeded, hsome, hdown, decide_false,
        Bool.false_eq_true, if_false]
      exact Prod.ext (Tracker.ext hhandshakes rfl hconnected hgone) rfl
  · simp only [if_neg hsettled]
    exact Prod.ext (Tracker.ext hhandshakes rfl hconnected hgone) rfl

end FirstByte

theorem onDisconnected_ofLog {workers worker : Nat} {log : List WorkerEvent}
    (h : Consistent workers log) (hadmits : Admits workers log (.disconnected worker))
    (hworkers : 0 < workers) :
    (ofLog workers log).onDisconnected =
      (ofLog workers (log ++ [.disconnected worker]),
        answer workers (log ++ [.disconnected worker]) (.disconnected worker)) := by
  have hgone : (goneOf workers (log ++ [.disconnected worker])).length =
      (goneOf workers log).length + 1 :=
    length_reporters_concat (h.below worker true (h.begun worker true hadmits.1).2) hadmits.2
      fun _ _ heq => WorkerEvent.disconnected.inj heq
  have hhand : Handshaken workers log := (h.begun worker true hadmits.1).1
  have hother : ∀ report : Nat → Bool → WorkerEvent,
      (∀ id result, report id result ≠ .disconnected worker) → ∀ result,
      reporters workers (report · result) (log ++ [.disconnected worker]) =
        reporters workers (report · result) log := fun report hne result =>
    reporters_concat_of_ne fun id => hne id result
  have hcounted : { ofLog workers log with
      disconnected := (ofLog workers log).disconnected + 1 } =
        ofLog workers (log ++ [.disconnected worker]) := by
    apply Tracker.ext
    · simp only [ofLog, connectedOf, refusedOf]
      rw [hother .connected fun _ _ => WorkerEvent.noConfusion,
        hother .connected fun _ _ => WorkerEvent.noConfusion]
    · simp only [ofLog, downloadingOf, silentOf]
      rw [hother .firstByte fun _ _ => WorkerEvent.noConfusion,
        hother .firstByte fun _ _ => WorkerEvent.noConfusion,
        absentees_concat hhand fun _ _ => WorkerEvent.noConfusion]
    · simp [ofLog]
    · exact hgone.symm
  rw [onDisconnected, hcounted]
  simp only [answer, allDisconnected_ofLog (h.concat hadmits) hworkers, decide_eq_true_iff]

/-- The tracker's answer to an admitted event, and the tracker after it. -/
theorem onEvent_ofLog {workers : Nat} {log : List WorkerEvent} {event : WorkerEvent}
    (h : Consistent workers log) (hadmits : Admits workers log event) (hworkers : 0 < workers) :
    (ofLog workers log).onEvent event =
      (ofLog workers (log ++ [event]), answer workers (log ++ [event]) event) := by
  cases event with
  | connected worker ok => exact onConnected_ofLog h hadmits
  | firstByte worker ok => exact onFirstByte_ofLog h hadmits hworkers
  | disconnected worker => exact onDisconnected_ofLog h hadmits hworkers

def after (workers : Nat) (log : List WorkerEvent) : Tracker :=
  log.foldl (fun tracker event => (tracker.onEvent event).1) (ofWorkers workers)

theorem after_concat {workers : Nat} {log : List WorkerEvent} {event : WorkerEvent} :
    after workers (log ++ [event]) = ((after workers log).onEvent event).1 := by
  simp [after]

/-- After an orderly log the tracker holds the counts of the log. -/
theorem after_orderly {workers : Nat} {log : List WorkerEvent} (horderly : Orderly workers log)
    (hworkers : 0 < workers) : after workers log = ofLog workers log := by
  induction horderly with
  | nil => exact (ofLog_nil hworkers).symm
  | concat hlog hadmits ih =>
    rw [after_concat, ih, onEvent_ofLog hlog.consistent hadmits hworkers]

end Tracker

end Throughput
