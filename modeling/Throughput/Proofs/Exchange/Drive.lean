import Throughput.Proofs.Exchange.Invariant

/-!
# What the coordinator hears

An event moves the coordinator from one log to the next. Its answer begins the transfer, opens the
window, ends the drive, or leaves things as they are.
-/

namespace Throughput

section Log

variable {workers id : Nat} {heard : List WorkerEvent} {event : WorkerEvent}

theorem Begun.concat (h : Begun workers heard id) : Begun workers (heard ++ [event]) id :=
  ⟨h.1.append [event], List.mem_append_left _ h.2⟩

theorem connected_mem_concat (hevent : event.isConnected = false) (ok : Bool) :
    .connected id ok ∈ heard ++ [event] ↔ .connected id ok ∈ heard := by
  cases event <;> simp_all [WorkerEvent.isConnected]

theorem handshaken_concat (hevent : event.isConnected = false) :
    Handshaken workers (heard ++ [event]) ↔ Handshaken workers heard := by
  simp only [Handshaken, connected_mem_concat hevent]

theorem Begun.of_concat (hevent : event.isConnected = false)
    (h : Begun workers (heard ++ [event]) id) : Begun workers heard id :=
  ⟨(handshaken_concat hevent).mp h.1, (connected_mem_concat hevent true).mp h.2⟩

theorem connectedOf_concat (hevent : event.isConnected = false) :
    connectedOf workers (heard ++ [event]) = connectedOf workers heard :=
  reporters_concat_of_ne fun worker heq => by subst heq; cases hevent

theorem settled_concat_disconnected {worker : Nat} :
    Settled workers (heard ++ [.disconnected worker]) ↔ Settled workers heard := by
  simp [Settled, Handshaken]

theorem downloadingOf_concat_disconnected {worker : Nat} :
    downloadingOf workers (heard ++ [.disconnected worker]) = downloadingOf workers heard :=
  reporters_concat_of_ne fun _ heq => WorkerEvent.noConfusion heq

/-- Once a worker is connected, the answers of all of them do not end the drive. -/
theorem Driving.connecting_concat {window : Option Window} (h : Driving workers heard window)
    (hevent : event.isConnected = false) :
    ¬ (Handshaken workers (heard ++ [event]) ∧ connectedOf workers (heard ++ [event]) = []) := by
  rw [handshaken_concat hevent, connectedOf_concat hevent]
  exact h.connecting

end Log

namespace Exchange

variable {workers : Nat} {heard rest : List WorkerEvent} {exchange next : Exchange}
  {event : WorkerEvent}

/-- What the coordinator does about an answer of its tracker. -/
def answered (exchange : Exchange) (now : Nat) (tracker : Tracker) :
    Except MeasureError Step → Exchange
  | .error e =>
    { exchange with coordinator := { exchange.coordinator with tracker } }.conclude
      (.answered (.error e)) (.error e)
  | .ok .wait => { exchange with coordinator := { exchange.coordinator with tracker } }
  | .ok (.beginTransfer ids) =>
    { exchange with
      coordinator := { exchange.coordinator with tracker }
      orders := ordersTo .beginTransfer ids }
  | .ok .openWindow =>
    let window := Window.ofDefinition exchange.definition now
    let opened := { exchange with coordinator := ⟨tracker, some window⟩ }
    if tracker.allDisconnected then
      opened.conclude (.answered (.ok .openWindow)) (.ok window.start)
    else
      opened
  | .ok .finalize =>
    { exchange with coordinator := { exchange.coordinator with tracker } }.conclude
      (.answered (.ok .finalize)) exchange.coordinator.windowStart

theorem answer_eq {now : Nat} {tracker : Tracker} {reply : Except MeasureError Step}
    (htracker : exchange.coordinator.tracker.onEvent event = (tracker, reply)) :
    exchange.answer now event = exchange.answered now tracker reply := by
  rw [answer, htracker, Coordinator.onEvent, htracker]
  rcases reply with e | _ | ids | _ | _
  · rfl
  · rfl
  · rfl
  · by_cases hgone : tracker.allDisconnected = true <;> simp [answered, hgone]
  · rfl

theorem Sane.hears (h : Sane workers heard exchange) (hverdict : exchange.verdict = none)
    (horders : exchange.orders = []) (hevents : exchange.events = event :: rest)
    {coordinator : Coordinator} {orders : List (Nat × Command)} {verdict : Option Verdict}
    (htracker : coordinator.tracker = .ofLog workers (heard ++ [event]))
    (hbegin : ∀ id < workers, commandsTo id orders =
      if Begun workers (heard ++ [event]) id ∧ ¬ Begun workers heard id then [.beginTransfer]
      else [])
    (hdriving : verdict = none → Driving workers (heard ++ [event]) coordinator.window)
    (hcloses : ∀ closed, verdict = some closed → Closes coordinator closed) :
    Sane workers (heard ++ [event])
      { exchange with coordinator, orders, events := rest, verdict } := by
  have hcompleted := h.uncompleted hverdict
  have hlog : heard ++ [event] ++ rest = heard ++ exchange.events := by
    rw [hevents, List.append_assoc, List.singleton_append]
  refine ⟨h.length_posts, ?_, h.gone, ?_, h.kept, ?_, fun _ => htracker, fun _ => hcompleted,
    fun _ => hdriving, fun _ => hcloses⟩
  · intro id post hpost
    have hstage := h.stage id post hpost
    rw [hcompleted, horders] at hstage
    change Stage id _ exchange.completed post.task (saidBy id (heard ++ [event] ++ rest))
      (post.mailbox ++ commandsTo id orders)
    rw [hlog, hcompleted, hbegin id (h.lt_workers hpost)]
    change Stage id _ false post.task _ (post.mailbox ++ []) at hstage
    rw [List.append_nil] at hstage
    split
    · next hnew =>
      refine hstage.begin hnew.2 ?_ hnew.1
      rw [← hlog]
      exact mem_saidBy.mpr (List.mem_append_left _ hnew.1.2)
    · next hsame =>
      rw [List.append_nil]
      refine hstage.congr ⟨fun hafter => ?_, Begun.concat⟩
      by_contra hbefore
      exact hsame ⟨hafter, hbefore⟩
  · intro id hid
    have hcommands := h.commands id hid
    rw [hcompleted, horders] at hcommands
    change exchange.sentTo id ++ commandsTo id orders = planned _ exchange.completed
    change exchange.sentTo id ++ [] = _ at hcommands
    rw [List.append_nil] at hcommands
    rw [hcommands, hbegin id hid, hcompleted]
    by_cases hbefore : Begun workers heard id
    · simp [hbefore, Begun.concat hbefore, planned]
    · by_cases hafter : Begun workers (heard ++ [event]) id <;>
        simp [hbefore, hafter, planned, stops]
  · change Orderly workers (heard ++ [event] ++ rest)
    rw [hlog]
    exact h.orderly

section Quiet

variable (h : Sane workers heard exchange) (hverdict : exchange.verdict = none)
  (horders : exchange.orders = []) (hevents : exchange.events = event :: rest)
  {coordinator : Coordinator} (htracker : coordinator.tracker = .ofLog workers (heard ++ [event]))
  (hbegin : ∀ id < workers, Begun workers (heard ++ [event]) id → Begun workers heard id)

include h hverdict horders hevents htracker hbegin

/-- Most events order nothing. -/
theorem Sane.hears_quietly {verdict : Option Verdict}
    (hdriving : verdict = none → Driving workers (heard ++ [event]) coordinator.window)
    (hcloses : ∀ closed, verdict = some closed → Closes coordinator closed) :
    Sane workers (heard ++ [event]) { exchange with coordinator, events := rest, verdict } := by
  refine h.hears hverdict horders hevents htracker (fun id hid => ?_) hdriving hcloses
  rw [if_neg fun hnew => hnew.2 (hbegin id hid hnew.1), horders]
  rfl

theorem Sane.goes_on (hdriving : Driving workers (heard ++ [event]) coordinator.window) :
    Sane workers (heard ++ [event]) { exchange with coordinator, events := rest } := by
  refine h.hears_quietly hverdict horders hevents htracker hbegin (fun _ => hdriving) ?_
  intro closed hclosed
  rw [hverdict] at hclosed
  cases hclosed

theorem Sane.concludes {verdict : Verdict} (hcloses : Closes coordinator verdict) :
    Sane workers (heard ++ [event])
      { exchange with coordinator, events := rest, verdict := some verdict } := by
  refine h.hears_quietly hverdict horders hevents htracker hbegin ?_ ?_
  · intro hnone
    cases hnone
  · intro closed hclosed
    cases hclosed
    exact hcloses

end Quiet

section Heard

variable (h : Sane workers heard exchange) (hverdict : exchange.verdict = none)
  (horders : exchange.orders = []) (now : Nat)

include h

theorem Sane.admits (hevents : exchange.events = event :: rest) :
    Consistent workers heard ∧ Admits workers heard event := by
  have horderly := h.orderly
  rw [hevents, List.append_cons] at horderly
  obtain ⟨hheard, hadmits⟩ := orderly_concat.mp horderly.of_append
  exact ⟨hheard.consistent, hadmits⟩

theorem Sane.workers_pos (hevents : exchange.events = event :: rest) : 0 < workers := by
  obtain ⟨hheard, hadmits⟩ := h.admits hevents
  cases event with
  | connected worker ok => exact Nat.zero_lt_of_lt hadmits.1
  | firstByte worker ok => exact Nat.zero_lt_of_lt (hheard.below worker true hadmits.2.1)
  | disconnected worker =>
    have hup := (hheard.begun worker true hadmits.1).2
    exact Nat.zero_lt_of_lt (hheard.below worker true hup)

theorem Sane.onEvent_eq (hevents : exchange.events = event :: rest) :
    exchange.coordinator.tracker.onEvent event = (.ofLog workers (heard ++ [event]),
      Tracker.answer workers (heard ++ [event]) event) := by
  have hworkers := h.workers_pos hevents
  obtain ⟨hheard, hadmits⟩ := h.admits hevents
  rw [h.tracker hworkers, Tracker.onEvent_ofLog hheard hadmits hworkers]

theorem Sane.answer_eq (hevents : exchange.events = event :: rest) :
    { exchange with events := rest }.answer now event =
      { exchange with events := rest }.answered now (.ofLog workers (heard ++ [event]))
        (Tracker.answer workers (heard ++ [event]) event) :=
  Exchange.answer_eq (h.onEvent_eq hevents)

include hverdict horders

theorem Sane.hear_connected {worker : Nat} {ok : Bool}
    (hevents : exchange.events = .connected worker ok :: rest) :
    Sane workers (heard ++ [.connected worker ok])
      ({ exchange with events := rest }.answer now (.connected worker ok)) := by
  obtain ⟨hheard, hadmits⟩ := h.admits hevents
  have hbefore : ¬ Handshaken workers heard := hadmits.not_handshaken
  -- The first byte of a worker comes after the answers of all.
  have hunsettled : ¬ Settled workers (heard ++ [.connected worker ok]) := by
    rintro ⟨-, ⟨up, hup, hconnected⟩, hreported⟩
    rcases hreported up hup hconnected with hmem | hmem
    · exact hbefore (hheard.begun up true (by simpa using hmem)).1
    · exact hbefore (hheard.begun up false (by simpa using hmem)).1
  rw [h.answer_eq now hevents, Tracker.answer]
  by_cases hhand : Handshaken workers (heard ++ [.connected worker ok])
  · rw [if_pos hhand]
    by_cases hnone : connectedOf workers (heard ++ [.connected worker ok]) = []
    · rw [if_pos hnone]
      refine h.concludes hverdict horders hevents rfl (fun id hid hbegun => ?_) .connection
      exact absurd hnone (reporters_ne_nil.mpr ⟨id, hid, hbegun.2⟩)
    · rw [if_neg hnone]
      refine h.hears hverdict horders hevents rfl (fun id hid => ?_) (fun _ => ?_) ?_
      · rw [commandsTo_ordersTo .beginTransfer (pairwise_reporters.imp Nat.ne_of_lt)]
        refine if_congr (mem_reporters.trans ?_) rfl rfl
        exact ⟨fun hup => ⟨⟨hhand, hup.2⟩, fun hbegun => hbefore hbegun.1⟩,
          fun hnew => ⟨hid, hnew.1.2⟩⟩
      · exact ⟨fun hempty => hnone hempty.2, fun hsettled => absurd hsettled hunsettled,
          fun hgone => hunsettled hgone.1⟩
      · intro closed hclosed
        change exchange.verdict = some closed at hclosed
        rw [hverdict] at hclosed
        cases hclosed
  · rw [if_neg hhand]
    refine h.goes_on hverdict horders hevents rfl (fun id hid hbegun => absurd hbegun.1 hhand) ?_
    exact ⟨fun hempty => hhand hempty.1, fun hsettled => absurd hsettled hunsettled,
      fun hgone => hunsettled hgone.1⟩

theorem Sane.hear_firstByte {worker : Nat} {ok : Bool}
    (hevents : exchange.events = .firstByte worker ok :: rest) :
    Sane workers (heard ++ [.firstByte worker ok])
      ({ exchange with events := rest }.answer now (.firstByte worker ok)) := by
  have hworkers := h.workers_pos hevents
  obtain ⟨hheard, hadmits⟩ := h.admits hevents
  have hconnecting := (h.driving hworkers hverdict).connecting_concat
    (show (WorkerEvent.firstByte worker ok).isConnected = false from rfl)
  rw [h.answer_eq now hevents, Tracker.answer]
  by_cases hsettled : Settled workers (heard ++ [.firstByte worker ok])
  · rw [if_pos hsettled]
    by_cases hnone : downloadingOf workers (heard ++ [.firstByte worker ok]) = []
    · rw [if_pos hnone]
      exact h.concludes hverdict horders hevents rfl (fun _ _ => .of_concat rfl) .transfer
    · rw [if_neg hnone, answered]
      have hgone := Tracker.allDisconnected_ofLog (hheard.concat hadmits) hworkers
      by_cases hover : AllGone workers (heard ++ [.firstByte worker ok])
      · rw [decide_eq_true hover] at hgone
        rw [if_pos hgone]
        exact h.concludes hverdict horders hevents rfl (fun _ _ => .of_concat rfl)
          (.opened rfl hgone)
      · rw [decide_eq_false hover] at hgone
        rw [if_neg (by simp [hgone])]
        exact h.goes_on hverdict horders hevents rfl (fun _ _ => .of_concat rfl)
          ⟨hconnecting, fun _ => ⟨rfl, hnone⟩, hover⟩
  · rw [if_neg hsettled]
    exact h.goes_on hverdict horders hevents rfl (fun _ _ => .of_concat rfl)
      ⟨hconnecting, fun hboth => absurd hboth hsettled, fun hgone => hsettled hgone.1⟩

theorem Sane.hear_disconnected {worker : Nat}
    (hevents : exchange.events = .disconnected worker :: rest) :
    Sane workers (heard ++ [.disconnected worker])
      ({ exchange with events := rest }.answer now (.disconnected worker)) := by
  have hdriving := h.driving (h.workers_pos hevents) hverdict
  rw [h.answer_eq now hevents, Tracker.answer]
  by_cases hover : AllGone workers (heard ++ [.disconnected worker])
  · rw [if_pos hover, answered]
    refine h.concludes hverdict horders hevents rfl (fun _ _ => .of_concat rfl) ?_
    obtain ⟨window, hwindow⟩ := Option.isSome_iff_exists.mp
      (hdriving.settled (settled_concat_disconnected.mp hover.1)).1
    rw [Coordinator.windowStart, hwindow]
    exact .finalized hwindow
  · rw [if_neg hover]
    refine h.goes_on hverdict horders hevents rfl (fun _ _ => .of_concat rfl)
      ⟨hdriving.connecting_concat rfl, fun hsettled => ?_, hover⟩
    rw [downloadingOf_concat_disconnected]
    exact hdriving.settled (settled_concat_disconnected.mp hsettled)

end Heard

theorem Sane.hear (h : Sane workers heard exchange) {now : Nat}
    (hstep : exchange.step (.hear now) = some next) :
    ∃ event, Sane workers (heard ++ [event]) next := by
  simp only [step, hear?] at hstep
  split at hstep
  · next event rest hevents =>
    split at hstep
    · next hidle =>
      obtain rfl := Option.some.inj hstep
      obtain ⟨hverdict, horders⟩ := Bool.and_eq_true_iff.mp hidle
      rw [Option.isNone_iff_eq_none] at hverdict
      rw [List.isEmpty_iff] at horders
      refine ⟨event, ?_⟩
      cases event with
      | connected worker ok => exact h.hear_connected hverdict horders now hevents
      | firstByte worker ok => exact h.hear_firstByte hverdict horders now hevents
      | disconnected worker => exact h.hear_disconnected hverdict horders now hevents
    · exact absurd hstep (by simp)
  · exact absurd hstep (by simp)

theorem Sane.step (h : Sane workers heard exchange) {move : Move}
    (hstep : exchange.step move = some next) : ∃ heard, Sane workers heard next := by
  cases move with
  | send => exact ⟨heard, h.send hstep⟩
  | hear now => exact (h.hear hstep).imp' (heard ++ [·]) fun _ hnext => hnext
  | expire now => exact ⟨heard, h.expire hstep⟩
  | cancel => exact ⟨heard, h.cancel hstep⟩
  | desert => exact ⟨heard, h.desert hstep⟩
  | shutdown => exact ⟨heard, h.shutdown hstep⟩
  | take worker => exact ⟨heard, h.take hstep⟩
  | happen worker now happening => exact ⟨heard, h.happen hstep⟩
  | leave worker => exact ⟨heard, h.leave hstep⟩

theorem Sane.run (h : Sane workers heard exchange) {moves : List Move}
    (hrun : exchange.run moves = some next) : ∃ heard, Sane workers heard next := by
  induction moves generalizing heard exchange with
  | nil => exact ⟨heard, Option.some.inj hrun ▸ h⟩
  | cons move moves ih =>
    obtain ⟨between, hstep, hrest⟩ := Option.bind_eq_some_iff.mp hrun
    obtain ⟨heard, hbetween⟩ := h.step hstep
    exact ih hbetween hrest

end Exchange

end Throughput
