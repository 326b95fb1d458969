import Throughput.Proofs.Tracker.Counts

/-!
# Interleaved worker streams

Each worker sends its events in its own order, and the streams arrive merged in any way. What the
tracker says to which event follows from what becomes of the connections, not from the merge.
-/

namespace Throughput

inductive Course where
  | refused
  | silent
  | downloads (closed : Bool)
  deriving DecidableEq, Repr

namespace Course

def connects : Course → Bool
  | .refused => false
  | .silent | .downloads _ => true

def delivers : Course → Bool
  | .refused | .silent => false
  | .downloads _ => true

theorem connects_of_delivers {course : Course} (h : course.delivers = true) :
    course.connects = true := by
  cases course <;> simp_all [delivers, connects]

/-- The events of a worker, in its own order. -/
def stream (worker : Nat) : Course → List WorkerEvent
  | .refused => [.connected worker false]
  | .silent => [.connected worker true, .firstByte worker false]
  | .downloads false => [.connected worker true, .firstByte worker true]
  | .downloads true =>
    [.connected worker true, .firstByte worker true, .disconnected worker]

theorem exists_connected_mem (course : Course) (worker : Nat) :
    ∃ ok, .connected worker ok ∈ course.stream worker := by
  rcases course with _ | _ | (_ | _) <;> simp [stream]

theorem exists_firstByte_mem {course : Course} (h : course.connects = true) (worker : Nat) :
    ∃ ok, .firstByte worker ok ∈ course.stream worker := by
  rcases course with _ | _ | (_ | _) <;> simp_all [stream, connects]

/-- What a worker has sent before one of its events. -/
def sentBefore : WorkerEvent → List WorkerEvent
  | .connected _ _ => []
  | .firstByte worker _ => [.connected worker true]
  | .disconnected worker => [.connected worker true, .firstByte worker true]

theorem stream_split {course : Course} {worker : Nat} {event : WorkerEvent}
    {before after : List WorkerEvent} (h : course.stream worker = before ++ event :: after) :
    before = sentBefore event := by
  rcases course with _ | _ | (_ | _) <;>
    rcases before with _ | ⟨first, _ | ⟨second, _ | ⟨third, rest⟩⟩⟩ <;>
      simp_all [stream, sentBefore] <;> grind [sentBefore]

end Course

namespace Tracker

/-- The tracker's answer to an event that follows others. -/
def reply (workers : Nat) (before : List WorkerEvent) (event : WorkerEvent) :
    Except MeasureError Step :=
  ((after workers before).onEvent event).2

/-- One of the events was answered with the order to begin the transfer. -/
def HasBegun (workers : Nat) (log : List WorkerEvent) : Prop :=
  ∃ before event after ids, log = before ++ event :: after ∧
    reply workers before event = .ok (.beginTransfer ids)

section Reply

variable {workers : Nat} {before : List WorkerEvent} {event : WorkerEvent}
  (h : Orderly workers (before ++ [event])) (hworkers : 0 < workers)
include h hworkers

theorem reply_orderly : reply workers before event = answer workers (before ++ [event]) event := by
  obtain ⟨hbefore, hadmits⟩ := orderly_concat.mp h
  rw [reply, after_orderly hbefore hworkers, onEvent_ofLog hbefore.consistent hadmits hworkers]

theorem handshaken_of_beginTransfer {ids : List Nat}
    (hreply : reply workers before event = .ok (.beginTransfer ids)) :
    Handshaken workers (before ++ [event]) := by
  rw [reply_orderly h hworkers] at hreply
  by_contra hwaiting
  cases event with
  | connected worker ok => simp [answer, hwaiting] at hreply
  | firstByte worker ok =>
    simp only [answer] at hreply
    split at hreply <;> [split at hreply; skip] <;> cases hreply
  | disconnected worker =>
    simp only [answer] at hreply
    split at hreply <;> cases hreply

end Reply

end Tracker

/-- The streams of the workers, merged. No worker starts to read before the transfer has begun. -/
structure Interleaving (workers : Nat) (course : Nat → Course) (events : List WorkerEvent) :
    Prop where
  known : ∀ event ∈ events, event.worker < workers
  own : ∀ worker < workers,
    events.filter (fun event => event.worker = worker) = (course worker).stream worker
  begun : ∀ before worker ok after, events = before ++ .firstByte worker ok :: after →
    Tracker.HasBegun workers before

def connecting (workers : Nat) (course : Nat → Course) : List Nat :=
  (List.range workers).filter fun worker => (course worker).connects

def delivering (workers : Nat) (course : Nat → Course) : List Nat :=
  (List.range workers).filter fun worker => (course worker).delivers

def Reported (workers : Nat) (course : Nat → Course) (log : List WorkerEvent) : Prop :=
  connecting workers course ≠ [] ∧
    log.countP WorkerEvent.isFirstByte = (connecting workers course).length

namespace Interleaving

variable {workers : Nat} {course : Nat → Course} {events before after : List WorkerEvent}
  {event : WorkerEvent} (h : Interleaving workers course events)
include h

theorem mem_before (hsplit : events = before ++ event :: after) (other : WorkerEvent)
    (hworker : other.worker = event.worker) :
    other ∈ before ↔ other ∈ Course.sentBefore event := by
  have hknown : event.worker < workers := h.known event (by simp [hsplit])
  have hown := h.own event.worker hknown
  rw [hsplit, List.filter_append, List.filter_cons_of_pos (by simp)] at hown
  rw [← Course.stream_split hown.symm, List.mem_filter]
  simp [hworker]

theorem mem_stream (hmem : event ∈ events) :
    event ∈ (course event.worker).stream event.worker := by
  rw [← h.own event.worker (h.known event hmem)]
  simp [hmem]

theorem mem_of_stream {worker : Nat} (hworker : worker < workers)
    (hmem : event ∈ (course worker).stream worker) : event ∈ events := by
  rw [← h.own worker hworker] at hmem
  exact (List.mem_filter.mp hmem).1

theorem connects_of_mem {worker : Nat} {ok : Bool} (hmem : .connected worker ok ∈ events) :
    (course worker).connects = ok := by
  have hstream := h.mem_stream hmem
  change _ ∈ (course worker).stream worker at hstream
  rcases hcourse : course worker with _ | _ | (_ | _) <;>
    simp_all [Course.stream, Course.connects]

theorem delivers_of_mem {worker : Nat} {ok : Bool} (hmem : .firstByte worker ok ∈ events) :
    (course worker).delivers = ok := by
  have hstream := h.mem_stream hmem
  change _ ∈ (course worker).stream worker at hstream
  rcases hcourse : course worker with _ | _ | (_ | _) <;>
    simp_all [Course.stream, Course.delivers]

theorem orderly (hworkers : 0 < workers) (hsplit : events = before ++ after) :
    Orderly workers before := by
  -- The last event comes after all that its worker has sent before, and after no more of it.
  induction before using List.reverseRecOn generalizing after with
  | nil => exact .nil
  | append_singleton before event ih =>
    rw [List.append_assoc, List.singleton_append] at hsplit
    have hbefore := ih hsplit
    refine hbefore.concat ?_
    cases event with
    | connected worker ok =>
      refine ⟨h.known (.connected worker ok) (by simp [hsplit]), ?_⟩
      intro other hmem
      simpa [Course.sentBefore] using (h.mem_before hsplit (.connected worker other) rfl).mp hmem
    | firstByte worker ok =>
      obtain ⟨first, last, rest, ids, hbegun, hreply⟩ := h.begun before worker ok after hsplit
      refine ⟨?_, ?_, ?_⟩
      · rw [hbegun, List.append_cons] at hbefore ⊢
        exact (Tracker.handshaken_of_beginTransfer hbefore.of_append hworkers hreply).append rest
      · exact (h.mem_before hsplit (.connected worker true) rfl).mpr (by simp [Course.sentBefore])
      · intro other hmem
        simpa [Course.sentBefore] using (h.mem_before hsplit (.firstByte worker other) rfl).mp hmem
    | disconnected worker =>
      constructor
      · exact (h.mem_before hsplit (.firstByte worker true) rfl).mpr (by simp [Course.sentBefore])
      · intro hmem
        simpa [Course.sentBefore] using (h.mem_before hsplit (.disconnected worker) rfl).mp hmem

section Decided

variable {log : List WorkerEvent} (hsplit : events = log ++ after)
include hsplit

theorem connected_mem_iff (hhand : Handshaken workers log) {worker : Nat}
    (hworker : worker < workers) :
    .connected worker true ∈ log ↔ (course worker).connects = true := by
  have hconnects : ∀ ok, .connected worker ok ∈ log → (course worker).connects = ok := by
    intro ok hmem
    exact h.connects_of_mem (hsplit ▸ List.mem_append_left _ hmem)
  constructor
  · exact hconnects true
  · intro hconnected
    rcases hhand worker hworker with hup | hrefused
    · exact hup
    · exact absurd ((hconnects false hrefused).symm.trans hconnected) Bool.false_ne_true

theorem connectedOf_eq (hhand : Handshaken workers log) :
    connectedOf workers log = connecting workers course := by
  apply List.filter_congr
  intro worker hmem
  have hiff := h.connected_mem_iff hsplit hhand (List.mem_range.mp hmem)
  rw [Bool.eq_iff_iff, decide_eq_true_iff]
  exact hiff

theorem downloadingOf_eq (hsettled : Settled workers log) :
    downloadingOf workers log = delivering workers course := by
  obtain ⟨hhand, -, hreported⟩ := hsettled
  apply List.filter_congr
  intro worker hmem
  have hworker : worker < workers := List.mem_range.mp hmem
  have hdelivers : ∀ ok, .firstByte worker ok ∈ log → (course worker).delivers = ok := by
    intro ok hlog
    exact h.delivers_of_mem (hsplit ▸ List.mem_append_left _ hlog)
  rw [Bool.eq_iff_iff, decide_eq_true_iff]
  constructor
  · exact hdelivers true
  · intro hdelivered
    have hup := (h.connected_mem_iff hsplit hhand hworker).mpr
      (Course.connects_of_delivers hdelivered)
    rcases hreported worker hworker hup with hdown | hsilent
    · exact hdown
    · exact absurd ((hdelivers false hsilent).symm.trans hdelivered) Bool.false_ne_true

variable (hworkers : 0 < workers)
include hworkers

theorem handshaken_iff_countP :
    Handshaken workers log ↔ log.countP WorkerEvent.isConnected = workers := by
  have hlog := h.orderly hworkers hsplit
  rw [hlog.countP_isConnected, hlog.consistent.handshaken_iff]

theorem settled_iff_reported : Settled workers log ↔ Reported workers course log := by
  have hlog := h.orderly hworkers hsplit
  have hall : (downloadingOf workers log).length + (silentOf workers log).length =
      (connectedOf workers log).length ↔ _ :=
    length_reporters_add_eq_iff hlog.consistent.firstByte hlog.consistent.connected_of_firstByte
  rw [Reported, hlog.countP_isFirstByte]
  constructor
  · rintro ⟨hhand, hup, hreported⟩
    have hsame := h.connectedOf_eq hsplit hhand
    exact ⟨hsame ▸ reporters_ne_nil.mpr hup, hsame ▸ hall.mpr hreported⟩
  · rintro ⟨hne, hcount⟩
    have hhand : Handshaken workers log := by
      by_contra hwaiting
      have hnone := hlog.consistent.reporters_firstByte fun hboth => hwaiting hboth.1
      rw [downloadingOf, silentOf, hnone, hnone] at hcount
      exact hne (List.length_eq_zero_iff.mp hcount.symm)
    rw [← h.connectedOf_eq hsplit hhand] at hne hcount
    exact ⟨hhand, reporters_ne_nil.mp hne, hall.mp hcount⟩

end Decided

end Interleaving

/-- The event is the last answer that was missing. -/
def LastAnswer (workers : Nat) (before : List WorkerEvent) (event : WorkerEvent) : Prop :=
  event.isConnected = true ∧ before.countP WorkerEvent.isConnected + 1 = workers

/-- The event is the last report on a first byte that was missing. -/
def LastFirstByte (workers : Nat) (course : Nat → Course) (before : List WorkerEvent)
    (event : WorkerEvent) : Prop :=
  event.isFirstByte = true ∧
    before.countP WorkerEvent.isFirstByte + 1 = (connecting workers course).length

/-- What the tracker says to an event of interleaved streams. -/
structure Decides (workers : Nat) (course : Nat → Course) (before : List WorkerEvent)
    (event : WorkerEvent) : Prop where
  begins : ∀ ids, Tracker.reply workers before event = .ok (.beginTransfer ids) ↔
    LastAnswer workers before event ∧ ids = connecting workers course ∧ ids ≠ []
  connection : Tracker.reply workers before event = .error .connection ↔
    LastAnswer workers before event ∧ connecting workers course = []
  opens : Tracker.reply workers before event = .ok .openWindow ↔
    LastFirstByte workers course before event ∧ delivering workers course ≠ []
  transfer : Tracker.reply workers before event = .error .transfer ↔
    LastFirstByte workers course before event ∧ delivering workers course = []
  finalizes : Tracker.reply workers before event = .ok .finalize ↔
    (∃ worker, event = .disconnected worker) ∧
      (Tracker.after workers before).allDisconnected = false ∧
      (Tracker.after workers (before ++ [event])).allDisconnected = true

/-- How the tracker conducts a run over interleaved streams. Everything it decides is a function of
what becomes of the workers. -/
structure Conducts (workers : Nat) (course : Nat → Course) (events : List WorkerEvent) : Prop where
  ascending : (connecting workers course).Pairwise (· < ·)
  answered : events.countP WorkerEvent.isConnected = workers
  reported : events.countP WorkerEvent.isFirstByte = (connecting workers course).length
  decides : ∀ before event after, events = before ++ event :: after →
    Decides workers course before event
  downloading : ∀ log after, events = log ++ after → Reported workers course log →
    (Tracker.after workers log).downloading = (delivering workers course).length
  allDisconnected : ∀ log after, events = log ++ after →
    ((Tracker.after workers log).allDisconnected = true ↔ Reported workers course log ∧
      ∀ worker ∈ delivering workers course, .disconnected worker ∈ log)
  early : ∀ before event after, events = before ++ event :: after →
    LastFirstByte workers course before event →
    (∀ worker ∈ delivering workers course, .disconnected worker ∈ before) →
    (Tracker.after workers (before ++ [event])).allDisconnected = true
  orderless : ∀ other, Interleaving workers course other →
    Tracker.after workers other = Tracker.after workers events

namespace Interleaving

section Reply

variable {workers worker : Nat} {course : Nat → Course} {events before after : List WorkerEvent}
  {ok : Bool} (h : Interleaving workers course events) (hworkers : 0 < workers)
include h hworkers

theorem reply_connected (hsplit : events = before ++ .connected worker ok :: after) :
    Tracker.reply workers before (.connected worker ok) =
      if before.countP WorkerEvent.isConnected + 1 = workers then
        if connecting workers course = [] then .error .connection
        else .ok (.beginTransfer (connecting workers course))
      else .ok .wait := by
  rw [List.append_cons] at hsplit
  have hhand := h.handshaken_iff_countP hsplit hworkers
  have hcount : List.countP WorkerEvent.isConnected (before ++ [.connected worker ok]) =
      before.countP WorkerEvent.isConnected + 1 :=
    List.countP_append
  rw [hcount] at hhand
  rw [Tracker.reply_orderly (h.orderly hworkers hsplit) hworkers, Tracker.answer]
  by_cases hlast : Handshaken workers (before ++ [.connected worker ok])
  · rw [if_pos hlast, if_pos (hhand.mp hlast), h.connectedOf_eq hsplit hlast]
  · rw [if_neg hlast, if_neg (mt hhand.mpr hlast)]

theorem reply_firstByte (hsplit : events = before ++ .firstByte worker ok :: after) :
    Tracker.reply workers before (.firstByte worker ok) =
      if before.countP WorkerEvent.isFirstByte + 1 = (connecting workers course).length then
        if delivering workers course = [] then .error .transfer else .ok .openWindow
      else .ok .wait := by
  rw [List.append_cons] at hsplit
  have hsettled := h.settled_iff_reported hsplit hworkers
  have hcount : List.countP WorkerEvent.isFirstByte (before ++ [.firstByte worker ok]) =
      before.countP WorkerEvent.isFirstByte + 1 :=
    List.countP_append
  rw [Reported, hcount] at hsettled
  rw [Tracker.reply_orderly (h.orderly hworkers hsplit) hworkers, Tracker.answer]
  by_cases hlast : Settled workers (before ++ [.firstByte worker ok])
  · rw [if_pos hlast, if_pos (hsettled.mp hlast).2, h.downloadingOf_eq hsplit hlast]
  · have hmore : before.countP WorkerEvent.isFirstByte + 1 ≠
        (connecting workers course).length := by
      intro heq
      exact hlast (hsettled.mpr ⟨List.ne_nil_of_length_eq_add_one heq.symm, heq⟩)
    rw [if_neg hlast, if_neg hmore]

theorem reply_disconnected (hsplit : events = before ++ .disconnected worker :: after) :
    Tracker.reply workers before (.disconnected worker) =
      .ok (if (Tracker.after workers (before ++ [.disconnected worker])).allDisconnected = true
        then .finalize else .wait) := by
  rw [List.append_cons] at hsplit
  have hlog := h.orderly hworkers hsplit
  rw [Tracker.reply_orderly hlog hworkers, Tracker.answer, Tracker.after_orderly hlog hworkers,
    Tracker.allDisconnected_ofLog hlog.consistent hworkers]
  simp only [decide_eq_true_iff]

theorem allDisconnected_before (hsplit : events = before ++ .disconnected worker :: after) :
    (Tracker.after workers before).allDisconnected = false := by
  have hlog := h.orderly hworkers (List.append_cons .. ▸ hsplit)
  obtain ⟨hbefore, hdown, hfresh⟩ := orderly_concat.mp hlog
  have hworker : worker < workers := h.known (.disconnected worker) (by simp [hsplit])
  rw [Tracker.after_orderly hbefore hworkers,
    Tracker.allDisconnected_ofLog hbefore.consistent hworkers, decide_eq_false_iff_not]
  intro hgone
  exact hfresh (hgone.2 worker hworker hdown)

theorem allDisconnected_iff {log : List WorkerEvent} (hsplit : events = log ++ after) :
    (Tracker.after workers log).allDisconnected = true ↔ Reported workers course log ∧
      ∀ worker ∈ delivering workers course, .disconnected worker ∈ log := by
  have hlog := h.orderly hworkers hsplit
  rw [Tracker.after_orderly hlog hworkers, Tracker.allDisconnected_ofLog hlog.consistent hworkers,
    decide_eq_true_iff, AllGone, h.settled_iff_reported hsplit hworkers]
  refine and_congr_right fun hcount => ?_
  rw [← h.downloadingOf_eq hsplit ((h.settled_iff_reported hsplit hworkers).mpr hcount)]
  simp [mem_reporters]

theorem decides {event : WorkerEvent} (hsplit : events = before ++ event :: after) :
    Decides workers course before event := by
  cases event with
  | connected worker ok =>
    have hreply := h.reply_connected hworkers hsplit
    constructor <;> rw [hreply] <;> grind [LastAnswer, LastFirstByte, WorkerEvent.isConnected,
      WorkerEvent.isFirstByte]
  | firstByte worker ok =>
    have hreply := h.reply_firstByte hworkers hsplit
    constructor <;> rw [hreply] <;> grind [LastAnswer, LastFirstByte, WorkerEvent.isConnected,
      WorkerEvent.isFirstByte]
  | disconnected worker =>
    have hreply := h.reply_disconnected hworkers hsplit
    have hbefore := h.allDisconnected_before hworkers hsplit
    constructor <;> rw [hreply] <;> grind [LastAnswer, LastFirstByte, WorkerEvent.isConnected,
      WorkerEvent.isFirstByte]

omit hworkers in
theorem handshaken : Handshaken workers events := by
  intro worker hworker
  obtain ⟨ok, hstream⟩ := (course worker).exists_connected_mem worker
  have hmem := h.mem_of_stream hworker hstream
  cases ok with
  | true => exact Or.inl hmem
  | false => exact Or.inr hmem

theorem countP_isFirstByte :
    events.countP WorkerEvent.isFirstByte = (connecting workers course).length := by
  have hwhole : events = events ++ [] := (List.append_nil events).symm
  have hup := h.connectedOf_eq hwhole h.handshaken
  have hlog := h.orderly hworkers hwhole
  by_cases hnone : connecting workers course = []
  · have hclosed := hlog.consistent.reporters_firstByte fun hboth => hboth.2 (hup.trans hnone)
    rw [hlog.countP_isFirstByte, downloadingOf, silentOf, hclosed, hclosed, hnone]
    rfl
  · have hsettled : Settled workers events := by
      refine ⟨h.handshaken, reporters_ne_nil.mp (hup.trans_ne hnone), ?_⟩
      intro worker hworker hconnected
      obtain ⟨ok, hstream⟩ := Course.exists_firstByte_mem (h.connects_of_mem hconnected) worker
      have hmem := h.mem_of_stream hworker hstream
      cases ok with
      | true => exact Or.inl hmem
      | false => exact Or.inr hmem
    exact ((h.settled_iff_reported hwhole hworkers).mp hsettled).2

theorem allDisconnected_early {event : WorkerEvent} (hsplit : events = before ++ event :: after)
    (hlast : LastFirstByte workers course before event)
    (hclosed : ∀ worker ∈ delivering workers course, .disconnected worker ∈ before) :
    (Tracker.after workers (before ++ [event])).allDisconnected = true := by
  obtain ⟨hevent, hcount⟩ := hlast
  rw [List.append_cons] at hsplit
  rw [h.allDisconnected_iff hworkers hsplit, Reported, List.countP_append, List.countP_singleton,
    if_pos hevent]
  refine ⟨⟨List.ne_nil_of_length_eq_add_one hcount.symm, hcount⟩, ?_⟩
  intro worker hmem
  exact List.mem_append_left _ (hclosed worker hmem)

omit hworkers in
theorem mem_iff {event : WorkerEvent} :
    event ∈ events ↔ event.worker < workers ∧
      event ∈ (course event.worker).stream event.worker := by
  constructor
  · intro hmem
    exact ⟨h.known event hmem, h.mem_stream hmem⟩
  · rintro ⟨hworker, hstream⟩
    exact h.mem_of_stream hworker hstream

theorem after_eq {other : List WorkerEvent} (hother : Interleaving workers course other) :
    Tracker.after workers other = Tracker.after workers events := by
  rw [Tracker.after_orderly (h.orderly hworkers (List.append_nil _).symm) hworkers,
    Tracker.after_orderly (hother.orderly hworkers (List.append_nil _).symm) hworkers]
  exact Tracker.ofLog_congr fun event => hother.mem_iff.trans h.mem_iff.symm

end Reply

end Interleaving

/-- Over every merge of the workers' streams the tracker begins the transfer, opens the window and
finalizes where the workers' own courses say so. -/
theorem interleaving_conducts {workers : Nat} {course : Nat → Course} {events : List WorkerEvent}
    (h : Interleaving workers course events) (hworkers : 0 < workers) :
    Conducts workers course events where
  ascending := List.pairwise_lt_range.filter _
  answered := (h.handshaken_iff_countP (List.append_nil events).symm hworkers).mp h.handshaken
  reported := h.countP_isFirstByte hworkers
  decides := fun _ _ _ hsplit => h.decides hworkers hsplit
  downloading := by
    intro log after hsplit hreported
    rw [Tracker.after_orderly (h.orderly hworkers hsplit) hworkers, Tracker.downloading_ofLog,
      h.downloadingOf_eq hsplit ((h.settled_iff_reported hsplit hworkers).mpr hreported)]
  allDisconnected := fun _ _ hsplit => h.allDisconnected_iff hworkers hsplit
  early := fun _ _ _ hsplit => h.allDisconnected_early hworkers hsplit
  orderless := fun _ hother => h.after_eq hworkers hother

/-- Three workers of which one is refused and one closed before the window opens. -/
theorem interleaving_conducts_early_close :
    (Interleaving 3 (fun worker => if worker = 1 then .refused else .downloads (worker = 0))
        [.connected 2 true, .connected 1 false, .connected 0 true, .firstByte 0 true,
          .disconnected 0, .firstByte 2 true] ∧ 0 < 3) ∧
      Conducts 3 (fun worker => if worker = 1 then .refused else .downloads (worker = 0))
        [.connected 2 true, .connected 1 false, .connected 0 true, .firstByte 0 true,
          .disconnected 0, .firstByte 2 true] := by
  have hinterleaving : Interleaving 3
      (fun worker => if worker = 1 then .refused else .downloads (worker = 0))
      [.connected 2 true, .connected 1 false, .connected 0 true, .firstByte 0 true,
        .disconnected 0, .firstByte 2 true] := by
    refine ⟨by decide, by decide, ?_⟩
    intro before worker ok after hsplit
    refine ⟨[.connected 2 true, .connected 1 false], .connected 0 true, before.drop 3, [0, 2], ?_,
      by decide⟩
    rcases before with _ | ⟨first, _ | ⟨second, _ | ⟨third, rest⟩⟩⟩ <;> simp_all
  exact ⟨⟨hinterleaving, by decide⟩, interleaving_conducts hinterleaving (by decide)⟩

end Throughput
