import Throughput.Proofs.Exchange.Stage

/-!
# What every move keeps

Every worker stands at a stage that fits what was sent to it and what it has said, the events come
in order, and the coordinator knows what it has heard of them.
-/

namespace Throughput

/-- The coordinator has heard that every worker has answered, and that this one is connected. -/
def Begun (workers : Nat) (heard : List WorkerEvent) (id : Nat) : Prop :=
  Handshaken workers heard ∧ .connected id true ∈ heard

instance (workers : Nat) (heard : List WorkerEvent) (id : Nat) : Decidable (Begun workers heard id) :=
  inferInstanceAs (Decidable (_ ∧ _))

def saidBy (id : Nat) (log : List WorkerEvent) : List WorkerEvent :=
  log.filter fun event => event.worker = id

/-- Nothing that the coordinator has heard ends its drive. -/
structure Driving (workers : Nat) (heard : List WorkerEvent) (window : Option Window) : Prop where
  connecting : ¬ (Handshaken workers heard ∧ connectedOf workers heard = [])
  settled : Settled workers heard → window.isSome = true ∧ downloadingOf workers heard ≠ []
  going : ¬ AllGone workers heard

section Driving

variable {workers id : Nat} {heard log : List WorkerEvent} {event : WorkerEvent}

theorem saidBy_append (after : List WorkerEvent) :
    saidBy id (log ++ after) = saidBy id log ++ saidBy id after :=
  List.filter_append ..

theorem mem_saidBy : event ∈ saidBy event.worker log ↔ event ∈ log := by
  simp [saidBy]

/-- The coordinator never hears the last of its workers without an end to its drive. -/
theorem Driving.not_spoken {window : Option Window} (h : Driving workers heard window) :
    ¬ ∀ id < workers, Spoken id (saidBy id heard) := by
  intro hspoken
  have hmem {id : Nat} {course : Course} (hcourse : saidBy id heard = course.stream id)
      {event : WorkerEvent} (hevent : event.worker = id) :
      event ∈ heard ↔ event ∈ course.stream id := by
    subst hevent
    rw [← hcourse, mem_saidBy]
  have hhand : Handshaken workers heard := by
    intro id hid
    obtain ⟨course, -, hcourse⟩ := hspoken id hid
    obtain ⟨ok, hok⟩ := course.exists_connected_mem id
    have hheard := (hmem hcourse rfl).mpr hok
    cases ok with
    | true => exact .inl hheard
    | false => exact .inr hheard
  have hsettled : Settled workers heard := by
    refine ⟨hhand, reporters_ne_nil.mp fun hnone => h.connecting ⟨hhand, hnone⟩, ?_⟩
    intro id hid hup
    obtain ⟨course, -, hcourse⟩ := hspoken id hid
    have hconnects : course.connects = true := by
      have hstream := (hmem hcourse rfl).mp hup
      rcases course with _ | _ | (_ | _) <;> simp_all [Course.stream, Course.connects]
    obtain ⟨ok, hok⟩ := Course.exists_firstByte_mem hconnects id
    have hheard := (hmem hcourse rfl).mpr hok
    cases ok with
    | true => exact .inl hheard
    | false => exact .inr hheard
  refine h.going ⟨hsettled, fun id hid hdown => ?_⟩
  obtain ⟨course, hclosed, hcourse⟩ := hspoken id hid
  refine (hmem hcourse rfl).mpr ?_
  have hstream := (hmem hcourse rfl).mp hdown
  rcases course with _ | _ | (_ | _) <;> simp_all [Course.stream]

end Driving

/-- The ways in which a drive may end. -/
inductive Closes (coordinator : Coordinator) : Verdict → Prop
  | cancelled : Closes coordinator ⟨.cancelled, .error .cancelled⟩
  | expired {window : Window} (hwindow : coordinator.window = some window) :
      Closes coordinator ⟨.expired, .ok window.start⟩
  | connection : Closes coordinator ⟨.answered (.error .connection), .error .connection⟩
  | transfer : Closes coordinator ⟨.answered (.error .transfer), .error .transfer⟩
  | finalized {window : Window} (hwindow : coordinator.window = some window) :
      Closes coordinator ⟨.answered (.ok .finalize), .ok window.start⟩
  | opened {window : Window} (hwindow : coordinator.window = some window)
      (hgone : coordinator.tracker.allDisconnected = true) :
      Closes coordinator ⟨.answered (.ok .openWindow), .ok window.start⟩

namespace Exchange

/-- The commands to one worker among the orders. -/
def commandsTo (id : Nat) (orders : List (Nat × Command)) : List Command :=
  (orders.filter fun order => order.1 = id).map fun order => order.2

def sentTo (exchange : Exchange) (id : Nat) : List Command :=
  (exchange.sent.filter fun parcel => parcel.worker = id).map fun parcel => parcel.command

/-- The command was put into the channel, or its worker was gone. -/
def Kept (posts : List Post) (parcel : Parcel) : Prop :=
  parcel.acceptance = .queued ∨
    parcel.acceptance = .closed ∧ ∃ post ∈ posts[parcel.worker]?, post.gone = true

structure Sane (workers : Nat) (heard : List WorkerEvent) (exchange : Exchange) : Prop where
  length_posts : exchange.posts.length = workers
  stage : ∀ (id : Nat) (post : Post), exchange.posts[id]? = some post →
    Stage id (Begun workers heard id) exchange.completed post.task
      (saidBy id (heard ++ exchange.events)) (post.mailbox ++ commandsTo id exchange.orders)
  gone : ∀ (id : Nat) (post : Post), exchange.posts[id]? = some post → post.gone = true →
    post.task.phase = .done ∧ post.mailbox = []
  commands : ∀ id < workers, exchange.sentTo id ++ commandsTo id exchange.orders =
    planned (Begun workers heard id) exchange.completed
  kept : ∀ parcel ∈ exchange.sent, Kept exchange.posts parcel
  orderly : Orderly workers (heard ++ exchange.events)
  tracker : 0 < workers → exchange.coordinator.tracker = .ofLog workers heard
  uncompleted : exchange.verdict = none → exchange.completed = false
  driving : 0 < workers → exchange.verdict = none →
    Driving workers heard exchange.coordinator.window
  closes : 0 < workers → ∀ verdict, exchange.verdict = some verdict →
    Closes exchange.coordinator verdict

section Lemmas

variable {workers id : Nat} {heard log : List WorkerEvent} {event : WorkerEvent}

/-- An event that continues what its worker has said may come next. -/
theorem admits_of_saidBy (hworker : event.worker < workers)
    (hsaid : saidBy event.worker log = Course.sentBefore event)
    (hbegun : event.isFirstByte → Handshaken workers log) : Admits workers log event := by
  have hmem (other : WorkerEvent) (hother : other.worker = event.worker) :
      other ∈ log ↔ other ∈ Course.sentBefore event := by
    rw [← hsaid, ← hother, mem_saidBy]
  cases event with
  | connected worker ok =>
    refine ⟨hworker, fun other hother => ?_⟩
    simpa [Course.sentBefore] using (hmem (.connected worker other) rfl).mp hother
  | firstByte worker ok =>
    refine ⟨hbegun rfl, (hmem (.connected worker true) rfl).mpr ?_, fun other hother => ?_⟩
    · simp [Course.sentBefore]
    · simpa [Course.sentBefore] using (hmem (.firstByte worker other) rfl).mp hother
  | disconnected worker =>
    refine ⟨(hmem (.firstByte worker true) rfl).mpr ?_, fun hother => ?_⟩
    · simp [Course.sentBefore]
    · simpa [Course.sentBefore] using (hmem (.disconnected worker) rfl).mp hother

theorem commandsTo_ordersTo (command : Command) {ids : List Nat} (hids : ids.Nodup) :
    commandsTo id (ordersTo command ids) = if id ∈ ids then [command] else [] := by
  induction ids with
  | nil => rfl
  | cons first ids ih =>
    obtain ⟨hfirst, hids⟩ := List.nodup_cons.mp hids
    have hrest := ih hids
    simp only [commandsTo, ordersTo] at hrest ⊢
    by_cases hsame : first = id
    · subst hsame
      rw [if_neg hfirst] at hrest
      simp [hrest]
    · rw [List.map_cons, List.filter_cons_of_neg (by simpa using hsame), hrest]
      simp [Ne.symm hsame]

end Lemmas

theorem sane_start (definition : DownloadDefinition) (workers : Nat) :
    Sane workers [] (start definition workers) := by
  have hpending (id : Nat) : commandsTo id (start definition workers).orders =
      if id < workers then [.connect] else [] := by
    rw [start, commandsTo_ordersTo .connect List.nodup_range]
    simp only [List.mem_range]
  have hpost (id : Nat) (post : Post) (h : (start definition workers).posts[id]? = some post) :
      id < workers ∧ post = .ofId id := by
    obtain ⟨hid, rfl⟩ := List.getElem?_eq_some_iff.mp h
    exact ⟨by simpa [start] using hid, by simp [start]⟩
  have hbegun (id : Nat) : ¬ Begun workers [] id := fun h => absurd h.2 List.not_mem_nil
  refine ⟨by simp [start], fun id post h => ?_, fun id post h hgone => ?_, fun id hid => ?_, nofun,
    .nil, fun hworkers => ?_, fun _ => rfl, fun hworkers _ => ?_, nofun⟩
  · obtain ⟨hid, rfl⟩ := hpost id post h
    rw [hpending, if_pos hid]
    exact .waiting
  · obtain ⟨hid, rfl⟩ := hpost id post h
    exact absurd hgone (by simp [Post.ofId])
  · rw [hpending, if_pos hid, decide_eq_false (hbegun id)]
    rfl
  · exact (Tracker.ofLog_nil hworkers).symm
  · have hwaiting : ¬ Handshaken workers [] := fun h => by simpa using h 0 hworkers
    exact ⟨fun h => hwaiting h.1, fun h => absurd h.1 hwaiting, fun h => hwaiting h.1.1⟩

/-! ## Moves of the workers -/

section Steps

variable {workers : Nat} {heard : List WorkerEvent} {exchange next : Exchange}

theorem getElem?_set_cases {posts : List Post} {worker id : Nat} {post found : Post}
    (h : (posts.set worker post)[id]? = some found) :
    (id = worker ∧ found = post) ∨ (id ≠ worker ∧ posts[id]? = some found) := by
  by_cases hid : id = worker
  · subst hid
    rw [List.getElem?_set_self'] at h
    obtain ⟨old, -, rfl⟩ := Option.map_eq_some_iff.mp h
    exact .inl ⟨rfl, rfl⟩
  · rw [List.getElem?_set_ne (Ne.symm hid)] at h
    exact .inr ⟨hid, h⟩

theorem Kept.set {posts : List Post} {parcel : Parcel} (h : Kept posts parcel) {worker : Nat}
    {old post : Post} (hold : posts[worker]? = some old) (hgone : old.gone = true → post.gone = true) :
    Kept (posts.set worker post) parcel := by
  refine h.imp_right fun ⟨hclosed, found, hfound, hleft⟩ => ⟨hclosed, ?_⟩
  have hbound : worker < posts.length := (List.getElem?_eq_some_iff.mp hold).1
  by_cases hid : parcel.worker = worker
  · obtain rfl : old = found := Option.some.inj (hold.symm.trans (hid ▸ hfound))
    rw [hid, List.getElem?_set_self hbound]
    exact ⟨post, rfl, hgone hleft⟩
  · rw [List.getElem?_set_ne (Ne.symm hid)]
    exact ⟨found, hfound, hleft⟩

theorem Sane.lt_workers (h : Sane workers heard exchange) {worker : Nat} {post : Post}
    (hpost : exchange.posts[worker]? = some post) : worker < workers :=
  h.length_posts ▸ (List.getElem?_eq_some_iff.mp hpost).1

/-- A worker that keeps to its stages keeps the exchange sane. -/
theorem Sane.work (h : Sane workers heard exchange) {worker : Nat} {old post : Post}
    (hold : exchange.posts[worker]? = some old) {event : Option WorkerEvent}
    (hstage : Stage worker (Begun workers heard worker) exchange.completed post.task
      (saidBy worker (heard ++ exchange.events) ++ event.toList)
      (post.mailbox ++ commandsTo worker exchange.orders))
    (hgone : post.gone = true → post.task.phase = .done ∧ post.mailbox = [])
    (hkept : old.gone = true → post.gone = true)
    (hevent : ∀ said ∈ event, said.worker = worker ∧
      saidBy worker (heard ++ exchange.events) = Course.sentBefore said ∧
      (said.isFirstByte → Begun workers heard worker)) :
    Sane workers heard
      { exchange with
        posts := exchange.posts.set worker post
        events := exchange.events ++ event.toList } := by
  have hworker : worker < workers := h.lt_workers hold
  have hsaid (id : Nat) : saidBy id (heard ++ (exchange.events ++ event.toList)) =
      saidBy id (heard ++ exchange.events) ++ if id = worker then event.toList else [] := by
    rw [← List.append_assoc, saidBy_append]
    congr 1
    cases event with
    | none => simp [saidBy]
    | some said =>
      obtain ⟨rfl, -⟩ := hevent said rfl
      by_cases hid : id = said.worker
      · simp [saidBy, hid]
      · simp [saidBy, hid, Ne.symm hid]
  refine { h with length_posts := ?_, stage := ?_, gone := ?_, kept := ?_, orderly := ?_ }
  · exact (List.length_set ..).trans h.length_posts
  · intro id found hfound
    change Stage id _ _ _ (saidBy id (heard ++ (exchange.events ++ event.toList))) _
    rw [hsaid]
    rcases getElem?_set_cases hfound with ⟨rfl, rfl⟩ | ⟨hid, hfound⟩
    · rw [if_pos rfl]
      exact hstage
    · rw [if_neg hid, List.append_nil]
      exact h.stage id found hfound
  · intro id found hfound
    rcases getElem?_set_cases hfound with ⟨rfl, rfl⟩ | ⟨hid, hfound⟩
    · exact hgone
    · exact h.gone id found hfound
  · exact fun parcel hparcel => (h.kept parcel hparcel).set hold hkept
  · change Orderly workers (heard ++ (exchange.events ++ event.toList))
    cases event with
    | none => simpa using h.orderly
    | some said =>
      obtain ⟨rfl, hbefore, hbegun⟩ := hevent said rfl
      rw [Option.toList_some, ← List.append_assoc]
      exact h.orderly.concat (admits_of_saidBy hworker hbefore fun hfirst =>
        (hbegun hfirst).1.append exchange.events)

theorem exists_of_work? {worker : Nat} {move : Post → Option (Post × Option WorkerEvent)}
    (h : exchange.work? worker move = some next) :
    ∃ old post event, exchange.posts[worker]? = some old ∧ move old = some (post, event) ∧
      next = { exchange with
        posts := exchange.posts.set worker post
        events := exchange.events ++ event.toList } := by
  unfold work? at h
  split at h
  · exact absurd h (by simp)
  · next old hold =>
    obtain ⟨⟨post, event⟩, hmove, rfl⟩ := Option.map_eq_some_iff.mp h
    exact ⟨old, post, event, hold, hmove, rfl⟩

theorem Sane.take (h : Sane workers heard exchange) {worker : Nat}
    (hstep : exchange.step (.take worker) = some next) : Sane workers heard next := by
  obtain ⟨old, post, event, hold, hmove, rfl⟩ := exists_of_work? hstep
  obtain ⟨taken, htake, hmoved⟩ := Option.map_eq_some_iff.mp hmove
  obtain ⟨rfl, rfl⟩ := Prod.mk.inj hmoved
  have hstage := h.stage worker old hold
  unfold Post.take? at htake
  split at htake
  · next command mailbox hmailbox =>
    split at htake
    · exact absurd htake (by simp)
    · next hphase =>
      obtain rfl := Option.some.inj htake
      rw [hmailbox] at hstage
      refine h.work hold ?_ (fun hgone => absurd (h.gone worker old hold hgone).1 hphase) id nofun
      simpa using hstage.obey hphase
  · exact absurd htake (by simp)

theorem Sane.happen (h : Sane workers heard exchange) {worker now : Nat} {happening : Happening}
    (hstep : exchange.step (.happen worker now happening) = some next) :
    Sane workers heard next := by
  obtain ⟨old, post, event, hold, hmove, rfl⟩ := exists_of_work? hstep
  obtain ⟨rfl, rfl⟩ := Prod.mk.inj (Option.some.inj hmove)
  have hlog : Begun workers heard worker →
      .connected worker true ∈ saidBy worker (heard ++ exchange.events) := fun hbegun =>
    mem_saidBy.mpr (List.mem_append_left _ hbegun.2)
  have hmoved := (h.stage worker old hold).happen hlog now happening
  refine h.work hold hmoved.stage (fun hgone => ?_) id hmoved.event
  obtain ⟨hphase, hmailbox⟩ := h.gone worker old hold hgone
  exact ⟨by simp [hphase], hmailbox⟩

theorem Sane.leave (h : Sane workers heard exchange) {worker : Nat}
    (hstep : exchange.step (.leave worker) = some next) : Sane workers heard next := by
  obtain ⟨old, post, event, hold, hmove, rfl⟩ := exists_of_work? hstep
  obtain ⟨left, hleave, hmoved⟩ := Option.map_eq_some_iff.mp hmove
  obtain ⟨rfl, rfl⟩ := Prod.mk.inj hmoved
  have hstage := h.stage worker old hold
  unfold Post.leave? at hleave
  split at hleave
  · next hphase =>
    obtain rfl := Option.some.inj hleave
    refine h.work hold ?_ (fun _ => ⟨hphase, rfl⟩) (fun _ => rfl) nofun
    simpa using hstage.suffix_of_done hphase (List.suffix_append old.mailbox _)
  · exact absurd hleave (by simp)

/-! ## Moves of the coordinator -/

theorem commandsTo_cons_self (worker : Nat) (command : Command) (orders : List (Nat × Command)) :
    commandsTo worker ((worker, command) :: orders) = command :: commandsTo worker orders := by
  simp [commandsTo]

theorem commandsTo_cons_of_ne {worker id : Nat} (hid : worker ≠ id) (command : Command)
    (orders : List (Nat × Command)) :
    commandsTo id ((worker, command) :: orders) = commandsTo id orders := by
  simp [commandsTo, hid]

theorem Sane.length_mailbox (h : Sane workers heard exchange) {worker : Nat} {post : Post}
    (hpost : exchange.posts[worker]? = some post) : post.mailbox.length < Post.capacity := by
  have hdue := (h.stage worker post hpost).length_due_le
  rw [List.length_append] at hdue
  exact Nat.lt_of_le_of_lt (Nat.le_trans (Nat.le_add_right _ _) hdue) (by decide)

/-- A command that is sent has room in its channel, or its worker is gone. -/
theorem Sane.trySend (h : Sane workers heard exchange) {worker : Nat} {old : Post}
    (hold : exchange.posts[worker]? = some old) {command : Command} {due : List Command}
    (hdue : commandsTo worker exchange.orders = command :: due) :
    ((old.trySend command).2 = .queued ∨
        (old.trySend command).2 = .closed ∧ (old.trySend command).1.gone = true) ∧
      (old.gone = true → (old.trySend command).1.gone = true) ∧
      ((old.trySend command).1.gone = true →
        (old.trySend command).1.task.phase = .done ∧ (old.trySend command).1.mailbox = []) ∧
      Stage worker (Begun workers heard worker) exchange.completed (old.trySend command).1.task
        (saidBy worker (heard ++ exchange.events)) ((old.trySend command).1.mailbox ++ due) := by
  have hstage := h.stage worker old hold
  rw [hdue] at hstage
  unfold Post.trySend
  split
  · next hgone =>
    obtain ⟨hphase, hmailbox⟩ := h.gone worker old hold hgone
    refine ⟨.inr ⟨rfl, hgone⟩, id, fun _ => ⟨hphase, hmailbox⟩, hstage.suffix_of_done hphase ?_⟩
    simp [hmailbox]
  · next hgone =>
    rw [if_neg (Nat.not_le.mpr (h.length_mailbox hold))]
    exact ⟨.inl rfl, id, fun hgone' => absurd hgone' hgone, by simpa using hstage⟩

section Send

variable (h : Sane workers heard exchange) {worker : Nat} {command : Command}
  {orders : List (Nat × Command)} (horders : exchange.orders = (worker, command) :: orders)

include h horders

theorem Sane.send_nobody (hnone : exchange.posts[worker]? = none) :
    Sane workers heard { exchange with orders } := by
  have hworker : ¬ worker < workers := by
    rw [← h.length_posts]
    exact Nat.not_lt.mpr (List.getElem?_eq_none_iff.mp hnone)
  have hother {id : Nat} (hid : id < workers) :
      commandsTo id exchange.orders = commandsTo id orders := by
    rw [horders, commandsTo_cons_of_ne]
    exact fun hsame => hworker (hsame ▸ hid)
  refine { h with stage := fun id post hpost => ?_, commands := fun id hid => ?_ }
  · have hstage := h.stage id post hpost
    rwa [hother (h.lt_workers hpost)] at hstage
  · have hcommands := h.commands id hid
    rwa [hother hid] at hcommands

theorem Sane.send_somebody {old : Post} (hold : exchange.posts[worker]? = some old) :
    Sane workers heard
      { exchange with
        orders
        posts := exchange.posts.set worker (old.trySend command).1
        sent := exchange.sent ++ [⟨worker, command, (old.trySend command).2⟩] } := by
  obtain ⟨hroom, hleft, hgone, hstage⟩ :=
    h.trySend hold (horders ▸ commandsTo_cons_self worker command orders)
  refine { h with length_posts := ?_, stage := ?_, gone := ?_, commands := ?_, kept := ?_ }
  · exact (List.length_set ..).trans h.length_posts
  · intro id found hfound
    rcases getElem?_set_cases hfound with ⟨rfl, rfl⟩ | ⟨hid, hfound⟩
    · exact hstage
    · have hother := h.stage id found hfound
      rwa [horders, commandsTo_cons_of_ne (Ne.symm hid)] at hother
  · intro id found hfound
    rcases getElem?_set_cases hfound with ⟨rfl, rfl⟩ | ⟨hid, hfound⟩
    · exact hgone
    · exact h.gone id found hfound
  · intro id hid
    have hcommands := h.commands id hid
    rw [horders] at hcommands
    by_cases hsame : worker = id
    · subst hsame
      rw [commandsTo_cons_self] at hcommands
      simpa [sentTo] using hcommands
    · rw [commandsTo_cons_of_ne hsame] at hcommands
      simpa [sentTo, hsame] using hcommands
  · intro parcel hparcel
    rcases List.mem_append.mp hparcel with hparcel | hparcel
    · exact (h.kept parcel hparcel).set hold hleft
    · rw [List.mem_singleton.mp hparcel]
      have hbound : worker < exchange.posts.length := (List.getElem?_eq_some_iff.mp hold).1
      exact hroom.imp_right fun ⟨hclosed, hgone⟩ =>
        ⟨hclosed, _, List.getElem?_set_self hbound, hgone⟩

end Send

theorem Sane.send (h : Sane workers heard exchange) (hstep : exchange.step .send = some next) :
    Sane workers heard next := by
  simp only [step, send?] at hstep
  split at hstep
  · exact absurd hstep (by simp)
  · next worker command orders horders =>
    split at hstep
    · next hnone =>
      obtain rfl := Option.some.inj hstep
      exact h.send_nobody horders hnone
    · next old hold =>
      obtain rfl := Option.some.inj hstep
      exact h.send_somebody horders hold

theorem Sane.conclude (h : Sane workers heard exchange) {closing : Closing}
    {windowStart : Except MeasureError Nat}
    (hcloses : 0 < workers → Closes exchange.coordinator ⟨closing, windowStart⟩) :
    Sane workers heard (exchange.conclude closing windowStart) :=
  { h with
    uncompleted := nofun
    driving := nofun
    closes := fun hworkers _ hverdict => Option.some.inj hverdict ▸ hcloses hworkers }

theorem Sane.cancel (h : Sane workers heard exchange) (hstep : exchange.step .cancel = some next) :
    Sane workers heard next := by
  simp only [step, cancel?] at hstep
  split at hstep
  · obtain rfl := Option.some.inj hstep
    exact h.conclude fun _ => .cancelled
  · exact absurd hstep (by simp)

theorem Sane.expire (h : Sane workers heard exchange) {now : Nat}
    (hstep : exchange.step (.expire now) = some next) : Sane workers heard next := by
  simp only [step, expire?] at hstep
  split at hstep
  · next hready =>
    obtain rfl := Option.some.inj hstep
    have hexpired := (Bool.and_eq_true_iff.mp hready).2
    refine h.conclude fun _ => ?_
    cases hwindow : exchange.coordinator.window with
    | none => simp [Coordinator.expired?, hwindow] at hexpired
    | some window =>
      rw [Coordinator.windowStart, hwindow]
      exact .expired hwindow
  · exact absurd hstep (by simp)

/-- A worker that is gone before the run is over has said its last word. -/
theorem Sane.spoken (h : Sane workers heard exchange) (hverdict : exchange.verdict = none)
    {id : Nat} {post : Post} (hpost : exchange.posts[id]? = some post) (hgone : post.gone = true) :
    Spoken id (saidBy id (heard ++ exchange.events)) := by
  have hstage := h.stage id post hpost
  have hphase := (h.gone id post hpost hgone).1
  rw [h.uncompleted hverdict] at hstage
  obtain ⟨task, mailbox, gone⟩ := post
  generalize saidBy id (heard ++ exchange.events) = log at hstage ⊢
  generalize mailbox ++ commandsTo id exchange.orders = due at hstage
  cases hstage with
  | finished _ hspoken => exact hspoken rfl
  | waiting | connecting | ready | called | requesting | awaiting | downloading =>
    exact absurd hphase (by simp)

theorem Sane.desert?_eq_none (h : Sane workers heard exchange) (hworkers : 0 < workers) :
    exchange.step .desert = none := by
  simp only [step, desert?, ite_eq_right_iff, reduceCtorEq, imp_false, Bool.and_eq_true]
  rintro ⟨⟨hidle, hquiet⟩, hgone⟩
  have hverdict : exchange.verdict = none := by
    simpa using (Bool.and_eq_true_iff.mp hidle).1
  refine (h.driving hworkers hverdict).not_spoken fun id hid => ?_
  obtain ⟨post, hpost⟩ : ∃ post, exchange.posts[id]? = some post :=
    ⟨_, List.getElem?_eq_getElem (h.length_posts ▸ hid)⟩
  have hspoken := h.spoken hverdict hpost (List.all_eq_true.mp hgone post (List.mem_of_getElem? hpost))
  rwa [List.isEmpty_iff.mp hquiet, List.append_nil] at hspoken

theorem Sane.desert (h : Sane workers heard exchange) (hstep : exchange.step .desert = some next) :
    Sane workers heard next := by
  have hworkers : ¬ 0 < workers := fun hworkers =>
    absurd (h.desert?_eq_none hworkers) (by simp [hstep])
  simp only [step, desert?] at hstep
  split at hstep
  · obtain rfl := Option.some.inj hstep
    exact h.conclude fun h => absurd h hworkers
  · exact absurd hstep (by simp)

theorem Sane.shutdown (h : Sane workers heard exchange) (hstep : exchange.step .shutdown = some next) :
    Sane workers heard next := by
  simp only [step, shutdown?] at hstep
  split at hstep
  · next hready =>
    obtain rfl := Option.some.inj hstep
    split
    · exact h
    · next hfirst =>
      have hcompleted : exchange.completed = false := by simpa using hfirst
      have horders : exchange.orders = [] :=
        List.isEmpty_iff.mp (Bool.and_eq_true_iff.mp hready).2
      have hdue {id : Nat} (hid : id < workers) :
          commandsTo id (ordersTo .stop (List.range exchange.posts.length)) =
            commandsTo id exchange.orders ++ [.stop] := by
        rw [commandsTo_ordersTo .stop List.nodup_range, if_pos, horders]
        · rfl
        · rwa [List.mem_range, h.length_posts]
      refine { h with stage := ?_, commands := ?_, uncompleted := ?_ }
      · intro id post hpost
        have hstage := h.stage id post hpost
        rw [hcompleted] at hstage
        rw [hdue (h.lt_workers hpost), ← List.append_assoc]
        exact hstage.shutdown
      · intro id hid
        have hcommands := h.commands id hid
        rw [hcompleted] at hcommands
        change exchange.sentTo id ++ commandsTo id (ordersTo .stop _) = _
        rw [hdue hid, ← List.append_assoc, hcommands]
        simp [planned, stops]
      · intro hverdict
        exact absurd (Bool.and_eq_true_iff.mp hready).1 (by simp [show exchange.verdict = none from hverdict])
  · exact absurd hstep (by simp)

end Steps

end Exchange

end Throughput
