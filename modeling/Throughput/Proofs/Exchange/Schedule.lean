import Throughput.Proofs.Definition
import Throughput.Proofs.Download.Dialing
import Throughput.Proofs.Download.Numbered
import Throughput.Proofs.Exchange.Drive

/-!
# Schedules

A download that is carried through its agenda obeys every command and hears every event at once.
That is one of the interleavings of its exchange, the one in which nothing is ever kept waiting. So
what every interleaving keeps holds of the download.
-/

namespace Throughput

namespace Exchange

/-- Some moves lead from one exchange to the other. -/
def Reaches (exchange next : Exchange) : Prop :=
  ∃ moves, exchange.run moves = some next

theorem run_append (exchange : Exchange) (moves more : List Move) :
    exchange.run (moves ++ more) = (exchange.run moves).bind fun next => next.run more := by
  induction moves generalizing exchange with
  | nil => rfl
  | cons move moves ih =>
    simp only [List.cons_append, run, Option.bind_assoc]
    exact congrArg _ (funext ih)

namespace Reaches

variable {exchange between next : Exchange}

theorem refl (exchange : Exchange) : Reaches exchange exchange := ⟨[], rfl⟩

theorem trans (h : Reaches exchange between) (hnext : Reaches between next) :
    Reaches exchange next := by
  obtain ⟨moves, hmoves⟩ := h
  obtain ⟨more, hmore⟩ := hnext
  exact ⟨moves ++ more, by rw [run_append, hmoves, Option.bind_some, hmore]⟩

theorem of_step (move : Move) (h : exchange.step move = some next) : Reaches exchange next :=
  ⟨[move], by rw [run, h]; rfl⟩

end Reaches

/-- A worker that is not kept waiting obeys a command as soon as it is sent. One that has come to its
end takes the command along. -/
theorem reaches_obey {exchange : Exchange} {id : Nat} {command : Command}
    {orders : List (Nat × Command)} (horders : exchange.orders = (id, command) :: orders)
    {post : Post} (hpost : exchange.posts[id]? = some post) (hmailbox : post.mailbox = [])
    (hgone : post.gone = true → post.task.phase = .done) :
    ∃ gone acceptance, (gone = true → (post.task.obey command).phase = .done) ∧
      Reaches exchange
        { exchange with
          orders
          posts := exchange.posts.set id ⟨post.task.obey command, [], gone⟩
          sent := exchange.sent ++ [⟨id, command, acceptance⟩] } := by
  have hbound : id < exchange.posts.length := (List.getElem?_eq_some_iff.mp hpost).1
  have hsend : exchange.step .send = some
      { exchange with
        orders
        posts := exchange.posts.set id (post.trySend command).1
        sent := exchange.sent ++ [⟨id, command, (post.trySend command).2⟩] } := by
    simp only [step, send?, horders, hpost]
  obtain ⟨task, mailbox, gone⟩ := post
  subst hmailbox
  cases gone with
  | true =>
    have hphase : task.phase = .done := hgone rfl
    rw [Task.obey_of_done hphase]
    exact ⟨true, _, fun _ => hphase, .of_step _ hsend⟩
  | false =>
    -- The command is put into the empty channel.
    have hqueued : Post.trySend ⟨task, [], false⟩ command = (⟨task, [command], false⟩, .queued) := rfl
    rw [hqueued] at hsend
    by_cases hphase : task.phase = .done
    · rw [Task.obey_of_done hphase]
      refine ⟨true, .queued, fun _ => hphase,
        (Reaches.of_step _ hsend).trans (.of_step (.leave id) ?_)⟩
      simp [step, work?, Post.leave?, hphase, hbound]
    · refine ⟨false, .queued, fun hleft => absurd hleft (by simp),
        (Reaches.of_step _ hsend).trans (.of_step (.take id) ?_)⟩
      simp [step, work?, Post.take?, hphase, hbound]

/-- Nothing is under way in the exchange, and its tasks are those of the download. -/
structure AtRest (download : Download) (outcome : Option (Except MeasureError Nat))
    (completed : Bool) (exchange : Exchange) : Prop where
  definition : exchange.definition = download.definition
  coordinator : exchange.coordinator = download.coordinator
  tasks : exchange.posts.map Post.task = download.tasks
  numbered : download.Numbered
  mailbox : ∀ post ∈ exchange.posts, post.mailbox = []
  gone : ∀ post ∈ exchange.posts, post.gone = true → post.task.phase = .done
  events : exchange.events = []
  outcome : exchange.verdict.map Verdict.windowStart = outcome
  completed : exchange.completed = completed

namespace AtRest

variable {download next : Download} {outcome : Option (Except MeasureError Nat)} {completed : Bool}
  {exchange : Exchange} {id : Nat} {command : Command} {orders : List (Nat × Command)}

theorem set (h : AtRest download outcome completed exchange) (post : Post)
    (hid : post.task.worker.id = id) (hmailbox : post.mailbox = [])
    (hgone : post.gone = true → post.task.phase = .done) (orders : List (Nat × Command))
    (sent : List Parcel) :
    AtRest { download with tasks := download.tasks.set id post.task } outcome completed
      { exchange with orders, posts := exchange.posts.set id post, sent } where
  definition := h.definition
  coordinator := h.coordinator
  tasks := by
    change (exchange.posts.set id post).map Post.task = _
    rw [List.map_set, h.tasks]
  numbered := h.numbered.set hid
  mailbox := by
    intro found hfound
    rcases List.mem_or_eq_of_mem_set hfound with hfound | rfl
    · exact h.mailbox found hfound
    · exact hmailbox
  gone := by
    intro found hfound
    rcases List.mem_or_eq_of_mem_set hfound with hfound | rfl
    · exact h.gone found hfound
    · exact hgone
  events := h.events
  outcome := h.outcome
  completed := h.completed

theorem getElem?_task (h : AtRest download outcome completed exchange) (id : Nat) :
    download.tasks[id]? = exchange.posts[id]?.map Post.task := by
  rw [← h.tasks, List.getElem?_map]

/-- A command is sent and obeyed at once. -/
theorem deliver (h : AtRest download outcome completed exchange)
    (horders : exchange.orders = (id, command) :: orders) :
    ∃ next, Reaches exchange next ∧ next.orders = orders ∧
      AtRest (download.command command [id]) outcome completed next := by
  cases hpost : exchange.posts[id]? with
  | none =>
    have hstep : exchange.step .send = some { exchange with orders } := by
      simp only [step, send?, horders, hpost]
    refine ⟨_, .of_step _ hstep, rfl, ?_⟩
    rw [h.numbered.command_none (by rw [h.getElem?_task, hpost]; rfl)]
    exact { h with }
  | some post =>
    have hmem := List.mem_of_getElem? hpost
    have htask : download.tasks[id]? = some post.task := by rw [h.getElem?_task, hpost]; rfl
    have hid : (post.task.obey command).worker.id = id := by
      rw [Task.id_obey, h.numbered id post.task htask]
    obtain ⟨gone, acceptance, hgone, hreach⟩ :=
      reaches_obey horders hpost (h.mailbox post hmem) (h.gone post hmem)
    rw [h.numbered.command_some htask]
    exact ⟨_, hreach, rfl, h.set ⟨post.task.obey command, [], gone⟩ hid rfl hgone _ _⟩

theorem broadcast {ids : List Nat} (hids : ids.Nodup)
    (h : AtRest download outcome completed exchange)
    (horders : exchange.orders = ordersTo command ids) :
    ∃ next, Reaches exchange next ∧ next.orders = [] ∧
      AtRest (download.command command ids) outcome completed next := by
  induction ids generalizing download exchange with
  | nil =>
    rw [Download.command_nil]
    exact ⟨exchange, .refl _, horders, h⟩
  | cons id ids ih =>
    obtain ⟨hid, hrest⟩ := List.nodup_cons.mp hids
    obtain ⟨between, hreach, hbetween, hdelivered⟩ := h.deliver horders
    obtain ⟨next, hnext, hout, hstands⟩ := ih hrest hdelivered hbetween
    rw [Download.command_cons hid] at hstands
    exact ⟨next, hreach.trans hnext, hout, hstands⟩

theorem verdict_eq_none (h : AtRest download none completed exchange) : exchange.verdict = none :=
  Option.map_eq_none_iff.mp h.outcome

theorem idle (h : AtRest download none completed exchange) (horders : exchange.orders = []) :
    exchange.idle = true := by
  simp [Exchange.idle, h.verdict_eq_none, horders]

/-- What a worker tells is heard at once, and what it leads to is done. -/
theorem hear {now : Nat} {event : WorkerEvent} (hevents : exchange.events = [event])
    (horders : exchange.orders = [])
    (h : AtRest download none completed { exchange with events := [] })
    (hreport : download.report now event = (next, outcome)) :
    ∃ heard, Reaches exchange heard ∧ heard.orders = [] ∧ AtRest next outcome completed heard := by
  have hstep : exchange.step (.hear now) = some ({ exchange with events := [] }.answer now event) := by
    have hidle : exchange.idle = true := h.idle horders
    simp only [step, hear?, hevents, hidle, if_true]
  rcases hevent : download.coordinator.onEvent download.definition now event with
    ⟨coordinator, decision⟩
  have hanswer : exchange.coordinator.onEvent exchange.definition now event =
      (coordinator, decision) := by
    rw [show exchange.coordinator = download.coordinator from h.coordinator,
      show exchange.definition = download.definition from h.definition, hevent]
  simp only [answer, hanswer] at hstep
  rw [Download.report, hevent] at hreport
  cases decision with
  | proceed =>
    obtain ⟨rfl, rfl⟩ := Prod.mk.inj hreport
    exact ⟨_, .of_step _ hstep, horders, { h with coordinator := rfl }⟩
  | begin ids =>
    obtain ⟨rfl, rfl⟩ := Prod.mk.inj hreport
    have hordered : AtRest { download with coordinator } none completed
        { exchange with coordinator, events := [], orders := ordersTo .beginTransfer ids } :=
      { h with coordinator := rfl }
    obtain ⟨heard, hreach, hout, hstands⟩ :=
      hordered.broadcast (Coordinator.nodup_of_begin hevent) rfl
    exact ⟨heard, (Reaches.of_step _ hstep).trans hreach, hout, hstands⟩
  | conclude windowStart =>
    obtain ⟨rfl, rfl⟩ := Prod.mk.inj hreport
    exact ⟨_, .of_step _ hstep, horders, { h with coordinator := rfl, outcome := rfl }⟩

theorem happen {now : Nat} {happening : Happening} (h : AtRest download none completed exchange)
    (horders : exchange.orders = [])
    (hhappen : download.happen now id happening = (next, outcome)) :
    ∃ after, Reaches exchange after ∧ after.orders = [] ∧ AtRest next outcome completed after := by
  rw [Download.happen, h.getElem?_task] at hhappen
  cases hpost : exchange.posts[id]? with
  | none =>
    rw [hpost] at hhappen
    obtain ⟨rfl, rfl⟩ := Prod.mk.inj hhappen
    exact ⟨exchange, .refl _, horders, h⟩
  | some post =>
    rw [hpost] at hhappen
    have hmem := List.mem_of_getElem? hpost
    have htask : download.tasks[id]? = some post.task := by rw [h.getElem?_task, hpost]; rfl
    have hid : (post.task.happen now happening).1.worker.id = id := by
      rw [Task.id_happen, h.numbered id post.task htask]
    have hgone : post.gone = true → (post.task.happen now happening).1.phase = .done := by
      intro hleft
      have hphase := h.gone post hmem hleft
      rwa [Task.happen_of_done hphase]
    have hmoved := h.set { post with task := (post.task.happen now happening).1 } hid
      (h.mailbox post hmem) hgone exchange.orders exchange.sent
    have hstep : exchange.step (.happen id now happening) = some
        { exchange with
          posts := exchange.posts.set id { post with task := (post.task.happen now happening).1 }
          events := exchange.events ++ (post.task.happen now happening).2.toList } := by
      simp only [step, work?, hpost]
      rfl
    rw [h.events] at hstep
    rcases hsaid : post.task.happen now happening with ⟨task, _ | event⟩
    · rw [hsaid] at hmoved hstep
      simp only [Option.map_some, hsaid] at hhappen
      obtain ⟨rfl, rfl⟩ := Prod.mk.inj hhappen
      exact ⟨_, .of_step _ hstep, horders, { hmoved with events := rfl }⟩
    · rw [hsaid] at hmoved hstep
      simp only [Option.map_some, hsaid] at hhappen
      have htold : Exchange.events
          { exchange with
            posts := exchange.posts.set id { post with task }
            events := [event] } = [event] := rfl
      obtain ⟨after, hreach, hout, hstands⟩ :=
        AtRest.hear htold horders { hmoved with events := rfl } hhappen
      exact ⟨after, (Reaches.of_step _ hstep).trans hreach, hout, hstands⟩

theorem passes {agenda : Agenda} {events : List WorkerEvent}
    (hpasses : Download.Passes download agenda events next)
    (h : AtRest download none completed exchange) (horders : exchange.orders = []) :
    ∃ after, Reaches exchange after ∧ after.orders = [] ∧ AtRest next none completed after := by
  induction hpasses generalizing exchange with
  | nil => exact ⟨exchange, .refl _, horders, h⟩
  | cons _ hhappen _ ih =>
    obtain ⟨between, hreach, hbetween, hstands⟩ := h.happen horders hhappen
    obtain ⟨after, hafter, hout, hlast⟩ := ih hstands hbetween
    exact ⟨after, hreach.trans hafter, hout, hlast⟩

theorem expires {now : Nat} {window : Window} (h : AtRest download none completed exchange)
    (horders : exchange.orders = []) (hexpired : download.coordinator.expired? now = some window) :
    ∃ after, Reaches exchange after ∧ after.orders = [] ∧
      AtRest download (some (.ok window.start)) completed after := by
  have hwindow := (Coordinator.expired?_eq_some.mp hexpired).1
  have hstep : exchange.step (.expire now) =
      some (exchange.conclude .expired exchange.coordinator.windowStart) := by
    simp [step, expire?, h.idle horders, h.coordinator, hexpired]
  refine ⟨_, .of_step _ hstep, horders, { h with outcome := ?_ }⟩
  simp [conclude, h.coordinator, Coordinator.windowStart, hwindow]

/-- The drive ends as the download does, unless that rests without a window. -/
theorem stops {now : Nat} {agenda : Agenda} {events : List WorkerEvent} {ending : DownloadEnd}
    (hstops : Download.Stops download now agenda events ending)
    (hwindow : agenda = [] → download.coordinator.window ≠ none)
    (h : AtRest download none completed exchange) (horders : exchange.orders = []) :
    ∃ after, Reaches exchange after ∧ after.orders = [] ∧
      AtRest ending.download (some ending.windowStart) completed after := by
  cases hstops with
  | rests =>
    obtain ⟨window, hopen⟩ := Option.ne_none_iff_exists'.mp (hwindow rfl)
    have hexpired : download.coordinator.expired? window.stop = some window :=
      Coordinator.expired?_eq_some.mpr ⟨hopen, Nat.le_refl _⟩
    simpa only [Download.rest, hopen] using h.expires horders hexpired
  | expires hexpired => exact h.expires horders hexpired
  | cancels =>
    have hstep : exchange.step .cancel = some (exchange.conclude .cancelled (.error .cancelled)) := by
      simp [step, cancel?, h.idle horders]
    exact ⟨_, .of_step _ hstep, horders, { h with outcome := rfl }⟩
  | concludes _ hhappen => exact h.happen horders hhappen

theorem shutdown {windowStart : Except MeasureError Nat}
    (h : AtRest download (some windowStart) false exchange) (horders : exchange.orders = []) :
    ∃ after, Reaches exchange after ∧
      AtRest (download.command .stop (List.range download.tasks.length)) (some windowStart) true
        after := by
  have hlength : exchange.posts.length = download.tasks.length := by
    rw [← h.tasks, List.length_map]
  have hverdict : exchange.verdict.isSome = true := by
    simpa using congrArg Option.isSome h.outcome
  have hstep : exchange.step .shutdown = some
      { exchange with
        completed := true
        orders := ordersTo .stop (List.range download.tasks.length) } := by
    simp [step, shutdown?, hverdict, horders, h.completed, hlength]
  have hordered : AtRest download (some windowStart) true
      { exchange with
        completed := true
        orders := ordersTo .stop (List.range download.tasks.length) } :=
    { h with completed := rfl }
  obtain ⟨after, hreach, -, hstands⟩ := hordered.broadcast List.nodup_range rfl
  exact ⟨after, (Reaches.of_step _ hstep).trans hreach, hstands⟩

theorem start (definition : DownloadDefinition) :
    ∃ after, Reaches (Exchange.start definition definition.threads.toNat) after ∧
      after.orders = [] ∧ AtRest (.ofDefinition definition) none false after := by
  let waiting : Download :=
    { definition
      coordinator := .ofWorkers definition.threads.toNat
      tasks := (List.range definition.threads.toNat).map .ofId }
  have hstart : AtRest waiting none false (Exchange.start definition definition.threads.toNat) := by
    refine ⟨rfl, rfl, ?_, ?_, ?_, ?_, rfl, rfl, rfl⟩
    · simp [Exchange.start, waiting, Post.ofId]
    · intro id task htask
      obtain ⟨hid, rfl⟩ := List.getElem?_eq_some_iff.mp htask
      simp [waiting, Task.ofId, Worker.ofId]
    · simp [Exchange.start, Post.ofId]
    · simp [Exchange.start, Post.ofId]
  have hlength : definition.threads.toNat = waiting.tasks.length := by simp [waiting]
  obtain ⟨after, hreach, hout, hstands⟩ := hstart.broadcast List.nodup_range rfl
  refine ⟨after, hreach, hout, ?_⟩
  have hcommand : waiting.command .connect (List.range definition.threads.toNat) =
      .ofDefinition definition := by
    have htasks := hstart.numbered.command_all .connect
    rw [← hlength] at htasks
    refine Download.ext rfl rfl (htasks.trans ?_)
    simp [waiting, Download.ofDefinition]
  rwa [hcommand] at hstands

/-- The drive ends as the download does, if that ends otherwise than for want of a window. -/
theorem advance {now : Nat} {agenda : Agenda} (h : AtRest download none completed exchange)
    (horders : exchange.orders = [])
    (hends : (download.advance now agenda).windowStart ≠ .error .transfer) :
    ∃ after, Reaches exchange after ∧ after.orders = [] ∧
      AtRest (download.advance now agenda).download
        (some (download.advance now agenda).windowStart) completed after := by
  obtain ⟨done, rest, events, final, last, -, hpasses, hstops, -⟩ :=
    download.exists_passes now agenda
  obtain ⟨between, hreach, hbetween, hstands⟩ := h.passes hpasses horders
  refine (AtRest.stops hstops (fun hrest hnone => hends ?_) hstands hbetween).imp
    fun after hafter => ⟨hreach.trans hafter.1, hafter.2⟩
  subst hrest
  generalize download.advance now agenda = ending at hstops
  cases hstops with
  | rests => simp only [Download.rest, hnone, Coordinator.windowStart]

section Dialed

variable {definition : DownloadDefinition} {handshakes : List Handshake}
  (hlength : handshakes.length = definition.threads.toNat) (hbounded : definition.Bounded)
  (timeout : Nat) (scripts : List (List Action)) {cancelAt : Option Nat}
include hlength hbounded

/-- Once its requests are out, the drive ends as the download does. -/
theorem requested (hsome : Handshake.connected handshakes ≠ [])
    (hcancel : ∀ time, cancelAt = some time → Handshake.latest handshakes ≤ time)
    (h : AtRest (.ofDefinition definition) none completed exchange)
    (horders : exchange.orders = []) :
    ∃ after, Reaches exchange after ∧ after.orders = [] ∧
      let ending := (Download.ofDefinition definition).advance 0
        (.ofRun handshakes timeout scripts cancelAt)
      AtRest ending.download (some ending.windowStart) completed after := by
  have hoverture := Download.passes_overture hlength hbounded.threads_pos hsome
  rw [Agenda.ofRun_eq timeout scripts hcancel, (hoverture.advance 0 _).1]
  obtain ⟨begun, hbegun, hout, hawaiting⟩ := h.passes hoverture horders
  obtain ⟨done, rest, events, final, last, hagenda, hpasses, hstops, -⟩ :=
    (Download.awaiting definition handshakes).exists_passes
      (Download.timeAfter 0 (Agenda.overture handshakes))
      (Agenda.delay (Handshake.latest handshakes)
        (Agenda.plan (Handshake.connected handshakes) timeout
          (Agenda.served handshakes scripts) (cancelAt.map (· - Handshake.latest handshakes))))
  obtain ⟨between, hreach, hbetween, hstands⟩ := hawaiting.passes hpasses hout
  refine (AtRest.stops hstops (fun hrest => ?_) hstands hbetween).imp fun after hafter =>
    ⟨(hbegun.trans hreach).trans hafter.1, hafter.2⟩
  rw [hrest, List.append_nil] at hagenda
  rw [← hagenda] at hpasses
  exact Download.window_of_passes hlength hsome timeout scripts hbounded.threads_pos
    hbounded.targetTime_pos hpasses

/-- Whatever comes of the attempts to connect, the drive ends as the download does. -/
theorem dialed (cancelAt : Option Nat)
    (h : AtRest (.ofDefinition definition) none completed exchange)
    (horders : exchange.orders = []) :
    ∃ after, Reaches exchange after ∧ after.orders = [] ∧
      let ending := (Download.ofDefinition definition).advance 0
        (.ofRun handshakes timeout scripts cancelAt)
      AtRest ending.download (some ending.windowStart) completed after := by
  by_cases hcut : ∃ time, cancelAt = some time ∧ time < Handshake.latest handshakes
  · obtain ⟨time, rfl, hbefore⟩ := hcut
    refine h.advance horders ?_
    rw [Download.advance_cancelled hlength hbounded.threads_pos timeout scripts hbefore]
    simp
  · have hcancel : ∀ time, cancelAt = some time → Handshake.latest handshakes ≤ time :=
      fun time hsome => Nat.not_lt.mp fun hbefore => hcut ⟨time, hsome, hbefore⟩
    by_cases hnone : Handshake.connected handshakes = []
    · refine h.advance horders ?_
      rw [Agenda.ofRun_eq timeout scripts hcancel, Agenda.overture, List.append_assoc,
        Download.advance_unconnected hlength hbounded.threads_pos hnone]
      simp
    · exact requested hlength hbounded timeout scripts hnone hcancel h horders

end Dialed

end AtRest

/-- A download that is carried to its end is one of the interleavings of its exchange. -/
theorem carry_interleaves {definition : DownloadDefinition} {target : Target}
    (hvalid : definition.validate = .ok target) (dialing : Dialing) (surroundings : Surroundings)
    (accepted : Bool) (cancellation : Cancellation) :
    let ending := Download.carryDialed dialing definition surroundings accepted cancellation
    ∃ moves exchange, (start definition definition.threads.toNat).run moves = some exchange ∧
      exchange.coordinator = ending.download.coordinator ∧
      exchange.verdict.map Verdict.windowStart = some ending.windowStart ∧
      exchange.posts.map (fun post => post.task.worker) = ending.reports := by
  intro ending
  obtain ⟨begun, hbegun, hidle, hstart⟩ := AtRest.start definition
  obtain ⟨driven, hdriven, horders, hstands⟩ := AtRest.dialed
    (Download.length_handshakes dialing definition.threads.toNat accepted)
    (DownloadDefinition.bounded_of_validate hvalid) surroundings.firstByteTimeout
    surroundings.scripts (Download.cancelTime cancellation) hstart hidle
  obtain ⟨stopped, hstopped, hlast⟩ := hstands.shutdown horders
  obtain ⟨moves, hmoves⟩ := (hbegun.trans hdriven).trans hstopped
  refine ⟨moves, stopped, hmoves, hlast.coordinator, hlast.outcome, ?_⟩
  have htasks := hlast.tasks.trans (hstands.numbered.command_all .stop)
  have hworkers := congrArg (List.map Task.worker) htasks
  rwa [List.map_map, List.map_map] at hworkers

/-- So it ends in one of the ways in which a drive may end. -/
theorem carry_closes {definition : DownloadDefinition} {target : Target}
    (hvalid : definition.validate = .ok target) (dialing : Dialing) (surroundings : Surroundings)
    (accepted : Bool) (cancellation : Cancellation) :
    let ending := Download.carryDialed dialing definition surroundings accepted cancellation
    ∃ closing, Closes ending.download.coordinator ⟨closing, ending.windowStart⟩ := by
  intro ending
  obtain ⟨moves, exchange, hrun, hcoordinator, hverdict, -⟩ :=
    carry_interleaves hvalid dialing surroundings accepted cancellation
  obtain ⟨⟨closing, windowStart⟩, hclosed, hstart⟩ := Option.map_eq_some_iff.mp hverdict
  obtain ⟨heard, hsane⟩ := (sane_start definition definition.threads.toNat).run hrun
  have hcloses := hsane.closes (DownloadDefinition.bounded_of_validate hvalid).threads_pos _ hclosed
  rw [hcoordinator, show windowStart = ending.windowStart from hstart] at hcloses
  exact ⟨closing, hcloses⟩

end Exchange

end Throughput
