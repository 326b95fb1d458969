import Throughput.Proofs.Exchange.Drive

/-!
# The protocol of an exchange

Whatever the tasks do and in whatever order, no command is lost, none is mistaken for another, and
the drive ends for a reason of its own.
-/

namespace Throughput.Exchange

/-- What holds of the exchange at any time. A definition that was validated asks for one worker at
least. -/
structure KeepsProtocol (workers : Nat) (exchange : Exchange) : Prop where
  ordered : ∀ id < workers, (exchange.sentTo id).Sublist [.connect, .beginTransfer, .stop]
  room : ∀ post ∈ exchange.posts, post.mailbox.length < Post.capacity
  kept : ∀ parcel ∈ exchange.sent, Kept exchange.posts parcel
  /-- What comes while a worker connects or begins its transfer. -/
  interrupting : ∀ post ∈ exchange.posts, post.task.phase ∈ [.connection, .request, .firstByte] →
    ∀ command ∈ post.mailbox, command = .stop
  attended : 0 < workers → exchange.step .desert = none
  closes : 0 < workers → ∀ verdict, exchange.verdict = some verdict →
    Closes exchange.coordinator verdict

variable {workers : Nat} {heard : List WorkerEvent} {exchange : Exchange}

theorem planned_sublist (begun completed : Bool) :
    (planned begun completed).Sublist [.connect, .beginTransfer, .stop] := by
  cases begun <;> cases completed <;> decide

theorem Sane.keepsProtocol (h : Sane workers heard exchange) : KeepsProtocol workers exchange where
  ordered := by
    intro id hid
    have hsent := List.sublist_append_left (exchange.sentTo id) (commandsTo id exchange.orders)
    rw [h.commands id hid] at hsent
    exact hsent.trans (planned_sublist _ _)
  room := by
    intro post hpost
    obtain ⟨id, hid⟩ := List.mem_iff_getElem?.mp hpost
    exact h.length_mailbox hid
  kept := h.kept
  interrupting := by
    intro post hpost hbusy command hcommand
    obtain ⟨id, hid⟩ := List.mem_iff_getElem?.mp hpost
    refine (h.stage id post hid).stop_of_busy ?_ command (List.mem_append_left _ hcommand)
    simpa using hbusy
  attended := h.desert?_eq_none
  closes := h.closes

/-- Over every interleaving, each worker is sent its commands once and in order and loses none while
it lives, only the order to stop meets a busy worker, and the drive never misses a window. -/
theorem run_keeps_protocol {definition : DownloadDefinition} {workers : Nat} {moves : List Move}
    {exchange : Exchange} (h : (start definition workers).run moves = some exchange) :
    KeepsProtocol workers exchange := by
  obtain ⟨heard, hsane⟩ := (sane_start definition workers).run h
  exact hsane.keepsProtocol

/-- One of two workers is refused, the other one downloads until the window has lasted its time. -/
theorem run_keeps_protocol_expired :
    ∃ exchange, (start .initial 2).run
        [.send, .take 0, .send, .happen 0 0 (.connected true), .take 1, .hear 0,
          .happen 1 0 (.connected false), .hear 0, .leave 1, .send, .take 0,
          .happen 0 0 (.written true), .happen 0 1 (.read (.bytes 5)), .hear 1,
          .expire 12000000001, .shutdown, .send, .take 0, .send, .leave 0] = some exchange ∧
      KeepsProtocol 2 exchange := by
  refine (Option.isSome_iff_exists.mp ?_).imp fun _ hrun => ⟨hrun, run_keeps_protocol hrun⟩
  decide

/-- Without a worker the queue of events is closed from the start. -/
example : ((start .initial 0).step .desert).isSome = true := by decide

/-- Once the orders to stop are out, no worker is waited for in vain. -/
theorem stop_mem_mailbox {definition : DownloadDefinition} {workers : Nat} {moves : List Move}
    {exchange : Exchange} (h : (start definition workers).run moves = some exchange)
    (hcompleted : exchange.completed = true) (horders : exchange.orders = []) {post : Post}
    (hpost : post ∈ exchange.posts) (hphase : post.task.phase ≠ .done) : .stop ∈ post.mailbox := by
  obtain ⟨heard, hsane⟩ := (sane_start definition workers).run h
  obtain ⟨id, hid⟩ := List.mem_iff_getElem?.mp hpost
  have hstage := hsane.stage id post hid
  rw [hcompleted, horders] at hstage
  simpa [commandsTo] using hstage.stop_mem_of_completed hphase

end Throughput.Exchange
