import Throughput.Download.Coordinator
import Throughput.Worker.Task

/-!
# Exchanges

Coordinator and workers of a download as tasks of their own, which share no step. Commands go to
each worker over a channel with room for four of them, events come back over one queue, and any task
may make the next move. The coordinator drives the run until it has a verdict. Only then does it
stop the workers.
-/

namespace Throughput

/-- What becomes of a command that is given to a channel without waiting for room. -/
inductive Acceptance where
  | queued
  | full
  | closed
  deriving DecidableEq, Repr

/-- A worker task with the receiving end of its channel. The channel is closed when the task is
gone. -/
structure Post where
  task : Task
  mailbox : List Command
  gone : Bool
  deriving DecidableEq, Repr

namespace Post

def capacity : Nat := 4

def ofId (id : Nat) : Post :=
  ⟨.ofId id, [], false⟩

def trySend (post : Post) (command : Command) : Post × Acceptance :=
  if post.gone then (post, .closed)
  else if capacity ≤ post.mailbox.length then (post, .full)
  else ({ post with mailbox := post.mailbox ++ [command] }, .queued)

/-- The task obeys the command that has waited longest, whatever it is doing. -/
def take? (post : Post) : Option Post :=
  match post.mailbox with
  | command :: mailbox =>
    if post.task.phase = .done then none
    else some { post with task := post.task.obey command, mailbox }
  | [] => none

/-- A task that has come to its end drops its channel, with all that is in it. -/
def leave? (post : Post) : Option Post :=
  if post.task.phase = .done then some { post with mailbox := [], gone := true } else none

end Post

/-- An attempt to send a command, and what became of it. -/
structure Parcel where
  worker : Nat
  command : Command
  acceptance : Acceptance
  deriving DecidableEq, Repr

/-- What ends the drive. -/
inductive Closing where
  | cancelled
  | expired
  /-- The tracker's answer to an event. -/
  | answered (answer : Except MeasureError Step)
  /-- All workers are gone and have left no event. -/
  | deserted

structure Verdict where
  closing : Closing
  windowStart : Except MeasureError Nat

/-- What the tasks may do. Times are told where they matter; they need not agree with each other. -/
inductive Move where
  | send
  | hear (now : Nat)
  | expire (now : Nat)
  | cancel
  | desert
  | shutdown
  | take (worker : Nat)
  | happen (worker now : Nat) (happening : Happening)
  | leave (worker : Nat)
  deriving DecidableEq, Repr

/-- A download in progress. The orders are what the coordinator is about to send; until all of them
are out it does nothing else. -/
structure Exchange where
  definition : DownloadDefinition
  coordinator : Coordinator
  orders : List (Nat × Command)
  posts : List Post
  events : List WorkerEvent
  verdict : Option Verdict
  completed : Bool
  /-- All that was sent so far. -/
  sent : List Parcel

namespace Exchange

def ordersTo (command : Command) (workers : List Nat) : List (Nat × Command) :=
  workers.map fun id => (id, command)

def start (definition : DownloadDefinition) (workers : Nat) : Exchange where
  definition
  coordinator := .ofWorkers workers
  orders := ordersTo .connect (List.range workers)
  posts := (List.range workers).map .ofId
  events := []
  verdict := none
  completed := false
  sent := []

def idle (exchange : Exchange) : Bool :=
  exchange.verdict.isNone && exchange.orders.isEmpty

def conclude (exchange : Exchange) (closing : Closing) (windowStart : Except MeasureError Nat) :
    Exchange :=
  { exchange with verdict := some ⟨closing, windowStart⟩ }

/-- What the coordinator does about an event. -/
def answer (exchange : Exchange) (now : Nat) (event : WorkerEvent) : Exchange :=
  match exchange.coordinator.onEvent exchange.definition now event with
  | (coordinator, .proceed) => { exchange with coordinator }
  | (coordinator, .begin workers) =>
    { exchange with coordinator, orders := ordersTo .beginTransfer workers }
  | (coordinator, .conclude windowStart) =>
    { exchange with coordinator }.conclude
      (.answered (exchange.coordinator.tracker.onEvent event).2) windowStart

def send? (exchange : Exchange) : Option Exchange :=
  match exchange.orders with
  | [] => none
  | (worker, command) :: orders =>
    match exchange.posts[worker]? with
    | none => some { exchange with orders }
    | some post =>
      let (post, acceptance) := post.trySend command
      some { exchange with
        orders
        posts := exchange.posts.set worker post
        sent := exchange.sent ++ [⟨worker, command, acceptance⟩] }

def hear? (exchange : Exchange) (now : Nat) : Option Exchange :=
  match exchange.events with
  | event :: events => if exchange.idle then some ({ exchange with events }.answer now event) else none
  | [] => none

def expire? (exchange : Exchange) (now : Nat) : Option Exchange :=
  if exchange.idle && (exchange.coordinator.expired? now).isSome then
    some (exchange.conclude .expired exchange.coordinator.windowStart)
  else
    none

def cancel? (exchange : Exchange) : Option Exchange :=
  if exchange.idle then some (exchange.conclude .cancelled (.error .cancelled)) else none

/-- The queue of events is closed once every worker is gone, and seen as closed once it is empty. -/
def desert? (exchange : Exchange) : Option Exchange :=
  if exchange.idle && exchange.events.isEmpty && exchange.posts.all (·.gone) then
    some (exchange.conclude .deserted exchange.coordinator.windowStart)
  else
    none

/-- Only the first call stops the workers. -/
def shutdown? (exchange : Exchange) : Option Exchange :=
  if exchange.verdict.isSome && exchange.orders.isEmpty then
    some <|
      if exchange.completed then exchange
      else
        { exchange with
          completed := true
          orders := ordersTo .stop (List.range exchange.posts.length) }
  else
    none

/-- A move of one worker, after which it may have something to tell. -/
def work? (exchange : Exchange) (worker : Nat)
    (move : Post → Option (Post × Option WorkerEvent)) : Option Exchange :=
  match exchange.posts[worker]? with
  | none => none
  | some post =>
    (move post).map fun (post, event) =>
      { exchange with
        posts := exchange.posts.set worker post
        events := exchange.events ++ event.toList }

def step (exchange : Exchange) : Move → Option Exchange
  | .send => exchange.send?
  | .hear now => exchange.hear? now
  | .expire now => exchange.expire? now
  | .cancel => exchange.cancel?
  | .desert => exchange.desert?
  | .shutdown => exchange.shutdown?
  | .take worker => exchange.work? worker fun post => post.take?.map fun post => (post, none)
  | .happen worker now happening =>
    exchange.work? worker fun post =>
      let (task, event) := post.task.happen now happening
      some ({ post with task }, event)
  | .leave worker => exchange.work? worker fun post => post.leave?.map fun post => (post, none)

/-- The moves one after another, if each of them can be made in its turn. -/
def run (exchange : Exchange) : List Move → Option Exchange
  | [] => some exchange
  | move :: moves => (exchange.step move).bind fun next => next.run moves

end Exchange

end Throughput
