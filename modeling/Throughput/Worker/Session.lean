import Throughput.Download.Agenda

/-!
# Worker sessions

One worker that is called directly, without a coordinator, against a server that follows a script.
Bytes that come while nobody reads are kept, and the next read takes them all together.
-/

namespace Throughput

inductive Call where
  | connect
  | beginTransfer
  | stop
  | wait (span : Nat)
  deriving DecidableEq, Repr

structure Session where
  worker : Worker
  now : Nat
  /-- What the server of the open connection still does, or has done unnoticed. -/
  pending : List Action
  /-- The scripts of the connections that are not open yet. -/
  scripts : List (List Action)
  deriving DecidableEq, Repr

namespace Session

def ofScripts (id : Nat) (scripts : List (List Action)) : Session :=
  { worker := .ofId id
    now := 0
    pending := []
    scripts := scripts.map fun script =>
      script.mergeSort fun left right => left.time ≤ right.time }

def isReset (action : Action) : Bool :=
  action.deed = .reset

def takeBytes : List Action → Nat × List Action
  | ⟨_, .send count⟩ :: rest =>
    let (bytes, after) := takeBytes rest
    (count + bytes, after)
  | actions => (0, actions)

/-- What one read takes of the bytes that have come, and what stays for the next. -/
def readBuffered (now bytes : Nat) (actions : List Action) : Reading × List Action :=
  if Worker.bufferSize < bytes then
    (.bytes Worker.bufferSize, ⟨now, .send (bytes - Worker.bufferSize)⟩ :: actions)
  else (.bytes bytes, actions)

/-- The first deed that a waiting reader notices before the deadline, with its time. -/
def awaitDeed (deadline : Nat) : List Action → Nat × Reading × List Action
  | [] => (deadline, .timeout, [])
  | action :: rest =>
    if deadline ≤ action.time then
      (deadline, .timeout, action :: rest)
    else
      match action.deed with
      | .send 0 => awaitDeed deadline rest
      | .send (count + 1) => (action.time, readBuffered action.time (count + 1) rest)
      | .close => (action.time, .bytes 0, rest)
      | .reset => (action.time, .broken, rest)

/-- The first read after a request: when it returns, what it brings, and what is left. -/
def readFirst (now timeout : Nat) (pending : List Action) : Nat × Reading × List Action :=
  let (past, future) := pending.span fun action => action.time ≤ now
  match takeBytes past with
  | (0, []) => awaitDeed (now + timeout) future
  | (0, _ :: rest) => (now, .bytes 0, rest ++ future)
  | (bytes, rest) =>
    let (reading, left) := readBuffered now bytes rest
    (now, reading, left ++ future)

def connect (session : Session) (accepted : Bool) : Session × Option Bool :=
  let worker := session.worker.beginConnect.finishConnect accepted
  let next :=
    if accepted then
      { session with
        worker
        pending := session.scripts.headD []
        scripts := session.scripts.drop 1 }
    else
      { session with worker, pending := [] }
  (next, some accepted)

/-- A request fails on a connection that was reset before. After a mere close it still goes out. -/
def beginTransfer (session : Session) (timeout : Nat) : Session × Option Bool :=
  if !session.worker.holdsStream then
    (session, some false)
  else if session.pending.any fun action => action.time ≤ session.now && isReset action then
    ({ session with worker := session.worker.fail, pending := [] }, some false)
  else
    let (time, reading, pending) := readFirst session.now timeout session.pending
    let worker := (session.worker.await session.now).readFirst time reading
    let held := if worker.holdsStream then pending else []
    ({ session with worker, now := time, pending := held }, some (worker.state = .downloading))

def call (session : Session) (accepted : Bool) (timeout : Nat) : Call → Session × Option Bool
  | .connect => session.connect accepted
  | .beginTransfer => session.beginTransfer timeout
  | .stop => ({ session with worker := session.worker.stop, pending := [] }, none)
  | .wait span => ({ session with now := session.now + span }, none)

/-- The sessions after each call, with what the call returned. -/
def calls (session : Session) (accepted : Bool) (timeout : Nat) :
    List Call → List (Session × Option Bool)
  | [] => []
  | call :: rest =>
    let answer := session.call accepted timeout call
    answer :: answer.1.calls accepted timeout rest

end Session

end Throughput
