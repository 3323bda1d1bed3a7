import YumeDisk.Kmdf.Session
import YumeDisk.Lib.ZeroGate

/-!
# References and drains of a session, one interlocked operation at a time

`YumeDiskKMDF/session/session.c`, `transport/runtime.c`, `transport/transport.c`.  Three counts
keep what a session uses alive: `InFlightRequestCount` and `PendingSlotCount` of the file context,
and `ActiveCount` of the transport runtime.  Each has an event that a drain waits for.  Here the
increment and `KeClearEvent`, and the decrement and `KeSetEvent`, are steps of their own, and so is
each look at a state.

* `System.advance`: the next step of a request or of a slot.
* `System.tear`: the next step of a close, by the watchdog or by the cleanup of the file object.
* `System.step`: all of them, in any order, on one file object from its open on.
-/

namespace YumeDisk.Kmdf.Drain

open Lib (Gate GateOp moveThread)

inductive Counter
  /-- `InFlightRequestCount`. -/
  | inFlight
  /-- `PendingSlotCount`. -/
  | pendingSlot
  /-- `ActiveCount` of the runtime. -/
  | active
deriving DecidableEq, Repr

/-- What wants the runtime: `ControlTransportRuntimeAcquireSyncCommandBuffer` for a command,
`ControlTransportRuntimeAcquireSlotRequest` for a slot. -/
inductive Kind
  | sync
  | slot
deriving DecidableEq, Repr

/-- A step of a release. -/
inductive Op
  | drop (c : Counter)
  | signal (c : Counter)
  /-- A free list of the runtime, or one of its statistics. -/
  | touch
deriving DecidableEq, Repr

/-- `ControlSessionRelease` or `ControlSessionReleaseSlot`. -/
def release : Kind → List Op
  | .sync => [.drop .inFlight]
  | .slot => [.drop .pendingSlot, .drop .inFlight]

/-- `ControlTransportRuntimeReleaseSyncCommandBuffer` or
`ControlTransportRuntimeReleaseSlotRequest`. -/
def releaseRuntime : List Op := [.touch, .drop .active]

/-- Where a thread is, or a work item, or a request that the miniport has. -/
inductive Thread
  /-- `ControlSessionAcquire`, under the lock: the count went to one. -/
  | clearIo
  /-- `ControlSessionAcquire` has succeeded. -/
  | acquired
  /-- `ControlSessionAcquireSlot` has seen an active session. -/
  | slotLooked
  | slotClearIo
  | slotCounted
  | slotClearPending
  /-- It has both references, and is to look at the session again. -/
  | slotRecheck
  | readRuntime (k : Kind)
  /-- It has the pointer, and is to look at the state of the runtime. -/
  | checkRuntime (k : Kind)
  | referenceRuntime (k : Kind)
  | clearActive (k : Kind)
  | recheckRuntime (k : Kind)
  /-- The runtime is acquired; the pool is next. -/
  | pool (k : Kind)
  /-- `ZwDeviceIoControlFile` on the handle. -/
  | sending
  /-- `ControlTransportRuntimeSubmitSlotRequest`. -/
  | submitting
  /-- `ControlTransportRuntimeSlotWorkItem` is queued. -/
  | queued
  /-- `IoCallDriver` on the device of the handle. -/
  | calling
  /-- The miniport completes it at any time. -/
  | posted
  /-- What is left to release. -/
  | rest (ops : List Op)
deriving DecidableEq, Repr

/-- Where a close is. -/
inductive Stage
  /-- `ControlTransportRuntimeBeginClose` is to read the pointer. -/
  | beginClose
  | markClosing
  /-- `ControlSendSessionCleanup`. -/
  | send
  | sending
  /-- The loop of a drain is to look at the count. -/
  | drain (c : Counter)
  | wait (c : Counter)
  /-- `ControlTransportRuntimeStop` is to take the pointer. -/
  | stop
  | stopping
  | free
  | closeHandle
deriving DecidableEq, Repr

/-- `ControlEvtSessionWatchdogTimer`. -/
inductive Watchdog
  | fired
  | tear (stage : Stage)
  /-- `WdfTimerStop`. -/
  | finish
deriving DecidableEq, Repr

/-- `ControlSessionCleanup`. -/
inductive Cleanup
  /-- `WdfTimerStop` waits for the watchdog. -/
  | stopTimer
  /-- The state is to change. -/
  | change
  | tear (stage : Stage)
  | done
deriving DecidableEq, Repr

/-- `CTRL_FILE_CONTEXT`, its runtime, and who works with them. -/
structure System where
  state : SessionState := .active
  sessionId : Nat
  /-- An acquire holds `SessionLock`. -/
  locked : Bool := false
  /-- The watchdog timer is set. -/
  timer : Bool := true
  miniportHandle : Bool := true
  /-- `TransportRuntime` is not `NULL`. -/
  transportRuntime : Bool := true
  runtimeState : RuntimeState := .running
  /-- The memory of the runtime was freed. -/
  freed : Bool := false
  gate : Counter → Gate := fun _ => {}
  threads : List Thread := []
  watchdog : Option Watchdog := none
  cleanup : Option Cleanup := none

namespace System

/-- A session that `ControlSessionTryOpen` has opened. -/
def init (sessionId : Nat) : System := { sessionId }

/-- `ControlSessionEnterLocked`. -/
def enter (s : System) : Bool :=
  s.state = .active && s.miniportHandle && s.sessionId ≠ 0

def running (s : System) : Bool := s.runtimeState = .running

/-! ## Requests -/

/-- The next step of a thread: what it does to a gate, and where it is then; `none` when it has
ended.  `ok` is what depends on the request or on memory: that the command is one for the miniport,
that the slot is well formed, that an allocation succeeds. -/
def advance (s : System) (ok : Bool) : Thread → Option (Counter × GateOp) × Option Thread
  | .clearIo => (some (.inFlight, .clear), some .acquired)
  | .acquired =>
    (none, some (if ok && s.miniportHandle then .readRuntime .sync else .rest (release .sync)))
  | .slotLooked =>
    (some (.inFlight, .take),
      some (if (s.gate .inFlight).count = 0 then .slotClearIo else .slotCounted))
  | .slotClearIo => (some (.inFlight, .clear), some .slotCounted)
  | .slotCounted =>
    (some (.pendingSlot, .take),
      some (if (s.gate .pendingSlot).count = 0 then .slotClearPending else .slotRecheck))
  | .slotClearPending => (some (.pendingSlot, .clear), some .slotRecheck)
  | .slotRecheck =>
    (none, some (if s.enter && s.transportRuntime && ok then .readRuntime .slot
      else .rest (release .slot)))
  | .readRuntime k =>
    (none, some (if s.transportRuntime then .checkRuntime k else .rest (release k)))
  | .checkRuntime k =>
    (none, some (if s.running then .referenceRuntime k else .rest (.touch :: release k)))
  | .referenceRuntime k =>
    (some (.active, .take),
      some (if (s.gate .active).count = 0 then .clearActive k else .recheckRuntime k))
  | .clearActive k => (some (.active, .clear), some (.recheckRuntime k))
  | .recheckRuntime k =>
    (none, some (if s.running then .pool k else .rest (.drop .active :: .touch :: release k)))
  | .pool k =>
    (none, some (if ok then (match k with | .sync => .sending | .slot => .submitting)
      else .rest (.drop .active :: .touch :: release k)))
  | .sending => (none, some (.rest (releaseRuntime ++ release .sync)))
  | .submitting =>
    (none, some (if ok && s.running then .queued else .rest (releaseRuntime ++ release .slot)))
  | .queued =>
    (none, some (if s.running then .calling else .rest (release .slot ++ releaseRuntime)))
  | .calling => (none, some .posted)
  | .posted => (none, some (.rest (release .slot ++ releaseRuntime)))
  | .rest [] => (none, none)
  | .rest (.drop c :: ops) =>
    (some (c, .drop), some (.rest (if (s.gate c).count = 1 then .signal c :: ops else ops)))
  | .rest (.signal c :: ops) => (some (c, .signal), some (.rest ops))
  | .rest (.touch :: ops) => (none, some (.rest ops))

/-- A gate after an operation on one of them. -/
def applyGate (s : System) : Option (Counter × GateOp) → Counter → Gate
  | none => s.gate
  | some (c, op) => Function.update s.gate c ((s.gate c).apply op)

/-- The `i`-th thread goes on. -/
def run (s : System) (i : Nat) (ok : Bool) (t : Thread) : System :=
  let (op, t') := s.advance ok t
  { s with
    locked := s.locked && t ≠ .clearIo
    gate := s.applyGate op
    threads := moveThread s.threads i t' }

/-- `ControlSessionAcquire` counts a request; the lock is free, and stays taken while the event is
to be cleared. -/
def acquire (s : System) : Option System :=
  if s.locked then
    none
  else if s.enter then
    some { s with
      locked := (s.gate .inFlight).count = 0
      gate := s.applyGate (some (.inFlight, .take))
      threads := s.threads ++
        [if (s.gate .inFlight).count = 0 then .clearIo else .acquired] }
  else
    some s

/-- `ControlSessionAcquireSlot` looks at the state for the first time. -/
def look (s : System) : Option System :=
  if s.state = .active then some { s with threads := s.threads ++ [.slotLooked] } else some s

/-- `ControlSessionHeartbeat`. -/
def heartbeat (s : System) : Option System :=
  if s.locked then none else if s.enter then some { s with timer := true } else some s

/-! ## Closing -/

/-- What comes after a drain. -/
def drained : Counter → Stage
  | .inFlight => .stop
  | .active => .free
  | .pendingSlot => .closeHandle

/-- The next step of a close, up to the one that closes the handle; `none` while a drain waits. -/
def tear (s : System) : Stage → Option (System × Stage)
  | .beginClose => some (s, if s.transportRuntime then .markClosing else .send)
  | .markClosing => some ({ s with runtimeState := .closing }, .send)
  | .send =>
    some (s, if s.miniportHandle && s.sessionId ≠ 0 then .sending else .drain .inFlight)
  | .sending => some (s, .drain .inFlight)
  | .drain c => some (s, if (s.gate c).count = 0 then drained c else .wait c)
  | .wait c => if (s.gate c).zero then some (s, .drain c) else none
  | .stop =>
    if s.transportRuntime then
      some ({ s with transportRuntime := false }, .stopping)
    else
      some (s, .drain .pendingSlot)
  | .stopping => some ({ s with runtimeState := .closing }, .drain .active)
  | .free => some ({ s with freed := true }, .drain .pendingSlot)
  | .closeHandle => none

/-- The timer of the watchdog is over. -/
def fire (s : System) : Option System :=
  if s.timer ∧ s.watchdog = none then
    some { s with timer := false, watchdog := some .fired }
  else
    none

/-- `ControlEvtSessionWatchdogTimer`; `elapsed` is that there was no heartbeat in time. -/
def watch (s : System) (elapsed : Bool) : Option System :=
  match s.watchdog with
  | none => none
  | some .fired =>
    if s.locked then
      none
    else if s.enter && elapsed then
      some { s with state := .locked, watchdog := some (.tear .beginClose) }
    else
      some { s with watchdog := none }
  | some (.tear .closeHandle) =>
    some { s with miniportHandle := false, watchdog := some .finish }
  | some (.tear stage) =>
    (s.tear stage).map fun (s, stage) => { s with watchdog := some (.tear stage) }
  | some .finish => some { s with timer := false, watchdog := none }

/-- `ControlSessionCleanup`. -/
def clean (s : System) : Option System :=
  match s.cleanup with
  | none => some { s with timer := false, cleanup := some .stopTimer }
  | some .stopTimer =>
    if s.watchdog = none then some { s with cleanup := some .change } else none
  | some .change =>
    if s.locked then
      none
    else
      some { s with
        state := if s.state = .closed then .closed else .closing
        cleanup := some (.tear .beginClose) }
  | some (.tear .closeHandle) =>
    if s.locked then
      none
    else
      some { s with
        miniportHandle := false
        sessionId := 0
        state := .closed
        cleanup := some .done }
  | some (.tear stage) =>
    (s.tear stage).map fun (s, stage) => { s with cleanup := some (.tear stage) }
  | some .done => none

inductive Action
  | acquire
  | look
  | heartbeat
  | run (i : Nat) (ok : Bool)
  | fire
  | watch (elapsed : Bool)
  | clean
deriving DecidableEq, Repr

def step (s : System) : Action → Option System
  | .acquire => s.acquire
  | .look => s.look
  | .heartbeat => s.heartbeat
  | .run i ok => (s.threads[i]?).map (s.run i ok)
  | .fire => s.fire
  | .watch elapsed => s.watch elapsed
  | .clean => s.clean

end System

end YumeDisk.Kmdf.Drain
