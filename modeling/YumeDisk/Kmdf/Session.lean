import YumeDisk.Miniport.Device

/-!
# The session of the control driver and the adapter it claims

`YumeDiskKMDF/session/session.c`, `transport/runtime.c`, `transport/transport.c`, `control/ioctl.c`,
with the session part of the miniport (`core/protocol.c`, `control/control.c`).

A file object is one session; there is one at a time.  Its requests run on threads of their own
(`Call`), and so does its cleanup (`Closer`), which the handle's close or the watchdog starts.  A
step is one section under a lock, one interlocked operation, or what a thread does alone.  The
watchdog does not run beside the cleanup of the handle here, although a heartbeat that arms its
timer again can bring it there; `Kmdf.Drain` has both.

* `Adapter.claimSession`: `DiskClaimSessionLocked`.
* `System.advance`: the next step of a request.
* `System.close`: the next step of a cleanup.
-/

namespace YumeDisk.Kmdf

open Miniport (maxTargets allTargets)

/-! ## The miniport -/

/-- What the control device can ask for; `other` are the commands that change neither the session
nor a target. -/
inductive Command
  | queryKmdfInfo
  | queryScsiInfo
  | createDisk (target : Nat)
  | removeDisk (target : Nat)
  | removeAllDisks (closeSession : Bool)
  | other
deriving DecidableEq, Repr

structure Adapter where
  currentSessionId : Nat := 0
  present : Nat → Bool := fun _ => false

namespace Adapter

/-- `DiskClaimSessionLocked`; `none` is an error status. -/
def claimSession (a : Adapter) (command : Command) (sessionId : Nat) : Option Adapter :=
  if command = .queryScsiInfo then
    some a
  else if sessionId = 0 then
    none
  else if a.currentSessionId = 0 then
    some { a with currentSessionId := sessionId }
  else if a.currentSessionId ≠ sessionId then
    none
  else
    some a

def setPresent (a : Adapter) (target : Nat) (present : Bool) : Adapter :=
  { a with present := Function.update a.present target present }

/-- The end of `DiskHandleRemoveAllDisks`. -/
def closeSession (a : Adapter) (closeSession : Bool) : Adapter :=
  if closeSession then { a with currentSessionId := 0 } else a

end Adapter

/-! ## The session -/

/-- `CTRL_SESSION_STATE`. -/
inductive SessionState
  | invalid
  | active
  | locked
  | closing
  | closed
deriving DecidableEq, Repr

/-- `CTRL_TRANSPORT_RUNTIME_STATE`; a runtime that is stopped is gone. -/
inductive RuntimeState
  | running
  | closing
deriving DecidableEq, Repr

/-- `CTRL_FILE_CONTEXT`. -/
structure Session where
  state : SessionState := .invalid
  sessionId : Nat := 0
  miniportHandle : Bool := false
  transportRuntime : Option RuntimeState := none
  activeCount : Nat := 0
  inFlightRequestCount : Nat := 0
  pendingSlotCount : Nat := 0
deriving DecidableEq, Repr

/-- Where a request is.  Each holds a reference of `InFlightRequestCount`. -/
inductive Call
  /-- `ControlSessionAcquire` let it in. -/
  | acquired (command : Command)
  /-- It has a command buffer, and is to send it. -/
  | sending (command : Command)
  /-- The miniport has accepted it. -/
  | handling (command : Command)
  /-- `DiskHandleCreateDisk` has found the target free. -/
  | creating (target : Nat)
  /-- The loop of `DiskHandleRemoveAllDisks`. -/
  | removing (closeSession : Bool) (targets : List Nat)
  | returned
  | leaving
  /-- `ControlSessionAcquireSlot` has taken its references, and is to look at the state again. -/
  | slotReferenced
  | slotAcquired
  | slotRequested
  | slotQueued
  | slotSending
  /-- The miniport has it, and completes it at any time. -/
  | slotPosted
deriving DecidableEq, Repr

/-- Where a cleanup is. -/
inductive Stage
  | beginClose
  | send
  | claim
  | deactivate (targets : List Nat)
  | reset
  | drain
  | stop
  | drainActive
  | drainSlots
  | closeHandle
deriving DecidableEq, Repr

structure Closer where
  watchdog : Bool
  stage : Stage
deriving DecidableEq, Repr

structure System where
  adapter : Adapter := {}
  /-- `OpenCount`. -/
  opened : Bool := false
  session : Session := {}
  calls : List Call := []
  closer : Option Closer := none

namespace System

/-! ## Requests -/

def setSession (s : System) (session : Session) : System := { s with session }

/-- `ControlSessionRelease`. -/
def release (s : System) : System :=
  s.setSession { s.session with inFlightRequestCount := s.session.inFlightRequestCount - 1 }

/-- `ControlSessionReleaseSlot`. -/
def releaseSlot (s : System) : System :=
  { s with session := { s.session with pendingSlotCount := s.session.pendingSlotCount - 1 } }.release

def referenceActive (s : System) : System :=
  s.setSession { s.session with activeCount := s.session.activeCount + 1 }

def dereferenceActive (s : System) : System :=
  s.setSession { s.session with activeCount := s.session.activeCount - 1 }

def running (s : System) : Bool := s.session.transportRuntime = some .running

/-- `ControlSessionEnterLocked`. -/
def enter (s : System) : Bool :=
  s.session.state = .active && s.session.miniportHandle && s.session.sessionId ≠ 0

/-- The next step of a request, and where it is then; `none` when it has ended. -/
def advance (s : System) : Call → System × Option Call
  | .acquired command =>
    if command = .queryKmdfInfo || !s.session.miniportHandle || !s.running then
      (s.release, none)
    else
      (s.referenceActive, some (.sending command))
  | .sending command =>
    match s.adapter.claimSession command s.session.sessionId with
    | none => (s, some .returned)
    | some adapter => ({ s with adapter }, some (.handling command))
  | .handling (.createDisk target) =>
    if target ≥ maxTargets || s.adapter.present target then
      (s, some .returned)
    else
      (s, some (.creating target))
  | .handling (.removeDisk target) =>
    ({ s with adapter := s.adapter.setPresent target false }, some .returned)
  | .handling (.removeAllDisks closeSession) => (s, some (.removing closeSession allTargets))
  | .handling _ => (s, some .returned)
  | .creating target =>
    ({ s with adapter := s.adapter.setPresent target true }, some .returned)
  | .removing closeSession [] =>
    ({ s with adapter := s.adapter.closeSession closeSession }, some .returned)
  | .removing closeSession (target :: targets) =>
    ({ s with adapter := s.adapter.setPresent target false },
      some (.removing closeSession targets))
  | .returned => (s.dereferenceActive, some .leaving)
  | .leaving => (s.release, none)
  | .slotReferenced =>
    if s.enter && s.session.transportRuntime.isSome then
      (s, some .slotAcquired)
    else
      (s.releaseSlot, none)
  | .slotAcquired =>
    if s.running then (s.referenceActive, some .slotRequested) else (s.releaseSlot, none)
  | .slotRequested =>
    if s.running then (s, some .slotQueued) else (s.dereferenceActive.releaseSlot, none)
  | .slotQueued =>
    if s.running then (s, some .slotSending) else (s.dereferenceActive.releaseSlot, none)
  | .slotSending =>
    match s.adapter.claimSession .other s.session.sessionId with
    | none => (s, some .slotPosted)
    | some adapter => ({ s with adapter }, some .slotPosted)
  | .slotPosted => (s.dereferenceActive.releaseSlot, none)

def runCall (s : System) (i : Nat) (call : Call) : System :=
  match s.advance call with
  | (s, none) => { s with calls := s.calls.eraseIdx i }
  | (s, some call) => { s with calls := s.calls.set i call }

/-- `ControlSessionAcquire`. -/
def acquire (s : System) (command : Command) : System :=
  if s.enter then
    { s with
      session := { s.session with inFlightRequestCount := s.session.inFlightRequestCount + 1 }
      calls := s.calls ++ [.acquired command] }
  else
    s

/-- `ControlSessionAcquireSlot` takes its references; its first look at the state may be long
past. -/
def referenceSlot (s : System) : System :=
  { s with
    session := { s.session with
      inFlightRequestCount := s.session.inFlightRequestCount + 1
      pendingSlotCount := s.session.pendingSlotCount + 1 }
    calls := s.calls ++ [.slotReferenced] }

/-! ## Opening and closing -/

/-- `ControlSessionTryOpen`; requests of an earlier file object are none of this one's. -/
def tryOpen (s : System) (sessionId : Nat) : Option System :=
  if s.opened then
    none
  else
    some { s with
      opened := true
      session := {
        state := .active
        sessionId
        miniportHandle := true
        transportRuntime := some .running }
      calls := [] }

/-- `ControlEvtSessionWatchdogTimer` finds that the time is over. -/
def watchdog (s : System) : Option System :=
  if s.closer = none ∧ s.enter = true then
    some { s with
      session := { s.session with state := .locked }
      closer := some { watchdog := true, stage := .beginClose } }
  else
    none

/-- `ControlSessionCleanup` starts; it waits for the watchdog. -/
def cleanup (s : System) : Option System :=
  if s.opened = true ∧ s.closer = none then
    some { s with
      session := { s.session with
        state := if s.session.state = .closed then .closed else .closing }
      closer := some { watchdog := false, stage := .beginClose } }
  else
    none

def setStage (s : System) (c : Closer) (stage : Stage) : System :=
  { s with closer := some { c with stage } }

/-- The next step of a cleanup.  `sent` is whether `ControlSendMiniportBuffer` has its buffers and
the cleanup message reaches the miniport. -/
def close (s : System) (sent : Bool) (c : Closer) : Option System :=
  match c.stage with
  | .beginClose =>
    some ((s.setSession { s.session with
      transportRuntime := s.session.transportRuntime.map fun _ => .closing }).setStage c .send)
  | .send =>
    if !s.session.miniportHandle || s.session.sessionId = 0 || !sent then
      some (s.setStage c .drain)
    else
      some (s.setStage c .claim)
  | .claim =>
    match s.adapter.claimSession (.removeAllDisks true) s.session.sessionId with
    | none => some (s.setStage c .drain)
    | some adapter => some ({ s with adapter }.setStage c (.deactivate allTargets))
  | .deactivate [] => some (s.setStage c .reset)
  | .deactivate (target :: targets) =>
    some ({ s with adapter := s.adapter.setPresent target false }.setStage c (.deactivate targets))
  | .reset => some ({ s with adapter := s.adapter.closeSession true }.setStage c .drain)
  | .drain => if s.session.inFlightRequestCount ≠ 0 then none else some (s.setStage c .stop)
  | .stop =>
    some ((s.setSession { s.session with transportRuntime := none }).setStage c .drainActive)
  | .drainActive => if s.session.activeCount ≠ 0 then none else some (s.setStage c .drainSlots)
  | .drainSlots =>
    if s.session.pendingSlotCount ≠ 0 then none else some (s.setStage c .closeHandle)
  | .closeHandle =>
    if c.watchdog then
      some { s with session := { s.session with miniportHandle := false }, closer := none }
    else
      some { s with
        opened := false
        session := { s.session with miniportHandle := false, sessionId := 0, state := .closed }
        closer := none }

inductive Action
  | tryOpen (sessionId : Nat)
  | acquire (command : Command)
  | referenceSlot
  | call (i : Nat)
  | watchdog
  | cleanup
  | close (sent : Bool)
deriving DecidableEq, Repr

def step (s : System) : Action → Option System
  | .tryOpen sessionId => s.tryOpen sessionId
  | .acquire command => some (s.acquire command)
  | .referenceSlot => some s.referenceSlot
  | .call i => (s.calls[i]?).map (s.runCall i)
  | .watchdog => s.watchdog
  | .cleanup => s.cleanup
  | .close sent => s.closer.bind (s.close sent)

/-- Nobody has opened the control device. -/
def init : System := {}

end System

end YumeDisk.Kmdf
