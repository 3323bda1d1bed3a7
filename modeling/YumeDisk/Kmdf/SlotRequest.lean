import Mathlib.Algebra.Group.Int.Defs
import Mathlib.Logic.Function.Basic
import YumeDisk.Lib.Run

/-!
# Slot requests on their way to the lower driver (`transport/transport.c`, `transport/runtime.c`)

A posted slot (`Job`) has the thread of its ioctl, the work item that dispatches it and the
completion routine of its IRP.  They share one object of the pool, `CTRL_ASYNC_SLOT_REQUEST`; whoever
comes last to its `CompletionState` completes the WDF request, releases the slot reference and gives
the object back.

* `Transport.submit`: `ControlProxySubmitSlotAsync` and `ControlProxySubmitEventSlotAsync`.
* `Transport.work`: `ControlTransportRuntimeSlotWorkItem`, `ControlTransportDispatchSlotRequest`.
* `Transport.routine`: `ControlSubmitSlotCompletionRoutine`.

A step is one interlocked operation, one section under a lock, or what a thread does alone.  A wait
for an event is a look at its count.  What a request is completed with is the `IoStatus` that
`ControlCompleteAsyncSlotRequest` gets; it is not followed through the buffers.

The counters are the lists of the jobs that they count.  `ledger` counts what was done for each job;
`holder` is the job that has an object.
-/

namespace YumeDisk.Kmdf.SlotTransport

def statusDeletePending : Int := 0xC0000056 - 2 ^ 32

def statusUnsuccessful : Int := 0xC0000001 - 2 ^ 32

def statusNotSupported : Int := 0xC00000BB - 2 ^ 32

/-- `IO_STATUS_BLOCK`. -/
structure IoStatus where
  status : Int
  information : Nat
deriving DecidableEq, Repr

/-! ## Objects -/

/-- `CTRL_ASYNC_SLOT_REQUEST`; `irp` is the `IoStatus` of the IRP that it has. -/
structure SlotRequest where
  request : Option Nat := none
  sessionContext : Bool := false
  /-- The target, when the command is `YumeDiskCommandSubmitEventSlot`. -/
  eventTarget : Option Nat := none
  irp : Option IoStatus := none
  completionState : Nat := 0
  completionStatus : Int := statusUnsuccessful
  completionInformation : Nat := 0
  holder : Option Nat := none
deriving DecidableEq, Repr

namespace SlotRequest

/-- `ControlTransportRuntimeResetSlotRequest`. -/
def reset (x : SlotRequest) : SlotRequest := { holder := x.holder }

/-- `InterlockedCompareExchange(&CompletionState, exchange, 0)`; the state that it found. -/
def swap (x : SlotRequest) (exchange : Nat) : Nat × SlotRequest :=
  if x.completionState = 0 then
    (0, { x with completionState := exchange })
  else
    (x.completionState, x)

def stored (x : SlotRequest) : IoStatus := ⟨x.completionStatus, x.completionInformation⟩

/-- `Irp->IoStatus`. -/
def irpStatus (x : SlotRequest) : IoStatus := x.irp.getD ⟨statusNotSupported, 0⟩

end SlotRequest

/-! ## Threads -/

/-- `ControlTransportRuntimeReleaseSlotRequest`. -/
inductive ReleaseStage where
  /-- `ClearPendingEventSlot` and `ResetSlotRequest`. -/
  | clearing
  | inserting
  | dereferencing
deriving DecidableEq, Repr

/-- `ControlCompleteAsyncSlotRequest` and the release after it. -/
inductive FinishStage where
  | completing (io : IoStatus)
  | releasingSlot
  | releasing (stage : ReleaseStage)
deriving DecidableEq, Repr

/-- Where the ioctl is; it has a slot reference. -/
inductive SubmitStage where
  /-- `ControlTransportRuntimeAcquireSlotRequest`. -/
  | acquiring
  | referenced
  | taking
  | fitting
  | creating
  | preparing
  /-- `ControlTryReservePendingEventSlot`. -/
  | reserving
  /-- `IoAllocateIrp`. -/
  | allocating
  /-- `ControlTransportRuntimeSubmitSlotRequest`. -/
  | queueing
  | releasing (stage : ReleaseStage)
  /-- It has failed; `ControlSessionReleaseSlot`, and then `WdfRequestComplete`. -/
  | failed
  | completing
  | returned
deriving DecidableEq, Repr

inductive WorkStage where
  | idle
  | queued
  /-- `IoCallDriver` is called. -/
  | calling
  | inDriver
  /-- It has returned; `none` is `STATUS_PENDING`. -/
  | swapping (status : Option Int)
  | finishing (stage : FinishStage)
  | returned
deriving DecidableEq, Repr

inductive RoutineStage where
  | idle
  /-- The lower driver has the IRP. -/
  | driver
  | entered
  | storing
  | swapping
  | finishing (stage : FinishStage)
  | returned
deriving DecidableEq, Repr

structure Job where
  /-- The target of an event slot. -/
  event : Option Nat
  slot : Option Nat := none
  submit : SubmitStage := .acquiring
  work : WorkStage := .idle
  routine : RoutineStage := .idle
deriving DecidableEq, Repr

/-- None of its threads has anything left to do. -/
def Job.AtRest (j : Job) : Prop :=
  j.submit = .returned ∧ (j.work = .idle ∨ j.work = .returned) ∧
    (j.routine = .idle ∨ j.routine = .returned)

instance (j : Job) : Decidable j.AtRest := inferInstanceAs (Decidable (_ ∧ _ ∧ _))

@[ext]
structure Ledger where
  completed : Nat := 0
  slotReleased : Nat := 0
  acquired : Nat := 0
  poolReleased : Nat := 0
deriving DecidableEq, Repr

namespace Ledger

def complete (l : Ledger) : Ledger := { l with completed := l.completed + 1 }

def releaseSlot (l : Ledger) : Ledger := { l with slotReleased := l.slotReleased + 1 }

def acquire (l : Ledger) : Ledger := { l with acquired := l.acquired + 1 }

def releasePool (l : Ledger) : Ledger := { l with poolReleased := l.poolReleased + 1 }

end Ledger

structure Transport where
  /-- `State` of the session is active. -/
  sessionActive : Bool := true
  /-- `State` of the runtime is running. -/
  running : Bool := true
  /-- `Context->TransportRuntime` is not null. -/
  attached : Bool := true
  /-- The jobs that `ActiveCount` counts. -/
  actives : List Nat := []
  /-- The jobs that `PendingSlotCount` and `InFlightRequestCount` count. -/
  slots : List Nat := []
  objects : Nat → SlotRequest := fun _ => {}
  created : Nat := 0
  freeList : List Nat := []
  pendingEventSlots : Nat → Option Nat := fun _ => none
  jobs : Nat → Option Job := fun _ => none
  ledger : Nat → Ledger := fun _ => {}
  /-- A null request was completed. -/
  nullCompleted : Bool := false

inductive Action where
  /-- `ControlSessionAcquireSlot` has let a posted slot in. -/
  | post (r : Nat) (event : Option Nat)
  /-- `ok` is whether an allocation succeeds, or an object of the pool is large enough. -/
  | submit (r : Nat) (ok : Bool)
  /-- `status` is what `IoCallDriver` returns. -/
  | work (r : Nat) (status : Option Int)
  /-- The lower driver completes the IRP. -/
  | complete (r : Nat) (io : IoStatus)
  | routine (r : Nat)
  | deactivate
  | beginClose
  /-- `ControlTransportRuntimeStop`, after the requests in flight. -/
  | detach
  /-- `ControlTransportRuntimeFreeSlotPool`. -/
  | destroy
deriving DecidableEq, Repr

namespace Transport

def setJob (s : Transport) (r : Nat) (j : Job) : Transport :=
  { s with jobs := Function.update s.jobs r (some j) }

def setObject (s : Transport) (o : Nat) (x : SlotRequest) : Transport :=
  { s with objects := Function.update s.objects o x }

def bump (s : Transport) (r : Nat) (f : Ledger → Ledger) : Transport :=
  { s with ledger := Function.update s.ledger r (f (s.ledger r)) }

/-- `WdfRequestComplete`. -/
def completeRequest (s : Transport) : Option Nat → Transport
  | some r => s.bump r Ledger.complete
  | none => { s with nullCompleted := true }

/-- `ControlSessionReleaseSlot`, of the reference of `r`. -/
def releaseSlot (s : Transport) (r : Nat) : Transport :=
  { s with slots := s.slots.erase r }.bump r Ledger.releaseSlot

/-- `ControlTransportRuntimeClearPendingEventSlot`. -/
def clearPendingEventSlot (s : Transport) (o : Nat) : Transport :=
  match (s.objects o).eventTarget with
  | none => s
  | some t =>
    if (s.objects o).sessionContext ∧ s.pendingEventSlots t = some o then
      { s with pendingEventSlots := Function.update s.pendingEventSlots t none }
    else
      s

/-- The next step of the release of an object, and the one after it. -/
def release (s : Transport) (r o : Nat) : ReleaseStage → Transport × Option ReleaseStage
  | .clearing =>
    ((s.clearPendingEventSlot o).setObject o (s.objects o).reset, some .inserting)
  | .inserting =>
    (({ s with freeList := s.freeList ++ [o] }.setObject o { s.objects o with holder := none }).bump
      r Ledger.releasePool, some .dereferencing)
  | .dereferencing => ({ s with actives := s.actives.erase r }, none)

/-- The next step of the completion of a request, and the one after it. -/
def finish (s : Transport) (r o : Nat) : FinishStage → Transport × Option FinishStage
  | .completing _ => (s.completeRequest (s.objects o).request, some .releasingSlot)
  | .releasingSlot =>
    -- nothing is released without a session
    (if (s.objects o).sessionContext then s.releaseSlot r else s, some (.releasing .clearing))
  | .releasing stage => ((s.release r o stage).1, (s.release r o stage).2.map .releasing)

/-- `r` gets the object. -/
def take (s : Transport) (r o : Nat) : Transport :=
  (s.setObject o { s.objects o with holder := some r }).bump r Ledger.acquire

/-- The next step of the ioctl. -/
def submit (s : Transport) (r : Nat) (j : Job) (ok : Bool) : Option Transport :=
  let goto := fun (s : Transport) (stage : SubmitStage) => s.setJob r { j with submit := stage }
  match j.submit, j.slot with
  | .acquiring, _ =>
    if s.attached ∧ s.running then
      some (goto { s with actives := r :: s.actives } .referenced)
    else
      some (goto s .failed)
  | .referenced, _ =>
    some (goto s (if s.running then .taking else .releasing .dereferencing))
  | .taking, _ =>
    match s.freeList with
    | [] => some (goto s .creating)
    | o :: freeList =>
      some (({ s with freeList }.take r o).setJob r { j with slot := some o, submit := .fitting })
  | .fitting, _ => some (goto s (if ok then .preparing else .releasing .clearing))
  | .creating, _ =>
    if ok then
      some (({ s with created := s.created + 1 }.take r s.created).setJob r
        { j with slot := some s.created, submit := .preparing })
    else
      some (goto s (.releasing .dereferencing))
  | .preparing, some o =>
    some (goto (s.setObject o { (s.objects o).reset with
      request := some r
      sessionContext := true
      eventTarget := j.event }) (if j.event.isSome then .reserving else .allocating))
  | .reserving, some o =>
    match j.event with
    | none => none
    | some t =>
      if s.pendingEventSlots t = none then
        some (goto { s with pendingEventSlots := Function.update s.pendingEventSlots t (some o) }
          .allocating)
      else
        some (goto s (.releasing .clearing))
  | .allocating, some o =>
    if ok then
      some (goto (s.setObject o { s.objects o with irp := some ⟨statusNotSupported, 0⟩ }) .queueing)
    else
      some (goto s (.releasing .clearing))
  | .queueing, some _ =>
    if s.running then
      some (s.setJob r { j with submit := .returned, work := .queued })
    else
      some (goto s (.releasing .clearing))
  | .releasing stage, slot =>
    let (s, next) := s.release r (slot.getD 0) stage
    some (s.setJob r { j with submit := match next with
      | some stage => .releasing stage
      | none => .failed })
  | .failed, _ => some (goto (s.releaseSlot r) .completing)
  | .completing, _ => some (goto (s.completeRequest (some r)) .returned)
  | _, _ => none

/-- The next step of the work item. -/
def work (s : Transport) (r : Nat) (j : Job) (status : Option Int) : Option Transport :=
  j.slot.bind fun o =>
    let x := s.objects o
    match j.work with
    | .idle | .returned => none
    | .queued =>
      -- `ControlTransportFailSlotRequest` when the runtime is closing
      let stage := if s.running then .calling else .finishing (.completing ⟨statusDeletePending, 0⟩)
      some (s.setJob r { j with work := stage })
    | .calling => some (s.setJob r { j with work := .inDriver, routine := .driver })
    | .inDriver =>
      -- any status but `STATUS_PENDING` says that the completion routine has run
      if status.isSome ∧ j.routine ≠ .returned then
        none
      else
        some (s.setJob r { j with work := .swapping status })
    | .swapping status =>
      let (ownerState, x') := x.swap 1
      let stage : WorkStage :=
        if ownerState = 2 then
          .finishing (.completing x.stored)
        else if ownerState = 0 then
          match status with
          | none => .returned
          | some status =>
            let io := x.irpStatus
            .finishing (.completing
              (if io.status = statusNotSupported then { io with status } else io))
        else
          .returned
      some ((s.setObject o x').setJob r { j with work := stage })
    | .finishing stage =>
      let (s, next) := s.finish r o stage
      some (s.setJob r { j with work := match next with
        | some stage => .finishing stage
        | none => .returned })

/-- The next step of the completion routine. -/
def routine (s : Transport) (r : Nat) (j : Job) : Option Transport :=
  j.slot.bind fun o =>
    let x := s.objects o
    match j.routine with
    | .idle | .driver | .returned => none
    | .entered =>
      some ((s.setObject o { x with completionStatus := x.irpStatus.status }).setJob r
        { j with routine := .storing })
    | .storing =>
      some ((s.setObject o { x with completionInformation := x.irpStatus.information }).setJob r
        { j with routine := .swapping })
    | .swapping =>
      let (ownerState, x') := x.swap 2
      let stage : RoutineStage :=
        if ownerState = 1 then .finishing (.completing x.irpStatus) else .returned
      some ((s.setObject o x').setJob r { j with routine := stage })
    | .finishing stage =>
      let (s, next) := s.finish r o stage
      some (s.setJob r { j with routine := match next with
        | some stage => .finishing stage
        | none => .returned })

def step (s : Transport) : Action → Option Transport
  | .post r event =>
    if s.sessionActive ∧ s.jobs r = none then
      some ({ s with slots := r :: s.slots }.setJob r { event })
    else
      none
  | .submit r ok => (s.jobs r).bind fun j => s.submit r j ok
  | .work r status => (s.jobs r).bind fun j => s.work r j status
  | .complete r io =>
    (s.jobs r).bind fun j =>
      j.slot.bind fun o =>
        if j.routine = .driver then
          some ((s.setObject o { s.objects o with irp := some io }).setJob r
            { j with routine := .entered })
        else
          none
  | .routine r => (s.jobs r).bind fun j => s.routine r j
  | .deactivate => some { s with sessionActive := false }
  | .beginClose => if s.sessionActive then none else some { s with running := false }
  | .detach =>
    if s.running ∨ s.slots ≠ [] then none else some { s with attached := false }
  | .destroy =>
    if s.attached ∨ s.actives ≠ [] then
      none
    else
      match s.freeList with
      | [] => none
      | _ :: freeList => some { s with freeList }

end Transport

/-! ## Uses -/

/-- The steps that use the object. -/
def ReleaseStage.uses : ReleaseStage → Bool
  | .clearing | .inserting => true
  | .dereferencing => false

def FinishStage.uses : FinishStage → Bool
  | .completing _ | .releasingSlot => true
  | .releasing stage => stage.uses

def SubmitStage.uses : SubmitStage → Bool
  | .fitting | .preparing | .reserving | .allocating | .queueing => true
  | .releasing stage => stage.uses
  | _ => false

def WorkStage.uses : WorkStage → Bool
  | .queued | .calling | .swapping _ => true
  | .finishing stage => stage.uses
  | _ => false

def RoutineStage.uses : RoutineStage → Bool
  | .entered | .storing | .swapping => true
  | .finishing stage => stage.uses
  | _ => false

/-- The job that a step is of. -/
def Action.job : Action → Option Nat
  | .post r _ | .submit r _ | .work r _ | .complete r _ | .routine r => some r
  | _ => none

namespace Transport

/-- The job whose thread takes the step, and whether the step uses the object that it has. -/
def Uses (s : Transport) : Action → Nat → Nat → Prop
  | .submit r _, r', o => r = r' ∧ ∃ j, s.jobs r = some j ∧ j.slot = some o ∧ j.submit.uses = true
  | .work r _, r', o => r = r' ∧ ∃ j, s.jobs r = some j ∧ j.slot = some o ∧ j.work.uses = true
  | .complete r _, r', o => r = r' ∧ ∃ j, s.jobs r = some j ∧ j.slot = some o
  | .routine r, r', o => r = r' ∧ ∃ j, s.jobs r = some j ∧ j.slot = some o ∧ j.routine.uses = true
  | _, _, _ => False

end Transport

end YumeDisk.Kmdf.SlotTransport
