import Mathlib.Logic.Function.Basic
import YumeDisk.Miniport.Queue

/-!
# The device and its threads (`control/control.c`, `queue/`, `scsi/scsi.c`, `adapter/adapter.c`)

The miniport is full duplex: SCSI requests, IOCTLs and resets run at the same time on any number of
threads.  A step is one section under a spin lock, with what the thread does alone up to the next
one; completions of SRBs are steps of their own, since they are made outside the locks.

* `Task`: where a thread is, with the requests in its hands.
* `Device.advance`: its next step.
* `Device.step`: a call arrives, or a thread takes its next step.

An SRB that is accepted gets the number `nextSrb`.  The SRBs of the slots are not followed.
-/

namespace YumeDisk.Miniport

/-- `YUMEDISK_MAX_TARGETS`; all of them are usable. -/
def maxTargets : Nat := 255

/-- The disk of a target. -/
structure Disk where
  present : Bool := false
  configured : Bool := false
  sectorSize : Nat := 0
  sectorCount : Nat := 0
  queue : QueueState := {}
deriving DecidableEq, Repr

structure Completion where
  srb : Nat
  status : NtStatus
  dataTransferLength : Nat
deriving DecidableEq, Repr

structure ReadAck where
  eventId : Nat
  dataLength : Nat
  kernelVa : Nat
  ioStatus : NtStatus
deriving DecidableEq, Repr

structure WriteAckFailure where
  rangeIndex : Nat
  status : NtStatus
deriving DecidableEq, Repr

/-- `YUMEDISK_WRITE_ACK_BATCH_RESULT_SIZE`. -/
def writeAckBatchResultSize (failureCount : Nat) : Nat := 8 + failureCount * 8

inductive SlotType
  | read
  | write
deriving DecidableEq, Repr

/-- Who runs `DiskCompleteTargetPending`. -/
inductive Sweep
  | removeDisk
  | removeAllDisks (closeSession : Bool)
  | reset
deriving DecidableEq, Repr

namespace Sweep

def status : Sweep → NtStatus
  | removeDisk => statusDeviceNotConnected
  | removeAllDisks _ => statusDeviceNotConnected
  | reset => statusCancelled

def isRemoval : Sweep → Bool
  | reset => false
  | _ => true

end Sweep

/-- Where a thread is. -/
inductive Task
  | insertRead (target : Nat) (request : ReadRequest)
  | insertWrite (target : Nat) (request : WriteRequest)
  | insertReadSlot (target : Nat) (slot : PostedSlot)
  | insertWriteSlot (target : Nat) (slot : PostedSlot) (payloadBytes : Nat)
  /-- The drain loops; `srb` is the request that is being dispatched, if any. -/
  | drainReads (target : Nat) (srb : Option Nat)
  | drainWrites (target : Nat) (srb : Option Nat)
  /-- `DiskHandleScsiCdb` sets the status of the SRB to pending, -/
  | setPending (srb : Nat)
  /-- and `DiskHandleExecuteScsi` completes it if it is not. -/
  | checkPending (srb : Nat)
  | completeRead (request : ReadRequest) (status : NtStatus)
  | ackWrites (target index : Nat) (ranges : List WriteAckRange) (payloadCapacity : Nat)
      (failures : List WriteAckFailure) (deferred : List WriteRequest)
  | completeDeferred (deferred : List WriteRequest)
  /-- The first loop of `DiskHandleRemoveAllDisks`. -/
  | deactivate (closeSession : Bool) (targets : List Nat)
  | sweepReads (sweep : Sweep) (targets : List Nat)
  | sweepWrites (sweep : Sweep) (target : Nat) (targets : List Nat) (reads : List ReadRequest)
  | completeSwept (sweep : Sweep) (targets : List Nat) (reads : List ReadRequest)
      (writes : List WriteRequest)
  | freeQueuedState (closeSession : Bool) (targets : List Nat)
deriving DecidableEq, Repr

/-- The targets of the loops over all. -/
def allTargets : List Nat := List.range maxTargets

/-- What a sweep returns to. -/
def Sweep.next : Sweep → Option Task
  | .removeAllDisks closeSession => some (.freeQueuedState closeSession allTargets)
  | _ => none

structure Device where
  disk : Nat → Disk := fun _ => {}
  nextEventId : Nat := 0
  nextSrb : Nat := 0
  /-- `Srb->SrbStatus` is `SRB_STATUS_PENDING`. -/
  srbPending : Nat → Bool := fun _ => false
  tasks : Nat → Option Task := fun _ => none
  nextTask : Nat := 0
  completed : List Completion := []

namespace Device

def queue (d : Device) (target : Nat) : QueueState := (d.disk target).queue

def setDisk (d : Device) (target : Nat) (disk : Disk) : Device :=
  { d with disk := Function.update d.disk target disk }

def setQueue (d : Device) (target : Nat) (q : QueueState) : Device :=
  d.setDisk target { d.disk target with queue := q }

def setTask (d : Device) (th : Nat) (task : Option Task) : Device :=
  { d with tasks := Function.update d.tasks th task }

/-- A call arrives on a thread of its own. -/
def spawn (d : Device) (task : Task) : Device :=
  { d.setTask d.nextTask (some task) with nextTask := d.nextTask + 1 }

/-! ## Completions -/

/-- `DiskCompleteScsiSrb`. -/
def completeScsiSrb (d : Device) (srb : Nat) (status : NtStatus) (dataTransferLength : Nat) :
    Device :=
  { d with
    srbPending := Function.update d.srbPending srb false
    completed := d.completed ++
      [{ srb, status, dataTransferLength := if ntSuccess status then dataTransferLength else 0 }] }

def completeReadRequest (d : Device) (request : ReadRequest) (status : NtStatus) : Device :=
  if ntSuccess status then
    d.completeScsiSrb request.srb statusSuccess request.dataLength
  else
    d.completeScsiSrb request.srb status 0

def completeWriteRequest (d : Device) (request : WriteRequest) : Device :=
  if ntSuccess request.finalStatus then
    d.completeScsiSrb request.srb statusSuccess request.totalBytes
  else
    d.completeScsiSrb request.srb request.finalStatus 0

/-! ## Reads and writes -/

/-- `DiskQueueReadSrb` up to the lock; an SRB that is refused is not followed. -/
def queueReadSrb (d : Device) (target lba blockCount dataLength : Nat) (allocated : Bool) :
    Device :=
  if target ≥ maxTargets then
    d
  else if !(d.disk target).present || !(d.disk target).configured then
    d
  else
    let eventId := d.nextEventId + 1
    let d := { d with nextEventId := eventId }
    if !allocated then
      d
    else
      { d with nextSrb := d.nextSrb + 1 }.spawn
        (.insertRead target (allocReadRequest d.nextSrb eventId lba blockCount dataLength))

/-- `DiskQueueWriteSrb` up to the lock. -/
def queueWriteSrb (d : Device) (target lba blockCount dataLength : Nat) (allocated : Bool) :
    Device :=
  if target ≥ maxTargets then
    d
  else if !(d.disk target).present || !(d.disk target).configured then
    d
  else
    let eventId := d.nextEventId + 1
    let sectorSize := (d.disk target).sectorSize
    let d := { d with nextEventId := eventId }
    match allocated, allocWriteRequest d.nextSrb eventId lba blockCount dataLength sectorSize with
    | true, some request => { d with nextSrb := d.nextSrb + 1 }.spawn (.insertWrite target request)
    | _, _ => d

/-- `DiskHandleSubmitSlotIoctl` up to the lock. -/
def submitSlot (d : Device) (target : Nat) (slotType : SlotType) (slot : PostedSlot) : Device :=
  if slot.kernelVa = 0 ∨ target ≥ maxTargets then
    d
  else if !(d.disk target).present || !(d.disk target).configured then
    d
  else
    match slotType with
    -- `sizeof(YUMEDISK_READ_SLOT_EVENT)`
    | .read => if slot.capacity < 32 then d else d.spawn (.insertReadSlot target slot)
    | .write =>
      let payloadBytes := computeWritePayloadBytes (d.disk target).sectorSize slot.capacity
      if payloadBytes = 0 then d else d.spawn (.insertWriteSlot target slot payloadBytes)

/-- `DiskHandleCancelSlotIoctl`. -/
def cancelSlot (d : Device) (target : Nat) (slotType : SlotType) (slotId : Nat) : Device :=
  if target ≥ maxTargets then
    d
  else
    match slotType with
    | .read => d.setQueue target ((d.queue target).cancelReadSlot slotId)
    | .write => d.setQueue target ((d.queue target).cancelWriteSlot slotId)

/-- How an acked read is completed. -/
def ackStatus (request : ReadRequest) (ack : ReadAck) : NtStatus :=
  if ntSuccess ack.ioStatus then
    if ack.dataLength ≠ request.dataLength ∨ ack.kernelVa = 0 then
      statusInvalidParameter
    else
      statusSuccess
  else
    ack.ioStatus

/-- `DiskHandleReadAckIoctl` up to the completion. -/
def readAck (d : Device) (target : Nat) (ack : ReadAck) : Device :=
  if target ≥ maxTargets then
    d
  else
    match (d.queue target).takeRead ack.eventId with
    | none => d
    | some (q, request) =>
      (d.setQueue target q).spawn (.completeRead request (ackStatus request ack))

/-- `DiskHandleWriteAckBatchIoctl` up to its loop. -/
def writeAckBatch (d : Device) (target : Nat) (ranges : List WriteAckRange)
    (payloadCapacity : Nat) : Device :=
  if target ≥ maxTargets ∨ ranges = [] then
    d
  else
    d.spawn (.ackWrites target 0 ranges payloadCapacity [] [])

/-! ## Creation and removal -/

/-- `DiskHandleCreateDisk`. -/
def createDisk (d : Device) (target sectorSize sectorCount : Nat) : Device :=
  if target ≥ maxTargets ∨ sectorSize = 0 ∨ sectorCount = 0 ∨
      sectorCount > 18446744073709551615 / sectorSize then
    d
  else if (d.disk target).present then
    d
  else
    d.setDisk target { d.disk target with sectorSize, sectorCount, configured := true, present := true }

/-- `DiskDeactivateTarget`. -/
def deactivateTarget (d : Device) (target : Nat) : Device × Bool :=
  if target ≥ maxTargets then
    (d, false)
  else if !(d.disk target).present then
    (d, false)
  else
    (d.setDisk target { d.disk target with configured := false, present := false }, true)

/-- `DiskHandleRemoveDisk` up to its sweep. -/
def removeDisk (d : Device) (target : Nat) : Device :=
  match d.deactivateTarget target with
  | (d, true) => d.spawn (.sweepReads .removeDisk [target])
  | (d, false) => d

/-! ## Threads -/

/-- The next step of a thread at `task`, and where it is then; `none` when it has returned. -/
def advance (d : Device) : Task → Device × Option Task
  | .insertRead t request =>
    (d.setQueue t ((d.queue t).insertRead request), some (.drainReads t (some request.srb)))
  | .insertWrite t request =>
    (d.setQueue t ((d.queue t).insertWrite request), some (.drainWrites t (some request.srb)))
  | .insertReadSlot t slot =>
    (d.setQueue t ((d.queue t).insertReadSlot slot), some (.drainReads t none))
  | .insertWriteSlot t slot payloadBytes =>
    match (d.queue t).insertWriteSlot slot payloadBytes with
    | .error _ => (d, none)
    | .ok q => (d.setQueue t q, some (.drainWrites t none))
  | .drainReads t srb =>
    match (d.queue t).reserveRead with
    | none => (d, srb.map Task.setPending)
    | some (q, _, _) => (d.setQueue t q, some (.drainReads t srb))
  | .drainWrites t srb =>
    match (d.queue t).reserveWrite with
    | (q, none) => (d.setQueue t q, srb.map Task.setPending)
    | (q, some _) => (d.setQueue t q, some (.drainWrites t srb))
  | .setPending srb =>
    ({ d with srbPending := Function.update d.srbPending srb true }, some (.checkPending srb))
  | .checkPending srb =>
    if d.srbPending srb then (d, none) else (d.completeScsiSrb srb statusSuccess 0, none)
  | .completeRead request status => (d.completeReadRequest request status, none)
  | .ackWrites _ _ [] _ _ deferred => (d, some (.completeDeferred deferred))
  | .ackWrites t index (range :: ranges) payloadCapacity failures deferred =>
    match (d.queue t).ackRange range with
    | (q, status, completed) =>
      let d := d.setQueue t q
      if ntSuccess status then
        (d, some (.ackWrites t (index + 1) ranges payloadCapacity failures
          (deferred ++ completed.toList)))
      else if writeAckBatchResultSize (failures.length + 1) > payloadCapacity then
        (d, some (.completeDeferred deferred))
      else
        (d, some (.ackWrites t (index + 1) ranges payloadCapacity
          (failures ++ [{ rangeIndex := index, status }]) deferred))
  | .completeDeferred [] => (d, none)
  | .completeDeferred (request :: deferred) =>
    (d.completeWriteRequest request, some (.completeDeferred deferred))
  | .deactivate closeSession [] =>
    (d, some (.sweepReads (.removeAllDisks closeSession) allTargets))
  | .deactivate closeSession (t :: targets) =>
    ((d.deactivateTarget t).1, some (.deactivate closeSession targets))
  | .sweepReads sweep [] => (d, sweep.next)
  | .sweepReads sweep (t :: targets) =>
    match (d.queue t).sweepReads with
    | (q, reads, _) => (d.setQueue t q, some (.sweepWrites sweep t targets reads))
  | .sweepWrites sweep t targets reads =>
    match (d.queue t).sweepWrites with
    | (q, writes, _) => (d.setQueue t q, some (.completeSwept sweep targets reads writes))
  | .completeSwept sweep targets (request :: reads) writes =>
    (d.completeReadRequest request sweep.status,
      some (.completeSwept sweep targets reads writes))
  | .completeSwept sweep targets [] (request :: writes) =>
    (d.completeWriteRequest { request with finalStatus := sweep.status },
      some (.completeSwept sweep targets [] writes))
  | .completeSwept sweep targets [] [] => (d, some (.sweepReads sweep targets))
  | .freeQueuedState closeSession [] =>
    ({ d with nextEventId := if closeSession then 0 else d.nextEventId }, none)
  | .freeQueuedState closeSession (t :: targets) =>
    (d.setQueue t {}, some (.freeQueuedState closeSession targets))

def runTask (d : Device) (th : Nat) (task : Task) : Device :=
  (d.advance task).1.setTask th (d.advance task).2

/-- What happens at the device. -/
inductive Action
  | createDisk (target sectorSize sectorCount : Nat)
  | queueRead (target lba blockCount dataLength : Nat) (allocated : Bool)
  | queueWrite (target lba blockCount dataLength : Nat) (allocated : Bool)
  | submitSlot (target : Nat) (slotType : SlotType) (slot : PostedSlot)
  | cancelSlot (target : Nat) (slotType : SlotType) (slotId : Nat)
  | readAck (target : Nat) (ack : ReadAck)
  | writeAckBatch (target : Nat) (ranges : List WriteAckRange) (payloadCapacity : Nat)
  | removeDisk (target : Nat)
  | removeAllDisks (closeSession : Bool)
  /-- A reset of a unit, or of the bus. -/
  | reset (target : Option Nat)
  | run (th : Nat)
deriving DecidableEq, Repr

/-- One step of the device. -/
def step (d : Device) : Action → Option Device
  | .createDisk t sectorSize sectorCount => some (d.createDisk t sectorSize sectorCount)
  | .queueRead t lba blockCount dataLength allocated =>
    some (d.queueReadSrb t lba blockCount dataLength allocated)
  | .queueWrite t lba blockCount dataLength allocated =>
    some (d.queueWriteSrb t lba blockCount dataLength allocated)
  | .submitSlot t slotType slot => some (d.submitSlot t slotType slot)
  | .cancelSlot t slotType slotId => some (d.cancelSlot t slotType slotId)
  | .readAck t ack => some (d.readAck t ack)
  | .writeAckBatch t ranges payloadCapacity => some (d.writeAckBatch t ranges payloadCapacity)
  | .removeDisk t => some (d.removeDisk t)
  | .removeAllDisks closeSession => some (d.spawn (.deactivate closeSession allTargets))
  | .reset (some t) => some (if t ≥ maxTargets then d else d.spawn (.sweepReads .reset [t]))
  | .reset none => some (d.spawn (.sweepReads .reset allTargets))
  | .run th => (d.tasks th).map (d.runTask th)

end Device

end YumeDisk.Miniport
