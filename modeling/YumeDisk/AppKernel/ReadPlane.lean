import Mathlib.Logic.Function.Basic
import YumeDisk.Miniport.Queue

/-!
# The read workers of a disk (`AppKernel/src/disk/ak_disk.c`)

A worker posts read slots to the driver; the driver fills one with a read event; the worker reads
the bytes into the slot's buffer, hands the buffer to an ack context, and posts the slot again.  The
driver takes the read off its queue when it handles the ack, and copies the buffer after it has
released the lock of the queue.

* `ReadWorker`: the slots, the ack contexts and the memory of a worker, and where its loop is.
* `ReadPlane.step`: the workers, the driver and the I/O between them, in any order.
* `returned`, `copied`: what `read_bytes` returned and what the driver copied, for each event.

The ticks of a retry are not followed: a context that waits is ready, or not, at any time.
-/

namespace YumeDisk.AppKernel

open Miniport

/-! ## Status codes -/

def statusUnsuccessful : NtStatus := -1073741823
def statusInsufficientResources : NtStatus := -1073741670
def statusDeviceNotReady : NtStatus := -1073741661

def isRecoverableSlotStatus (status : NtStatus) : Bool :=
  status == statusDeviceNotReady || status == statusCancelled

def isRecoverableReadAckStatus (status : NtStatus) : Bool :=
  isRecoverableSlotStatus status || status == statusNotFound

/-! ## Contexts -/

/-- `YUMEDISK_READ_SLOT_EVENT`. -/
structure ReadSlotEvent where
  eventId : Nat := 0
  lba : Nat := 0
  blockCount : Nat := 0
  dataLength : Nat := 0
deriving DecidableEq, Repr

/-- `AK_READ_SLOT_CONTEXT`; a buffer is an address in the memory of the worker. -/
structure ReadSlot where
  event : ReadSlotEvent := {}
  readDataBuffer : Nat
  readDataCapacity : Nat
  slotId : Nat := 0
  ioStatus : NtStatus := statusSuccess
  dataLength : Nat := 0
  active : Bool := false
  ackPending : Bool := false
deriving DecidableEq, Repr

/-- How the I/O of an ack ends: what `AkProtocolAsyncIoFinish` returns, and the status in the
message. -/
structure AckReply where
  finish : NtStatus
  message : NtStatus := statusSuccess
deriving DecidableEq, Repr

/-- `AK_READ_ACK_CONTEXT`; `reply` is set when its I/O is over. -/
structure ReadAckContext where
  eventId : Nat := 0
  ioStatus : NtStatus := statusSuccess
  dataLength : Nat := 0
  dataBuffer : Option Nat := none
  active : Bool := false
  hasPayload : Bool := false
  reply : Option AckReply := none
deriving DecidableEq, Repr

/-- Where the loop of a worker is. -/
inductive ReadPc
  | turn
  | begin (ackIndex : Nat)
  | post (slotIndex : Nat)
  | drain
  | closed
deriving DecidableEq, Repr

structure ReadWorker where
  slotCount : Nat
  slots : Nat → ReadSlot
  acks : Nat → ReadAckContext := fun _ => {}
  memory : Nat → Option (List UInt8)
  nextAddress : Nat
  shuttingDown : Bool := false
  pc : ReadPc := .turn

namespace ReadSlot

/-- `AkDiskResetReadSlotPendingState`. -/
def resetPendingState (slot : ReadSlot) : ReadSlot :=
  { slot with ackPending := false, event := {}, ioStatus := statusSuccess, dataLength := 0 }

end ReadSlot

namespace ReadAckContext

/-- `AkDiskResetReadAckPayload`. -/
def resetPayload (ack : ReadAckContext) : ReadAckContext :=
  { ack with
    hasPayload := false, eventId := 0, ioStatus := statusSuccess, dataLength := 0
    dataBuffer := none }

end ReadAckContext

/-- `AkDiskValidateReadSlotEvent`. -/
def validateReadSlotEvent (sectorSize : Nat) (event : ReadSlotEvent) : Bool :=
  event.eventId ≠ 0 && (event.dataLength = 0 || event.dataLength % sectorSize = 0) &&
    (event.blockCount = 0 || event.blockCount * sectorSize = event.dataLength)

namespace ReadWorker

/-- A worker with its buffers allocated. -/
def start (slotCount slotBytes : Nat) : ReadWorker where
  slotCount
  slots i := { readDataBuffer := i, readDataCapacity := slotBytes }
  memory i := if i < slotCount then some (List.replicate slotBytes 0) else none
  nextAddress := slotCount

def setSlot (w : ReadWorker) (i : Nat) (slot : ReadSlot) : ReadWorker :=
  { w with slots := Function.update w.slots i slot }

def setAck (w : ReadWorker) (k : Nat) (ack : ReadAckContext) : ReadWorker :=
  { w with acks := Function.update w.acks k ack }

/-! ## `AkDiskDispatchPendingReadAcks` -/

/-- The first ack context without a payload. -/
def freeAck (w : ReadWorker) : Option Nat :=
  (List.range w.slotCount).find? fun k => !(w.acks k).hasPayload && !(w.acks k).active

/-- The payload of slot `i` is handed to ack context `k`. -/
def handOver (w : ReadWorker) (i k : Nat) : ReadWorker :=
  let slot := w.slots i
  (w.setAck k { w.acks k with
    eventId := slot.event.eventId
    ioStatus := slot.ioStatus
    dataLength := slot.dataLength
    dataBuffer := some slot.readDataBuffer
    hasPayload := true }).setSlot i slot.resetPendingState

/-- The first loop; `false` when the ack contexts have run out. -/
def assignAcks (w : ReadWorker) : List Nat → ReadWorker × Bool
  | [] => (w, true)
  | i :: slots =>
    if !(w.slots i).ackPending then
      w.assignAcks slots
    else
      match w.freeAck with
      | none => (w, false)
      | some k => (w.handOver i k).assignAcks slots

/-! ## The loop -/

/-- The top of the loop. -/
def turn (w : ReadWorker) (stop : Bool) : ReadWorker :=
  if !w.shuttingDown && !stop then
    let (w, found) := w.assignAcks (List.range w.slotCount)
    { w with pc := if found then .begin 0 else .post 0 }
  else
    { w with
      shuttingDown := true
      slots := fun i => if (w.slots i).active then w.slots i else (w.slots i).resetPendingState
      acks := fun k => if (w.acks k).active then w.acks k else (w.acks k).resetPayload
      pc := .drain }

/-- A fatal status: the disk is broken. -/
def fail (w : ReadWorker) : ReadWorker := { w with shuttingDown := true, pc := .drain }

end ReadWorker

/-- How the start of an I/O goes: the context is not ready yet, the I/O is under way, or it could
not be started. -/
inductive BeginOutcome
  | notReady
  | sent
  | failed (status : NtStatus)
deriving DecidableEq, Repr

namespace ReadWorker

/-- One turn of the second loop of `AkDiskDispatchPendingReadAcks`, with
`AkDiskBeginReadAckAsync`. -/
def beginAck (w : ReadWorker) (k : Nat) (outcome : BeginOutcome) : ReadWorker :=
  let next := { w with pc := .begin (k + 1) }
  if k ≥ w.slotCount then
    { w with pc := .post 0 }
  else if !(w.acks k).hasPayload || (w.acks k).active then
    next
  else
    match outcome with
    | .notReady => next
    | .sent => next.setAck k { w.acks k with active := true, reply := none }
    | .failed status => if isRecoverableReadAckStatus status then next else w.fail

/-- `AkDiskHandleReadAckCompletion`. -/
def ackDone (w : ReadWorker) (k : Nat) (stop : Bool) : Option ReadWorker :=
  match (w.acks k).active, (w.acks k).reply with
  | true, some reply =>
    let ack := { w.acks k with active := false, reply := none }
    if reply.finish ≠ statusSuccess then
      if stop then
        some (w.setAck k ack.resetPayload)
      else if isRecoverableReadAckStatus reply.finish then
        some (w.setAck k ack)
      else
        some { w.setAck k ack with shuttingDown := true }
    else if reply.message ≠ statusSuccess ∧ isRecoverableReadAckStatus reply.message then
      some (w.setAck k ack)
    else
      some (w.setAck k ack.resetPayload)
  | _, _ => none

/-- `AkDiskEnsureReadBufferCapacity`; `none` when there is no memory. -/
def ensureReadBufferCapacity (w : ReadWorker) (i required : Nat) (allocated : Bool) :
    Option ReadWorker :=
  let slot := w.slots i
  if required ≤ slot.readDataCapacity then
    some w
  else if !allocated then
    none
  else
    some { w.setSlot i
        { slot with readDataBuffer := w.nextAddress, readDataCapacity := required } with
      memory := Function.update (Function.update w.memory slot.readDataBuffer none) w.nextAddress
        (some (List.replicate required 0))
      nextAddress := w.nextAddress + 1 }

/-- `read_bytes` writes to the front of the buffer. -/
def writeBuffer (w : ReadWorker) (address : Nat) (bytes : List UInt8) : ReadWorker :=
  { w with
    memory := Function.update w.memory address
      ((w.memory address).map fun old => bytes ++ old.drop bytes.length) }

end ReadWorker

/-- What `read_bytes` does: the bytes that it leaves in the buffer, its status and its length. -/
structure ReadResult where
  bytes : List UInt8
  status : NtStatus
  outLength : Nat
deriving DecidableEq, Repr

namespace ReadResult

/-- `AkDiskCopyReadData` without the buffer. -/
def copyStatus (result : ReadResult) (event : ReadSlotEvent) : NtStatus × Nat :=
  if result.status = statusSuccess ∧ result.outLength ≠ event.dataLength then
    (statusUnsuccessful, 0)
  else if result.status ≠ statusSuccess then
    (result.status, 0)
  else
    (result.status, result.outLength)

end ReadResult

namespace ReadWorker

/-- `AkDiskHandleReadSlotCompletion` with an event, and what `read_bytes` returned for it. -/
def slotFilled (w : ReadWorker) (sectorSize i : Nat) (event : ReadSlotEvent) (allocated : Bool)
    (result : ReadResult) : ReadWorker × Option (Nat × List UInt8) :=
  let slot := { w.slots i with active := false, slotId := 0, event }
  let w := w.setSlot i slot
  if !validateReadSlotEvent sectorSize event then
    (w.setSlot i slot.resetPendingState, none)
  else
    match w.ensureReadBufferCapacity i event.dataLength allocated with
    | none =>
      (w.setSlot i { slot with
        ioStatus := statusInsufficientResources, dataLength := 0, ackPending := true }, none)
    | some w =>
      let slot := w.slots i
      let (status, dataLength) := result.copyStatus event
      ((w.writeBuffer slot.readDataBuffer result.bytes).setSlot i
          { slot with ioStatus := status, dataLength, ackPending := true },
        if status = statusSuccess then some (event.eventId, result.bytes) else none)

/-- `AkDiskHandleReadSlotCompletion` without an event. -/
def slotFailed (w : ReadWorker) (i : Nat) (status : NtStatus) (stop : Bool) : ReadWorker :=
  let slot := { w.slots i with active := false, slotId := 0 }
  if stop then
    w.setSlot i slot.resetPendingState
  else if isRecoverableSlotStatus status then
    w.setSlot i slot
  else
    { w.setSlot i slot with shuttingDown := true }

/-- A context has an I/O under way. -/
def anyActive (w : ReadWorker) : Bool :=
  (List.range w.slotCount).any fun i => (w.slots i).active || (w.acks i).active

/-- The end of the loop; the buffers are freed when it is left. -/
def leaveDrain (w : ReadWorker) : ReadWorker :=
  if w.shuttingDown && !w.anyActive then
    { w with
      memory := fun a =>
        if (List.range w.slotCount).any fun i => (w.slots i).readDataBuffer == a then none
        else w.memory a
      pc := .closed }
  else
    { w with pc := .turn }

end ReadWorker

/-! ## Workers and driver -/

/-- The I/O of a posted slot: the event that the driver wrote, or a failure. -/
abbrev SlotReply := Except NtStatus ReadSlotEvent

/-- A read that the handler of an ack has taken off the queue and not yet copied. -/
structure TakenRead where
  worker : Nat
  ackIndex : Nat
  request : ReadRequest
deriving DecidableEq, Repr

structure ReadPlane where
  workers : Nat → ReadWorker
  queue : QueueState := {}
  nextEventId : Nat := 0
  nextTxId : Nat := 1
  slotReply : Nat → Option SlotReply := fun _ => none
  taken : List TakenRead := []
  returned : List (Nat × List UInt8) := []
  copied : List (Nat × Option (List UInt8)) := []

inductive ReadAction
  /-- `DiskQueueReadSrb`. -/
  | queueRead (srb lba blockCount dataLength : Nat)
  /-- `DiskDrainReadSlots` fills a slot. -/
  | fillSlot
  /-- The slots and the reads are completed by a reset or a removal. -/
  | sweep (status : NtStatus)
  /-- The I/O of a slot fails. -/
  | slotFails (slotId : Nat) (status : NtStatus)
  /-- The driver looks for the read of an ack, and takes it; a reply may be lost. -/
  | takeAck (worker ackIndex : Nat) (lost : Option NtStatus)
  /-- The driver copies, and completes the read that it has taken. -/
  | copyAck (worker ackIndex : Nat) (lost : Option NtStatus)
  /-- The I/O of an ack fails before the driver handles it. -/
  | ackFails (worker ackIndex : Nat) (status : NtStatus)
  | turn (worker : Nat) (stop : Bool)
  | beginAck (worker : Nat) (outcome : BeginOutcome)
  | postSlot (worker : Nat) (outcome : BeginOutcome)
  | ackDone (worker ackIndex : Nat) (stop : Bool)
  | slotDone (worker slotIndex : Nat) (stop allocated : Bool) (result : ReadResult)
  | leaveDrain (worker : Nat)
deriving DecidableEq, Repr

namespace ReadPlane

def setWorker (p : ReadPlane) (n : Nat) (w : ReadWorker) : ReadPlane :=
  { p with workers := Function.update p.workers n w }

/-- The event that `DiskWriteReadSlotEvent` writes. -/
def slotEvent (request : ReadRequest) : ReadSlotEvent where
  eventId := request.eventId
  lba := request.lba
  blockCount := request.blockCount
  dataLength := request.dataLength

/-- The read that the handler of an ack has taken. -/
def takenRead (p : ReadPlane) (n k : Nat) : Option TakenRead :=
  p.taken.find? fun r => r.worker = n ∧ r.ackIndex = k

/-- The reads that are to be copied: those that a handler has taken, and those in the queue. -/
def unread (p : ReadPlane) : List Nat :=
  p.taken.map (fun r => r.request.eventId) ++ p.queue.readIds

/-- The I/O of an ack is over. -/
def replyAck (p : ReadPlane) (n k : Nat) (finish : NtStatus) : ReadPlane :=
  p.setWorker n ((p.workers n).setAck k { (p.workers n).acks k with reply := some { finish } })

/-- `DiskHandleReadAckIoctl` up to the release of `ReadQueueLock`. -/
def takeAck (p : ReadPlane) (n k : Nat) (lost : Option NtStatus) : Option ReadPlane :=
  let ack := (p.workers n).acks k
  if ack.active ∧ ack.reply = none ∧ p.takenRead n k = none then
    match p.queue.takeRead ack.eventId with
    | none => some (p.replyAck n k (lost.getD statusNotFound))
    | some (queue, request) => some { p with queue, taken := ⟨n, k, request⟩ :: p.taken }
  else
    none

/-- The rest of `DiskHandleReadAckIoctl`, with the buffer that the request maps. -/
def copyAck (p : ReadPlane) (n k : Nat) (lost : Option NtStatus) : Option ReadPlane :=
  (p.takenRead n k).map fun r =>
    let ack := (p.workers n).acks k
    let p := { p with taken := p.taken.filter fun r => ¬ (r.worker = n ∧ r.ackIndex = k) }
    if ntSuccess ack.ioStatus then
      match ack.dataBuffer with
      | some address =>
        -- without data the request maps no buffer
        if ack.dataLength ≠ r.request.dataLength ∨ ack.dataLength = 0 then
          p.replyAck n k (lost.getD statusInvalidParameter)
        else
          let content := ((p.workers n).memory address).map fun bytes => bytes.take ack.dataLength
          { p with copied := p.copied ++ [(r.request.eventId, content)] }.replyAck n k
            (lost.getD statusSuccess)
      | none => p.replyAck n k (lost.getD statusInvalidParameter)
    else
      p.replyAck n k (lost.getD statusSuccess)

/-- One turn of the loop that posts the slots, with `AkDiskPostReadSlotAsync`. -/
def postSlot (p : ReadPlane) (n i : Nat) (outcome : BeginOutcome) : ReadPlane :=
  let w := p.workers n
  let next := { w with pc := .post (i + 1) }
  if i ≥ w.slotCount then
    p.setWorker n { w with pc := .drain }
  else if (w.slots i).active || (w.slots i).ackPending then
    p.setWorker n next
  else
    match outcome with
    | .notReady => p.setWorker n next
    | .sent =>
      { p.setWorker n (next.setSlot i
          { w.slots i with slotId := p.nextTxId, event := {}, active := true }) with
        nextTxId := p.nextTxId + 1
        queue := p.queue.insertReadSlot
          { srb := p.nextTxId, slotId := p.nextTxId, kernelVa := 1, capacity := 32 } }
    | .failed status =>
      let next := next.setSlot i { w.slots i with slotId := 0, event := {} }
      { p.setWorker n (if isRecoverableSlotStatus status then next else next.fail) with
        nextTxId := p.nextTxId + 1 }

/-- `AkDiskHandleReadSlotCompletion`. -/
def slotDone (p : ReadPlane) (sectorSize n i : Nat) (stop allocated : Bool) (result : ReadResult) :
    Option ReadPlane :=
  let w := p.workers n
  let slotId := (w.slots i).slotId
  let finished := { p with slotReply := Function.update p.slotReply slotId none }
  match (w.slots i).active, p.slotReply slotId with
  | true, some (.error status) => some (finished.setWorker n (w.slotFailed i status stop))
  | true, some (.ok event) =>
    if result.bytes.length = event.dataLength then
      let (w, read) := w.slotFilled sectorSize i event allocated result
      some { finished.setWorker n w with returned := p.returned ++ read.toList }
    else
      none
  | _, _ => none

/-- The slots of a sweep are failed. -/
def failSlots (p : ReadPlane) (slots : List PostedSlot) (status : NtStatus) : ReadPlane :=
  { p with
    slotReply := slots.foldl (fun f slot => Function.update f slot.slotId (some (.error status)))
      p.slotReply }

/-- One step; the workers have `sectorSize`. -/
def step (sectorSize : Nat) (p : ReadPlane) : ReadAction → Option ReadPlane
  | .queueRead srb lba blockCount dataLength =>
    let eventId := p.nextEventId + 1
    some { p with
      nextEventId := eventId
      queue := p.queue.insertRead (allocReadRequest srb eventId lba blockCount dataLength) }
  | .fillSlot =>
    p.queue.reserveRead.map fun (queue, request, slot) =>
      { p with
        queue
        slotReply := Function.update p.slotReply slot.slotId (some (.ok (slotEvent request))) }
  | .sweep status =>
    match p.queue.sweepReads with
    | (queue, _, slots) => some ({ p with queue }.failSlots slots status)
  | .slotFails slotId status =>
    some ({ p with queue := p.queue.cancelReadSlot slotId }.failSlots
      (p.queue.postedReadSlots.filter fun slot => slot.slotId = slotId) status)
  | .takeAck n k lost => p.takeAck n k lost
  | .copyAck n k lost => p.copyAck n k lost
  | .ackFails n k status =>
    let ack := (p.workers n).acks k
    if ack.active ∧ ack.reply = none ∧ p.takenRead n k = none ∧ status ≠ statusSuccess then
      some (p.replyAck n k status)
    else
      none
  | .turn n stop =>
    if (p.workers n).pc = .turn then some (p.setWorker n ((p.workers n).turn stop)) else none
  | .beginAck n outcome =>
    match (p.workers n).pc with
    | .begin k => some (p.setWorker n ((p.workers n).beginAck k outcome))
    | _ => none
  | .postSlot n outcome =>
    match (p.workers n).pc with
    | .post i => some (p.postSlot n i outcome)
    | _ => none
  | .ackDone n k stop =>
    if (p.workers n).pc = .drain then
      ((p.workers n).ackDone k stop).map (p.setWorker n)
    else
      none
  | .slotDone n i stop allocated result =>
    if (p.workers n).pc = .drain then p.slotDone sectorSize n i stop allocated result else none
  | .leaveDrain n =>
    if (p.workers n).pc = .drain then
      some (p.setWorker n (p.workers n).leaveDrain)
    else
      none

end ReadPlane

end YumeDisk.AppKernel
