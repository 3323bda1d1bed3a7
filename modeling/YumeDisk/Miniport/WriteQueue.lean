import YumeDisk.Lib.Tiling
import YumeDisk.Miniport.Device

/-!
# The write queue of a target (`queue/write/write.c`, `queue/slot/slot.c`)

The writes of one target, from `DiskQueueWriteSrb` to `DiskCompleteWriteRequest`.  Every step is one
section under `WriteQueueLock`, so any number of drains, ack batches and resets may be under way:
the ranges of a batch are steps of their own, and what a batch has finished waits in `deferred`.

Taken as a whole are: the write of a fragment with the section that reserves it, since it is made
of fields that no section changes afterwards; `DiskResetQueueTargetState`; and the two reads of
`SectorSize`, which is fixed.  `RemoveAllDisks` with the close flag leaves `nextEventId` alone here;
`Device.advance` resets it.

* `writeWriteSlotPayload`: what a slot is filled with.
* `WriteTarget.step`: the sections.
* `WriteTarget.issued`, `WriteTarget.acked`: the history, which the code does not keep.
-/

namespace YumeDisk.Miniport

open Lib (Bytes slice)

/-! ## Fragments -/

def ulongModulus : Nat := maxUlong + 1

def statusBufferTooSmall : NtStatus := -1073741789

/-- `YUMEDISK_WRITE_SLOT_HEADER` and its data. -/
structure WriteSlotPayload where
  eventId : Nat
  seq : Nat
  totalSeq : Nat
  lba : Nat
  byteOffsetInWrite : Nat
  dataLength : Nat
  data : Bytes
deriving DecidableEq, Repr

/-- `DiskWriteWriteSlotPayload`; a `ULONG` wraps around. -/
def writeWriteSlotPayload (sourceBuffer : Bytes)
    (eventId baseLba totalBytes payloadBytes totalSeq seq sectorSize : Nat) (slot : PostedSlot) :
    Except NtStatus WriteSlotPayload :=
  if slot.kernelVa = 0 ∨ payloadBytes = 0 ∨ totalSeq = 0 ∨ sectorSize = 0 then
    throw statusInvalidParameter
  else
    let byteOffset := seq * payloadBytes % ulongModulus
    let remainingBytes := (totalBytes + ulongModulus - byteOffset) % ulongModulus
    let fragmentBytes := if remainingBytes < payloadBytes then remainingBytes else payloadBytes
    if slot.capacity < (writeSlotHeaderBaseSize + fragmentBytes) % ulongModulus then
      throw statusBufferTooSmall
    else
      return {
        eventId, seq, totalSeq
        lba := (baseLba + byteOffset / sectorSize) % 2 ^ 64
        byteOffsetInWrite := byteOffset
        dataLength := fragmentBytes
        data := slice sourceBuffer byteOffset fragmentBytes }

/-- How `DiskCompleteWriteRequest` completes the SRB. -/
def WriteRequest.completion (request : WriteRequest) : Completion :=
  if ntSuccess request.finalStatus then
    { srb := request.srb, status := statusSuccess, dataTransferLength := request.totalBytes }
  else
    { srb := request.srb, status := request.finalStatus, dataTransferLength := 0 }

/-! ## The target -/

/-- A slot that `DiskDrainWriteSlots` has filled. -/
structure IssuedSlot where
  eventId : Nat
  seq : Nat
  payload : Except NtStatus WriteSlotPayload

/-- A sequence number of a range that was accepted. -/
structure AckedSeq where
  eventId : Nat
  seq : Nat
  success : Bool
deriving DecidableEq, Repr

structure WriteTarget where
  sectorSize : Nat
  queue : QueueState := {}
  nextEventId : Nat := 0
  nextSrb : Nat := 0
  /-- The requests that `DiskQueueWriteSrb` has made and not inserted. -/
  arriving : List WriteRequest := []
  /-- The requests that are off the queue and not completed. -/
  deferred : List WriteRequest := []
  completed : List WriteRequest := []
  issued : List IssuedSlot := []
  acked : List AckedSeq := []

namespace WriteTarget

/-- Every request that was admitted. -/
def requests (s : WriteTarget) : List WriteRequest :=
  s.arriving ++ s.queue.pendingWrites ++ s.deferred ++ s.completed

/-- `DiskQueueWriteSrb` up to the lock. -/
def queueWriteSrb (s : WriteTarget) (lba blockCount : Nat) (dataLength : UInt32) : WriteTarget :=
  let eventId := s.nextEventId + 1
  let request :=
    allocWriteRequest s.nextSrb eventId lba blockCount dataLength.toNat s.sectorSize
  match request with
  | none => { s with nextEventId := eventId }
  | some request =>
    { s with
      nextEventId := eventId
      nextSrb := s.nextSrb + 1
      arriving := s.arriving ++ [request] }

/-- The section of `DiskQueueWriteSrb`. -/
def insert (s : WriteTarget) (i : Nat) : Option WriteTarget :=
  (s.arriving[i]?).map fun request =>
    { s with arriving := s.arriving.eraseIdx i, queue := s.queue.insertWrite request }

/-- `DiskHandleSubmitSlotIoctl` for a write slot. -/
def submitSlot (s : WriteTarget) (srb slotId kernelVa : Nat) (capacity : UInt32) : WriteTarget :=
  let payloadBytes := computeWritePayloadBytes s.sectorSize capacity.toNat
  if kernelVa = 0 ∨ payloadBytes = 0 then
    s
  else
    match s.queue.insertWriteSlot { srb, slotId, kernelVa, capacity := capacity.toNat }
      payloadBytes with
    | .error _ => s
    | .ok queue => { s with queue }

/-- One turn of `DiskDrainWriteSlots`. -/
def drain (dataBuffer : Nat → Bytes) (s : WriteTarget) : WriteTarget :=
  match s.queue.reserveWrite with
  | (queue, none) => { s with queue }
  | (queue, some (request, seq, slot)) =>
    { s with
      queue
      issued := s.issued ++ [{
        eventId := request.eventId
        seq
        payload := writeWriteSlotPayload (dataBuffer request.srb) request.eventId request.baseLba
          request.totalBytes request.payloadBytes request.totalSeq seq s.sectorSize slot }] }

/-- One range of `DiskHandleWriteAckBatchIoctl`. -/
def ackRange (s : WriteTarget) (range : WriteAckRange) : WriteTarget :=
  match s.queue.ackRange range with
  | (queue, status, completed) =>
    if ntSuccess status then
      { s with
        queue
        deferred := s.deferred ++ completed.toList
        acked := s.acked ++ range.seqs.map fun seq =>
          { eventId := range.eventId, seq, success := ntSuccess range.ioStatus } }
    else
      { s with queue }

/-- A reset or a removal takes everything off the queue. -/
def sweepWrites (s : WriteTarget) (sweep : Sweep) : WriteTarget :=
  match s.queue.sweepWrites with
  | (queue, writes, _) =>
    { s with
      queue
      deferred := s.deferred ++ writes.map fun request =>
        { request with finalStatus := sweep.status } }

/-- `DiskCompleteWriteRequest`. -/
def complete (s : WriteTarget) (i : Nat) : Option WriteTarget :=
  (s.deferred[i]?).map fun request =>
    { s with deferred := s.deferred.eraseIdx i, completed := s.completed ++ [request] }

inductive Action
  | queueWrite (lba blockCount : Nat) (dataLength : UInt32)
  /-- An event id is taken for another queue, or for a request that could not be allocated. -/
  | nextEvent
  | insert (i : Nat)
  | submitSlot (srb slotId kernelVa : Nat) (capacity : UInt32)
  | cancelSlot (slotId : Nat)
  | drain
  | ackRange (range : WriteAckRange)
  | sweep (sweep : Sweep)
  | complete (i : Nat)
deriving DecidableEq, Repr

/-- One section. -/
def step (dataBuffer : Nat → Bytes) (s : WriteTarget) : Action → Option WriteTarget
  | .queueWrite lba blockCount dataLength => some (s.queueWriteSrb lba blockCount dataLength)
  | .nextEvent => some { s with nextEventId := s.nextEventId + 1 }
  | .insert i => s.insert i
  | .submitSlot srb slotId kernelVa capacity => some (s.submitSlot srb slotId kernelVa capacity)
  | .cancelSlot slotId => some { s with queue := s.queue.cancelWriteSlot slotId }
  | .drain => some (s.drain dataBuffer)
  | .ackRange range => some (s.ackRange range)
  | .sweep sweep => some (s.sweepWrites sweep)
  | .complete i => s.complete i

/-- A target just created. -/
def init (sectorSize : Nat) : WriteTarget := { sectorSize }

end WriteTarget

end YumeDisk.Miniport
