import YumeDisk.AppKernel.WriteTally
import YumeDisk.Backend.Staging
import YumeDisk.Miniport.Scsi

/-!
# A disk, from the commands of the host to its media

The driver, AppKernel and the backend of one disk.  A WRITE is cut into fragments, each of which a
worker stages in the store of the backend (`host_stage_write`); the signal loop commits or rejects
the write when its final response comes.  A READ is answered from the media and the store
(`host_read_bytes`).  Every step is one section under the lock of the runtime of the disk, or one
section of the write plane.

* `DiskMetadata`: what `validate_disk_config` lets through.
* `DiskPlane.step`: the steps, in any order.
* `DiskPlane.reads`, `writes`, `commits`: the history, which the code does not keep.

A command that the target refuses before it is parsed, and a read whose slot or ack fails, touch
nothing; they are not followed.
-/

namespace YumeDisk.Backend

open Lib (Bytes slice)
open Miniport AppKernel

/-- The parameters of a disk. -/
structure DiskMetadata where
  sectorSize : Nat
  diskSizeBytes : Nat
  readOnly : Bool
  writeSlotBytes : Nat
  queueDepth : Nat
  ackBatchMaxRanges : Nat
  sector_pos : 0 < sectorSize
  aligned : 512 ∣ sectorSize
  size_pos : 0 < diskSizeBytes
  sectors : sectorSize ∣ diskSizeBytes
  sector_lt : sectorSize < 2 ^ 32
  size_lt : diskSizeBytes < u64Modulus

namespace DiskMetadata

/-- What the driver is told of the size of the disk. -/
def sectorCount (disk : DiskMetadata) : Nat := disk.diskSizeBytes / disk.sectorSize

theorem sectorCount_mul (disk : DiskMetadata) :
    disk.sectorCount * disk.sectorSize = disk.diskSizeBytes := Nat.div_mul_cancel disk.sectors

/-- The size is a whole number of 512 bytes, so it is not `u64::MAX`. -/
theorem size_lt_max (disk : DiskMetadata) : disk.diskSizeBytes < u64Modulus - 1 := by
  have hdvd := disk.aligned.trans disk.sectors
  have hlt := disk.size_lt
  unfold u64Modulus at hlt ⊢
  omega

def params (disk : DiskMetadata) : WriteParams where
  sectorSize := disk.sectorSize
  writeSlotBytes := disk.writeSlotBytes
  ackBatchMaxRanges := disk.ackBatchMaxRanges

/-- `OffsetBytes` of `AkDiskStageWriteSlot` and `AkDiskCopyReadData`: a product of `UINT64`. -/
def offsetBytes (disk : DiskMetadata) (lba : Nat) : Nat := lba * disk.sectorSize % u64Modulus

theorem offsetBytes_lt (disk : DiskMetadata) (lba : Nat) : disk.offsetBytes lba < u64Modulus :=
  Nat.mod_lt _ (by decide)

end DiskMetadata

/-- A read that was answered, and the bytes of the media it was answered from. -/
structure ReadDone where
  lba : Nat
  blockCount : Nat
  touched : Option (Nat × Nat)
  status : NtStatus
  data : Bytes
deriving DecidableEq, Repr

/-- `AK_STATUS_UNSUCCESSFUL` for a media that cannot be read. -/
inductive MediaRead
  | ok
  | failed
deriving DecidableEq, Repr

structure DiskPlane where
  disk : DiskMetadata
  plane : WritePlane
  media : Nat → UInt8
  staging : StagingStore := {}
  /-- The number of final responses that the signal loop has handled. -/
  handled : Nat := 0
  reads : List ReadDone := []
  writes : List MediaWrite := []
  /-- The writes that were committed, and whether the media took them. -/
  commits : List (Nat × Bool) := []

namespace DiskPlane

/-- `host_read_bytes`, for a slot event that has the fields of the command. -/
def hostReadBytes (s : DiskPlane) (lba blockCount dataLength : Nat) (result : MediaRead) :
    ReadDone :=
  let requestBegin := s.disk.offsetBytes lba
  if dataLength = 0 then
    { lba, blockCount, touched := none, status := statusSuccess, data := [] }
  else if !rangeFits requestBegin dataLength s.disk.diskSizeBytes then
    { lba, blockCount, touched := none, status := statusInvalidParameter, data := [] }
  else
    match result with
    | .failed =>
      { lba, blockCount, touched := some (requestBegin, dataLength), status := statusUnsuccessful,
        data := [] }
    | .ok =>
      { lba, blockCount, touched := some (requestBegin, dataLength), status := statusSuccess
        data := s.staging.overlayRead requestBegin (Lib.readAt s.media requestBegin dataLength) }

/-- The `AkWriteOp` that a slot header is made into. -/
def writeOp (disk : DiskMetadata) (header : WriteSlotPayload) : WriteOp where
  eventId := header.eventId
  seq := header.seq
  totalSeq := header.totalSeq
  offsetBytes := disk.offsetBytes header.lba
  dataLength := header.dataLength

/-- `stage_write` for the fragment of a worker, which then knows its status. -/
def stageWrite (s : DiskPlane) (k : Nat) : Option DiskPlane :=
  match s.plane.staging[k]? with
  | some { header, decided := none } =>
    let (staging, status) := s.staging.stageWrite (writeOp s.disk header) header.data
      s.disk.diskSizeBytes
    some { s with
      staging
      plane := { s.plane with
        staging := s.plane.staging.set k { header, decided := some status } } }
  | _ => none

/-- `handle_appkernel_response` for the next final response. -/
def respond (s : DiskPlane) (write : Nat → Option Nat) : Option DiskPlane :=
  (s.plane.track.responses[s.handled]?).map fun response =>
    if response.committed then
      let (ok, staging, media, writes) :=
        s.staging.commit response.eventId s.disk.diskSizeBytes write s.media
      { s with
        staging
        media
        handled := s.handled + 1
        writes := s.writes ++ writes
        commits := s.commits ++ [(response.eventId, ok)] }
    else
      { s with staging := s.staging.reject response.eventId, handled := s.handled + 1 }

inductive Action
  /-- A WRITE is dispatched. -/
  | write (cdb : Cdb) (transferLength : UInt32)
  /-- A READ is dispatched, and a read worker answers it. -/
  | read (cdb : Cdb) (transferLength : UInt32) (result : MediaRead)
  /-- A section of the driver or of AppKernel. -/
  | plane (a : WritePlane.Action)
  | stageWrite (k : Nat)
  /-- The ack of a fragment is queued. -/
  | enqueue (k : Nat) (enqueued : Bool)
  /-- The signal loop handles a response. -/
  | respond (write : Nat → Option Nat)

/-- One section. -/
def step (dataBuffer : Nat → Bytes) (s : DiskPlane) : Action → Option DiskPlane
  | .write cdb transferLength =>
    if readWriteOp (cdbOpcode cdb) ≠ some .write ∨ s.disk.readOnly then
      none
    else
      match parseReadWriteCdb s.disk.sectorSize cdb transferLength with
      | none => none
      | some (lba, blockCount) =>
        (s.plane.step dataBuffer (.driver (.queueWrite lba blockCount transferLength))).map
          fun plane => { s with plane }
  | .read cdb transferLength result =>
    if readWriteOp (cdbOpcode cdb) ≠ some .read then
      none
    else
      match parseReadWriteCdb s.disk.sectorSize cdb transferLength with
      | none => none
      | some (lba, blockCount) =>
        some { s with
          reads := s.reads ++ [s.hostReadBytes lba blockCount transferLength.toNat result] }
  | .plane (.driver (.queueWrite ..)) => none
  | .plane (.stage ..) => none
  | .plane a => (s.plane.step dataBuffer a).map fun plane => { s with plane }
  | .stageWrite k => s.stageWrite k
  | .enqueue k enqueued =>
    match s.plane.staging[k]? with
    | some { decided := some status, .. } =>
      (s.plane.stage k status enqueued).map fun plane => { s with plane }
    | _ => none
  | .respond write => s.respond write

/-- A disk just created. -/
def init (disk : DiskMetadata) (media : Nat → UInt8) : DiskPlane where
  disk
  plane := .init disk.params disk.queueDepth
  media

end DiskPlane

end YumeDisk.Backend
