import YumeDisk.Lib.History
import YumeDisk.Lib.Run
import YumeDisk.Miniport.IoControl
import YumeDisk.Miniport.Scsi

/-!
# The commands of a target (`scsi/scsi.c`, `core/protocol.c`, `control/control.c`)

* `dispatch`: what `DiskHandleScsiCdb` makes of a command, with what it writes to the buffers.
* `Adapter.step`: the commands and the IOCTLs that create, change and remove disks, each in a thread
  of its own; a step is what is done between two accesses to the flag of a change.
* `replies_inside`: **what is written stays in the buffers**, but for two kinds of INQUIRY.
* `attention_exact`: **a change of the data is reported once**, before any command that looks for it
  goes on.
-/

namespace YumeDisk.Miniport.Scsi

open Lib (Bytes EachAfter eachAfter_concat eachAfter_nil exists_run runFrom run_inv)

/-! ## Codes -/

def scsiopTestUnitReady : UInt8 := 0x00
def scsiopRequestSense : UInt8 := 0x03
def scsiopInquiry : UInt8 := 0x12
def scsiopModeSense : UInt8 := 0x1A
def scsiopStartStopUnit : UInt8 := 0x1B
def scsiopMediumRemoval : UInt8 := 0x1E
def scsiopReadCapacity : UInt8 := 0x25
def scsiopVerify : UInt8 := 0x2F
def scsiopSynchronizeCache : UInt8 := 0x35
def scsiopModeSense10 : UInt8 := 0x5A
def scsiopVerify16 : UInt8 := 0x8F
def scsiopReadCapacity16 : UInt8 := 0x9E
def scsiopReportLuns : UInt8 := 0xA0

def statusPending : NtStatus := 259
def statusDeviceDoesNotExist : NtStatus := -1073741632
def statusNoSuchDevice : NtStatus := -1073741810
def statusObjectNameCollision : NtStatus := -1073741771

inductive SrbStatus
  | pending
  | success
  | error
  | invalidRequest
  | noDevice
  | invalidTargetId
  | dataOverrun
deriving DecidableEq, Repr

inductive ScsiStatus
  | good
  | checkCondition
deriving DecidableEq, Repr

/-- `DiskMapQueueFailureToSrbStatus`. -/
def mapQueueFailureToSrbStatus (status : NtStatus) : SrbStatus :=
  if status ∈ [statusDeviceNotConnected, statusDeviceDoesNotExist, statusNoSuchDevice,
      statusNotFound] then
    .noDevice
  else if status ∈ [statusBufferTooSmall, statusInvalidParameter, statusInvalidDeviceRequest] then
    .invalidRequest
  else
    .error

/-! ## Commands -/

/-- The fields of `YUME_DISK` that are read here, as `DiskInitializeAdapter` leaves them. -/
structure Disk where
  sectorSize : UInt32 := 512
  sectorCount : UInt64 := 0
  configured : Bool := false
  present : Bool := false
  readOnly : Bool := false
  pendingDataChangedUa : Bool := false
deriving DecidableEq, Repr

/-- What `DiskHandleExecuteScsi` passes on; the length of the sense buffer is zero where there is
none. -/
structure Command where
  targetId : UInt8
  cdb : Cdb
  transferLength : UInt32
  senseInfoBufferLength : UInt8
deriving DecidableEq, Repr

def Command.opcode (r : Command) : UInt8 := r.cdb.get 0

/-- What a command leaves in its SRB. -/
structure Reply where
  srbStatus : SrbStatus := .success
  scsiStatus : ScsiStatus := .good
  dataTransferLength : Nat := 0
  /-- What is written to the data buffer, and where. -/
  writes : List (Nat × Bytes) := []
  /-- What is written to the sense buffer. -/
  sense : Bytes := []
deriving DecidableEq, Repr

/-- `DiskFillWriteProtectedSense` and `DiskFillUnitAttentionSenseDataChanged`. -/
def fillSense (senseKey asc : UInt8) (senseInfoBufferLength : Nat) : Bytes :=
  let senseLength := min senseInfoBufferLength 18
  ((((List.replicate senseLength 0).set 0 0x70).set 2 senseKey).set 7
    (UInt8.ofNat (senseLength - 8))).set 12 asc

def fillWriteProtectedSense : Nat → Bytes := fillSense 0x07 0x27

def fillUnitAttentionSenseDataChanged : Nat → Bytes := fillSense 0x06 0x28

/-- `REVERSE_BYTES_4`. -/
def reverseBytes4 (n : UInt32) : Bytes :=
  [.ofNat (n.toNat / 256 ^ 3), .ofNat (n.toNat / 256 ^ 2), .ofNat (n.toNat / 256), .ofNat n.toNat]

/-- `REVERSE_BYTES_8`. -/
def reverseBytes8 (n : UInt64) : Bytes :=
  [.ofNat (n.toNat / 256 ^ 7), .ofNat (n.toNat / 256 ^ 6), .ofNat (n.toNat / 256 ^ 5),
    .ofNat (n.toNat / 256 ^ 4), .ofNat (n.toNat / 256 ^ 3), .ofNat (n.toNat / 256 ^ 2),
    .ofNat (n.toNat / 256), .ofNat n.toNat]

/-- `DiskHandleReportLuns`; `sizeof(REPORT_LUNS_DATA)` is 16. -/
def handleReportLuns (transferLength : Nat) : Reply :=
  let returnLength := min transferLength 16
  { srbStatus := if transferLength < 16 then .dataOverrun else .success
    dataTransferLength := returnLength
    writes := [(0, (reverseBytes4 8 ++ List.replicate 4 0 ++ reverseBytes8 0).take returnLength)] }

/-- The first 36 bytes of `INQUIRYDATA`. -/
def inquiryData : Bytes :=
  [0, 0, 5, 0, 0, 0, 0, 2] ++ [0x5A, 0x69, 0x67, 0x68, 0x74, 0x63, 0x68, 0] ++
    [0x59, 0x75, 0x6D, 0x65, 0x44, 0x69, 0x73, 0x6B] ++ List.replicate 8 0x20 ++
    [0x31, 0x2E, 0x30, 0x20]

/-- `VersionDescriptors[0]` and `[1]` of `INQUIRYDATA`, two little-endian `USHORT` at 58. -/
def versionDescriptors : Nat × Bytes := (58, [0x60, 0x09, 0x60, 0x00])

/-- The page `VPD_BLOCK_DEVICE_CHARACTERISTICS`, of 64 bytes. -/
def blockDeviceCharacteristicsPage : Bytes := [0, 0xB1, 0, 0x3C, 0, 1] ++ List.replicate 58 0

/-- `DiskHandleInquiry`. -/
def handleInquiry (cdb : Cdb) (transferLength : Nat) : Reply :=
  if cdb.get 1 &&& 1 ≠ 0 then
    if cdb.get 2 = 0 then
      -- the header of the page and the two pages after it
      let returnLength := min transferLength (4 + 2)
      if returnLength < 4 then
        { srbStatus := .dataOverrun }
      else
        { dataTransferLength := returnLength
          writes := [(0, [0, 0, 0, 2]), (4, [0]), (5, [0xB1])] }
    else if cdb.get 2 = 0xB1 then
      let returnLength := min transferLength 64
      if returnLength < 8 then
        { srbStatus := .dataOverrun }
      else
        { dataTransferLength := returnLength
          writes := [(0, blockDeviceCharacteristicsPage.take returnLength)] }
    else
      { srbStatus := .invalidRequest }
  else if transferLength < 36 then
    { srbStatus := .dataOverrun }
  else
    { dataTransferLength := 36, writes := [(0, inquiryData), versionDescriptors] }

/-- `DiskHandleReadCapacity10`. -/
def handleReadCapacity10 (d : Disk) (transferLength : Nat) : Reply :=
  if transferLength < 8 then
    { srbStatus := .dataOverrun }
  else
    let maxLba64 := d.sectorCount - 1
    let maxLba32 := if maxLba64.toNat ≥ maxUlong then 0xFFFFFFFF else maxLba64.toUInt32
    { dataTransferLength := 8
      writes := [(0, reverseBytes4 maxLba32 ++ reverseBytes4 d.sectorSize)] }

/-- `DiskHandleReadCapacity16`; 12, 16 and 32 bytes are `READ_CAPACITY_DATA_EX`,
`READ_CAPACITY16_DATA` up to `Reserved3`, and all of it. -/
def handleReadCapacity16 (d : Disk) (cdb : Cdb) (transferLength : Nat) : Reply :=
  if cdb.get 1 &&& 0x1F ≠ 0x10 then
    { srbStatus := .invalidRequest }
  else if transferLength < 12 then
    { srbStatus := .dataOverrun }
  else
    let returnedLength := if transferLength < 16 then 12 else if transferLength < 32 then 16 else 32
    { dataTransferLength := returnedLength
      writes := [(0, reverseBytes8 (d.sectorCount - 1) ++ reverseBytes4 d.sectorSize ++
        List.replicate (returnedLength - 12) 0)] }

/-- `DiskHandleRequestSense`, and the flag. -/
def handleRequestSense (pendingDataChangedUa : Bool) (transferLength : Nat) : Reply × Bool :=
  let senseLength := min transferLength 18
  if senseLength = 0 then
    ({}, pendingDataChangedUa)
  else if pendingDataChangedUa then
    ({ dataTransferLength := senseLength
       writes := [(0, fillUnitAttentionSenseDataChanged senseLength)] }, false)
  else
    ({ dataTransferLength := senseLength, writes := [(0, fillSense 0 0 senseLength)] }, false)

/-- `DiskHandleModeSense`. -/
def handleModeSense (transferLength requiredLength lengthByteIndex : Nat) (lengthValue : UInt8)
    (deviceSpecificParameterIndex : Nat) (readOnly : Bool) : Reply :=
  if transferLength < requiredLength then
    { srbStatus := .dataOverrun }
  else
    let page := (List.replicate requiredLength 0).set lengthByteIndex lengthValue
    { dataTransferLength := requiredLength
      writes := [(0, if readOnly then page.set deviceSpecificParameterIndex 0x80 else page)] }

/-- What a READ or a WRITE makes of the status of `DiskQueueReadSrb` or `DiskQueueWriteSrb`. -/
def queued (d : Disk) (r : Command) (queueStatus : NtStatus) : Reply :=
  match parseReadWriteCdb d.sectorSize.toNat r.cdb r.transferLength with
  | none => { srbStatus := .invalidRequest, scsiStatus := .checkCondition }
  | some _ =>
    if queueStatus = statusPending then
      { srbStatus := .pending }
    else if !ntSuccess queueStatus then
      { srbStatus := mapQueueFailureToSrbStatus queueStatus, scsiStatus := .checkCondition }
    else
      { dataTransferLength := r.transferLength.toNat }

/-- The commands that `DiskHandleScsiCdb` checks for a change of the data. -/
def checksAttention (opcode : UInt8) : Bool :=
  opcode ∈ [scsiopReadCapacity, scsiopReadCapacity16, scsiopTestUnitReady, scsiopModeSense,
    scsiopModeSense10, scsiopVerify, scsiopVerify16] || (readWriteOp opcode).isSome

/-- `DiskTryReturnPendingDataChangedUa`, when the change has been consumed. -/
def unitAttention (senseInfoBufferLength : Nat) : Reply where
  srbStatus := .error
  scsiStatus := .checkCondition
  sense := fillUnitAttentionSenseDataChanged senseInfoBufferLength

/-- `DiskHandleScsiCdb` after that check; with the flag then. -/
def dispatch (d : Disk) (r : Command) (queueStatus : NtStatus) : Reply × Bool :=
  let transferLength := r.transferLength.toNat
  let kept := fun reply : Reply => (reply, d.pendingDataChangedUa)
  if r.opcode = scsiopReportLuns then
    kept (handleReportLuns transferLength)
  else if r.opcode = scsiopInquiry then
    kept (handleInquiry r.cdb transferLength)
  else if r.opcode = scsiopReadCapacity then
    kept (handleReadCapacity10 d transferLength)
  else if r.opcode = scsiopReadCapacity16 then
    kept (handleReadCapacity16 d r.cdb transferLength)
  else if r.opcode = scsiopRequestSense then
    handleRequestSense d.pendingDataChangedUa transferLength
  else if r.opcode = scsiopModeSense then
    kept (handleModeSense transferLength 4 0 3 2 d.readOnly)
  else if r.opcode = scsiopModeSense10 then
    kept (handleModeSense transferLength 8 1 6 3 d.readOnly)
  else if r.opcode ∈ [scsiopTestUnitReady, scsiopMediumRemoval, scsiopStartStopUnit,
      scsiopSynchronizeCache, scsiopVerify, scsiopVerify16] then
    kept {}
  else
    match readWriteOp r.opcode with
    | some .read => kept (queued d r queueStatus)
    | some .write =>
      if d.readOnly then
        kept { srbStatus := .error
               scsiStatus := .checkCondition
               sense := fillWriteProtectedSense r.senseInfoBufferLength.toNat }
      else
        kept (queued d r queueStatus)
    | none => kept { srbStatus := .invalidRequest }

/-! ## The buffers -/

/-- The command has written to the data buffer and to the sense buffer, and to nothing else. -/
structure Reply.Inside (r : Command) (reply : Reply) : Prop where
  writes : ∀ w ∈ reply.writes, w.1 + w.2.length ≤ r.transferLength.toNat
  length : reply.dataTransferLength ≤ r.transferLength.toNat
  sense : reply.sense.length ≤ r.senseInfoBufferLength.toNat

/-- The INQUIRYs that write to more than the buffer: of the standard data where the buffer ends
before the version descriptors, and of the supported pages where it ends in the list. -/
def Overruns (r : Command) : Prop :=
  r.opcode = scsiopInquiry ∧
    (r.cdb.get 1 &&& 1 = 0 ∧ 36 ≤ r.transferLength.toNat ∧ r.transferLength.toNat < 62 ∨
      r.cdb.get 1 &&& 1 ≠ 0 ∧ r.cdb.get 2 = 0 ∧ 4 ≤ r.transferLength.toNat ∧
        r.transferLength.toNat < 6)

instance (r : Command) : Decidable (Overruns r) := inferInstanceAs (Decidable (_ ∧ _))

@[simp] theorem length_fillSense (senseKey asc : UInt8) (n : Nat) :
    (fillSense senseKey asc n).length = min n 18 := by
  simp only [fillSense, List.length_set, List.length_replicate]

section Inside

variable {r : Command} {n : Nat}

/-- A reply that writes one piece, from the start of the buffer. -/
theorem inside_prefix {bytes sense : Bytes} {status : SrbStatus} {scsiStatus : ScsiStatus}
    (hbytes : bytes.length ≤ r.transferLength.toNat) (hn : n ≤ r.transferLength.toNat)
    (hsense : sense.length ≤ r.senseInfoBufferLength.toNat) :
    Reply.Inside r ⟨status, scsiStatus, n, [(0, bytes)], sense⟩ where
  writes w hw := by
    obtain rfl := List.mem_singleton.mp hw
    rwa [Nat.zero_add]
  length := hn
  sense := hsense

/-- A reply that writes nothing to the data buffer. -/
theorem inside_empty {sense : Bytes} {status : SrbStatus} {scsiStatus : ScsiStatus}
    (hn : n ≤ r.transferLength.toNat) (hsense : sense.length ≤ r.senseInfoBufferLength.toNat) :
    Reply.Inside r ⟨status, scsiStatus, n, [], sense⟩ :=
  ⟨nofun, hn, hsense⟩

theorem inside_queued (d : Disk) (queueStatus : NtStatus) :
    (queued d r queueStatus).Inside r := by
  unfold queued
  split
  · exact inside_empty (Nat.zero_le _) (Nat.zero_le _)
  split_ifs
  · exact inside_empty (Nat.zero_le _) (Nat.zero_le _)
  · exact inside_empty (Nat.zero_le _) (Nat.zero_le _)
  · exact inside_empty le_rfl (Nat.zero_le _)

theorem inside_modeSense {required : Nat} (index : Nat) (value : UInt8) (parameter : Nat)
    (readOnly : Bool) :
    (handleModeSense r.transferLength.toNat required index value parameter readOnly).Inside r := by
  unfold handleModeSense
  split_ifs with hshort
  · exact inside_empty (Nat.zero_le _) (Nat.zero_le _)
  · refine inside_prefix ?_ (not_lt.mp hshort) (Nat.zero_le _)
    simpa using not_lt.mp hshort
  · refine inside_prefix ?_ (not_lt.mp hshort) (Nat.zero_le _)
    simpa using not_lt.mp hshort

theorem inside_inquiry (hop : r.opcode = scsiopInquiry) :
    (handleInquiry r.cdb r.transferLength.toNat).Inside r ↔
      ¬ (Overruns r ∧ (handleInquiry r.cdb r.transferLength.toNat).srbStatus = .success) := by
  have hfailed : ∀ {reply : Reply}, reply.Inside r → reply.srbStatus ≠ .success →
      (reply.Inside r ↔ ¬ (Overruns r ∧ reply.srbStatus = .success)) :=
    fun hin hne => ⟨fun _ h => hne h.2, fun _ => hin⟩
  generalize hreply : handleInquiry r.cdb r.transferLength.toNat = reply
  unfold handleInquiry at hreply
  dsimp only at hreply
  split_ifs at hreply with hvital hpage hshort hpage' hshort' hshort'' <;> subst hreply
  · exact hfailed (inside_empty (Nat.zero_le _) (Nat.zero_le _)) nofun
  · -- the header fits, the list of pages may not
    constructor
    · rintro h ⟨⟨-, ⟨hzero, -⟩ | ⟨-, -, -, hlt⟩⟩, -⟩
      · exact hvital hzero
      · have hlast : 5 + 1 ≤ r.transferLength.toNat := h.writes (5, [0xB1]) (by simp)
        omega
    · intro h
      have hlong : 6 ≤ r.transferLength.toNat := by
        by_contra hlt
        exact h ⟨⟨hop, .inr ⟨hvital, hpage, by omega, by omega⟩⟩, rfl⟩
      refine ⟨fun w hw => ?_, min_le_left _ _, Nat.zero_le _⟩
      simp only [List.mem_cons, List.not_mem_nil, or_false] at hw
      rcases hw with rfl | rfl | rfl <;>
        · simp only [List.length_cons, List.length_nil]
          omega
  · exact hfailed (inside_empty (Nat.zero_le _) (Nat.zero_le _)) nofun
  · refine ⟨fun _ h => ?_, fun _ => inside_prefix ?_ (min_le_left _ _) (Nat.zero_le _)⟩
    · obtain ⟨⟨-, ⟨hzero, -⟩ | ⟨-, hpage'', -⟩⟩, -⟩ := h
      · exact hvital hzero
      · exact hpage hpage''
    · rw [List.length_take]
      omega
  · exact hfailed (inside_empty (Nat.zero_le _) (Nat.zero_le _)) nofun
  · exact hfailed (inside_empty (Nat.zero_le _) (Nat.zero_le _)) nofun
  · have hzero : r.cdb.get 1 &&& 1 = 0 := not_not.mp hvital
    constructor
    · rintro h ⟨⟨-, ⟨-, -, hlt⟩ | ⟨hvital', -⟩⟩, -⟩
      · have hlast := h.writes versionDescriptors (by simp)
        simp only [versionDescriptors, List.length_cons, List.length_nil] at hlast
        omega
      · exact hvital' hzero
    · intro h
      have hlong : 62 ≤ r.transferLength.toNat := by
        by_contra hlt
        exact h ⟨⟨hop, .inl ⟨hzero, by omega, by omega⟩⟩, rfl⟩
      refine ⟨fun w hw => ?_, show 36 ≤ _ by omega, Nat.zero_le _⟩
      simp only [List.mem_cons, List.not_mem_nil, or_false] at hw
      rcases hw with rfl | rfl
      · change 0 + 36 ≤ _
        omega
      · simp only [versionDescriptors, List.length_cons, List.length_nil]
        omega

/-- **What a command writes**, whatever the disk is like. -/
theorem inside_dispatch (d : Disk) (r : Command) (queueStatus : NtStatus) :
    (dispatch d r queueStatus).1.Inside r ↔
      ¬ (Overruns r ∧ (dispatch d r queueStatus).1.srbStatus = .success) := by
  have hother : r.opcode ≠ scsiopInquiry → ∀ reply : Reply, reply.Inside r →
      (reply.Inside r ↔ ¬ (Overruns r ∧ reply.srbStatus = .success)) :=
    fun hne reply hin => ⟨fun _ h => hne h.1.1, fun _ => hin⟩
  by_cases hinquiry : r.opcode = scsiopInquiry
  · have hne : ¬ r.opcode = scsiopReportLuns := by rw [hinquiry]; decide
    simp only [dispatch, if_neg hne, if_pos hinquiry]
    exact inside_inquiry hinquiry
  · refine hother hinquiry _ ?_
    simp only [dispatch, if_neg hinquiry]
    split_ifs
    · refine inside_prefix ?_ (min_le_left _ _) (Nat.zero_le _)
      rw [List.length_take]
      omega
    · unfold handleReadCapacity10
      split_ifs with hshort
      · exact inside_empty (Nat.zero_le _) (Nat.zero_le _)
      · exact inside_prefix (by simp [reverseBytes4]; omega) (by omega) (Nat.zero_le _)
    · unfold handleReadCapacity16
      split_ifs with hservice hshort hmiddle hlong
      · exact inside_empty (Nat.zero_le _) (Nat.zero_le _)
      · exact inside_empty (Nat.zero_le _) (Nat.zero_le _)
      all_goals
        refine inside_prefix ?_ (by omega) (Nat.zero_le _)
        simp [reverseBytes4, reverseBytes8]
        omega
    · unfold handleRequestSense
      dsimp only
      split_ifs
      · exact inside_empty (Nat.zero_le _) (Nat.zero_le _)
      · refine inside_prefix ?_ (min_le_left _ _) (Nat.zero_le _)
        rw [fillUnitAttentionSenseDataChanged, length_fillSense]
        omega
      · refine inside_prefix ?_ (min_le_left _ _) (Nat.zero_le _)
        rw [length_fillSense]
        omega
    · exact inside_modeSense 0 3 2 d.readOnly
    · exact inside_modeSense 1 6 3 d.readOnly
    · exact inside_empty (Nat.zero_le _) (Nat.zero_le _)
    · split
      · exact inside_queued d queueStatus
      · refine inside_empty (Nat.zero_le _) ?_
        rw [fillWriteProtectedSense, length_fillSense]
        exact min_le_left _ _
      · exact inside_empty (Nat.zero_le _) (Nat.zero_le _)
    · split
      · exact inside_queued d queueStatus
      · exact inside_queued d queueStatus
      · exact inside_empty (Nat.zero_le _) (Nat.zero_le _)

end Inside

/-! ## Commands and IOCTLs at once -/

/-- `YUMEDISK_CREATE_DISK`, but for what is not read. -/
structure CreateDisk where
  targetId : UInt32
  sectorSize : UInt32
  readOnly : UInt32
  sectorCount : UInt64
deriving DecidableEq, Repr

/-- What a thread is about to do. -/
inductive Task
  | preCheck (r : Command)
  | dispatch (r : Command)
  /-- `DiskTryMarkPendingDataChangedUa`. -/
  | mark (targetId : Nat)
  /-- `DiskHandleCreateDisk` and `DiskDeactivateTarget` up to their stores to the flag. -/
  | create (request : CreateDisk)
  | deactivate (targetId : Nat)
  | clear (targetId : Nat)
deriving DecidableEq, Repr

inductive Event
  /-- A NOTIFY_DATA_CHANGED succeeded; `first` tells whether the media status was notified. -/
  | changed (targetId : Nat) (first : Bool)
  /-- The initiator was told, by a unit attention or by the data of a REQUEST SENSE. -/
  | reported (targetId : Nat)
  /-- The disk was created or removed. -/
  | cleared (targetId : Nat)
  /-- A command found nothing to report, and goes on. -/
  | passed (r : Command)
  | replied (r : Command) (reply : Reply)
  | failed (status : NtStatus)
deriving DecidableEq, Repr

structure Adapter where
  disk : Nat → Disk := fun _ => {}
  tasks : Nat → Option Task := fun _ => none
  nextTask : Nat := 0
  log : List Event := []

namespace Adapter

def emit (s : Adapter) (e : Event) : Adapter := { s with log := s.log ++ [e] }

def spawn (s : Adapter) (task : Task) : Adapter :=
  { s with tasks := Function.update s.tasks s.nextTask (some task), nextTask := s.nextTask + 1 }

def goOn (s : Adapter) (th : Nat) (task : Option Task) : Adapter :=
  { s with tasks := Function.update s.tasks th task }

def setDisk (s : Adapter) (targetId : Nat) (d : Disk) : Adapter :=
  { s with disk := Function.update s.disk targetId d }

def setPending (s : Adapter) (targetId : Nat) (pending : Bool) : Adapter :=
  s.setDisk targetId { s.disk targetId with pendingDataChangedUa := pending }

/-- `DiskIsTargetVisible`; `Extension->MaxTargets` is 255. -/
def isTargetVisible (s : Adapter) (targetId : Nat) : Bool :=
  targetId < 255 && (s.disk targetId).configured && (s.disk targetId).present

/-- `DiskHandleNotifyDataChanged` up to its access to the flag. -/
def notifyDataChanged (s : Adapter) (payloadLength : UInt32) (targetId : Nat) : Adapter :=
  if payloadLength ≠ 0 then
    s.emit (.failed statusInvalidParameter)
  else if 255 ≤ targetId then
    s.emit (.failed statusInvalidParameter)
  else if !s.isTargetVisible targetId then
    s.emit (.failed statusNotFound)
  else
    s.spawn (.mark targetId)

/-- `DiskHandleCreateDisk` up to its stores; `sizeof(YUMEDISK_CREATE_DISK)` is 32. -/
def createDisk (s : Adapter) (payloadLength : UInt32) (request : CreateDisk) : Adapter :=
  if payloadLength < 32 then
    s.emit (.failed statusInvalidParameter)
  else if 255 ≤ request.targetId.toNat ∨ request.sectorSize = 0 ∨ request.sectorCount = 0 ∨
      request.sectorCount.toNat > (2 ^ 64 - 1) / request.sectorSize.toNat then
    s.emit (.failed statusInvalidParameter)
  else if (s.disk request.targetId.toNat).present then
    s.emit (.failed statusObjectNameCollision)
  else
    s.spawn (.create request)

/-- `DiskDeactivateTarget` up to its stores, for `DiskHandleRemoveDisk` and for each target of
`DiskHandleRemoveAllDisks`. -/
def deactivateTarget (s : Adapter) (targetId : Nat) : Adapter :=
  if 255 ≤ targetId ∨ !(s.disk targetId).present then s else s.spawn (.deactivate targetId)

/-- The next step of a thread; `queueStatus` is what the queues make of a READ or a WRITE. -/
def perform (s : Adapter) (th : Nat) (queueStatus : NtStatus) : Task → Adapter
  | .preCheck r =>
    let targetId := r.targetId.toNat
    if (s.disk targetId).pendingDataChangedUa then
      (((s.setPending targetId false).goOn th none).emit (.reported targetId)).emit
        (.replied r (unitAttention r.senseInfoBufferLength.toNat))
    else
      (s.goOn th (some (.dispatch r))).emit (.passed r)
  | .dispatch r =>
    let targetId := r.targetId.toNat
    let (reply, pending) := Scsi.dispatch (s.disk targetId) r queueStatus
    let s' := (s.setPending targetId pending).goOn th none
    if (s.disk targetId).pendingDataChangedUa && !pending then
      (s'.emit (.reported targetId)).emit (.replied r reply)
    else
      s'.emit (.replied r reply)
  | .mark targetId =>
    ((s.setPending targetId true).goOn th none).emit
      (.changed targetId !(s.disk targetId).pendingDataChangedUa)
  | .create request =>
    let targetId := request.targetId.toNat
    (s.setDisk targetId { s.disk targetId with
      sectorSize := request.sectorSize
      sectorCount := request.sectorCount
      readOnly := request.readOnly ≠ 0
      configured := true
      present := true }).goOn th (some (.clear targetId))
  | .deactivate targetId =>
    (s.setDisk targetId { s.disk targetId with
      configured := false, present := false, readOnly := false }).goOn th
        (some (.clear targetId))
  | .clear targetId =>
    ((s.setPending targetId false).goOn th none).emit (.cleared targetId)

inductive Action
  | executeScsi (r : Command)
  | notifyDataChanged (payloadLength : UInt32) (targetId : Nat)
  | createDisk (payloadLength : UInt32) (request : CreateDisk)
  | deactivateTarget (targetId : Nat)
  | run (th : Nat) (queueStatus : NtStatus)
deriving DecidableEq, Repr

def step (s : Adapter) : Action → Option Adapter
  | .executeScsi r =>
    if !s.isTargetVisible r.targetId.toNat then
      some (s.emit (.replied r { srbStatus := .invalidTargetId }))
    else if checksAttention r.opcode then
      some (s.spawn (.preCheck r))
    else
      some (s.spawn (.dispatch r))
  | .notifyDataChanged payloadLength targetId => some (s.notifyDataChanged payloadLength targetId)
  | .createDisk payloadLength request => some (s.createDisk payloadLength request)
  | .deactivateTarget targetId => some (s.deactivateTarget targetId)
  | .run th queueStatus => (s.tasks th).map (s.perform th queueStatus)

end Adapter

/-! ## What the initiator is told -/

/-- After that event there is nothing to report. -/
def Event.Settles (targetId : Nat) (e : Event) : Prop :=
  e = .reported targetId ∨ e = .cleared targetId

/-- A change that the initiator has not been told of. -/
def Outstanding (targetId : Nat) (log : List Event) : Prop :=
  ∃ before first after, log = before ++ .changed targetId first :: after ∧
    ∀ e ∈ after, ¬ e.Settles targetId

/-- An event, given those before it: a command goes on only if there is nothing to report, what is
reported has happened, and the media status is notified of the first of several changes. -/
def Exact (before : List Event) : Event → Prop
  | .passed r => ¬ Outstanding r.targetId.toNat before
  | .reported targetId => Outstanding targetId before
  | .changed targetId first => first = true ↔ ¬ Outstanding targetId before
  | _ => True

section Attention

variable {t u : Nat} {log : List Event} {e : Event} {s s' : Adapter}

theorem not_outstanding_nil : ¬ Outstanding t [] := by
  rintro ⟨before, first, after, heq, -⟩
  exact List.append_ne_nil_of_right_ne_nil _ (List.cons_ne_nil _ _) heq.symm

theorem outstanding_changed (first : Bool) : Outstanding t (log ++ [.changed t first]) :=
  ⟨log, first, [], rfl, nofun⟩

theorem not_outstanding_settled (h : e.Settles t) : ¬ Outstanding t (log ++ [e]) := by
  rintro ⟨before, first, after, heq, hafter⟩
  rcases List.eq_nil_or_concat after with rfl | ⟨after, last, rfl⟩
  · obtain ⟨-, hlast⟩ := List.append_inj' heq rfl
    obtain rfl := (List.cons.inj hlast).1
    rcases h with h | h <;> cases h
  · rw [List.concat_eq_append, ← List.cons_append, ← List.append_assoc] at heq
    obtain ⟨-, hlast⟩ := List.append_inj' heq rfl
    obtain rfl := (List.cons.inj hlast).1
    exact hafter e (by simp) h

/-- The events of other kinds, and of other targets. -/
theorem outstanding_concat (hsettles : ¬ e.Settles t) (hchanged : ∀ first, e ≠ .changed t first) :
    Outstanding t (log ++ [e]) ↔ Outstanding t log := by
  constructor
  · rintro ⟨before, first, after, heq, hafter⟩
    rcases List.eq_nil_or_concat after with rfl | ⟨after, last, rfl⟩
    · obtain ⟨-, hlast⟩ := List.append_inj' heq rfl
      exact absurd (List.cons.inj hlast).1 (hchanged first)
    · rw [List.concat_eq_append, ← List.cons_append, ← List.append_assoc] at heq
      obtain ⟨rfl, -⟩ := List.append_inj' heq rfl
      exact ⟨before, first, after, rfl, fun x hx => hafter x (by simp [hx])⟩
  · rintro ⟨before, first, after, rfl, hafter⟩
    refine ⟨before, first, after ++ [e], by simp, fun x hx => ?_⟩
    rcases List.mem_append.mp hx with hx | hx
    · exact hafter x hx
    · exact List.mem_singleton.mp hx ▸ hsettles

/-! ## The invariant -/

structure Inv (s : Adapter) : Prop where
  pending : ∀ t, (s.disk t).pendingDataChangedUa = true ↔ Outstanding t s.log
  exact : EachAfter Exact s.log
  replies : ∀ r reply, .replied r reply ∈ s.log →
    (reply.Inside r ↔ ¬ (Overruns r ∧ reply.srbStatus = .success))

theorem inv_init : Inv {} where
  pending _ := iff_of_false Bool.false_ne_true not_outstanding_nil
  exact := eachAfter_nil
  replies := nofun

/-- What only touches the threads and the other fields of the disks. -/
theorem Inv.congr (hinv : Inv s)
    (hpending : ∀ t, (s'.disk t).pendingDataChangedUa = (s.disk t).pendingDataChangedUa)
    (hlog : s'.log = s.log) : Inv s' where
  pending t := by rw [hpending, hlog]; exact hinv.pending t
  exact := hlog ▸ hinv.exact
  replies := hlog ▸ hinv.replies

theorem Inv.setDisk (hinv : Inv s) (d : Disk) (th : Nat) (task : Option Task)
    (hd : d.pendingDataChangedUa = (s.disk t).pendingDataChangedUa) :
    Inv ((s.setDisk t d).goOn th task) := by
  refine hinv.congr (fun u => ?_) rfl
  rcases eq_or_ne u t with rfl | hne
  · simp [Adapter.goOn, Adapter.setDisk, hd]
  · simp [Adapter.goOn, Adapter.setDisk, hne]

/-- An event that is neither a change nor the end of one. -/
theorem Inv.emit (hinv : Inv s) (hother : ∀ t, ¬ e.Settles t ∧ ∀ first, e ≠ .changed t first)
    (hexact : Exact s.log e)
    (hreply : ∀ r reply, e = .replied r reply →
      (reply.Inside r ↔ ¬ (Overruns r ∧ reply.srbStatus = .success))) : Inv (s.emit e) where
  pending t := (hinv.pending t).trans (outstanding_concat (hother t).1 (hother t).2).symm
  exact := eachAfter_concat hinv.exact hexact
  replies r reply hmem := by
    rcases List.mem_append.mp hmem with hmem | hmem
    · exact hinv.replies r reply hmem
    · exact hreply r reply (List.mem_singleton.mp hmem).symm

theorem Inv.reply (hinv : Inv s) {r : Command} {reply : Reply}
    (hreply : reply.Inside r ↔ ¬ (Overruns r ∧ reply.srbStatus = .success)) :
    Inv (s.emit (.replied r reply)) := by
  refine hinv.emit (fun t => ⟨?_, nofun⟩) trivial fun r' reply' heq => ?_
  · rintro (h | h) <;> cases h
  · cases heq
    exact hreply

theorem Inv.fail (hinv : Inv s) (status : NtStatus) : Inv (s.emit (.failed status)) := by
  refine hinv.emit (fun t => ⟨?_, nofun⟩) trivial nofun
  rintro (h | h) <;> cases h

/-- The flag is set to what the event says of its target. -/
theorem Inv.setPending (hinv : Inv s) {b : Bool} (th : Nat) (hexact : Exact s.log e)
    (hself : b = true ↔ Outstanding t (s.log ++ [e]))
    (hother : ∀ u, u ≠ t → ¬ e.Settles u ∧ ∀ first, e ≠ .changed u first)
    (hreply : ∀ r reply, e ≠ .replied r reply) :
    Inv (((s.setPending t b).goOn th none).emit e) where
  pending u := by
    rcases eq_or_ne u t with rfl | hne
    · simpa [Adapter.emit, Adapter.goOn, Adapter.setPending, Adapter.setDisk] using hself
    · have hkept := (hinv.pending u).trans (outstanding_concat (hother u hne).1 (hother u hne).2).symm
      simpa [Adapter.emit, Adapter.goOn, Adapter.setPending, Adapter.setDisk, hne] using hkept
  exact := eachAfter_concat hinv.exact hexact
  replies r reply hmem := by
    rcases List.mem_append.mp hmem with hmem | hmem
    · exact hinv.replies r reply hmem
    · exact absurd (List.mem_singleton.mp hmem).symm (hreply r reply)

theorem Inv.report (hinv : Inv s) (th : Nat) (h : (s.disk t).pendingDataChangedUa = true) :
    Inv (((s.setPending t false).goOn th none).emit (.reported t)) := by
  refine hinv.setPending th ((hinv.pending t).mp h) ?_ (fun u hne => ⟨?_, nofun⟩) nofun
  · exact iff_of_false Bool.false_ne_true (not_outstanding_settled (.inl rfl))
  · rintro (heq | heq)
    · cases heq
      exact hne rfl
    · cases heq

/-- The flag only goes from set to cleared, and only for a REQUEST SENSE. -/
theorem dispatch_pending (d : Disk) (r : Command) (queueStatus : NtStatus) :
    (dispatch d r queueStatus).2 = d.pendingDataChangedUa ∨
      (dispatch d r queueStatus).2 = false := by
  unfold dispatch handleRequestSense
  dsimp only
  split_ifs <;> first | exact .inl rfl | exact .inr rfl | (split <;> exact .inl rfl)

theorem inside_unitAttention (r : Command) :
    (unitAttention r.senseInfoBufferLength.toNat).Inside r := by
  refine inside_empty (Nat.zero_le _) ?_
  rw [fillUnitAttentionSenseDataChanged, length_fillSense]
  exact min_le_left _ _

theorem inv_perform (th : Nat) (queueStatus : NtStatus) (task : Task) (hinv : Inv s) :
    Inv (s.perform th queueStatus task) := by
  cases task with
  | preCheck r =>
    simp only [Adapter.perform]
    split_ifs with hpending
    · refine (hinv.report th hpending).reply ⟨fun _ h => ?_, fun _ => inside_unitAttention r⟩
      cases h.2
    · have hgo : Inv (s.goOn th (some (.dispatch r))) := hinv.congr (fun _ => rfl) rfl
      refine hgo.emit (fun t => ⟨?_, nofun⟩) (fun h => hpending ((hinv.pending _).mpr h)) nofun
      rintro (h | h) <;> cases h
  | dispatch r =>
    simp only [Adapter.perform]
    have hreply := inside_dispatch (s.disk r.targetId.toNat) r queueStatus
    split_ifs with hreported
    · obtain ⟨hpending, hcleared⟩ := Bool.and_eq_true_iff.mp hreported
      rw [Bool.not_eq_true'] at hcleared
      rw [hcleared]
      exact (hinv.report th hpending).reply hreply
    · refine Inv.reply (hinv.setDisk _ th none ?_) hreply
      rcases dispatch_pending (s.disk r.targetId.toNat) r queueStatus with heq | heq
      · exact heq
      · rw [heq] at hreported ⊢
        simpa using hreported
  | mark targetId =>
    refine hinv.setPending th ?_ (iff_of_true rfl (outstanding_changed _)) (fun u hne => ⟨?_, ?_⟩)
      nofun
    · rw [Exact, ← hinv.pending targetId]
      simp
    · rintro (h | h) <;> cases h
    · intro first heq
      cases heq
      exact hne rfl
  | create request => exact hinv.setDisk _ th _ rfl
  | deactivate targetId => exact hinv.setDisk _ th _ rfl
  | clear targetId =>
    refine hinv.setPending th trivial ?_ (fun u hne => ⟨?_, nofun⟩) nofun
    · exact iff_of_false Bool.false_ne_true (not_outstanding_settled (.inr rfl))
    · rintro (heq | heq)
      · cases heq
      · cases heq
        exact hne rfl

theorem inv_step (s : Adapter) (a : Adapter.Action) (s' : Adapter) (hinv : Inv s)
    (h : s.step a = some s') : Inv s' := by
  have hspawn : ∀ task, Inv (s.spawn task) := fun _ => hinv.congr (fun _ => rfl) rfl
  cases a with
  | executeScsi r =>
    simp only [Adapter.step] at h
    split_ifs at h <;> cases h
    · refine hinv.reply ⟨fun _ h => ?_, fun _ => inside_empty (Nat.zero_le _) (Nat.zero_le _)⟩
      cases h.2
    · exact hspawn _
    · exact hspawn _
  | notifyDataChanged payloadLength targetId =>
    cases h
    unfold Adapter.notifyDataChanged
    split_ifs
    exacts [hinv.fail _, hinv.fail _, hinv.fail _, hspawn _]
  | createDisk payloadLength request =>
    cases h
    unfold Adapter.createDisk
    split_ifs
    exacts [hinv.fail _, hinv.fail _, hinv.fail _, hspawn _]
  | deactivateTarget targetId =>
    cases h
    unfold Adapter.deactivateTarget
    split_ifs
    exacts [hinv, hspawn _]
  | run th queueStatus =>
    obtain ⟨task, -, rfl⟩ := Option.map_eq_some_iff.mp h
    exact inv_perform th queueStatus task hinv

end Attention

/-! ## Results -/

section Results

variable {actions : List Adapter.Action} {s : Adapter}

theorem inv_run (h : runFrom Adapter.step {} actions = some s) : Inv s :=
  run_inv inv_step inv_init h

/-- A standard INQUIRY for 36 bytes. -/
def shortInquiry : Command :=
  ⟨0, #v[0x12, 0, 0, 0, 36, 0, 0, 0, 0, 0, 0, 0, 0, 0, 0, 0], 36, 18⟩

def testUnitReady : Command := ⟨0, .replicate 16 0, 0, 18⟩

/-- A disk is created and changed; an INQUIRY is not told, the next command is. -/
def changedDisk : List Adapter.Action :=
  [.createDisk 32 ⟨0, 512, 0, 8⟩, .run 0 0, .run 0 0, .notifyDataChanged 0 0, .run 1 0,
    .executeScsi shortInquiry, .run 2 0, .executeScsi testUnitReady, .run 3 0,
    .executeScsi testUnitReady, .run 4 0, .run 4 0]

/-- **What the commands write stays in their buffers**, whatever disks come and go meanwhile: but
for an INQUIRY of `Overruns` that finds its target, which writes beyond the end. -/
theorem replies_inside (h : runFrom Adapter.step {} actions = some s) (r : Command) (reply : Reply)
    (hreplied : .replied r reply ∈ s.log) :
    reply.Inside r ↔ ¬ (Overruns r ∧ reply.srbStatus = .success) :=
  (inv_run h).replies r reply hreplied

theorem replies_inside_inquiry : ∃ s, runFrom Adapter.step {} changedDisk = some s ∧
    ∃ reply, .replied shortInquiry reply ∈ s.log ∧ ¬ reply.Inside shortInquiry := by
  obtain ⟨s, hs, hreplied⟩ := exists_run Adapter.step {} changedDisk
    (fun s => .replied shortInquiry (handleInquiry shortInquiry.cdb 36) ∈ s.log) (by decide)
  have hmem := of_decide_eq_true hreplied
  exact ⟨s, hs, _, hmem, fun hin => (replies_inside hs _ _ hmem).mp hin ⟨by decide, rfl⟩⟩

/-- **A change of the data is reported once**: in whatever order the threads go, a command that
looks for a change only goes on when each has been reported since, or its disk created or removed;
what is reported has happened and was not reported before; and the media status is notified just
where there is nothing to report yet. -/
theorem attention_exact (h : runFrom Adapter.step {} actions = some s) : EachAfter Exact s.log :=
  (inv_run h).exact

theorem attention_exact_changed : ∃ s, runFrom Adapter.step {} changedDisk = some s ∧
    EachAfter Exact s.log ∧ .reported 0 ∈ s.log ∧ .passed testUnitReady ∈ s.log := by
  obtain ⟨s, hs, hlog⟩ := exists_run Adapter.step {} changedDisk
    (fun s => .reported 0 ∈ s.log ∧ .passed testUnitReady ∈ s.log) (by decide)
  exact ⟨s, hs, attention_exact hs, of_decide_eq_true hlog⟩

end Results

end YumeDisk.Miniport.Scsi
