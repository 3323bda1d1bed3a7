import YumeDisk.Lib.Bytes
import YumeDisk.Miniport.Device
import YumeDisk.Miniport.WriteQueue

/-!
# The framing of the miniport's IOCTLs (`control/control.c`, `queue/write/write.c`)

The lengths of a message are `ULONG`s that its sender chooses, and sums of them wrap around.

* `handleIoControlSrb`: `DiskHandleIoControlSrb` up to the handler that it dispatches to.
* `handleWriteAckBatch`: `DiskHandleWriteAckBatchIoctl`, with the offsets of the ranges it reads.
* `framing_holds_iff`: **the result**: the sums that wrap around are what goes wrong.
-/

namespace YumeDisk.Miniport

open Lib (Bytes)

/-! ## The layout -/

/-- `sizeof(SRB_IO_CONTROL)`. -/
def srbIoControlSize : UInt32 := 28

/-- `YUMEDISK_MESSAGE_BASE_SIZE`. -/
def messageBaseSize : UInt32 := 48

/-- `YUMEDISK_WRITE_ACK_BATCH_BASE_SIZE`. -/
def writeAckBatchBaseSize : UInt32 := 8

/-- `sizeof(YUMEDISK_WRITE_ACK_RANGE)`. -/
def writeAckRangeSize : UInt32 := 24

/-- `YUMEDISK_WRITE_ACK_BATCH_SIZE`, cast to `ULONG`. -/
def writeAckBatchSize (rangeCount : UInt32) : UInt32 :=
  writeAckBatchBaseSize + rangeCount * writeAckRangeSize

/-- `YUMEDISK_MINIPORT_SIGNATURE`: `YMDISK1`, with the zero that ends it. -/
def miniportSignature : Bytes := [0x59, 0x4D, 0x44, 0x49, 0x53, 0x4B, 0x31, 0]

def statusInvalidDeviceRequest : NtStatus := -1073741808
def statusSharingViolation : NtStatus := -1073741757
def statusRevisionMismatch : NtStatus := -1073741735
def statusInsufficientResources : NtStatus := -1073741670

/-- `SRB_IO_CONTROL`. -/
structure SrbIoControl where
  headerLength : UInt32
  signature : Bytes
  length : UInt32
deriving DecidableEq, Repr

/-- `YUMEDISK_HEADER`. -/
structure MessageHeader where
  size : UInt32
  command : UInt32
  sessionId : UInt64
  targetId : UInt32
  payloadLength : UInt32
deriving DecidableEq, Repr

/-- `STORAGE_REQUEST_BLOCK`; the data buffer starts with the two headers. -/
structure StorageRequestBlock where
  dataBuffer : Option (SrbIoControl × MessageHeader)
  dataTransferLength : UInt32
deriving DecidableEq, Repr

/-! ## Dispatch -/

/-- The handlers of the commands. -/
inductive Handler
  | queryScsiInfo
  | queryDebugState
  | createDisk
  | notifyDataChanged
  | removeDisk
  | removeAllDisks
  | submitSlot
  | submitEventSlot
  | readAck
  | writeAckBatch
  | cancelSlot
deriving DecidableEq, Repr

/-- The `case` labels of the dispatch. -/
def handlerOf (command : UInt32) : Option Handler :=
  if command = 2 then some .queryScsiInfo
  else if command = 26 then some .queryDebugState
  else if command = 3 then some .createDisk
  else if command = 7 then some .notifyDataChanged
  else if command = 4 then some .removeDisk
  else if command = 5 then some .removeAllDisks
  else if command = 24 then some .submitSlot
  else if command = 28 then some .submitEventSlot
  else if command = 22 then some .readAck
  else if command = 23 then some .writeAckBatch
  else if command = 25 then some .cancelSlot
  else none

/-- `DiskClaimSessionLocked`: the session that is the current one then. -/
def claimSession (currentSessionId : UInt64) (header : MessageHeader) : Except NtStatus UInt64 :=
  if header.command = 2 then
    .ok currentSessionId
  else if header.sessionId = 0 then
    .error statusInvalidParameter
  else if currentSessionId = 0 then
    .ok header.sessionId
  else if currentSessionId ≠ header.sessionId then
    .error statusSharingViolation
  else
    .ok currentSessionId

/-- What `DiskHandleIoControlSrb` does with an SRB. -/
inductive IoControlOutcome
  /-- `SRB_STATUS_INVALID_REQUEST`. -/
  | invalidRequest
  /-- `DiskCompleteIoctlSrb` without a handler. -/
  | completed (status : NtStatus)
  | dispatched (handler : Handler)
deriving DecidableEq, Repr

/-- `DiskHandleIoControlSrb`, and the session that is the current one then. -/
def handleIoControlSrb (currentSessionId : UInt64) (srb : StorageRequestBlock) :
    IoControlOutcome × UInt64 :=
  match srb.dataBuffer with
  | none => (.invalidRequest, currentSessionId)
  | some (srbIoControl, message) =>
    if srb.dataTransferLength < srbIoControlSize + messageBaseSize then
      (.invalidRequest, currentSessionId)
    else if srbIoControl.headerLength ≠ srbIoControlSize ∨
        srbIoControl.signature ≠ miniportSignature then
      (.invalidRequest, currentSessionId)
    else if srb.dataTransferLength < srbIoControlSize + srbIoControl.length ∨
        srbIoControl.length < messageBaseSize then
      (.invalidRequest, currentSessionId)
    else if message.size < messageBaseSize ∨ message.size > srbIoControl.length ∨
        messageBaseSize + message.payloadLength > message.size then
      (.completed statusRevisionMismatch, currentSessionId)
    else
      match claimSession currentSessionId message with
      | .error status => (.completed status, currentSessionId)
      | .ok currentSessionId =>
        match handlerOf message.command with
        | none => (.completed statusInvalidDeviceRequest, currentSessionId)
        | some handler => (.dispatched handler, currentSessionId)

/-! ## The batch of acks -/

/-- A call of `DiskHandleWriteAckBatchIoctl`; `queueAt i` is the queue of the target when the lock
is taken for range `i`. -/
structure AckBatchCall where
  message : MessageHeader
  rangeCount : UInt32
  ranges : Nat → WriteAckRange
  queueAt : Nat → QueueState
  /-- Whether `DiskAlloc` returns memory. -/
  allocated : Bool

namespace AckBatchCall

/-- Whether range `i` gets an error. -/
def fails (b : AckBatchCall) (i : Nat) : Bool :=
  !ntSuccess ((b.queueAt i).ackRange (b.ranges i)).2.1

/-- `Message->Header.Size - YUMEDISK_MESSAGE_BASE_SIZE`. -/
def payloadCapacity (b : AckBatchCall) : UInt32 := b.message.size - messageBaseSize

/-- The loop over the ranges: the indices of those it reads, and its status. -/
def ackRanges (b : AckBatchCall) : Nat → Nat → Nat → List Nat × NtStatus
  | 0, _, _ => ([], statusSuccess)
  | count + 1, index, failureCount =>
    if b.fails index then
      if writeAckBatchResultSize (failureCount + 1) > b.payloadCapacity.toNat then
        ([index], statusBufferTooSmall)
      else
        let (reads, status) := b.ackRanges count (index + 1) (failureCount + 1)
        (index :: reads, status)
    else
      let (reads, status) := b.ackRanges count (index + 1) failureCount
      (index :: reads, status)

/-- Where range `i` starts in the payload. -/
def rangeOffset (i : Nat) : Nat := writeAckBatchBaseSize.toNat + i * writeAckRangeSize.toNat

end AckBatchCall

/-- `DiskHandleWriteAckBatchIoctl`: the offsets of the ranges it reads, and its status. -/
def handleWriteAckBatch (b : AckBatchCall) : List Nat × NtStatus :=
  if b.message.targetId.toNat ≥ maxTargets ∨
      b.message.payloadLength < writeAckBatchBaseSize then
    ([], statusInvalidParameter)
  else if b.rangeCount = 0 ∨ b.message.payloadLength < writeAckBatchSize b.rangeCount then
    ([], statusInvalidParameter)
  else if !b.allocated then
    ([], statusInsufficientResources)
  else
    let (reads, status) := b.ackRanges b.rangeCount.toNat 0 0
    (reads.map AckBatchCall.rangeOffset, status)

/-! ## What is asked for -/

/-- A message that is dispatched lies in the data buffer, with its payload. -/
def DispatchesInside (currentSessionId : UInt64) (srb : StorageRequestBlock) : Prop :=
  ∀ srbIoControl message handler, srb.dataBuffer = some (srbIoControl, message) →
    (handleIoControlSrb currentSessionId srb).1 = .dispatched handler →
    srbIoControlSize.toNat + message.size.toNat ≤ srb.dataTransferLength.toNat ∧
      srbIoControlSize.toNat + messageBaseSize.toNat + message.payloadLength.toNat ≤
        srb.dataTransferLength.toNat

/-- The ranges that are read lie in the payload. -/
def ReadsInside (b : AckBatchCall) : Prop :=
  ∀ offset ∈ (handleWriteAckBatch b).1,
    offset + writeAckRangeSize.toNat ≤ b.message.payloadLength.toNat

/-! ## When it fails -/

/-- The request is one of the device's, but for its lengths. -/
structure Admitted (currentSessionId : UInt64) (srb : StorageRequestBlock)
    (srbIoControl : SrbIoControl) (message : MessageHeader) : Prop where
  buffer : srb.dataBuffer = some (srbIoControl, message)
  headerLength : srbIoControl.headerLength = srbIoControlSize
  signature : srbIoControl.signature = miniportSignature
  session : ∃ sessionId, claimSession currentSessionId message = .ok sessionId
  command : ∃ handler, handlerOf message.command = some handler

/-- `sizeof(SRB_IO_CONTROL) + Length` wraps around, and the message is longer than the buffer. -/
def LengthWraps (srb : StorageRequestBlock) (srbIoControl : SrbIoControl)
    (message : MessageHeader) : Prop :=
  2 ^ 32 ≤ 28 + srbIoControl.length.toNat ∧
    srb.dataTransferLength.toNat < 28 + message.size.toNat ∧
    48 + message.payloadLength.toNat ≤ message.size.toNat

/-- `YUMEDISK_MESSAGE_BASE_SIZE + PayloadLength` wraps around to at most the message's size. -/
def PayloadWraps (srb : StorageRequestBlock) (srbIoControl : SrbIoControl)
    (message : MessageHeader) : Prop :=
  2 ^ 32 ≤ 48 + message.payloadLength.toNat ∧
    48 + message.payloadLength.toNat ≤ message.size.toNat + 2 ^ 32 ∧
    (28 + srbIoControl.length.toNat ≤ srb.dataTransferLength.toNat ∨
      2 ^ 32 ≤ 28 + srbIoControl.length.toNat)

/-- The SRBs whose lengths wrap around unseen. -/
def LengthsSlip (currentSessionId : UInt64) (srb : StorageRequestBlock) : Prop :=
  ∃ srbIoControl message, Admitted currentSessionId srb srbIoControl message ∧
    76 ≤ srb.dataTransferLength.toNat ∧
    48 ≤ message.size.toNat ∧ message.size.toNat ≤ srbIoControl.length.toNat ∧
    (LengthWraps srb srbIoControl message ∨ PayloadWraps srb srbIoControl message)

/-- How many of the first `n` ranges get an error. -/
def AckBatchCall.failures (b : AckBatchCall) (n : Nat) : Nat := (List.range n).countP b.fails

/-- The number of whole ranges that the payload has room for. -/
def AckBatchCall.room (b : AckBatchCall) : Nat := (b.message.payloadLength.toNat - 8) / 24

/-- The batches whose size wraps around unseen; the errors of the ranges that the payload has
do not end the loop. -/
structure BatchSlips (b : AckBatchCall) : Prop where
  target : b.message.targetId.toNat < maxTargets
  base : 8 ≤ b.message.payloadLength.toNat
  wraps : 2 ^ 32 ≤ 8 + b.rangeCount.toNat * 24
  unseen : (8 + b.rangeCount.toNat * 24) % 2 ^ 32 ≤ b.message.payloadLength.toNat
  allocated : b.allocated = true
  goesOn : b.failures b.room = 0 ∨
    writeAckBatchResultSize (b.failures b.room) ≤ b.payloadCapacity.toNat

/-! ## The lengths of a message -/

section Dispatch

variable {currentSessionId : UInt64} {srb : StorageRequestBlock}

/-- The sums as the code computes them. -/
theorem toNat_add_wraps (x y : UInt32) :
    (x + y).toNat = x.toNat + y.toNat ∧ x.toNat + y.toNat < 2 ^ 32 ∨
      (x + y).toNat + 2 ^ 32 = x.toNat + y.toNat ∧ 2 ^ 32 ≤ x.toNat + y.toNat := by
  have hx := x.toNat_lt
  have hy := y.toNat_lt
  rw [UInt32.toNat_add]
  omega

/-- What the checks of an SRB let through. -/
theorem dispatched_iff {srbIoControl : SrbIoControl} {message : MessageHeader}
    (hbuffer : srb.dataBuffer = some (srbIoControl, message)) :
    (∃ handler, (handleIoControlSrb currentSessionId srb).1 = .dispatched handler) ↔
      Admitted currentSessionId srb srbIoControl message ∧
        76 ≤ srb.dataTransferLength.toNat ∧
        (srbIoControlSize + srbIoControl.length).toNat ≤ srb.dataTransferLength.toNat ∧
        48 ≤ message.size.toNat ∧ message.size.toNat ≤ srbIoControl.length.toNat ∧
        (messageBaseSize + message.payloadLength).toNat ≤ message.size.toNat := by
  have hsum : (srbIoControlSize + messageBaseSize).toNat = 76 := rfl
  have hbase : messageBaseSize.toNat = 48 := rfl
  simp only [handleIoControlSrb, hbuffer, UInt32.lt_iff_toNat_lt, gt_iff_lt, hsum, hbase]
  constructor
  · rintro ⟨handler, h⟩
    split at h
    · cases h
    split at h
    · cases h
    split at h
    · cases h
    split at h
    · cases h
    split at h
    · cases h
    split at h
    · cases h
    rename_i hlong hheader hlength hsize _ sessionId hsession _ _ hcommand
    obtain ⟨hheaderLength, hsignature⟩ := not_or.mp hheader
    refine ⟨⟨hbuffer, not_not.mp hheaderLength, not_not.mp hsignature, ⟨_, hsession⟩,
      ⟨_, hcommand⟩⟩, ?_⟩
    omega
  · rintro ⟨⟨-, hheaderLength, hsignature, ⟨sessionId, hsession⟩, ⟨handler, hcommand⟩⟩,
      hlong, hlength, hmin, hmax, hpayload⟩
    refine ⟨handler, ?_⟩
    rw [if_neg (by omega), if_neg (by simp [hheaderLength, hsignature]), if_neg (by omega),
      if_neg (by omega), hsession]
    simp only [hcommand]

/-- **Messages lie in the buffer**, unless a sum wraps around unseen. -/
theorem dispatchesInside_iff :
    DispatchesInside currentSessionId srb ↔ ¬ LengthsSlip currentSessionId srb := by
  have hheader : srbIoControlSize.toNat = 28 := rfl
  have hbase : messageBaseSize.toNat = 48 := rfl
  have hd := srb.dataTransferLength.toNat_lt
  constructor
  · rintro h ⟨srbIoControl, message, hadmitted, hlong, hmin, hmax, hslip⟩
    have hl := srbIoControl.length.toNat_lt
    have hp := message.payloadLength.toNat_lt
    have hlength := toNat_add_wraps srbIoControlSize srbIoControl.length
    have hpayload := toNat_add_wraps messageBaseSize message.payloadLength
    rw [LengthWraps, PayloadWraps] at hslip
    have hpasses : (srbIoControlSize + srbIoControl.length).toNat ≤ srb.dataTransferLength.toNat ∧
        (messageBaseSize + message.payloadLength).toNat ≤ message.size.toNat := by
      omega
    obtain ⟨handler, hdispatched⟩ := (dispatched_iff hadmitted.buffer).mpr
      ⟨hadmitted, hlong, hpasses.1, hmin, hmax, hpasses.2⟩
    have hinside := h _ _ _ hadmitted.buffer hdispatched
    omega
  · intro h srbIoControl message handler hbuffer hdispatched
    have hlength := toNat_add_wraps srbIoControlSize srbIoControl.length
    have hpayload := toNat_add_wraps messageBaseSize message.payloadLength
    obtain ⟨hadmitted, hlong, hfits, hmin, hmax, hsize⟩ :=
      (dispatched_iff hbuffer).mp ⟨handler, hdispatched⟩
    by_contra hout
    refine h ⟨srbIoControl, message, hadmitted, hlong, hmin, hmax, ?_⟩
    rw [LengthWraps, PayloadWraps]
    omega

end Dispatch

/-! ## The ranges of a batch -/

section Batch

variable {b : AckBatchCall}

/-- The loop reads a range from `index + n` on iff the errors before do not end it. -/
theorem exists_read_iff (n : Nat) : ∀ count index failureCount : Nat,
    (∃ i ∈ (b.ackRanges count index failureCount).1, index + n ≤ i) ↔
      n < count ∧ ((List.range' index n).countP b.fails = 0 ∨
        writeAckBatchResultSize (failureCount + (List.range' index n).countP b.fails) ≤
          b.payloadCapacity.toNat) := by
  intro count
  induction count generalizing n with
  | zero =>
    intro index failureCount
    simp [AckBatchCall.ackRanges]
  | succ count ih =>
    intro index failureCount
    cases n with
    | zero =>
      simp only [AckBatchCall.ackRanges]
      refine ⟨fun _ => ⟨by omega, .inl rfl⟩, fun _ => ⟨index, ?_, le_refl _⟩⟩
      split_ifs <;> exact List.mem_cons_self
    | succ n =>
      have hnot : ¬ index + (n + 1) ≤ index := by omega
      have hshift : ∀ i, index + (n + 1) ≤ i ↔ index + 1 + n ≤ i := by omega
      rw [List.range'_succ, List.countP_cons]
      by_cases hfails : b.fails index = true
      · by_cases hfull :
          writeAckBatchResultSize (failureCount + 1) > b.payloadCapacity.toNat
        · rw [AckBatchCall.ackRanges, if_pos hfails, if_pos hfull, if_pos hfails]
          constructor
          · rintro ⟨i, hi, hle⟩
            obtain rfl := List.mem_singleton.mp hi
            exact absurd hle hnot
          · rintro ⟨-, hzero | hle⟩
            · omega
            · simp only [writeAckBatchResultSize] at hfull hle
              omega
        · rw [AckBatchCall.ackRanges, if_pos hfails, if_neg hfull, if_pos hfails]
          have hrest := ih n (index + 1) (failureCount + 1)
          simp only [List.mem_cons, exists_eq_or_imp, hshift, hrest]
          simp only [writeAckBatchResultSize] at hfull ⊢
          omega
      · rw [AckBatchCall.ackRanges, if_neg hfails, if_neg hfails]
        have hrest := ih n (index + 1) failureCount
        simp only [List.mem_cons, exists_eq_or_imp, hshift, hrest, Nat.add_zero]
        omega

/-- What the checks of a batch let through. -/
theorem mem_handleWriteAckBatch {offset : Nat} :
    offset ∈ (handleWriteAckBatch b).1 ↔
      b.message.targetId.toNat < maxTargets ∧ 8 ≤ b.message.payloadLength.toNat ∧
        b.rangeCount.toNat ≠ 0 ∧
        (8 + b.rangeCount.toNat * 24) % 2 ^ 32 ≤ b.message.payloadLength.toNat ∧
        b.allocated = true ∧
        ∃ i ∈ (b.ackRanges b.rangeCount.toNat 0 0).1, AckBatchCall.rangeOffset i = offset := by
  have hbase : writeAckBatchBaseSize.toNat = 8 := rfl
  have hrange : writeAckRangeSize.toNat = 24 := rfl
  have hsize : (writeAckBatchSize b.rangeCount).toNat = (8 + b.rangeCount.toNat * 24) % 2 ^ 32 := by
    rw [writeAckBatchSize, UInt32.toNat_add, UInt32.toNat_mul, hbase, hrange]
    omega
  have hzero : b.rangeCount = 0 ↔ b.rangeCount.toNat = 0 := UInt32.toNat_inj.symm
  simp only [handleWriteAckBatch, UInt32.lt_iff_toNat_lt, hbase, hsize, hzero]
  by_cases htarget : b.message.targetId.toNat ≥ maxTargets ∨ b.message.payloadLength.toNat < 8
  · rw [if_pos htarget]
    refine ⟨fun h => absurd h List.not_mem_nil, fun h => ?_⟩
    omega
  rw [if_neg htarget]
  by_cases hcount : b.rangeCount.toNat = 0 ∨
      b.message.payloadLength.toNat < (8 + b.rangeCount.toNat * 24) % 2 ^ 32
  · rw [if_pos hcount]
    refine ⟨fun h => absurd h List.not_mem_nil, fun h => ?_⟩
    omega
  rw [if_neg hcount]
  obtain ⟨hvalid, hlong⟩ := not_or.mp htarget
  obtain ⟨hsome, hfits⟩ := not_or.mp hcount
  by_cases hallocated : b.allocated = true
  · rw [if_neg (by simp [hallocated]), List.mem_map]
    exact ⟨fun h => ⟨not_le.mp hvalid, not_lt.mp hlong, hsome, not_lt.mp hfits, hallocated, h⟩,
      fun h => h.2.2.2.2.2⟩
  · rw [if_pos (by simp [hallocated])]
    exact ⟨fun h => absurd h List.not_mem_nil, fun h => absurd h.2.2.2.2.1 hallocated⟩

/-- **Ranges lie in the payload**, unless the size of the batch wraps around unseen. -/
theorem readsInside_iff : ReadsInside b ↔ ¬ BatchSlips b := by
  have hread := exists_read_iff (b := b) b.room b.rangeCount.toNat 0 0
  simp only [Nat.zero_add, ← List.range_eq_range'] at hread
  have hoffset : ∀ i, AckBatchCall.rangeOffset i = 8 + i * 24 := fun _ => rfl
  have hrange : writeAckRangeSize.toNat = 24 := rfl
  have hroom : b.room = (b.message.payloadLength.toNat - 8) / 24 := rfl
  have hp := b.message.payloadLength.toNat_lt
  constructor
  · intro h hslips
    obtain ⟨i, hi, hle⟩ := hread.mpr ⟨by have := hslips.wraps; omega, hslips.goesOn⟩
    have hinside := h _ (mem_handleWriteAckBatch.mpr ⟨hslips.target, hslips.base,
      by have := hslips.wraps; omega, hslips.unseen, hslips.allocated, i, hi, rfl⟩)
    rw [hoffset, hrange] at hinside
    have := hslips.base
    omega
  · intro h offset hmem
    obtain ⟨htarget, hbase, -, hunseen, hallocated, i, hi, rfl⟩ := mem_handleWriteAckBatch.mp hmem
    rw [hoffset, hrange]
    by_contra hout
    obtain ⟨hlt, hgoesOn⟩ := hread.mp ⟨i, hi, by omega⟩
    exact h ⟨htarget, hbase, by omega, hunseen, hallocated, hgoesOn⟩

end Batch

/-! ## The framing -/

/-- **The framing of the IOCTLs**: a message that is dispatched lies in the data buffer, and the
ranges that a batch reads lie in its payload, exactly unless a sum of lengths wraps around and
passes its check. -/
theorem framing_holds_iff (currentSessionId : UInt64) (srb : StorageRequestBlock)
    (b : AckBatchCall) :
    (DispatchesInside currentSessionId srb ↔ ¬ LengthsSlip currentSessionId srb) ∧
      (ReadsInside b ↔ ¬ BatchSlips b) :=
  ⟨dispatchesInside_iff, readsInside_iff⟩

/-- A `ReadAck` whose `PayloadLength` is so large that the check of the payload wraps around. -/
def longPayload : StorageRequestBlock where
  dataBuffer := some (⟨28, miniportSignature, 48⟩, ⟨48, 22, 1, 0, 0xFFFFFFD0⟩)
  dataTransferLength := 76

/-- It is dispatched, and there is no payload in the buffer. -/
theorem longPayload_outside :
    ¬ ∀ (currentSessionId : UInt64) (srb : StorageRequestBlock) (b : AckBatchCall),
      DispatchesInside currentSessionId srb ∧ ReadsInside b := by
  intro h
  have hinside := (h 1 longPayload ⟨⟨48, 23, 1, 0, 0⟩, 0, fun _ => ⟨0, 0, 0, 0⟩, fun _ => {},
    true⟩).1 _ _ .readAck rfl (by decide)
  exact absurd hinside (by decide)

end YumeDisk.Miniport
