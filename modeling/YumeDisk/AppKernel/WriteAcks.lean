import YumeDisk.AppKernel.ReadPlane
import YumeDisk.Miniport.WriteHistory

/-!
# The write plane of a disk (`AppKernel/src/disk/ak_disk.c`)

A write worker stages the fragment that a slot brings and queues an ack for it; the flusher sends
the acks to the driver in batches, and then finalises the writes they complete.

* `WriteTrack`: the events that are tracked, `ensureWriteEventTracked`, `applyWriteAckResult`.
* `WritePlane.step`: the workers, the flusher and the driver, in any order.
* `WritePlane.applied`: the history, which the code does not keep.

A step of a worker or of the flusher is one section under `WriteTrackLock` or `WriteAckLock`.  The
driver handles a batch in one call, a range at a time, so its reply comes after the last range; it
is what the I/O reports that may be anything.  The failures of a batch always fit in its reply.
-/

namespace YumeDisk.AppKernel

open Lib (Bytes)
open Miniport

/-! ## Status codes -/

def statusAlreadyExists : NtStatus := -1073741771

def isRecoverableWriteAckStatus (status : NtStatus) : Bool :=
  isRecoverableSlotStatus status || status == statusNotFound

/-! ## The events that are tracked -/

/-- `AK_WRITE_EVENT_RECORD`. -/
structure WriteEventRecord where
  eventId : Nat
  totalSeq : Nat
  ackedSeqCount : Nat := 0
  finalStatus : NtStatus := statusSuccess
  finalFailed : Bool := false
  finalResponseQueued : Bool := false
deriving DecidableEq, Repr

/-- `AkResponseWriteFinalCommitted` or `AkResponseWriteFinalRejected`. -/
structure WriteFinal where
  committed : Bool
  eventId : Nat
  totalSeq : Nat
  status : NtStatus
deriving DecidableEq, Repr

/-- What `WriteTrackLock` guards, and the final responses that were queued. -/
structure WriteTrack where
  queueDepth : Nat
  activeWriteEvents : List WriteEventRecord := []
  finalizedWriteEvents : List WriteEventRecord := []
  responses : List WriteFinal := []
deriving DecidableEq, Repr

namespace WriteTrack

/-- `AkDiskFindActiveWriteEventLocked`. -/
def findActiveWriteEvent (t : WriteTrack) (eventId : Nat) : Option WriteEventRecord :=
  t.activeWriteEvents.find? fun record => record.eventId = eventId

/-- `AkDiskFindFinalizedWriteEventLocked`. -/
def findFinalizedWriteEvent (t : WriteTrack) (eventId : Nat) : Option WriteEventRecord :=
  t.finalizedWriteEvents.find? fun record => record.eventId = eventId

/-- A record of the active list is changed in place. -/
def setActive (t : WriteTrack) (record : WriteEventRecord) : WriteTrack :=
  { t with
    activeWriteEvents := t.activeWriteEvents.map fun r =>
      if r.eventId = record.eventId then record else r }

/-- `AkDiskRememberFinalizedWriteEventLocked`; the oldest records make room. -/
def rememberFinalizedWriteEvent (t : WriteTrack) (eventId totalSeq : Nat)
    (finalStatus : NtStatus) (finalFailed allocated : Bool) : WriteTrack × NtStatus :=
  match t.findFinalizedWriteEvent eventId with
  | some old =>
    ({ t with
      finalizedWriteEvents := t.finalizedWriteEvents.map fun r =>
        if r.eventId = eventId then
          { old with totalSeq, finalStatus, finalFailed, finalResponseQueued := true }
        else r }, statusSuccess)
  | none =>
    if allocated then
      let records := t.finalizedWriteEvents ++ [{
        eventId, totalSeq, ackedSeqCount := totalSeq, finalStatus, finalFailed
        finalResponseQueued := true }]
      ({ t with finalizedWriteEvents := records.drop (records.length - t.queueDepth) },
        statusSuccess)
    else
      (t, statusInsufficientResources)

/-- `AkDiskEmitWriteFinalEvent`; `push` is what `AkResponseQueuePush` returns. -/
def emitWriteFinalEvent (t : WriteTrack) (eventId totalSeq : Nat) (finalStatus : NtStatus)
    (committed : Bool) (push : NtStatus) : WriteTrack × NtStatus :=
  if push ≠ statusSuccess then
    (t, push)
  else
    ({ t with responses := t.responses ++ [{ committed, eventId, totalSeq, status := finalStatus }] },
      statusSuccess)

/-- `AkDiskFinalizeWriteEventLocked`. -/
def finalizeWriteEvent (t : WriteTrack) (record : WriteEventRecord) (finalStatus : NtStatus)
    (finalFailed : Bool) (push : NtStatus) : WriteTrack × NtStatus :=
  if record.finalResponseQueued then
    (t, statusSuccess)
  else
    let record := { record with finalFailed, finalStatus }
    match (t.setActive record).emitWriteFinalEvent record.eventId record.totalSeq finalStatus
      (!finalFailed) push with
    | (t, status) =>
      if status ≠ statusSuccess then
        (t, status)
      else
        (t.setActive { record with finalResponseQueued := true }, statusSuccess)

/-- `AkDiskEnsureWriteEventTracked`, and the final status that it hands out. -/
def ensureWriteEventTracked (t : WriteTrack) (eventId totalSeq : Nat) (allocated : Bool) :
    WriteTrack × NtStatus × NtStatus :=
  if eventId = 0 ∨ totalSeq = 0 then
    (t, statusInvalidParameter, statusSuccess)
  else
    match t.findFinalizedWriteEvent eventId with
    | some record => (t, statusAlreadyExists, record.finalStatus)
    | none =>
      match t.findActiveWriteEvent eventId with
      | some record =>
        if record.totalSeq ≠ totalSeq then
          (t, statusInvalidParameter, statusSuccess)
        else
          (t, statusSuccess, statusSuccess)
      | none =>
        if allocated then
          ({ t with activeWriteEvents := { eventId, totalSeq } :: t.activeWriteEvents },
            statusSuccess, statusSuccess)
        else
          (t, statusInsufficientResources, statusSuccess)

/-- The record leaves the active list and is remembered. -/
def retire (t : WriteTrack) (record : WriteEventRecord) (finalStatus : NtStatus)
    (finalFailed allocated : Bool) : WriteTrack × NtStatus :=
  { t with
    activeWriteEvents := t.activeWriteEvents.eraseP fun r => r.eventId = record.eventId
    }.rememberFinalizedWriteEvent record.eventId record.totalSeq finalStatus finalFailed allocated

/-- The record is finalised and retired. -/
def finish (t : WriteTrack) (record : WriteEventRecord) (finalStatus : NtStatus)
    (finalFailed : Bool) (push : NtStatus) (allocated : Bool) : WriteTrack × NtStatus :=
  match t.finalizeWriteEvent record finalStatus finalFailed push with
  | (t, status) =>
    if status ≠ statusSuccess then
      (t, status)
    else
      t.retire record finalStatus finalFailed allocated

end WriteTrack

/-- A range is counted. -/
def WriteEventRecord.ack (record : WriteEventRecord) (range : WriteAckRange)
    (rangeStatus : NtStatus) : WriteEventRecord :=
  let record := { record with ackedSeqCount := record.ackedSeqCount + range.seqCount }
  if rangeStatus ≠ statusSuccess then
    { record with finalFailed := true, finalStatus := rangeStatus }
  else
    record

/-- `AkDiskApplyWriteAckResult`. -/
def WriteTrack.applyWriteAckResult (t : WriteTrack) (range : WriteAckRange)
    (rangeStatus push : NtStatus) (allocated : Bool) : WriteTrack × NtStatus :=
  if range.eventId = 0 ∨ range.seqCount = 0 then
    (t, statusInvalidParameter)
  else
    match t.findActiveWriteEvent range.eventId with
    | none =>
      match t.findFinalizedWriteEvent range.eventId with
      | some _ => (t, statusSuccess)
      | none => (t, statusNotFound)
    | some record =>
      if range.endSeq > record.totalSeq then
        (t, statusInvalidParameter)
      else if record.finalResponseQueued then
        t.retire record record.finalStatus record.finalFailed allocated
      else
        let record := record.ack range rangeStatus
        let t := t.setActive record
        if record.ackedSeqCount > record.totalSeq then
          (t, statusInvalidParameter)
        else if record.finalFailed then
          t.finish record record.finalStatus true push allocated
        else if record.ackedSeqCount = record.totalSeq then
          t.finish record statusSuccess false push allocated
        else
          (t, statusSuccess)

/-! ## The workers and the flusher -/

/-- The parameters of the disk that the write plane reads. -/
structure WriteParams where
  sectorSize : Nat
  writeSlotBytes : Nat
  ackBatchMaxRanges : Nat
deriving DecidableEq, Repr

/-- `AkDiskValidateWriteSlotHeader`; the target of a slot is that of the disk. -/
def WriteParams.validateWriteSlotHeader (params : WriteParams) (header : WriteSlotPayload) : Bool :=
  header.eventId ≠ 0 && header.totalSeq ≠ 0 && header.seq < header.totalSeq &&
    header.dataLength ≤ params.writeSlotBytes &&
    header.byteOffsetInWrite % params.sectorSize = 0 &&
    (header.dataLength = 0 || header.dataLength % params.sectorSize = 0)

/-- A slot in the hands of its worker; `decided` is the status when `stage_write` is not called. -/
structure StagingSlot where
  header : WriteSlotPayload
  decided : Option NtStatus
deriving DecidableEq, Repr

/-- What the flusher is doing with the ranges it has taken. -/
inductive WriteAckFlush
  | idle
  /-- The ranges are to be sent, or sent again. -/
  | held (ranges : List WriteAckRange)
  /-- They were sent; the driver has handled the first `index`. -/
  | sent (ranges : List WriteAckRange) (index : Nat) (failures : List WriteAckFailure)
  /-- The reply is there; the results of the first `index` were applied. -/
  | applying (ranges : List WriteAckRange) (failures : List WriteAckFailure) (index : Nat)
deriving DecidableEq, Repr

namespace WriteAckFlush

/-- The ranges whose result AppKernel has not applied. -/
def payload : WriteAckFlush → List WriteAckRange
  | idle => []
  | held ranges => ranges
  | sent ranges _ _ => ranges
  | applying ranges _ index => ranges.drop index

end WriteAckFlush

/-- The status of a range, from the reply. -/
def rangeStatus (ranges : List WriteAckRange) (failures : List WriteAckFailure) (index : Nat) :
    NtStatus :=
  match failures.find? fun failure => failure.rangeIndex = index with
  | some failure => failure.status
  | none => (ranges[index]?.map WriteAckRange.ioStatus).getD statusSuccess

structure WritePlane where
  params : WriteParams
  target : WriteTarget
  track : WriteTrack
  staging : List StagingSlot := []
  writeAcks : List WriteAckRange := []
  flush : WriteAckFlush := .idle
  stopRequested : Bool := false
  /-- The flusher has begun to shut down. -/
  shuttingDown : Bool := false
  /-- The slots that have reached a worker. -/
  taken : List Nat := []
  /-- The results that were applied. -/
  applied : List AckedSeq := []

namespace WritePlane

/-- The statuses that `AkDiskStageWriteSlot` returns without calling `stage_write`. -/
def beginStage (t : WriteTrack) (header : WriteSlotPayload) (allocated : Bool) :
    WriteTrack × Option NtStatus :=
  match t.ensureWriteEventTracked header.eventId header.totalSeq allocated with
  | (t, status, existingFinalStatus) =>
    if status = statusAlreadyExists then
      (t, some (if existingFinalStatus = statusSuccess then statusCancelled else
        existingFinalStatus))
    else if status ≠ statusSuccess then
      (t, some status)
    else
      (t, none)

/-- `AkDiskHandleWriteSlotCompletion` up to `stage_write`. -/
def deliver (s : WritePlane) (i : Nat) (allocated : Bool) : Option WritePlane :=
  match s.target.issued[i]? with
  | some { payload := .ok header, .. } =>
    if i ∈ s.taken then
      none
    else if !s.params.validateWriteSlotHeader header then
      some { s with taken := i :: s.taken }
    else
      match beginStage s.track header allocated with
      | (track, decided) =>
        some { s with
          taken := i :: s.taken
          track
          staging := s.staging ++ [{ header, decided }] }
  | _ => none

/-- The rest of it; `enqueued` is whether the ack could be allocated. -/
def stage (s : WritePlane) (k : Nat) (status : NtStatus) (enqueued : Bool) : Option WritePlane :=
  (s.staging[k]?).map fun slot =>
    let range : WriteAckRange := {
      eventId := slot.header.eventId
      seqBase := slot.header.seq
      seqCount := 1
      ioStatus := slot.decided.getD status }
    { s with
      staging := s.staging.eraseIdx k
      writeAcks := if enqueued then s.writeAcks ++ [range] else s.writeAcks }

/-- `AkDiskStealWriteAckRanges`. -/
def steal (s : WritePlane) : Option WritePlane :=
  if s.shuttingDown ∨ s.flush ≠ .idle ∨ s.writeAcks = [] then
    none
  else
    some { s with
      flush := .held (s.writeAcks.take s.params.ackBatchMaxRanges)
      writeAcks := s.writeAcks.drop s.params.ackBatchMaxRanges }

/-- The flusher begins to shut down: what it holds and what is queued is dropped. -/
def shutDown (s : WritePlane) : WritePlane :=
  { s with shuttingDown := true, flush := .idle, writeAcks := [] }

/-- The flusher sees that it is to stop. -/
def noticeStop (s : WritePlane) : Option WritePlane :=
  if !s.stopRequested then
    none
  else
    match s.flush with
    | .idle | .held _ => some s.shutDown
    | _ => some { s with shuttingDown := true, writeAcks := [] }

/-- `AkDiskBeginWriteAckFlushAsync`, when the I/O is begun. -/
def send (s : WritePlane) : Option WritePlane :=
  match s.flush with
  | .held ranges => if s.shuttingDown then none else some { s with flush := .sent ranges 0 [] }
  | _ => none

/-- The batch was not sent, or its reply is an error. -/
def fail (s : WritePlane) (status : NtStatus) : Option WritePlane :=
  let ended (ranges : List WriteAckRange) : Option WritePlane :=
    if status = statusSuccess then
      none
    else if s.shuttingDown || !isRecoverableWriteAckStatus status then
      some s.shutDown
    else
      some { s with flush := .held ranges }
  match s.flush with
  | .held ranges => ended ranges
  | .sent ranges index _ => if index = 0 ∨ index = ranges.length then ended ranges else none
  | _ => none

/-- A range of `DiskHandleWriteAckBatchIoctl`. -/
def handle (s : WritePlane) : Option WritePlane :=
  match s.flush with
  | .sent ranges index failures =>
    (ranges[index]?).map fun range =>
      let status := (s.target.queue.ackRange range).2.1
      { s with
        target := s.target.ackRange range
        flush := .sent ranges (index + 1)
          (if ntSuccess status then failures else failures ++ [{ rangeIndex := index, status }]) }
  | _ => none

/-- The reply of a batch. -/
def reply (s : WritePlane) : Option WritePlane :=
  match s.flush with
  | .sent ranges index failures =>
    if index = ranges.length then some { s with flush := .applying ranges failures 0 } else none
  | _ => none

/-- `AkDiskApplyWriteAckResult` for the next range of the reply. -/
def apply (s : WritePlane) (push : NtStatus) (allocated : Bool) : Option WritePlane :=
  match s.flush with
  | .applying ranges failures index =>
    match ranges[index]? with
    | none => some { s with flush := .idle }
    | some range =>
      let status := rangeStatus ranges failures index
      let applied := s.applied ++ [{
        eventId := range.eventId, seq := range.seqBase, success := status == statusSuccess }]
      match s.track.applyWriteAckResult range status push allocated with
      | (track, result) =>
        if result = statusSuccess then
          some { s with track, applied, flush := .applying ranges failures (index + 1) }
        else
          some { s with track, applied }.shutDown
  | _ => none

inductive Action
  /-- A step of the driver other than its handling of a batch. -/
  | driver (a : WriteTarget.Action)
  | deliver (i : Nat) (allocated : Bool)
  | stage (k : Nat) (status : NtStatus) (enqueued : Bool)
  | steal
  | send
  | handle
  | reply
  | fail (status : NtStatus)
  | apply (push : NtStatus) (allocated : Bool)
  | requestStop
  | noticeStop
deriving DecidableEq, Repr

/-- One section. -/
def step (dataBuffer : Nat → Bytes) (s : WritePlane) : Action → Option WritePlane
  | .driver (.ackRange _) => none
  | .driver a => (s.target.step dataBuffer a).map fun target => { s with target }
  | .deliver i allocated => s.deliver i allocated
  | .stage k status enqueued => s.stage k status enqueued
  | .steal => s.steal
  | .send => s.send
  | .handle => s.handle
  | .reply => s.reply
  | .fail status => s.fail status
  | .apply push allocated => s.apply push allocated
  | .requestStop => some { s with stopRequested := true }
  | .noticeStop => s.noticeStop

/-- A disk just started. -/
def init (params : WriteParams) (queueDepth : Nat) : WritePlane where
  params
  target := .init params.sectorSize
  track := { queueDepth }

/-! ## What a section does -/

section Cases

variable {dataBuffer : Nat → Bytes} {s s' : WritePlane}

theorem driver_cases {a : WriteTarget.Action} (hs : s.step dataBuffer (.driver a) = some s') :
    (∀ range, a ≠ .ackRange range) ∧
      ∃ target, s.target.step dataBuffer a = some target ∧ s' = { s with target } := by
  cases a with
  | ackRange range => cases hs
  | _ =>
    simp only [step] at hs
    obtain ⟨target, htarget, rfl⟩ := Option.map_eq_some_iff.mp hs
    exact ⟨fun _ heq => (by cases heq), target, htarget, rfl⟩

/-- A slot whose header is not valid is taken, and nothing is staged. -/
theorem deliver_cases {i : Nat} {allocated : Bool} (hs : s.deliver i allocated = some s') :
    ∃ x header, s.target.issued[i]? = some x ∧ x.payload = .ok header ∧ i ∉ s.taken ∧
      (s' = { s with taken := i :: s.taken } ∨
        s.params.validateWriteSlotHeader header = true ∧
          let out := beginStage s.track header allocated
          s' = { s with
            taken := i :: s.taken
            track := out.1
            staging := s.staging ++ [{ header, decided := out.2 }] }) := by
  unfold deliver at hs
  split at hs
  · next header hissued =>
    split_ifs at hs with htaken hvalid
    · exact ⟨_, header, hissued, rfl, htaken, .inl (Option.some.inj hs).symm⟩
    · rw [Bool.not_eq_true, Bool.not_eq_false'] at hvalid
      exact ⟨_, header, hissued, rfl, htaken, .inr ⟨hvalid, (Option.some.inj hs).symm⟩⟩
  · cases hs

theorem steal_cases (hs : s.steal = some s') : s.shuttingDown = false ∧ s.flush = .idle ∧
    s' = { s with
      flush := .held (s.writeAcks.take s.params.ackBatchMaxRanges)
      writeAcks := s.writeAcks.drop s.params.ackBatchMaxRanges } := by
  unfold steal at hs
  split_ifs at hs with hidle
  obtain ⟨hshutting, hflush, -⟩ := not_or.mp hidle |>.imp_right not_or.mp
  exact ⟨Bool.eq_false_iff.mpr hshutting, not_not.mp hflush, (Option.some.inj hs).symm⟩

theorem send_cases (hs : s.send = some s') :
    ∃ ranges, s.flush = .held ranges ∧ s' = { s with flush := .sent ranges 0 [] } := by
  unfold send at hs
  split at hs
  · next ranges hflush =>
    split_ifs at hs
    exact ⟨ranges, hflush, (Option.some.inj hs).symm⟩
  · cases hs

theorem handle_cases (hs : s.handle = some s') : ∃ ranges index failures range,
    s.flush = .sent ranges index failures ∧ ranges[index]? = some range ∧
      let status := (s.target.queue.ackRange range).2.1
      s' = { s with
        target := s.target.ackRange range
        flush := .sent ranges (index + 1)
          (if ntSuccess status then failures else failures ++ [{ rangeIndex := index, status }]) } := by
  unfold handle at hs
  split at hs
  · next ranges index failures hflush =>
    obtain ⟨range, hr, rfl⟩ := Option.map_eq_some_iff.mp hs
    exact ⟨ranges, index, failures, range, hflush, hr, rfl⟩
  · cases hs

theorem reply_cases (hs : s.reply = some s') : ∃ ranges failures,
    s.flush = .sent ranges ranges.length failures ∧
      s' = { s with flush := .applying ranges failures 0 } := by
  unfold reply at hs
  split at hs
  · next ranges index failures hflush =>
    split_ifs at hs with hall
    exact ⟨ranges, failures, hall ▸ hflush, (Option.some.inj hs).symm⟩
  · cases hs

/-- **A batch that is not through** ends the flusher, or is sent again. -/
theorem fail_cases {status : NtStatus} (hs : s.fail status = some s') :
    (s.shuttingDown = true ∨ isRecoverableWriteAckStatus status = false) ∧ s' = s.shutDown ∨
      s.flush ≠ .idle ∧ s' = { s with flush := .held s.flush.payload } := by
  have hended : ∀ ranges, ranges = s.flush.payload → s.flush ≠ .idle →
      (if status = statusSuccess then none
        else if s.shuttingDown || !isRecoverableWriteAckStatus status then some s.shutDown
        else some { s with flush := .held ranges }) = some s' →
      (s.shuttingDown = true ∨ isRecoverableWriteAckStatus status = false) ∧ s' = s.shutDown ∨
        s.flush ≠ .idle ∧ s' = { s with flush := .held s.flush.payload } := by
    rintro ranges rfl hne hs
    split_ifs at hs with _ hends
    · rw [Bool.or_eq_true, Bool.not_eq_true'] at hends
      exact .inl ⟨hends, (Option.some.inj hs).symm⟩
    · exact .inr ⟨hne, (Option.some.inj hs).symm⟩
  unfold fail at hs
  dsimp only at hs
  split at hs
  · next ranges hflush => exact hended ranges (by rw [hflush]; rfl) (by simp [hflush]) hs
  · next ranges index failures hflush =>
    split at hs
    · exact hended ranges (by rw [hflush]; rfl) (by simp [hflush]) hs
    · cases hs
  · cases hs

/-- The flusher puts down an empty batch, or applies the next result. -/
theorem apply_cases {push : NtStatus} {allocated : Bool} (hs : s.apply push allocated = some s') :
    ∃ ranges failures index, s.flush = .applying ranges failures index ∧
      (ranges[index]? = none ∧ s' = { s with flush := .idle } ∨
        ∃ range, ranges[index]? = some range ∧
          let status := rangeStatus ranges failures index
          let out := s.track.applyWriteAckResult range status push allocated
          let applied := s.applied ++ [{
            eventId := range.eventId, seq := range.seqBase, success := status == statusSuccess }]
          out.2 = statusSuccess ∧
              s' = { s with
                track := out.1, applied, flush := .applying ranges failures (index + 1) } ∨
            out.2 ≠ statusSuccess ∧ s' = { s with track := out.1, applied }.shutDown) := by
  unfold apply at hs
  split at hs
  · next ranges failures index hflush =>
    refine ⟨ranges, failures, index, hflush, ?_⟩
    split at hs
    · next hnone => exact .inl ⟨hnone, (Option.some.inj hs).symm⟩
    · next range hr =>
      refine .inr ⟨range, hr, ?_⟩
      dsimp only at hs ⊢
      split at hs
      · next hok => exact .inl ⟨hok, (Option.some.inj hs).symm⟩
      · next hbad => exact .inr ⟨hbad, (Option.some.inj hs).symm⟩
  · cases hs

/-- The flusher ends if the driver has no batch of it. -/
theorem noticeStop_cases (hs : s.noticeStop = some s') :
    (s.flush = .idle ∨ ∃ ranges, s.flush = .held ranges) ∧ s' = s.shutDown ∨
      s' = { s with shuttingDown := true, writeAcks := [] } := by
  unfold noticeStop at hs
  split_ifs at hs
  split at hs
  · next hflush => exact .inl ⟨.inl hflush, (Option.some.inj hs).symm⟩
  · next ranges hflush => exact .inl ⟨.inr ⟨ranges, hflush⟩, (Option.some.inj hs).symm⟩
  · exact .inr (Option.some.inj hs).symm

/-- The result that is applied next, and those after it. -/
theorem payload_applying {ranges : List WriteAckRange} {failures : List WriteAckFailure}
    {index : Nat} {range : WriteAckRange} (hflush : s.flush = .applying ranges failures index)
    (hr : ranges[index]? = some range) : s.flush.payload = range :: ranges.drop (index + 1) := by
  rw [hflush]
  obtain ⟨hlt, rfl⟩ := List.getElem?_eq_some_iff.mp hr
  exact List.drop_eq_getElem_cons hlt

theorem payload_applied {ranges : List WriteAckRange} {failures : List WriteAckFailure}
    {index : Nat} (hflush : s.flush = .applying ranges failures index)
    (hnone : ranges[index]? = none) : s.flush.payload = [] := by
  rw [hflush]
  exact List.drop_eq_nil_of_le (List.getElem?_eq_none_iff.mp hnone)

end Cases

end WritePlane

end YumeDisk.AppKernel
