import YumeDisk.Cache.State

/-!
# The locked sections of a block read and a block write (`cache/mod.rs`)

`read_touched_block` and `write_touched_block` differ in what they do with a ready block and in the
patch that a write leaves on a placeholder; the rest is one body with the operation as a parameter.

* `loopTop`: from the lock at the top of the loop to the release of the lock.
* `afterWait`: what `wait_for_state_change` does once the condition variable wakes it.
* `finishLoad`, `finishTempLoad`: the section after the right-store read or the temp read.
-/

namespace YumeDisk.Cache

open YumeDisk.Lib Resident

/-- The arguments of one call: a read fills its buffer, a write takes its bytes from it. -/
inductive Op where
  | read (touched : TouchedBlock) (buffer : Bytes)
  | write (touched : TouchedBlock) (data : Bytes)
deriving DecidableEq, Repr

/-- What a successful call leaves its caller. -/
inductive Ret where
  | copied (buffer : Bytes)
  | patched
deriving DecidableEq, Repr

/-- `ReadBlockAction` and `WriteBlockAction`; `done` is `Copied` or `Patched`. -/
inductive BlockAction where
  | done (ret : Ret)
  | loadRemote (blockIndex blockBase : Nat)
  | rehydrate (blockIndex : Nat)
  | wait (reason : WaitReason)
deriving DecidableEq, Repr

def Op.touched : Op → TouchedBlock
  | .read touched _ => touched
  | .write touched _ => touched

def Op.buffer : Op → Bytes
  | .read _ buffer => buffer
  | .write _ data => data

/-! ## Waiters -/

def releaseForegroundDirtyWaiter (waitingForTempSlot : Bool) : CacheM Unit := do
  if !waitingForTempSlot then
    return ()
  else
    let w ← get
    if w.state.foregroundDirtyEvictionWaiters = 0 then
      violation "foreground dirty eviction waiter count underflow"
    else
      modifyState fun s =>
        { s with foregroundDirtyEvictionWaiters := s.foregroundDirtyEvictionWaiters - 1 }

/-- `wait_for_state_change` up to the wait; the result is the new `waiting_for_temp_slot`. -/
def beforeWait (waitingForTempSlot : Bool) : WaitReason → CacheM Bool
  | .generic => do
    releaseForegroundDirtyWaiter waitingForTempSlot
    return false
  | .dirtyEvictionTempSlot => do
    if !waitingForTempSlot then
      modifyState fun s =>
        { s with foregroundDirtyEvictionWaiters := s.foregroundDirtyEvictionWaiters + 1 }
    return true

/-- `wait_for_state_change` after the wait. -/
def afterWait (waitingForTempSlot : Bool) : CacheM Unit := do
  let w ← get
  if w.state.stopRequested then
    releaseForegroundDirtyWaiter waitingForTempSlot
    throw (.error .stopped)
  else
    return ()

/-! ## Ready blocks -/

def copyReadyBlock (touched : TouchedBlock) (buffer : Bytes) : CacheM Bytes := do
  let w ← get
  match w.state.resident.get touched.blockIndex with
  | none => violation "resident block missing during read copy"
  | some entry =>
    if entry.state.loadState ≠ .ready then
      violation "resident read copy requires ready block"
    else
      liftExcept (touched.copyFromBlock entry.data buffer)

/-! ## Misses -/

/-- The eviction that ends `prepare_resident_slot_for_insert` when the victim is not clean. -/
def spillVictim (victim : Nat) : CacheM PrepareInsertResult := do
  match ← onResident (evictBlock victim) with
  | none => violation "resident dirty victim missing during spill eviction"
  | some evicted =>
    if !evicted.entry.state.activeSnapshot then
      violation "dirty spill eviction requires active snapshot"
    else
      let w ← get
      modifyState fun s => { s with
        spilledDirty := s.spilledDirty.insert victim ⟨evicted.entry.state.validLen⟩ }
      if (w.state.spilledDirty.lookup victim).isSome then
        violation "spilled dirty block already exists during spill eviction"
      else
        return .reserved

/-- `outcome`: how the temp write ends, if the section makes one. -/
def prepareResidentSlotForInsert (config : CacheConfig) (outcome : TempWrite) :
    CacheM PrepareInsertResult := do
  let w ← get
  match w.state.resident.selectInsertVictim with
  | none => return .reserved
  | some victim =>
    if victim ∈ w.state.activeTempBlocks then
      return .wait .generic
    else
      match w.state.resident.get victim with
      | none => violation "resident victim missing during insert preparation"
      | some entry =>
        let hasDirtyRanges := !entry.state.dirtyRanges.isEmpty
        let hasActiveSnapshot := entry.state.activeSnapshot
        if entry.state.loadState ≠ .ready ∨ !entry.state.pendingPatches.isEmpty then
          return .wait .generic
        else if !hasDirtyRanges && !hasActiveSnapshot then
          match ← onResident (evictBlock victim) with
          | none => violation "resident clean victim missing during insert eviction"
          | some _ => return .reserved
        else if !hasActiveSnapshot && w.state.tempFileCount ≥ config.tempMaxFiles then
          return .wait .dirtyEvictionTempSlot
        else if hasDirtyRanges then
          TempStore.writeBlock outcome victim entry.data
          onResident (markSnapshotWritten victim)
          spillVictim victim
        else
          spillVictim victim

/-- The body of `prepare_read_miss` and `prepare_write_miss`; a write leaves its patch on the
placeholder. -/
def prepareMiss (config : CacheConfig) (outcome : TempWrite) (blockIndex blockBase validLen : Nat)
    (patch : Option (Range × Bytes)) : CacheM BlockAction := do
  let enqueue : CacheM Unit :=
    match patch with
    | none => pure ()
    | some (range, data) => onResident (enqueuePendingPatch blockIndex range data)
  let w ← get
  match w.state.spilledDirty.lookup blockIndex with
  | some spilled =>
    if blockIndex ∈ w.state.activeTempBlocks then
      return .wait .generic
    else
      match ← prepareResidentSlotForInsert config outcome with
      | .wait reason => return .wait reason
      | .reserved =>
        insertActiveTemp blockIndex
        onResident (insertLoadingPlaceholder blockIndex spilled.validLen .rehydrating false)
        enqueue
        return .rehydrate blockIndex
  | none =>
    match ← prepareResidentSlotForInsert config outcome with
    | .wait reason => return .wait reason
    | .reserved =>
      onResident (insertLoadingPlaceholder blockIndex validLen .loadingRemote false)
      enqueue
      return .loadRemote blockIndex blockBase

def prepareReadMiss (config : CacheConfig) (outcome : TempWrite)
    (blockIndex blockBase validLen : Nat) : CacheM BlockAction :=
  prepareMiss config outcome blockIndex blockBase validLen none

def prepareWriteMiss (config : CacheConfig) (outcome : TempWrite) (blockIndex blockBase : Nat)
    (patchRange : Range) (patchSlice : Bytes) (validLen : Nat) : CacheM BlockAction :=
  prepareMiss config outcome blockIndex blockBase validLen (some (patchRange, patchSlice))

/-! ## Plans -/

def planReadTouchedBlock (config : CacheConfig) (outcome : TempWrite) (touched : TouchedBlock)
    (buffer : Bytes) (validLen : Nat) : CacheM BlockAction := do
  let w ← get
  match w.state.resident.loadState touched.blockIndex with
  | some .ready =>
    let buffer ← copyReadyBlock touched buffer
    let _ ← onResident (recordHit touched.blockIndex)
    return .done (.copied buffer)
  | some .loadingRemote => return .wait .generic
  | some .rehydrating => return .wait .generic
  | none => prepareReadMiss config outcome touched.blockIndex touched.blockBase validLen

def planWriteTouchedBlock (config : CacheConfig) (outcome : TempWrite) (touched : TouchedBlock)
    (data : Bytes) (validLen : Nat) : CacheM BlockAction := do
  let patchSlice ← liftExcept (touched.patchSlice data)
  let w ← get
  match w.state.resident.loadState touched.blockIndex with
  | some .ready =>
    onResident (patchReadyBlock touched.blockIndex touched.blockRange patchSlice)
    let _ ← onResident (recordHit touched.blockIndex)
    return .done .patched
  | some .loadingRemote => return .wait .generic
  | some .rehydrating => return .wait .generic
  | none =>
    prepareWriteMiss config outcome touched.blockIndex touched.blockBase touched.blockRange
      patchSlice validLen

def planTouchedBlock (config : CacheConfig) (outcome : TempWrite) (validLen : Nat) :
    Op → CacheM BlockAction
  | .read touched buffer => planReadTouchedBlock config outcome touched buffer validLen
  | .write touched data => planWriteTouchedBlock config outcome touched data validLen

/-- `match plan { Ok(a) => a, Err(e) => { release(..)?; return Err(e) } }`. -/
def orRelease {α : Type} (waitingForTempSlot : Bool) (m : CacheM α) : CacheM α := fun w =>
  match m w with
  | .ok a w => .ok a w
  | .error .panic w => .error .panic w
  | .error (.error e) w =>
    (do releaseForegroundDirtyWaiter waitingForTempSlot
        throw (.error e) : CacheM α) w

/-- What a call does once it has released the lock at the end of an iteration. -/
inductive Next where
  | ret (ret : Ret)
  | wait (waitingForTempSlot : Bool)
  | readRight (blockIndex blockBase : Nat)
  | readTemp (blockIndex : Nat)
deriving DecidableEq, Repr

/-- The section at the top of the loop of `read_touched_block` and `write_touched_block`. -/
def loopTop (config : CacheConfig) (op : Op) (waitingForTempSlot : Bool)
    (outcome : TempWrite) : CacheM Next := do
  let w ← get
  if w.state.stopRequested then
    releaseForegroundDirtyWaiter waitingForTempSlot
    throw (.error .stopped)
  else
    match ← orRelease waitingForTempSlot
        (planTouchedBlock config outcome config.blockSizeBytes op) with
    | .done ret =>
      releaseForegroundDirtyWaiter waitingForTempSlot
      return .ret ret
    | .wait reason => return .wait (← beforeWait waitingForTempSlot reason)
    | .loadRemote blockIndex blockBase =>
      releaseForegroundDirtyWaiter waitingForTempSlot
      return .readRight blockIndex blockBase
    | .rehydrate blockIndex =>
      releaseForegroundDirtyWaiter waitingForTempSlot
      return .readTemp blockIndex

/-! ## The sections after an unlocked read -/

/-- The end of a call whose block has just become ready. -/
def answerLoaded : Op → CacheM Ret
  | .read touched buffer => do return .copied (← copyReadyBlock touched buffer)
  | .write _ _ => return .patched

def finishLoad (op : Op) (blockIndex : Nat) (result : Except CacheError Bytes) : CacheM Ret :=
  match result with
  | .ok loadedBlock => do
    onResident (finishRemoteLoad blockIndex loadedBlock)
    answerLoaded op
  | .error readError => do
    onResident (abortRemoteLoad blockIndex)
    throw (.error readError)

def finishRehydrate (blockIndex : Nat) (data : Bytes) : CacheM Unit := do
  onResident (finishRemoteLoad blockIndex data)
  let w ← get
  modifyState fun s => { s with spilledDirty := s.spilledDirty.erase blockIndex }
  match w.state.spilledDirty.lookup blockIndex with
  | none => violation "spilled dirty block missing during rehydrate completion"
  | some spilled =>
    match w.state.resident.get blockIndex with
    | none => violation "rehydrated resident block missing after load completion"
    | some entry =>
      if spilled.validLen ≠ entry.state.validLen then
        violation "spilled dirty valid_len mismatch during rehydrate completion"
      else
        onResident (attachActiveSnapshot blockIndex)

def finishTempLoad (op : Op) (blockIndex : Nat) (result : Except CacheError Bytes) :
    CacheM Ret := do
  removeActiveTemp blockIndex
  match result with
  | .ok loadedBlock =>
    finishRehydrate blockIndex loadedBlock
    answerLoaded op
  | .error readError =>
    onResident (abortRemoteLoad blockIndex)
    throw (.error readError)

end YumeDisk.Cache
