import YumeDisk.Cache.State

/-!
# The locked sections of the flush worker (`cache/worker.rs`)

* `selectExistingTempFlush`, `createSnapshotTempLocked`: what a due scan does.
* `workerIteration`: one iteration of the inner loop of `run_flush_worker`, from the lock to the
  wait or the break.
* `finishFlush`: the end of `flush_active_temp`, after the unlocked I/O.
-/

namespace YumeDisk.Cache

open YumeDisk.Lib Resident

def selectExistingTempFlush (config : CacheConfig) : CacheM (Option WorkerAction) := do
  let w ← get
  let notActive := fun b => decide (b ∉ w.state.activeTempBlocks)
  match (w.state.spilledDirty.keys.filter notActive).min? with
  | some blockIndex =>
    insertActiveTemp blockIndex
    let blockBase ← liftExcept (config.layout.blockBase blockIndex)
    return some (.flushTemp blockIndex blockBase)
  | none =>
    match w.state.resident.selectActiveSnapshotBlock notActive with
    | some blockIndex =>
      insertActiveTemp blockIndex
      let blockBase ← liftExcept (config.layout.blockBase blockIndex)
      return some (.flushTemp blockIndex blockBase)
    | none => return none

/-- `outcome`: how the temp write ends, if there is one; a failed write is not an error here. -/
def createSnapshotTempLocked (config : CacheConfig) (outcome : TempWrite) : CacheM Bool := do
  let w ← get
  if w.state.foregroundDirtyEvictionWaiters > 0 then
    return false
  else if w.state.tempFileCount ≥ config.tempMaxFiles then
    return false
  else
    match w.state.resident.selectSnapshotCandidate fun _ => true with
    | none => return false
    | some blockIndex =>
      match w.state.resident.get blockIndex with
      | none => violation "resident dirty block missing during worker snapshot creation"
      | some entry =>
        if entry.state.loadState ≠ .ready then
          violation "worker snapshot creation requires ready resident block"
        else if entry.state.activeSnapshot then
          violation "worker snapshot creation requires resident block without active snapshot"
        else if entry.state.dirtyRanges = [] then
          violation "worker snapshot creation requires resident dirty block"
        else if entry.state.pendingPatches ≠ [] then
          violation "worker snapshot creation requires resident block without pending patches"
        else if ← isErr (TempStore.writeBlock outcome blockIndex entry.data) then
          return false
        else
          onResident (markSnapshotWritten blockIndex)
          return true

/-- How an iteration of the worker's inner loop ends. -/
inductive WorkerNext where
  | stopped
  | wait (scanDue : Bool)
  | action (a : WorkerAction)
deriving DecidableEq, Repr

def workerIteration (config : CacheConfig) (scanDue : Bool) (outcome : TempWrite) :
    CacheM WorkerNext := do
  let w ← get
  if w.state.stopRequested then
    return .stopped
  else if scanDue then
    match ← selectExistingTempFlush config with
    | some action => return .action action
    | none =>
      if ← createSnapshotTempLocked config outcome then
        return .action .snapshotCreated
      else
        return .wait false
  else
    return .wait false

def finishFlushSuccess (blockIndex : Nat) : CacheM Unit := do
  let w ← get
  if (w.state.spilledDirty.lookup blockIndex).isSome then
    modifyState fun s => { s with spilledDirty := s.spilledDirty.erase blockIndex }
  else if (w.state.resident.get blockIndex).isSome then
    onResident (clearActiveSnapshot blockIndex)
  else
    violation "flushed temp block missing from resident and spilled tables"

def finishFlush (blockIndex : Nat) (flushOk : Bool) : CacheM Unit := do
  removeActiveTemp blockIndex
  if !flushOk then
    return ()
  else
    finishFlushSuccess blockIndex

end YumeDisk.Cache
