import Mathlib.Data.List.AList
import YumeDisk.Lib.Bytes
import YumeDisk.Lib.Exec
import YumeDisk.Cache.IndexedList

/-!
# The resident blocks (`resident/mod.rs`, `error.rs`)

`TwoQueueResident` keeps the blocks that are in memory, each in one of two queues: a FIFO for the
blocks seen once, an LRU for the blocks hit again.  Every method is the source's: a computation on
the resident that may stop with a `Fault`, which is an error of the source or a panic.

Byte ranges are pairs (start, end); the hash map is an association list without duplicate keys.
-/

namespace YumeDisk.Cache

open YumeDisk.Lib

/-- `CacheError`, without the variants that no modelled function returns. -/
inductive CacheError where
  | invalidConfig (reason : String)
  | invalidRange (offset length : Nat)
  | bufferTooSmall (context : String) (expected actual : Nat)
  | arithmeticOverflow (context : String)
  | invalidBlockDataLength (expected actual : Nat)
  | invalidValidLength (validLen blockSize : Nat)
  | misalignedRightIo (offset length blockSize : Nat)
  | tempIo (operation : String)
  | rightIo (operation : String)
  | residentBlockAlreadyExists (blockIndex : Nat)
  | invariantViolation (reason : String)
  | stopped
deriving DecidableEq, Repr

/-- Why a method did not return normally. -/
inductive Fault where
  | error (e : CacheError)
  | panic
deriving DecidableEq, Repr

inductive QueueRef where
  | fifo (node : ListNodeId)
  | lru (node : ListNodeId)
deriving DecidableEq, Repr

inductive LoadState where
  | loadingRemote
  | rehydrating
  | ready
deriving DecidableEq, Repr

abbrev Range := Nat × Nat

structure PendingPatch where
  range : Range
  data : Bytes
deriving DecidableEq, Repr

structure BlockState where
  queueRef : QueueRef
  loadState : LoadState
  dirtyRanges : List Range
  activeSnapshot : Bool
  pendingPatches : List PendingPatch
  validLen : Nat
deriving DecidableEq, Repr

structure BlockEntry where
  data : Bytes
  state : BlockState
deriving DecidableEq, Repr

structure EvictedBlock where
  blockIndex : Nat
  entry : BlockEntry
deriving DecidableEq, Repr

structure TouchResult where
  promoted : Bool
  evicted : Option EvictedBlock
deriving DecidableEq, Repr

/-- A hash map with `u64` keys. -/
abbrev HashMap (α : Type) := AList fun _ : Nat => α

structure Resident where
  blockSize : Nat
  fifoCapacity : Nat
  lruCapacity : Nat
  blocks : HashMap BlockEntry := ∅
  fifo : IndexedList := {}
  lru : IndexedList := {}

/-- `TwoQueueResident::new`. -/
def Resident.new (fifoCapacity lruCapacity blockSize : Nat) : Except CacheError Resident :=
  if fifoCapacity = 0 then
    throw (.invalidConfig "fifo_capacity_blocks must be greater than 0")
  else if lruCapacity = 0 then
    throw (.invalidConfig "lru_capacity_blocks must be greater than 0")
  else if blockSize = 0 then
    throw (.invalidConfig "block_size_bytes must be greater than 0")
  else
    return { blockSize, fifoCapacity, lruCapacity }

def BlockEntry.newLoading (blockSize : Nat) (queueRef : QueueRef) (loadState : LoadState)
    (validLen : Nat) (activeSnapshot : Bool) : BlockEntry where
  data := List.replicate blockSize 0
  state := {
    queueRef, loadState, validLen, activeSnapshot, dirtyRanges := [], pendingPatches := [] }

/-- Ready, and nothing of it is only in memory: what may be dropped without a write. -/
def BlockEntry.isClean (e : BlockEntry) : Bool :=
  e.state.loadState = .ready && e.state.dirtyRanges.isEmpty && !e.state.activeSnapshot &&
    e.state.pendingPatches.isEmpty

/-- `matches!(load_state, LoadingRemote | Rehydrating)`. -/
def LoadState.isLoading : LoadState → Bool
  | .loadingRemote => true
  | .rehydrating => true
  | .ready => false

namespace Resident

abbrev M := EStateM Fault Resident

def violation {σ α : Type} (reason : String) : EStateM Fault σ α :=
  throw (.error (.invariantViolation reason))

def get (r : Resident) (blockIndex : Nat) : Option BlockEntry := r.blocks.lookup blockIndex

/-- `resident.get(block_index).map(|entry| entry.state.load_state)`. -/
def loadState (r : Resident) (blockIndex : Nat) : Option LoadState :=
  (r.get blockIndex).map fun entry => entry.state.loadState

def isQuiescent (r : Resident) : Bool := r.blocks.entries.all fun x => x.2.isClean

def activeSnapshotCount (r : Resident) : Nat :=
  r.blocks.entries.countP fun x => x.2.state.activeSnapshot

def selectActiveSnapshotBlock (r : Resident) (canSelect : Nat → Bool) : Option Nat :=
  ((r.blocks.entries.filter fun x =>
    x.2.state.loadState = .ready && x.2.state.activeSnapshot && canSelect x.1).map (·.1)).min?

def selectSnapshotCandidate (r : Resident) (canSelect : Nat → Bool) : Option Nat :=
  ((r.blocks.entries.filter fun x =>
    x.2.state.loadState = .ready && !x.2.state.activeSnapshot && !x.2.state.dirtyRanges.isEmpty &&
      x.2.state.pendingPatches.isEmpty && canSelect x.1).map (·.1)).min?

def selectInsertVictim (r : Resident) : Option Nat :=
  if r.fifo.len < r.fifoCapacity then none else r.fifo.frontValue

/-- An operation on the FIFO; a failed `unwrap` inside it is a panic. -/
def onFifo {α : Type} (op : IndexedList → Option (α × IndexedList)) : M α := do
  let r ← MonadState.get
  match op r.fifo with
  | none => throw .panic
  | some (a, l) => set { r with fifo := l }; return a

def onLru {α : Type} (op : IndexedList → Option (α × IndexedList)) : M α := do
  let r ← MonadState.get
  match op r.lru with
  | none => throw .panic
  | some (a, l) => set { r with lru := l }; return a

/-- `self.blocks.insert(block_index, entry)`, also for a change through `get_mut`. -/
def put (blockIndex : Nat) (entry : BlockEntry) : M Unit :=
  modify fun r => { r with blocks := r.blocks.insert blockIndex entry }

def validateLoadingInsert (blockIndex validLen : Nat) : M Unit := do
  let r ← MonadState.get
  if (r.get blockIndex).isSome then
    throw (.error (.residentBlockAlreadyExists blockIndex))
  else if validLen = 0 ∨ validLen > r.blockSize then
    throw (.error (.invalidValidLength validLen r.blockSize))
  else
    return ()

def insertLoadingPlaceholder (blockIndex validLen : Nat) (loadState : LoadState)
    (activeSnapshot : Bool) : M Unit := do
  validateLoadingInsert blockIndex validLen
  let r ← MonadState.get
  if r.fifo.len = r.fifoCapacity then
    violation "fifo must have free capacity before inserting loading placeholder"
  else
    let node ← onFifo (·.pushBack blockIndex)
    put blockIndex (.newLoading r.blockSize (.fifo node) loadState validLen activeSnapshot)

def validatePatch {σ : Type} (range : Range) (dataLen blockLen : Nat) : EStateM Fault σ Unit :=
  if range.1 > range.2 ∨ range.2 > blockLen then
    violation "resident patch range exceeds block bounds"
  else if dataLen ≠ range.2 - range.1 then
    violation "resident patch data length does not match range"
  else
    return ()

/-- `apply_patch` on the entry alone. -/
def applyPatch (entry : BlockEntry) (range : Range) (data : Bytes) : M BlockEntry := do
  validatePatch range data.length entry.data.length
  return { entry with
    data := splice entry.data range.1 data
    state := { entry.state with dirtyRanges := entry.state.dirtyRanges ++ [range] } }

def applyPatches (entry : BlockEntry) : List PendingPatch → M BlockEntry
  | [] => return entry
  | p :: ps => do
    let entry ← applyPatch entry p.range p.data
    applyPatches entry ps

def applyPendingPatches (entry : BlockEntry) : M BlockEntry :=
  applyPatches { entry with state := { entry.state with pendingPatches := [] } }
    entry.state.pendingPatches

def finishRemoteLoad (blockIndex : Nat) (data : Bytes) : M Unit := do
  let r ← MonadState.get
  if data.length ≠ r.blockSize then
    throw (.error (.invalidBlockDataLength r.blockSize data.length))
  else
    match r.get blockIndex with
    | none => violation "loading resident block missing during load completion"
    | some entry =>
      if !entry.state.loadState.isLoading then
        violation "resident block load completion requires loading state"
      else
        let entry ← applyPendingPatches { entry with data }
        put blockIndex { entry with state := { entry.state with loadState := .ready } }

def enqueuePendingPatch (blockIndex : Nat) (range : Range) (data : Bytes) : M Unit := do
  let r ← MonadState.get
  match r.get blockIndex with
  | none => violation "loading resident block missing during pending patch enqueue"
  | some entry =>
    if !entry.state.loadState.isLoading then
      violation "pending patch enqueue requires loading state"
    else
      validatePatch range data.length entry.data.length
      put blockIndex { entry with state := { entry.state with
        pendingPatches := entry.state.pendingPatches ++ [⟨range, data⟩] } }

def patchReadyBlock (blockIndex : Nat) (range : Range) (data : Bytes) : M Unit := do
  let r ← MonadState.get
  match r.get blockIndex with
  | none => violation "ready resident block missing during patch"
  | some entry =>
    if entry.state.loadState ≠ .ready then
      violation "resident block patch requires ready state"
    else
      let entry ← applyPatch entry range data
      put blockIndex entry

def evictBlock (blockIndex : Nat) : M (Option EvictedBlock) := do
  let r ← MonadState.get
  match r.get blockIndex with
  | none => return none
  | some entry =>
    match entry.state.queueRef with
    | .fifo node =>
      match ← onFifo (·.remove node) with
      | none => violation "fifo node missing during block eviction"
      | some removed =>
        if removed ≠ blockIndex then
          violation "fifo node value mismatch during block eviction"
    | .lru node =>
      match ← onLru (·.remove node) with
      | none => violation "lru node missing during block eviction"
      | some removed =>
        if removed ≠ blockIndex then
          violation "lru node value mismatch during block eviction"
    modify fun r => { r with blocks := r.blocks.erase blockIndex }
    return some ⟨blockIndex, entry⟩

def abortRemoteLoad (blockIndex : Nat) : M Unit := do
  let r ← MonadState.get
  match r.get blockIndex with
  | none => violation "loading resident block missing during load rollback"
  | some entry =>
    if !entry.state.loadState.isLoading then
      violation "resident block load rollback requires loading state"
    else
      match ← evictBlock blockIndex with
      | none => violation "loading resident block missing during queue rollback"
      | some _ => return ()

/-- The body of `mark_snapshot_written`, `clear_active_snapshot` and `attach_active_snapshot`: a
change of the state of a ready block. -/
def updateReady (missing notReady : String) (blockIndex : Nat)
    (f : BlockState → M BlockState) : M Unit := do
  let r ← MonadState.get
  match r.get blockIndex with
  | none => violation missing
  | some entry =>
    if entry.state.loadState ≠ .ready then
      violation notReady
    else
      let state ← f entry.state
      put blockIndex { entry with state }

def markSnapshotWritten (blockIndex : Nat) : M Unit :=
  updateReady "resident block missing during snapshot activation"
    "snapshot activation requires ready resident block" blockIndex
    fun st => return { st with activeSnapshot := true, dirtyRanges := [] }

def clearActiveSnapshot (blockIndex : Nat) : M Unit :=
  updateReady "resident block missing during snapshot clear"
    "snapshot clear requires ready resident block" blockIndex
    fun st =>
      if !st.activeSnapshot then violation "snapshot clear requires active snapshot"
      else return { st with activeSnapshot := false }

def attachActiveSnapshot (blockIndex : Nat) : M Unit :=
  updateReady "resident block missing during active snapshot attach"
    "active snapshot attach requires ready resident block" blockIndex
    fun st => return { st with activeSnapshot := true }

def canEvictLruHeadForPromotion : M Bool := do
  let r ← MonadState.get
  match r.lru.frontValue with
  | none => violation "lru missing head while promotion path reports full"
  | some blockIndex =>
    match r.get blockIndex with
    | none => violation "resident block missing for lru promotion victim"
    | some entry => return entry.isClean

def evictLruHead : M (Option EvictedBlock) := do
  match ← onLru (·.popFront) with
  | none => return none
  | some blockIndex =>
    let r ← MonadState.get
    match r.get blockIndex with
    | none => violation "resident block missing after lru head eviction"
    | some entry =>
      set { r with blocks := r.blocks.erase blockIndex }
      return some ⟨blockIndex, entry⟩

/-- The promotion of a block of the FIFO to the LRU, once there may be room for it. -/
def promote (blockIndex : Nat) (node : ListNodeId) : M TouchResult := do
  match ← onFifo (·.remove node) with
  | none => violation "fifo node missing during promotion"
  | some removed =>
    if removed ≠ blockIndex then
      violation "fifo node value mismatch during promotion"
    else
      let r ← MonadState.get
      let evicted ← if r.lru.len = r.lruCapacity then evictLruHead else pure none
      let newNode ← onLru (·.pushBack blockIndex)
      let r ← MonadState.get
      match r.get blockIndex with
      | none => throw .panic
      | some entry =>
        put blockIndex { entry with state := { entry.state with queueRef := .lru newNode } }
        return { promoted := true, evicted }

def recordHit (blockIndex : Nat) : M (Option TouchResult) := do
  let r ← MonadState.get
  match r.get blockIndex with
  | none => return none
  | some entry =>
    if entry.state.loadState ≠ .ready then
      violation "resident hit recorded before block became ready"
    else
      match entry.state.queueRef with
      | .fifo node =>
        let room ← if r.lru.len = r.lruCapacity then canEvictLruHeadForPromotion else pure true
        if !room then return some { promoted := false, evicted := none }
        else return some (← promote blockIndex node)
      | .lru node =>
        if !(← onLru (·.moveToBack node)) then
          violation "lru node missing during hit refresh"
        else
          return some { promoted := false, evicted := none }

end Resident

end YumeDisk.Cache
