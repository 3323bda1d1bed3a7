import Mathlib.Data.Finset.Basic
import YumeDisk.Cache.Block

/-!
# The shared state of the cache (`cache/state.rs`, `temp.rs`)

`CacheState` is what the mutex guards.  A locked section also reads and writes the temp store, so it
is a computation on `World`: the guarded state, the temp files and the right store.  A file
operation takes the outcome of its I/O as an argument.
-/

namespace YumeDisk.Cache

open YumeDisk.Lib

inductive WaitReason where
  | generic
  | dirtyEvictionTempSlot
deriving DecidableEq, Repr

structure SpilledDirty where
  validLen : Nat
deriving DecidableEq, Repr

inductive PrepareInsertResult where
  | reserved
  | wait (reason : WaitReason)
deriving DecidableEq, Repr

inductive WorkerAction where
  | flushTemp (blockIndex blockBase : Nat)
  | snapshotCreated
deriving DecidableEq, Repr

structure CacheState where
  resident : Resident
  spilledDirty : HashMap SpilledDirty := ∅
  activeTempBlocks : Finset Nat := ∅
  foregroundDirtyEvictionWaiters : Nat := 0
  stopRequested : Bool := false

namespace CacheState

def tempFileCount (s : CacheState) : Nat :=
  s.spilledDirty.keys.length + s.resident.activeSnapshotCount

def isQuiescent (s : CacheState) : Bool :=
  if s.stopRequested || !s.spilledDirty.keys.isEmpty || s.activeTempBlocks ≠ ∅ ||
      s.foregroundDirtyEvictionWaiters ≠ 0 then
    false
  else
    s.resident.isQuiescent

end CacheState

/-- The configuration, without the scan interval and the directory: no modelled step reads them. -/
structure CacheConfig where
  fifoCapacityBlocks : Nat
  lruCapacityBlocks : Nat
  blockSizeBytes : Nat
  tempMaxFiles : Nat
deriving DecidableEq, Repr

def CacheConfig.layout (config : CacheConfig) : BlockLayout := ⟨config.blockSizeBytes⟩

/-- The file of each block, if there is one. -/
abbrev TempStore := Nat → Option Bytes

structure World where
  state : CacheState
  temp : TempStore
  right : Nat → UInt8

abbrev CacheM := EStateM Fault World

/-- A method of the resident, on the resident of the guarded state. -/
def onResident {α : Type} (m : Resident.M α) : CacheM α := fun w =>
  match m w.state.resident with
  | .ok a r => .ok a { w with state := { w.state with resident := r } }
  | .error e r => .error e { w with state := { w.state with resident := r } }

def liftExcept {σ α : Type} : Except CacheError α → EStateM Fault σ α
  | .ok a => pure a
  | .error e => throw (.error e)

def modifyState (f : CacheState → CacheState) : CacheM Unit :=
  modify fun w => { w with state := f w.state }

/-- `.is_err()` on the result of `m`. -/
def isErr (m : CacheM Unit) : CacheM Bool := fun w =>
  match m w with
  | .ok _ w => .ok false w
  | .error .panic w => .error .panic w
  | .error (.error _) w => .ok true w

/-- `debug_assert!`. -/
def debugAssert {σ : Type} (p : Bool) : EStateM Fault σ Unit := if p then return () else throw .panic

/-- `active_temp_blocks.insert`, with the assertion that the block is new. -/
def insertActiveTemp (blockIndex : Nat) : CacheM Unit := do
  let w ← get
  modifyState fun s => { s with activeTempBlocks := insert blockIndex s.activeTempBlocks }
  debugAssert (blockIndex ∉ w.state.activeTempBlocks)

/-- `active_temp_blocks.remove`, with the assertion that the block was there. -/
def removeActiveTemp (blockIndex : Nat) : CacheM Unit := do
  let w ← get
  modifyState fun s => { s with activeTempBlocks := s.activeTempBlocks.erase blockIndex }
  debugAssert (blockIndex ∈ w.state.activeTempBlocks)

/-- How `write_block` ends.  It moves the old file away before it moves the new one into place:
`lost` is when the second move failed and so did the one that puts the old file back. -/
inductive TempWrite where
  | written
  | failed
  | lost
deriving DecidableEq, Repr

namespace TempStore

def writeBlock (outcome : TempWrite) (blockIndex : Nat) (data : Bytes) : CacheM Unit :=
  match outcome with
  | .written => modify fun w => { w with temp := Function.update w.temp blockIndex (some data) }
  | .failed => throw (.error (.tempIo "write temp file"))
  | .lost => do
    modify fun w => { w with temp := Function.update w.temp blockIndex none }
    throw (.error (.tempIo "rename pending temp file into place"))

/-- `File::open` and `read_exact` of `len` bytes. -/
def readBlock (temp : TempStore) (ok : Bool) (blockIndex len : Nat) : Except CacheError Bytes :=
  if !ok then
    throw (.tempIo "read temp file")
  else
    match temp blockIndex with
    | none => throw (.tempIo "open temp file for read")
    | some data =>
      if data.length < len then throw (.tempIo "read temp file") else return data.take len

/-- `remove_if_exists`, and whether it succeeded. -/
def removeBlock (temp : TempStore) (ok : Bool) (blockIndex : Nat) : TempStore :=
  if ok then Function.update temp blockIndex none else temp

theorem readBlock_ok {temp : TempStore} {ok : Bool} {b len : Nat} {d : Bytes}
    (h : temp.readBlock ok b len = .ok d) :
    ∃ data, temp b = some data ∧ len ≤ data.length ∧ d = data.take len := by
  unfold readBlock at h
  cases ok with
  | false => cases h
  | true =>
    rw [if_neg (by simp)] at h
    cases hb : temp b with
    | none =>
      rw [hb] at h
      cases h
    | some data =>
      rw [hb] at h
      dsimp only at h
      by_cases hl : data.length < len
      · rw [if_pos hl] at h
        cases h
      · rw [if_neg hl] at h
        exact ⟨data, rfl, Nat.le_of_not_lt hl, (Except.ok.inj h).symm⟩

/-- A read of a temp file fails with an I/O error. -/
theorem readBlock_error {temp : TempStore} {ok : Bool} {b len : Nat} {e : CacheError}
    (h : temp.readBlock ok b len = .error e) : ∃ operation, e = .tempIo operation := by
  unfold readBlock at h
  split at h
  · exact ⟨_, (Except.error.inj h).symm⟩
  · split at h
    · exact ⟨_, (Except.error.inj h).symm⟩
    · split at h
      · exact ⟨_, (Except.error.inj h).symm⟩
      · cases h

end TempStore

/-! ## Running a locked section -/

section Run

variable {α : Type} {w : World} {m : Resident.M α}

theorem onResident_ok {a : α} {r : Resident} (h : m w.state.resident = .ok a r) :
    onResident m w = .ok a { w with state := { w.state with resident := r } } := by
  simp only [onResident, h]

theorem insertActiveTemp_ok {b : Nat} (h : b ∉ w.state.activeTempBlocks) :
    insertActiveTemp b w = .ok () { w with state := { w.state with
      activeTempBlocks := insert b w.state.activeTempBlocks } } := by
  simp [insertActiveTemp, modifyState, debugAssert, h]

theorem removeActiveTemp_ok {b : Nat} (h : b ∈ w.state.activeTempBlocks) :
    removeActiveTemp b w = .ok () { w with state := { w.state with
      activeTempBlocks := w.state.activeTempBlocks.erase b } } := by
  simp [removeActiveTemp, modifyState, debugAssert, h]

/-- What quiescence says. -/
theorem CacheState.isQuiescent_iff {s : CacheState} : s.isQuiescent ↔ s.stopRequested = false ∧
    s.spilledDirty.keys = [] ∧ s.activeTempBlocks = ∅ ∧ s.foregroundDirtyEvictionWaiters = 0 ∧
      s.resident.isQuiescent := by
  unfold isQuiescent
  split
  · rename_i h
    simp only [Bool.or_eq_true, Bool.not_eq_true', List.isEmpty_eq_false_iff, decide_eq_true_eq] at h
    constructor
    · intro hf
      cases hf
    · rintro ⟨h₁, h₂, h₃, h₄, -⟩
      simp [h₁, h₂, h₃, h₄] at h
  · rename_i h
    simp only [Bool.or_eq_true, Bool.not_eq_true', List.isEmpty_eq_false_iff, decide_eq_true_eq,
      not_or, not_not, Bool.not_eq_true] at h
    tauto

end Run

end YumeDisk.Cache
