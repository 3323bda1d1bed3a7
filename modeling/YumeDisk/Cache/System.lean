import YumeDisk.Lib.Linear
import YumeDisk.Lib.Run
import YumeDisk.Cache.Object
import YumeDisk.Cache.Worker

/-!
# The cache as a transition system (`cache/mod.rs`, `cache/worker.rs`)

Any number of block reads and block writes run next to the flush worker.  A step is one section
under the lock, or one unlocked I/O: a right-store read or write, a temp read, a temp removal.  The
action of a step names the thread and carries what the program does not control: the outcome of the
I/O, and whether a timed wait timed out.  A wait may end at any time.

A panic under the lock poisons it: every later `lock().unwrap()` panics, so nothing runs any more.

`hist` is the history of the calls.  It is not state of the program: no step reads it.  A call
responds in the last section it runs under the lock, before the caller can see the result.
-/

namespace YumeDisk.Cache

open YumeDisk.Lib

/-- Where a call is. -/
inductive Phase where
  | entering (waitingForTempSlot : Bool)
  | waiting (waitingForTempSlot : Bool)
  | readRight (blockIndex blockBase : Nat)
  | rightRead (blockIndex : Nat) (result : Except CacheError Bytes)
  | readTemp (blockIndex : Nat)
  | tempRead (blockIndex : Nat) (result : Except CacheError Bytes)
  | returned

structure Call where
  op : Op
  phase : Phase

/-- Where the flush worker is; the flush phases are those of `flush_active_temp`. -/
inductive WorkerPhase where
  | running (scanDue : Bool)
  | waiting (scanDue : Bool)
  | flushRead (blockIndex blockBase : Nat)
  | flushWrite (blockIndex blockBase : Nat) (tempBuffer : Bytes)
  | flushRemove (blockIndex : Nat)
  | flushFinish (blockIndex : Nat) (flushOk : Bool)
  | exited

structure Sys where
  config : CacheConfig
  world : World
  calls : Nat → Option Call
  worker : WorkerPhase
  poisoned : Bool
  hist : List (HistEvent Nat Op Ret)

/-- `Cache::build`. -/
def build (config : CacheConfig) (right : Nat → UInt8) (temp : TempStore) :
    Except CacheError Sys := do
  if config.tempMaxFiles = 0 then
    throw (.invalidConfig "temp_max_files must be greater than 0")
  else
    let layout ← BlockLayout.new config.blockSizeBytes
    let resident ←
      Resident.new config.fifoCapacityBlocks config.lruCapacityBlocks layout.blockSize
    return {
      config
      world := { state := { resident }, temp, right }
      calls := fun _ => none
      worker := .running false
      poisoned := false
      hist := [] }

inductive Action where
  | readBlock (i offset : Nat) (buffer : Bytes) (k : Nat)
  | writeBlock (i offset : Nat) (data : Bytes) (k : Nat)
  | lock (i : Nat) (outcome : TempWrite)
  | wake (i : Nat)
  | rightRead (i : Nat) (ok : Bool)
  | tempRead (i : Nat) (ok : Bool)
  | finish (i : Nat)
  | workerLock (outcome : TempWrite)
  | workerWake (timedOut : Bool) (outcome : TempWrite)
  | flushRead (ok : Bool)
  | flushWrite (ok : Bool) (torn : Bytes)
  | flushRemove (ok : Bool)
  | flushFinish
  | stop
deriving Repr

namespace Sys

def setPhase (s : Sys) (i : Nat) (op : Op) (phase : Phase) : Sys :=
  { s with calls := Function.update s.calls i (some ⟨op, phase⟩) }

/-- The call `i` returns. -/
def respond (s : Sys) (i : Nat) (op : Op) (r : Option Ret) : Sys :=
  { s.setPhase i op .returned with hist := s.hist ++ [.respond i op r] }

/-- A section under the lock; `k` is what its thread does with the result. -/
def locked {α : Type} (s : Sys) (m : CacheM α) (k : Sys → Except CacheError α → Sys) : Sys :=
  match m s.world with
  | .ok a w => k { s with world := w } (.ok a)
  | .error (.error e) w => k { s with world := w } (.error e)
  | .error .panic w => { s with world := w, poisoned := true }

/-- A call starts on the block `k` of its request. -/
def invoke (s : Sys) (i offset k : Nat) (buffer : Bytes) (op : TouchedBlock → Op) : Option Sys :=
  match s.calls i, s.config.layout.touchedBlocks offset buffer.length with
  | none, .ok blocks =>
    blocks[k]?.map fun touched =>
      { s.setPhase i (op touched) (.entering false) with
        hist := s.hist ++ [.invoke i (op touched)] }
  | _, _ => none

def afterLoopTop (i : Nat) (op : Op) (s : Sys) : Except CacheError Next → Sys
  | .ok (.ret ret) => s.respond i op (some ret)
  | .ok (.wait waiting) => s.setPhase i op (.waiting waiting)
  | .ok (.readRight b base) => s.setPhase i op (.readRight b base)
  | .ok (.readTemp b) => s.setPhase i op (.readTemp b)
  | .error _ => s.respond i op none

def afterWaiting (i : Nat) (op : Op) (waiting : Bool) (s : Sys) : Except CacheError Unit → Sys
  | .ok _ => s.setPhase i op (.entering waiting)
  | .error _ => s.respond i op none

def afterFinish (i : Nat) (op : Op) (s : Sys) : Except CacheError Ret → Sys
  | .ok ret => s.respond i op (some ret)
  | .error _ => s.respond i op none

/-- An error of the worker's section is a panic: `expect`. -/
def afterWorkerIteration (s : Sys) : Except CacheError WorkerNext → Sys
  | .ok .stopped => { s with worker := .exited }
  | .ok (.wait scanDue) => { s with worker := .waiting scanDue }
  | .ok (.action (.flushTemp b base)) => { s with worker := .flushRead b base }
  | .ok (.action .snapshotCreated) => { s with worker := .running true }
  | .error _ => { s with poisoned := true }

def afterFlushFinish (s : Sys) : Except CacheError Unit → Sys
  | .ok _ => { s with worker := .running true }
  | .error _ => { s with poisoned := true }

/-- `read_right_block`. -/
def readRightBlock (s : Sys) (ok : Bool) (offset : Nat) : Except CacheError Bytes := do
  s.config.layout.validateRightIo offset s.config.blockSizeBytes
  if ok then return readAt s.world.right offset s.config.blockSizeBytes
  else throw (.rightIo "read_at")

/-- `validate_right_io` and `right.write_at` of the flush: whether it succeeded, and the right store
after it.  A write that fails may have left anything, here `torn`, at the start of its range. -/
def writeRightBlock (s : Sys) (ok : Bool) (offset : Nat) (data torn : Bytes) :
    Bool × (Nat → UInt8) :=
  match s.config.layout.validateRightIo offset data.length with
  | .error _ => (false, s.world.right)
  | .ok _ =>
    if ok then (true, writeAt s.world.right offset data)
    else (false, writeAt s.world.right offset (torn.take data.length))

/-- A write puts its bytes in place, or fails and touches only the range it was for. -/
theorem writeRightBlock_cases (s : Sys) (ok : Bool) (offset : Nat) (data torn : Bytes) :
    s.writeRightBlock ok offset data torn = (true, writeAt s.world.right offset data) ∨
    ∃ left : Bytes, left.length ≤ data.length ∧
      s.writeRightBlock ok offset data torn = (false, writeAt s.world.right offset left) := by
  unfold writeRightBlock
  cases s.config.layout.validateRightIo offset data.length with
  | error e => exact .inr ⟨[], Nat.zero_le _, by rw [writeAt_nil]⟩
  | ok _ =>
    cases ok with
    | true => exact .inl rfl
    | false => exact .inr ⟨_, List.length_take_le .., rfl⟩

def stepCall (s : Sys) (i : Nat) (op : Op) : Phase → Action → Option Sys
  | .entering waiting, .lock _ outcome =>
    some (s.locked (loopTop s.config op waiting outcome) (afterLoopTop i op))
  | .waiting waiting, .wake _ => some (s.locked (afterWait waiting) (afterWaiting i op waiting))
  | .readRight b base, .rightRead _ ok =>
    some (s.setPhase i op (.rightRead b (s.readRightBlock ok base)))
  | .readTemp b, .tempRead _ ok =>
    some (s.setPhase i op (.tempRead b (s.world.temp.readBlock ok b s.config.blockSizeBytes)))
  | .rightRead b result, .finish _ => some (s.locked (finishLoad op b result) (afterFinish i op))
  | .tempRead b result, .finish _ => some (s.locked (finishTempLoad op b result) (afterFinish i op))
  | _, _ => none

def stepWorker (s : Sys) : WorkerPhase → Action → Option Sys
  | .running scanDue, .workerLock outcome =>
    some (s.locked (workerIteration s.config scanDue outcome) afterWorkerIteration)
  | .waiting scanDue, .workerWake timedOut outcome =>
    some (s.locked (workerIteration s.config (scanDue || timedOut) outcome) afterWorkerIteration)
  | .flushRead b base, .flushRead ok =>
    match s.world.temp.readBlock ok b s.config.blockSizeBytes with
    | .ok tempBuffer => some { s with worker := .flushWrite b base tempBuffer }
    | .error _ => some { s with worker := .flushFinish b false }
  | .flushWrite b base tempBuffer, .flushWrite ok torn =>
    match s.writeRightBlock ok base tempBuffer torn with
    | (true, right) => some { s with worker := .flushRemove b, world := { s.world with right } }
    | (false, right) =>
      some { s with worker := .flushFinish b false, world := { s.world with right } }
  | .flushRemove b, .flushRemove ok =>
    some { s with
      worker := .flushFinish b ok
      world := { s.world with temp := s.world.temp.removeBlock ok b } }
  | .flushFinish b flushOk, .flushFinish => some (s.locked (finishFlush b flushOk) afterFlushFinish)
  | _, _ => none

/-- The call that an action is a step of. -/
def actor : Action → Option Nat
  | .lock i _ | .wake i | .rightRead i _ | .tempRead i _ | .finish i => some i
  | _ => none

def step (s : Sys) (a : Action) : Option Sys :=
  if s.poisoned then
    none
  else
    match a with
    | .readBlock i offset buffer k => s.invoke i offset k buffer fun touched => .read touched buffer
    | .writeBlock i offset data k => s.invoke i offset k data fun touched => .write touched data
    | .stop => some { s with world := { s.world with
        state := { s.world.state with stopRequested := true } } }
    | a =>
      match actor a with
      | some i => (s.calls i).bind fun c => s.stepCall i c.op c.phase a
      | none => s.stepWorker s.worker a

end Sys

/-- The content of every block after the calls that have returned `Ok`. -/
def Sys.logical (s : Sys) (right : Nat → UInt8) : Nat → Bytes :=
  stateAfter applyOp (initialBlocks s.config right) (okResponses s.hist)

end YumeDisk.Cache
