import YumeDisk.Cache.BlockTiling
import YumeDisk.Cache.Linearizable
import YumeDisk.Lib.History

/-!
# The cache as an array of bytes (`Cache::read_locked`, `Cache::write_locked`)

The two calls go through the blocks that a request touches, one block call after the other; the
first error ends them.  The medium of a disk stands behind a lock of its owner: any number of reads
run at the same time, a write runs alone.  The flush worker runs next to all of them.

* `FlatStore.step`: a step of a call, of one of its block calls, or of the worker.
* `FlatEvent.apply`: what a call means to an array of bytes.
* `flat_store`: **the cache is an array of bytes**, where a write that fails has written a part of
  its data.
-/

namespace YumeDisk.Cache

open YumeDisk.Lib

/-! ## The calls -/

/-- A call of `read_locked`, whose buffer fills up, or of `write_locked`. -/
structure FlatCall where
  offset : Nat
  buffer : Bytes
  touched : List TouchedBlock
  /-- The blocks that are done. -/
  done : Nat := 0
  /-- The block call that runs. -/
  current : Option Nat := none

/-- What has become of a call. -/
inductive FlatEvent where
  | read (offset : Nat) (result : Bytes)
  | readFailed (offset length : Nat)
  | wrote (offset : Nat) (data : Bytes)
  /-- The first `written` bytes have been written. -/
  | writeFailed (offset : Nat) (data : Bytes) (written : Nat)
deriving DecidableEq, Repr

/-- An array of bytes, after a call. -/
def FlatEvent.apply (content : Nat → UInt8) : FlatEvent → Nat → UInt8
  | .read _ _ | .readFailed _ _ => content
  | .wrote offset data => writeAt content offset data
  | .writeFailed offset data written => writeAt content offset (data.take written)

structure FlatStore where
  cache : Sys
  /-- The lock of the owner: the reads that hold it, -/
  readers : List FlatCall := []
  /-- or the write. -/
  writer : Option FlatCall := none
  /-- The calls that have returned. -/
  events : List FlatEvent := []

inductive CallStep where
  /-- The loop goes on to the next block. -/
  | next (i : Nat)
  /-- A step of the block call. -/
  | block (a : Action)
  /-- The loop has ended. -/
  | ret

inductive FlatAction where
  | readLocked (offset : Nat) (buffer : Bytes)
  | writeLocked (offset : Nat) (data : Bytes)
  | reader (n : Nat) (step : CallStep)
  | writer (step : CallStep)
  | worker (a : Action)
  /-- `Cache::drop` has begun. -/
  | stop

/-- Where a call is after a step. -/
inductive FlatProgress where
  | running (call : FlatCall)
  | returned
  | failed

namespace FlatCall

/-- The block call `i` has returned. -/
def resume (call : FlatCall) : Option Ret → FlatProgress
  | some (.copied buffer) => .running { call with buffer, done := call.done + 1, current := none }
  | some .patched => .running { call with done := call.done + 1, current := none }
  | none => .failed

/-- After a step of block call `i`. -/
def observe (call : FlatCall) (i : Nat) (cache : Sys) : FlatProgress :=
  match cache.calls i, cache.hist.getLast? with
  | some ⟨_, .returned⟩, some (.respond _ _ r) => call.resume r
  | _, _ => .running call

/-- A step of a call; `start` begins a block call on the block `k` of the request. -/
def step (start : FlatCall → Nat → Nat → Action) (call : FlatCall) (cache : Sys) :
    CallStep → Option (Sys × FlatProgress)
  | .next i =>
    match call.current with
    | some _ => none
    | none => if call.done < call.touched.length then
        (cache.step (start call i call.done)).map fun cache =>
          (cache, .running { call with current := some i })
      else
        none
  | .block a =>
    match call.current with
    | none => none
    | some i => if Sys.actor a = some i then
        (cache.step a).map fun cache => (cache, call.observe i cache)
      else
        none
  | .ret => if call.current = none ∧ call.done = call.touched.length then some (cache, .returned)
      else none

/-- `read_touched_block` on the next block. -/
def startRead (call : FlatCall) (i k : Nat) : Action := .readBlock i call.offset call.buffer k

def startWrite (call : FlatCall) (i k : Nat) : Action := .writeBlock i call.offset call.buffer k

/-- What the call is for. -/
def request (call : FlatCall) : Nat × Bytes := (call.offset, call.buffer)

/-- How far the blocks that are done reach. -/
def position (call : FlatCall) : Nat :=
  ((call.touched.take call.done).map TouchedBlock.validLen).sum

end FlatCall

namespace FlatStore

/-- A read is at another place, or it has returned. -/
def putReader (s : FlatStore) (n : Nat) (call : FlatCall) : FlatProgress → FlatStore
  | .running call' => { s with readers := s.readers.set n call' }
  | .returned => { s with
      readers := s.readers.eraseIdx n
      events := s.events ++ [.read call.offset call.buffer] }
  | .failed => { s with
      readers := s.readers.eraseIdx n
      events := s.events ++ [.readFailed call.offset call.buffer.length] }

def putWriter (s : FlatStore) (call : FlatCall) : FlatProgress → FlatStore
  | .running call' => { s with writer := some call' }
  | .returned => { s with
      writer := none
      events := s.events ++ [.wrote call.offset call.buffer] }
  | .failed => { s with
      writer := none
      events := s.events ++ [.writeFailed call.offset call.buffer call.position] }

def step (s : FlatStore) : FlatAction → Option FlatStore
  | .readLocked offset buffer =>
    if s.writer.isSome then none
    else match s.cache.config.layout.touchedBlocks offset buffer.length with
      | .ok touched => some { s with readers := { offset, buffer, touched } :: s.readers }
      | .error _ => some { s with events := s.events ++ [.readFailed offset buffer.length] }
  | .writeLocked offset data =>
    if s.writer.isSome ∨ s.readers ≠ [] then none
    else match s.cache.config.layout.touchedBlocks offset data.length with
      | .ok touched => some { s with writer := some { offset, buffer := data, touched } }
      | .error _ => some { s with events := s.events ++ [.writeFailed offset data 0] }
  | .reader n step =>
    s.readers[n]?.bind fun call =>
      (call.step FlatCall.startRead s.cache step).map fun (cache, p) =>
        { s with cache }.putReader n call p
  | .writer step =>
    s.writer.bind fun call =>
      (call.step FlatCall.startWrite s.cache step).map fun (cache, p) =>
        { s with cache }.putWriter call p
  | .worker a =>
    match a with
    | .workerLock .. | .workerWake .. | .flushRead .. | .flushWrite .. | .flushRemove .. |
      .flushFinish => (s.cache.step a).map fun cache => { s with cache }
    | _ => none
  | .stop => (s.cache.step .stop).map fun cache => { s with cache }

/-- What the calls that have returned have made of the array. -/
def content (s : FlatStore) (right : Nat → UInt8) : Nat → UInt8 :=
  s.events.foldl FlatEvent.apply right

end FlatStore

/-! ## Steps of the cache -/

namespace Sys

variable {s s' : Sys} {a : Action} {i : Nat} {op : Op} {ph : Phase}

/-- What a step of a block call leaves: the call goes on, or it has responded. -/
def Goes (i : Nat) (op : Op) (s s' : Sys) : Prop :=
  (∃ ph', s'.calls i = some ⟨op, ph'⟩ ∧ ph' ≠ .returned ∧ s'.hist = s.hist) ∨
    ∃ r, s'.calls i = some ⟨op, .returned⟩ ∧ s'.hist = s.hist ++ [.respond i op r]

theorem goes_setPhase {ph' : Phase} (h : ph' ≠ .returned) : Goes i op s (s.setPhase i op ph') :=
  .inl ⟨ph', Function.update_self .., h, rfl⟩

theorem goes_respond (r : Option Ret) : Goes i op s (s.respond i op r) :=
  .inr ⟨r, Function.update_self .., rfl⟩

/-- A section under the lock; a panic leaves the call where it is. -/
theorem goes_locked {α : Type} {m : CacheM α} {k : Sys → Except CacheError α → Sys}
    (hcall : s.calls i = some ⟨op, ph⟩) (hret : ph ≠ .returned)
    (hk : ∀ w r, Goes i op { s with world := w } (k { s with world := w } r)) :
    Goes i op s (s.locked m k) := by
  unfold Sys.locked
  split
  · exact hk _ _
  · exact hk _ _
  · exact .inl ⟨ph, hcall, hret, rfl⟩

theorem goes_afterLoopTop (t : Sys) (r : Except CacheError Next) :
    Goes i op t (afterLoopTop i op t r) := by
  unfold afterLoopTop
  split
  · exact goes_respond _
  · exact goes_setPhase nofun
  · exact goes_setPhase nofun
  · exact goes_setPhase nofun
  · exact goes_respond _

theorem goes_afterWaiting (waiting : Bool) (t : Sys) (r : Except CacheError Unit) :
    Goes i op t (afterWaiting i op waiting t r) := by
  unfold afterWaiting
  split
  · exact goes_setPhase nofun
  · exact goes_respond _

theorem goes_afterFinish (t : Sys) (r : Except CacheError Ret) :
    Goes i op t (afterFinish i op t r) := by
  unfold afterFinish
  split <;> exact goes_respond _

theorem stepCall_of_actor (hs : s.step a = some s') (ha : actor a = some i) :
    ∃ c, s.calls i = some c ∧ s.stepCall i c.op c.phase a = some s' := by
  unfold Sys.step at hs
  split_ifs at hs
  cases a with
  | lock j _ | wake j | rightRead j _ | tempRead j _ | finish j =>
    obtain rfl := Option.some.inj ha
    exact Option.bind_eq_some_iff.mp hs
  | _ => cases ha

/-- **A step of a block call.** -/
theorem goes_step (hs : s.step a = some s') (ha : actor a = some i)
    (hcall : s.calls i = some ⟨op, ph⟩) (hret : ph ≠ .returned) : Goes i op s s' := by
  obtain ⟨c, hc, hs⟩ := stepCall_of_actor hs ha
  obtain rfl := Option.some.inj (hcall.symm.trans hc)
  unfold Sys.stepCall at hs
  split at hs
  case h_7 => cases hs
  all_goals obtain rfl := Option.some.inj hs
  · exact goes_locked hcall hret fun _ _ => goes_afterLoopTop _ _
  · exact goes_locked hcall hret fun _ _ => goes_afterWaiting _ _ _
  · exact goes_setPhase nofun
  · exact goes_setPhase nofun
  · exact goes_locked hcall hret fun _ _ => goes_afterFinish _ _
  · exact goes_locked hcall hret fun _ _ => goes_afterFinish _ _

/-- A step of a block call leaves the others. -/
theorem step_others (hs : s.step a = some s') (ha : actor a = some i) {j : Nat} (hj : j ≠ i) :
    s'.calls j = s.calls j := by
  obtain ⟨c, -, hs⟩ := stepCall_of_actor hs ha
  exact (stepCall_same hs).2.2 j hj

/-- A block call begins on the block `k` of its request. -/
theorem invoke_eq {offset k : Nat} {buffer : Bytes} {m : TouchedBlock → Op}
    {touched : List TouchedBlock}
    (htouched : s.config.layout.touchedBlocks offset buffer.length = .ok touched)
    (hs : s.invoke i offset k buffer m = some s') :
    ∃ t, touched[k]? = some t ∧ s.calls i = none ∧ s'.calls i = some ⟨m t, .entering false⟩ ∧
      (∀ j, j ≠ i → s'.calls j = s.calls j) ∧ s'.hist = s.hist ++ [.invoke i (m t)] := by
  unfold Sys.invoke at hs
  split at hs
  · next blocks hfree hblocks =>
    obtain rfl := Except.ok.inj (htouched.symm.trans hblocks)
    obtain ⟨t, ht, rfl⟩ := Option.map_eq_some_iff.mp hs
    exact ⟨t, ht, hfree, Function.update_self .., fun j hj => Function.update_of_ne hj .., rfl⟩
  · cases hs

theorem locked_hist {α : Type} {m : CacheM α} {k : Sys → Except CacheError α → Sys}
    (hk : ∀ t r, (k t r).hist = t.hist) : (s.locked m k).hist = s.hist := by
  unfold Sys.locked
  split
  · exact hk _ _
  · exact hk _ _
  · rfl

/-- The worker leaves the calls and their history. -/
theorem worker_hist {phase : WorkerPhase} (hs : s.stepWorker phase a = some s') :
    s'.hist = s.hist := by
  have hiteration : ∀ t r, (afterWorkerIteration t r).hist = t.hist := fun t r => by
    unfold afterWorkerIteration
    split <;> rfl
  have hfinish : ∀ t r, (afterFlushFinish t r).hist = t.hist := fun t r => by
    unfold afterFlushFinish
    split <;> rfl
  unfold Sys.stepWorker at hs
  split at hs
  case h_7 => cases hs
  · obtain rfl := Option.some.inj hs
    exact locked_hist hiteration
  · obtain rfl := Option.some.inj hs
    exact locked_hist hiteration
  · split at hs <;> obtain rfl := Option.some.inj hs <;> rfl
  · split at hs <;> obtain rfl := Option.some.inj hs <;> rfl
  · obtain rfl := Option.some.inj hs
    rfl
  · obtain rfl := Option.some.inj hs
    exact locked_hist hfinish

/-! ### What has been written -/

/-- A block call that goes on, or one that fails, changes no block; one that succeeds does what it
is for. -/
theorem Inv.goes {right : Nat → UInt8} {temp : TempStore} (h : s.Inv right temp)
    (hs : s.step a = some s') (ha : actor a = some i) (hcall : s.calls i = some ⟨op, ph⟩)
    (hret : ph ≠ .returned) :
    (∃ ph', s'.calls i = some ⟨op, ph'⟩ ∧ ph' ≠ .returned ∧ s'.logical right = s.logical right) ∨
    (s'.calls i = some ⟨op, .returned⟩ ∧ s'.hist.getLast? = some (.respond i op none) ∧
      s'.logical right = s.logical right) ∨
    (s'.calls i = some ⟨op, .returned⟩ ∧
      s'.hist.getLast? = some (.respond i op (some (applyOp (s.logical right) op).2)) ∧
      s'.logical right = (applyOp (s.logical right) op).1) := by
  have hconfig := step_config hs
  rcases goes_step hs ha hcall hret with ⟨ph', hcall', hret', hhist⟩ | ⟨r, hcall', hhist⟩
  · exact .inl ⟨ph', hcall', hret', by rw [logical, logical, hconfig, hhist]⟩
  · have hlast : s'.hist.getLast? = some (.respond i op r) := by
      rw [hhist, List.getLast?_concat]
    cases r with
    | none =>
      refine .inr (.inl ⟨hcall', hlast, ?_⟩)
      rw [logical, logical, hconfig, hhist, okResponses_append]
      exact congrArg _ (List.append_nil _)
    | some ret =>
      have hok : okResponses s'.hist = okResponses s.hist ++ [(i, op, ret)] := by
        rw [hhist, okResponses_append]
        rfl
      have hlegal := (step_inv h hs).inv.legal
      rw [hconfig, hok, legal_concat] at hlegal
      obtain rfl : (applyOp (s.logical right) op).2 = ret := hlegal.2
      refine .inr (.inr ⟨hcall', hlast, ?_⟩)
      rw [logical, hconfig, hok, stateAfter_concat]
      rfl

end Sys

/-! ## The parts of a request -/

/-- The parts of a request follow each other in the buffer. -/
theorem bufferOffset_of_covers : ∀ (ts : List TouchedBlock) (start n : Nat),
    ts.flatMap (fun t => List.range' t.bufferOffset t.validLen) = List.range' start n →
    (∀ t ∈ ts, 0 < t.validLen) → (ts.map TouchedBlock.validLen).sum = n ∧
      ∀ k t, ts[k]? = some t → t.bufferOffset = start + ((ts.take k).map TouchedBlock.validLen).sum
  | [], start, n, hcovers, _ => by
    have hlen := congrArg List.length hcovers
    rw [List.flatMap_nil, List.length_nil, List.length_range'] at hlen
    exact ⟨hlen, nofun⟩
  | t :: ts, start, n, hcovers, hpos => by
    rw [List.flatMap_cons] at hcovers
    have hlen : t.validLen ≤ n := by
      have := congrArg List.length hcovers
      rw [List.length_append, List.length_range', List.length_range'] at this
      omega
    have hsplit : List.range' start n =
        List.range' start t.validLen ++ List.range' (start + t.validLen) (n - t.validLen) := by
      rw [List.range'_append_1, Nat.add_sub_cancel' hlen]
    rw [hsplit] at hcovers
    obtain ⟨hhead, htail⟩ := List.append_inj hcovers (by simp)
    obtain ⟨m, hm⟩ := Nat.exists_eq_succ_of_ne_zero (hpos t List.mem_cons_self).ne'
    have hstart : t.bufferOffset = start := by
      rw [hm, List.range'_succ, List.range'_succ] at hhead
      exact (List.cons.inj hhead).1
    obtain ⟨hsum, hrest⟩ := bufferOffset_of_covers ts _ _ htail
      fun t' ht' => hpos t' (List.mem_cons_of_mem _ ht')
    refine ⟨by rw [List.map_cons, List.sum_cons, hsum]; omega, fun k t' ht' => ?_⟩
    cases k with
    | zero =>
      obtain rfl := Option.some.inj ht'
      exact hstart
    | succ k =>
      rw [hrest k t' ht', List.take_succ_cons, List.map_cons, List.sum_cons, Nat.add_assoc]

/-- Where a part lies in the buffer, and that the parts make it up. -/
theorem BlockLayout.Tiled.parts {l : BlockLayout} {offset length : Nat} {ts : List TouchedBlock}
    (h : l.Tiled offset length ts) : (ts.map TouchedBlock.validLen).sum = length ∧
      ∀ k t, ts[k]? = some t → t.bufferOffset = ((ts.take k).map TouchedBlock.validLen).sum ∧
        ((ts.take (k + 1)).map TouchedBlock.validLen).sum = t.bufferOffset + t.validLen ∧
          t.bufferOffset + t.validLen ≤ length := by
  obtain ⟨hsum, hparts⟩ := bufferOffset_of_covers ts 0 length
    (h.covers.trans List.range_eq_range') h.nonempty
  refine ⟨hsum, fun k t ht => ?_⟩
  have hoffset := hparts k t ht
  rw [Nat.zero_add] at hoffset
  have hnext : ((ts.take (k + 1)).map TouchedBlock.validLen).sum = t.bufferOffset + t.validLen := by
    rw [List.take_add_one, ht, List.map_append, List.sum_append, hoffset]
    rfl
  refine ⟨hoffset, hnext, ?_⟩
  have hsplit : (ts.map TouchedBlock.validLen).sum =
      ((ts.take (k + 1)).map TouchedBlock.validLen).sum +
        ((ts.drop (k + 1)).map TouchedBlock.validLen).sum := by
    rw [← List.sum_append, ← List.map_append, List.take_append_drop]
  omega

/-! ## The invariant -/

/-- A call that runs, with its block call. -/
structure FlatCall.Runs (op : TouchedBlock → Bytes → Op) (cache : Sys) (call : FlatCall) :
    Prop where
  touched : cache.config.layout.touchedBlocks call.offset call.buffer.length = .ok call.touched
  done_le : call.done ≤ call.touched.length
  current : ∀ i, call.current = some i → ∃ t ph, call.touched[call.done]? = some t ∧
    cache.calls i = some ⟨op t call.buffer, ph⟩ ∧ ph ≠ .returned

namespace FlatStore

/-- The array, with what the write that runs has written so far. -/
def written (s : FlatStore) (right : Nat → UInt8) : Nat → UInt8 :=
  match s.writer with
  | none => s.content right
  | some call => writeAt (s.content right) call.offset (call.buffer.take call.position)

/-- A read has returned what the array held. -/
def Legal (right : Nat → UInt8) (before : List FlatEvent) (e : FlatEvent) : Prop :=
  ∀ offset result, e = .read offset result →
    result = readAt (before.foldl FlatEvent.apply right) offset result.length

structure Inv (right : Nat → UInt8) (temp : TempStore) (s : FlatStore) : Prop where
  cache : s.cache.Inv right temp
  pos : 0 < s.cache.config.blockSizeBytes
  blocks : ∀ b, s.cache.logical right b =
    readAt (s.written right) (b * s.cache.config.blockSizeBytes) s.cache.config.blockSizeBytes
  readers : ∀ (n : Nat) (call : FlatCall), s.readers[n]? = some call → call.Runs .read s.cache ∧
    call.buffer.take call.position = readAt (s.content right) call.offset call.position
  writer : ∀ call, s.writer = some call → call.Runs .write s.cache
  apart : ∀ (n m : Nat) (call call' : FlatCall) (i : Nat), s.readers[n]? = some call →
    s.readers[m]? = some call' → call.current = some i → call'.current = some i → n = m
  alone : s.writer ≠ none → s.readers = []
  legal : EachAfter (Legal right) s.events

end FlatStore

/-! ## Steps -/

namespace FlatCall

variable {cache cache' : Sys} {call : FlatCall} {op : TouchedBlock → Bytes → Op}

/-- What a step of a call is. -/
theorem step_cases {start : FlatCall → Nat → Nat → Action} {step : CallStep} {p : FlatProgress}
    (h : call.step start cache step = some (cache', p)) :
    (∃ i, call.current = none ∧ call.done < call.touched.length ∧
      cache.step (start call i call.done) = some cache' ∧
        p = .running { call with current := some i }) ∨
    (∃ a i, call.current = some i ∧ Sys.actor a = some i ∧ cache.step a = some cache' ∧
      p = call.observe i cache') ∨
    (cache' = cache ∧ p = .returned ∧ call.current = none ∧ call.done = call.touched.length) := by
  cases step with
  | next i =>
    simp only [FlatCall.step] at h
    split at h
    · cases h
    · next hcurrent =>
      split_ifs at h with hdone
      obtain ⟨t, ht, heq⟩ := Option.map_eq_some_iff.mp h
      obtain ⟨rfl, rfl⟩ := Prod.mk.inj heq
      exact .inl ⟨i, hcurrent, hdone, ht, rfl⟩
  | block a =>
    simp only [FlatCall.step] at h
    split at h
    · cases h
    · next i hcurrent =>
      split_ifs at h with ha
      obtain ⟨t, ht, heq⟩ := Option.map_eq_some_iff.mp h
      obtain ⟨rfl, rfl⟩ := Prod.mk.inj heq
      exact .inr (.inl ⟨a, i, hcurrent, ha, ht, rfl⟩)
  | ret =>
    simp only [FlatCall.step] at h
    split_ifs at h with hret
    obtain ⟨rfl, rfl⟩ := Prod.mk.inj (Option.some.inj h)
    exact .inr (.inr ⟨rfl, rfl, hret⟩)

/-- The calls of a call that others leave alone. -/
theorem Runs.keep (h : call.Runs op cache) (hconfig : cache'.config = cache.config)
    (hcalls : ∀ i, call.current = some i → cache'.calls i = cache.calls i) :
    call.Runs op cache' := by
  refine ⟨hconfig ▸ h.touched, h.done_le, fun i hi => ?_⟩
  rw [hcalls i hi]
  exact h.current i hi

/-- The part that comes next. -/
theorem Runs.part (h : call.Runs op cache) (hpos : 0 < cache.config.blockSizeBytes)
    {t : TouchedBlock} (ht : call.touched[call.done]? = some t) :
    t.bufferOffset = call.position ∧
      ((call.touched.take (call.done + 1)).map TouchedBlock.validLen).sum =
        call.position + t.validLen ∧
      call.position + t.validLen ≤ call.buffer.length ∧
      t.blockOffset + t.validLen ≤ cache.config.blockSizeBytes ∧
      t.blockIndex * cache.config.blockSizeBytes + t.blockOffset = call.offset + call.position := by
  have htiled := (BlockLayout.touched_blocks_tile (l := cache.config.layout) hpos call.offset
    call.buffer.length).2.2.2 _ h.touched
  obtain ⟨hoffset, hnext, hle⟩ := htiled.parts.2 call.done t ht
  have hmem : t ∈ call.touched := List.mem_of_getElem? ht
  have hoffset : t.bufferOffset = call.position := hoffset
  refine ⟨hoffset, hoffset ▸ hnext, hoffset ▸ hle, htiled.inside t hmem, ?_⟩
  have hbase := htiled.base t hmem
  have haddress := htiled.address t hmem
  rw [hoffset, hbase] at haddress
  exact haddress

/-- When the loop has ended, the parts make up the buffer. -/
theorem Runs.whole (h : call.Runs op cache) (hpos : 0 < cache.config.blockSizeBytes)
    (hdone : call.done = call.touched.length) : call.position = call.buffer.length := by
  have htiled := (BlockLayout.touched_blocks_tile (l := cache.config.layout) hpos call.offset
    call.buffer.length).2.2.2 _ h.touched
  rw [position, hdone, List.take_length]
  exact htiled.parts.1

theorem Runs.lt (_ : call.Runs op cache) {t : TouchedBlock}
    (ht : call.touched[call.done]? = some t) : call.done + 1 ≤ call.touched.length :=
  (List.getElem?_eq_some_iff.mp ht).1

/-- A block call begins. -/
theorem Runs.begin (start : FlatCall → Nat → Nat → Action) {right : Nat → UInt8} {i : Nat}
    (h : call.Runs op cache) (hs : cache.step (start call i call.done) = some cache')
    (hstart : cache.step (start call i call.done) =
      if cache.poisoned then none
      else cache.invoke i call.offset call.done call.buffer fun t => op t call.buffer) :
    cache.calls i = none ∧ cache'.config = cache.config ∧
      cache'.logical right = cache.logical right ∧
      (∀ j, j ≠ i → cache'.calls j = cache.calls j) ∧
        FlatCall.Runs op cache' { call with current := some i } := by
  have hconfig := Sys.step_config hs
  rw [hstart] at hs
  split_ifs at hs
  obtain ⟨t, ht, hfree, hcall, hothers, hhist⟩ := Sys.invoke_eq h.touched hs
  refine ⟨hfree, hconfig, ?_, hothers, hconfig ▸ h.touched, h.done_le, fun j hj => ?_⟩
  · rw [Sys.logical, Sys.logical, hconfig, hhist, okResponses_append]
    exact congrArg _ (List.append_nil _)
  · obtain rfl := Option.some.inj hj
    exact ⟨t, .entering false, ht, hcall, (by rintro ⟨⟩)⟩

/-- What a block call has come to. -/
theorem Runs.block {right : Nat → UInt8} {temp : TempStore} {a : Action} {i : Nat}
    (h : call.Runs op cache) (hinv : cache.Inv right temp) (hi : call.current = some i)
    (ha : Sys.actor a = some i) (hs : cache.step a = some cache') :
    ∃ t, call.touched[call.done]? = some t ∧
      (call.observe i cache' = .running call ∧ call.Runs op cache' ∧
          cache'.logical right = cache.logical right ∨
        call.observe i cache' = .failed ∧ cache'.logical right = cache.logical right ∨
        call.observe i cache' =
            call.resume (some (applyOp (cache.logical right) (op t call.buffer)).2) ∧
          cache'.logical right = (applyOp (cache.logical right) (op t call.buffer)).1) := by
  have hconfig := Sys.step_config hs
  obtain ⟨t, ph, ht, hcall, hret⟩ := h.current i hi
  refine ⟨t, ht, ?_⟩
  rcases hinv.goes hs ha hcall hret with ⟨ph', hcall', hret', hlogical⟩ |
    ⟨hcall', hlast, hlogical⟩ | ⟨hcall', hlast, hlogical⟩
  · refine .inl ⟨?_, ⟨hconfig ▸ h.touched, h.done_le, fun j hj => ?_⟩, hlogical⟩
    · unfold observe
      rw [hcall']
      split
      · next heq _ =>
        cases heq
        exact absurd rfl hret'
      · rfl
    · obtain rfl := Option.some.inj (hi.symm.trans hj)
      exact ⟨t, ph', ht, hcall', hret'⟩
  · refine .inr (.inl ⟨?_, hlogical⟩)
    unfold observe
    rw [hcall', hlast]
    rfl
  · refine .inr (.inr ⟨?_, hlogical⟩)
    unfold observe
    rw [hcall', hlast]

end FlatCall

namespace FlatStore

variable {right : Nat → UInt8} {temp : TempStore} {s s' : FlatStore} {cache' : Sys}

theorem content_of_events {e : FlatEvent} (h : s'.events = s.events ++ [e]) (right : Nat → UInt8) :
    s'.content right = e.apply (s.content right) := by
  unfold content
  rw [h, List.foldl_append]
  rfl

/-- A read that runs means that no write does. -/
theorem Inv.unwritten (h : s.Inv right temp) {n : Nat} {call : FlatCall}
    (hcall : s.readers[n]? = some call) : s.writer = none := by
  by_contra hw
  rw [h.alone hw] at hcall
  cases hcall

/-- A step that the calls do not see. -/
theorem Inv.aside (h : s.Inv right temp) {a : Action} (hs : s.cache.step a = some cache')
    (hcalls : cache'.calls = s.cache.calls) (hhist : cache'.hist = s.cache.hist) :
    ({ s with cache := cache' } : FlatStore).Inv right temp := by
  have hconfig := Sys.step_config hs
  have hlogical : cache'.logical right = s.cache.logical right := by
    rw [Sys.logical, Sys.logical, hconfig, hhist]
  exact {
    cache := (Sys.step_inv h.cache hs).inv
    pos := hconfig ▸ h.pos
    blocks := fun b => by
      show cache'.logical right b = readAt _ (b * cache'.config.blockSizeBytes) _
      rw [hlogical, hconfig]
      exact h.blocks b
    readers := fun n call hn => ⟨(h.readers n call hn).1.keep hconfig fun i _ => congrFun hcalls i,
      (h.readers n call hn).2⟩
    writer := fun call hcall => (h.writer call hcall).keep hconfig fun i _ => congrFun hcalls i
    apart := h.apart
    alone := h.alone
    legal := h.legal }

/-! ### Reads -/

/-- A read goes on. -/
theorem Inv.readOn (h : s.Inv right temp) {n : Nat} {call call' : FlatCall} {a : Action} {i : Nat}
    (hcall : s.readers[n]? = some call) (hs : s.cache.step a = some cache')
    (hlogical : cache'.logical right = s.cache.logical right)
    (hothers : ∀ j, j ≠ i → cache'.calls j = s.cache.calls j)
    (hi : call.current = some i ∨ s.cache.calls i = none)
    (hcurrent : ∀ j, call'.current = some j → j = i)
    (hruns : call'.Runs .read cache')
    (hfilled : call'.buffer.take call'.position =
      readAt (s.content right) call'.offset call'.position) :
    ({ s with cache := cache', readers := s.readers.set n call' } : FlatStore).Inv right temp := by
  have hconfig := Sys.step_config hs
  have hset : ∀ {m c}, (s.readers.set n call')[m]? = some c →
      m = n ∧ c = call' ∨ m ≠ n ∧ s.readers[m]? = some c := by
    intro m c hm
    rw [List.getElem?_set] at hm
    split_ifs at hm with hmn hlt
    · exact .inl ⟨hmn.symm, (Option.some.inj hm).symm⟩
    · exact .inr ⟨Ne.symm hmn, hm⟩
  -- another read has another block call
  have hapart : ∀ {m c j}, m ≠ n → s.readers[m]? = some c → c.current = some j → j ≠ i := by
    rintro m c j hmn hm hj rfl
    rcases hi with hi | hi
    · exact hmn (h.apart m n c call j hm hcall hj hi)
    · obtain ⟨t, ph, -, hbusy, -⟩ := (h.readers m c hm).1.current j hj
      cases hbusy.symm.trans hi
  exact {
    cache := (Sys.step_inv h.cache hs).inv
    pos := hconfig ▸ h.pos
    blocks := fun b => by
      show cache'.logical right b = readAt _ (b * cache'.config.blockSizeBytes) _
      rw [hlogical, hconfig]
      exact h.blocks b
    readers := fun m c hm => by
      rcases hset hm with ⟨-, rfl⟩ | ⟨hmn, hm⟩
      · exact ⟨hruns, hfilled⟩
      · exact ⟨(h.readers m c hm).1.keep hconfig fun j hj => hothers j (hapart hmn hm hj),
          (h.readers m c hm).2⟩
    writer := fun c hc => by
      rw [h.unwritten hcall] at hc
      cases hc
    apart := fun m m' c c' j hm hm' hj hj' => by
      rcases hset hm with ⟨hmn, hc⟩ | ⟨hmn, hold⟩
      · rcases hset hm' with ⟨hmn', -⟩ | ⟨hmn', hold'⟩
        · exact hmn.trans hmn'.symm
        · exact absurd (hcurrent j (hc ▸ hj)) (hapart hmn' hold' hj')
      · rcases hset hm' with ⟨-, hc⟩ | ⟨hmn', hold'⟩
        · exact absurd (hcurrent j (hc ▸ hj')) (hapart hmn hold hj)
        · exact h.apart m m' c c' j hold hold' hj hj'
    alone := fun hw => absurd (h.unwritten hcall) hw
    legal := h.legal }

/-- A read returns. -/
theorem Inv.readEnds (h : s.Inv right temp) {n : Nat} {call : FlatCall} {e : FlatEvent}
    (hcall : s.readers[n]? = some call) (hinv : cache'.Inv right temp)
    (hconfig : cache'.config = s.cache.config)
    (hlogical : cache'.logical right = s.cache.logical right)
    (hothers : ∀ m c j, m ≠ n → s.readers[m]? = some c → c.current = some j →
      cache'.calls j = s.cache.calls j)
    (he : ∀ content, e.apply content = content)
    (hread : ∀ offset result, e = .read offset result →
      result = readAt (s.content right) offset result.length) :
    ({ s with
      cache := cache'
      readers := s.readers.eraseIdx n
      events := s.events ++ [e] } : FlatStore).Inv right temp := by
  have hcontent : ({ s with
      cache := cache', readers := s.readers.eraseIdx n, events := s.events ++ [e] } :
        FlatStore).content right = s.content right :=
    (content_of_events rfl right).trans (he _)
  have herase : ∀ {m c}, (s.readers.eraseIdx n)[m]? = some c →
      ∃ m', m' ≠ n ∧ s.readers[m']? = some c ∧ m' = if m < n then m else m + 1 := by
    intro m c hm
    rw [List.getElem?_eraseIdx] at hm
    split_ifs at hm with hlt
    · exact ⟨m, by omega, hm, (if_pos hlt).symm⟩
    · exact ⟨m + 1, by omega, hm, (if_neg hlt).symm⟩
  have hnone := h.unwritten hcall
  exact {
    cache := hinv
    pos := hconfig ▸ h.pos
    blocks := fun b => by
      have hwritten : ({ s with
          cache := cache', readers := s.readers.eraseIdx n, events := s.events ++ [e] } :
            FlatStore).written right = s.written right := by
        unfold written
        rw [hcontent]
      rw [hwritten]
      show cache'.logical right b = readAt _ (b * cache'.config.blockSizeBytes) _
      rw [hlogical, hconfig]
      exact h.blocks b
    readers := fun m c hm => by
      obtain ⟨m', hne, hm', -⟩ := herase hm
      rw [hcontent]
      exact ⟨(h.readers m' c hm').1.keep hconfig fun j hj => hothers m' c j hne hm' hj,
        (h.readers m' c hm').2⟩
    writer := fun c hc => by
      rw [hnone] at hc
      cases hc
    apart := fun m m' c c' j hm hm' hj hj' => by
      obtain ⟨k, -, hk, hmk⟩ := herase hm
      obtain ⟨k', -, hk', hmk'⟩ := herase hm'
      have := h.apart k k' c c' j hk hk' hj hj'
      split_ifs at hmk hmk' <;> omega
    alone := fun hw => absurd hnone hw
    legal := eachAfter_concat h.legal hread }

/-- The block that a read has got is that of the array. -/
theorem Inv.filled (h : s.Inv right temp) {n : Nat} {call : FlatCall}
    (hcall : s.readers[n]? = some call) {t : TouchedBlock}
    (ht : call.touched[call.done]? = some t) :
    (splice call.buffer t.bufferOffset (slice (s.cache.logical right t.blockIndex) t.blockOffset
      t.validLen)).length = call.buffer.length ∧
    (splice call.buffer t.bufferOffset (slice (s.cache.logical right t.blockIndex) t.blockOffset
      t.validLen)).take (call.position + t.validLen) =
        readAt (s.content right) call.offset (call.position + t.validLen) := by
  obtain ⟨hruns, hfilled⟩ := h.readers n call hcall
  obtain ⟨hoffset, -, hle, hinside, haddress⟩ := hruns.part h.pos ht
  have hwritten : s.written right = s.content right := by
    unfold written
    rw [h.unwritten hcall]
  rw [h.blocks, hwritten, slice_readAt hinside, haddress, hoffset]
  constructor
  · exact length_splice (by rw [length_readAt]; exact hle)
  · have htake : (call.buffer.take call.position).length = call.position :=
      List.length_take_of_le (by omega)
    rw [splice, List.take_left' (by rw [List.length_append, htake, length_readAt]), hfilled,
      ← readAt_add]

/-- **A step of a read.** -/
theorem Inv.reader (h : s.Inv right temp) {n : Nat} {call : FlatCall} {step : CallStep}
    {p : FlatProgress} (hcall : s.readers[n]? = some call)
    (hstep : call.step FlatCall.startRead s.cache step = some (cache', p)) :
    (({ s with cache := cache' } : FlatStore).putReader n call p).Inv right temp := by
  obtain ⟨hruns, hfilled⟩ := h.readers n call hcall
  rcases FlatCall.step_cases hstep with ⟨i, hidle, -, hs, rfl⟩ | ⟨a, i, hi, ha, hs, rfl⟩ |
    ⟨rfl, rfl, hidle, hdone⟩
  · obtain ⟨hfree, -, hlogical, hothers, hruns'⟩ :=
      FlatCall.Runs.begin FlatCall.startRead hruns hs rfl
    exact h.readOn hcall hs hlogical hothers (.inr hfree)
      (fun j hj => (Option.some.inj hj).symm) hruns' hfilled
  · have hothers : ∀ j, j ≠ i → cache'.calls j = s.cache.calls j :=
      fun j hj => Sys.step_others hs ha hj
    have hinv := (Sys.step_inv h.cache hs).inv
    have hconfig := Sys.step_config hs
    have hapart : ∀ m c j, m ≠ n → s.readers[m]? = some c → c.current = some j →
        cache'.calls j = s.cache.calls j := by
      intro m c j hmn hm hj
      refine hothers j ?_
      rintro rfl
      exact hmn (h.apart m n c call j hm hcall hj hi)
    obtain ⟨t, ht, ⟨hp, hruns', hlogical⟩ | ⟨hp, hlogical⟩ | ⟨hp, hlogical⟩⟩ :=
      hruns.block h.cache hi ha hs
    · rw [hp]
      exact h.readOn hcall hs hlogical hothers (.inl hi)
        (fun j hj => Option.some.inj (hj.symm.trans hi)) hruns' hfilled
    · rw [hp]
      exact h.readEnds hcall hinv hconfig hlogical hapart (fun _ => rfl) nofun
    · rw [hp]
      obtain ⟨hlength, htake⟩ := h.filled hcall ht
      obtain ⟨-, hnext, -⟩ := hruns.part h.pos ht
      refine h.readOn hcall hs hlogical hothers (.inl hi) nofun ⟨?_, hruns.lt ht, nofun⟩ ?_
      · rw [hconfig]
        show s.cache.config.layout.touchedBlocks call.offset (splice _ _ _).length = _
        rw [hlength]
        exact hruns.touched
      · show (splice _ _ _).take ((call.touched.take (call.done + 1)).map _).sum =
          readAt _ call.offset ((call.touched.take (call.done + 1)).map _).sum
        rw [hnext]
        exact htake
  · refine h.readEnds hcall h.cache rfl rfl (fun _ _ _ _ _ _ => rfl) (fun _ => rfl) ?_
    intro offset result he
    obtain ⟨rfl, rfl⟩ := FlatEvent.read.inj he
    rw [hruns.whole h.pos hdone, List.take_length] at hfilled
    exact hfilled

/-! ### Writes -/

/-- A write goes on. -/
theorem Inv.writeOn (h : s.Inv right temp) {call call' : FlatCall} {a : Action}
    (hcall : s.writer = some call) (hs : s.cache.step a = some cache')
    (hruns : call'.Runs .write cache')
    (hblocks : ∀ b, cache'.logical right b =
      readAt (writeAt (s.content right) call'.offset (call'.buffer.take call'.position))
        (b * s.cache.config.blockSizeBytes) s.cache.config.blockSizeBytes) :
    ({ s with cache := cache', writer := some call' } : FlatStore).Inv right temp := by
  have hconfig := Sys.step_config hs
  have hempty : s.readers = [] := h.alone (by rw [hcall]; nofun)
  exact {
    cache := (Sys.step_inv h.cache hs).inv
    pos := hconfig ▸ h.pos
    blocks := fun b => by
      show cache'.logical right b = readAt _ (b * cache'.config.blockSizeBytes) _
      rw [hconfig]
      exact hblocks b
    readers := fun n c hn => by
      rw [hempty] at hn
      cases hn
    writer := fun c hc => Option.some.inj hc ▸ hruns
    apart := fun n m c c' j hn => by
      rw [hempty] at hn
      cases hn
    alone := fun _ => hempty
    legal := h.legal }

/-- A write returns. -/
theorem Inv.writeEnds (h : s.Inv right temp) {call : FlatCall} {e : FlatEvent}
    (hcall : s.writer = some call) (hinv : cache'.Inv right temp)
    (hconfig : cache'.config = s.cache.config)
    (hlogical : cache'.logical right = s.cache.logical right)
    (he : e.apply (s.content right) = s.written right)
    (hread : ∀ offset result, e ≠ .read offset result) :
    ({ s with cache := cache', writer := none, events := s.events ++ [e] } : FlatStore).Inv
      right temp := by
  have hempty : s.readers = [] := h.alone (by rw [hcall]; nofun)
  have hwritten : ({ s with cache := cache', writer := none, events := s.events ++ [e] } :
      FlatStore).written right = s.written right := (content_of_events rfl right).trans he
  exact {
    cache := hinv
    pos := hconfig ▸ h.pos
    blocks := fun b => by
      rw [hwritten]
      show cache'.logical right b = readAt _ (b * cache'.config.blockSizeBytes) _
      rw [hlogical, hconfig]
      exact h.blocks b
    readers := fun n c hn => by
      rw [hempty] at hn
      cases hn
    writer := fun c hc => by cases hc
    apart := fun n m c c' j hn => by
      rw [hempty] at hn
      cases hn
    alone := fun hw => absurd rfl hw
    legal := eachAfter_concat h.legal fun offset result heq =>
      absurd heq (hread offset result) }

/-- The block that a write has made is that of the array. -/
theorem Inv.wrote (h : s.Inv right temp) {call : FlatCall} (hcall : s.writer = some call)
    {t : TouchedBlock} (ht : call.touched[call.done]? = some t) (b : Nat) :
    (applyOp (s.cache.logical right) (.write t call.buffer)).1 b =
      readAt (writeAt (s.content right) call.offset
          (call.buffer.take (call.position + t.validLen)))
        (b * s.cache.config.blockSizeBytes) s.cache.config.blockSizeBytes := by
  have hruns := h.writer call hcall
  obtain ⟨hoffset, -, hle, hinside, haddress⟩ := hruns.part h.pos ht
  have hlength : (slice call.buffer call.position t.validLen).length = t.validLen :=
    length_slice hle
  have htake : (call.buffer.take call.position).length = call.position :=
    List.length_take_of_le (by omega)
  have hwritten : s.written right =
      writeAt (s.content right) call.offset (call.buffer.take call.position) := by
    unfold written
    rw [hcall]
  have happend : writeAt (s.content right) call.offset
      (call.buffer.take (call.position + t.validLen)) =
        writeAt (s.written right) (call.offset + call.position)
          (slice call.buffer call.position t.validLen) := by
    rw [hwritten, List.take_add, ← writeAt_append, htake]
    rfl
  rw [happend]
  show Function.update (s.cache.logical right) t.blockIndex _ b = _
  by_cases hb : b = t.blockIndex
  · subst hb
    rw [Function.update_self, h.blocks, hoffset, ← haddress]
    exact splice_readAt (by rw [hlength]; exact hinside)
  · rw [Function.update_of_ne hb, h.blocks, readAt_writeAt_disjoint]
    rw [hlength, ← haddress]
    have := @block_disjoint _ _ s.cache.config.blockSizeBytes hb
    omega

/-- **A step of a write.** -/
theorem Inv.write (h : s.Inv right temp) {call : FlatCall} {step : CallStep} {p : FlatProgress}
    (hcall : s.writer = some call)
    (hstep : call.step FlatCall.startWrite s.cache step = some (cache', p)) :
    (({ s with cache := cache' } : FlatStore).putWriter call p).Inv right temp := by
  have hruns := h.writer call hcall
  have hwritten : s.written right =
      writeAt (s.content right) call.offset (call.buffer.take call.position) := by
    unfold written
    rw [hcall]
  rcases FlatCall.step_cases hstep with ⟨i, hidle, -, hs, rfl⟩ | ⟨a, i, hi, ha, hs, rfl⟩ |
    ⟨rfl, rfl, hidle, hdone⟩
  · obtain ⟨-, -, hlogical, -, hruns'⟩ :=
      FlatCall.Runs.begin FlatCall.startWrite hruns hs rfl
    refine h.writeOn hcall hs hruns' fun b => ?_
    rw [hlogical, h.blocks, hwritten]
    rfl
  · have hinv := (Sys.step_inv h.cache hs).inv
    have hconfig := Sys.step_config hs
    obtain ⟨t, ht, ⟨hp, hruns', hlogical⟩ | ⟨hp, hlogical⟩ | ⟨hp, hlogical⟩⟩ :=
      hruns.block h.cache hi ha hs
    · rw [hp]
      refine h.writeOn hcall hs hruns' fun b => ?_
      rw [hlogical, h.blocks, hwritten]
    · rw [hp]
      exact h.writeEnds hcall hinv hconfig hlogical hwritten.symm nofun
    · rw [hp]
      obtain ⟨-, hnext, -⟩ := hruns.part h.pos ht
      refine h.writeOn hcall hs ⟨hconfig ▸ hruns.touched, hruns.lt ht, nofun⟩ fun b => ?_
      show _ = readAt (writeAt _ call.offset
        (call.buffer.take ((call.touched.take (call.done + 1)).map _).sum)) _ _
      rw [hnext, hlogical]
      exact h.wrote hcall ht b
  · refine h.writeEnds hcall h.cache rfl rfl ?_ nofun
    rw [hwritten, hruns.whole h.pos hdone, List.take_length]
    rfl

/-! ## What a step is to the owner -/

/-- What a step in a call, or of the worker, is to the owner of the cache. -/
inductive Change (s s' : FlatStore) : Prop
  | quiet (hevents : s'.events = s.events) (hreaders : s.readers = [] → s'.readers = [])
      (hwriter : s'.writer.map FlatCall.request = s.writer.map FlatCall.request)
  | read (call : FlatCall) (e : FlatEvent) (hcall : call ∈ s.readers)
      (he : e = .read call.offset call.buffer ∨ e = .readFailed call.offset call.buffer.length)
      (hevents : s'.events = s.events ++ [e]) (hwriter : s'.writer = s.writer)
  | write (call : FlatCall) (e : FlatEvent) (hcall : s.writer = some call)
      (he : e = .wrote call.offset call.buffer ∨
        ∃ written, e = .writeFailed call.offset call.buffer written)
      (hevents : s'.events = s.events ++ [e]) (hwriter : s'.writer = none)
      (hreaders : s'.readers = s.readers)

theorem change_reader {n : Nat} {step : CallStep}
    (hs : s.step (.reader n step) = some s') : s.Change s' := by
  obtain ⟨call, hcall, hs⟩ := Option.bind_eq_some_iff.mp hs
  obtain ⟨⟨cache', p⟩, -, rfl⟩ := Option.map_eq_some_iff.mp hs
  have hmem : call ∈ s.readers := List.mem_of_getElem? hcall
  cases p with
  | running call' =>
    refine .quiet rfl (fun hempty => ?_) rfl
    rw [hempty] at hmem
    cases hmem
  | returned => exact .read call _ hmem (.inl rfl) rfl rfl
  | failed => exact .read call _ hmem (.inr rfl) rfl rfl

theorem Inv.change_writer (h : s.Inv right temp) {step : CallStep}
    (hs : s.step (.writer step) = some s') : s.Change s' := by
  obtain ⟨call, hcall, hs⟩ := Option.bind_eq_some_iff.mp hs
  obtain ⟨⟨cache', p⟩, hstep, rfl⟩ := Option.map_eq_some_iff.mp hs
  cases p with
  | running call' =>
    refine .quiet rfl id ?_
    -- a block that was written gives back no bytes
    have hsame : call'.request = call.request := by
      rcases FlatCall.step_cases hstep with ⟨i, -, -, -, hp⟩ | ⟨a, i, hi, ha, hcache, hp⟩ |
        ⟨-, hp, -⟩
      · obtain rfl := FlatProgress.running.inj hp
        rfl
      · obtain ⟨t, -, ⟨hobs, -⟩ | ⟨hobs, -⟩ | ⟨hobs, -⟩⟩ :=
          (h.writer call hcall).block h.cache hi ha hcache
        · obtain rfl := FlatProgress.running.inj (hp.trans hobs)
          rfl
        · cases hp.trans hobs
        · obtain rfl := FlatProgress.running.inj (hp.trans hobs)
          rfl
      · cases hp
    show some call'.request = _
    rw [hcall, hsame]
    rfl
  | returned => exact .write call _ hcall (.inl rfl) rfl rfl rfl
  | failed => exact .write call _ hcall (.inr ⟨_, rfl⟩) rfl rfl rfl

/-- Every step but the start of a call. -/
theorem Inv.change (h : s.Inv right temp) {a : FlatAction} (hs : s.step a = some s')
    (hread : ∀ offset buffer, a ≠ .readLocked offset buffer)
    (hwrite : ∀ offset data, a ≠ .writeLocked offset data) : s.Change s' := by
  cases a with
  | readLocked offset buffer => exact absurd rfl (hread offset buffer)
  | writeLocked offset data => exact absurd rfl (hwrite offset data)
  | reader n step => exact change_reader hs
  | writer step => exact h.change_writer hs
  | worker a =>
    simp only [step] at hs
    split at hs
    case h_7 => cases hs
    all_goals
      obtain ⟨cache', -, rfl⟩ := Option.map_eq_some_iff.mp hs
      exact .quiet rfl id rfl
  | stop =>
    obtain ⟨cache', -, rfl⟩ := Option.map_eq_some_iff.mp hs
    exact .quiet rfl id rfl

/-- The start of a read. -/
theorem change_readLocked {offset : Nat} {buffer : Bytes}
    (hs : s.step (.readLocked offset buffer) = some s') :
    s.writer = none ∧ s'.writer = none ∧
      (s'.events = s.events ∨ s'.events = s.events ++ [.readFailed offset buffer.length]) := by
  simp only [step] at hs
  split_ifs at hs with hw
  have hnone : s.writer = none := by simpa using hw
  split at hs <;> obtain rfl := Option.some.inj hs
  · exact ⟨hnone, hnone, .inl rfl⟩
  · exact ⟨hnone, hnone, .inr rfl⟩

/-- The start of a write. -/
theorem change_writeLocked {offset : Nat} {data : Bytes}
    (hs : s.step (.writeLocked offset data) = some s') :
    s'.readers = [] ∧ (s'.events = s.events ∧
        s'.writer.map FlatCall.request = some (offset, data) ∨
      s'.events = s.events ++ [.writeFailed offset data 0] ∧ s'.writer = none) := by
  simp only [step] at hs
  split_ifs at hs with hw
  obtain ⟨hnone, hempty⟩ : s.writer = none ∧ s.readers = [] := by simpa using hw
  split at hs <;> obtain rfl := Option.some.inj hs
  · exact ⟨hempty, .inl ⟨rfl, rfl⟩⟩
  · exact ⟨hempty, .inr ⟨rfl, hnone⟩⟩

/-- The range of a read fits into the addresses. -/
theorem Inv.reader_fits (h : s.Inv right temp) {call : FlatCall} (hcall : call ∈ s.readers) :
    call.buffer.length = 0 ∨ call.offset + call.buffer.length < 2 ^ 64 := by
  obtain ⟨n, hn⟩ := List.mem_iff_getElem?.mp hcall
  have htouched := (h.readers n call hn).1.touched
  unfold BlockLayout.touchedBlocks at htouched
  split_ifs at htouched with hempty hfits
  · exact .inl hempty
  · exact .inr (not_le.mp hfits)

/-! ## Runs -/

/-- A call that cannot be divided into blocks. -/
theorem Inv.refused (h : s.Inv right temp) {e : FlatEvent}
    (he : ∀ content, e.apply content = content)
    (hread : ∀ offset result, e ≠ .read offset result) :
    ({ s with events := s.events ++ [e] } : FlatStore).Inv right temp := by
  have hcontent : ({ s with events := s.events ++ [e] } : FlatStore).content right =
      s.content right := (content_of_events rfl right).trans (he _)
  exact {
    cache := h.cache
    pos := h.pos
    blocks := fun b => by
      have hwritten : ({ s with events := s.events ++ [e] } : FlatStore).written right =
          s.written right := by
        unfold written
        rw [hcontent]
      rw [hwritten]
      exact h.blocks b
    readers := fun n call hn => by
      rw [hcontent]
      exact h.readers n call hn
    writer := h.writer
    apart := h.apart
    alone := h.alone
    legal := eachAfter_concat h.legal fun offset result heq =>
      absurd heq (hread offset result) }

theorem step_inv (s : FlatStore) (a : FlatAction) (s' : FlatStore) (h : s.Inv right temp)
    (hs : s.step a = some s') : s'.Inv right temp := by
  cases a with
  | readLocked offset buffer =>
    simp only [step] at hs
    split_ifs at hs with hw
    have hnone : s.writer = none := by simpa using hw
    split at hs
    · next touched htouched =>
      obtain rfl := Option.some.inj hs
      have hcons : ∀ {call c : FlatCall} {n : Nat}, (call :: s.readers)[n]? = some c →
          call = c ∨ ∃ m, n = m + 1 ∧ s.readers[m]? = some c := by
        intro call c n hn
        cases n with
        | zero => exact .inl (Option.some.inj hn)
        | succ m => exact .inr ⟨m, rfl, hn⟩
      exact { h with
        readers := fun n c hn => by
          rcases hcons hn with rfl | ⟨m, -, hm⟩
          · exact ⟨⟨htouched, Nat.zero_le _, nofun⟩, rfl⟩
          · exact h.readers m c hm
        apart := fun n m c c' i hn hm hi hi' => by
          rcases hcons hn with rfl | ⟨n', rfl, hn'⟩
          · cases hi
          · rcases hcons hm with rfl | ⟨m', rfl, hm'⟩
            · cases hi'
            · rw [h.apart n' m' c c' i hn' hm' hi hi']
        alone := fun hw => absurd hnone hw }
    · obtain rfl := Option.some.inj hs
      exact h.refused (fun _ => rfl) nofun
  | writeLocked offset data =>
    simp only [step] at hs
    split_ifs at hs with hw
    obtain ⟨hnone, hempty⟩ : s.writer = none ∧ s.readers = [] := by simpa using hw
    split at hs
    · next touched htouched =>
      obtain rfl := Option.some.inj hs
      have hwritten : ({ s with writer := some { offset, buffer := data, touched } } :
          FlatStore).written right = s.written right := by
        unfold written
        rw [hnone]
        exact writeAt_nil _ _
      exact { h with
        blocks := fun b => hwritten ▸ h.blocks b
        writer := fun c hc => Option.some.inj hc ▸ ⟨htouched, Nat.zero_le _, nofun⟩
        alone := fun _ => hempty }
    · obtain rfl := Option.some.inj hs
      exact h.refused (fun content => writeAt_nil _ _) nofun
  | reader n step =>
    obtain ⟨call, hcall, hs⟩ := Option.bind_eq_some_iff.mp hs
    obtain ⟨⟨cache', p⟩, hstep, rfl⟩ := Option.map_eq_some_iff.mp hs
    exact h.reader hcall hstep
  | writer step =>
    obtain ⟨call, hcall, hs⟩ := Option.bind_eq_some_iff.mp hs
    obtain ⟨⟨cache', p⟩, hstep, rfl⟩ := Option.map_eq_some_iff.mp hs
    exact h.write hcall hstep
  | worker a =>
    simp only [step] at hs
    have haside : ∀ {cache'}, s.cache.step a = some cache' →
        s.cache.stepWorker s.cache.worker a = some cache' →
          ({ s with cache := cache' } : FlatStore).Inv right temp := fun hs hworker =>
      h.aside hs (Sys.stepWorker_same hworker).2 (Sys.worker_hist hworker)
    cases a with
    | workerLock | workerWake | flushRead | flushWrite | flushRemove | flushFinish =>
      obtain ⟨cache', hcache, rfl⟩ := Option.map_eq_some_iff.mp hs
      have hworker := hcache
      simp only [Sys.step] at hworker
      split_ifs at hworker
      exact haside hcache hworker
    | _ => cases hs
  | stop =>
    obtain ⟨cache', hcache, rfl⟩ := Option.map_eq_some_iff.mp hs
    have hstop := hcache
    simp only [Sys.step] at hstop
    split_ifs at hstop
    obtain rfl := Option.some.inj hstop
    exact h.aside hcache rfl rfl

theorem inv_init {config : CacheConfig} {s₀ : Sys} (hb : build config right temp = .ok s₀) :
    ({ cache := s₀ } : FlatStore).Inv right temp := by
  obtain ⟨-, hinv⟩ := Sys.build_ok hb
  obtain ⟨-, hpos, -, -, rfl⟩ := Sys.build_eq hb
  exact {
    cache := hinv
    pos := hpos
    blocks := fun b => rfl
    readers := fun n call hn => by cases hn
    writer := fun call hcall => by cases hcall
    apart := fun n m call call' i hn => by cases hn
    alone := fun _ => rfl
    legal := eachAfter_nil }

/-- **The cache is an array of bytes.**  In every run, with any number of reads at the same time
and the flush worker next to them, whatever fails: a read that returns `Ok` has the bytes that the
earlier writes have left, where a write that failed has written a part of its data, and no other
byte is changed. -/
theorem flat_store {config : CacheConfig} {s₀ : Sys} (hb : build config right temp = .ok s₀)
    {as : List FlatAction} (hr : runFrom step { cache := s₀ } as = some s) :
    ∀ before offset result after, s.events = before ++ .read offset result :: after →
      result = readAt (before.foldl FlatEvent.apply right) offset result.length :=
  fun before offset result after heq =>
    (run_inv step_inv (inv_init hb) hr).legal before _ after heq offset result rfl

/-- A write whose second block fails, the flush, and two reads next to each other. -/
def tornWrite : List FlatAction :=
  [.writeLocked 1 [7, 8, 9], .writer (.next 0), .writer (.block (.lock 0 .written)),
    .writer (.block (.rightRead 0 true)), .writer (.block (.finish 0)), .writer (.next 1),
    .writer (.block (.lock 1 .written)), .writer (.block (.rightRead 1 false)),
    .writer (.block (.finish 1)), .worker (.workerLock .written), .readLocked 0 [0, 0, 0, 0],
    .readLocked 1 [0], .reader 0 (.next 2), .reader 1 (.next 3),
    .reader 0 (.block (.lock 2 .written)), .reader 0 (.block (.tempRead 2 true)),
    .reader 0 (.block (.finish 2)), .reader 0 .ret]

theorem flat_store_torn : ∃ (s₀ : Sys) (s : FlatStore),
    runFrom step { cache := s₀ } tornWrite = some s ∧
    s.events = [.writeFailed 1 [7, 8, 9] 1, .read 1 [7]] ∧ s.readers.length = 1 ∧
    [7] = readAt (writeAt UInt8.ofNat 1 [7]) 1 1 := by
  obtain ⟨s₀, hb⟩ : ∃ s₀, build ⟨1, 1, 2, 1⟩ UInt8.ofNat (fun _ => none) = .ok s₀ := ⟨_, rfl⟩
  obtain ⟨-, -, -, -, heq⟩ := Sys.build_eq hb
  obtain ⟨s, hs, hp⟩ := exists_run step { cache := s₀ } tornWrite (fun s =>
    s.events = [.writeFailed 1 [7, 8, 9] 1, .read 1 [7]] ∧ s.readers.length = 1)
    (by subst heq; decide +kernel)
  obtain ⟨hevents, hreaders⟩ : s.events = [.writeFailed 1 [7, 8, 9] 1, .read 1 [7]] ∧
    s.readers.length = 1 := by simpa using hp
  exact ⟨s₀, s, hs, hevents, hreaders,
    flat_store hb hs [.writeFailed 1 [7, 8, 9] 1] 1 [7] [] hevents⟩

end FlatStore

end YumeDisk.Cache
