import YumeDisk.Cache.BlockTiling
import YumeDisk.Cache.HeldBlocks
import YumeDisk.TauriClient.DiskRuntime

/-!
# Network media (`tauri-client/src/backend/network_media.rs`)

The medium of a network disk reads and writes its session in chunks.  A writable one has the cache
of `Cache.System` in between: the right store of the cache is `DiskSessionAtIo`, whose last block
may go past the end of the disk.

* `Remote`: the disk behind a session, how the calls on it end and which were made.
* `readChunks_spec`, `writeChunks_spec`: the loops over the chunks.
* `DiskSessionAtIo.readAt_spec`, `DiskSessionAtIo.writeAt_spec`: the right store.
* `network_media_bounds`: **the I/O of a medium stays in the disk.**
-/

namespace YumeDisk.TauriClient.Network

open Lib

/-! ## The session -/

/-- `NetworkClientError`; what the others carry is for their texts only. -/
inductive NetworkClientError where
  | invalidArgument (argument : String)
  | invalidState (state : String)
  | openRejected
  | invalidIo (io : String)
  | ioFailed
  | sessionUnavailable
  | unauthorizedDisk
  | alreadyConnected
  | pendingRequestConflict
  | unknownPendingRequest
  | protocol
  | transport
  | crypto
  | unimplemented
deriving DecidableEq, Repr

inductive BackendError where
  | invalidParameter
  | sessionNotOpen
deriving DecidableEq, Repr

inductive RightIoErrorKind where
  | invalidInput
  | unavailable
deriving DecidableEq, Repr

/-- `CacheError`; a `RightIo` comes with its kind and the error that its detail is the text of. -/
inductive AtIoError where
  | cache (error : Cache.CacheError)
  | rightIo (operation : String) (kind : RightIoErrorKind) (detail : NetworkClientError)
deriving DecidableEq, Repr

/-- A call of `DiskSession::read_at` or `DiskSession::write_at`. -/
structure SessionCall where
  write : Bool
  offset : Nat
  length : Nat
deriving DecidableEq, Repr

/-- A call that fails; a write has left `torn` at the start of its range. -/
structure SessionFailure where
  error : NetworkClientError
  torn : Bytes
deriving DecidableEq, Repr

/-- The disk behind a session, how the next calls on it end, and the calls that were made. -/
structure Remote where
  bytes : Nat → UInt8
  /-- Behind its end, and where there is `none`, a call succeeds. -/
  failures : List (Option SessionFailure) := []
  calls : List SessionCall := []
  /-- The invalidation handler is set. -/
  handler : Bool := false
  /-- How often it was called. -/
  invalidations : Nat := 0

namespace Remote

/-- The remote after a call was made. -/
def called (r : Remote) (call : SessionCall) : Remote :=
  { r with failures := r.failures.tail, calls := r.calls ++ [call] }

/-- `DiskSession::read_at`. -/
def readAt (r : Remote) (offset length : Nat) : Except NetworkClientError Bytes × Remote :=
  match r.failures.head?.join with
  | some failure => (.error failure.error, r.called ⟨false, offset, length⟩)
  | none => (.ok (Lib.readAt r.bytes offset length), r.called ⟨false, offset, length⟩)

/-- `DiskSession::write_at`. -/
def writeAt (r : Remote) (offset : Nat) (data : Bytes) : Except NetworkClientError Unit × Remote :=
  let r' := r.called ⟨true, offset, data.length⟩
  match r.failures.head?.join with
  | some failure => (.error failure.error,
      { r' with bytes := Lib.writeAt r.bytes offset (failure.torn.take data.length) })
  | none => (.ok (), { r' with bytes := Lib.writeAt r.bytes offset data })

end Remote

def isTerminalMediaError : NetworkClientError → Bool
  | .sessionUnavailable | .transport | .protocol => true
  | _ => false

/-- `InvalidationDispatch::fire_if_terminal`. -/
def fireIfTerminal (error : NetworkClientError) (r : Remote) : Remote :=
  if isTerminalMediaError error && r.handler then
    { r with invalidations := r.invalidations + 1 }
  else
    r

/-! ## Chunks -/

/-- `MAX_DATA_PLANE_RAW_BYTES`. -/
def maxDataPlaneRawBytes : Nat := 60 * 1024

/-- What a loop over chunks makes of the error of a session, and of an offset that is too large. -/
structure ChunkErrors (ε : Type) where
  session : NetworkClientError → ε
  overflow : ε

variable {ε : Type}

def readChunk (errors : ChunkErrors ε) (offset length : Nat) : EStateM ε Remote Bytes := fun r =>
  match r.readAt offset length with
  | (.ok chunk, r) => .ok chunk r
  | (.error error, r) => .error (errors.session error) (fireIfTerminal error r)

def writeChunk (errors : ChunkErrors ε) (offset : Nat) (chunk : Bytes) :
    EStateM ε Remote Unit := fun r =>
  match r.writeAt offset chunk with
  | (.ok _, r) => .ok () r
  | (.error error, r) => .error (errors.session error) (fireIfTerminal error r)

/-- `checked_add`. -/
def nextOffset (errors : ChunkErrors ε) (offset length : Nat) : EStateM ε Remote Nat :=
  if offset + length < 2 ^ 64 then pure (offset + length) else throw errors.overflow

/-- The loop of the reads over `remaining` bytes. -/
def readChunks (errors : ChunkErrors ε) (remaining offset : Nat) : EStateM ε Remote Bytes :=
  if remaining = 0 then
    return []
  else do
    let chunkLen := min remaining maxDataPlaneRawBytes
    let chunk ← readChunk errors offset chunkLen
    let offset ← nextOffset errors offset chunkLen
    let rest ← readChunks errors (remaining - chunkLen) offset
    return chunk ++ rest
termination_by remaining
decreasing_by
  have hmax : 0 < maxDataPlaneRawBytes := by decide
  omega

/-- The loop of the writes. -/
def writeChunks (errors : ChunkErrors ε) (remaining : Bytes) (offset : Nat) :
    EStateM ε Remote Unit :=
  if remaining.length = 0 then
    return ()
  else do
    let chunkLen := min remaining.length maxDataPlaneRawBytes
    writeChunk errors offset (remaining.take chunkLen)
    let offset ← nextOffset errors offset chunkLen
    writeChunks errors (remaining.drop chunkLen) offset
termination_by remaining.length
decreasing_by
  have hmax : 0 < maxDataPlaneRawBytes := by decide
  rw [List.length_drop]
  omega

def mapNetworkErrorToBackendError : NetworkClientError → BackendError
  | .invalidArgument _ | .invalidState _ | .openRejected | .invalidIo _ | .ioFailed =>
    .invalidParameter
  | _ => .sessionNotOpen

def mapNetworkErrorToCacheError (operation : String) (error : NetworkClientError) : AtIoError :=
  let kind : RightIoErrorKind :=
    match error with
    | .invalidArgument _ | .invalidState _ | .openRejected | .invalidIo _ | .ioFailed =>
      .invalidInput
    | _ => .unavailable
  .rightIo operation kind error

def directErrors : ChunkErrors BackendError := ⟨mapNetworkErrorToBackendError, .invalidParameter⟩

def readSessionBytes (length offset : Nat) : EStateM BackendError Remote Bytes :=
  readChunks directErrors length offset

def writeSessionBytes (data : Bytes) (offset : Nat) : EStateM BackendError Remote Unit :=
  writeChunks directErrors data offset

def cachedReadErrors : ChunkErrors AtIoError :=
  ⟨mapNetworkErrorToCacheError "read_at", .cache (.arithmeticOverflow "right read chunk offset")⟩

def cachedWriteErrors : ChunkErrors AtIoError :=
  ⟨mapNetworkErrorToCacheError "write_at", .cache (.arithmeticOverflow "right write chunk offset")⟩

def readSessionBytesForCache (length offset : Nat) : EStateM AtIoError Remote Bytes :=
  readChunks cachedReadErrors length offset

def writeSessionBytesForCache (data : Bytes) (offset : Nat) : EStateM AtIoError Remote Unit :=
  writeChunks cachedWriteErrors data offset

/-! ## The right store -/

def alignUpCapacityBytes (sizeBytes alignmentBytes : Nat) : Option Nat :=
  if alignmentBytes = 0 ∨ sizeBytes = 0 then
    some sizeBytes
  else
    let remainder := sizeBytes % alignmentBytes
    if remainder = 0 then
      some sizeBytes
    else if sizeBytes + (alignmentBytes - remainder) < 2 ^ 64 then
      some (sizeBytes + (alignmentBytes - remainder))
    else
      none

def visibleDiskBackedLength (diskSizeBytes offset requestLength : Nat) : Nat :=
  if requestLength = 0 ∨ diskSizeBytes ≤ offset then 0
  else min (diskSizeBytes - offset) requestLength

structure DiskSessionAtIo where
  diskSizeBytes : Nat
  logicalSizeBytes : Nat
  blockSizeBytes : Nat
deriving DecidableEq, Repr

namespace DiskSessionAtIo

def new (diskSizeBytes blockSizeBytes : Nat) : Except NetworkClientError DiskSessionAtIo :=
  match alignUpCapacityBytes diskSizeBytes blockSizeBytes with
  | none => throw (.invalidArgument "disk_size_bytes")
  | some logicalSizeBytes => return ⟨diskSizeBytes, logicalSizeBytes, blockSizeBytes⟩

variable (io : DiskSessionAtIo)

def validateRequest (offset length : Nat) : Except Cache.CacheError Unit :=
  if offset % io.blockSizeBytes ≠ 0 ∨ length ≠ io.blockSizeBytes then
    throw (.misalignedRightIo offset length io.blockSizeBytes)
  else if 2 ^ 64 ≤ offset + length then
    throw (.invalidRange offset length)
  else if io.logicalSizeBytes < offset + length then
    throw (.invalidRange offset length)
  else
    return ()

def readAt (offset length : Nat) : EStateM AtIoError Remote Bytes :=
  match io.validateRequest offset length with
  | .error error => throw (.cache error)
  | .ok _ => do
    let visibleLen := visibleDiskBackedLength io.diskSizeBytes offset length
    let visible ← if visibleLen = 0 then pure [] else readSessionBytesForCache visibleLen offset
    return visible ++ List.replicate (length - visibleLen) 0

def writeAt (offset : Nat) (data : Bytes) : EStateM AtIoError Remote Unit :=
  match io.validateRequest offset data.length with
  | .error error => throw (.cache error)
  | .ok _ =>
    let visibleLen := visibleDiskBackedLength io.diskSizeBytes offset data.length
    if visibleLen = 0 then return ()
    else writeSessionBytesForCache (data.take visibleLen) offset

end DiskSessionAtIo

/-! ## The medium -/

def defaultCacheConfig : Cache.CacheConfig where
  fifoCapacityBlocks := 32
  lruCapacityBlocks := 64
  blockSizeBytes := 32 * 1024
  tempMaxFiles := 64

inductive MediaPath where
  | bypassRo
  | cachedRw (right : DiskSessionAtIo) (cache : Cache.Sys)

structure NetworkMedia where
  remoteDiskId : String
  diskSizeBytes : Nat
  readOnly : Bool
  path : MediaPath

/-- `NetworkMedia::bind`; `tempDir` is what `prepare_cache_temp_dir` returns, with the files that
are in the directory, and `right` what the right store holds. -/
def bind (remoteDiskId : String) (metadata : SessionMetadata) (configuredReadOnly : Bool)
    (tempDir : Except String Cache.TempStore) (right : Nat → UInt8) :
    Except NetworkClientError NetworkMedia :=
  if remoteDiskId.isEmpty then
    throw (.invalidArgument "remote_disk_id")
  else if metadata.diskSizeBytes = 0 then
    throw (.invalidArgument "disk_size_bytes")
  else if configuredReadOnly || metadata.readOnly then
    return ⟨remoteDiskId, metadata.diskSizeBytes, true, .bypassRo⟩
  else
    match tempDir with
    | .error _ => throw (.invalidState "cache_temp_dir")
    | .ok temp => do
      let config := defaultCacheConfig
      let io ← DiskSessionAtIo.new metadata.diskSizeBytes config.blockSizeBytes
      match Cache.build config right temp with
      | .error _ => throw (.invalidState "cache")
      | .ok cache => return ⟨remoteDiskId, metadata.diskSizeBytes, false, .cachedRw io cache⟩

def validateRange (diskSizeBytes offset length : Nat) : Except BackendError Unit :=
  if 2 ^ 64 ≤ offset + length then throw .invalidParameter
  else if diskSizeBytes < offset + length then throw .invalidParameter
  else return ()

namespace NetworkMedia

variable (media : NetworkMedia)

/-- `read_locked`; `cached` is the `read_locked` of the cache. -/
def readLocked (cached : EStateM BackendError Remote Bytes) (offset length : Nat) :
    EStateM BackendError Remote Bytes :=
  match validateRange media.diskSizeBytes offset length with
  | .error error => throw error
  | .ok _ =>
    if length = 0 then return []
    else
      match media.path with
      | .bypassRo => readSessionBytes length offset
      | .cachedRw _ _ => cached

/-- `write_locked`; `cached` is the `write_locked` of the cache. -/
def writeLocked (cached : EStateM BackendError Remote Unit) (offset : Nat) (data : Bytes) :
    EStateM BackendError Remote Unit :=
  match validateRange media.diskSizeBytes offset data.length with
  | .error error => throw error
  | .ok _ =>
    if media.readOnly then throw .invalidParameter
    else if data.length = 0 then return ()
    else
      match media.path with
      | .bypassRo => writeSessionBytes data offset
      | .cachedRw _ _ => cached

end NetworkMedia

/-! ## The chunks of one call -/

/-- Each call begins where the one before it ended; together they go from `start` to `stop`. -/
def Consecutive (start : Nat) : List SessionCall → Nat → Prop
  | [], stop => start = stop
  | call :: calls, stop => call.offset = start ∧ Consecutive (start + call.length) calls stop

/-- The calls of `write` kind on `[start, stop)` of a disk of `size` bytes: in order and without a
gap, each inside the disk and of 1 to 60 KiB. -/
structure Chunks (size : Nat) (write : Bool) (start stop : Nat) (calls : List SessionCall) :
    Prop where
  consecutive : Consecutive start calls stop
  kind : ∀ call ∈ calls, call.write = write
  pos : ∀ call ∈ calls, 1 ≤ call.length
  le : ∀ call ∈ calls, call.length ≤ maxDataPlaneRawBytes
  inDisk : ∀ call ∈ calls, call.offset + call.length ≤ size

/-- The calls that were made from `r` to `r'`. -/
def Made (calls : List SessionCall) (r r' : Remote) : Prop := r'.calls = r.calls ++ calls

/-- The session failed the last of the calls that were made, which are the first chunks of
`[start, stop)`. -/
def SessionFailed (errors : ChunkErrors ε) (size : Nat) (write : Bool) (start stop : Nat)
    (r : Remote) (error : ε) (r' : Remote) : Prop :=
  ∃ calls reached failure, Made calls r r' ∧ Chunks size write start reached calls ∧
    reached ≤ stop ∧ calls ≠ [] ∧ r.failures[calls.length - 1]? = some (some failure) ∧
    error = errors.session failure.error

variable {size : Nat} {write : Bool}

theorem chunks_nil (size : Nat) (write : Bool) (start : Nat) : Chunks size write start start [] :=
  ⟨rfl, nofun, nofun, nofun, nofun⟩

theorem Chunks.cons {start stop length : Nat} {calls : List SessionCall}
    (h : Chunks size write (start + length) stop calls) (hpos : 1 ≤ length)
    (hle : length ≤ maxDataPlaneRawBytes) (hin : start + length ≤ size) :
    Chunks size write start stop (⟨write, start, length⟩ :: calls) where
  consecutive := ⟨rfl, h.consecutive⟩
  kind := List.forall_mem_cons.mpr ⟨rfl, h.kind⟩
  pos := List.forall_mem_cons.mpr ⟨hpos, h.pos⟩
  le := List.forall_mem_cons.mpr ⟨hle, h.le⟩
  inDisk := List.forall_mem_cons.mpr ⟨hin, h.inDisk⟩

theorem fireIfTerminal_calls (error : NetworkClientError) (r : Remote) :
    (fireIfTerminal error r).calls = r.calls ∧ (fireIfTerminal error r).bytes = r.bytes := by
  unfold fireIfTerminal
  split <;> exact ⟨rfl, rfl⟩

section Chunk

variable {errors : ChunkErrors ε} {r : Remote} {offset : Nat}

theorem head?_join_eq_some {failures : List (Option SessionFailure)} {failure : SessionFailure}
    (h : failures.head?.join = some failure) : failures[0]? = some (some failure) := by
  cases failures with
  | nil => cases h
  | cons f fs => exact congrArg some h

theorem readChunk_spec (length : Nat) :
    Ends (readChunk errors offset length) r
      (fun chunk r' => chunk = Lib.readAt r.bytes offset length ∧
        r' = r.called ⟨false, offset, length⟩)
      fun error r' => Made [⟨false, offset, length⟩] r r' ∧ r'.bytes = r.bytes ∧
        ∃ failure, r.failures[0]? = some (some failure) ∧ error = errors.session failure.error := by
  unfold readChunk Remote.readAt
  cases hf : r.failures.head?.join with
  | none => exact ends_of_ok (by rw [hf]) ⟨rfl, rfl⟩
  | some failure =>
    refine ends_of_error (by rw [hf]) ⟨?_, ?_, failure, head?_join_eq_some hf, rfl⟩
    · exact (fireIfTerminal_calls _ _).1
    · exact (fireIfTerminal_calls _ _).2

theorem writeChunk_spec (chunk : Bytes) :
    Ends (writeChunk errors offset chunk) r
      (fun _ r' => r' = { r.called ⟨true, offset, chunk.length⟩ with
        bytes := Lib.writeAt r.bytes offset chunk })
      fun error r' => Made [⟨true, offset, chunk.length⟩] r r' ∧
        ∃ failure, r.failures[0]? = some (some failure) ∧ error = errors.session failure.error := by
  unfold writeChunk Remote.writeAt
  cases hf : r.failures.head?.join with
  | none => exact ends_of_ok (by rw [hf]) rfl
  | some failure =>
    refine ends_of_error (by rw [hf]) ⟨?_, failure, head?_join_eq_some hf, rfl⟩
    exact (fireIfTerminal_calls _ _).1

theorem nextOffset_eq {length : Nat} (h : offset + length < 2 ^ 64) :
    (nextOffset errors offset length : EStateM ε Remote Nat) = pure (offset + length) :=
  if_pos h

/-- The first of the chunks fails. -/
theorem SessionFailed.first {length stop : Nat} {error : ε} {r' : Remote}
    (hmade : Made [⟨write, offset, length⟩] r r') (hpos : 1 ≤ length)
    (hle : length ≤ maxDataPlaneRawBytes) (hin : offset + length ≤ size)
    (hstop : offset + length ≤ stop)
    (hf : ∃ failure, r.failures[0]? = some (some failure) ∧ error = errors.session failure.error) :
    SessionFailed errors size write offset stop r error r' := by
  obtain ⟨failure, hf, he⟩ := hf
  exact ⟨_, _, failure, hmade, (chunks_nil size write _).cons hpos hle hin, hstop, nofun, hf, he⟩

/-- The first of the chunks is made, and a later one fails. -/
theorem SessionFailed.later {length stop : Nat} {error : ε} {r₁ r' : Remote}
    (hcalls : r₁.calls = r.calls ++ [⟨write, offset, length⟩])
    (hfailures : r₁.failures = r.failures.tail) (hpos : 1 ≤ length)
    (hle : length ≤ maxDataPlaneRawBytes) (hin : offset + length ≤ size)
    (h : SessionFailed errors size write (offset + length) stop r₁ error r') :
    SessionFailed errors size write offset stop r error r' := by
  obtain ⟨calls, reached, failure, hmade, hchunks, hreached, hne, hf, he⟩ := h
  refine ⟨_, reached, failure, ?_, hchunks.cons hpos hle hin, hreached, nofun, ?_, he⟩
  · show r'.calls = _
    rw [show r'.calls = r₁.calls ++ calls from hmade, hcalls, List.append_assoc]
    rfl
  · have hlen : 0 < calls.length := List.length_pos_of_ne_nil hne
    rw [hfailures, List.getElem?_tail] at hf
    rw [← hf, List.length_cons]
    congr 1
    omega

end Chunk

/-- `x` reads `length` bytes at `offset` of the session, in chunks, and appends `tail` to them. -/
def ReadsRange (errors : ChunkErrors ε) (size offset length : Nat) (tail : Bytes)
    (x : EStateM ε Remote Bytes) : Prop :=
  ∀ r, Ends x r
    (fun buffer r' => buffer = Lib.readAt r.bytes offset length ++ tail ∧ r'.bytes = r.bytes ∧
      ∃ calls, Made calls r r' ∧ Chunks size false offset (offset + length) calls)
    fun error r' => r'.bytes = r.bytes ∧
      SessionFailed errors size false offset (offset + length) r error r'

/-- `x` writes `data` at `offset` of the session, in chunks. -/
def WritesRange (errors : ChunkErrors ε) (size offset : Nat) (data : Bytes)
    (x : EStateM ε Remote Unit) : Prop :=
  ∀ r, Ends x r
    (fun _ r' => r'.bytes = Lib.writeAt r.bytes offset data ∧
      ∃ calls, Made calls r r' ∧ Chunks size true offset (offset + data.length) calls)
    fun error r' => SessionFailed errors size true offset (offset + data.length) r error r'

theorem readsRange_nil (errors : ChunkErrors ε) (size offset : Nat) (tail : Bytes) :
    ReadsRange errors size offset 0 tail (pure tail) := fun _ =>
  ends_of_ok (run_pure _) ⟨rfl, rfl, [], (List.append_nil _).symm, chunks_nil ..⟩

theorem writesRange_nil (errors : ChunkErrors ε) (size offset : Nat) :
    WritesRange errors size offset [] (pure ()) := fun _ =>
  ends_of_ok (run_pure _) ⟨(writeAt_nil _ _).symm, [], (List.append_nil _).symm, chunks_nil ..⟩

theorem chunk_pos {n : Nat} (h : n ≠ 0) : 1 ≤ min n maxDataPlaneRawBytes := by
  have hmax : 0 < maxDataPlaneRawBytes := by decide
  omega

/-- **The loop of the reads.** -/
theorem readChunks_spec {errors : ChunkErrors ε} {remaining offset : Nat}
    (hin : offset + remaining ≤ size) (hend : offset + remaining < 2 ^ 64) :
    ReadsRange errors size offset remaining [] (readChunks errors remaining offset) := by
  induction remaining using Nat.strongRecOn generalizing offset with
  | ind remaining ih =>
    rw [readChunks]
    by_cases h0 : remaining = 0
    · rw [if_pos h0, h0]
      exact readsRange_nil _ _ _ _
    rw [if_neg h0]
    intro r
    have hpos := chunk_pos h0
    have hle : min remaining maxDataPlaneRawBytes ≤ maxDataPlaneRawBytes := Nat.min_le_right _ _
    have hlen : min remaining maxDataPlaneRawBytes ≤ remaining := Nat.min_le_left _ _
    generalize min remaining maxDataPlaneRawBytes = chunkLen at hpos hle hlen ⊢
    refine Ends.bind ((readChunk_spec chunkLen).mono (fun _ _ h => h) fun error r' h => ?_)
      fun chunk r₁ h₁ => ?_
    · exact ⟨h.2.1, .first h.1 hpos hle (by omega) (by omega) h.2.2⟩
    obtain ⟨rfl, rfl⟩ := h₁
    rw [nextOffset_eq (by omega)]
    refine ends_bind_of_ok (run_pure _) ?_
    have hrest := @ih (remaining - chunkLen) (by omega) (offset + chunkLen) (by omega) (by omega)
      (r.called ⟨false, offset, chunkLen⟩)
    rw [show offset + chunkLen + (remaining - chunkLen) = offset + remaining by omega] at hrest
    refine Ends.bind (hrest.mono (fun _ _ h => h) fun error r' h => ?_) fun rest r₂ h₂ => ?_
    · exact ⟨h.1, .later rfl rfl hpos hle (by omega) h.2⟩
    obtain ⟨rfl, hbytes, calls, hmade, hchunks⟩ := h₂
    refine ends_of_ok (run_pure _) ⟨?_, hbytes, _, ?_, hchunks.cons hpos hle (by omega)⟩
    · rw [List.append_nil, List.append_nil]
      show _ = Lib.readAt r.bytes offset remaining
      rw [show remaining = chunkLen + (remaining - chunkLen) by omega, readAt_add,
        Nat.add_sub_cancel_left]
      rfl
    · show r₂.calls = _
      rw [show r₂.calls = (r.calls ++ [_]) ++ calls from hmade, List.append_assoc]
      rfl

/-- **The loop of the writes.** -/
theorem writeChunks_spec {errors : ChunkErrors ε} {data : Bytes} {offset : Nat}
    (hin : offset + data.length ≤ size) (hend : offset + data.length < 2 ^ 64) :
    WritesRange errors size offset data (writeChunks errors data offset) := by
  induction hn : data.length using Nat.strongRecOn generalizing data offset with
  | ind n ih =>
    subst hn
    rw [writeChunks]
    by_cases h0 : data.length = 0
    · rw [if_pos h0]
      obtain rfl := List.length_eq_zero_iff.mp h0
      exact writesRange_nil _ _ _
    rw [if_neg h0]
    intro r
    have hpos := chunk_pos h0
    have hle : min data.length maxDataPlaneRawBytes ≤ maxDataPlaneRawBytes := Nat.min_le_right _ _
    have hlen : min data.length maxDataPlaneRawBytes ≤ data.length := Nat.min_le_left _ _
    generalize min data.length maxDataPlaneRawBytes = chunkLen at hpos hle hlen ⊢
    have htake : (data.take chunkLen).length = chunkLen := by rw [List.length_take]; omega
    have hdrop : (data.drop chunkLen).length = data.length - chunkLen := List.length_drop
    have hspec := @writeChunk_spec ε errors r offset (data.take chunkLen)
    rw [htake] at hspec
    refine Ends.bind (hspec.mono (fun _ _ h => h) fun error r' h => ?_) fun _ r₁ h₁ => ?_
    · exact .first h.1 hpos hle (by omega) (by omega) h.2
    subst h₁
    rw [nextOffset_eq (by omega)]
    refine ends_bind_of_ok (run_pure _) ?_
    have hrest := @ih (data.length - chunkLen) (by omega) (data.drop chunkLen) (offset + chunkLen)
      (by omega) (by omega) hdrop
      { r.called ⟨true, offset, chunkLen⟩ with
        bytes := Lib.writeAt r.bytes offset (data.take chunkLen) }
    rw [hdrop, show offset + chunkLen + (data.length - chunkLen) = offset + data.length by omega]
      at hrest
    refine hrest.mono (fun _ r₂ h₂ => ?_) fun error r' h => .later rfl rfl hpos hle (by omega) h
    obtain ⟨hbytes, calls, hmade, hchunks⟩ := h₂
    refine ⟨?_, _, ?_, hchunks.cons hpos hle (by omega)⟩
    · have hsecond := writeAt_append r.bytes offset (data.take chunkLen) (data.drop chunkLen)
      rw [htake, List.take_append_drop] at hsecond
      exact hbytes.trans hsecond
    · show r₂.calls = _
      rw [show r₂.calls = (r.calls ++ [_]) ++ calls from hmade, List.append_assoc]
      rfl

/-! ## The right store -/

theorem visibleDiskBackedLength_eq (diskSizeBytes offset requestLength : Nat) :
    visibleDiskBackedLength diskSizeBytes offset requestLength =
      min requestLength (diskSizeBytes - offset) := by
  unfold visibleDiskBackedLength
  split_ifs <;> omega

/-- The capacity is rounded up to whole blocks. -/
theorem alignUpCapacityBytes_spec {sizeBytes blockSize logical : Nat} (hblock : 0 < blockSize)
    (hsize : sizeBytes < 2 ^ 64) (h : alignUpCapacityBytes sizeBytes blockSize = some logical) :
    sizeBytes ≤ logical ∧ logical < 2 ^ 64 ∧ blockSize ∣ logical := by
  unfold alignUpCapacityBytes at h
  dsimp only at h
  split_ifs at h with hzero hrem hfit
  · obtain rfl := Option.some.inj h
    exact ⟨le_rfl, hsize, (hzero.resolve_left hblock.ne') ▸ dvd_zero _⟩
  · obtain rfl := Option.some.inj h
    exact ⟨le_rfl, hsize, Nat.dvd_of_mod_eq_zero hrem⟩
  · obtain rfl := Option.some.inj h
    refine ⟨Nat.le_add_right _ _, hfit, ?_⟩
    have hlt := Nat.mod_lt sizeBytes hblock
    have hdiv := Nat.div_add_mod sizeBytes blockSize
    refine ⟨sizeBytes / blockSize + 1, ?_⟩
    rw [Nat.mul_add, Nat.mul_one]
    omega

namespace DiskSessionAtIo

variable {io : DiskSessionAtIo} {offset length : Nat}

theorem validateRequest_eq_ok : io.validateRequest offset length = .ok () ↔
    offset % io.blockSizeBytes = 0 ∧ length = io.blockSizeBytes ∧ offset + length < 2 ^ 64 ∧
      offset + length ≤ io.logicalSizeBytes := by
  unfold validateRequest
  split_ifs with hblock hend hsize
  · exact iff_of_false nofun fun h => hblock.elim (fun hne => hne h.1) fun hne => hne h.2.1
  · exact iff_of_false nofun fun h => Nat.not_lt_of_le hend h.2.2.1
  · exact iff_of_false nofun fun h => Nat.not_lt_of_le h.2.2.2 hsize
  · obtain ⟨haligned, hlength⟩ := not_or.mp hblock
    exact iff_of_true rfl ⟨not_not.mp haligned, not_not.mp hlength, Nat.lt_of_not_le hend,
      Nat.le_of_not_lt hsize⟩

/-- **A read of the right store**: what of it is in the disk, and zeros. -/
theorem readAt_spec (h : io.validateRequest offset length = .ok ()) :
    ReadsRange cachedReadErrors io.diskSizeBytes offset (min length (io.diskSizeBytes - offset))
      (List.replicate (length - (io.diskSizeBytes - offset)) 0) (io.readAt offset length) := by
  obtain ⟨-, -, hend, -⟩ := validateRequest_eq_ok.mp h
  unfold readAt
  rw [h]
  dsimp only
  rw [visibleDiskBackedLength_eq,
    show length - min length (io.diskSizeBytes - offset) =
      length - (io.diskSizeBytes - offset) by omega]
  by_cases hvisible : min length (io.diskSizeBytes - offset) = 0
  · rw [if_pos hvisible, hvisible]
    exact readsRange_nil _ _ _ _
  · rw [if_neg hvisible]
    have hread : ReadsRange cachedReadErrors io.diskSizeBytes offset _ []
        (readSessionBytesForCache (min length (io.diskSizeBytes - offset)) offset) :=
      readChunks_spec (by omega) (by omega)
    intro r
    refine Ends.bind (hread r) fun visible r' hvisible => ends_of_ok (run_pure _) ?_
    rw [List.append_nil] at hvisible
    exact ⟨by rw [hvisible.1], hvisible.2⟩

/-- **A write of the right store**: what of it is in the disk. -/
theorem writeAt_spec {data : Bytes} (h : io.validateRequest offset data.length = .ok ()) :
    WritesRange cachedWriteErrors io.diskSizeBytes offset (data.take (io.diskSizeBytes - offset))
      (io.writeAt offset data) := by
  obtain ⟨-, -, hend, -⟩ := validateRequest_eq_ok.mp h
  have htake : data.take (min data.length (io.diskSizeBytes - offset)) =
      data.take (io.diskSizeBytes - offset) := by
    rw [Nat.min_comm, ← List.take_take, List.take_length]
  unfold writeAt
  rw [h]
  dsimp only
  rw [visibleDiskBackedLength_eq]
  by_cases hvisible : min data.length (io.diskSizeBytes - offset) = 0
  · rw [if_pos hvisible, ← htake, hvisible, List.take_zero]
    exact writesRange_nil _ _ _
  · rw [if_neg hvisible, ← htake]
    refine writeChunks_spec ?_ ?_
    · rw [List.length_take]
      omega
    · rw [List.length_take]
      omega

/-- **A block that was written is read back**, with zeros where it goes past the end. -/
theorem readAt_writeAt {data buffer : Bytes} {r r₁ r₂ : Remote}
    (hwrite : io.writeAt offset data r = .ok () r₁)
    (hread : io.readAt offset data.length r₁ = .ok buffer r₂) :
    buffer = data.take (io.diskSizeBytes - offset) ++
      List.replicate (data.length - (io.diskSizeBytes - offset)) 0 := by
  have hvalid : io.validateRequest offset data.length = .ok () := by
    cases h : io.validateRequest offset data.length with
    | ok _ => rfl
    | error e =>
      unfold writeAt at hwrite
      rw [h] at hwrite
      cases hwrite
  have hbytes := ((writeAt_spec hvalid r).of_ok hwrite).1
  have hbuffer := ((readAt_spec hvalid r₁).of_ok hread).1
  have hlen : (data.take (io.diskSizeBytes - offset)).length =
      min data.length (io.diskSizeBytes - offset) := by
    rw [List.length_take, Nat.min_comm]
  rw [hbuffer, hbytes, ← hlen, readAt_writeAt_same]

end DiskSessionAtIo

/-! ## The medium -/

/-- The requests on a medium of `diskSizeBytes` pass `validate_range`. -/
def Requests (diskSizeBytes : Nat) (_ : Cache.Sys) : Cache.Action → Prop
  | .readBlock _ offset buffer _ => validateRange diskSizeBytes offset buffer.length = .ok ()
  | .writeBlock _ offset data _ => validateRange diskSizeBytes offset data.length = .ok ()
  | _ => True

/-- A read-only medium. -/
structure DirectBounds (media : NetworkMedia) : Prop where
  reads : ∀ cached offset length, validateRange media.diskSizeBytes offset length = .ok () →
    ReadsRange directErrors media.diskSizeBytes offset length []
      (media.readLocked cached offset length)
  writes : ∀ cached offset data, media.writeLocked cached offset data = throw .invalidParameter

/-- A medium with a cache. -/
structure CachedBounds (diskSizeBytes : Nat) (io : DiskSessionAtIo) (cache : Cache.Sys) : Prop where
  blocks : ∀ offset length, validateRange diskSizeBytes offset length = .ok () →
    ∃ blocks, cache.config.layout.touchedBlocks offset length = .ok blocks ∧
      cache.config.layout.Tiled offset length blocks ∧
      ∀ t ∈ blocks, io.validateRequest t.blockBase cache.config.blockSizeBytes = .ok ()
  rightIo : ∀ as s, StepsMeet Cache.Sys.step (Requests diskSizeBytes) cache as →
    runFrom Cache.Sys.step cache as = some s → ∀ offset length, s.RightIo offset length →
      io.validateRequest offset length = .ok ()
  reads : ∀ offset length, io.validateRequest offset length = .ok () →
    ReadsRange cachedReadErrors diskSizeBytes offset (min length (diskSizeBytes - offset))
      (List.replicate (length - (diskSizeBytes - offset)) 0) (io.readAt offset length)
  writes : ∀ offset data, io.validateRequest offset data.length = .ok () →
    WritesRange cachedWriteErrors diskSizeBytes offset (data.take (diskSizeBytes - offset))
      (io.writeAt offset data)
  readBack : ∀ offset data buffer r r₁ r₂, io.writeAt offset data r = .ok () r₁ →
    io.readAt offset data.length r₁ = .ok buffer r₂ →
      buffer = data.take (diskSizeBytes - offset) ++
        List.replicate (data.length - (diskSizeBytes - offset)) 0

def NetworkMedia.Bounded (media : NetworkMedia) : Prop :=
  match media.path with
  | .bypassRo => DirectBounds media
  | .cachedRw io cache => CachedBounds media.diskSizeBytes io cache

theorem validateRange_eq_ok {diskSizeBytes offset length : Nat} :
    validateRange diskSizeBytes offset length = .ok () ↔
      offset + length < 2 ^ 64 ∧ offset + length ≤ diskSizeBytes := by
  unfold validateRange
  split_ifs with hend hsize
  · exact iff_of_false nofun fun h => Nat.not_lt_of_le hend h.1
  · exact iff_of_false nofun fun h => Nat.not_lt_of_le h.2 hsize
  · exact iff_of_true rfl ⟨Nat.lt_of_not_le hend, Nat.le_of_not_lt hsize⟩

theorem directBounds {media : NetworkMedia} (hpath : media.path = .bypassRo)
    (hro : media.readOnly = true) : DirectBounds media where
  reads cached offset length h := by
    obtain ⟨hend, hin⟩ := validateRange_eq_ok.mp h
    unfold NetworkMedia.readLocked
    rw [h, hpath]
    dsimp only
    by_cases h0 : length = 0
    · rw [if_pos h0, h0]
      exact readsRange_nil _ _ _ _
    · rw [if_neg h0]
      exact readChunks_spec hin hend
  writes cached offset data := by
    unfold NetworkMedia.writeLocked
    rw [hro]
    cases h : validateRange media.diskSizeBytes offset data.length with
    | ok _ => rfl
    | error e =>
      unfold validateRange at h
      split_ifs at h <;> cases h <;> rfl

section Cached

variable {io : DiskSessionAtIo} {offset length : Nat}

/-- The blocks of a request are whole blocks of the right store. -/
theorem touchedBlocks_of_range {l : Cache.BlockLayout} (hpos : 0 < l.blockSize)
    (hdvd : l.blockSize ∣ io.logicalSizeBytes) (hsize : io.diskSizeBytes ≤ io.logicalSizeBytes)
    (hlogical : io.logicalSizeBytes < 2 ^ 64)
    (h : validateRange io.diskSizeBytes offset length = .ok ()) :
    ∃ blocks, l.touchedBlocks offset length = .ok blocks ∧ l.Tiled offset length blocks ∧
      ∀ t ∈ blocks, t.blockIndex * l.blockSize + l.blockSize ≤ io.logicalSizeBytes := by
  obtain ⟨hend, hin⟩ := validateRange_eq_ok.mp h
  by_cases h0 : length = 0
  · subst h0
    exact ⟨[], rfl, Cache.BlockLayout.tiled_nil l offset, nofun⟩
  obtain ⟨k, hk⟩ := hdvd
  have hlast : ((offset + length - 1) / l.blockSize + 1) * l.blockSize ≤ io.logicalSizeBytes := by
    have hlt : (offset + length - 1) / l.blockSize < k := by
      rw [Nat.div_lt_iff_lt_mul hpos, Nat.mul_comm, ← hk]
      omega
    rw [hk, Nat.mul_comm]
    exact Nat.mul_le_mul_left _ hlt
  refine ⟨_, ?_, Cache.BlockLayout.tiled_parts hpos h0, fun t ht => ?_⟩
  · rw [Cache.BlockLayout.touchedBlocks_eq hpos h0 hend, if_pos (by omega)]
  · obtain ⟨b, hb, rfl⟩ := List.mem_map.mp ht
    obtain ⟨-, hb⟩ := List.mem_range'_1.mp hb
    rw [Cache.BlockLayout.add_blockCount l h0] at hb
    refine le_trans ?_ hlast
    show b * l.blockSize + l.blockSize ≤ _
    rw [← Nat.succ_mul]
    exact Nat.mul_le_mul_right _ hb

theorem validateRequest_block {b : Nat} (hlogical : io.logicalSizeBytes < 2 ^ 64)
    (h : b * io.blockSizeBytes + io.blockSizeBytes ≤ io.logicalSizeBytes) :
    io.validateRequest (b * io.blockSizeBytes) io.blockSizeBytes = .ok () :=
  DiskSessionAtIo.validateRequest_eq_ok.mpr ⟨Nat.mul_mod_left _ _, rfl, by omega, h⟩

theorem cachedBounds {diskSizeBytes : Nat} (hsize : diskSizeBytes < 2 ^ 64)
    {config : Cache.CacheConfig} {right : Nat → UInt8} {temp : Cache.TempStore} {cache : Cache.Sys}
    (hio : DiskSessionAtIo.new diskSizeBytes config.blockSizeBytes = .ok io)
    (hbuild : Cache.build config right temp = .ok cache) :
    CachedBounds diskSizeBytes io cache := by
  obtain ⟨-, hpos, -, -, rfl⟩ := Cache.Sys.build_eq hbuild
  unfold DiskSessionAtIo.new at hio
  cases halign : alignUpCapacityBytes diskSizeBytes config.blockSizeBytes with
  | none =>
    rw [halign] at hio
    cases hio
  | some logical =>
    rw [halign] at hio
    obtain rfl := Except.ok.inj hio
    obtain ⟨hle, hlogical, hdvd⟩ := alignUpCapacityBytes_spec hpos hsize halign
    set io : DiskSessionAtIo := ⟨diskSizeBytes, logical, config.blockSizeBytes⟩
    have hblocks : ∀ {offset length}, validateRange diskSizeBytes offset length = .ok () →
        ∃ blocks, config.layout.touchedBlocks offset length = .ok blocks ∧
          config.layout.Tiled offset length blocks ∧
          ∀ t ∈ blocks, t.blockIndex * config.blockSizeBytes + config.blockSizeBytes ≤ logical :=
      fun {offset length} h => @touchedBlocks_of_range io offset length config.layout hpos hdvd hle
        hlogical h
    refine ⟨fun offset length h => ?_, fun as s hasks hr offset length hright => ?_,
      fun offset length h => DiskSessionAtIo.readAt_spec h,
      fun offset data h => DiskSessionAtIo.writeAt_spec h,
      fun offset data buffer r r₁ r₂ hw hr => DiskSessionAtIo.readAt_writeAt hw hr⟩
    · obtain ⟨blocks, heq, htiled, hall⟩ := hblocks h
      refine ⟨blocks, heq, htiled, fun t ht => ?_⟩
      rw [htiled.base t ht]
      exact @validateRequest_block io _ hlogical (hall t ht)
    · let P : Nat → Prop := fun b => b * config.blockSizeBytes + config.blockSizeBytes ≤ logical
      have hasked : StepsMeet Cache.Sys.step (Cache.Sys.Asks P)
          (Cache.Sys.fresh config right temp) as := by
        refine hasks.mono (I := fun t => t.config = config) (fun t a ht hG => ?_)
          (fun t a t' ht hs => (Cache.Sys.step_config hs).trans ht) rfl
        have hasked : ∀ {offset length}, validateRange diskSizeBytes offset length = .ok () →
            ∀ blocks, t.config.layout.touchedBlocks offset length = .ok blocks →
              ∀ b ∈ blocks, P b.blockIndex := by
          intro offset length hvalid blocks heq b hb
          obtain ⟨blocks', heq', -, hall⟩ := hblocks hvalid
          rw [ht, heq'] at heq
          exact hall b (Except.ok.inj heq ▸ hb)
        cases a with
        | readBlock i offset buffer k => exact hasked hG
        | writeBlock i offset data k => exact hasked hG
        | _ => trivial
      obtain ⟨b, hb, rfl, rfl⟩ := Cache.right_io_block hbuild hasked hr hright
      exact @validateRequest_block io _ hlogical hb

end Cached

/-- **The I/O of a network medium stays in the disk**: what it reads and writes of its session comes
in chunks inside the disk, one behind the other; what the cache asks of the right store is asked for
well; and a block that was written is read back. -/
theorem network_media_bounds {remoteDiskId : String} {metadata : SessionMetadata}
    {configuredReadOnly : Bool} {tempDir : Except String Cache.TempStore} {right : Nat → UInt8}
    {media : NetworkMedia} (hsize : metadata.diskSizeBytes < 2 ^ 64)
    (hbind : bind remoteDiskId metadata configuredReadOnly tempDir right = .ok media) :
    media.diskSizeBytes = metadata.diskSizeBytes ∧ media.Bounded := by
  unfold bind at hbind
  split_ifs at hbind with hid hzero hro
  · obtain rfl := Except.ok.inj hbind
    exact ⟨rfl, directBounds rfl rfl⟩
  · cases tempDir with
    | error e => cases hbind
    | ok temp =>
      obtain ⟨io, hio, hbind⟩ := except_of_bind_ok hbind
      cases hcache : Cache.build defaultCacheConfig right temp with
      | error e =>
        rw [hcache] at hbind
        cases hbind
      | ok cache =>
        rw [hcache] at hbind
        obtain rfl := Except.ok.inj hbind
        exact ⟨rfl, cachedBounds hsize hio hcache⟩

theorem network_media_bounds_odd :
    ∃ media, bind "disk-1" ⟨40000, false, []⟩ false (.ok fun _ => none) (fun _ => 0) = .ok media ∧
      media.diskSizeBytes = 40000 ∧ media.Bounded :=
  ⟨_, rfl, @network_media_bounds "disk-1" ⟨40000, false, []⟩ false (.ok fun _ => none) (fun _ => 0) _
    (by decide) rfl⟩

end YumeDisk.TauriClient.Network
