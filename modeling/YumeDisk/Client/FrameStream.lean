import YumeDisk.Server.Frame

/-!
# The frames of both sides (`transport/runtime.go`, `transport_client.rs`)

* `readFrameInto`, `writeFrame`: `read_frame_into` and `write_frame`.
* `frame_streams_agree`: **the result**: each side reads what the other has written, and nothing of
  a frame that is cut off.
-/

namespace YumeDisk.Client

open Lib (Bytes Whole readFull readTimes readFull_append readFull_none readTimes_encoded
  eq_nil_of_flatten_nil)
open Server (putUint16 uint16 PayloadInRange frame payloadSize_frame readFull_frame)

/-- The errors of `read_frame_into` and `write_frame`. -/
inductive TransportError
  | connectionClosed
  | bufferTooSmall (provided required : Nat)
  | payloadOutOfRange (size : Nat)
deriving DecidableEq, Repr

def minFramePayloadBytes : Nat := 1

def maxFramePayloadBytes : Nat := 65536

def validatePayloadSize (size : Nat) : Except TransportError Unit :=
  if minFramePayloadBytes ≤ size ∧ size ≤ maxFramePayloadBytes then
    .ok ()
  else
    .error (.payloadOutOfRange size)

/-- `read_exact` with `map_io_error_for_read`: an early end is `UnexpectedEof`. -/
def readExact (n : Nat) (reads : List Bytes) : Except TransportError (Bytes × List Bytes) :=
  match readFull n reads with
  | some read => .ok read
  | none => .error .connectionClosed

def readFrameInto (bufferLen : Nat) (reads : List Bytes) :
    Except TransportError (Bytes × List Bytes) := do
  let (header, reads) ← readExact 2 reads
  let payloadSize := uint16 (header.getD 0 0) (header.getD 1 0) + 1
  validatePayloadSize payloadSize
  if bufferLen < payloadSize then
    throw (.bufferTooSmall bufferLen payloadSize)
  else
    readExact payloadSize reads

/-- `out` is what the writer has got. -/
def writeFrame (payload out : Bytes) : Except TransportError Unit × Bytes :=
  match validatePayloadSize payload.length with
  | .error e => (.error e, out)
  | .ok () =>
    let header := putUint16 (payload.length - 1)
    (.ok (), out ++ header ++ payload)

/-- Payloads that are written one after the other, up to the first error. -/
def writeAll {ε : Type} (write : Bytes → Bytes → Except ε Unit × Bytes) :
    List Bytes → Bytes → Except ε Unit × Bytes
  | [], out => (.ok (), out)
  | payload :: payloads, out =>
    match write payload out with
    | (.error e, out) => (.error e, out)
    | (.ok (), out) => writeAll write payloads out

/-! ## Writing -/

section Write

variable {payload : Bytes} (out : Bytes)

theorem goWriteFrame_inRange (h : PayloadInRange payload) :
    Server.writeFrame payload out = (.ok (), out ++ frame payload) := by
  obtain ⟨hmin, hmax⟩ := h
  rw [Server.writeFrame, if_neg (not_or.mpr ⟨not_lt.mpr hmin, not_lt.mpr hmax⟩), frame,
    ← List.append_assoc]
  rfl

theorem goWriteFrame_refuses (h : ¬ PayloadInRange payload) :
    Server.writeFrame payload out = (.error (.payloadOutOfRange payload.length), out) := by
  rw [Server.writeFrame, if_pos]
  by_contra hnot
  obtain ⟨hmin, hmax⟩ := not_or.mp hnot
  exact h ⟨not_lt.mp hmin, not_lt.mp hmax⟩

theorem writeFrame_inRange (h : PayloadInRange payload) :
    writeFrame payload out = (.ok (), out ++ frame payload) := by
  have hsize : validatePayloadSize payload.length = .ok () := if_pos h
  rw [writeFrame, hsize, frame, Server.frameHeader, ← List.append_assoc]

theorem writeFrame_refuses (h : ¬ PayloadInRange payload) :
    writeFrame payload out = (.error (.payloadOutOfRange payload.length), out) := by
  have hsize : validatePayloadSize payload.length = .error (.payloadOutOfRange payload.length) :=
    if_neg h
  rw [writeFrame, hsize]

theorem writeAll_inRange {ε : Type} {write : Bytes → Bytes → Except ε Unit × Bytes}
    (hwrite : ∀ payload out, PayloadInRange payload →
      write payload out = (.ok (), out ++ frame payload)) :
    ∀ (payloads : List Bytes) (out : Bytes), (∀ p ∈ payloads, PayloadInRange p) →
      writeAll write payloads out = (.ok (), out ++ payloads.flatMap frame)
  | [], out, _ => by rw [writeAll, List.flatMap_nil, List.append_nil]
  | p :: payloads, out, h => by
    obtain ⟨hp, hrest⟩ := List.forall_mem_cons.mp h
    rw [writeAll, hwrite p out hp]
    exact (writeAll_inRange hwrite payloads _ hrest).trans (by
      rw [List.flatMap_cons, List.append_assoc])

end Write

/-! ## Reading -/

section Read

variable {payload more : Bytes} {reads : List Bytes}

theorem readFrameInto_frame (h : PayloadInRange payload) (hreads : Whole reads)
    (hflatten : reads.flatten = frame payload ++ more) :
    ∃ rest, readFrameInto maxFramePayloadBytes reads = .ok (payload, rest) ∧ Whole rest ∧
      rest.flatten = more := by
  obtain ⟨middle, hheader, rest, hpayload, hwhole, hmore⟩ := readFull_frame hreads hflatten
  have hsize : validatePayloadSize payload.length = .ok () := if_pos h
  refine ⟨rest, ?_, hwhole, hmore⟩
  simp only [readFrameInto, readExact, hheader, bind, Except.bind, payloadSize_frame h, hsize]
  rw [if_neg (show ¬ maxFramePayloadBytes < payload.length from not_lt.mpr h.2), hpayload]

/-- A frame that is cut off: in the header, or in the payload. -/
theorem cut_cases {k : Nat} (hk : k < (frame payload).length) (hreads : Whole reads)
    (hflatten : reads.flatten = (frame payload).take k) :
    readFull 2 reads = none ∨ ∃ middle, readFull 2 reads = some (Server.frameHeader payload, middle) ∧
      readFull payload.length middle = none := by
  by_cases hheader : k < 2
  · refine .inl (readFull_none hreads ?_)
    rw [hflatten]
    exact lt_of_le_of_lt (List.length_take_le _ _) hheader
  · have htake : (frame payload).take k =
        Server.frameHeader payload ++ payload.take (k - 2) := by
      rw [frame, List.take_append, List.take_of_length_le (by simpa using not_lt.mp hheader)]
      rfl
    rw [htake] at hflatten
    obtain ⟨middle, hhead, hmiddle, hrest⟩ := readFull_append hreads hflatten
    refine .inr ⟨middle, hhead, readFull_none hmiddle ?_⟩
    rw [hrest, List.length_take]
    rw [frame, List.length_append, Server.length_frameHeader] at hk
    omega

theorem goReadFrame_cut (h : PayloadInRange payload) {k : Nat} (hk : k < (frame payload).length)
    (hreads : Whole reads) (hflatten : reads.flatten = (frame payload).take k) :
    ∃ e, Server.readFrame Server.maxPayloadSize reads = .error e := by
  rcases cut_cases hk hreads hflatten with hnone | ⟨middle, hhead, hnone⟩
  · simp only [Server.readFrame, Server.ioReadFull, hnone, bind, Except.bind]
    exact ⟨_, rfl⟩
  · simp only [Server.readFrame, Server.ioReadFull, hhead, bind, Except.bind, payloadSize_frame h]
    rw [if_neg (not_or.mpr ⟨not_lt.mpr h.1, not_lt.mpr h.2⟩), if_neg (not_lt.mpr h.2), hnone]
    exact ⟨_, rfl⟩

theorem readFrameInto_cut (h : PayloadInRange payload) {k : Nat}
    (hk : k < (frame payload).length) (hreads : Whole reads)
    (hflatten : reads.flatten = (frame payload).take k) :
    ∃ e, readFrameInto maxFramePayloadBytes reads = .error e := by
  have hsize : validatePayloadSize payload.length = .ok () := if_pos h
  rcases cut_cases hk hreads hflatten with hnone | ⟨middle, hhead, hnone⟩
  · simp only [readFrameInto, readExact, hnone, bind, Except.bind]
    exact ⟨_, rfl⟩
  · simp only [readFrameInto, readExact, hhead, bind, Except.bind, payloadSize_frame h, hsize]
    rw [if_neg (show ¬ maxFramePayloadBytes < payload.length from not_lt.mpr h.2), hnone]
    exact ⟨_, rfl⟩

end Read

/-! ## The two sides -/

/-- Written by one side and read by the other, a list of payloads comes back, and then the end of
the stream; cut off in a frame, the stream gives the frames before it and an error. -/
def Agree {ε δ : Type} (write : Bytes → Bytes → Except ε Unit × Bytes)
    (read : List Bytes → Except δ (Bytes × List Bytes)) (endOfStream : δ) : Prop :=
  ∀ payloads : List Bytes, (∀ p ∈ payloads, PayloadInRange p) →
    ∃ stream, writeAll write payloads [] = (.ok (), stream) ∧
      (∀ reads, Whole reads → reads.flatten = stream →
        readTimes read payloads.length reads = .ok (payloads, []) ∧ read [] = .error endOfStream) ∧
      ∀ payload, PayloadInRange payload → ∀ out, write payload stream = (.ok (), out) →
        ∀ reads k, Whole reads → stream.length < k → k < out.length →
          reads.flatten = out.take k →
          ∃ rest, readTimes read payloads.length reads = .ok (payloads, rest) ∧
            ∃ e, read rest = .error e

theorem agree_of {ε δ : Type} {write : Bytes → Bytes → Except ε Unit × Bytes}
    {read : List Bytes → Except δ (Bytes × List Bytes)} {endOfStream : δ}
    (hwrite : ∀ payload out, PayloadInRange payload →
      write payload out = (.ok (), out ++ frame payload))
    (hread : ∀ payload reads more, PayloadInRange payload → Whole reads →
      reads.flatten = frame payload ++ more →
      ∃ rest, read reads = .ok (payload, rest) ∧ Whole rest ∧ rest.flatten = more)
    (hcut : ∀ payload reads k, PayloadInRange payload → k < (frame payload).length →
      Whole reads → reads.flatten = (frame payload).take k → ∃ e, read reads = .error e)
    (hend : read [] = .error endOfStream) : Agree write read endOfStream := by
  intro payloads hpayloads
  refine ⟨payloads.flatMap frame, writeAll_inRange hwrite payloads [] hpayloads, ?_, ?_⟩
  · intro reads hreads hflatten
    obtain ⟨rest, hrun, hwhole, hrest⟩ := readTimes_encoded hread payloads hpayloads hreads
      (hflatten.trans (List.append_nil _).symm)
    rw [eq_nil_of_flatten_nil hwhole hrest] at hrun
    exact ⟨hrun, hend⟩
  · intro payload hpayload out hout reads k hreads hlow hhigh hflatten
    obtain rfl : payloads.flatMap frame ++ frame payload = out :=
      congrArg Prod.snd ((hwrite payload _ hpayload).symm.trans hout)
    rw [List.take_append, List.take_of_length_le hlow.le] at hflatten
    obtain ⟨rest, hrun, hwhole, hrest⟩ :=
      readTimes_encoded hread payloads hpayloads hreads hflatten
    rw [List.length_append] at hhigh
    exact ⟨rest, hrun, hcut payload rest _ hpayload (by omega) hwhole hrest⟩

/-- **Frame streams agree between the two sides**, in both directions, and both writers refuse the
payloads of the wrong size without writing. -/
theorem frame_streams_agree :
    Agree Server.writeFrame (readFrameInto maxFramePayloadBytes) .connectionClosed ∧
    Agree writeFrame (Server.readFrame Server.maxPayloadSize) .eof ∧
    (∀ payload out, (∃ e, (Server.writeFrame payload out).1 = .error e) ↔
      payload = [] ∨ 65536 < payload.length) ∧
    (∀ payload out, (∃ e, (writeFrame payload out).1 = .error e) ↔
      payload = [] ∨ 65536 < payload.length) ∧
    (∀ payload out e, (Server.writeFrame payload out).1 = .error e →
      (Server.writeFrame payload out).2 = out) ∧
    ∀ payload out e, (writeFrame payload out).1 = .error e → (writeFrame payload out).2 = out := by
  have hrange : ∀ payload : Bytes, ¬ PayloadInRange payload ↔
      payload = [] ∨ 65536 < payload.length := by
    intro payload
    rw [PayloadInRange, not_and_or, not_le, not_le, Server.minPayloadSize, Server.maxPayloadSize,
      Nat.lt_one_iff, List.length_eq_zero_iff]
  refine ⟨?_, ?_, ?_, ?_, ?_, ?_⟩
  · exact agree_of (fun _ out h => goWriteFrame_inRange out h)
      (fun _ _ _ h hreads hflatten => readFrameInto_frame h hreads hflatten)
      (fun _ _ _ h hk hreads hflatten => readFrameInto_cut h hk hreads hflatten) rfl
  · exact agree_of (fun _ out h => writeFrame_inRange out h)
      (fun _ _ _ h hreads hflatten => Server.readFrame_frame h hreads hflatten)
      (fun _ _ _ h hk hreads hflatten => goReadFrame_cut h hk hreads hflatten) rfl
  · intro payload out
    rw [← hrange]
    by_cases h : PayloadInRange payload
    · rw [goWriteFrame_inRange out h]
      exact ⟨fun herr => herr.elim fun _ he => (by cases he), fun hnot => absurd h hnot⟩
    · rw [goWriteFrame_refuses out h]
      exact ⟨fun _ => h, fun _ => ⟨_, rfl⟩⟩
  · intro payload out
    rw [← hrange]
    by_cases h : PayloadInRange payload
    · rw [writeFrame_inRange out h]
      exact ⟨fun herr => herr.elim fun _ he => (by cases he), fun hnot => absurd h hnot⟩
    · rw [writeFrame_refuses out h]
      exact ⟨fun _ => h, fun _ => ⟨_, rfl⟩⟩
  · intro payload out e he
    by_cases h : PayloadInRange payload
    · rw [goWriteFrame_inRange out h] at he
      cases he
    · rw [goWriteFrame_refuses out h]
  · intro payload out e he
    by_cases h : PayloadInRange payload
    · rw [writeFrame_inRange out h] at he
      cases he
    · rw [writeFrame_refuses out h]

end YumeDisk.Client
