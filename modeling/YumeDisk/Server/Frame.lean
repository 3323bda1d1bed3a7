import YumeDisk.Lib.ByteReader

/-!
# Length-prefixed frames (`transport/runtime.go`)

`WriteFrame` puts a payload of 1 to 65536 bytes behind a header of two bytes, its length minus one;
`ReadFrameInto` takes one frame off a stream that comes in pieces.  `readFrames_frames`: a
concatenation of frames reads back as its payloads, however it is cut and whatever follows it.
-/

namespace YumeDisk.Server

open YumeDisk.Lib

def maxPayloadSize : Nat := 65536

def minPayloadSize : Nat := 1

/-- The errors of `ReadFrameInto` and of `WriteFrame`. -/
inductive FrameError where
  | eof
  | unexpectedEOF
  | bufferTooSmall
  | payloadOutOfRange (size : Nat)
deriving DecidableEq, Repr

/-- `binary.BigEndian.PutUint16`. -/
def putUint16 (n : Nat) : Bytes := [UInt8.ofNat (n / 256), UInt8.ofNat n]

/-- `binary.BigEndian.Uint16`. -/
def uint16 (hi lo : UInt8) : Nat := hi.toNat * 256 + lo.toNat

/-- The sizes that `WriteFrame` accepts. -/
def PayloadInRange (payload : Bytes) : Prop :=
  minPayloadSize ≤ payload.length ∧ payload.length ≤ maxPayloadSize

instance (payload : Bytes) : Decidable (PayloadInRange payload) :=
  inferInstanceAs (Decidable (_ ∧ _))

/-- The bytes of the first `Write` of `WriteFrame`. -/
def frameHeader (payload : Bytes) : Bytes := putUint16 (payload.length - 1)

/-- The bytes of a whole frame. -/
def frame (payload : Bytes) : Bytes := frameHeader payload ++ payload

/-- `io.ReadFull` of `n` bytes. -/
def ioReadFull (n : Nat) (reads : List Bytes) : Except FrameError (Bytes × List Bytes) :=
  match readFull n reads with
  | some read => .ok read
  -- `io.EOF` if no byte was read
  | none => .error (if reads.flatten = [] then .eof else .unexpectedEOF)

/-- `ReadFrameInto`. -/
def readFrame (bufferLen : Nat) (reads : List Bytes) : Except FrameError (Bytes × List Bytes) := do
  let (header, reads) ← ioReadFull 2 reads
  let payloadSize := uint16 (header.getD 0 0) (header.getD 1 0) + 1
  if payloadSize < minPayloadSize ∨ payloadSize > maxPayloadSize then
    throw (.payloadOutOfRange payloadSize)
  else if bufferLen < payloadSize then
    throw .bufferTooSmall
  else
    ioReadFull payloadSize reads

/-- `WriteFrame`; `out` is what the writer has got. -/
def writeFrame (payload out : Bytes) : Except FrameError Unit × Bytes :=
  if payload.length < minPayloadSize ∨ payload.length > maxPayloadSize then
    (.error (.payloadOutOfRange payload.length), out)
  else
    let header := putUint16 (payload.length - 1)
    (.ok (), out ++ header ++ payload)

theorem uint16_putUint16 {n : Nat} (h : n < 65536) :
    uint16 (UInt8.ofNat (n / 256)) (UInt8.ofNat n) = n := by
  simp only [uint16, UInt8.toNat_ofNat']
  omega

@[simp] theorem length_frameHeader (payload : Bytes) : (frameHeader payload).length = 2 := rfl

variable {payload more : Bytes} {reads : List Bytes}

/-- The header of a frame reads back as the size of its payload. -/
theorem payloadSize_frame (h : PayloadInRange payload) :
    uint16 ((frameHeader payload).getD 0 0) ((frameHeader payload).getD 1 0) + 1 =
      payload.length := by
  have hmin : 1 ≤ payload.length := h.1
  have hmax : payload.length ≤ 65536 := h.2
  show uint16 (UInt8.ofNat ((payload.length - 1) / 256)) (UInt8.ofNat (payload.length - 1)) + 1 = _
  rw [uint16_putUint16 (by omega)]
  omega

/-- A frame that comes whole: its header, then its payload. -/
theorem readFull_frame (hreads : Whole reads) (hflatten : reads.flatten = frame payload ++ more) :
    ∃ middle, readFull 2 reads = some (frameHeader payload, middle) ∧
      ∃ rest, readFull payload.length middle = some (payload, rest) ∧ Whole rest ∧
        rest.flatten = more := by
  rw [frame, List.append_assoc] at hflatten
  obtain ⟨middle, hheader, hmiddle, hrest⟩ := readFull_append hreads hflatten
  exact ⟨middle, hheader, readFull_append hmiddle hrest⟩

/-- **A frame reads back** as its payload, whatever follows it. -/
theorem readFrame_frame (h : PayloadInRange payload) (hreads : Whole reads)
    (hflatten : reads.flatten = frame payload ++ more) :
    ∃ rest, readFrame maxPayloadSize reads = .ok (payload, rest) ∧ Whole rest ∧
      rest.flatten = more := by
  obtain ⟨middle, hheader, rest, hpayload, hwhole, hmore⟩ := readFull_frame hreads hflatten
  refine ⟨rest, ?_, hwhole, hmore⟩
  simp only [readFrame, ioReadFull, hheader, bind, Except.bind, payloadSize_frame h]
  rw [if_neg (not_or.mpr ⟨not_lt.mpr h.1, not_lt.mpr h.2⟩), if_neg (not_lt.mpr h.2), hpayload]

/-- **Frames read back** as their payloads. -/
theorem readFrames_frames {payloads : List Bytes} (h : ∀ p ∈ payloads, PayloadInRange p)
    (hreads : Whole reads) (hflatten : reads.flatten = payloads.flatMap frame ++ more) :
    ∃ rest, readTimes (readFrame maxPayloadSize) payloads.length reads = .ok (payloads, rest) ∧
      Whole rest ∧ rest.flatten = more :=
  readTimes_encoded (fun _ _ _ hp hwhole hmore => readFrame_frame hp hwhole hmore) payloads h hreads
    hflatten

end YumeDisk.Server
