import YumeDisk.Server.Header
import YumeDisk.Server.StorerSession

/-!
# The bodies of the data plane (`proto/session.go`, `proto/compression.go`)

A payload of at most 60 KiB travels raw, as one repeated byte, or through zstd, which is a parameter
here: `Zstd.Sound` says that a decoder undoes its encoder.

* `decodeDataPlanePayload_ok`: what is accepted has the length that was announced.
* `decode_encodeDataPlanePayload`: a payload reads back.
* `parse_buildWriteRequestBody`, `parse_buildReadResponseBody`: and so do the bodies that carry it.
-/

namespace YumeDisk.Server

open YumeDisk.Lib
open StorerSession (maxDataPlaneRawBytes)

def opSessionOpen : UInt8 := 0x03

def opSessionDescribe : UInt8 := 0x04

def opReadAt : UInt8 := 0x10

def opWriteAt : UInt8 := 0x11

def statusBadHeader : Nat := 0x1002

def statusUnsupportedOp : Nat := 0x1005

def statusSessionUnavailable : Nat := 0x1201

def statusSessionOpenRejected : Nat := 0x1202

def statusIOOutOfRange : Nat := 0x1301

def statusIOLarge : Nat := 0x1302

def statusIOReadOnly : Nat := 0x1303

def statusIOFailed : Nat := 0x1304

/-- `binary.BigEndian.PutUint32`. -/
def putUint32 (n : Nat) : Bytes :=
  [UInt8.ofNat (n / 256 ^ 3), UInt8.ofNat (n / 256 ^ 2), UInt8.ofNat (n / 256), UInt8.ofNat n]

/-- `binary.BigEndian.Uint32`. -/
def uint32 (b : Bytes) : Nat := b.foldl (fun n x => n * 256 + x.toNat) 0

theorem uint32_putUint32 {n : Nat} (h : n < 2 ^ 32) : uint32 (putUint32 n) = n := by
  simp only [uint32, putUint32, List.foldl, UInt8.toNat_ofNat']
  omega

@[simp] theorem length_putUint32 (n : Nat) : (putUint32 n).length = 4 := rfl

/-! ## Headers -/

def validateRequestHeader (h : Header) : Bool :=
  validateCommonHeader h && h.flags == 0 && h.statusCode == 0 && h.requestID != 0

def validateResponseHeader (h : Header) : Bool :=
  validateCommonHeader h && h.flags == flagResponse && h.requestID != 0

def buildResponseWithSessionID (req : Header) (status sessionID : Nat) (body : Bytes) : Bytes :=
  buildResponse { req with sessionID } status body

/-! ## Payloads -/

def compressRaw : UInt8 := 0

def compressZstd1 : UInt8 := 1

def compressZstd3 : UInt8 := 2

def compressSolidByte : UInt8 := 255

/-- What is used of the zstd package. -/
structure Zstd where
  /-- `NewWriter` at a level and `EncodeAll`; `none` when there is no writer. -/
  encodeAll : Nat → Bytes → Option Bytes
  decodeAll : Bytes → Option Bytes

structure Zstd.Sound (zstd : Zstd) : Prop where
  decode_encode : ∀ level data encoded, zstd.encodeAll level data = some encoded →
    zstd.decodeAll encoded = some data

def minimumCompressionSavings (rawLen : Nat) : Nat :=
  let percent := (rawLen * 5 + 99) / 100
  if percent < 64 then 64 else percent

def tryZstdPayload (zstd : Zstd) (data : Bytes) (level : Nat) : Option Bytes :=
  match zstd.encodeAll level data with
  | none => none
  | some encoded =>
    if encoded.length > maxDataPlaneRawBytes then
      none
    else if (data.length : Int) - encoded.length < minimumCompressionSavings data.length then
      none
    else
      some encoded

/-- The compression byte and the payload. -/
def encodeDataPlanePayload (zstd : Zstd) : Bytes → UInt8 × Bytes
  | [] => (compressRaw, [])
  | first :: rest =>
    let data := first :: rest
    if rest.all (· == first) then
      (compressSolidByte, [first])
    else if data.length < 1024 then
      (compressRaw, data)
    else if data.length < 4096 then
      match tryZstdPayload zstd data 1 with
      | some payload => (compressZstd1, payload)
      | none => (compressRaw, data)
    else
      match tryZstdPayload zstd data 3 with
      | some payload => (compressZstd3, payload)
      | none => (compressRaw, data)

/-- `none` is `ErrSessionBody`. -/
def decodeDataPlanePayload (zstd : Zstd) (compress : UInt8) (payload : Bytes)
    (expectedLength : Nat) : Option Bytes :=
  if expectedLength = 0 ∨ expectedLength > maxDataPlaneRawBytes then
    none
  else if payload.length > maxDataPlaneRawBytes then
    none
  else if compress = compressRaw then
    if payload.length ≠ expectedLength then none else some payload
  else if compress = compressZstd1 ∨ compress = compressZstd3 then
    match zstd.decodeAll payload with
    | none => none
    | some decoded => if decoded.length ≠ expectedLength then none else some decoded
  else if compress = compressSolidByte then
    match payload with
    | [b] => some (List.replicate expectedLength b)
    | _ => none
  else
    none

theorem tryZstdPayload_some {zstd : Zstd} {data payload : Bytes} {level : Nat}
    (h : tryZstdPayload zstd data level = some payload) :
    zstd.encodeAll level data = some payload ∧ payload.length ≤ maxDataPlaneRawBytes := by
  unfold tryZstdPayload at h
  cases henc : zstd.encodeAll level data with
  | none => rw [henc] at h; cases h
  | some encoded =>
    rw [henc] at h
    dsimp only at h
    split_ifs at h with hlen
    cases h
    exact ⟨rfl, by omega⟩

/-- What the encoder may choose. -/
theorem encodeDataPlanePayload_cases (zstd : Zstd) (data : Bytes) :
    encodeDataPlanePayload zstd data = (compressRaw, data) ∨
      (∃ b, data = List.replicate data.length b ∧ 0 < data.length ∧
        encodeDataPlanePayload zstd data = (compressSolidByte, [b])) ∨
      ∃ level compress payload, tryZstdPayload zstd data level = some payload ∧
        (compress = compressZstd1 ∨ compress = compressZstd3) ∧
        encodeDataPlanePayload zstd data = (compress, payload) := by
  cases data with
  | nil => exact .inl rfl
  | cons first rest =>
    unfold encodeDataPlanePayload
    dsimp only
    by_cases hsolid : rest.all (· == first)
    · rw [if_pos hsolid]
      refine .inr (.inl ⟨first, ?_, by simp, rfl⟩)
      have hrest : ∀ x ∈ rest, x = first := by simpa using hsolid
      rw [List.length_cons, List.replicate_succ, ← List.eq_replicate_of_mem hrest]
    · rw [if_neg hsolid]
      by_cases hshort : (first :: rest).length < 1024
      · rw [if_pos hshort]
        exact .inl rfl
      · rw [if_neg hshort]
        by_cases hmid : (first :: rest).length < 4096
        · rw [if_pos hmid]
          cases htry : tryZstdPayload zstd (first :: rest) 1 with
          | none => exact .inl rfl
          | some payload => exact .inr (.inr ⟨1, _, payload, htry, .inl rfl, rfl⟩)
        · rw [if_neg hmid]
          cases htry : tryZstdPayload zstd (first :: rest) 3 with
          | none => exact .inl rfl
          | some payload => exact .inr (.inr ⟨3, _, payload, htry, .inr rfl, rfl⟩)

theorem length_encodeDataPlanePayload (zstd : Zstd) {data : Bytes}
    (h : data.length ≤ maxDataPlaneRawBytes) :
    (encodeDataPlanePayload zstd data).2.length ≤ maxDataPlaneRawBytes := by
  obtain heq | ⟨b, -, -, heq⟩ | ⟨level, compress, payload, htry, -, heq⟩ :=
    encodeDataPlanePayload_cases zstd data <;> rw [heq]
  · exact h
  · show 1 ≤ 60 * 1024
    omega
  · exact (tryZstdPayload_some htry).2

/-- **What is accepted** has the length that was announced, within the limit. -/
theorem decodeDataPlanePayload_ok {zstd : Zstd} {compress : UInt8} {payload data : Bytes}
    {expectedLength : Nat}
    (h : decodeDataPlanePayload zstd compress payload expectedLength = some data) :
    data.length = expectedLength ∧ 0 < expectedLength ∧ expectedLength ≤ maxDataPlaneRawBytes ∧
      payload.length ≤ maxDataPlaneRawBytes := by
  unfold decodeDataPlanePayload at h
  split_ifs at h with hlen hmax hraw hrawLen hzstd hsolid
  · cases h
    omega
  · cases hdec : zstd.decodeAll payload with
    | none => rw [hdec] at h; cases h
    | some decoded =>
      rw [hdec] at h
      dsimp only at h
      split_ifs at h with hdecLen
      cases h
      omega
  · match payload, h with
    | [b], h =>
      cases h
      rw [List.length_replicate]
      omega

/-- **A payload reads back**. -/
theorem decode_encodeDataPlanePayload {zstd : Zstd} (hz : zstd.Sound) {data : Bytes}
    (hpos : 0 < data.length) (hmax : data.length ≤ maxDataPlaneRawBytes) :
    decodeDataPlanePayload zstd (encodeDataPlanePayload zstd data).1
      (encodeDataPlanePayload zstd data).2 data.length = some data := by
  have hlen := length_encodeDataPlanePayload zstd hmax
  unfold decodeDataPlanePayload
  rw [if_neg (by omega), if_neg (by omega)]
  obtain heq | ⟨b, hb, -, heq⟩ | ⟨level, compress, payload, htry, hcompress, heq⟩ :=
    encodeDataPlanePayload_cases zstd data <;> rw [heq]
  · rw [if_pos rfl, if_neg (fun h => h rfl)]
  · have hraw : compressSolidByte ≠ compressRaw := by decide
    have hzstd : ¬ (compressSolidByte = compressZstd1 ∨ compressSolidByte = compressZstd3) := by
      decide
    rw [if_neg hraw, if_neg hzstd, if_pos rfl]
    exact congrArg some hb.symm
  · have hne : compress ≠ compressRaw := by rcases hcompress with rfl | rfl <;> decide
    have hdec := hz.decode_encode _ _ _ (tryZstdPayload_some htry).1
    rw [if_neg hne, if_pos hcompress]
    dsimp only
    rw [hdec]
    dsimp only
    rw [if_neg (fun h => h rfl)]

/-! ## Bodies -/

def readBodySize : Nat := 12

/-- The offset and the length; `none` is `ErrSessionBody`. -/
def parseReadBody (body : Bytes) : Option (Nat × Nat) :=
  if body.length ≠ readBodySize then
    none
  else
    some (uint64 (slice body 0 8), uint32 (slice body 8 4))

def buildReadResponseBody (zstd : Zstd) (data : Bytes) : Bytes :=
  (encodeDataPlanePayload zstd data).1 :: (encodeDataPlanePayload zstd data).2

def parseReadResponseBody (zstd : Zstd) (body : Bytes) (expectedLength : Nat) : Option Bytes :=
  match body with
  | [] => none
  | compress :: payload => decodeDataPlanePayload zstd compress payload expectedLength

/-- The offset, the length and the data; `none` is `ErrSessionBody`. -/
def parseReadWriteBody (zstd : Zstd) (body : Bytes) : Option (Nat × Nat × Bytes) :=
  match body.drop 12 with
  -- fewer than `WriteBodyHeaderSize` bytes
  | [] => none
  | compress :: payload =>
    let length := uint32 (slice body 8 4)
    match decodeDataPlanePayload zstd compress payload length with
    | none => none
    | some data => some (uint64 (slice body 0 8), length, data)

def buildWriteRequestBody (zstd : Zstd) (offset : Nat) (data : Bytes) : Bytes :=
  putUint64 offset ++ (putUint32 data.length ++ ((encodeDataPlanePayload zstd data).1 ::
    (encodeDataPlanePayload zstd data).2))

def sessionFlagReadOnly : Nat := 1

def buildSessionDescribeResponseBody (diskSize : Nat) (readOnly : Bool)
    (backendID : Vector UInt8 16) : Bytes :=
  putUint64 diskSize ++ putUint16 (if readOnly then sessionFlagReadOnly else 0) ++ putUint16 0 ++
    backendID.toList

@[simp] theorem length_buildSessionDescribeResponseBody (diskSize : Nat) (readOnly : Bool)
    (backendID : Vector UInt8 16) :
    (buildSessionDescribeResponseBody diskSize readOnly backendID).length = 28 := by
  simp [buildSessionDescribeResponseBody, putUint16]

theorem length_buildReadResponseBody (zstd : Zstd) {data : Bytes}
    (h : data.length ≤ maxDataPlaneRawBytes) :
    (buildReadResponseBody zstd data).length ≤ maxDataPlaneRawBytes + 1 :=
  Nat.succ_le_succ (length_encodeDataPlanePayload zstd h)

/-- The payload of a write is limited before it is decoded. -/
theorem parseReadWriteBody_length {zstd : Zstd} {body : Bytes} {r : Nat × Nat × Bytes}
    (h : parseReadWriteBody zstd body = some r) : body.length ≤ maxDataPlaneRawBytes + 13 := by
  unfold parseReadWriteBody at h
  cases hdrop : body.drop 12 with
  | nil => rw [hdrop] at h; cases h
  | cons compress payload =>
    rw [hdrop] at h
    dsimp only at h
    cases hdec : decodeDataPlanePayload zstd compress payload (uint32 (slice body 8 4)) with
    | none => rw [hdec] at h; cases h
    | some data =>
      have hpayload := (decodeDataPlanePayload_ok hdec).2.2.2
      have hlen := congrArg List.length hdrop
      rw [List.length_drop, List.length_cons] at hlen
      omega

/-- **A read response reads back**. -/
theorem parse_buildReadResponseBody {zstd : Zstd} (hz : zstd.Sound) {data : Bytes}
    (hpos : 0 < data.length) (hmax : data.length ≤ maxDataPlaneRawBytes) :
    parseReadResponseBody zstd (buildReadResponseBody zstd data) data.length = some data :=
  decode_encodeDataPlanePayload hz hpos hmax

/-- **A write request reads back**. -/
theorem parse_buildWriteRequestBody {zstd : Zstd} (hz : zstd.Sound) {offset : Nat} {data : Bytes}
    (hoffset : offset < 2 ^ 64) (hpos : 0 < data.length)
    (hmax : data.length ≤ maxDataPlaneRawBytes) :
    parseReadWriteBody zstd (buildWriteRequestBody zstd offset data) =
      some (offset, data.length, data) := by
  have hoff : slice (buildWriteRequestBody zstd offset data) 0 8 = putUint64 offset :=
    List.take_left' (length_putUint64 _)
  have hlen : slice (buildWriteRequestBody zstd offset data) 8 4 = putUint32 data.length :=
    slice_append_mid (length_putUint64 _) (length_putUint32 _)
  have hmax' : data.length ≤ 60 * 1024 := hmax
  have hdrop : (buildWriteRequestBody zstd offset data).drop 12 =
      (encodeDataPlanePayload zstd data).1 :: (encodeDataPlanePayload zstd data).2 := rfl
  unfold parseReadWriteBody
  rw [hdrop]
  dsimp only
  rw [hlen, hoff, uint32_putUint32 (by omega), uint64_putUint64 hoffset,
    decode_encodeDataPlanePayload hz hpos hmax]

end YumeDisk.Server
