import YumeDisk.Client.Header

/-!
# The data plane of the client (`protocol_client.rs`)

The client cuts a payload down and restores it as the server does, with its own zstd.

* `encodeDataPlanePayload_eq`, `decodeDataPlanePayload_eq`: the two codecs are one function of the
  zstd that each uses.
* `WriteAtRequest.encodeRequest`, `ReadAtResponse.decodeResponse`: the messages that carry a payload.
* `dataPlane_agreement`: what either side writes, the other reads.
-/

namespace YumeDisk.Client

open Lib (Bytes)
open Server (Zstd Header putUint32 putUint64)

def maxDataPlaneRawBytes : Nat := 60 * 1024

def ioCompressRaw : UInt8 := 0
def ioCompressZstd1 : UInt8 := 1
def ioCompressZstd3 : UInt8 := 2
def ioCompressSolidByte : UInt8 := 255

/-! ## The codec -/

/-- `(raw_len * 5).div_ceil(100)`, and at least 64. -/
def minimumCompressionSavings (rawLen : Nat) : Nat :=
  let percent := (rawLen * 5) / 100 + if rawLen * 5 % 100 = 0 then 0 else 1
  max 64 percent

def isSolidBytePayload (data : Bytes) : Bool :=
  data.all fun byte => some byte == data.head?

def tryZstdPayload (zstd : Zstd) (data : Bytes) (compress : UInt8) (level : Nat) :
    Option (UInt8 × Bytes) :=
  match zstd.encodeAll level data with
  | none => none
  | some encoded =>
    if encoded.length > maxDataPlaneRawBytes then
      none
    else if data.length < encoded.length then
      none
    else if data.length - encoded.length < minimumCompressionSavings data.length then
      none
    else
      some (compress, encoded)

def encodeDataPlanePayload (zstd : Zstd) (data : Bytes) : UInt8 × Bytes :=
  match data with
  | [] => (ioCompressRaw, [])
  | first :: _ =>
    if isSolidBytePayload data then
      (ioCompressSolidByte, [first])
    else
      let compressed :=
        if data.length < 1024 then none
        else if data.length < 4096 then tryZstdPayload zstd data ioCompressZstd1 1
        else tryZstdPayload zstd data ioCompressZstd3 3
      compressed.getD (ioCompressRaw, data)

/-- The reasons of a decoder. -/
structure DataPlaneDecodeLabels where
  compress : String
  payloadLength : String
  bodyLength : String
  decompress : String

def validateIoLength (length : UInt32) : Except ProtocolClientError Unit :=
  if length = 0 ∨ length.toNat > maxDataPlaneRawBytes then
    .error (.invalidBody "io_length")
  else
    .ok ()

def decodeDataPlanePayload (zstd : Zstd) (compress : UInt8) (payload : Bytes)
    (expectedLength : UInt32) (labels : DataPlaneDecodeLabels) :
    Except ProtocolClientError Bytes :=
  match validateIoLength expectedLength with
  | .error _ => .error (.invalidBody labels.bodyLength)
  | .ok () =>
    if payload.length > maxDataPlaneRawBytes then
      .error (.invalidBody labels.payloadLength)
    else if compress = ioCompressRaw then
      if payload.length ≠ expectedLength.toNat then
        .error (.invalidBody labels.bodyLength)
      else
        .ok payload
    else if compress = ioCompressZstd1 ∨ compress = ioCompressZstd3 then
      match zstd.decodeAll payload with
      | none => .error (.invalidBody labels.decompress)
      | some decoded =>
        if decoded.length ≠ expectedLength.toNat then
          .error (.invalidBody labels.bodyLength)
        else
          .ok decoded
    else if compress = ioCompressSolidByte then
      match payload with
      | [byte] => .ok (List.replicate expectedLength.toNat byte)
      | _ => .error (.invalidBody labels.bodyLength)
    else
      .error (.invalidBody labels.compress)

/-- The two sides ask for the same savings. -/
theorem minimumCompressionSavings_eq (rawLen : Nat) :
    minimumCompressionSavings rawLen = Server.minimumCompressionSavings rawLen := by
  unfold minimumCompressionSavings Server.minimumCompressionSavings
  dsimp only
  split <;> split <;> omega

theorem tryZstdPayload_eq (zstd : Zstd) (data : Bytes) (compress : UInt8) (level : Nat) :
    tryZstdPayload zstd data compress level =
      (Server.tryZstdPayload zstd data level).map fun payload => (compress, payload) := by
  unfold tryZstdPayload Server.tryZstdPayload
  cases zstd.encodeAll level data with
  | none => rfl
  | some encoded =>
    dsimp only
    rw [minimumCompressionSavings_eq, show maxDataPlaneRawBytes =
      Server.StorerSession.maxDataPlaneRawBytes from rfl]
    by_cases hlen : encoded.length > Server.StorerSession.maxDataPlaneRawBytes
    · rw [if_pos hlen, if_pos hlen]
      rfl
    · rw [if_neg hlen, if_neg hlen]
      by_cases hmore : data.length < encoded.length
      · rw [if_pos hmore, if_pos (by omega)]
        rfl
      · rw [if_neg hmore]
        by_cases hsavings : data.length - encoded.length <
            Server.minimumCompressionSavings data.length
        · rw [if_pos hsavings, if_pos (by omega)]
          rfl
        · rw [if_neg hsavings, if_neg (by omega)]
          rfl

/-- **The two encoders choose alike.** -/
theorem encodeDataPlanePayload_eq (zstd : Zstd) (data : Bytes) :
    encodeDataPlanePayload zstd data = Server.encodeDataPlanePayload zstd data := by
  cases data with
  | nil => rfl
  | cons first rest =>
    unfold encodeDataPlanePayload Server.encodeDataPlanePayload
    dsimp only
    have hsolid : isSolidBytePayload (first :: rest) = rest.all (· == first) := by
      simp [isSolidBytePayload]
    rw [hsolid]
    by_cases hall : rest.all (· == first) = true
    · rw [if_pos hall, if_pos hall]
      rfl
    · rw [if_neg hall, if_neg hall]
      by_cases hshort : (first :: rest).length < 1024
      · rw [if_pos hshort, if_pos hshort]
        rfl
      · rw [if_neg hshort, if_neg hshort, tryZstdPayload_eq, tryZstdPayload_eq]
        by_cases hmid : (first :: rest).length < 4096
        · rw [if_pos hmid, if_pos hmid]
          cases Server.tryZstdPayload zstd (first :: rest) 1 <;> rfl
        · rw [if_neg hmid, if_neg hmid]
          cases Server.tryZstdPayload zstd (first :: rest) 3 <;> rfl

/-- **The two decoders accept alike**, when their zstd do. -/
theorem decodeDataPlanePayload_eq {zstd server : Zstd}
    (hagree : ∀ payload, zstd.decodeAll payload = server.decodeAll payload) (compress : UInt8)
    (payload : Bytes) (expectedLength : UInt32) (labels : DataPlaneDecodeLabels) :
    (decodeDataPlanePayload zstd compress payload expectedLength labels).toOption =
      Server.decodeDataPlanePayload server compress payload expectedLength.toNat := by
  unfold decodeDataPlanePayload Server.decodeDataPlanePayload validateIoLength
  have hzero : expectedLength = 0 ↔ expectedLength.toNat = 0 := by
    rw [← UInt32.toNat_inj]
    rfl
  rw [hagree]
  simp only [hzero, show maxDataPlaneRawBytes = Server.StorerSession.maxDataPlaneRawBytes from rfl,
    show ioCompressRaw = Server.compressRaw from rfl,
    show ioCompressZstd1 = Server.compressZstd1 from rfl,
    show ioCompressZstd3 = Server.compressZstd3 from rfl,
    show ioCompressSolidByte = Server.compressSolidByte from rfl]
  by_cases hlength : expectedLength.toNat = 0 ∨
      expectedLength.toNat > Server.StorerSession.maxDataPlaneRawBytes
  · rw [if_pos hlength, if_pos hlength]
    rfl
  · rw [if_neg hlength, if_neg hlength]
    dsimp only
    by_cases hmax : payload.length > Server.StorerSession.maxDataPlaneRawBytes
    · rw [if_pos hmax, if_pos hmax]
      rfl
    · rw [if_neg hmax, if_neg hmax]
      by_cases hraw : compress = Server.compressRaw
      · rw [if_pos hraw, if_pos hraw]
        split <;> rfl
      · rw [if_neg hraw, if_neg hraw]
        by_cases hzstd : compress = Server.compressZstd1 ∨ compress = Server.compressZstd3
        · rw [if_pos hzstd, if_pos hzstd]
          cases server.decodeAll payload with
          | none => rfl
          | some decoded =>
            dsimp only
            split <;> rfl
        · rw [if_neg hzstd, if_neg hzstd]
          by_cases hsolid : compress = Server.compressSolidByte
          · rw [if_pos hsolid, if_pos hsolid]
            rcases payload with - | ⟨byte, - | ⟨next, rest⟩⟩ <;> rfl
          · rw [if_neg hsolid, if_neg hsolid]
            rfl

/-! ## Messages -/

def validateNonZeroSessionId (sessionId : UInt64) : Except ProtocolClientError Unit :=
  if sessionId = 0 then .error (.unexpectedSessionId none 0) else .ok ()

structure WriteAtRequest where
  sessionId : UInt64
  offset : UInt64
  data : Bytes
deriving DecidableEq, Repr

def WriteAtRequest.encodeRequest (zstd : Zstd) (r : WriteAtRequest) (requestId : UInt64) :
    Except ProtocolClientError Bytes := do
  validateNonZeroSessionId r.sessionId
  if r.data.length ≥ 2 ^ 32 then
    .error (.invalidBody "write_length")
  else
    let length := UInt32.ofNat r.data.length
    validateIoLength length
    let (compress, payload) := encodeDataPlanePayload zstd r.data
    let header ← ProtocolHeader.newRequest .writeAt requestId r.sessionId
    .ok (header.encode
      (putUint64 r.offset.toNat ++ (putUint32 length.toNat ++ (compress :: payload))))

def ReadAtResponse.decodeResponse (zstd : Zstd) (payload : Bytes)
    (expectedRequestId expectedSessionId : UInt64) (expectedLength : UInt32) :
    Except ProtocolClientError Bytes := do
  let (_, body) ← decodeSuccessResponse payload .readAt expectedRequestId (some expectedSessionId)
  match body with
  | [] => .error (.invalidBody "read_response_body")
  | compress :: payload =>
    decodeDataPlanePayload zstd compress payload expectedLength {
      compress := "read_response_compress"
      payloadLength := "read_response_payload_length"
      bodyLength := "read_response_length"
      decompress := "read_response_decompress" }

theorem newRequest_ok {op : ClientOperationCode} {requestId : UInt64} (h : requestId ≠ 0)
    (sessionId : UInt64) : ProtocolHeader.newRequest op requestId sessionId = .ok {
      protocolVersion
      headerLen
      opCode := op
      flags := 0
      statusCode := .ok
      reserved := 0
      requestId
      sessionId } := if_neg h

theorem toNat_ofNat_length {data : Bytes} (hmax : data.length ≤ maxDataPlaneRawBytes) :
    (UInt32.ofNat data.length).toNat = data.length := by
  have hmax' : data.length ≤ 60 * 1024 := hmax
  exact UInt32.toNat_ofNat_of_lt' (show data.length < 2 ^ 32 by omega)

theorem validateIoLength_ok {data : Bytes} (hpos : 1 ≤ data.length)
    (hmax : data.length ≤ maxDataPlaneRawBytes) :
    validateIoLength (.ofNat data.length) = .ok () := by
  have hnat := toNat_ofNat_length hmax
  unfold validateIoLength
  rw [if_neg]
  rintro (hzero | hgt)
  · rw [hzero] at hnat
    exact absurd hnat (by show ¬ 0 = data.length; omega)
  · omega

/-- **The body of a write request** is the one that the server would build. -/
theorem WriteAtRequest.encodeRequest_eq (zstd : Zstd) {r : WriteAtRequest} {requestId : UInt64}
    (hsession : r.sessionId ≠ 0) (hrequest : requestId ≠ 0) (hpos : 1 ≤ r.data.length)
    (hmax : r.data.length ≤ maxDataPlaneRawBytes) :
    r.encodeRequest zstd requestId = .ok (ProtocolHeader.encode {
      protocolVersion
      headerLen
      opCode := .writeAt
      flags := 0
      statusCode := .ok
      reserved := 0
      requestId
      sessionId := r.sessionId } (Server.buildWriteRequestBody zstd r.offset.toNat r.data)) := by
  have hlt : ¬ r.data.length ≥ 2 ^ 32 := by
    have hmax' : r.data.length ≤ 60 * 1024 := hmax
    omega
  have hvalid : validateNonZeroSessionId r.sessionId = .ok () := if_neg hsession
  simp only [WriteAtRequest.encodeRequest, bind, Except.bind, hvalid, if_neg hlt,
    validateIoLength_ok hpos hmax, newRequest_ok hrequest, encodeDataPlanePayload_eq,
    toNat_ofNat_length hmax]
  rfl

theorem toOption_eq_some {ε α : Type} {x : Except ε α} {a : α} (h : x.toOption = some a) :
    x = .ok a := by
  cases x with
  | error e => cases h
  | ok b => exact congrArg Except.ok (Option.some.inj h)

/-- **What the client makes of a read response** of the server. -/
theorem ReadAtResponse.decodeResponse_buildResponse (zstd : Zstd) {req : Header}
    {requestId sessionId : UInt64} (hop : req.opCode = ClientOperationCode.readAt.code)
    (hrequest : req.requestID = requestId.toNat) (hsession : req.sessionID = sessionId.toNat)
    (server : Zstd) (hagree : ∀ payload, zstd.decodeAll payload = server.decodeAll payload)
    (body : Bytes) (expectedLength : UInt32) :
    (ReadAtResponse.decodeResponse zstd (Server.buildSuccessResponse req body) requestId sessionId
      expectedLength).toOption = Server.parseReadResponseBody server body expectedLength.toNat := by
  obtain ⟨header, -, hdecode⟩ := decodeSuccessResponse_buildSuccessResponse hop hrequest hsession
    (show ∀ expected ∈ some sessionId, expected = sessionId from fun _ h => (Option.some.inj h).symm)
    body
  unfold ReadAtResponse.decodeResponse
  rw [hdecode]
  cases body with
  | nil => rfl
  | cons compress payload =>
    exact decodeDataPlanePayload_eq hagree compress payload expectedLength _

/-- **The data plane agrees.** What the client or the server writes, the other reads back, in at most
60 KiB; and the two decoders accept the same payloads, with the length that was announced. -/
theorem dataPlane_agreement {client server : Zstd} (hclient : client.Sound) (hserver : server.Sound)
    (hagree : ∀ payload, client.decodeAll payload = server.decodeAll payload) :
    (∀ data : Bytes, 1 ≤ data.length → data.length ≤ 61440 → ∀ offset : UInt64,
      (∀ sessionId requestId : UInt64, sessionId ≠ 0 → requestId ≠ 0 → ∃ payload,
        WriteAtRequest.encodeRequest client { sessionId, offset, data } requestId = .ok payload ∧
          Server.parseReadWriteBody server (payload.drop headerSize) =
            some (offset.toNat, data.length, data)) ∧
      Server.parseReadWriteBody server (Server.buildWriteRequestBody server offset.toNat data) =
        some (offset.toNat, data.length, data) ∧
      Server.parseReadResponseBody server (Server.buildReadResponseBody server data) data.length =
        some data ∧
      (∀ (req : Header) (requestId sessionId : UInt64),
        req.opCode = ClientOperationCode.readAt.code → req.requestID = requestId.toNat →
          req.sessionID = sessionId.toNat →
            ReadAtResponse.decodeResponse client
              (Server.buildSuccessResponse req (Server.buildReadResponseBody server data)) requestId
                sessionId (.ofNat data.length) = .ok data) ∧
      (encodeDataPlanePayload client data).2.length ≤ 61440 ∧
      (Server.encodeDataPlanePayload server data).2.length ≤ 61440) ∧
    ∀ (compress : UInt8) (payload : Bytes) (expectedLength : UInt32)
      (labels : DataPlaneDecodeLabels),
      (decodeDataPlanePayload client compress payload expectedLength labels).toOption =
        Server.decodeDataPlanePayload server compress payload expectedLength.toNat ∧
      ∀ data, decodeDataPlanePayload client compress payload expectedLength labels = .ok data →
        data.length = expectedLength.toNat ∧ data.length ≤ 61440 := by
  -- the client writes and the server reads
  have hmixed : Zstd.Sound { encodeAll := client.encodeAll, decodeAll := server.decodeAll } :=
    ⟨fun level data encoded h => (hagree encoded).symm.trans (hclient.decode_encode _ _ _ h)⟩
  refine ⟨fun data hpos hmax offset => ⟨fun sessionId requestId hsession hrequest => ?_, ?_, ?_,
    fun req requestId sessionId hop hreq hses => ?_, ?_, ?_⟩,
    fun compress payload expectedLength labels => ⟨?_, fun data hdata => ?_⟩⟩
  · refine ⟨_, WriteAtRequest.encodeRequest_eq client hsession hrequest hpos hmax, ?_⟩
    rw [ProtocolHeader.drop_encode]
    exact Server.parse_buildWriteRequestBody hmixed offset.toNat_lt hpos hmax
  · exact Server.parse_buildWriteRequestBody hserver offset.toNat_lt hpos hmax
  · exact Server.parse_buildReadResponseBody hserver hpos hmax
  · have hparse := ReadAtResponse.decodeResponse_buildResponse client hop hreq hses server hagree
      (Server.buildReadResponseBody server data) (.ofNat data.length)
    rw [toNat_ofNat_length hmax, Server.parse_buildReadResponseBody hserver hpos hmax] at hparse
    exact toOption_eq_some hparse
  · rw [encodeDataPlanePayload_eq]
    exact Server.length_encodeDataPlanePayload client hmax
  · exact Server.length_encodeDataPlanePayload server hmax
  · exact decodeDataPlanePayload_eq hagree compress payload expectedLength labels
  · have heq := decodeDataPlanePayload_eq hagree compress payload expectedLength labels
    rw [hdata] at heq
    obtain ⟨hlen, -, hmax, -⟩ := Server.decodeDataPlanePayload_ok heq.symm
    exact ⟨hlen, hlen.trans_le hmax⟩

/-- A zstd that finds nothing to compress. -/
def storedZstd : Zstd where
  encodeAll _ _ := none
  decodeAll _ := none

/-- The frame of a byte and 1023 times another one: a raw block and a run-length block. -/
def runFrame (first second : UInt8) : Bytes :=
  [0x28, 0xB5, 0x2F, 0xFD, 0x60, 0, 3, 8, 0, 0, first, 0xFB, 0x1F, 0, second]

/-- A zstd that knows this frame. -/
def runLengthZstd : Zstd where
  encodeAll _ data :=
    match data with
    | first :: second :: rest =>
      if rest = List.replicate 1022 second then some (runFrame first second) else none
    | _ => none
  decodeAll payload :=
    match payload with
    | [_, _, _, _, _, _, _, _, _, _, first, _, _, _, second] =>
      if payload = runFrame first second then some (first :: List.replicate 1023 second) else none
    | _ => none

theorem runLengthZstd_sound : runLengthZstd.Sound where
  decode_encode level data encoded h := by
    simp only [runLengthZstd] at h
    split at h
    · split_ifs at h with hrest
      cases h
      rw [hrest]
      exact if_pos rfl
    · cases h

/-- A byte and a run. -/
def sector : Bytes := 1 :: List.replicate 1023 0

theorem runLengthZstd_agreement :
    encodeDataPlanePayload runLengthZstd sector = (ioCompressZstd1, runFrame 1 0) ∧
      Server.parseReadWriteBody runLengthZstd
        (Server.buildWriteRequestBody runLengthZstd 8 sector) = some (8, 1024, sector) := by
  have hlength : sector.length = 1024 := by rw [sector, List.length_cons, List.length_replicate]
  refine ⟨by decide +kernel, ?_⟩
  have hagree := dataPlane_agreement runLengthZstd_sound runLengthZstd_sound fun _ => rfl
  have hparse := (hagree.1 sector (by rw [hlength]; decide) (by rw [hlength]; decide) 8).2.1
  rwa [hlength] at hparse

end YumeDisk.Client
