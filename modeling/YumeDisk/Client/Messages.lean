import YumeDisk.Client.DataPlane

/-!
# The messages of the client (`protocol_client.rs`)

* `ClientRequest.encodeRequest`, `ClientRequest.decodeResponse`: the encoder of each request and the
  decoder of its response.
* `SessionCloseNotice`, `SessionDataChangedNotice`: the notices.
* `encodeRequest_eq`: a request that is encoded is a header and the body the server would build.
* `decode_buildNotice`: what the notices of the server decode to.
-/

namespace YumeDisk.Client

open Lib (Bytes slice)
open Server (Zstd Header putUint16 putUint32 putUint64 uint16 uint64)

def diskIdBytes : Nat := 16

def authChallengeTokenMinBytes : Nat := 1

def authAlgoVersionV1 : UInt8 := 1

def authFinishResponseBytes : Nat := 8

def sessionDescribeResponseBytes : Nat := 28

def sessionCloseNoticeBytes : Nat := 2

def sessionFlagReadOnly : UInt16 := 1

/-! ## Requests -/

/-- `disk_id` is the UTF-8 of a `String`. -/
structure AuthStartRequest where
  diskId : Bytes
deriving DecidableEq, Repr

structure AuthFinishRequest where
  challengeToken : Bytes
  proof : Vector UInt8 64
deriving DecidableEq, Repr

structure SessionOpenRequest where
  authId : UInt64
deriving DecidableEq, Repr

structure SessionDescribeRequest where
  sessionId : UInt64
deriving DecidableEq, Repr

structure ReadAtRequest where
  sessionId : UInt64
  offset : UInt64
  length : UInt32
deriving DecidableEq, Repr

def isAsciiAlphanumeric (b : UInt8) : Bool :=
  (97 ≤ b.toNat && b.toNat ≤ 122) || (65 ≤ b.toNat && b.toNat ≤ 90) ||
    (48 ≤ b.toNat && b.toNat ≤ 57)

def encodeDiskId (diskId : Bytes) : Except ProtocolClientError Bytes :=
  if diskId.length ≠ diskIdBytes then
    .error .invalidDiskId
  else if !diskId.all isAsciiAlphanumeric then
    .error .invalidDiskId
  else
    .ok diskId

def AuthStartRequest.encodeRequest (r : AuthStartRequest) (requestId : UInt64) :
    Except ProtocolClientError Bytes := do
  let body ← encodeDiskId r.diskId
  let header ← ProtocolHeader.newRequest .authStart requestId 0
  .ok (header.encode body)

def AuthFinishRequest.encodeRequest (r : AuthFinishRequest) (requestId : UInt64) :
    Except ProtocolClientError Bytes :=
  if r.challengeToken.length < authChallengeTokenMinBytes ∨ r.challengeToken.length > 65535 then
    .error (.invalidBody "challenge_token_len")
  else do
    let header ← ProtocolHeader.newRequest .authFinish requestId 0
    .ok (header.encode
      (putUint16 r.challengeToken.length ++ (r.challengeToken ++ r.proof.toList)))

def SessionOpenRequest.encodeRequest (r : SessionOpenRequest) (requestId : UInt64) :
    Except ProtocolClientError Bytes :=
  if r.authId = 0 then
    .error (.invalidBody "auth_id")
  else do
    let header ← ProtocolHeader.newRequest .sessionOpen requestId 0
    .ok (header.encode (putUint64 r.authId.toNat))

def SessionDescribeRequest.encodeRequest (r : SessionDescribeRequest) (requestId : UInt64) :
    Except ProtocolClientError Bytes := do
  validateNonZeroSessionId r.sessionId
  let header ← ProtocolHeader.newRequest .sessionDescribe requestId r.sessionId
  .ok (header.encode [])

def ReadAtRequest.encodeRequest (r : ReadAtRequest) (requestId : UInt64) :
    Except ProtocolClientError Bytes := do
  validateNonZeroSessionId r.sessionId
  validateIoLength r.length
  let header ← ProtocolHeader.newRequest .readAt requestId r.sessionId
  .ok (header.encode (putUint64 r.offset.toNat ++ putUint32 r.length.toNat))

def ConnHeartbeatRequest.encodeRequest (requestId : UInt64) : Except ProtocolClientError Bytes := do
  let header ← ProtocolHeader.newRequest .connHeartbeat requestId 0
  .ok (header.encode [])

/-! ## Responses -/

structure AuthStartResponse where
  algoVersion : UInt8
  ttlSeconds : UInt16
  salt : Bytes
  challengeToken : Bytes
deriving DecidableEq, Repr

structure SessionDescribeResponse where
  sessionId : UInt64
  diskSizeBytes : UInt64
  readOnly : Bool
  backendId : Bytes
deriving DecidableEq, Repr

def decodeAuthStartResponseBody (body : Bytes) : Except ProtocolClientError AuthStartResponse :=
  match body with
  | algoVersion :: t₁ :: t₀ :: rest =>
    if body.length < 21 then
      .error (.invalidBody "auth_start_response_len")
    else
      let ttlSeconds := UInt16.ofNat (uint16 t₁ t₀)
      if algoVersion ≠ authAlgoVersionV1 then
        .error (.invalidBody "algo_version")
      else if ttlSeconds = 0 then
        .error (.invalidBody "ttl_seconds")
      else
        let challengeTokenLen := uint64 (slice body 19 2)
        if challengeTokenLen < authChallengeTokenMinBytes then
          .error (.invalidBody "challenge_token_len")
        else if body.length ≠ 21 + challengeTokenLen then
          .error (.invalidBody "auth_start_response_len")
        else
          .ok { algoVersion, ttlSeconds, salt := rest.take 16, challengeToken := body.drop 21 }
  | _ => .error (.invalidBody "auth_start_response_len")

def AuthStartResponse.decodeResponse (payload : Bytes) (expectedRequestId : UInt64) :
    Except ProtocolClientError AuthStartResponse := do
  let (_, body) ← decodeSuccessResponse payload .authStart expectedRequestId (some 0)
  decodeAuthStartResponseBody body

def AuthFinishRequest.decodeResponse (payload : Bytes) (expectedRequestId : UInt64) :
    Except ProtocolClientError UInt64 := do
  let (_, body) ← decodeSuccessResponse payload .authFinish expectedRequestId (some 0)
  if body.length ≠ authFinishResponseBytes then
    .error (.invalidBody "auth_finish_response_len")
  else
    let authId := UInt64.ofNat (uint64 body)
    if authId = 0 then .error (.invalidBody "auth_id") else .ok authId

def SessionOpenResponse.decodeResponse (payload : Bytes) (expectedRequestId : UInt64) :
    Except ProtocolClientError UInt64 := do
  let (header, body) ← decodeSuccessResponse payload .sessionOpen expectedRequestId none
  if header.sessionId = 0 then
    .error (.unexpectedSessionId none 0)
  else if body ≠ [] then
    .error (.invalidBody "session_open_response_body")
  else
    .ok header.sessionId

def SessionDescribeResponse.decodeResponse (payload : Bytes)
    (expectedRequestId expectedSessionId : UInt64) :
    Except ProtocolClientError SessionDescribeResponse := do
  let (_, body) ←
    decodeSuccessResponse payload .sessionDescribe expectedRequestId (some expectedSessionId)
  if body.length ≠ sessionDescribeResponseBytes then
    .error (.invalidBody "session_describe_response_len")
  else
    let diskSizeBytes := UInt64.ofNat (uint64 (slice body 0 8))
    let sessionFlags := UInt16.ofNat (uint64 (slice body 8 2))
    let reserved := UInt16.ofNat (uint64 (slice body 10 2))
    if reserved ≠ 0 then
      .error (.invalidBody "session_describe_reserved")
    else if sessionFlags &&& ~~~sessionFlagReadOnly ≠ 0 then
      .error (.invalidBody "session_flags")
    else if diskSizeBytes = 0 then
      .error (.invalidBody "disk_size_bytes")
    else
      .ok {
        sessionId := expectedSessionId
        diskSizeBytes
        readOnly := sessionFlags &&& sessionFlagReadOnly ≠ 0
        backendId := slice body 12 16 }

def WriteAtRequest.decodeResponse (payload : Bytes)
    (expectedRequestId expectedSessionId : UInt64) : Except ProtocolClientError Unit := do
  let (_, body) ← decodeSuccessResponse payload .writeAt expectedRequestId (some expectedSessionId)
  if body ≠ [] then .error (.invalidBody "write_response_body") else .ok ()

def ConnHeartbeatResponse.decodeResponse (payload : Bytes) (expectedRequestId : UInt64) :
    Except ProtocolClientError Unit := do
  let (_, body) ← decodeSuccessResponse payload .connHeartbeat expectedRequestId (some 0)
  if body ≠ [] then .error (.invalidBody "conn_heartbeat_response_body") else .ok ()

/-! ## Any request -/

inductive ClientRequest
  | authStart (r : AuthStartRequest)
  | authFinish (r : AuthFinishRequest)
  | sessionOpen (r : SessionOpenRequest)
  | sessionDescribe (r : SessionDescribeRequest)
  | readAt (r : ReadAtRequest)
  | writeAt (r : WriteAtRequest)
  | connHeartbeat
deriving DecidableEq, Repr

inductive ClientResponse
  | authStart (r : AuthStartResponse)
  | authFinish (authId : UInt64)
  | sessionOpen (sessionId : UInt64)
  | sessionDescribe (r : SessionDescribeResponse)
  | readAt (data : Bytes)
  | writeAt
  | connHeartbeat
deriving DecidableEq, Repr

namespace ClientRequest

def opCode : ClientRequest → ClientOperationCode
  | authStart _ => .authStart
  | authFinish _ => .authFinish
  | sessionOpen _ => .sessionOpen
  | sessionDescribe _ => .sessionDescribe
  | readAt _ => .readAt
  | writeAt _ => .writeAt
  | connHeartbeat => .connHeartbeat

/-- The session of the header. -/
def sessionId : ClientRequest → UInt64
  | authStart _ | authFinish _ | sessionOpen _ | connHeartbeat => 0
  | sessionDescribe r => r.sessionId
  | readAt r => r.sessionId
  | writeAt r => r.sessionId

def encodeRequest (zstd : Zstd) (requestId : UInt64) :
    ClientRequest → Except ProtocolClientError Bytes
  | authStart r => r.encodeRequest requestId
  | authFinish r => r.encodeRequest requestId
  | sessionOpen r => r.encodeRequest requestId
  | sessionDescribe r => r.encodeRequest requestId
  | readAt r => r.encodeRequest requestId
  | writeAt r => r.encodeRequest zstd requestId
  | connHeartbeat => ConnHeartbeatRequest.encodeRequest requestId

def decodeResponse (zstd : Zstd) (requestId : UInt64) (payload : Bytes) :
    ClientRequest → Except ProtocolClientError ClientResponse
  | authStart _ => (AuthStartResponse.decodeResponse payload requestId).map .authStart
  | authFinish _ => (AuthFinishRequest.decodeResponse payload requestId).map .authFinish
  | sessionOpen _ => (SessionOpenResponse.decodeResponse payload requestId).map .sessionOpen
  | sessionDescribe r =>
    (SessionDescribeResponse.decodeResponse payload requestId r.sessionId).map .sessionDescribe
  | readAt r =>
    (ReadAtResponse.decodeResponse zstd payload requestId r.sessionId r.length).map .readAt
  | writeAt r =>
    (WriteAtRequest.decodeResponse payload requestId r.sessionId).map fun _ => .writeAt
  | connHeartbeat =>
    (ConnHeartbeatResponse.decodeResponse payload requestId).map fun _ => .connHeartbeat

end ClientRequest

/-! ## What is encoded -/

def requestHeader (opCode : ClientOperationCode) (requestId sessionId : UInt64) :
    ProtocolHeader where
  protocolVersion := Client.protocolVersion
  headerLen := Client.headerLen
  opCode
  flags := 0
  statusCode := .ok
  reserved := 0
  requestId
  sessionId

namespace ClientRequest

/-- What the encoder checks. -/
def Accepted : ClientRequest → Prop
  | authStart r => r.diskId.length = 16 ∧ r.diskId.all isAsciiAlphanumeric = true
  | authFinish r => 1 ≤ r.challengeToken.length ∧ r.challengeToken.length ≤ 65535
  | sessionOpen r => r.authId ≠ 0
  | sessionDescribe r => r.sessionId ≠ 0
  | readAt r => r.sessionId ≠ 0 ∧ r.length ≠ 0 ∧ r.length.toNat ≤ maxDataPlaneRawBytes
  | writeAt r => r.sessionId ≠ 0 ∧ 1 ≤ r.data.length ∧ r.data.length ≤ maxDataPlaneRawBytes
  | connHeartbeat => True

/-- The body, as the server would build it. -/
def body (zstd : Zstd) : ClientRequest → Bytes
  | authStart r => r.diskId
  | authFinish r => Server.buildAuthFinishRequestBody r.challengeToken r.proof.toList
  | sessionOpen r => putUint64 r.authId.toNat
  | sessionDescribe _ => []
  | readAt r => putUint64 r.offset.toNat ++ putUint32 r.length.toNat
  | writeAt r => Server.buildWriteRequestBody zstd r.offset.toNat r.data
  | connHeartbeat => []

end ClientRequest

theorem bind_ok {ε α β : Type} {x : Except ε α} {f : α → Except ε β} {b : β}
    (h : (x >>= f) = .ok b) : ∃ a, x = .ok a ∧ f a = .ok b := by
  cases x with
  | error e => cases h
  | ok a => exact ⟨a, rfl, h⟩

theorem newRequest_eq_ok {op : ClientOperationCode} {requestId sessionId : UInt64}
    {header : ProtocolHeader} (h : ProtocolHeader.newRequest op requestId sessionId = .ok header) :
    requestId ≠ 0 ∧ header = requestHeader op requestId sessionId := by
  unfold ProtocolHeader.newRequest at h
  split_ifs at h with hzero
  exact ⟨hzero, (Except.ok.inj h).symm⟩

/-- The last two lines of every encoder. -/
theorem encode_newRequest {op : ClientOperationCode} {requestId sessionId : UInt64}
    {body payload : Bytes}
    (h : (do let header ← ProtocolHeader.newRequest op requestId sessionId
             .ok (header.encode body)) = .ok payload) :
    requestId ≠ 0 ∧ payload = (requestHeader op requestId sessionId).encode body := by
  obtain ⟨header, hheader, h⟩ := bind_ok h
  obtain ⟨hzero, rfl⟩ := newRequest_eq_ok hheader
  exact ⟨hzero, (Except.ok.inj h).symm⟩

theorem validateNonZeroSessionId_ok {sessionId : UInt64} {u : Unit}
    (h : validateNonZeroSessionId sessionId = .ok u) : sessionId ≠ 0 := by
  unfold validateNonZeroSessionId at h
  split_ifs at h with hzero
  exact hzero

theorem validateIoLength_eq_ok {length : UInt32} {u : Unit} (h : validateIoLength length = .ok u) :
    length ≠ 0 ∧ length.toNat ≤ maxDataPlaneRawBytes := by
  unfold validateIoLength at h
  split_ifs at h with hbad
  rw [not_or, not_lt] at hbad
  exact hbad

/-- **What an encoder makes**: a header, and the body that the server would build. -/
theorem ClientRequest.encodeRequest_ok {zstd : Zstd} {req : ClientRequest} {requestId : UInt64}
    {payload : Bytes} (h : req.encodeRequest zstd requestId = .ok payload) :
    requestId ≠ 0 ∧ req.Accepted ∧
      payload = (requestHeader req.opCode requestId req.sessionId).encode (req.body zstd) := by
  cases req with
  | authStart r =>
    obtain ⟨body, hbody, h⟩ := bind_ok h
    obtain ⟨hzero, rfl⟩ := encode_newRequest h
    unfold encodeDiskId at hbody
    split_ifs at hbody with hlen hall
    obtain rfl := Except.ok.inj hbody
    exact ⟨hzero, ⟨not_not.mp hlen, by simpa using hall⟩, rfl⟩
  | authFinish r =>
    simp only [encodeRequest, AuthFinishRequest.encodeRequest] at h
    split_ifs at h with hlen
    obtain ⟨hzero, rfl⟩ := encode_newRequest h
    rw [not_or, not_lt, not_lt] at hlen
    exact ⟨hzero, hlen, rfl⟩
  | sessionOpen r =>
    simp only [encodeRequest, SessionOpenRequest.encodeRequest] at h
    split_ifs at h with hid
    obtain ⟨hzero, rfl⟩ := encode_newRequest h
    exact ⟨hzero, hid, rfl⟩
  | sessionDescribe r =>
    obtain ⟨_, hid, h⟩ := bind_ok h
    obtain ⟨hzero, rfl⟩ := encode_newRequest h
    exact ⟨hzero, validateNonZeroSessionId_ok hid, rfl⟩
  | readAt r =>
    obtain ⟨_, hid, h⟩ := bind_ok h
    obtain ⟨_, hlength, h⟩ := bind_ok h
    obtain ⟨hzero, rfl⟩ := encode_newRequest h
    exact ⟨hzero, ⟨validateNonZeroSessionId_ok hid, validateIoLength_eq_ok hlength⟩, rfl⟩
  | writeAt r =>
    obtain ⟨_, hid, h⟩ := bind_ok h
    split_ifs at h with hlong
    obtain ⟨_, hlength, h⟩ := bind_ok h
    obtain ⟨hzero, rfl⟩ := encode_newRequest h
    have hnat : (UInt32.ofNat r.data.length).toNat = r.data.length :=
      UInt32.toNat_ofNat_of_lt' (not_le.mp hlong)
    obtain ⟨hpos, hmax⟩ := validateIoLength_eq_ok hlength
    rw [hnat] at hmax
    refine ⟨hzero, ⟨validateNonZeroSessionId_ok hid, ?_, hmax⟩, ?_⟩
    · by_contra hlt
      have hnil : r.data.length = 0 := by omega
      exact hpos (by rw [hnil]; rfl)
    · refine congrArg _ ?_
      show putUint64 _ ++ (putUint32 (UInt32.ofNat r.data.length).toNat ++
        ((encodeDataPlanePayload zstd r.data).1 :: (encodeDataPlanePayload zstd r.data).2)) = _
      rw [encodeDataPlanePayload_eq, hnat]
      rfl
  | connHeartbeat =>
    obtain ⟨hzero, rfl⟩ := encode_newRequest h
    exact ⟨hzero, trivial, rfl⟩

/-! ## Notices -/

structure SessionCloseNotice where
  sessionId : UInt64
  reasonCode : UInt16
deriving DecidableEq, Repr

structure SessionDataChangedNotice where
  sessionId : UInt64
deriving DecidableEq, Repr

def noticeHeader (opCode : ClientOperationCode) (sessionId : UInt64) : ProtocolHeader where
  protocolVersion := Client.protocolVersion
  headerLen := Client.headerLen
  opCode
  flags := flagNotice
  statusCode := .ok
  reserved := 0
  requestId := 0
  sessionId

def SessionCloseNotice.encodeNotice (n : SessionCloseNotice) : Except ProtocolClientError Bytes := do
  validateNonZeroSessionId n.sessionId
  if n.reasonCode = 0 then
    .error (.invalidBody "session_close_reason_code")
  else
    .ok ((noticeHeader .sessionCloseNotice n.sessionId).encode (putUint16 n.reasonCode.toNat))

/-- The checks of both notices on the header. -/
def validateNoticeHeader (header : ProtocolHeader) (expectedOpCode : ClientOperationCode)
    (reason : String) : Except ProtocolClientError Unit :=
  if header.flags ≠ flagNotice then
    .error (.unexpectedFlags flagNotice header.flags)
  else if header.reserved ≠ 0 then
    .error (.reservedNonZero header.reserved)
  else if header.opCode ≠ expectedOpCode then
    .error (.unexpectedOpCode (some expectedOpCode) header.opCode.code)
  else if header.statusCode ≠ .ok then
    .error (.invalidBody "notice_status_code")
  else if header.requestId ≠ 0 ∨ header.sessionId = 0 then
    .error (.invalidBody reason)
  else
    .ok ()

def SessionCloseNotice.decodeNotice (payload : Bytes) :
    Except ProtocolClientError SessionCloseNotice := do
  let header ← parseHeader payload
  validateNoticeHeader header .sessionCloseNotice "session_close_notice_header"
  let body := payload.drop headerSize
  if body.length ≠ sessionCloseNoticeBytes then
    .error (.invalidBody "session_close_notice_len")
  else
    .ok { sessionId := header.sessionId, reasonCode := .ofNat (uint64 body) }

def SessionDataChangedNotice.decodeNotice (payload : Bytes) :
    Except ProtocolClientError SessionDataChangedNotice := do
  let header ← parseHeader payload
  validateNoticeHeader header .sessionDataChangedNotice "session_data_changed_notice_header"
  let body := payload.drop headerSize
  if body ≠ [] then
    .error (.invalidBody "session_data_changed_notice_len")
  else
    .ok { sessionId := header.sessionId }

end YumeDisk.Client
