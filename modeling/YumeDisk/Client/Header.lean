import YumeDisk.Server.DataBodies

/-!
# The header of a payload, as the client has it (`protocol_client.rs`)

* `ProtocolHeader.encode`, `parseHeader`: the header in front of a body.
* `decodeSuccessResponse`: what every decoder of a response checks first.
* `encode_eq`, `parseHeader_encodeHeader`: the bytes are those of the server's own header.
* `decodeSuccessResponse_buildResponse`: what a response of the server decodes to.
-/

namespace YumeDisk.Client

open Lib (Bytes)
open Server (putUint16 putUint64 uint16 uint64 Header encodeHeader)

def protocolVersion : UInt8 := 2

def headerLen : UInt8 := 24

def headerSize : Nat := 24

def flagResponse : UInt8 := 1

def flagNotice : UInt8 := 2

inductive ClientOperationCode
  | authStart
  | authFinish
  | sessionOpen
  | sessionDescribe
  | sessionCloseNotice
  | sessionDataChangedNotice
  | readAt
  | writeAt
  | connHeartbeat
deriving DecidableEq, Repr

/-- `op_code as u8`. -/
def ClientOperationCode.code : ClientOperationCode → UInt8
  | .authStart => 0x01
  | .authFinish => 0x02
  | .sessionOpen => 0x03
  | .sessionDescribe => 0x04
  | .sessionCloseNotice => 0x05
  | .sessionDataChangedNotice => 0x06
  | .readAt => 0x10
  | .writeAt => 0x11
  | .connHeartbeat => 0x12

inductive ProtocolStatusCode
  | ok
  | errProtocolVersion
  | errBadHeader
  | errBadBody
  | errInvalidRequest
  | errUnsupportedOp
  | errAuthFailed
  | errAuthExpired
  | errAuthChallengeInvalid
  | errAuthIdInvalid
  | errAuthIdExpired
  | errSessionUnavailable
  | errSessionOpenRejected
  | errIoOutOfRange
  | errIoTooLarge
  | errIoReadOnly
  | errIoFailed
  | unknown (code : UInt16)
deriving DecidableEq, Repr

namespace ProtocolStatusCode

def code : ProtocolStatusCode → UInt16
  | ok => 0x0000
  | errProtocolVersion => 0x1001
  | errBadHeader => 0x1002
  | errBadBody => 0x1003
  | errInvalidRequest => 0x1004
  | errUnsupportedOp => 0x1005
  | errAuthFailed => 0x1101
  | errAuthExpired => 0x1102
  | errAuthChallengeInvalid => 0x1103
  | errAuthIdInvalid => 0x1104
  | errAuthIdExpired => 0x1105
  | errSessionUnavailable => 0x1201
  | errSessionOpenRejected => 0x1202
  | errIoOutOfRange => 0x1301
  | errIoTooLarge => 0x1302
  | errIoReadOnly => 0x1303
  | errIoFailed => 0x1304
  | unknown code => code

def fromU16 (value : UInt16) : ProtocolStatusCode :=
  if value = 0x0000 then ok
  else if value = 0x1001 then errProtocolVersion
  else if value = 0x1002 then errBadHeader
  else if value = 0x1003 then errBadBody
  else if value = 0x1004 then errInvalidRequest
  else if value = 0x1005 then errUnsupportedOp
  else if value = 0x1101 then errAuthFailed
  else if value = 0x1102 then errAuthExpired
  else if value = 0x1103 then errAuthChallengeInvalid
  else if value = 0x1104 then errAuthIdInvalid
  else if value = 0x1105 then errAuthIdExpired
  else if value = 0x1201 then errSessionUnavailable
  else if value = 0x1202 then errSessionOpenRejected
  else if value = 0x1301 then errIoOutOfRange
  else if value = 0x1302 then errIoTooLarge
  else if value = 0x1303 then errIoReadOnly
  else if value = 0x1304 then errIoFailed
  else unknown value

/-- One arm of `fromU16`. -/
theorem code_ite {value code : UInt16} {status rest : ProtocolStatusCode}
    (hstatus : status.code = code) (hrest : rest.code = value) :
    (if value = code then status else rest).code = value := by
  split
  · next h => rw [hstatus, h]
  · exact hrest

/-- A status reads back as the code that was sent. -/
theorem code_fromU16 (value : UInt16) : (fromU16 value).code = value := by
  unfold fromU16
  repeat refine code_ite rfl ?_
  rfl

theorem fromU16_eq_ok {value : UInt16} : fromU16 value = ok ↔ value = 0 := by
  constructor
  · intro h
    rw [← code_fromU16 value, h]
    rfl
  · rintro rfl
    rfl

end ProtocolStatusCode

inductive ProtocolClientError
  | payloadTooSmall (actual : Nat)
  | invalidProtocolVersion (actual : UInt8)
  | invalidHeaderLength (actual : UInt8)
  | reservedNonZero (actual : UInt16)
  | unexpectedFlags (expected actual : UInt8)
  | unexpectedOpCode (expected : Option ClientOperationCode) (actual : UInt8)
  | unexpectedRequestId (expected actual : UInt64)
  | unexpectedSessionId (expected : Option UInt64) (actual : UInt64)
  | invalidRequestId (actual : UInt64)
  | invalidDiskId
  | invalidBody (reason : String)
  | gatewayStatus (status : ProtocolStatusCode)
deriving DecidableEq, Repr

open ProtocolClientError (payloadTooSmall invalidProtocolVersion invalidHeaderLength reservedNonZero
  unexpectedFlags unexpectedOpCode unexpectedRequestId unexpectedSessionId invalidRequestId
  invalidBody gatewayStatus)

def ClientOperationCode.fromU8 (value : UInt8) : Except ProtocolClientError ClientOperationCode :=
  if value = 0x01 then .ok authStart
  else if value = 0x02 then .ok authFinish
  else if value = 0x03 then .ok sessionOpen
  else if value = 0x04 then .ok sessionDescribe
  else if value = 0x05 then .ok sessionCloseNotice
  else if value = 0x06 then .ok sessionDataChangedNotice
  else if value = 0x10 then .ok readAt
  else if value = 0x11 then .ok writeAt
  else if value = 0x12 then .ok connHeartbeat
  else .error (.unexpectedOpCode none value)

@[simp] theorem ClientOperationCode.fromU8_code (op : ClientOperationCode) :
    ClientOperationCode.fromU8 op.code = .ok op := by
  cases op <;> rfl

structure ProtocolHeader where
  protocolVersion : UInt8
  headerLen : UInt8
  opCode : ClientOperationCode
  flags : UInt8
  statusCode : ProtocolStatusCode
  reserved : UInt16
  requestId : UInt64
  sessionId : UInt64
deriving DecidableEq, Repr

namespace ProtocolHeader

def newRequest (opCode : ClientOperationCode) (requestId sessionId : UInt64) :
    Except ProtocolClientError ProtocolHeader :=
  if requestId = 0 then
    .error (.invalidRequestId 0)
  else
    .ok {
      protocolVersion := Client.protocolVersion
      headerLen := Client.headerLen
      opCode
      flags := 0
      statusCode := .ok
      reserved := 0
      requestId
      sessionId }

def encode (h : ProtocolHeader) (body : Bytes) : Bytes :=
  [h.protocolVersion, h.headerLen, h.opCode.code, h.flags] ++ putUint16 h.statusCode.code.toNat ++
    putUint16 h.reserved.toNat ++ putUint64 h.requestId.toNat ++ putUint64 h.sessionId.toNat ++ body

def isResponse (h : ProtocolHeader) : Bool := h.flags == flagResponse

/-- The same header, as the server has it. -/
def toServer (h : ProtocolHeader) : Header where
  protocolVersion := h.protocolVersion
  headerLen := h.headerLen
  opCode := h.opCode.code
  flags := h.flags
  statusCode := h.statusCode.code.toNat
  reserved := h.reserved.toNat
  requestID := h.requestId.toNat
  sessionID := h.sessionId.toNat

theorem toServer_fits (h : ProtocolHeader) : h.toServer.Fits where
  statusCode := h.statusCode.code.toNat_lt
  reserved := h.reserved.toNat_lt
  requestID := h.requestId.toNat_lt
  sessionID := h.sessionId.toNat_lt

/-- The client and the server write a header alike. -/
theorem encode_eq (h : ProtocolHeader) (body : Bytes) :
    h.encode body = encodeHeader h.toServer ++ body := rfl

/-- **The server reads a header of the client back.** -/
theorem parseHeader_encode (h : ProtocolHeader) (body : Bytes) :
    Server.parseHeader (h.encode body) = some h.toServer := by
  rw [encode_eq]
  exact Server.parseHeader_encodeHeader h.toServer_fits body

/-- What is behind the header. -/
theorem drop_encode (h : ProtocolHeader) (body : Bytes) :
    (h.encode body).drop headerSize = body := rfl

end ProtocolHeader

def parseHeader (payload : Bytes) : Except ProtocolClientError ProtocolHeader :=
  match payload with
  | version :: len :: op :: flags :: s₁ :: s₀ :: r₁ :: r₀ :: rest =>
    if rest.length < 16 then
      .error (.payloadTooSmall payload.length)
    else if version ≠ protocolVersion then
      .error (.invalidProtocolVersion version)
    else if len ≠ headerLen then
      .error (.invalidHeaderLength len)
    else
      match ClientOperationCode.fromU8 op with
      | .error e => .error e
      | .ok opCode =>
        .ok {
          protocolVersion := version
          headerLen := len
          opCode
          flags
          statusCode := .fromU16 (.ofNat (uint16 s₁ s₀))
          reserved := .ofNat (uint16 r₁ r₀)
          requestId := .ofNat (uint64 (rest.take 8))
          sessionId := .ofNat (uint64 ((rest.drop 8).take 8)) }
  | _ => .error (.payloadTooSmall payload.length)

def parseRequestHeader (payload : Bytes) : Except ProtocolClientError ProtocolHeader :=
  match parseHeader payload with
  | .error e => .error e
  | .ok header =>
    if header.flags ≠ 0 then
      .error (.unexpectedFlags 0 header.flags)
    else if header.statusCode ≠ .ok then
      .error (.invalidBody "request_status_code")
    else if header.reserved ≠ 0 then
      .error (.reservedNonZero header.reserved)
    else if header.requestId = 0 then
      .error (.invalidRequestId 0)
    else
      .ok header

def validateResponseHeader (header : ProtocolHeader) (expectedOpCode : ClientOperationCode)
    (expectedRequestId : UInt64) (expectedSessionId : Option UInt64) :
    Except ProtocolClientError Unit :=
  if header.flags ≠ flagResponse then
    .error (.unexpectedFlags flagResponse header.flags)
  else if header.reserved ≠ 0 then
    .error (.reservedNonZero header.reserved)
  else if header.opCode ≠ expectedOpCode then
    .error (.unexpectedOpCode (some expectedOpCode) header.opCode.code)
  else if header.requestId ≠ expectedRequestId then
    .error (.unexpectedRequestId expectedRequestId header.requestId)
  else
    match expectedSessionId with
    | none => .ok ()
    | some expected =>
      if header.sessionId ≠ expected then
        .error (.unexpectedSessionId (some expected) header.sessionId)
      else
        .ok ()

/-- The header and the body of a response that says `Ok`. -/
def decodeSuccessResponse (payload : Bytes) (expectedOpCode : ClientOperationCode)
    (expectedRequestId : UInt64) (expectedSessionId : Option UInt64) :
    Except ProtocolClientError (ProtocolHeader × Bytes) :=
  match parseHeader payload with
  | .error e => .error e
  | .ok header =>
    match validateResponseHeader header expectedOpCode expectedRequestId expectedSessionId with
    | .error e => .error e
    | .ok () =>
      if header.statusCode ≠ .ok then
        .error (.gatewayStatus header.statusCode)
      else
        .ok (header, payload.drop headerSize)

/-! ## What the server sends -/

/-- **A header of the server reads back**, if its operation is one that the client knows. -/
theorem parseHeader_encodeHeader {h : Header} (hf : h.Fits) {op : ClientOperationCode}
    (hop : h.opCode = op.code) (hversion : h.protocolVersion = protocolVersion)
    (hlen : h.headerLen = headerLen)
    (body : Bytes) :
    parseHeader (encodeHeader h ++ body) = .ok {
      protocolVersion := 2
      headerLen := 24
      opCode := op
      flags := h.flags
      statusCode := .fromU16 (.ofNat h.statusCode)
      reserved := .ofNat h.reserved
      requestId := .ofNat h.requestID
      sessionId := .ofNat h.sessionID } := by
  have hreq : (putUint64 h.requestID ++ (putUint64 h.sessionID ++ body)).take 8 =
      putUint64 h.requestID := List.take_left' (Server.length_putUint64 _)
  have hses : ((putUint64 h.requestID ++ (putUint64 h.sessionID ++ body)).drop 8).take 8 =
      putUint64 h.sessionID := by
    rw [List.drop_left' (Server.length_putUint64 _)]
    exact List.take_left' (Server.length_putUint64 _)
  show parseHeader (_ :: _ :: _ :: _ :: _ :: _ :: _ :: _ ::
    (putUint64 h.requestID ++ (putUint64 h.sessionID ++ body))) = _
  rw [parseHeader, if_neg (by simp; omega), if_neg (not_not.mpr hversion),
    if_neg (not_not.mpr hlen), hop, ClientOperationCode.fromU8_code, hreq, hses,
    Server.uint64_putUint64 hf.requestID, Server.uint64_putUint64 hf.sessionID,
    Server.uint16_putUint16 hf.statusCode, Server.uint16_putUint16 hf.reserved, hversion, hlen]
  rfl

/-- **What a response of the server decodes to**: its body, or its status and nothing else. -/
theorem decodeSuccessResponse_buildResponse {req : Header} {op : ClientOperationCode}
    {requestId sessionId : UInt64} {status : Nat} (hop : req.opCode = op.code)
    (hreq : req.requestID = requestId.toNat) (hses : req.sessionID = sessionId.toNat)
    (hstatus : status < 2 ^ 16) {expectedSessionId : Option UInt64}
    (hexpected : ∀ expected ∈ expectedSessionId, expected = sessionId) (body : Bytes) :
    decodeSuccessResponse (Server.buildResponse req status body) op requestId expectedSessionId =
      if status = 0 then
        .ok ({
          protocolVersion := 2
          headerLen := 24
          opCode := op
          flags := flagResponse
          statusCode := .ok
          reserved := 0
          requestId
          sessionId }, body)
      else
        .error (.gatewayStatus (.fromU16 (.ofNat status))) := by
  have hparse : parseHeader (Server.buildResponse req status body) = .ok {
      protocolVersion := 2
      headerLen := 24
      opCode := op
      flags := flagResponse
      statusCode := .fromU16 (.ofNat status)
      reserved := 0
      requestId
      sessionId } := by
    have hfits : Header.Fits {
        opCode := req.opCode
        flags := Server.flagResponse
        statusCode := status
        requestID := req.requestID
        sessionID := req.sessionID } :=
      ⟨hstatus, Nat.two_pow_pos 16, hreq ▸ requestId.toNat_lt, hses ▸ sessionId.toNat_lt⟩
    refine (parseHeader_encodeHeader hfits hop rfl rfl body).trans ?_
    rw [hreq, hses, UInt64.ofNat_toNat, UInt64.ofNat_toNat]
    rfl
  have hvalid : ∀ header : ProtocolHeader, header.flags = flagResponse → header.reserved = 0 →
      header.opCode = op → header.requestId = requestId → header.sessionId = sessionId →
        validateResponseHeader header op requestId expectedSessionId = .ok () := by
    intro header hflags hreserved hop' hreq' hses'
    unfold validateResponseHeader
    rw [if_neg (not_not.mpr hflags), if_neg (not_not.mpr hreserved), if_neg (not_not.mpr hop'),
      if_neg (not_not.mpr hreq')]
    cases expectedSessionId with
    | none => rfl
    | some expected => exact if_neg (not_not.mpr (hses'.trans (hexpected expected rfl).symm))
  unfold decodeSuccessResponse
  rw [hparse]
  dsimp only
  rw [hvalid _ rfl rfl rfl rfl rfl]
  dsimp only
  by_cases hzero : status = 0
  · subst hzero
    rw [if_pos rfl]
    rfl
  · rw [if_neg hzero, if_pos]
    rw [Ne, ProtocolStatusCode.fromU16_eq_ok]
    intro h
    have hnat := congrArg UInt16.toNat h
    rw [UInt16.toNat_ofNat_of_lt' hstatus] at hnat
    exact hzero hnat

/-- A response that says `Ok` decodes to its body. -/
theorem decodeSuccessResponse_buildSuccessResponse {req : Header} {op : ClientOperationCode}
    {requestId sessionId : UInt64} (hop : req.opCode = op.code)
    (hreq : req.requestID = requestId.toNat) (hses : req.sessionID = sessionId.toNat)
    {expectedSessionId : Option UInt64}
    (hexpected : ∀ expected ∈ expectedSessionId, expected = sessionId) (body : Bytes) :
    ∃ header, header.sessionId = sessionId ∧
      decodeSuccessResponse (Server.buildSuccessResponse req body) op requestId expectedSessionId =
        .ok (header, body) :=
  ⟨_, rfl, (decodeSuccessResponse_buildResponse hop hreq hses (Nat.two_pow_pos 16) hexpected
    body).trans (if_pos rfl)⟩

/-! ## What the server reads -/

theorem uint16_lt (hi lo : UInt8) : uint16 hi lo < 2 ^ 16 := by
  have hhi := hi.toNat_lt
  have hlo := lo.toNat_lt
  unfold uint16
  omega

end YumeDisk.Client
