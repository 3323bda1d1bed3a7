import YumeDisk.Client.Messages
import YumeDisk.Server.HandlerRuns

/-!
# The messages of the client and of the gateway agree

* `Recovered`: the gateway reads a request of the client as it was meant.
* `Answered`: what the client makes of the response is what the gateway has put into it.
* `messages_agree`: both, in every run of the gateway whose steps meet `HandlerGuard`.
* `emptyDisk_hidden`: the response that says how large an empty disk is does not decode.
-/

namespace YumeDisk.Client

open Lib (Bytes slice runFrom StepsMeet)
open Server (Zstd Header putUint16 putUint32 putUint64 uint16 uint64 SuccessBody ClientHandler
  HandlerAction GatewayConfig)

/-! ## Requests -/

/-- The body of a request, as its handler parses it. -/
def BodyParsed (server : Zstd) (body : Bytes) : ClientRequest → Prop
  | .authStart r => Server.parseAuthStartRequestBody body = some r.diskId
  | .authFinish r =>
    Server.parseAuthFinishRequestBody body = some (r.challengeToken, r.proof.toList)
  | .sessionOpen r => Server.parseSessionOpenRequestBody body = some r.authId.toNat
  | .sessionDescribe _ | .connHeartbeat => body = []
  | .readAt r => Server.parseReadBody body = some (r.offset.toNat, r.length.toNat)
  | .writeAt r =>
    Server.parseReadWriteBody server body = some (r.offset.toNat, r.data.length, r.data)

/-- **A request is recovered** from its payload. -/
def Recovered (server : Zstd) (req : ClientRequest) (requestId : UInt64) (payload : Bytes) : Prop :=
  ∃ header, Server.parseHeader payload = some header ∧
    Server.validateRequestHeader header = true ∧ header.opCode = req.opCode.code ∧
      header.requestID = requestId.toNat ∧ header.sessionID = req.sessionId.toNat ∧
        BodyParsed server (payload.drop Server.headerSize) req

theorem parse_encodeRequest {zstd : Zstd} {req : ClientRequest} {requestId : UInt64}
    {payload : Bytes} (h : req.encodeRequest zstd requestId = .ok payload) :
    Server.parseHeader payload = some (requestHeader req.opCode requestId req.sessionId).toServer ∧
      payload.drop Server.headerSize = req.body zstd := by
  obtain ⟨-, -, rfl⟩ := ClientRequest.encodeRequest_ok h
  exact ⟨ProtocolHeader.parseHeader_encode _ _, ProtocolHeader.drop_encode _ _⟩

theorem validate_requestHeader (op : ClientOperationCode) {requestId : UInt64} (h : requestId ≠ 0)
    (sessionId : UInt64) :
    Server.validateRequestHeader (requestHeader op requestId sessionId).toServer = true := by
  have hnat : requestId.toNat ≠ 0 := fun hzero => h (UInt64.toNat_inj.mp hzero)
  simp [Server.validateRequestHeader, Server.validateCommonHeader, requestHeader,
    ProtocolHeader.toServer, hnat]
  exact ⟨⟨rfl, rfl⟩, rfl⟩

/-- The two sides call the same bytes alphanumeric. -/
theorem isAlphaNumeric_eq (b : Bytes) :
    Server.isAlphaNumericASCII b = b.all isAsciiAlphanumeric := by
  unfold Server.isAlphaNumericASCII
  congr 1
  funext c
  unfold isAsciiAlphanumeric
  rw [Bool.or_assoc, Bool.or_comm]

theorem parse_readBody (offset : UInt64) (length : UInt32) :
    Server.parseReadBody (putUint64 offset.toNat ++ putUint32 length.toNat) =
      some (offset.toNat, length.toNat) := by
  have hoffset : slice (putUint64 offset.toNat ++ putUint32 length.toNat) 0 8 =
    putUint64 offset.toNat := List.take_left' (Server.length_putUint64 _)
  have hlength : slice (putUint64 offset.toNat ++ putUint32 length.toNat) 8 4 =
    putUint32 length.toNat := rfl
  unfold Server.parseReadBody
  rw [if_neg (fun hlen => hlen rfl), hoffset, hlength, Server.uint64_putUint64 offset.toNat_lt,
    Server.uint32_putUint32 length.toNat_lt]

theorem body_parsed {client server : Zstd} (hclient : client.Sound)
    (hagree : ∀ payload, client.decodeAll payload = server.decodeAll payload)
    {req : ClientRequest} (h : req.Accepted) : BodyParsed server (req.body client) req := by
  cases req with
  | authStart r =>
    refine if_pos ⟨h.1, ?_⟩
    rw [isAlphaNumeric_eq]
    exact h.2
  | authFinish r =>
    exact Server.parse_buildAuthFinishRequestBody h.1 (Nat.lt_succ_of_le h.2) Vector.length_toList
  | sessionOpen r =>
    have hnat : r.authId.toNat ≠ 0 := fun hzero => h (UInt64.toNat_inj.mp hzero)
    show Server.parseSessionOpenRequestBody (putUint64 r.authId.toNat) = _
    unfold Server.parseSessionOpenRequestBody
    rw [Server.uint64_putUint64 r.authId.toNat_lt, if_neg]
    exact not_or.mpr ⟨fun hlen => hlen rfl, hnat⟩
  | sessionDescribe r => rfl
  | readAt r => exact parse_readBody r.offset r.length
  | writeAt r =>
    -- the client has written and the server reads
    have hmixed : Zstd.Sound { encodeAll := client.encodeAll, decodeAll := server.decodeAll } :=
      ⟨fun level data encoded h => (hagree encoded).symm.trans (hclient.decode_encode _ _ _ h)⟩
    exact Server.parse_buildWriteRequestBody hmixed r.offset.toNat_lt h.2.1 h.2.2
  | connHeartbeat => rfl

/-- **Every request that the client encodes is recovered.** -/
theorem recovered_encodeRequest {client server : Zstd} (hclient : client.Sound)
    (hagree : ∀ payload, client.decodeAll payload = server.decodeAll payload)
    {req : ClientRequest} {requestId : UInt64} {payload : Bytes}
    (h : req.encodeRequest client requestId = .ok payload) :
    Recovered server req requestId payload := by
  obtain ⟨hzero, haccepted, -⟩ := ClientRequest.encodeRequest_ok h
  obtain ⟨hparse, hbody⟩ := parse_encodeRequest h
  refine ⟨_, hparse, validate_requestHeader _ hzero _, rfl, rfl, rfl, ?_⟩
  rw [hbody]
  exact body_parsed hclient hagree haccepted

/-! ## Responses -/

/-- What the body of a response that says `OK` carries, in the client's words. -/
inductive Carries (server : Zstd) (sessionID : Nat) : Bytes → ClientResponse → Prop
  | authStart (salt token : Bytes) : Carries server sessionID
      (Server.buildAuthStartResponseBody 30 salt token) (.authStart ⟨1, 30, salt, token⟩)
  | authFinish (authId : UInt64) :
      Carries server sessionID (putUint64 authId.toNat) (.authFinish authId)
  | sessionOpen : Carries server sessionID [] (.sessionOpen (.ofNat sessionID))
  | sessionDescribe (size : UInt64) (readOnly : Bool) (backendID : Vector UInt8 16) :
      Carries server sessionID (Server.buildSessionDescribeResponseBody size.toNat readOnly backendID)
        (.sessionDescribe ⟨.ofNat sessionID, size, readOnly, backendID.toList⟩)
  | readAt (data : Bytes) :
      Carries server sessionID (Server.buildReadResponseBody server data) (.readAt data)
  | writeAt : Carries server sessionID [] .writeAt
  | connHeartbeat : Carries server sessionID [] .connHeartbeat

/-- **A response is understood**: it decodes to the status that the gateway has set, or to what the
gateway has put into it. -/
def Answered (server client : Zstd) (req : ClientRequest) (requestId : UInt64) (response : Bytes) :
    Prop :=
  ∃ status sessionID body, response = Server.buildResponseWithSessionID
      (requestHeader req.opCode requestId req.sessionId).toServer status sessionID body ∧
    (status ≠ 0 ∧ status < 2 ^ 16 ∧ req.decodeResponse client requestId response =
        .error (.gatewayStatus (.fromU16 (.ofNat status))) ∨
      status = 0 ∧ ∃ r, Carries server sessionID body r ∧
        req.decodeResponse client requestId response = .ok r)

/-- A response of the gateway, up to its body. -/
theorem decodeSuccessResponse_built (op : ClientOperationCode) (requestId sessionId : UInt64)
    {status session : Nat} (hstatus : status < 2 ^ 16) (hsession : session < 2 ^ 64)
    {expectedSessionId : Option UInt64}
    (hexpected : ∀ expected ∈ expectedSessionId, expected = .ofNat session) (body : Bytes) :
    decodeSuccessResponse (Server.buildResponseWithSessionID
      (requestHeader op requestId sessionId).toServer status session body) op requestId
        expectedSessionId =
      if status = 0 then
        .ok ({
          protocolVersion := 2
          headerLen := 24
          opCode := op
          flags := flagResponse
          statusCode := .ok
          reserved := 0
          requestId
          sessionId := .ofNat session }, body)
      else
        .error (.gatewayStatus (.fromU16 (.ofNat status))) :=
  @decodeSuccessResponse_buildResponse
    { (requestHeader op requestId sessionId).toServer with sessionID := session } op requestId
    (.ofNat session) status rfl rfl (UInt64.toNat_ofNat_of_lt' hsession).symm hstatus
    expectedSessionId hexpected body

theorem bind_error {ε α β : Type} {x : Except ε α} {f : α → Except ε β} {e : ε}
    (h : x = .error e) : (x >>= f) = .error e := by
  rw [h]
  rfl

theorem mem_ofNat (sessionId : UInt64) :
    ∀ expected ∈ some sessionId, expected = UInt64.ofNat sessionId.toNat := by
  intro expected h
  rw [← Option.some.inj h, UInt64.ofNat_toNat]

/-- **An error of the gateway is what the client sees**, whatever the operation. -/
theorem decodeResponse_error {zstd : Zstd} {req : ClientRequest} {requestId : UInt64}
    {status : Nat} (hstatus : status < 2 ^ 16) (hne : status ≠ 0) (body : Bytes) :
    req.decodeResponse zstd requestId (Server.buildResponseWithSessionID
      (requestHeader req.opCode requestId req.sessionId).toServer status req.sessionId.toNat body) =
      .error (.gatewayStatus (.fromU16 (.ofNat status))) := by
  have hdecode := fun expected hexpected => (@decodeSuccessResponse_built req.opCode requestId
    req.sessionId _ _ hstatus req.sessionId.toNat_lt expected hexpected body).trans (if_neg hne)
  have hsome := mem_ofNat req.sessionId
  cases req with
  | authStart r => exact congrArg (Except.map _) (bind_error (hdecode _ hsome))
  | authFinish r => exact congrArg (Except.map _) (bind_error (hdecode _ hsome))
  | sessionOpen r => exact congrArg (Except.map _) (bind_error (hdecode _ fun _ h => by cases h))
  | sessionDescribe r => exact congrArg (Except.map _) (bind_error (hdecode _ hsome))
  | readAt r => exact congrArg (Except.map _) (bind_error (hdecode _ hsome))
  | writeAt r => exact congrArg (Except.map _) (bind_error (hdecode _ hsome))
  | connHeartbeat => exact congrArg (Except.map _) (bind_error (hdecode _ hsome))

/-- A number of 64 bits that is not 0. -/
theorem exists_uint64 {n : Nat} (hpos : 0 < n) (hmax : n < 2 ^ 64) :
    ∃ m : UInt64, m.toNat = n ∧ m ≠ 0 := by
  have hnat : (UInt64.ofNat n).toNat = n := UInt64.toNat_ofNat_of_lt' hmax
  refine ⟨.ofNat n, hnat, fun hzero => ?_⟩
  rw [hzero] at hnat
  exact absurd hnat.symm (Nat.ne_of_gt hpos)

/-- The header and the body of a response that says `OK`. -/
theorem decodeSuccessResponse_ok (op : ClientOperationCode) (requestId sessionId : UInt64)
    {session : Nat} (hsession : session < 2 ^ 64) {expectedSessionId : Option UInt64}
    (hexpected : ∀ expected ∈ expectedSessionId, expected = .ofNat session) (body : Bytes) :
    ∃ header, header.sessionId = .ofNat session ∧ decodeSuccessResponse
      (Server.buildResponseWithSessionID (requestHeader op requestId sessionId).toServer 0 session
        body) op requestId expectedSessionId = .ok (header, body) :=
  ⟨_, rfl, (decodeSuccessResponse_built op requestId sessionId (Nat.two_pow_pos 16) hsession
    hexpected body).trans (if_pos rfl)⟩

theorem decodeAuthStartResponseBody_build {salt token : Bytes} (hsalt : salt.length = 16)
    (hpos : 1 ≤ token.length) (hmax : token.length < 65536) :
    decodeAuthStartResponseBody (Server.buildAuthStartResponseBody 30 salt token) =
      .ok ⟨1, 30, salt, token⟩ := by
  have hbody : Server.buildAuthStartResponseBody 30 salt token =
      1 :: 0 :: 30 :: (salt ++ (putUint16 token.length ++ token)) := rfl
  have hlen : (Server.buildAuthStartResponseBody 30 salt token).length = 21 + token.length := by
    rw [hbody]
    simp only [List.length_cons, List.length_append, hsalt]
    show 16 + (2 + token.length) + 1 + 1 + 1 = 21 + token.length
    omega
  have hfield : slice (Server.buildAuthStartResponseBody 30 salt token) 19 2 =
      putUint16 token.length := by
    have happend : Server.buildAuthStartResponseBody 30 salt token =
        (1 :: 0 :: 30 :: salt) ++ (putUint16 token.length ++ token) := rfl
    rw [happend]
    exact Lib.slice_append_mid (by simp [hsalt]) rfl
  have hdrop : (Server.buildAuthStartResponseBody 30 salt token).drop 21 = token := by
    have happend : Server.buildAuthStartResponseBody 30 salt token =
        (1 :: 0 :: 30 :: (salt ++ putUint16 token.length)) ++ token := by
      simp [hbody]
    rw [happend]
    exact List.drop_left' (by simp [hsalt, putUint16])
  have htake : (salt ++ (putUint16 token.length ++ token)).take 16 = salt := List.take_left' hsalt
  have hnat : uint64 (putUint16 token.length) = token.length := by
    simp only [uint64, putUint16, List.foldl, UInt8.toNat_ofNat']
    omega
  rw [hbody, decodeAuthStartResponseBody, ← hbody]
  dsimp only
  rw [if_neg (by omega), if_neg (by decide), if_neg (by decide), hfield, hnat, htake, hdrop,
    if_neg (by show ¬ token.length < 1; omega), if_neg (by omega)]
  rfl

/-- The two fields of a describe response, and the padding between them. -/
theorem describe_slices (size : UInt64) (readOnly : Bool) (backendID : Vector UInt8 16) :
    slice (Server.buildSessionDescribeResponseBody size.toNat readOnly backendID) 0 8 =
        putUint64 size.toNat ∧
      slice (Server.buildSessionDescribeResponseBody size.toNat readOnly backendID) 8 2 =
        putUint16 (if readOnly then 1 else 0) ∧
      slice (Server.buildSessionDescribeResponseBody size.toNat readOnly backendID) 10 2 =
        putUint16 0 ∧
      slice (Server.buildSessionDescribeResponseBody size.toNat readOnly backendID) 12 16 =
        backendID.toList := by
  refine ⟨rfl, rfl, rfl, ?_⟩
  show (backendID.toList).take 16 = backendID.toList
  exact List.take_of_length_le (by rw [Vector.length_toList])

/-- **A disk that is not empty is described.** -/
theorem decode_describe {requestId sessionId : UInt64} {size : UInt64} (hsize : size ≠ 0)
    (readOnly : Bool) (backendID : Vector UInt8 16) :
    SessionDescribeResponse.decodeResponse (Server.buildResponseWithSessionID
      (requestHeader .sessionDescribe requestId sessionId).toServer 0 sessionId.toNat
        (Server.buildSessionDescribeResponseBody size.toNat readOnly backendID)) requestId sessionId =
      .ok ⟨sessionId, size, readOnly, backendID.toList⟩ := by
  obtain ⟨header, -, hdecode⟩ := decodeSuccessResponse_ok .sessionDescribe requestId sessionId
    sessionId.toNat_lt (mem_ofNat sessionId)
    (Server.buildSessionDescribeResponseBody size.toNat readOnly backendID)
  obtain ⟨hsizeField, hflags, hreserved, hbackend⟩ := describe_slices size readOnly backendID
  unfold SessionDescribeResponse.decodeResponse
  rw [hdecode]
  simp only [bind, Except.bind, hsizeField, hflags, hreserved, hbackend,
    Server.length_buildSessionDescribeResponseBody, Server.uint64_putUint64 size.toNat_lt,
    UInt64.ofNat_toNat]
  rw [if_neg (fun h => h rfl), if_neg (by decide), if_neg (by cases readOnly <;> decide),
    if_neg hsize]
  cases readOnly <;> rfl

theorem opCode_injective {op op' : ClientOperationCode} (h : op.code = op'.code) : op = op' := by
  have hboth := congrArg ClientOperationCode.fromU8 h
  rw [ClientOperationCode.fromU8_code, ClientOperationCode.fromU8_code] at hboth
  exact Except.ok.inj hboth

theorem decode_authStart {requestId : UInt64} {salt token : Bytes} (hsalt : salt.length = 16)
    (hpos : 1 ≤ token.length) (hmax : token.length < 65536) :
    AuthStartResponse.decodeResponse (Server.buildResponseWithSessionID
      (requestHeader .authStart requestId 0).toServer 0 0
        (Server.buildAuthStartResponseBody 30 salt token)) requestId = .ok ⟨1, 30, salt, token⟩ := by
  obtain ⟨header, -, hdecode⟩ := decodeSuccessResponse_ok .authStart requestId 0
    (Nat.two_pow_pos 64) (mem_ofNat 0) (Server.buildAuthStartResponseBody 30 salt token)
  unfold AuthStartResponse.decodeResponse
  rw [hdecode]
  exact decodeAuthStartResponseBody_build hsalt hpos hmax

theorem decode_authFinish {requestId authId : UInt64} (h : authId ≠ 0) :
    AuthFinishRequest.decodeResponse (Server.buildResponseWithSessionID
      (requestHeader .authFinish requestId 0).toServer 0 0 (putUint64 authId.toNat)) requestId =
      .ok authId := by
  obtain ⟨header, -, hdecode⟩ := decodeSuccessResponse_ok .authFinish requestId 0
    (Nat.two_pow_pos 64) (mem_ofNat 0) (putUint64 authId.toNat)
  unfold AuthFinishRequest.decodeResponse
  rw [hdecode]
  simp only [bind, Except.bind, Server.uint64_putUint64 authId.toNat_lt, UInt64.ofNat_toNat]
  rw [if_neg (fun hlen => hlen rfl), if_neg h]

theorem decode_sessionOpen {requestId session : UInt64} (h : session ≠ 0) :
    SessionOpenResponse.decodeResponse (Server.buildResponseWithSessionID
      (requestHeader .sessionOpen requestId 0).toServer 0 session.toNat []) requestId =
      .ok session := by
  obtain ⟨header, hid, hdecode⟩ := @decodeSuccessResponse_ok .sessionOpen requestId 0 _
    session.toNat_lt none (fun _ h => by cases h) []
  rw [UInt64.ofNat_toNat] at hid
  unfold SessionOpenResponse.decodeResponse
  rw [hdecode]
  simp only [bind, Except.bind, hid]
  rw [if_neg h, if_neg (fun hnil => hnil rfl)]

theorem decode_readAt {client server : Zstd} (hserver : server.Sound)
    (hagree : ∀ payload, client.decodeAll payload = server.decodeAll payload)
    {requestId sessionId : UInt64} {length : UInt32} {data : Bytes}
    (hlength : length.toNat = data.length) (hpos : length ≠ 0)
    (hmax : length.toNat ≤ maxDataPlaneRawBytes) :
    ReadAtResponse.decodeResponse client (Server.buildResponseWithSessionID
      (requestHeader .readAt requestId sessionId).toServer 0 sessionId.toNat
        (Server.buildReadResponseBody server data)) requestId sessionId length = .ok data := by
  have hzero : length.toNat ≠ 0 := fun hzero => hpos (UInt32.toNat_inj.mp hzero)
  have hparse := @ReadAtResponse.decodeResponse_buildResponse client
    (requestHeader .readAt requestId sessionId).toServer requestId sessionId rfl rfl rfl server
    hagree (Server.buildReadResponseBody server data) length
  rw [hlength] at hparse hzero hmax
  rw [Server.parse_buildReadResponseBody hserver (Nat.pos_of_ne_zero hzero) hmax] at hparse
  exact toOption_eq_some hparse

theorem decode_writeAt (requestId sessionId : UInt64) :
    WriteAtRequest.decodeResponse (Server.buildResponseWithSessionID
      (requestHeader .writeAt requestId sessionId).toServer 0 sessionId.toNat []) requestId
        sessionId = .ok () := by
  obtain ⟨header, -, hdecode⟩ := decodeSuccessResponse_ok .writeAt requestId sessionId
    sessionId.toNat_lt (mem_ofNat sessionId) []
  unfold WriteAtRequest.decodeResponse
  rw [hdecode]
  rfl

theorem decode_connHeartbeat (requestId : UInt64) :
    ConnHeartbeatResponse.decodeResponse (Server.buildResponseWithSessionID
      (requestHeader .connHeartbeat requestId 0).toServer 0 0 []) requestId = .ok () := by
  obtain ⟨header, -, hdecode⟩ := decodeSuccessResponse_ok .connHeartbeat requestId 0
    (Nat.two_pow_pos 64) (mem_ofNat 0) []
  unfold ConnHeartbeatResponse.decodeResponse
  rw [hdecode]
  rfl

/-- **What the gateway has put into a response** is what the client gets out of it. -/
theorem decodeResponse_success {client server : Zstd} (hserver : server.Sound)
    (hagree : ∀ payload, client.decodeAll payload = server.decodeAll payload)
    {req : ClientRequest} {requestId : UInt64} (haccepted : req.Accepted) {session : Nat}
    {body : Bytes} (h : SuccessBody server
      (requestHeader req.opCode requestId req.sessionId).toServer (req.body client) session body) :
    ∃ r, Carries server session body r ∧ req.decodeResponse client requestId
      (Server.buildResponseWithSessionID (requestHeader req.opCode requestId req.sessionId).toServer 0
        session body) = .ok r := by
  cases h with
  | @authStart salt token hop _ hsalt hpos hmax =>
    have hreq := @opCode_injective req.opCode .authStart hop
    cases req with
    | authStart r =>
      exact ⟨_, .authStart salt token, congrArg (Except.map _) (decode_authStart hsalt hpos hmax)⟩
    | _ => cases hreq
  | @authFinish id hop _ hpos hmax =>
    have hreq := @opCode_injective req.opCode .authFinish hop
    obtain ⟨authId, rfl, hne⟩ := exists_uint64 hpos hmax
    cases req with
    | authFinish r =>
      exact ⟨_, .authFinish authId, congrArg (Except.map _) (decode_authFinish hne)⟩
    | _ => cases hreq
  | sessionOpen hop hpos hmax =>
    have hreq := @opCode_injective req.opCode .sessionOpen hop
    obtain ⟨sessionId, rfl, hne⟩ := exists_uint64 hpos hmax
    cases req with
    | sessionOpen r =>
      refine ⟨_, .sessionOpen, (congrArg (Except.map _) (decode_sessionOpen hne)).trans ?_⟩
      rw [UInt64.ofNat_toNat]
      rfl
    | _ => cases hreq
  | @sessionDescribe metadata hop hsize =>
    have hreq := @opCode_injective req.opCode .sessionDescribe hop
    cases req with
    | sessionDescribe r =>
      have hcarries := @Carries.sessionDescribe server r.sessionId.toNat metadata.diskSizeBytes
        metadata.readOnly metadata.backendID
      rw [UInt64.ofNat_toNat] at hcarries
      exact ⟨_, hcarries, congrArg (Except.map _) (decode_describe hsize _ _)⟩
    | _ => cases hreq
  | @readAt offset data hop hread =>
    have hreq := @opCode_injective req.opCode .readAt hop
    cases req with
    | readAt r =>
      obtain ⟨-, hpos, hmax⟩ := haccepted
      have hlength : r.length.toNat = data.length :=
        congrArg Prod.snd (Option.some.inj ((parse_readBody r.offset r.length).symm.trans hread))
      exact ⟨_, .readAt data,
        congrArg (Except.map _) (decode_readAt hserver hagree hlength hpos hmax)⟩
    | _ => cases hreq
  | writeAt hop =>
    have hreq := @opCode_injective req.opCode .writeAt hop
    cases req with
    | writeAt r =>
      exact ⟨_, .writeAt, congrArg (Except.map _) (decode_writeAt requestId r.sessionId)⟩
    | _ => cases hreq
  | connHeartbeat hop _ =>
    have hreq := @opCode_injective req.opCode .connHeartbeat hop
    cases req with
    | connHeartbeat =>
      exact ⟨_, .connHeartbeat, congrArg (Except.map _) (decode_connHeartbeat requestId)⟩
    | _ => cases hreq

/-- **A response that is sound is understood.** -/
theorem answered_of_replied {client server : Zstd} (hserver : server.Sound)
    (hagree : ∀ payload, client.decodeAll payload = server.decodeAll payload)
    {x : Server.Exchange} (hx : x.Replied server) {req : ClientRequest} {requestId : UInt64}
    (h : req.encodeRequest client requestId = .ok x.request) :
    Answered server client req requestId x.response := by
  obtain ⟨-, haccepted, -⟩ := ClientRequest.encodeRequest_ok h
  obtain ⟨hparse, hbody⟩ := parse_encodeRequest h
  obtain ⟨header, status, session, body, hheader, hstatus, hresponse, hcases⟩ := hx
  obtain rfl := Option.some.inj (hparse.symm.trans hheader)
  refine ⟨status, session, body, hresponse, ?_⟩
  rw [hresponse]
  rcases hcases with ⟨hne, hsession⟩ | ⟨rfl, hsuccess⟩
  · refine .inl ⟨hne, hstatus, ?_⟩
    rw [hsession]
    exact decodeResponse_error hstatus hne body
  · rw [hbody] at hsuccess
    exact .inr ⟨rfl, decodeResponse_success hserver hagree haccepted hsuccess⟩

/-! ## Notices -/

/-- **A notice of the client is recovered**; the gateway requires two bytes of its body. -/
def NoticeRecovered (n : SessionCloseNotice) (payload : Bytes) : Prop :=
  ∃ header, Server.parseHeader payload = some header ∧ Server.validateNoticeHeader header = true ∧
    header.opCode = Server.opSessionCloseNotice ∧ header.sessionID = n.sessionId.toNat ∧
      header.sessionID ≠ 0 ∧ Server.parseSessionCloseNoticeBody
        (payload.drop Server.headerSize) = some n.reasonCode.toNat

theorem noticeRecovered_encodeNotice {n : SessionCloseNotice} {payload : Bytes}
    (h : n.encodeNotice = .ok payload) : NoticeRecovered n payload := by
  obtain ⟨_, hid, h⟩ := bind_ok h
  split_ifs at h with hreason
  obtain rfl := Except.ok.inj h
  refine ⟨_, ProtocolHeader.parseHeader_encode _ _, ?_, rfl, rfl, ?_, ?_⟩
  · simp [Server.validateNoticeHeader, Server.validateCommonHeader, noticeHeader,
      ProtocolHeader.toServer]
    decide
  · exact fun hzero => validateNonZeroSessionId_ok hid (UInt64.toNat_inj.mp hzero)
  · rw [show Server.headerSize = headerSize from rfl, ProtocolHeader.drop_encode]
    exact congrArg some (Server.uint16_putUint16 n.reasonCode.toNat_lt)

/-- **A notice of the gateway is understood.** -/
def NoticeDecoded (payload : Bytes) : Prop :=
  (∃ session reason : Nat, payload = Server.buildNotice Server.opSessionCloseNotice session
      (Server.buildSessionCloseNoticeBody reason) ∧ SessionCloseNotice.decodeNotice payload =
        .ok ⟨.ofNat session, .ofNat reason⟩) ∨
    ∃ session : Nat, payload = Server.buildNotice Server.opSessionDataChangedNotice session [] ∧
      SessionDataChangedNotice.decodeNotice payload = .ok ⟨.ofNat session⟩

theorem parseHeader_buildNotice (op : ClientOperationCode) {session : Nat}
    (hmax : session < 2 ^ 64) (body : Bytes) :
    parseHeader (Server.buildNotice op.code session body) =
      .ok (noticeHeader op (.ofNat session)) := by
  refine (parseHeader_encodeHeader ⟨Nat.two_pow_pos 16, Nat.two_pow_pos 16, Nat.two_pow_pos 64, hmax⟩
    rfl rfl rfl body).trans ?_
  rfl

theorem noticeDecoded_of_noticed {payload : Bytes} (h : Server.Noticed payload) :
    NoticeDecoded payload := by
  obtain ⟨session, hpos, hmax, ⟨reason, hreason, rfl⟩ | rfl⟩ := h
  · refine .inl ⟨session, reason, rfl, ?_⟩
    obtain ⟨sessionId, rfl, hne⟩ := exists_uint64 hpos hmax
    have hparse := parseHeader_buildNotice .sessionCloseNotice hmax
      (Server.buildSessionCloseNoticeBody reason)
    have hbody : uint64 (Server.buildSessionCloseNoticeBody reason) = reason := by
      simp only [uint64, Server.buildSessionCloseNoticeBody, putUint16, List.foldl,
        UInt8.toNat_ofNat']
      omega
    have hdrop : (Server.buildNotice Server.opSessionCloseNotice sessionId.toNat
      (Server.buildSessionCloseNoticeBody reason)).drop headerSize =
        Server.buildSessionCloseNoticeBody reason := rfl
    rw [UInt64.ofNat_toNat] at hparse ⊢
    have hvalid : validateNoticeHeader (noticeHeader .sessionCloseNotice sessionId)
        .sessionCloseNotice "session_close_notice_header" = .ok () := by
      simp [validateNoticeHeader, noticeHeader, hne]
    unfold SessionCloseNotice.decodeNotice
    rw [show parseHeader (Server.buildNotice Server.opSessionCloseNotice sessionId.toNat
      (Server.buildSessionCloseNoticeBody reason)) = _ from hparse]
    simp only [bind, Except.bind, hvalid, hdrop, hbody]
    exact if_neg fun hlen => hlen rfl
  · refine .inr ⟨session, rfl, ?_⟩
    obtain ⟨sessionId, rfl, hne⟩ := exists_uint64 hpos hmax
    have hparse := parseHeader_buildNotice .sessionDataChangedNotice hmax []
    rw [UInt64.ofNat_toNat] at hparse ⊢
    have hvalid : validateNoticeHeader (noticeHeader .sessionDataChangedNotice sessionId)
        .sessionDataChangedNotice "session_data_changed_notice_header" = .ok () := by
      simp [validateNoticeHeader, noticeHeader, hne]
    unfold SessionDataChangedNotice.decodeNotice
    rw [show parseHeader (Server.buildNotice Server.opSessionDataChangedNotice sessionId.toNat []) =
      _ from hparse]
    simp only [bind, Except.bind, hvalid]
    exact if_neg fun hnil => hnil rfl

/-! ## Agreement -/

variable {F : Type}

/-- **The client and the gateway agree on their messages**, in every run in which no SessionDescribe
finds its session on an empty disk and no counter of ids wraps: a request is recovered, a response
and a notice are understood. -/
theorem messages_agree (cfg : GatewayConfig) (client server : Zstd)
    (handle : Server.WholeMode.FileHandle F)
    (hmac : ∀ key msg, (cfg.codec.hmac key msg).length = 64) (hclient : client.Sound)
    (hserver : server.Sound)
    (hagree : ∀ payload, client.decodeAll payload = server.decodeAll payload) :
    (∀ (req : ClientRequest) (requestId : UInt64) (payload : Bytes),
      req.encodeRequest client requestId = .ok payload → Recovered server req requestId payload) ∧
    (∀ (n : SessionCloseNotice) (payload : Bytes),
      n.encodeNotice = .ok payload → NoticeRecovered n payload) ∧
    ∀ (as : List (HandlerAction F)) (s : ClientHandler),
      StepsMeet (ClientHandler.step cfg server handle) ClientHandler.HandlerGuard {} as →
      runFrom (ClientHandler.step cfg server handle) {} as = some s →
        (∀ x ∈ s.sent, ∀ (req : ClientRequest) (requestId : UInt64),
          req.encodeRequest client requestId = .ok x.request →
            Answered server client req requestId x.response) ∧
        ∀ n ∈ s.notices, NoticeDecoded n.2 := by
  refine ⟨fun req requestId payload h => recovered_encodeRequest hclient hagree h,
    fun n payload h => noticeRecovered_encodeNotice h, fun as s hG hr => ?_⟩
  have hsound := ClientHandler.sound_run hmac hG hr
  exact ⟨fun x hx req requestId h => answered_of_replied hserver hagree (hsound.sent x hx) h,
    fun n hn => noticeDecoded_of_noticed (hsound.notices n hn)⟩

/-! ## A disk that is empty -/

def plainConfig : GatewayConfig where
  codec := ⟨fun _ _ => List.replicate 64 0, []⟩
  gatewayToken := ""

def plainDisk : Bytes := List.replicate 16 97

def plainSalt : Vector UInt8 16 := .replicate 16 7

/-- An export with one session, of the given size. -/
def plainExport (size : UInt64) : Server.WholeMode.Service Bytes where
  exclusive := false
  manager := {
    nextID := 1
    items := [{ record := { id := 1, connection := 2, metadata := ⟨size, false, .replicate 16 0⟩ } }] }
  storage := { file := none, readOnly := false, size := size.toNat }
  metadata := ⟨size, false, .replicate 16 0⟩

/-- It is in the process of the gateway. -/
def plainProxy (size : UInt64) : Server.SessionProxy Bytes :=
  .localAdapter ⟨fun route => if route = 1 then some (plainExport size) else none⟩

def encoded (req : ClientRequest) (requestId : UInt64) : Bytes :=
  (req.encodeRequest storedZstd requestId).toOption.getD []

def describeSession : ClientRequest := .sessionDescribe ⟨9223372036854775809⟩

/-- The client authenticates, opens the session and describes its disk. -/
def describeRun (size : UInt64) : List (HandlerAction Bytes) :=
  [.plane (.gateway (.acceptStorer "storer")),
    .plane (.gateway (.register 1 ⟨"", plainDisk, []⟩)),
    .plane (.gateway .acceptClient),
    .payload 2 (encoded (.authStart ⟨plainDisk⟩) 1) plainSalt,
    .payload 2 (encoded (.authFinish
      ⟨Server.TokenCodec.body 2 Server.challengeTTL plainDisk plainSalt.toList ++
        List.replicate 64 0, .replicate 64 0⟩) 2) plainSalt,
    .plane (.gateway (.handler 2)), .plane (.gateway (.handler 2)), .plane (.gateway (.handler 2)),
    .payload 2 (encoded (.sessionOpen ⟨1⟩) 3) plainSalt,
    .plane (.gateway (.handler 2)), .plane (.gateway (.handler 2)), .plane (.gateway (.handler 2)),
    .plane (.gateway (.upstream 2 (.ok 1))),
    .plane (.gateway (.handler 2)), .plane (.gateway (.handler 2)),
    .payload 2 (encoded describeSession 4) plainSalt,
    .plane (.advance 2),
    .roundTrip 2 (plainProxy size)]

theorem storedZstd_sound : storedZstd.Sound := ⟨nofun⟩

/-- The exchange that a run has ended with. -/
def lastDecodes (s : ClientHandler) (p : Except ProtocolClientError ClientResponse → Bool) : Bool :=
  s.sent.head?.any fun x =>
    decide (describeSession.encodeRequest storedZstd 4 = .ok x.request) &&
      p (describeSession.decodeResponse storedZstd 4 x.response)

theorem lastDecodes_mem {s : ClientHandler} {p : Except ProtocolClientError ClientResponse → Bool}
    (h : lastDecodes s p = true) : ∃ x ∈ s.sent,
      describeSession.encodeRequest storedZstd 4 = .ok x.request ∧
        p (describeSession.decodeResponse storedZstd 4 x.response) = true := by
  obtain ⟨x, hx, hp⟩ := (Option.any_eq_true _ _).mp h
  rw [Bool.and_eq_true, decide_eq_true_eq] at hp
  exact ⟨x, List.mem_of_mem_head? hx, hp⟩

/-- **The size of an empty disk is refused**: the gateway says `OK`, the client finds fault with the
body. -/
theorem emptyDisk_hidden : ∃ s : ClientHandler,
    runFrom (ClientHandler.step plainConfig storedZstd Server.WholeMode.memoryFile) {}
        (describeRun 0) = some s ∧
      ∃ x ∈ s.sent, describeSession.encodeRequest storedZstd 4 = .ok x.request ∧
        describeSession.decodeResponse storedZstd 4 x.response =
          .error (.invalidBody "disk_size_bytes") ∧
        ¬ Answered storedZstd storedZstd describeSession 4 x.response := by
  obtain ⟨s, hrun, hlast⟩ := Lib.exists_run
    (ClientHandler.step plainConfig storedZstd Server.WholeMode.memoryFile) {} (describeRun 0)
    (fun s => lastDecodes s fun r => decide (r = .error (.invalidBody "disk_size_bytes")))
    (by decide +kernel)
  obtain ⟨x, hx, hencode, hdecode⟩ := lastDecodes_mem hlast
  have hdecode := of_decide_eq_true hdecode
  refine ⟨s, hrun, x, hx, hencode, hdecode, ?_⟩
  rintro ⟨status, session, body, -, ⟨-, -, herror⟩ | ⟨-, r, -, hok⟩⟩
  · cases hdecode.symm.trans herror
  · cases hdecode.symm.trans hok

/-- The same session on a disk of 512 bytes. -/
theorem fullDisk_described : ∃ s : ClientHandler,
    runFrom (ClientHandler.step plainConfig storedZstd Server.WholeMode.memoryFile) {}
        (describeRun 512) = some s ∧
      ∃ x ∈ s.sent, Answered storedZstd storedZstd describeSession 4 x.response := by
  have hmac : ∀ key msg, (plainConfig.codec.hmac key msg).length = 64 :=
    fun _ _ => List.length_replicate
  obtain ⟨s, hrun, hlast⟩ := Lib.exists_run
    (ClientHandler.step plainConfig storedZstd Server.WholeMode.memoryFile) {} (describeRun 512)
    (fun s => lastDecodes s fun _ => true) (by decide +kernel)
  obtain ⟨x, hx, hencode, -⟩ := lastDecodes_mem hlast
  have hguard : StepsMeet (ClientHandler.step plainConfig storedZstd Server.WholeMode.memoryFile)
    ClientHandler.HandlerGuard {} (describeRun 512) := by decide +kernel
  exact ⟨s, hrun, x, hx, ((messages_agree plainConfig storedZstd storedZstd
    Server.WholeMode.memoryFile hmac storedZstd_sound storedZstd_sound fun _ => rfl).2.2 _ s hguard
      hrun).1 x hx describeSession 4 hencode⟩

end YumeDisk.Client
