import YumeDisk.Server.SessionPlane
import YumeDisk.Server.WholeMode

/-!
# The payloads of a client (`gateway/client/handler.go`, `gateway/runtime.go`)

A payload of a client goes through `HandlePayload` to the handler of its operation, which `Plane`
has; what the handler returns goes back as one payload, and what `Plane` emits as notices.

* `ClientHandler.handlePayload`: the routing of a payload, and what is answered at once.
* `SessionProxy.roundTrip`: the storer that the round trip of a session leads to.
* `ClientHandler.step`: a payload, a round trip, or a step of `Plane`.
-/

namespace YumeDisk.Server

open YumeDisk.Lib
open WholeMode (FileHandle LocalAdapter DataPlane Service Reply)

def opAuthStart : UInt8 := 0x01

def opAuthFinish : UInt8 := 0x02

def opConnHeartbeat : UInt8 := 0x12

def Status.code : Status → Nat
  | .ok => statusOK
  | .badHeader => statusBadHeader
  | .badBody => statusBadBody
  | .invalidRequest => statusInvalidRequest
  | .authFailed => statusAuthFailed
  | .authExpired => 0x1102
  | .authChallengeInvalid => 0x1103
  | .authIDInvalid => 0x1104
  | .authIDExpired => 0x1105
  | .sessionUnavailable => statusSessionUnavailable
  | .sessionOpenRejected => statusSessionOpenRejected
  | .ioOutOfRange => statusIOOutOfRange
  | .ioLarge => statusIOLarge
  | .ioReadOnly => statusIOReadOnly
  | .ioFailed => statusIOFailed

/-- The status that a storer's reply carries; no reply of `RoundTrip` has another code. -/
def Status.ofCode (code : Nat) : Option Status :=
  [.ok, .badHeader, .badBody, .sessionUnavailable, .sessionOpenRejected, .ioOutOfRange, .ioLarge,
    .ioReadOnly, .ioFailed].find? fun status : Status => status.code = code

theorem Status.code_lt (status : Status) : status.code < 2 ^ 16 := by
  cases status <;> decide

theorem Status.code_eq_zero {status : Status} : status.code = 0 ↔ status = .ok := by
  cases status <;> decide

/-- The payload of a response of a handler; an error echoes the session of its request. -/
def Response.encode (r : Response) (header : Header) : Bytes :=
  buildResponseWithSessionID header r.status.code
    (if r.status = .ok then r.sessionID else header.sessionID) r.body

def buildNotice (opCode : UInt8) (sessionID : Nat) (body : Bytes) : Bytes :=
  encodeHeader { opCode, flags := flagNotice, requestID := 0, sessionID } ++ body

/-- `none` is `ErrSessionBody`; only the length of a notice's body plays a part. -/
def parseSessionCloseNoticeBody : Bytes → Option Nat
  | [hi, lo] => some (uint16 hi lo)
  | _ => none

/-- A `RouteSessionProxy`, as a round trip finds it. -/
inductive SessionProxy (F : Type) where
  | localAdapter (b : LocalAdapter F)
  | dataPlane (p : DataPlane F)

namespace SessionProxy

variable {F : Type}

/-- `RoundTrip`; an error is `SessionUnavailable` to `handleProxyRoundTrip`. -/
def roundTrip (zstd : Zstd) (handle : FileHandle F) (routeConnectionID sessionID : UInt64)
    (opCode : UInt8) (body : Bytes) : SessionProxy F → Reply
  | localAdapter b => (b.roundTrip zstd handle routeConnectionID sessionID opCode body).1
  | dataPlane p => (p.roundTrip zstd handle routeConnectionID sessionID opCode body).1

/-- The service at the end of a route. -/
def service (routeConnectionID : UInt64) : SessionProxy F → Option (Service F)
  | localAdapter b => b.exportsByRoute routeConnectionID
  | dataPlane p => (p.links routeConnectionID).map (·.peer.sessions)

end SessionProxy

/-! ## The handler -/

def ProxyOp.code : ProxyOp → UInt8
  | .describe => opSessionDescribe
  | .readAt => opReadAt
  | .writeAt => opWriteAt

/-- A request whose handler has not returned. -/
structure Serving where
  payload : Bytes
  header : Header
deriving DecidableEq, Repr

structure Exchange where
  conn : Nat
  request : Bytes
  response : Bytes
deriving DecidableEq, Repr

structure ClientHandler where
  plane : Plane := {}
  /-- By client connection. -/
  serving : Nat → Option Serving := fun _ => none
  /-- The newest first. -/
  sent : List Exchange := []
  /-- The client connection and the payload, the newest first. -/
  notices : List (Nat × Bytes) := []

inductive HandlerAction (F : Type) where
  /-- A payload of client `c`; `salt` is what `rand.Read` gives. -/
  | payload (c : Nat) (payload : Bytes) (salt : Vector UInt8 16)
  /-- The storers, as the round trip of client `c` finds them. -/
  | roundTrip (c : Nat) (proxy : SessionProxy F)
  /-- Any other step. -/
  | plane (a : PlaneAction)
  /-- `NotifyRouteSessionDataChanged`, from a link or from the storer in this process. -/
  | dataChanged (routeConnectionID upstreamSessionID : Nat)

/-- What a payload or a round trip does. -/
def PlaneAction.fromPayload : PlaneAction → Bool
  | .gateway (.request ..) | .request .. | .closeNotice .. | .reply .. => true
  | _ => false

/-- The client whose handler takes the step. -/
def PlaneAction.client : PlaneAction → Option Nat
  | .gateway (.handler c) | .gateway (.upstream c _) | .advance c | .lost c | .noticeFails c => some c
  | _ => none

namespace ClientHandler

section Requests

variable (cfg : GatewayConfig) (s : ClientHandler) (c : Nat)

def send (payload response : Bytes) : ClientHandler :=
  { s with
    serving := Function.update s.serving c none
    sent := ⟨c, payload, response⟩ :: s.sent }

/-- The response of client `c`, if its handler has returned one. -/
def finish : ClientHandler :=
  match s.serving c, s.plane.gateway.clients c with
  | some serving, some cl =>
    if !cl.connected then
      -- the handler has returned an error
      { s with serving := Function.update s.serving c none }
    else if cl.stage = .idle ∧ s.plane.proxy c = none then
      match s.plane.gateway.log with
      | .responded _ response :: _ => s.send c serving.payload (response.encode serving.header)
      | _ => s
    else
      s
  | _, _ => s

/-- A request that a handler of `Plane` serves. -/
def serve (payload : Bytes) (header : Header) (a : PlaneAction) : Option ClientHandler :=
  (s.plane.step cfg a).map fun plane =>
    { s with plane, serving := Function.update s.serving c (some { payload, header }) }.finish c

def handleConnHeartbeat (payload : Bytes) (header : Header) : ClientHandler :=
  if header.sessionID ≠ 0 then
    s.send c payload (buildErrorResponse header statusBadHeader)
  else if (payload.drop headerSize).length ≠ 0 then
    s.send c payload (buildErrorResponse header statusBadBody)
  else
    s.send c payload (buildSuccessResponse header [])

/-- A payload that has no response. -/
def handleNotice (a : PlaneAction) : Option ClientHandler :=
  (s.plane.step cfg a).map fun plane => { s with plane }

def handlePayload (payload : Bytes) (salt : Vector UInt8 16) : Option ClientHandler :=
  match parseHeader payload with
  | none => s.handleNotice cfg (.gateway (.endClient c))
  | some header =>
    let body := payload.drop headerSize
    if header.flags = flagNotice then
      if !validateNoticeHeader header then
        s.handleNotice cfg (.gateway (.endClient c))
      else if header.opCode = opSessionCloseNotice then
        s.handleNotice cfg (.closeNotice c header.sessionID body)
      else
        s.handleNotice cfg (.gateway (.endClient c))
    else if !validateRequestHeader header then
      some (s.send c payload (buildErrorResponse header statusBadHeader))
    else if header.opCode = opAuthStart then
      s.serve cfg c payload header
        (.gateway (.request c (.authStart header.sessionID body salt.toList)))
    else if header.opCode = opAuthFinish then
      s.serve cfg c payload header (.gateway (.request c (.authFinish header.sessionID body)))
    else if header.opCode = opSessionOpen then
      s.serve cfg c payload header (.gateway (.request c (.sessionOpen header.sessionID body)))
    else if header.opCode = opSessionDescribe then
      s.serve cfg c payload header (.request c .describe header.sessionID body)
    else if header.opCode = opConnHeartbeat then
      some (s.handleConnHeartbeat c payload header)
    else if header.opCode = opReadAt then
      s.serve cfg c payload header (.request c .readAt header.sessionID body)
    else if header.opCode = opWriteAt then
      s.serve cfg c payload header (.request c .writeAt header.sessionID body)
    else
      some (s.send c payload (buildErrorResponse header statusUnsupportedOp))

end Requests

/-! ## Notices -/

section Notices

variable (s : ClientHandler)

/-- The frame of the notice that `emitSessionClosed` has come to, if its client is there. -/
def writeCloseNotice : ClientHandler :=
  match s.plane.notices with
  | notice :: _ =>
    if notice.written then
      { s with notices := (notice.clientConnectionID,
          buildNotice opSessionCloseNotice notice.sessionID notice.body) :: s.notices }
    else
      s
  | [] => s

def notifyRouteSessionDataChanged (routeConnectionID upstreamSessionID : Nat) : ClientHandler :=
  match s.plane.gateway.sessions.lookupRouteSession routeConnectionID upstreamSessionID with
  | none => s
  | some record =>
    if (s.plane.gateway.clients record.clientConnectionID).any Client.connected then
      { s with notices := (record.clientConnectionID,
          buildNotice opSessionDataChangedNotice record.id []) :: s.notices }
    else
      s

end Notices

/-- The step of `Plane`, and what it sends. -/
def stepPlane (cfg : GatewayConfig) (s : ClientHandler) (a : PlaneAction) : Option ClientHandler :=
  (s.plane.step cfg a).map fun plane =>
    match a with
    | .emit _ => { s with plane }.writeCloseNotice
    | a =>
      match a.client with
      | some c => { s with plane }.finish c
      | none => { s with plane }

variable {F : Type}

def step (cfg : GatewayConfig) (zstd : Zstd) (handle : FileHandle F) (s : ClientHandler) :
    HandlerAction F → Option ClientHandler
  | .payload c payload salt =>
    match s.plane.gateway.clients c, s.serving c, s.plane.proxy c with
    | some cl, none, none =>
      if cl.stage = .idle then s.handlePayload cfg c payload salt else none
    | _, _, _ => none
  | .roundTrip c proxy =>
    match s.plane.proxy c with
    | some (.upstream op body record) =>
      let (code, body) := proxy.roundTrip zstd handle (.ofNat record.routeConnectionID)
        (.ofNat record.upstreamSessionID) op.code body
      (Status.ofCode code).bind fun status =>
        (s.plane.step cfg (.reply c status body)).map fun plane => { s with plane }.finish c
    | _ => none
  | .plane a => if a.fromPayload then none else s.stepPlane cfg a
  | .dataChanged route upstream => some (s.notifyRouteSessionDataChanged route upstream)

end ClientHandler

end YumeDisk.Server
