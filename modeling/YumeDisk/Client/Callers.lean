import YumeDisk.Client.FrameStream
import YumeDisk.Client.Lifecycle
import YumeDisk.Lib.Run

/-!
# The callers of a connection (`connection_authenticator.rs`, `session_opener.rs`, `disk_session.rs`)

Any number of threads call `authenticate`, `open` and the data plane on one `GatewayConnection`,
while its receive thread dispatches what comes in and a thread may disconnect it.

* `Call`: where a call is; each step of a call is one section under a mutex.
* `Connection.dispatchResponse`: what the receive thread does with a payload.
* `Connection.ensureUsable`, `Connection.closeSession`: a `DiskSession`.
* `Connection.step`.
-/

namespace YumeDisk.Client

open Lib (Bytes)
open Server (Zstd)

/-- Where `send_request_and_wait` is. -/
inductive Mailbox
  | unsent
  | waiting
  | received (result : Except NetworkClientError Bytes)

/-- Where a call is. -/
inductive Call
  /-- `authenticate` before `begin_auth`. -/
  | authEntered (material : ClaimCodeMaterial)
  /-- In the exchange of `AuthStart`. -/
  | authStart (material : ClaimCodeMaterial) (requestId : UInt64) (mail : Mailbox)
  /-- In the exchange of `AuthFinish`. -/
  | authFinish (material : ClaimCodeMaterial) (finish : AuthFinishRequest) (requestId : UInt64)
      (mail : Mailbox)
  /-- Before `fail_auth`. -/
  | authFailing
  /-- Before `finish_auth`. -/
  | authFinishing (grant : AuthGrant)
  /-- Before `register_auth_grant`. -/
  | authRegistering (grant : AuthGrant)
  /-- `open` before `begin_session_open`. -/
  | openEntered (grant : AuthGrant)
  | openStart (grant : AuthGrant) (requestId : UInt64) (mail : Mailbox)
  /-- Before `fail_session_open`; `discard` tells whether `discard_auth_grant` is next. -/
  | openFailing (grant : AuthGrant) (discard : Bool)
  /-- Before `finish_session_open`. -/
  | openFinishing (grant : AuthGrant) (sessionId : UInt64)
  /-- Before `consume_auth_grant` or `discard_auth_grant`. -/
  | openConsuming (grant : AuthGrant)
  /-- A describe, a read, a write or a heartbeat. -/
  | request (other : ClientRequest) (requestId : UInt64) (mail : Mailbox)

/-- `response_tx.send`: the response of request `id` reaches its caller. -/
def Call.deliver (id : UInt64) (result : Except NetworkClientError Bytes) : Call → Call
  | .authStart material requestId .waiting =>
    .authStart material requestId (if requestId = id then .received result else .waiting)
  | .authFinish material finish requestId .waiting =>
    .authFinish material finish requestId (if requestId = id then .received result else .waiting)
  | .openStart grant requestId .waiting =>
    .openStart grant requestId (if requestId = id then .received result else .waiting)
  | .request other requestId .waiting =>
    .request other requestId (if requestId = id then .received result else .waiting)
  | call => call

structure PendingRequest where
  requestId : UInt64
  opCode : ClientOperationCode
  /-- The thread at the other end of the channel. -/
  caller : Nat

/-- A `DiskSession` with its clones, which share its lifecycle. -/
structure DiskSession where
  sessionId : UInt64
  closed : Bool := false
  terminalError : Option NetworkClientError := none

/-- How far `handle_disconnect` is. -/
inductive DisconnectStage
  | notStarted
  | closed
  | swept
  | done
deriving DecidableEq, Repr

structure Connection where
  nextRequestId : UInt64 := 1
  /-- `transport.is_connected`. -/
  connected : Bool := true
  receiving : Bool := true
  disconnect : DisconnectStage := .notStarted
  lifecycle : ConnectionLifecycle := {}
  pendingRequests : List PendingRequest := []
  /-- By thread. -/
  calls : Nat → Option Call := fun _ => none
  diskSessions : List DiskSession := []
  /-- The sessions whose close notice has been dispatched. -/
  noticed : List UInt64 := []

/-! ## Errors -/

def mapAuthFinishError (diskId : Bytes) : ProtocolClientError → NetworkClientError
  | .gatewayStatus .errAuthFailed => .unauthorizedDisk diskId
  | .gatewayStatus .errInvalidRequest => .invalidState "auth_finish"
  | other => .protocol other

def mapSessionOpenError (diskId : Bytes) : ProtocolClientError → NetworkClientError
  | .gatewayStatus .errAuthIdInvalid | .gatewayStatus .errAuthIdExpired => .unauthorizedDisk diskId
  | .gatewayStatus .errInvalidRequest => .invalidState "session_open"
  | .gatewayStatus .errSessionOpenRejected => .openRejected
  | other => .protocol other

def shouldDiscardAuthGrant : NetworkClientError → Bool
  | .unauthorizedDisk _ | .sessionUnavailable => true
  | _ => false

def mapDataPlaneError : ProtocolClientError → NetworkClientError
  | .gatewayStatus .errSessionUnavailable => .sessionUnavailable
  | .gatewayStatus .errIoOutOfRange => .invalidIo "out_of_range"
  | .gatewayStatus .errIoTooLarge => .invalidIo "too_large"
  | .gatewayStatus .errIoReadOnly => .invalidIo "read_only"
  | .gatewayStatus .errIoFailed => .ioFailed
  | other => .protocol other

namespace Connection

variable (s : Connection)

def setCall (t : Nat) (call : Call) : Connection :=
  { s with calls := Function.update s.calls t (some call) }

/-- The call returns. -/
def ret (t : Nat) : Connection := { s with calls := Function.update s.calls t none }

/-- `fetch_add`, until the id is not 0. -/
def allocateRequestId : UInt64 × Connection :=
  if s.nextRequestId = 0 then
    (1, { s with nextRequestId := 2 })
  else
    (s.nextRequestId, { s with nextRequestId := s.nextRequestId + 1 })

/-! ## Requests -/

def takePendingRequest (id : UInt64) : Option PendingRequest × Connection :=
  (s.pendingRequests.find? fun p => p.requestId = id,
    { s with pendingRequests := s.pendingRequests.filter fun p => p.requestId ≠ id })

/-- `response_tx.send` of a request that has been taken. -/
def respond (pending : PendingRequest) (result : Except NetworkClientError Bytes) : Connection :=
  let call := (s.calls pending.caller).map (Call.deliver pending.requestId result)
  { s with calls := Function.update s.calls pending.caller call }

/-- `transport.send_payload` with `map_transport_error`; `writing` tells whether the writer thread
is there. -/
def sendPayload (payload : Bytes) (writing : Bool) :
    Except NetworkClientError Unit × Connection :=
  if payload.length < minFramePayloadBytes ∨ maxFramePayloadBytes < payload.length then
    (.error (.transport s!"payload-out-of-range: {payload.length}"), s)
  else if !s.connected then
    (.error .sessionUnavailable, s)
  else if !writing then
    (.error .sessionUnavailable, { s with connected := false })
  else
    (.ok (), s)

/-- `send_request`; its error comes back to the caller at once. -/
def sendRequest (t : Nat) (id : UInt64) (op : ClientOperationCode) (payload : Bytes)
    (writing : Bool) : Mailbox × Connection :=
  if s.pendingRequests.any (·.requestId = id) then
    (.received (.error (.pendingRequestConflict id)), s)
  else
    match s.sendPayload payload writing with
    | (.error e, s) => (.received (.error e), s)
    | (.ok (), s) =>
      (.waiting, { s with pendingRequests := ⟨id, op, t⟩ :: s.pendingRequests })

def failAllPending (error : NetworkClientError) : Connection :=
  { s.pendingRequests.foldl (fun s pending => s.respond pending (.error error)) s with
    pendingRequests := [] }

/-! ## The receive thread -/

def closeNotice (notice : SessionCloseNotice) : Connection :=
  { s with
    lifecycle := s.lifecycle.clearSession notice.sessionId
    noticed := notice.sessionId :: s.noticed }

def dispatchResponse (payload : Bytes) : Except NetworkClientError Connection :=
  match parseHeader payload with
  | .error e => .error (.protocol e)
  | .ok header =>
    if header.opCode = .sessionCloseNotice then
      match SessionCloseNotice.decodeNotice payload with
      | .error e => .error (.protocol e)
      | .ok notice => .ok (s.closeNotice notice)
    else if header.opCode = .sessionDataChangedNotice then
      match SessionDataChangedNotice.decodeNotice payload with
      | .error e => .error (.protocol e)
      | .ok _ => .ok s
    else if header.flags ≠ flagResponse then
      .error (.protocol (.unexpectedFlags flagResponse header.flags))
    else
      match s.takePendingRequest header.requestId with
      | (none, _) => .error (.unknownPendingRequest header.requestId)
      | (some pending, s) =>
        if header.opCode ≠ pending.opCode then
          .ok (s.respond pending (.error (.protocol
            (.unexpectedOpCode (some pending.opCode) header.opCode.code))))
        else
          .ok (s.respond pending (.ok payload))

/-! ## Disk sessions -/

/-- The answer of `ensure_usable`. -/
def ensureUsable (d : DiskSession) : Except NetworkClientError Unit :=
  if d.closed then
    .error .sessionUnavailable
  else
    match d.terminalError with
    | some error => .error error
    | none =>
      if !s.connected || !s.lifecycle.isSessionActive d.sessionId then
        .error .sessionUnavailable
      else
        .ok ()

def markTerminal (i : Nat) (d : DiskSession) (error : NetworkClientError) : Connection :=
  { s with
    diskSessions := s.diskSessions.set i
      { d with closed := true, terminalError := some (d.terminalError.getD error) }
    lifecycle := s.lifecycle.clearSession d.sessionId }

/-- `ensure_usable` with its effect. -/
def useSession (i : Nat) (d : DiskSession) : Connection :=
  match s.ensureUsable d with
  | .ok () => s
  | .error error =>
    if d.closed || d.terminalError.isSome then s else s.markTerminal i d error

/-- `mark_closed`. -/
def markClosed (i : Nat) (d : DiskSession) : Connection :=
  { s with
    diskSessions := s.diskSessions.set i { d with closed := true }
    lifecycle := s.lifecycle.clearSession d.sessionId }

/-- `DiskSession::close` from `mark_closed` on; `close` has called `ensure_usable` before. -/
def closeSession (i : Nat) (d : DiskSession) : Connection :=
  if d.closed then s else s.markClosed i d

/-- `map_request_error` of a read or a write. -/
def requestError (i : Nat) (d : DiskSession) (error : ProtocolClientError) : Connection :=
  if mapDataPlaneError error = .sessionUnavailable then
    s.markTerminal i d .sessionUnavailable
  else
    s

def newSession (sessionId : UInt64) : Except NetworkClientError Connection :=
  if sessionId = 0 then
    .error (.invalidArgument "session_id")
  else if !s.lifecycle.isSessionActive sessionId then
    .error (.invalidState "session_id")
  else
    .ok { s with diskSessions := s.diskSessions ++ [{ sessionId }] }

/-! ## Calls -/

/-- A section of a call under the `lifecycle` mutex, with what the call does up to the next one. -/
def lockedSection (t : Nat) : Call → Option Connection
  | .authEntered material =>
    match s.lifecycle.beginAuth with
    | .error _ => some (s.ret t)
    | .ok lifecycle =>
      let (id, s) := { s with lifecycle }.allocateRequestId
      some (s.setCall t (.authStart material id .unsent))
  | .authFailing => some ({ s with lifecycle := s.lifecycle.failAuth }.ret t)
  | .authFinishing grant =>
    match s.lifecycle.finishAuth with
    | .error _ => some (s.setCall t .authFailing)
    | .ok lifecycle => some ({ s with lifecycle }.setCall t (.authRegistering grant))
  | .authRegistering grant =>
    some ({ s with lifecycle := s.lifecycle.registerAuthGrant grant }.ret t)
  | .openEntered grant =>
    match s.lifecycle.beginSessionOpen with
    | .error _ => some (s.ret t)
    | .ok lifecycle =>
      let (id, s) := { s with lifecycle }.allocateRequestId
      some (s.setCall t (.openStart grant id .unsent))
  | .openFailing grant discard =>
    let s := { s with lifecycle := s.lifecycle.failSessionOpen }
    some (if discard then s.setCall t (.openConsuming grant) else s.ret t)
  | .openFinishing grant sessionId =>
    match s.lifecycle.finishSessionOpen sessionId with
    | .error _ => some (s.setCall t (.openFailing grant false))
    | .ok lifecycle => some ({ s with lifecycle }.setCall t (.openConsuming grant))
  | .openConsuming grant =>
    some ({ s with lifecycle := s.lifecycle.consumeAuthGrant grant.authId }.ret t)
  | _ => none

/-- A call sends its request.  A request that cannot be encoded ends the call at once, or fails
it. -/
def send (zstd : Zstd) (t : Nat) (writing : Bool) : Call → Option Connection
  | .authStart material id .unsent =>
    match (AuthStartRequest.mk material.diskId).encodeRequest id with
    | .error _ => some (s.ret t)
    | .ok payload =>
      let (mail, s) := s.sendRequest t id .authStart payload writing
      some (s.setCall t (.authStart material id mail))
  | .authFinish material request id .unsent =>
    match request.encodeRequest id with
    | .error _ => some (s.setCall t .authFailing)
    | .ok payload =>
      let (mail, s) := s.sendRequest t id .authFinish payload writing
      some (s.setCall t (.authFinish material request id mail))
  | .openStart grant id .unsent =>
    match (SessionOpenRequest.mk grant.authId).encodeRequest id with
    | .error _ => some (s.ret t)
    | .ok payload =>
      let (mail, s) := s.sendRequest t id .sessionOpen payload writing
      some (s.setCall t (.openStart grant id mail))
  | .request request id .unsent =>
    match request.encodeRequest zstd id with
    | .error _ => some (s.ret t)
    | .ok payload =>
      let (mail, s) := s.sendRequest t id request.opCode payload writing
      some (s.setCall t (.request request id mail))
  | _ => none

/-- A call has the response of its request; `proof` is what `hmac_sha512` returns. -/
def receive (t : Nat) (proof : Except NetworkClientError (Vector UInt8 64)) :
    Call → Option Connection
  | .authStart _ _ (.received (.error _)) => some (s.setCall t .authFailing)
  | .authStart material id (.received (.ok payload)) =>
    match AuthStartResponse.decodeResponse payload id, proof with
    | .error _, _ | _, .error _ => some (s.setCall t .authFailing)
    | .ok response, .ok proof =>
      let (id, s) := s.allocateRequestId
      some (s.setCall t (.authFinish material ⟨response.challengeToken, proof⟩ id .unsent))
  | .authFinish _ _ _ (.received (.error _)) => some (s.setCall t .authFailing)
  | .authFinish material _ id (.received (.ok payload)) =>
    match (AuthFinishRequest.decodeResponse payload id).mapError
        (mapAuthFinishError material.diskId) with
    | .error _ => some (s.setCall t .authFailing)
    | .ok authId =>
      match AuthGrant.new material.diskId authId with
      | .error _ => some (s.setCall t .authFailing)
      | .ok grant => some (s.setCall t (.authFinishing grant))
  | .openStart grant _ (.received (.error _)) => some (s.setCall t (.openFailing grant false))
  | .openStart grant id (.received (.ok payload)) =>
    match (SessionOpenResponse.decodeResponse payload id).mapError
        (mapSessionOpenError grant.diskId) with
    | .error error => some (s.setCall t (.openFailing grant (shouldDiscardAuthGrant error)))
    | .ok sessionId => some (s.setCall t (.openFinishing grant sessionId))
  | .request _ _ (.received _) => some (s.ret t)
  | _ => none

end Connection

inductive ConnectionAction
  /-- `authenticate`; `sha512` is what `crypto_win32::sha512` returns. -/
  | authenticate (t : Nat) (claimCode : Bytes)
      (sha512 : Except NetworkClientError (Vector UInt8 64))
  | openSession (t : Nat) (grant : AuthGrant)
  /-- A describe, a read, a write or a heartbeat. -/
  | request (t : Nat) (request : ClientRequest)
  | lockedSection (t : Nat)
  /-- `writing` tells whether the writer thread is there. -/
  | send (t : Nat) (writing : Bool)
  | receive (t : Nat) (proof : Except NetworkClientError (Vector UInt8 64))
  /-- `recv_timeout` of the heartbeat has run out. -/
  | timeout (t : Nat)
  | dispatch (payload : Bytes)
  /-- The transport is closed, or marked as disconnected. -/
  | transportDown
  /-- `handle_disconnect` up to `transport.close`. -/
  | handleDisconnect
  | failAllPending (error : NetworkClientError)
  | resetLifecycle
  | newSession (sessionId : UInt64)
  | useSession (i : Nat)
  | closeSession (i : Nat)
  | requestError (i : Nat) (error : ProtocolClientError)
  | discardAuthGrant (authId : UInt64)

namespace Connection

def step (zstd : Zstd) (s : Connection) : ConnectionAction → Option Connection
  | .authenticate t claimCode sha512 =>
    match s.calls t, parseClaimCode claimCode sha512 with
    | none, .ok material => some (s.setCall t (.authEntered material))
    | none, .error _ => some s
    | some _, _ => none
  | .openSession t grant =>
    if (s.calls t).isNone then some (s.setCall t (.openEntered grant)) else none
  | .request t request =>
    if (s.calls t).isNone ∧ request.opCode ≠ .authStart ∧ request.opCode ≠ .authFinish ∧
        request.opCode ≠ .sessionOpen then
      let (id, s) := s.allocateRequestId
      some (s.setCall t (.request request id .unsent))
    else
      none
  | .lockedSection t => (s.calls t).bind fun call => s.lockedSection t call
  | .send t writing => (s.calls t).bind fun call => s.send zstd t writing call
  | .receive t proof => (s.calls t).bind fun call => s.receive t proof call
  | .timeout t =>
    match s.calls t with
    | some (.request .connHeartbeat _ .waiting) => some (s.ret t)
    | _ => none
  | .dispatch payload =>
    if s.receiving then
      match s.dispatchResponse payload with
      | .ok s => some s
      | .error _ => some { s with receiving := false }
    else
      none
  | .transportDown => some { s with connected := false }
  | .handleDisconnect =>
    if s.disconnect = .notStarted then
      some { s with disconnect := .closed, connected := false }
    else
      none
  | .failAllPending error =>
    if s.disconnect = .closed then
      some { s.failAllPending error with disconnect := .swept }
    else
      none
  | .resetLifecycle =>
    if s.disconnect = .swept then
      some { s with disconnect := .done, lifecycle := .reset }
    else
      none
  | .newSession sessionId => (s.newSession sessionId).toOption
  | .useSession i => s.diskSessions[i]?.map fun d => s.useSession i d
  | .closeSession i => s.diskSessions[i]?.map fun d => s.closeSession i d
  | .requestError i error => s.diskSessions[i]?.map fun d => s.requestError i d error
  | .discardAuthGrant authId => some { s with lifecycle := s.lifecycle.consumeAuthGrant authId }

end Connection

end YumeDisk.Client
