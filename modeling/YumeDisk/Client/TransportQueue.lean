import YumeDisk.Client.Callers
import YumeDisk.Lib.Reach

/-!
# Requests over the bounded queue (`gateway_connection.rs`, `transport_client.rs`)

A `GatewayConnection` sends through the outbound queue of its `TransportClient`, which one writer
thread empties into the socket and one reader thread fills from the other side.  Every blocking
point is a step of its own here: the `send` into the queue, the socket write, the `recv` of a caller
and of the receive loop, and the stages of `close` and `handle_disconnect`.

* `TransportClient`: the queues, the two threads and the stream.
* `SendCall`, `Closer`: where a caller and where a thread that closes the connection is.
* `GatewayConnection.step`; `LinkAction.ofPeer`: the steps that the other side decides.
* `GatewayConnection.own`: the steps of this side alone.
-/

namespace YumeDisk.Client

open Lib (Bytes)

def outboundQueueCapacity : Nat := 64

inductive WriterCommand
  | payload (payload : Bytes)
  | close
deriving DecidableEq, Repr

/-- The thread of `spawn_writer_loop`. -/
inductive WriterLoop
  /-- In `outgoing_rx.recv`. -/
  | receiving
  /-- In `write_frame`. -/
  | writing (payload : Bytes)
  | exited
deriving DecidableEq, Repr

/-- What the reader and the writer report; an error is as `map_transport_error` returns it. -/
abbrev InboundEvent := Except NetworkClientError Bytes

structure TransportClient where
  /-- `TransportState::Connected`. -/
  connected : Bool := true
  /-- The outbound queue. -/
  outgoing : List WriterCommand := []
  writer : WriterLoop := .receiving
  /-- The thread of `spawn_reader_loop` is in its loop. -/
  reading : Bool := true
  incoming : List InboundEvent := []
  /-- `stream.shutdown` has succeeded. -/
  shutdown : Bool := false
  /-- The other side has reset the stream. -/
  broken : Bool := false

/-- Where a call of `send_request_and_wait` or `send_session_close_notice` is. -/
inductive SendStage
  /-- Before the entry in `pending_requests`. -/
  | registering
  /-- Before `connected_state`. -/
  | connecting
  /-- In `outgoing_tx.send`, with the `ConnectedTransport`. -/
  | sending
  /-- Before `take_pending_request`. -/
  | failing (error : NetworkClientError)
  /-- In `recv`. -/
  | waiting
  | returned (result : Except NetworkClientError Bytes)

structure SendCall where
  payload : Bytes
  /-- The id and the operation of a request; a notice has none. -/
  request : Option (UInt64 × ClientOperationCode)
  stage : SendStage

/-- Where a thread in `close` or in `handle_disconnect` is. -/
inductive Closer
  /-- In `transport.close` before the state is replaced; `error` is that of `handle_disconnect`,
  and `none` in `close`. -/
  | closing (error : Option NetworkClientError)
  /-- In `outgoing_tx.send` of the close command. -/
  | sendingClose (error : Option NetworkClientError)
  /-- Before `stream.shutdown`. -/
  | shuttingDown (error : Option NetworkClientError)
  /-- In `handle_disconnect` before `compare_exchange`. -/
  | starting (error : NetworkClientError)
  /-- Before `fail_all_pending`; the handler has been called. -/
  | failing (error : NetworkClientError)
  /-- Before `reset_lifecycle`. -/
  | resetting
  | finished
deriving DecidableEq, Repr

/-- The thread of `start_receive_loop`. -/
inductive ReceiveLoop
  /-- Before `connected_state`. -/
  | polling
  /-- In `incoming_rx.recv`, with the `ConnectedTransport`. -/
  | receiving
  /-- In `handle_disconnect`, or done. -/
  | left
deriving DecidableEq, Repr

/-- A frame that the receive loop has dispatched. -/
structure SeenFrame where
  payload : Bytes
  /-- The entry of the request that it answers, when it is flagged as a response. -/
  asked : Option PendingRequest

/-- What the callers and the receive loop share. -/
structure Requests where
  pending : List PendingRequest := []
  calls : List SendCall := []
  /-- The channel of each call, filled at most once. -/
  mail : Nat → Option (Except NetworkClientError Bytes) := fun _ => none
  /-- The frames that have been dispatched. -/
  seen : List SeenFrame := []
  /-- The errors of `fail_all_pending`. -/
  failedWith : List NetworkClientError := []

structure GatewayConnection where
  transport : TransportClient := {}
  requests : Requests := {}
  closers : List Closer := []
  receiveLoop : ReceiveLoop := .polling
  /-- Of `handle_disconnect`. -/
  disconnect : DisconnectStage := .notStarted

inductive LinkAction
  /-- `send_request_and_wait`. -/
  | sendRequest (payload : Bytes)
  /-- `send_session_close_notice`. -/
  | sendNotice (notice : SessionCloseNotice)
  /-- The next section of a call. -/
  | call (c : Nat)
  /-- `recv_timeout` of the heartbeat has run out. -/
  | timeout (c : Nat)
  | close
  /-- The heartbeat thread disconnects. -/
  | handleDisconnect (error : NetworkClientError)
  /-- The next section of a thread that closes; `shut` tells whether `stream.shutdown` succeeds. -/
  | closer (k : Nat) (shut : Bool)
  /-- The receive loop goes on. -/
  | receive
  /-- The writer takes the next command. -/
  | take
  /-- The socket has accepted the frame. -/
  | written
  /-- `write_frame` fails on a stream that is shut down or reset. -/
  | writeFails (error : NetworkClientError)
  /-- All the senders are gone. -/
  | writerLeaves
  /-- A frame has arrived. -/
  | arrives (payload : Bytes)
  /-- The other side ends the stream, or sends no frame. -/
  | readEnds (error : NetworkClientError)
  /-- `read_frame_into` fails on a stream that is shut down or reset. -/
  | readFails (error : NetworkClientError)
  /-- The other side resets the stream. -/
  | reset

/-- The steps that the other side decides. -/
def LinkAction.ofPeer : LinkAction → Bool
  | .written | .arrives _ | .readEnds _ | .reset => true
  | _ => false

namespace TransportClient

/-- The stream can be neither read nor written. -/
def dead (t : TransportClient) : Bool := t.shutdown || t.broken

end TransportClient

def SendStage.isSending : SendStage → Bool
  | .sending => true
  | _ => false

def SendStage.isReturned : SendStage → Bool
  | .returned _ => true
  | _ => false

def Closer.isSending : Closer → Bool
  | .sendingClose _ => true
  | _ => false

/-- The thread has the `ConnectedTransport`. -/
def Closer.holds : Closer → Bool
  | .sendingClose _ | .shuttingDown _ => true
  | _ => false

/-! ## Requests -/

namespace Requests

variable (r : Requests)

def setStage (c : Nat) (call : SendCall) (stage : SendStage) : Requests :=
  { r with calls := r.calls.set c { call with stage } }

/-- The receiver of the call's channel is there. -/
def listening (c : Nat) : Bool := r.calls[c]?.any fun call => !call.stage.isReturned

/-- `response_tx.send`. -/
def respond (c : Nat) (result : Except NetworkClientError Bytes) : Requests :=
  if r.listening c then { r with mail := Function.update r.mail c (some result) } else r

/-- `send_request` up to `transport.send_payload`. -/
def register (c : Nat) (call : SendCall) : Requests :=
  match call.request with
  | none => r.setStage c call .connecting
  | some (requestId, opCode) =>
    if r.pending.any (·.requestId = requestId) then
      r.setStage c call (.returned (.error (.pendingRequestConflict requestId)))
    else
      { r.setStage c call .connecting with pending := ⟨requestId, opCode, c⟩ :: r.pending }

/-- `take_pending_request`, and the call returns. -/
def failCall (c : Nat) (call : SendCall) (error : NetworkClientError) : Requests :=
  { r.setStage c call (.returned (.error error)) with
    pending := r.pending.filter fun p => call.request.all (·.1 ≠ p.requestId) }

/-- `recv`: the channel is closed when no entry is left for it. -/
def recv (c : Nat) (call : SendCall) : Option Requests :=
  match r.mail c with
  | some result => some (r.setStage c call (.returned result))
  | none =>
    if r.pending.any (·.caller = c) then none
    else some (r.setStage c call (.returned (.error .sessionUnavailable)))

/-- The entry that a response answers. -/
def asked (payload : Bytes) : Option PendingRequest :=
  match parseHeader payload with
  | .error _ => none
  | .ok header =>
    if header.isResponse then r.pending.find? (·.requestId = header.requestId) else none

/-- What a response to the request brings its caller. -/
def answer (header : ProtocolHeader) (p : PendingRequest) (payload : Bytes) :
    Except NetworkClientError Bytes :=
  if header.opCode ≠ p.opCode then
    .error (.protocol (.unexpectedOpCode (some p.opCode) header.opCode.code))
  else
    .ok payload

def dispatchResponse (payload : Bytes) : Except NetworkClientError Requests :=
  match parseHeader payload with
  | .error e => .error (.protocol e)
  | .ok header =>
    if header.opCode = .sessionCloseNotice then
      match SessionCloseNotice.decodeNotice payload with
      | .error e => .error (.protocol e)
      | .ok _ => .ok r
    else if header.opCode = .sessionDataChangedNotice then
      match SessionDataChangedNotice.decodeNotice payload with
      | .error e => .error (.protocol e)
      | .ok _ => .ok r
    else if !header.isResponse then
      .error (.protocol (.unexpectedFlags flagResponse header.flags))
    else
      match r.pending.find? (·.requestId = header.requestId) with
      | none => .error (.unknownPendingRequest header.requestId)
      | some p =>
        .ok { r.respond p.caller (answer header p payload) with
          pending := r.pending.filter (·.requestId ≠ header.requestId) }

/-- The requests after a frame has been dispatched. -/
def see (payload : Bytes) : Requests :=
  { (r.dispatchResponse payload).toOption.getD r with
    seen := ⟨payload, r.asked payload⟩ :: r.seen }

def failAllPending (error : NetworkClientError) : Requests :=
  { r.pending.foldl (fun r p => r.respond p.caller (.error error)) r with
    pending := []
    failedWith := error :: r.failedWith }

end Requests

/-! ## Steps -/

namespace GatewayConnection

variable (s : GatewayConnection)

def setRequests (requests : Requests) : GatewayConnection := { s with requests }

def setTransport (transport : TransportClient) : GatewayConnection := { s with transport }

def setCloser (k : Nat) (closer : Closer) : GatewayConnection :=
  { s with closers := s.closers.set k closer }

/-- `send_payload` up to `outgoing_tx.send`. -/
def connectedState (call : SendCall) : SendStage :=
  match validatePayloadSize call.payload.length with
  | .error _ => .failing (.transport s!"payload-out-of-range: {call.payload.length}")
  | .ok () => if s.transport.connected then .sending else .failing .sessionUnavailable

/-- `outgoing_tx.send`: it fails when the writer is gone, and blocks while the queue is full. -/
def sendPayload (c : Nat) (call : SendCall) : Option GatewayConnection :=
  if s.transport.writer = .exited then
    some { s with
      requests := s.requests.setStage c call (.failing .sessionUnavailable)
      transport := { s.transport with connected := false } }
  else if s.transport.outgoing.length < outboundQueueCapacity then
    some { s with
      requests := s.requests.setStage c call
        (if call.request.isSome then .waiting else .returned (.ok []))
      transport := { s.transport with
        outgoing := s.transport.outgoing ++ [.payload call.payload] } }
  else
    none

def stepCall (c : Nat) (call : SendCall) : Option GatewayConnection :=
  match call.stage with
  | .registering => some (s.setRequests (s.requests.register c call))
  | .connecting => some (s.setRequests (s.requests.setStage c call (s.connectedState call)))
  | .sending => s.sendPayload c call
  | .failing error => some (s.setRequests (s.requests.failCall c call error))
  | .waiting => (s.requests.recv c call).map s.setRequests
  | .returned _ => none

/-- The receive loop calls `handle_disconnect`. -/
def leaveLoop (error : NetworkClientError) : GatewayConnection :=
  { s with receiveLoop := .left, closers := s.closers ++ [.starting error] }

/-- `dispatch_response` of the next frame. -/
def dispatch (payload : Bytes) : GatewayConnection :=
  let s' := s.setRequests (s.requests.see payload)
  match s.requests.dispatchResponse payload with
  | .ok _ => { s' with receiveLoop := .polling }
  | .error error => s'.leaveLoop error

/-- `recv_payload` with what the receive loop does next. -/
def stepReceive : Option GatewayConnection :=
  match s.receiveLoop with
  | .polling =>
    some (if s.transport.connected then { s with receiveLoop := .receiving }
      else s.leaveLoop .sessionUnavailable)
  | .receiving =>
    match s.transport.incoming with
    | [] =>
      if s.transport.reading ∨ s.transport.writer ≠ .exited then none
      else some ((s.setTransport { s.transport with connected := false }).leaveLoop
        .sessionUnavailable)
    | .error error :: incoming =>
      some ((s.setTransport { s.transport with connected := false, incoming }).leaveLoop error)
    | .ok payload :: incoming =>
      some ((s.setTransport { s.transport with incoming }).dispatch payload)
  | .left => none

/-! ## Disconnecting -/

/-- What follows `transport.close`. -/
def afterClose : Option NetworkClientError → Closer
  | none => .starting .sessionUnavailable
  | some error => .failing error

def stepCloser (k : Nat) (shut : Bool) : Closer → Option GatewayConnection
  | .closing error =>
    some (if s.transport.connected then
      { s.setCloser k (.sendingClose error) with
        transport := { s.transport with connected := false } }
    else
      s.setCloser k (afterClose error))
  | .sendingClose error =>
    if s.transport.writer = .exited then
      some (s.setCloser k (.shuttingDown error))
    else if s.transport.outgoing.length < outboundQueueCapacity then
      some { s.setCloser k (.shuttingDown error) with
        transport := { s.transport with outgoing := s.transport.outgoing ++ [.close] } }
    else
      none
  | .shuttingDown error =>
    if shut then
      some { s.setCloser k (afterClose error) with
        transport := { s.transport with shutdown := true } }
    else if s.transport.broken then
      -- `close` returns the error; `handle_disconnect` goes on
      some (s.setCloser k (error.elim .finished .failing))
    else
      none
  | .starting error =>
    some (if s.disconnect = .notStarted then
      { s.setCloser k (.closing (some error)) with disconnect := .closed }
    else
      s.setCloser k .finished)
  | .failing error =>
    some { (s.setRequests (s.requests.failAllPending error)).setCloser k .resetting with
      disconnect := .swept }
  | .resetting => some { s.setCloser k .finished with disconnect := .done }
  | .finished => none

/-! ## The threads of the transport -/

/-- Some thread has the `ConnectedTransport`. -/
def isHeld : Bool :=
  s.transport.connected || s.requests.calls.any (·.stage.isSending) ||
    s.closers.any Closer.holds || s.receiveLoop = .receiving

def stepTake : Option GatewayConnection :=
  match s.transport.writer, s.transport.outgoing with
  | .receiving, .payload payload :: outgoing =>
    some (s.setTransport { s.transport with writer := .writing payload, outgoing })
  | .receiving, .close :: outgoing =>
    some (s.setTransport { s.transport with writer := .exited, outgoing })
  | _, _ => none

def stepWriter (failure : Option NetworkClientError) : Option GatewayConnection :=
  match s.transport.writer with
  | .writing _ =>
    match failure with
    | none => some (s.setTransport { s.transport with writer := .receiving })
    | some error =>
      if s.transport.dead then
        some (s.setTransport { s.transport with
          writer := .exited, incoming := s.transport.incoming ++ [.error error] })
      else
        none
  | _ => none

/-- What the reader sends on; it leaves after an error, and when nobody listens. -/
def stepReader (event : InboundEvent) : Option GatewayConnection :=
  if s.transport.reading then
    some (s.setTransport { s.transport with
      incoming := s.transport.incoming ++ [event]
      reading := event.toBool && s.isHeld })
  else
    none

/-- A new call. -/
def enter (payload : Bytes) (request : Option (UInt64 × ClientOperationCode)) : GatewayConnection :=
  s.setRequests { s.requests with
    calls := s.requests.calls ++ [⟨payload, request, .registering⟩] }

/-- `recv_timeout` of the heartbeat. -/
def stepTimeout (c : Nat) (call : SendCall) : Option GatewayConnection :=
  match call.stage, call.request, s.requests.mail c with
  | .waiting, some (_, .connHeartbeat), none =>
    some (s.setRequests (s.requests.setStage c call (.returned (.error .sessionUnavailable))))
  | _, _, _ => none

def step (s : GatewayConnection) : LinkAction → Option GatewayConnection
  | .sendRequest payload =>
    some (match parseRequestHeader payload with
      | .error _ => s
      | .ok header => s.enter payload (some (header.requestId, header.opCode)))
  | .sendNotice notice =>
    some (match notice.encodeNotice with
      | .error _ => s
      | .ok payload => s.enter payload none)
  | .call c => s.requests.calls[c]?.bind fun call => s.stepCall c call
  | .timeout c => s.requests.calls[c]?.bind fun call => s.stepTimeout c call
  | .close => some { s with closers := s.closers ++ [.closing none] }
  | .handleDisconnect error => some { s with closers := s.closers ++ [.starting error] }
  | .closer k shut => s.closers[k]?.bind fun closer => s.stepCloser k shut closer
  | .receive => s.stepReceive
  | .take => s.stepTake
  | .written => if s.transport.dead then none else s.stepWriter none
  | .writeFails error => s.stepWriter (some error)
  | .writerLeaves =>
    if s.transport.writer = .receiving ∧ s.transport.outgoing = [] ∧ s.isHeld = false then
      some (s.setTransport { s.transport with writer := .exited })
    else
      none
  | .arrives payload => s.stepReader (.ok payload)
  | .readEnds error => s.stepReader (.error error)
  | .readFails error => if s.transport.dead then s.stepReader (.error error) else none
  | .reset => some (s.setTransport { s.transport with broken := true })

/-- The steps of this side alone; `stream.shutdown` fails if it may. -/
def own (s : GatewayConnection) (a : LinkAction) : Option GatewayConnection :=
  match a with
  | .closer _ shut => if shut = !s.transport.broken then s.step a else none
  | a => if a.ofPeer then none else s.step a

end GatewayConnection

end YumeDisk.Client
