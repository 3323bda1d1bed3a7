import Mathlib.Logic.Function.Basic
import YumeDisk.Lib.Run
import YumeDisk.Server.Header

/-!
# The link from the gateway to a storer (`gateway/storer/link_runtime.go`, `rpc_client.go`)

* `ServeStage`: where `Serve` and its `serveFrames` are.
* `Caller`: one call of `roundTrip` or `notify`, each with a response channel of its own.
* `StorerLink.step`: the loop, the callers and the connection, in any order.

A section under `pendingMu` is one step, and so is each `Write`; a `Write` fails from when the
connection is closed on.  The request ids are unbounded.  Other links share the routes, so whether a
disk is free is up to the action.

`received` are the bytes that the storer has read, `log` the frames that were written to the end;
`inbound` are the request ids of the responses that were read, and `delivered` which of them each
caller got.
-/

namespace YumeDisk.Server

open YumeDisk.Lib

/-! ## The parties -/

inductive CallKind where
  /-- `roundTrip`. -/
  | request
  /-- `roundTripWithTimeout`. -/
  | heartbeat
  | notice
deriving DecidableEq, Repr

/-- What a call returns. -/
inductive CallResult where
  | response (n : Nat)
  | closed
  | timeout
  | writeError
  | sent
deriving DecidableEq, Repr

inductive CallStage where
  | numbering
  | adding
  | locking
  | header
  | payload
  | unlocking (written : Bool)
  | waiting
  /-- The pending entry is to be deleted. -/
  | forgetting (timedOut : Bool)
  | returned (result : CallResult)
deriving DecidableEq, Repr

/-- `writeMu` is held. -/
def CallStage.critical : CallStage → Bool
  | .header | .payload | .unlocking _ => true
  | _ => false

structure Caller where
  kind : CallKind
  header : Header
  body : Bytes
  stage : CallStage
deriving DecidableEq, Repr

def Caller.payload (c : Caller) : Bytes := encodeHeader c.header ++ c.body

/-- A channel of capacity 1. -/
structure Chan where
  buffer : Option Nat := none
  closed : Bool := false
deriving DecidableEq, Repr

inductive ServeStage where
  | reading
  /-- `registerGate.Handle`. -/
  | registering (header : Header) (body : Bytes)
  | respondHeader (payload : Bytes) (accepted : Bool)
  | respondPayload (payload : Bytes) (accepted : Bool)
  | marking
  /-- `handleResponse` has taken the channel of a caller. -/
  | sending (t n : Nat)
  | closingChan (t : Nat)
  /-- `serveFrames` has returned; the deferred calls of `Serve`. -/
  | closingConn
  | disconnectingRoutes
  | removing
  | sweeping
  | notifying
  | finished
deriving DecidableEq, Repr

inductive Sender where
  | serve (accepted : Bool)
  | call (t : Nat)
deriving DecidableEq, Repr

structure Sent where
  sender : Sender
  payload : Bytes
deriving DecidableEq, Repr

structure StorerLink where
  connOpen : Bool := true
  /-- The connection is in the connection registry. -/
  attached : Bool := true
  /-- A route to this connection has been visible. -/
  routed : Bool := false
  registered : Bool := false
  serve : ServeStage := .reading
  writeMu : Option Nat := none
  nextRequestID : Nat := 0
  /-- Request ids and the callers whose channels they lead to. -/
  pending : List (Nat × Nat) := []
  callers : Nat → Option Caller := fun _ => none
  chans : Nat → Chan := fun _ => {}
  /-- A send on a closed channel, or the close of one. -/
  panicked : Bool := false
  received : Bytes := []
  log : List Sent := []
  inbound : List Nat := []
  delivered : List (Nat × Nat) := []

inductive LinkAction where
  /-- A call on a connection that `Lookup` has found. -/
  | call (t : Nat) (kind : CallKind) (header : Header) (body : Bytes)
  | advance (t : Nat)
  | timeout (t : Nat)
  /-- `serveFrames` reads a frame. -/
  | read (payload : Bytes)
  | readError
  | advanceServe (diskFree : Bool)
  | closeConn
deriving DecidableEq, Repr

namespace StorerLink

def setStage (s : StorerLink) (t : Nat) (c : Caller) (stage : CallStage) : StorerLink :=
  { s with callers := Function.update s.callers t (some { c with stage }) }

theorem setStage_self (s : StorerLink) (t : Nat) (c : Caller) (stage : CallStage) :
    (s.setStage t c stage).callers t = some { c with stage } := Function.update_self ..

theorem setStage_of_ne (s : StorerLink) {t u : Nat} {c : Caller} {stage : CallStage} (h : u ≠ t) :
    (s.setStage t c stage).callers u = s.callers u := Function.update_of_ne h ..

/-! ## Channels -/

/-- `ch <- resp`; `none` when the buffer is full. -/
def send (s : StorerLink) (t n : Nat) : Option StorerLink :=
  if (s.chans t).closed then
    some { s with panicked := true }
  else if (s.chans t).buffer = none then
    some { s with chans := Function.update s.chans t { s.chans t with buffer := some n } }
  else
    none

/-- `close(ch)`. -/
def closeChan (s : StorerLink) (t : Nat) : StorerLink :=
  if (s.chans t).closed then
    { s with panicked := true }
  else
    { s with chans := Function.update s.chans t { s.chans t with closed := true } }

/-- `delete(c.pending, id)`. -/
def deletePending (s : StorerLink) (requestID : Nat) : StorerLink :=
  { s with pending := s.pending.filter fun p => p.1 ≠ requestID }

/-- `closePending`. -/
def closePending (s : StorerLink) : StorerLink :=
  s.pending.foldl (fun s p => s.closeChan p.2) { s with pending := [] }

/-! ## Callers -/

/-- The heartbeat has the connection; the others look up what a route leads to. -/
def canCall (s : StorerLink) : CallKind → Bool
  | .heartbeat => s.registered
  | .request | .notice => s.attached && s.routed

/-- The next step of a call. -/
def advance (s : StorerLink) (t : Nat) : Option StorerLink :=
  (s.callers t).bind fun c =>
    match c.stage with
    | .numbering =>
      some { s with
        nextRequestID := s.nextRequestID + 1
        callers := Function.update s.callers t
          (some { c with
            header := { c.header with requestID := s.nextRequestID + 1 }
            stage := .adding }) }
    | .adding =>
      some { s.setStage t c .locking with
        pending := (c.header.requestID, t) :: (s.deletePending c.header.requestID).pending }
    | .locking =>
      if s.writeMu = none then some { s.setStage t c .header with writeMu := some t } else none
    | .header =>
      if PayloadInRange c.payload ∧ s.connOpen then
        some { s.setStage t c .payload with received := s.received ++ frameHeader c.payload }
      else
        some (s.setStage t c (.unlocking false))
    | .payload =>
      if s.connOpen then
        some { s.setStage t c (.unlocking true) with
          received := s.received ++ c.payload
          log := s.log ++ [⟨.call t, c.payload⟩] }
      else
        some (s.setStage t c (.unlocking false))
    | .unlocking written =>
      let stage :=
        if c.kind = .notice then
          .returned (if written then .sent else .writeError)
        else if written then
          .waiting
        else
          .forgetting false
      some { s.setStage t c stage with writeMu := none }
    | .waiting =>
      match s.chans t with
      | { buffer := some n, .. } =>
        some { s.setStage t c (.returned (.response n)) with
          chans := Function.update s.chans t { s.chans t with buffer := none }
          delivered := s.delivered ++ [(n, t)] }
      | { buffer := none, closed := true } => some (s.setStage t c (.returned .closed))
      | _ => none
    | .forgetting timedOut =>
      some ((s.deletePending c.header.requestID).setStage t c
        (.returned (if timedOut then .timeout else .writeError)))
    | .returned _ => none

/-! ## The loop -/

/-- `registerGate.Handle` for the token of the gateway. -/
def registerGate (gatewayToken : Bytes) (header : Header) (body : Bytes) (diskFree : Bool) :
    Bytes × Bool :=
  if header.opCode ≠ opStorerRegister then
    (buildErrorResponse header statusInvalidRequest, false)
  else
    match parseStorerRegisterRequestBody body with
    | none => (buildErrorResponse header statusBadBody, false)
    | some (token, _, _) =>
      if token ≠ gatewayToken then
        (buildErrorResponse header statusAuthFailed, false)
      else if !diskFree then
        (buildErrorResponse header statusInvalidRequest, false)
      else
        (buildSuccessResponse header [], true)

/-- A frame without the response flag, after the registration. -/
def handleNotice (header : Header) (body : Bytes) : ServeStage :=
  if header.flags = flagNotice then
    if !validateNoticeHeader header then
      .closingConn
    else if header.opCode = opSessionCloseNotice ∧ body.length = 2 then
      .reading
    else if header.opCode = opSessionDataChangedNotice ∧ body = [] then
      .reading
    else
      .closingConn
  else
    .respondHeader (buildErrorResponse header statusInvalidRequest) false

theorem buildErrorResponse_range (req : Header) (status : Nat) :
    PayloadInRange (buildErrorResponse req status) := by
  simp [PayloadInRange, buildErrorResponse, buildResponse, headerSize, minPayloadSize,
    maxPayloadSize]

/-- The answer to a frame that is no response. -/
theorem handleNotice_cases (header : Header) (body : Bytes) :
    handleNotice header body = .reading ∨ handleNotice header body = .closingConn ∨
      ∃ payload, handleNotice header body = .respondHeader payload false ∧
        PayloadInRange payload := by
  unfold handleNotice
  split
  · split
    · exact .inr (.inl rfl)
    · split
      · exact .inl rfl
      · split
        · exact .inl rfl
        · exact .inr (.inl rfl)
  · exact .inr (.inr ⟨_, rfl, buildErrorResponse_range _ _⟩)

/-- `handleResponse` takes the channel. -/
def takePending (s : StorerLink) (header : Header) : StorerLink :=
  { s.deletePending header.requestID with
    inbound := s.inbound ++ [header.requestID]
    serve :=
      match s.pending.find? fun p => p.1 = header.requestID with
      | some (_, t) => .sending t s.inbound.length
      | none => .reading }

/-- `serveFrames` has read a frame. -/
def read (s : StorerLink) (payload : Bytes) : StorerLink :=
  match parseHeader payload with
  | none => { s with serve := .closingConn }
  | some header =>
    let body := payload.drop headerSize
    if header.flags &&& flagResponse = 0 then
      if s.registered then
        { s with serve := handleNotice header body }
      else if header.flags = flagNotice then
        { s with serve := .closingConn }
      else
        { s with serve := .registering header body }
    else if !s.registered then
      { s with serve := .closingConn }
    else
      s.takePending header

/-- The next step of `serveFrames` or `Serve`. -/
def advanceServe (gatewayToken : Bytes) (s : StorerLink) (diskFree : Bool) : Option StorerLink :=
  match s.serve with
  | .reading | .finished => none
  | .registering header body =>
    let (response, accepted) := registerGate gatewayToken header body diskFree
    some { s with serve := .respondHeader response accepted, routed := s.routed || accepted }
  | .respondHeader payload accepted =>
    if PayloadInRange payload ∧ s.connOpen then
      some { s with
        serve := .respondPayload payload accepted
        received := s.received ++ frameHeader payload }
    else
      some { s with serve := .closingConn }
  | .respondPayload payload accepted =>
    if s.connOpen then
      some { s with
        serve := if accepted then .marking else .reading
        received := s.received ++ payload
        log := s.log ++ [⟨.serve accepted, payload⟩] }
    else
      some { s with serve := .closingConn }
  | .marking => some { s with serve := .reading, registered := true }
  | .sending t n => (s.send t n).map fun s => { s with serve := .closingChan t }
  | .closingChan t => some { s.closeChan t with serve := .reading }
  | .closingConn => some { s with serve := .disconnectingRoutes, connOpen := false }
  | .disconnectingRoutes => some { s with serve := .removing }
  | .removing => some { s with serve := .sweeping, attached := false }
  | .sweeping => some { s.closePending with serve := .notifying }
  | .notifying => some { s with serve := .finished }

def step (gatewayToken : Bytes) (s : StorerLink) : LinkAction → Option StorerLink
  | .call t kind header body =>
    if s.callers t = none ∧ s.canCall kind then
      let stage := if kind = .notice then .locking else .numbering
      some { s with callers := Function.update s.callers t (some ⟨kind, header, body, stage⟩) }
    else
      none
  | .advance t => s.advance t
  | .timeout t =>
    (s.callers t).bind fun c =>
      if c.kind = .heartbeat ∧ c.stage = .waiting then
        some (s.setStage t c (.forgetting true))
      else
        none
  | .read payload => if s.serve = .reading then some (s.read payload) else none
  | .readError => if s.serve = .reading then some { s with serve := .closingConn } else none
  | .advanceServe diskFree => s.advanceServe gatewayToken diskFree
  | .closeConn => some { s with connOpen := false }

/-! ## A registration -/

def registerHeader : Header := { opCode := opStorerRegister, requestID := 1 }

/-- The registration of disk `aaaaaaaaaaaaaaaa` with the token `t`. -/
def registerBody : Bytes :=
  putUint16 1 ++ [116] ++ List.replicate diskIDLength 97 ++ List.replicate authProofSize 0

/-- The storer registers; its route is visible when the first frame of the response is due. -/
def registering : List LinkAction :=
  [.read (encodeHeader registerHeader ++ registerBody), .advanceServe true]

def accepting : List LinkAction := [.advanceServe true, .advanceServe true, .advanceServe true]

def openHeader : Header := { opCode := 3, requestID := 1 }

end StorerLink

end YumeDisk.Server
