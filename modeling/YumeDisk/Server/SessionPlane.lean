import YumeDisk.Server.Gateway
import YumeDisk.Server.Header

/-!
# Open sessions in the gateway (`client/session/opener.go`, `client/handler.go`, `runtime.go`)

`Gateway` opens sessions and ends connections; `Plane` adds what is done with a session that is
open.

* `ProxyStage`: where the handler of a client is in a Describe, a ReadAt, a WriteAt or a
  SessionCloseNotice.
* `emitting`: the notices that the goroutine of a storer has still to write to clients, after
  `CloseRouteConnection` or `NotifyRouteSessionClosed`.
* `broken`: the storer connections that are closed or lost; a write on one of them can fail, and a
  `roundTrip` does not return a response any more unless it has been read already.

`leaving`, `removed`, `returned` and `closedByStorer` are history.
-/

namespace YumeDisk.Server

open YumeDisk.Lib

/-! ## The state -/

inductive ProxyOp where
  | describe
  | readAt
  | writeAt
deriving DecidableEq, Repr

inductive ProxyStage where
  /-- `RoundTrip` before it looks the link up. -/
  | link (op : ProxyOp) (body : Bytes) (record : Record)
  /-- In `roundTrip`. -/
  | upstream (op : ProxyOp) (body : Bytes) (record : Record)
  /-- The storer has no such session: `registry.Close`, then the response. -/
  | drop (record : Record) (body : Bytes)
  /-- `HandleSessionCloseNotice` before `registry.Close`. -/
  | close (record : Record)
  /-- `HandleSessionCloseNotice` before `SendNotice`. -/
  | notice (record : Record)
deriving DecidableEq, Repr

/-- A call of `NotifySessionClosed`; the frame is written if the client is in `clientConns`. -/
structure CloseNotice where
  sessionID : Nat
  clientConnectionID : Nat
  body : Bytes
  written : Bool
deriving DecidableEq, Repr

/-- What `DisconnectConnection` finds: the last auth id that was issued, and the disks. -/
structure Leaving where
  lastGrant : Nat
  diskIDs : List DiskID
deriving DecidableEq, Repr

structure Plane where
  gateway : Gateway := {}
  proxy : Nat → Option ProxyStage := fun _ => none
  broken : Nat → Bool := fun _ => false
  /-- The records of closed sessions, and the bodies of their notices, by storer. -/
  emitting : Nat → List (Record × Bytes) := fun _ => []
  notices : List CloseNotice := []
  leaving : Nat → Option Leaving := fun _ => none
  /-- The records that the teardown of a route took. -/
  removed : List (Nat × Record) := []
  /-- The upstream sessions that an open has returned, by route. -/
  returned : List (Nat × Nat) := []
  closedByStorer : List (Nat × Nat) := []

inductive PlaneAction where
  | gateway (a : GatewayAction)
  /-- A Describe, ReadAt or WriteAt of client `c`. -/
  | request (c : Nat) (op : ProxyOp) (sessionID : Nat) (body : Bytes)
  /-- A SessionCloseNotice of client `c`. -/
  | closeNotice (c sessionID : Nat) (body : Bytes)
  /-- The next section of the handler of client `c`. -/
  | advance (c : Nat)
  /-- What `dataPlane.RoundTrip` makes of the storer's response. -/
  | reply (c : Nat) (status : Status) (body : Bytes)
  /-- `roundTrip` returns an error. -/
  | lost (c : Nat)
  /-- `SendNotice` returns an error. -/
  | noticeFails (c : Nat)
  | breakLink (e : Nat)
  /-- The storer closes a session of its own accord. -/
  | storerCloses (e upstreamSessionID : Nat)
  /-- A SessionCloseNotice of storer `e`. -/
  | storerNotice (e upstreamSessionID : Nat) (body : Bytes)
  | emit (e : Nat)

def sessionCloseNoticeSize : Nat := 2

/-- `SessionCloseReasonRouteLost`. -/
def reasonRouteLost : Nat := 1

def buildSessionCloseNoticeBody (reason : Nat) : Bytes := putUint16 reason

/-- The connection is in `clientConns`: `OnClosed` is called before `CloseConnection`. -/
def Client.connected (cl : Client) : Bool :=
  match cl.stage with
  | .closingGrants | .closingSessions | .closingNotices _ | .closed => false
  | _ => true

namespace Plane

def setProxy (s : Plane) (c : Nat) (stage : Option ProxyStage) : Plane :=
  { s with proxy := Function.update s.proxy c stage }

def respond (s : Plane) (c : Nat) (cl : Client) (response : Response) : Plane :=
  { s with gateway := s.gateway.respond c cl response }.setProxy c none

def closeSession (s : Plane) (session : Nat) : Plane :=
  { s with gateway := { s.gateway with sessions := s.gateway.sessions.close session } }

/-! ## A session that is open -/

/-- `HandleDescribe`, `HandleRead` and `HandleWrite` up to `RoundTrip`. -/
def handleRequest (s : Plane) (c : Nat) (cl : Client) (op : ProxyOp) (sessionID : Nat)
    (body : Bytes) : Plane :=
  if sessionID = 0 then
    s.respond c cl { status := .badHeader }
  else
    match s.gateway.sessions.lookupOwned sessionID c with
    | none => s.respond c cl { status := .sessionUnavailable, sessionID }
    | some record => s.setProxy c (some (.link op body record))

/-- `HandleSessionCloseNotice` up to `registry.Close`. -/
def handleSessionCloseNotice (s : Plane) (c : Nat) (cl : Client) (sessionID : Nat)
    (body : Bytes) : Plane :=
  if sessionID = 0 ∨ body.length ≠ sessionCloseNoticeSize then
    -- a protocol violation ends the connection
    { s with gateway := s.gateway.setStage c cl .closingGrants }
  else
    match s.gateway.sessions.lookupOwned sessionID c with
    | none => s
    | some record => s.setProxy c (some (.close record))

/-- The next section of the handler of client `c`. -/
def advance (s : Plane) (c : Nat) (cl : Client) : ProxyStage → Option Plane
  | .link op body record =>
    if s.gateway.links record.routeConnectionID then
      some (s.setProxy c (some (.upstream op body record)))
    else
      some (s.setProxy c (some (.drop record [])))
  | .upstream .. => none
  | .drop record body =>
    some ((s.closeSession record.id).respond c cl
      { status := .sessionUnavailable, sessionID := record.id, body })
  | .close record => some ((s.closeSession record.id).setProxy c (some (.notice record)))
  | .notice record =>
    let gateway := s.gateway.sendNotice record.routeConnectionID record.upstreamSessionID
    some ({ s with gateway }.setProxy c none)

/-- The end of `handleProxyRoundTrip`. -/
def reply (s : Plane) (c : Nat) (cl : Client) (record : Record) (status : Status) (body : Bytes) :
    Plane :=
  if status = .sessionUnavailable then
    s.setProxy c (some (.drop record body))
  else
    s.respond c cl { status, sessionID := record.id, body }

/-- The connection of a storer is closed or lost, or its teardown has begun. -/
def gone (s : Plane) (e : Nat) : Bool := s.broken e || !s.gateway.links e

/-! ## Storers -/

/-- `NotifyRouteSessionClosed` up to the notifier. -/
def notifyRouteSessionClosed (s : Plane) (e upstreamSessionID : Nat) (body : Bytes) : Plane :=
  let (sessions, record) := s.gateway.sessions.closeRouteSession e upstreamSessionID
  { s with
    gateway := { s.gateway with sessions }
    emitting := Function.update s.emitting e (record.toList.map fun r => (r, body))
    closedByStorer := (e, upstreamSessionID) :: s.closedByStorer }

/-- The next notice of `emitSessionClosed`. -/
def emit (s : Plane) (e : Nat) : Option Plane :=
  match s.emitting e with
  | [] => none
  | (r, body) :: rest =>
    let written := (s.gateway.clients r.clientConnectionID).any Client.connected
    some { s with
      notices := ⟨r.id, r.clientConnectionID, body, written⟩ :: s.notices
      emitting := Function.update s.emitting e rest }

/-- A handler that is proxying is not taking another request, nor is a storer that has notices to
write. -/
def free (s : Plane) : GatewayAction → Bool
  | .request c _ | .endClient c => (s.proxy c).isNone
  | .register e _ | .endStorer e | .storer e => (s.emitting e).isEmpty
  | _ => true

/-- What the steps of `Gateway` do that is outside it. -/
def note (s : Plane) : GatewayAction → Plane
  | .upstream c (.ok upstreamSessionID) =>
    match (s.gateway.clients c).map Client.stage with
    | some (.openUpstream _ entry) =>
      { s with returned := (entry.connectionID, upstreamSessionID) :: s.returned }
    | _ => s
  -- `Serve` closes the connection before it calls `DisconnectConnection`
  | .endStorer e => { s with broken := Function.update s.broken e true }
  | .storer e =>
    match (s.gateway.storers e).map Storer.stage with
    | some .disconnecting =>
      let diskIDs := (s.gateway.routes.disconnectConnection e).2.map Entry.diskID
      { s with
        leaving := Function.update s.leaving e (some ⟨s.gateway.grants.nextID, diskIDs⟩) }
    | some (.closingDisks []) =>
      let records := (s.gateway.sessions.closeRouteConnection e).2
      { s with
        emitting := Function.update s.emitting e
          (records.map fun r => (r, buildSessionCloseNoticeBody reasonRouteLost))
        removed := records.map (fun r => (e, r)) ++ s.removed }
    | _ => s
  | _ => s

/-! ## Steps -/

def step (cfg : GatewayConfig) (s : Plane) : PlaneAction → Option Plane
  | .gateway a =>
    if s.free a then
      (s.gateway.step cfg a).map fun gateway => { s.note a with gateway }
    else
      none
  | .request c op sessionID body =>
    (s.gateway.clients c).bind fun cl =>
      if cl.stage = .idle ∧ s.proxy c = none then
        some (s.handleRequest c cl op sessionID body)
      else
        none
  | .closeNotice c sessionID body =>
    (s.gateway.clients c).bind fun cl =>
      if cl.stage = .idle ∧ s.proxy c = none then
        some (s.handleSessionCloseNotice c cl sessionID body)
      else
        none
  | .advance c =>
    (s.gateway.clients c).bind fun cl => (s.proxy c).bind fun stage => s.advance c cl stage
  | .reply c status body =>
    (s.gateway.clients c).bind fun cl =>
      match s.proxy c with
      | some (.upstream _ _ record) => some (s.reply c cl record status body)
      | _ => none
  | .lost c =>
    match s.proxy c with
    | some (.upstream _ _ record) =>
      if s.gone record.routeConnectionID then
        some (s.setProxy c (some (.drop record [])))
      else
        none
    | _ => none
  | .noticeFails c =>
    (s.gateway.clients c).bind fun cl =>
      match s.proxy c with
      | some (.notice record) =>
        if s.gone record.routeConnectionID then
          some ({ s with gateway := s.gateway.setStage c cl .closingGrants }.setProxy c none)
        else
          none
      | _ => none
  | .breakLink e => some { s with broken := Function.update s.broken e true }
  | .storerCloses e upstreamSessionID =>
    some { s with closedByStorer := (e, upstreamSessionID) :: s.closedByStorer }
  | .storerNotice e upstreamSessionID body =>
    (s.gateway.storers e).bind fun st =>
      if st.stage = .serving ∧ st.registered ∧ s.emitting e = [] ∧
          body.length = sessionCloseNoticeSize then
        some (s.notifyRouteSessionClosed e upstreamSessionID body)
      else
        none
  | .emit e => s.emit e

end Plane

end YumeDisk.Server
