import YumeDisk.Lib.Run
import YumeDisk.Server.Registries

/-!
# The gateway: clients, storer links and what they share

A client connection is served by one goroutine, a request at a time (`client/auth/authenticator.go`,
`client/session/opener.go`, `client/connection/state.go`); a storer connection registers one disk
and is torn down when it ends (`storer/link_runtime.go`, `storer/active_links.go`).  One step is one
section under the mutex of a registry, one reading of the clock, or one arrival: of a request, of a
storer's reply, of the end of a connection.  `log` is what has happened, the newest first.
-/

namespace YumeDisk.Server

open YumeDisk.Lib

/-- `proto.Status`. -/
inductive Status where
  | ok
  | badHeader
  | badBody
  | invalidRequest
  | authFailed
  | authExpired
  | authChallengeInvalid
  | authIDInvalid
  | authIDExpired
  | sessionUnavailable
  | sessionOpenRejected
  | ioOutOfRange
  | ioLarge
  | ioReadOnly
  | ioFailed
deriving DecidableEq, Repr

structure Response where
  status : Status
  sessionID : Nat := 0
  body : Bytes := []
deriving DecidableEq, Repr

/-- The errors of `RouteSessionProxy.Open`. -/
inductive SessionError where
  | sessionUnavailable
  | sessionOpenRejected
  | readOnly
  | ioLimit
  | outOfRange
  | ioFailed
deriving DecidableEq, Repr

def mapSessionError : SessionError → Status
  | .sessionUnavailable => .sessionUnavailable
  | .sessionOpenRejected => .sessionOpenRejected
  | .readOnly => .ioReadOnly
  | .ioLimit => .ioLarge
  | .outOfRange => .ioOutOfRange
  | .ioFailed => .ioFailed

def GrantStatus.toStatus : GrantStatus → Status
  | .authIDInvalid => .authIDInvalid
  | .authIDExpired => .authIDExpired

/-! ## Connections -/

/-- Where the goroutine of a client connection is. -/
inductive ClientStage where
  | idle
  /-- `HandleAuthFinish` before `LookupRoute`. -/
  | authLookup (challenge : Challenge) (proof : Bytes)
  /-- The proof has been compared; `time.Now` is next. -/
  | authClock (diskID : DiskID) (entry : Entry)
  | authIssue (diskID : DiskID) (entry : Entry) (expiresAt : Nat)
  /-- `HandleSessionOpen` before `LookupDisk`. -/
  | openLookup (authID : Nat)
  | openRoute (authID : Nat) (diskID : DiskID)
  | openLink (authID : Nat) (entry : Entry)
  /-- In `roundTrip`. -/
  | openUpstream (authID : Nat) (entry : Entry)
  | openRegister (authID : Nat) (entry : Entry) (upstreamSessionID : Nat)
  | openConsume (authID : Nat) (entry : Entry) (upstreamSessionID session : Nat)
  /-- The session is taken back: `registry.Close`, then the notice to the storer. -/
  | openAbort (entry : Entry) (upstreamSessionID session : Nat) (status : Status)
  | openNotice (entry : Entry) (upstreamSessionID : Nat) (status : Status)
  | closingGrants
  | closingSessions
  | closingNotices (records : List Record)
  | closed
deriving DecidableEq, Repr

structure Client where
  stage : ClientStage := .idle
  authInFlight : Bool := false
  openInFlight : Bool := false
deriving DecidableEq, Repr

namespace Client

def beginAuth (cl : Client) : Option Client :=
  if cl.authInFlight || cl.openInFlight then none else some { cl with authInFlight := true }

def finishAuth (cl : Client) : Option Client :=
  if !cl.authInFlight || cl.openInFlight then none else some { cl with authInFlight := false }

def failAuth (cl : Client) : Client := { cl with authInFlight := false }

def beginSessionOpen (cl : Client) : Option Client :=
  if cl.authInFlight || cl.openInFlight then none else some { cl with openInFlight := true }

def finishSessionOpen (cl : Client) : Option Client :=
  if !cl.openInFlight || cl.authInFlight then none else some { cl with openInFlight := false }

def failSessionOpen (cl : Client) : Client := { cl with openInFlight := false }

end Client

/-- Where the goroutine of a storer connection is. -/
inductive StorerStage where
  | serving
  | disconnecting
  | removingLink (diskIDs : List DiskID)
  | closingDisks (diskIDs : List DiskID)
  | done
deriving DecidableEq, Repr

structure Storer where
  remoteAddr : String
  stage : StorerStage := .serving
  registered : Bool := false
deriving DecidableEq, Repr

structure StorerRegisterRequest where
  gatewayToken : String
  diskID : DiskID
  authVerifier : Bytes
deriving DecidableEq, Repr

/-- What happens that a client or a storer may see, or that the state does not keep. -/
inductive Event where
  /-- The proof of an `AuthFinish` of client `conn` matched the verifier of `entry`. -/
  | proved (conn : Nat) (entry : Entry) (salt proof : Bytes)
  | issued (grant : Grant)
  /-- A `SessionOpen` of client `conn` succeeded at time `at`, on the registration `entry`. -/
  | opened (conn : Nat) (entry : Entry) (authID session time : Nat)
  | responded (conn : Nat) (response : Response)
  /-- A close notice for an upstream session went to a storer. -/
  | noticed (routeConnectionID upstreamSessionID : Nat)
deriving DecidableEq, Repr

structure Gateway where
  /-- Nanoseconds. -/
  now : Nat := 0
  nextConn : Nat := 0
  routes : Routes := {}
  links : Nat → Bool := fun _ => false
  grants : Grants := {}
  sessions : Sessions := {}
  clients : Nat → Option Client := fun _ => none
  storers : Nat → Option Storer := fun _ => none
  log : List Event := []

inductive Request where
  /-- `salt` is what `rand.Read` gives. -/
  | authStart (sessionID : Nat) (body salt : Bytes)
  | authFinish (sessionID : Nat) (body : Bytes)
  | sessionOpen (sessionID : Nat) (body : Bytes)
deriving DecidableEq, Repr

inductive GatewayAction where
  | tick (d : Nat)
  | acceptClient
  | acceptStorer (remoteAddr : String)
  | request (c : Nat) (req : Request)
  /-- The next section of the handler of client `c`. -/
  | handler (c : Nat)
  /-- The storer has answered the upstream open of client `c`. -/
  | upstream (c : Nat) (reply : Except SessionError Nat)
  | endClient (c : Nat)
  | register (e : Nat) (req : StorerRegisterRequest)
  | endStorer (e : Nat)
  /-- The next section of the teardown of storer `e`. -/
  | storer (e : Nat)

structure GatewayConfig where
  codec : TokenCodec
  gatewayToken : String

/-- `DefaultChallengeTTL`. -/
def challengeTTL : Nat := 30 * second

/-- `BuildAuthStartResponseBody`. -/
def buildAuthStartResponseBody (ttlSeconds : Nat) (salt challengeToken : Bytes) : Bytes :=
  1 :: (putUint16 ttlSeconds ++ (salt ++ (putUint16 challengeToken.length ++ challengeToken)))

namespace Gateway

def setClient (s : Gateway) (c : Nat) (cl : Client) : Gateway :=
  { s with clients := Function.update s.clients c (some cl) }

def setStage (s : Gateway) (c : Nat) (cl : Client) (stage : ClientStage) : Gateway :=
  s.setClient c { cl with stage }

def record (s : Gateway) (ev : Event) : Gateway := { s with log := ev :: s.log }

/-- The handler returns; its response goes out and the connection waits for the next request. -/
def respond (s : Gateway) (c : Nat) (cl : Client) (response : Response) : Gateway :=
  (s.setStage c cl .idle).record (.responded c response)

def setStorer (s : Gateway) (e : Nat) (st : Storer) (stage : StorerStage) : Gateway :=
  { s with storers := Function.update s.storers e (some { st with stage }) }

/-! ## Requests -/

section Requests

variable (cfg : GatewayConfig) (s : Gateway) (c : Nat) (cl : Client)

def handleAuthStart (sessionID : Nat) (body salt : Bytes) : Gateway :=
  if sessionID ≠ 0 then
    s.respond c cl { status := .badHeader }
  else
    match parseAuthStartRequestBody body with
    | none => s.respond c cl { status := .badBody }
    | some diskID =>
      match cl.beginAuth with
      | none => s.respond c cl { status := .invalidRequest }
      | some cl =>
        match cfg.codec.issue s.now c diskID challengeTTL salt with
        | .error _ => s.setStage c cl.failAuth .closingGrants
        | .ok (challenge, token) =>
          s.respond c cl
            { status := .ok
              body := buildAuthStartResponseBody (challengeTTL / second) challenge.salt token }

/-- `HandleAuthFinish` up to `LookupRoute`. -/
def handleAuthFinish (sessionID : Nat) (body : Bytes) : Gateway :=
  if sessionID ≠ 0 then
    s.respond c cl { status := .badHeader }
  else if !cl.authInFlight then
    s.respond c cl { status := .invalidRequest }
  else
    match parseAuthFinishRequestBody body with
    | none => s.respond c cl.failAuth { status := .badBody }
    | some (token, proof) =>
      match cfg.codec.parse s.now c token with
      | .error .expired => s.respond c cl.failAuth { status := .authExpired }
      | .error .tokenInvalid => s.respond c cl.failAuth { status := .authChallengeInvalid }
      | .ok challenge => s.setStage c cl (.authLookup challenge proof)

/-- `HandleSessionOpen` up to `LookupDisk`. -/
def handleSessionOpen (sessionID : Nat) (body : Bytes) : Gateway :=
  if sessionID ≠ 0 then
    s.respond c cl { status := .badHeader }
  else
    match parseSessionOpenRequestBody body with
    | none => s.respond c cl { status := .badBody }
    | some authID =>
      match cl.beginSessionOpen with
      | none => s.respond c cl { status := .invalidRequest }
      | some cl => s.setStage c cl (.openLookup authID)

def handleRequest : Request → Gateway
  | .authStart sessionID body salt => s.handleAuthStart cfg c cl sessionID body salt
  | .authFinish sessionID body => s.handleAuthFinish cfg c cl sessionID body
  | .sessionOpen sessionID body => s.handleSessionOpen c cl sessionID body

/-! ## The sections of a handler -/

def authLookup (challenge : Challenge) (proof : Bytes) : Gateway :=
  match s.routes.lookupRoute challenge.diskID with
  | none => s.respond c cl.failAuth { status := .authFailed }
  | some entry =>
    if proof ≠ computeProof cfg.codec.hmac entry.authVerifier challenge.salt then
      s.respond c cl.failAuth { status := .authFailed }
    else
      (s.setStage c cl (.authClock challenge.diskID entry)).record
        (.proved c entry challenge.salt proof)

def authIssue (diskID : DiskID) (expiresAt : Nat) : Gateway :=
  let (grants, id) := s.grants.issue c diskID expiresAt
  let s := { s with grants }.record (.issued ⟨id, c, diskID, expiresAt⟩)
  match cl.finishAuth with
  | none => s.respond c cl.failAuth { status := .invalidRequest }
  | some cl => s.respond c cl { status := .ok, body := putUint64 id }

def openLookup (authID : Nat) : Gateway :=
  let (grants, found) := s.grants.lookupDisk s.now authID c
  let s := { s with grants }
  match found with
  | .error status => s.respond c cl.failSessionOpen { status := status.toStatus }
  | .ok diskID => s.setStage c cl (.openRoute authID diskID)

def openRoute (authID : Nat) (diskID : DiskID) : Gateway :=
  match s.routes.lookupRoute diskID with
  | none => s.respond c cl.failSessionOpen { status := .sessionUnavailable }
  | some entry => s.setStage c cl (.openLink authID entry)

/-- `dataPlane.Open` finds the link of the entry. -/
def openLink (authID : Nat) (entry : Entry) : Gateway :=
  if s.links entry.connectionID then
    s.setStage c cl (.openUpstream authID entry)
  else
    s.respond c cl.failSessionOpen { status := mapSessionError .sessionUnavailable }

def openUpstream (authID : Nat) (entry : Entry) : Except SessionError Nat → Gateway
  | .error err => s.respond c cl.failSessionOpen { status := mapSessionError err }
  | .ok upstreamSessionID => s.setStage c cl (.openRegister authID entry upstreamSessionID)

def openRegister (authID : Nat) (entry : Entry) (upstreamSessionID : Nat) : Gateway :=
  let (sessions, session) := s.sessions.openSession
    { clientConnectionID := c, routeConnectionID := entry.connectionID, upstreamSessionID }
  { s with sessions }.setStage c cl (.openConsume authID entry upstreamSessionID session)

def openConsume (authID : Nat) (entry : Entry) (upstreamSessionID session : Nat) : Gateway :=
  let (grants, consumed) := s.grants.consumeDisk authID
  let s := { s with grants }
  if consumed ≠ some entry.diskID then
    s.setStage c cl (.openAbort entry upstreamSessionID session .authIDInvalid)
  else
    match cl.finishSessionOpen with
    | none => s.setStage c cl (.openAbort entry upstreamSessionID session .invalidRequest)
    | some cl =>
      (s.record (.opened c entry authID session s.now)).respond c cl
        { status := .ok, sessionID := session }

/-- `SendNotice`: the close of an upstream session, if the link is there. -/
def sendNotice (routeConnectionID upstreamSessionID : Nat) : Gateway :=
  if s.links routeConnectionID then s.record (.noticed routeConnectionID upstreamSessionID) else s

/-- The next section of the handler or of the close of client `c`. -/
def handler : Option Gateway :=
  match cl.stage with
  | .authLookup challenge proof => some (s.authLookup cfg c cl challenge proof)
  | .authClock diskID entry =>
    some (s.setStage c cl (.authIssue diskID entry (s.now + challengeTTL)))
  | .authIssue diskID _ expiresAt => some (s.authIssue c cl diskID expiresAt)
  | .openLookup authID => some (s.openLookup c cl authID)
  | .openRoute authID diskID => some (s.openRoute c cl authID diskID)
  | .openLink authID entry => some (s.openLink c cl authID entry)
  | .openRegister authID entry upstream => some (s.openRegister c cl authID entry upstream)
  | .openConsume authID entry upstream session =>
    some (s.openConsume c cl authID entry upstream session)
  | .openAbort entry upstream session status =>
    some ({ s with sessions := s.sessions.close session }.setStage c cl
      (.openNotice entry upstream status))
  | .openNotice entry upstream status =>
    some ((s.sendNotice entry.connectionID upstream).respond c cl.failSessionOpen { status })
  | .closingGrants =>
    some ({ s with grants := s.grants.closeConnection c }.setStage c cl .closingSessions)
  | .closingSessions =>
    let (sessions, records) := s.sessions.closeConnection c
    some ({ s with sessions }.setStage c cl (.closingNotices records))
  | .closingNotices (record :: records) =>
    some ((s.sendNotice record.routeConnectionID record.upstreamSessionID).setStage c cl
      (.closingNotices records))
  | .closingNotices [] => some (s.setStage c cl .closed)
  | .idle | .openUpstream .. | .closed => none

end Requests

/-! ## Storers -/

/-- `registerGate.Handle`, and the flag that `serveFrames` keeps. -/
def register (cfg : GatewayConfig) (s : Gateway) (e : Nat) (st : Storer)
    (req : StorerRegisterRequest) : Gateway :=
  if st.registered then
    s.record (.responded e { status := .invalidRequest })
  else if req.gatewayToken ≠ cfg.gatewayToken then
    s.record (.responded e { status := .authFailed })
  else
    match s.routes.register ⟨req.diskID, req.authVerifier, st.remoteAddr, e, true⟩ with
    | .error _ => s.record (.responded e { status := .invalidRequest })
    | .ok routes =>
      ({ s with routes }.setStorer e { st with registered := true } st.stage).record
        (.responded e { status := .ok })

/-- The next section of `Registry.DisconnectConnection`. -/
def teardown (s : Gateway) (e : Nat) (st : Storer) : Option Gateway :=
  match st.stage with
  | .disconnecting =>
    let (routes, disconnected) := s.routes.disconnectConnection e
    some ({ s with routes }.setStorer e st (.removingLink (disconnected.map Entry.diskID)))
  | .removingLink diskIDs =>
    let s := { s with links := Function.update s.links e false }
    -- without a disk the notifier does not call the handler
    some (s.setStorer e st (if diskIDs = [] then .done else .closingDisks diskIDs))
  | .closingDisks (diskID :: diskIDs) =>
    some ({ s with grants := s.grants.closeDisk diskID }.setStorer e st (.closingDisks diskIDs))
  | .closingDisks [] =>
    some ({ s with sessions := (s.sessions.closeRouteConnection e).1 }.setStorer e st .done)
  | .serving | .done => none

def step (cfg : GatewayConfig) (s : Gateway) : GatewayAction → Option Gateway
  | .tick d => some { s with now := s.now + d }
  | .acceptClient =>
    some ({ s with nextConn := s.nextConn + 1 }.setClient (s.nextConn + 1) {})
  | .acceptStorer remoteAddr =>
    some ({ s with
      nextConn := s.nextConn + 1
      links := Function.update s.links (s.nextConn + 1) true }.setStorer (s.nextConn + 1)
        { remoteAddr } .serving)
  | .request c req =>
    (s.clients c).bind fun cl =>
      if cl.stage = .idle then some (s.handleRequest cfg c cl req) else none
  | .handler c => (s.clients c).bind fun cl => s.handler cfg c cl
  | .upstream c reply =>
    (s.clients c).bind fun cl =>
      match cl.stage with
      | .openUpstream authID entry => some (s.openUpstream c cl authID entry reply)
      | _ => none
  | .endClient c =>
    (s.clients c).bind fun cl =>
      if cl.stage = .idle then some (s.setStage c cl .closingGrants) else none
  | .register e req =>
    (s.storers e).bind fun st =>
      if st.stage = .serving then some (s.register cfg e st req) else none
  | .endStorer e =>
    (s.storers e).bind fun st =>
      if st.stage = .serving then some (s.setStorer e st .disconnecting) else none
  | .storer e => (s.storers e).bind fun st => s.teardown e st

/-- The stage that a request leaves when it is not answered at once. -/
def Asked : ClientStage → Prop
  | .closingGrants | .authLookup .. | .openLookup _ => True
  | _ => False

/-- **A request** is answered at once, or the handler goes on with it. -/
theorem handleRequest_cases (cfg : GatewayConfig) (s : Gateway) (c : Nat) (cl : Client)
    (req : Request) : (∃ cl' r, s.handleRequest cfg c cl req = s.respond c cl' r) ∨
      ∃ cl' stage, s.handleRequest cfg c cl req = s.setStage c cl' stage ∧ Asked stage := by
  cases req with
  | authStart sessionID body salt =>
    simp only [handleRequest, handleAuthStart]
    split_ifs
    · exact .inl ⟨_, _, rfl⟩
    split
    · exact .inl ⟨_, _, rfl⟩
    split
    · exact .inl ⟨_, _, rfl⟩
    split
    · exact .inr ⟨_, _, rfl, trivial⟩
    · exact .inl ⟨_, _, rfl⟩
  | authFinish sessionID body =>
    simp only [handleRequest, handleAuthFinish]
    split_ifs
    · exact .inl ⟨_, _, rfl⟩
    · exact .inl ⟨_, _, rfl⟩
    split
    · exact .inl ⟨_, _, rfl⟩
    split
    · exact .inl ⟨_, _, rfl⟩
    · exact .inl ⟨_, _, rfl⟩
    · exact .inr ⟨_, _, rfl, trivial⟩
  | sessionOpen sessionID body =>
    simp only [handleRequest, handleSessionOpen]
    split_ifs
    · exact .inl ⟨_, _, rfl⟩
    split
    · exact .inl ⟨_, _, rfl⟩
    split
    · exact .inl ⟨_, _, rfl⟩
    · exact .inr ⟨_, _, rfl, trivial⟩

end Gateway

end YumeDisk.Server
