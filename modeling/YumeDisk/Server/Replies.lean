import YumeDisk.Server.ClientHandler
import YumeDisk.Server.TeardownNotices

/-!
# What the responses and the notices of the gateway say

* `SuccessBody`: the session and the body of a response that says `OK`, by the operation of the
  request; `Exchange.Replied`: a response echoes its request and says `OK` with such a body, or it
  carries an error.
* `ClientHandler.Sound`: every response and every notice that has gone out.
* `SessionProxy.roundTrip_reply`: what comes back from a storer.
* `Sections`: how a section of a handler leaves the gateway; one lemma for each handler.
-/

namespace YumeDisk.Server

open YumeDisk.Lib
open WholeMode (FileHandle LocalAdapter DataPlane Service Reply)

/-- The session and the body of a response that says `OK`. -/
inductive SuccessBody (zstd : Zstd) (header : Header) (request : Bytes) : Nat → Bytes → Prop
  | authStart {salt token : Bytes} (hop : header.opCode = opAuthStart)
      (hsession : header.sessionID = 0)
      (hsalt : salt.length = 16) (hpos : 1 ≤ token.length) (hmax : token.length < 65536) :
      SuccessBody zstd header request 0 (buildAuthStartResponseBody 30 salt token)
  | authFinish {id : Nat} (hop : header.opCode = opAuthFinish) (hsession : header.sessionID = 0)
      (hpos : 0 < id) (hmax : id < 2 ^ 64) :
      SuccessBody zstd header request 0 (putUint64 id)
  | sessionOpen {session : Nat} (hop : header.opCode = opSessionOpen) (hpos : 0 < session)
      (hmax : session < 2 ^ 64) :
      SuccessBody zstd header request session []
  | sessionDescribe {metadata : StorerSession.Metadata} (hop : header.opCode = opSessionDescribe)
      (hsize : metadata.diskSizeBytes ≠ 0) :
      SuccessBody zstd header request header.sessionID (buildSessionDescribeResponseBody
        metadata.diskSizeBytes.toNat metadata.readOnly metadata.backendID)
  | readAt {offset : Nat} {data : Bytes} (hop : header.opCode = opReadAt)
      (hread : parseReadBody request = some (offset, data.length)) :
      SuccessBody zstd header request header.sessionID (buildReadResponseBody zstd data)
  | writeAt (hop : header.opCode = opWriteAt) :
      SuccessBody zstd header request header.sessionID []
  | connHeartbeat (hop : header.opCode = opConnHeartbeat) (hsession : header.sessionID = 0) :
      SuccessBody zstd header request 0 []

/-- A response echoes its request, and carries an error or what the operation is to give. -/
def Exchange.Replied (zstd : Zstd) (x : Exchange) : Prop :=
  ∃ header status sessionID body, parseHeader x.request = some header ∧ status < 2 ^ 16 ∧
    x.response = buildResponseWithSessionID header status sessionID body ∧
      (status ≠ 0 ∧ sessionID = header.sessionID ∨
        status = 0 ∧ SuccessBody zstd header (x.request.drop headerSize) sessionID body)

/-- A notice names a session, and says why it was closed or that its data has changed. -/
def Noticed (payload : Bytes) : Prop :=
  ∃ session, 0 < session ∧ session < 2 ^ 64 ∧
    ((∃ reason, reason < 2 ^ 16 ∧
      payload = buildNotice opSessionCloseNotice session (buildSessionCloseNoticeBody reason)) ∨
      payload = buildNotice opSessionDataChangedNotice session [])

namespace ClientHandler

/-- Every response and every notice that has gone out. -/
structure Sound (zstd : Zstd) (s : ClientHandler) : Prop where
  sent : ∀ x ∈ s.sent, x.Replied zstd
  notices : ∀ n ∈ s.notices, Noticed n.2

end ClientHandler

/-- The session is not on a disk of size 0. -/
def WholeMode.Service.Sized {F : Type} (s : Service F) (sessionID : UInt64) : Prop :=
  ∀ entry ∈ s.manager.find sessionID, entry.record.metadata.diskSizeBytes ≠ 0

instance {F : Type} (s : Service F) (sessionID : UInt64) : Decidable (s.Sized sessionID) :=
  inferInstanceAs (Decidable (∀ entry ∈ s.manager.find sessionID,
    entry.record.metadata.diskSizeBytes ≠ 0))

/-! ## What a storer replies -/

section Storer

variable {F : Type} {zstd : Zstd} {handle : FileHandle F} {s : Service F} {sessionID : UInt64}

theorem describe_sized (h : s.Sized sessionID) {metadata : StorerSession.Metadata}
    (hd : s.describe sessionID = .ok metadata) : metadata.diskSizeBytes ≠ 0 := by
  unfold Service.describe at hd
  cases hfind : s.manager.find sessionID with
  | none => rw [hfind] at hd; cases hd
  | some entry =>
    rw [hfind] at hd
    dsimp only at hd
    split_ifs at hd
    obtain rfl := Except.ok.inj hd
    exact h entry hfind

theorem length_read_eq {s' : Service F} {offset length : Nat} {data : Bytes}
    (h : s.read handle sessionID offset length = (.ok data, s')) : data.length = length := by
  unfold Service.read at h
  cases hbegin : s.manager.beginIO sessionID with
  | error e => rw [hbegin] at h; cases h
  | ok r =>
    obtain ⟨manager, record⟩ := r
    rw [hbegin] at h
    dsimp only at h
    cases hcheck : StorerSession.Io.check { record, write := false, offset, length } with
    | error e => rw [hcheck] at h; cases h
    | ok =>
      rw [hcheck] at h
      rcases hread : s.storage.readAt handle offset length with ⟨result, storage⟩
      rw [hread] at h
      cases result with
      | error e => cases h
      | ok data' =>
        cases h
        exact WholeMode.Backend.length_readAt hread

/-- **The reply of a service** is an error, or has the body of its operation. -/
theorem serve_reply (op : ProxyOp) {header : Header} (hop : header.opCode = op.code)
    (hs : op = .describe → s.Sized sessionID) {request : Bytes} {status : Nat} {body : Bytes}
    (h : (LocalAdapter.serve zstd handle s sessionID op.code request).1 = (status, body))
    (hok : status = 0) : SuccessBody zstd header request header.sessionID body := by
  subst hok
  have herror : ∀ e : WholeMode.ServiceError, WholeMode.mapSessionErrorStatus e ≠ 0 := by
    rintro (e | _ | _)
    · cases e <;> decide
    · decide
    · exact (by decide : statusIOFailed ≠ 0)
  cases op with
  | describe =>
    rw [ProxyOp.code, LocalAdapter.serve_describe] at h
    split_ifs at h
    · cases congrArg Prod.fst h
    · cases congrArg Prod.fst h
    · cases hd : s.describe sessionID with
      | error e => rw [hd] at h; exact absurd (congrArg Prod.fst h) (herror e)
      | ok metadata =>
        rw [hd] at h
        obtain rfl := congrArg Prod.snd h
        exact .sessionDescribe hop (describe_sized (hs rfl) hd)
  | readAt =>
    rw [ProxyOp.code, LocalAdapter.serve_readAt] at h
    split_ifs at h
    · cases congrArg Prod.fst h
    · cases hparse : parseReadBody request with
      | none => rw [hparse] at h; cases congrArg Prod.fst h
      | some r =>
        obtain ⟨offset, length⟩ := r
        rw [hparse] at h
        dsimp only at h
        rcases hread : s.read handle sessionID offset length with ⟨result, s'⟩
        rw [hread] at h
        cases result with
        | error e => exact absurd (congrArg Prod.fst h) (herror e)
        | ok data =>
          obtain rfl := congrArg Prod.snd h
          exact .readAt hop (hparse.trans (by rw [length_read_eq hread]))
  | writeAt =>
    rw [ProxyOp.code, LocalAdapter.serve_writeAt] at h
    split_ifs at h
    · cases congrArg Prod.fst h
    · cases hparse : parseReadWriteBody zstd request with
      | none => rw [hparse] at h; cases congrArg Prod.fst h
      | some r =>
        obtain ⟨offset, length, data⟩ := r
        rw [hparse] at h
        dsimp only at h
        rcases hwrite : s.write handle sessionID offset data with ⟨result, s'⟩
        rw [hwrite] at h
        cases result with
        | error e => exact absurd (congrArg Prod.fst h) (herror e)
        | ok =>
          obtain rfl := congrArg Prod.snd h
          exact .writeAt hop

/-- The same operation. -/
def ProxyOp.toDataOp : ProxyOp → WholeMode.DataOp
  | .describe => .describe
  | .readAt => .readAt
  | .writeAt => .writeAt

theorem ProxyOp.toDataOp_code (op : ProxyOp) : op.toDataOp.code = op.code := by
  cases op <;> rfl

/-- **The reply of a round trip**, to a storer in this process or at the end of a link. -/
theorem SessionProxy.roundTrip_reply {proxy : SessionProxy F} {route : UInt64} (op : ProxyOp)
    (hs : op = .describe → ∀ s ∈ proxy.service route, s.Sized sessionID) {header : Header}
    (hop : header.opCode = op.code) {request : Bytes} {status : Nat} {body : Bytes}
    (h : proxy.roundTrip zstd handle route sessionID op.code request = (status, body))
    (hok : status = 0) : SuccessBody zstd header request header.sessionID body := by
  have hunavailable : (statusSessionUnavailable, ([] : Bytes)) ≠ (status, body) := by
    intro h
    rw [hok] at h
    cases congrArg Prod.fst h
  cases proxy with
  | localAdapter b =>
    change (b.roundTrip zstd handle route sessionID op.code request).1 = _ at h
    unfold LocalAdapter.roundTrip at h
    cases hb : b.exportsByRoute route with
    | none => rw [hb] at h; exact absurd h hunavailable
    | some s => rw [hb] at h; exact serve_reply op hop (fun hd => hs hd s hb) h hok
  | dataPlane p =>
    change (p.roundTrip zstd handle route sessionID op.code request).1 = _ at h
    cases hp : p.links route with
    | none =>
      unfold DataPlane.roundTrip at h
      rw [hp] at h
      exact absurd h hunavailable
    | some l =>
      have hl : op = .describe → l.peer.sessions.Sized sessionID :=
        fun hd => hs hd _ (by simp [service, hp])
      rw [← op.toDataOp_code] at h
      by_cases hbody : request.length ≤ WholeMode.maxBodySize
      · rw [p.roundTrip_of_fits op.toDataOp sessionID hp hbody, op.toDataOp_code] at h
        exact serve_reply op hop hl h hok
      · rw [p.roundTrip_of_long op.toDataOp sessionID hp (not_le.mp hbody)] at h
        exact absurd h hunavailable

end Storer

/-! ## The sections of a handler -/

/-- The operation that a client's goroutine is in the middle of. -/
def ClientStage.opCode : ClientStage → Option UInt8
  | .authLookup _ _ | .authClock _ _ | .authIssue _ _ _ => some opAuthFinish
  | .openLookup _ | .openRoute _ _ | .openLink _ _ | .openUpstream _ _ | .openRegister _ _ _
  | .openConsume _ _ _ _ | .openAbort _ _ _ _ | .openNotice _ _ _ => some opSessionOpen
  | _ => none

/-- The session that an open is about to return is an id of the registry. -/
def ClientStage.Numbered : ClientStage → Prop
  | .openConsume _ _ _ session => 0 < session ∧ session < 2 ^ 64
  | .openAbort _ _ _ status | .openNotice _ _ status => status ≠ .ok
  | _ => True

/-- A response of an authentication or of an open that says `OK`. -/
def Response.Successful (r : Response) (op : UInt8) : Prop :=
  op = opAuthStart ∧ r.sessionID = 0 ∧ (∃ salt token : Bytes, salt.length = 16 ∧
      1 ≤ token.length ∧ token.length < 65536 ∧ r.body = buildAuthStartResponseBody 30 salt token) ∨
    op = opAuthFinish ∧ r.sessionID = 0 ∧ (∃ id, 0 < id ∧ id < 2 ^ 64 ∧ r.body = putUint64 id) ∨
    op = opSessionOpen ∧ 0 < r.sessionID ∧ r.sessionID < 2 ^ 64 ∧ r.body = []

/-- How a section of the handler of `op` leaves the gateway: the handler goes on, or it has
responded. -/
def Sections (op : UInt8) (c : Nat) (g g' : Gateway) : Prop :=
  (∃ cl', g'.clients = Function.update g.clients c (some cl') ∧ cl'.stage.opCode = some op ∧
    cl'.stage.Numbered) ∨
  ∃ cl' r log, g'.clients = Function.update g.clients c (some cl') ∧ cl'.stage = .idle ∧
    g'.log = .responded c r :: log ∧ (r.status = .ok → r.Successful op)

namespace Sections

variable {op : UInt8} {c : Nat} {g t : Gateway} (h : t.clients = g.clients) (cl : Client)

include h

theorem setStage {stage : ClientStage} (hop : stage.opCode = some op) (hn : stage.Numbered) :
    Sections op c g (t.setStage c cl stage) :=
  .inl ⟨_, by rw [← h]; rfl, hop, hn⟩

theorem respond {r : Response} (hr : r.status = .ok → r.Successful op) :
    Sections op c g (t.respond c cl r) :=
  .inr ⟨_, r, _, by rw [← h]; rfl, rfl, rfl, hr⟩

theorem refuse {status : Status} (hs : status ≠ .ok) :
    Sections op c g (t.respond c cl { status }) :=
  respond h cl fun hok => absurd hok hs

end Sections

section Requests

variable {cfg : GatewayConfig} (hmac : ∀ key msg, (cfg.codec.hmac key msg).length = 64)
  (g : Gateway) (c : Nat) (cl : Client)

include hmac in
/-- `AuthStart` responds, or its `Issue` fails. -/
theorem sections_handleAuthStart (sessionID : Nat) (body : Bytes) (salt : Vector UInt8 16) :
    (∃ cl', (g.handleAuthStart cfg c cl sessionID body salt.toList).clients =
      Function.update g.clients c (some cl') ∧ cl'.stage = .closingGrants) ∨
    Sections opAuthStart c g (g.handleAuthStart cfg c cl sessionID body salt.toList) := by
  unfold Gateway.handleAuthStart
  split_ifs with hsession
  · exact .inr (.refuse rfl cl (by decide))
  cases hparse : parseAuthStartRequestBody body with
  | none => exact .inr (.refuse rfl cl (by decide))
  | some diskID =>
    cases hbegin : cl.beginAuth with
    | none => exact .inr (.refuse rfl cl (by decide))
    | some cl' =>
      dsimp only
      cases hissue : cfg.codec.issue g.now c diskID challengeTTL salt.toList with
      | error e => exact .inl ⟨_, rfl, rfl⟩
      | ok r =>
        obtain ⟨challenge, token⟩ := r
        refine .inr (.respond rfl cl' fun _ => .inl ⟨rfl, rfl, challenge.salt, token, ?_⟩)
        unfold TokenCodec.issue at hissue
        split_ifs at hissue with hdisk httl
        obtain ⟨rfl, rfl⟩ := Prod.mk.inj (Except.ok.inj hissue)
        have hdisk : diskID.length = 16 := not_not.mp hdisk
        have hsalt : salt.toList.length = 16 := Vector.length_toList
        refine ⟨hsalt, ?_, ?_, rfl⟩ <;>
          · simp only [List.length_append, TokenCodec.body, List.length_cons, length_putUint64, hdisk,
              hsalt, hmac]
            omega

theorem sections_handleAuthFinish (sessionID : Nat) (body : Bytes) :
    Sections opAuthFinish c g (g.handleAuthFinish cfg c cl sessionID body) := by
  unfold Gateway.handleAuthFinish
  split_ifs with hsession hflight
  · exact .refuse rfl cl (by decide)
  · exact .refuse rfl cl (by decide)
  cases hparse : parseAuthFinishRequestBody body with
  | none => exact .refuse rfl cl.failAuth (by decide)
  | some r =>
    obtain ⟨token, proof⟩ := r
    dsimp only
    cases htoken : cfg.codec.parse g.now c token with
    | error e =>
      cases e with
      | expired => exact .refuse rfl cl.failAuth (by decide)
      | tokenInvalid => exact .refuse rfl cl.failAuth (by decide)
    | ok challenge => exact .setStage rfl cl rfl trivial

theorem sections_handleSessionOpen (sessionID : Nat) (body : Bytes) :
    Sections opSessionOpen c g (g.handleSessionOpen c cl sessionID body) := by
  unfold Gateway.handleSessionOpen
  split_ifs with hsession
  · exact .refuse rfl cl (by decide)
  cases hparse : parseSessionOpenRequestBody body with
  | none => exact .refuse rfl cl (by decide)
  | some authID =>
    cases hbegin : cl.beginSessionOpen with
    | none => exact .refuse rfl cl (by decide)
    | some cl' => exact .setStage rfl cl' rfl trivial

theorem mapSessionError_ne (e : SessionError) : mapSessionError e ≠ .ok := by
  cases e <;> decide

theorem toStatus_ne (e : GrantStatus) : e.toStatus ≠ .ok := by
  cases e <;> decide

/-- **A section of a handler** goes on, or it responds. -/
theorem sections_handler {op : UInt8} {g' : Gateway} (hop : cl.stage.opCode = some op)
    (hn : cl.stage.Numbered) (hgrants : g.grants.nextID + 1 < 2 ^ 64)
    (hsessions : g.sessions.nextID + 1 < 2 ^ 63) (h : g.handler cfg c cl = some g') :
    Sections op c g g' := by
  unfold Gateway.handler at h
  cases hstage : cl.stage with
  | authLookup challenge proof =>
    simp only [hstage, Option.some.injEq, ClientStage.opCode] at h hop
    subst h hop
    unfold Gateway.authLookup
    cases g.routes.lookupRoute challenge.diskID with
    | none => exact .refuse rfl cl.failAuth (by decide)
    | some entry =>
      dsimp only
      split_ifs with hproof
      · exact .refuse rfl cl.failAuth (by decide)
      · exact .inl ⟨_, rfl, rfl, trivial⟩
  | authClock diskID entry =>
    simp only [hstage, Option.some.injEq, ClientStage.opCode] at h hop
    subst h hop
    exact .setStage rfl cl rfl trivial
  | authIssue diskID entry expiresAt =>
    simp only [hstage, Option.some.injEq, ClientStage.opCode] at h hop
    subst h hop
    unfold Gateway.authIssue
    dsimp only
    cases cl.finishAuth with
    | none => exact Sections.refuse rfl cl.failAuth (by decide)
    | some cl' =>
      refine Sections.respond rfl cl' fun _ => .inr (.inl ⟨rfl, rfl, _, ?_, hgrants, rfl⟩)
      exact Nat.succ_pos _
  | openLookup authID =>
    simp only [hstage, Option.some.injEq, ClientStage.opCode] at h hop
    subst h hop
    unfold Gateway.openLookup
    rcases g.grants.lookupDisk g.now authID c with ⟨grants, found⟩
    cases found with
    | error status => exact Sections.refuse rfl cl.failSessionOpen (toStatus_ne status)
    | ok diskID => exact Sections.setStage rfl cl rfl trivial
  | openRoute authID diskID =>
    simp only [hstage, Option.some.injEq, ClientStage.opCode] at h hop
    subst h hop
    unfold Gateway.openRoute
    cases g.routes.lookupRoute diskID with
    | none => exact .refuse rfl cl.failSessionOpen (by decide)
    | some entry => exact .setStage rfl cl rfl trivial
  | openLink authID entry =>
    simp only [hstage, Option.some.injEq, ClientStage.opCode] at h hop
    subst h hop
    unfold Gateway.openLink
    split_ifs with hlink
    · exact .setStage rfl cl rfl trivial
    · exact .refuse rfl cl.failSessionOpen (mapSessionError_ne _)
  | openRegister authID entry upstream =>
    simp only [hstage, Option.some.injEq, ClientStage.opCode] at h hop
    subst h hop
    refine Sections.setStage rfl cl rfl ⟨?_, ?_⟩
    · exact Nat.add_pos_left (Nat.two_pow_pos 63) _
    · show 2 ^ 63 + (g.sessions.nextID + 1) < 2 ^ 64
      omega
  | openConsume authID entry upstream session =>
    simp only [hstage, Option.some.injEq, ClientStage.opCode] at h hop
    rw [hstage] at hn
    subst h hop
    unfold Gateway.openConsume
    rcases g.grants.consumeDisk authID with ⟨grants, consumed⟩
    dsimp only
    split_ifs with hconsumed
    · exact Sections.setStage rfl cl rfl (by decide : Status.authIDInvalid ≠ .ok)
    · cases cl.finishSessionOpen with
      | none => exact Sections.setStage rfl cl rfl (by decide : Status.invalidRequest ≠ .ok)
      | some cl' =>
        exact Sections.respond rfl cl' fun _ => .inr (.inr ⟨rfl, hn.1, hn.2, rfl⟩)
  | openAbort entry upstream session status =>
    simp only [hstage, Option.some.injEq, ClientStage.opCode] at h hop
    rw [hstage] at hn
    subst h hop
    exact Sections.setStage rfl cl rfl hn
  | openNotice entry upstream status =>
    simp only [hstage, Option.some.injEq, ClientStage.opCode] at h hop
    rw [hstage] at hn
    subst h hop
    refine Sections.refuse ?_ cl.failSessionOpen hn
    unfold Gateway.sendNotice
    split <;> rfl
  | idle | openUpstream _ _ | closingGrants | closingSessions | closingNotices _ | closed =>
    simp [hstage, ClientStage.opCode] at h hop

theorem sections_openUpstream (authID : Nat) (entry : Entry) (reply : Except SessionError Nat) :
    Sections opSessionOpen c g (g.openUpstream c cl authID entry reply) := by
  cases reply with
  | error e => exact .refuse rfl cl.failSessionOpen (mapSessionError_ne e)
  | ok upstream => exact .setStage rfl cl rfl trivial

end Requests

end YumeDisk.Server
