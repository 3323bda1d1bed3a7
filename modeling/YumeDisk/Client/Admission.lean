import YumeDisk.Client.Agreement
import YumeDisk.Client.Lifecycle
import YumeDisk.Server.Admission
import YumeDisk.Server.Config

/-!
# Who knows the claim code is let in (`connection_authenticator.rs`, `session_opener.rs`)

A client that has the claim code of a disk authenticates and opens a session, payload by payload,
while the gateway serves any other connections in between.

* `authFinishPayload`: what `authenticate` does between its two responses.
* `payload_serve`: what the gateway makes of a request of the client.
* `claimCode_granted`: **a client that knows the claim code is given a grant**.
* `grant_opened`: **a grant is given a session**.
-/

namespace YumeDisk.Client

open Lib (Bytes runFrom StepsMeet)
open Server (Zstd GatewayConfig ClientHandler HandlerAction Entry Grant putUint64)
open Server.ClientHandler (Waits Serves Owns HasGrant HasSession own next opens)

/-- `authenticate` between its two responses; `hmac` is `crypto_win32::hmac_sha512`. -/
def authFinishPayload (hmac : Bytes → Bytes → Vector UInt8 64) (material : ClaimCodeMaterial)
    (startId finishId : UInt64) (response : Bytes) : Except NetworkClientError Bytes :=
  match AuthStartResponse.decodeResponse response startId with
  | .error e => .error (.protocol e)
  | .ok start =>
    let proof := hmac material.authVerifier.toList start.salt
    match AuthFinishRequest.encodeRequest ⟨start.challengeToken, proof⟩ finishId with
    | .error e => .error (.protocol e)
    | .ok payload => .ok payload

/-! ## What the gateway makes of the requests -/

/-- The request of the gateway that a payload is. -/
def gatewayRequest (salt : Vector UInt8 16) : ClientRequest → Option Server.Request
  | .authStart r => some (.authStart 0 r.diskId salt.toList)
  | .authFinish r =>
    some (.authFinish 0 (Server.buildAuthFinishRequestBody r.challengeToken r.proof.toList))
  | .sessionOpen r => some (.sessionOpen 0 (putUint64 r.authId.toNat))
  | _ => none

variable {cfg : GatewayConfig} {client server : Zstd} {F : Type}
  {handle : Server.WholeMode.FileHandle F} {s s' : ClientHandler} {c : Nat} {cl : Server.Client}
  {answered : List Server.Exchange}

/-- **A request of the client reaches its handler.** -/
theorem payload_serve {req : ClientRequest} {id : UInt64} {payload : Bytes}
    {salt : Vector UInt8 16} {q : Server.Request}
    (hreq : req.encodeRequest client id = .ok payload) (hq : gatewayRequest salt req = some q)
    (h : s.Waits c cl none answered)
    (hs : s.step cfg server handle (.payload c payload salt) = some s') :
    s.serve cfg c payload (requestHeader req.opCode id req.sessionId).toServer
      (.gateway (.request c q)) = some s' := by
  obtain ⟨hparse, hbody⟩ := parse_encodeRequest hreq
  obtain ⟨hid, -, -⟩ := ClientRequest.encodeRequest_ok hreq
  have hvalid := validate_requestHeader req.opCode hid req.sessionId
  have hflags : (requestHeader req.opCode id req.sessionId).toServer.flags ≠ Server.flagNotice := by
    show (0 : UInt8) ≠ Server.flagNotice
    decide
  simp only [ClientHandler.step, h.client, h.serving, h.proxy] at hs
  split_ifs at hs
  simp only [ClientHandler.handlePayload, hparse, if_neg hflags, hvalid, Bool.not_true,
    Bool.false_eq_true, if_false, hbody] at hs
  cases req with
  | authStart r =>
    obtain rfl := Option.some.inj hq
    exact hs
  | authFinish r =>
    obtain rfl := Option.some.inj hq
    exact hs
  | sessionOpen r =>
    obtain rfl := Option.some.inj hq
    exact hs
  | sessionDescribe | readAt | writeAt | connHeartbeat => cases hq

/-! ## The three payloads -/

variable {entry : Entry} {deadline : Nat} {requestId : UInt64} {payload : Bytes}
  {salt : Vector UInt8 16}

/-- What `Issue` gives to a start request that arrives in state `s`. -/
def issued (cfg : GatewayConfig) (s : ClientHandler) (c : Nat) (diskId : Bytes)
    (salt : Vector UInt8 16) : Bytes :=
  let signed := Server.TokenCodec.body c (s.plane.gateway.now + Server.challengeTTL) diskId
    salt.toList
  signed ++ cfg.codec.hmac cfg.codec.secret signed

theorem issue_eq {diskId : Bytes} (hdisk : diskId.length = 16) :
    cfg.codec.issue s.plane.gateway.now c diskId Server.challengeTTL salt.toList =
      .ok (⟨diskId, salt.toList, s.plane.gateway.now + Server.challengeTTL⟩,
        issued cfg s c diskId salt) := by
  have hlen : ¬ diskId.length ≠ Server.diskIDLength := not_not.mpr hdisk
  have httl : ¬ Server.challengeTTL = 0 := by decide
  unfold Server.TokenCodec.issue
  rw [if_neg hlen, if_neg httl]
  rfl

theorem length_issued (hhmac : ∀ key msg, (cfg.codec.hmac key msg).length = 64) {diskId : Bytes}
    (hdisk : diskId.length = 16) : (issued cfg s c diskId salt).length = 113 := by
  simp only [issued, Server.TokenCodec.body, List.length_append, List.length_cons,
    Server.length_putUint64, hdisk, hhmac, Vector.length_toList]

theorem step_authStart {diskId : Bytes} (hhmac : ∀ key msg, (cfg.codec.hmac key msg).length = 64)
    (hreq : (AuthStartRequest.mk diskId).encodeRequest requestId = .ok payload)
    (h : s.Waits c {} none answered)
    (hs : s.step cfg server handle (.payload c payload salt) = some s') :
    ∃ response, s'.Waits c { authInFlight := true } none (⟨c, payload, response⟩ :: answered) ∧
      AuthStartResponse.decodeResponse response requestId =
        .ok ⟨1, 30, salt.toList, issued cfg s c diskId salt⟩ := by
  have hreq' : (ClientRequest.authStart ⟨diskId⟩).encodeRequest server requestId = .ok payload :=
    hreq
  obtain ⟨-, ⟨hlen, hall⟩, -⟩ := ClientRequest.encodeRequest_ok hreq'
  obtain ⟨hstep, rfl⟩ := h.serve (payload_serve hreq' rfl h hs)
  have hparse : Server.parseAuthStartRequestBody diskId = some diskId := by
    unfold Server.parseAuthStartRequestBody
    rw [if_pos ⟨hlen, by rw [isAlphaNumeric_eq]; exact hall⟩]
  have hnext : s.plane.gateway.handleRequest cfg c {} (.authStart 0 diskId salt.toList) =
      s.plane.gateway.respond c { authInFlight := true } {
        status := .ok
        body := Server.buildAuthStartResponseBody 30 salt.toList
          (issued cfg s c diskId salt) } := by
    simp only [Server.Gateway.handleRequest, Server.Gateway.handleAuthStart, hparse,
      Server.Client.beginAuth, issue_eq hlen]
    rfl
  rw [hnext] at hstep ⊢
  have hlength : (issued cfg s c diskId salt).length = 113 := length_issued hhmac hlen
  have hw := h.responded hstep (Function.update_self _ _ _) h.proxy
    (Function.update_self c (some ⟨payload, (requestHeader .authStart requestId 0).toServer⟩)
      s.serving) rfl rfl
  exact ⟨_, hw, decode_authStart Vector.length_toList (le_of_le_of_eq (by decide) hlength.symm)
    (lt_of_eq_of_lt hlength (by decide))⟩

theorem computeProof_eq (hmac : Bytes → Bytes → Vector UInt8 64)
    (hcodec : ∀ key msg, cfg.codec.hmac key msg = (hmac key msg).toList) (verifier salt : Bytes) :
    Server.computeProof cfg.codec.hmac verifier salt = (hmac verifier salt).toList := by
  have hlen : (hmac verifier salt).toList.length = 64 := by simp
  have htake : ((hmac verifier salt).toList).take Server.authProofSize =
      (hmac verifier salt).toList := List.take_of_length_le (le_of_eq hlen)
  have hdrop : (List.replicate Server.authProofSize (0 : UInt8)).drop (0 + 64) = [] := rfl
  rw [Server.computeProof, hcodec, htake, Lib.splice, hlen, hdrop, List.take_zero, List.nil_append,
    List.append_nil]

theorem step_authFinish {token : Bytes} {proof : Vector UInt8 64}
    {challenge : Server.Challenge}
    (hreq : (AuthFinishRequest.mk token proof).encodeRequest requestId = .ok payload)
    (hparse : cfg.codec.parse s.plane.gateway.now c token = .ok challenge)
    (h : s.Waits c { authInFlight := true } none answered)
    (hs : s.step cfg server handle (.payload c payload salt) = some s') :
    s'.Waits c (.authenticating (.authLookup challenge proof.toList))
      (some ⟨payload, (requestHeader .authFinish requestId 0).toServer⟩) answered := by
  have hreq' : (ClientRequest.authFinish ⟨token, proof⟩).encodeRequest server requestId =
    .ok payload := hreq
  obtain ⟨-, ⟨hmin, hmax⟩, -⟩ := ClientRequest.encodeRequest_ok hreq'
  obtain ⟨hstep, rfl⟩ := h.serve (payload_serve hreq' rfl h hs)
  have hbody : Server.parseAuthFinishRequestBody
      (Server.buildAuthFinishRequestBody token proof.toList) = some (token, proof.toList) :=
    Server.parse_buildAuthFinishRequestBody hmin (Nat.lt_succ_of_le hmax) (by simp; rfl)
  have hnext : s.plane.gateway.handleRequest cfg c { authInFlight := true }
      (.authFinish 0 (Server.buildAuthFinishRequestBody token proof.toList)) =
        s.plane.gateway.setStage c { authInFlight := true }
          (.authLookup challenge proof.toList) := by
    simp only [Server.Gateway.handleRequest, Server.Gateway.handleAuthFinish, hbody, hparse]
    rfl
  rw [hnext] at hstep ⊢
  exact h.moved hstep (Function.update_self _ _ _) h.proxy (Function.update_self _ _ _) rfl
    (by rintro ⟨⟩)

theorem step_sessionOpen {authId : UInt64}
    (hreq : (SessionOpenRequest.mk authId).encodeRequest requestId = .ok payload)
    (h : s.Waits c {} none answered)
    (hs : s.step cfg server handle (.payload c payload salt) = some s') :
    s'.Waits c (.opening (.openLookup authId.toNat))
      (some ⟨payload, (requestHeader .sessionOpen requestId 0).toServer⟩) answered ∧
    s'.plane.gateway.grants = s.plane.gateway.grants := by
  have hreq' : (ClientRequest.sessionOpen ⟨authId⟩).encodeRequest server requestId =
    .ok payload := hreq
  obtain ⟨-, hid, -⟩ := ClientRequest.encodeRequest_ok hreq'
  obtain ⟨hstep, rfl⟩ := h.serve (payload_serve hreq' rfl h hs)
  have hbody : Server.parseSessionOpenRequestBody (putUint64 authId.toNat) = some authId.toNat := by
    have hnat : authId.toNat ≠ 0 := fun hzero => hid (UInt64.toNat_inj.mp hzero)
    unfold Server.parseSessionOpenRequestBody
    rw [Server.uint64_putUint64 authId.toNat_lt, if_neg]
    exact not_or.mpr ⟨fun hlen => hlen rfl, hnat⟩
  have hnext : s.plane.gateway.handleRequest cfg c {} (.sessionOpen 0 (putUint64 authId.toNat)) =
      s.plane.gateway.setStage c { openInFlight := true } (.openLookup authId.toNat) := by
    simp only [Server.Gateway.handleRequest, Server.Gateway.handleSessionOpen, hbody,
      Server.Client.beginSessionOpen]
    rfl
  rw [hnext] at hstep ⊢
  refine ⟨h.moved hstep (Function.update_self _ _ _) h.proxy (Function.update_self _ _ _) rfl
    (by rintro ⟨⟩), ?_⟩
  rw [(ClientHandler.finish_frame _ c).1]
  rfl

/-! ## Let in -/

/-- Connection `c` is there, and it neither authenticates nor opens nor has a request served. -/
structure Free (c : Nat) (s : ClientHandler) : Prop where
  client : s.plane.gateway.clients c = some {}
  proxy : s.plane.proxy c = none
  serving : s.serving c = none

theorem free_of_waits (h : s.Waits c {} none answered) : Free c s := ⟨h.client, h.proxy, h.serving⟩

/-- What every step keeps. -/
structure Kept (s : ClientHandler) : Prop where
  inv : s.plane.Inv
  ownLookups : s.plane.gateway.OwnLookups

theorem kept_init : Kept {} := ⟨Server.Plane.inv_init, Server.Gateway.ownLookups_init⟩

theorem Kept.step {a : HandlerAction F} (h : Kept s)
    (hs : s.step cfg server handle a = some s') : Kept s' := by
  have hother : a.client ≠ some (a.client.getD 0 + 1) := by
    cases a.client with
    | none => nofun
    | some n => exact fun he => absurd (Option.some.inj he) (Nat.ne_of_lt (Nat.lt_succ_self n))
  rcases (ClientHandler.aside_step hother hs).plane with heq | ⟨b, hb, -⟩
  · exact ⟨heq ▸ h.inv, heq ▸ h.ownLookups⟩
  · exact ⟨Server.Plane.step_inv s.plane b s'.plane h.inv hb,
      Server.Plane.ownLookups_step h.inv h.ownLookups hb⟩

/-- A connection that is free, in a state that a run reaches. -/
theorem waits_of_run {as : List (HandlerAction F)}
    (hr : runFrom (ClientHandler.step cfg server handle) {} as = some s) (hfree : Free c s) :
    s.Waits c {} none (s.answers c) := by
  have hkept := Lib.run_inv (I := Kept) (fun _ _ _ h hs => h.step hs) kept_init hr
  exact ⟨hkept.inv, hkept.ownLookups, hfree.client, hfree.proxy, hfree.serving, rfl⟩

theorem parseClaimCode_ok {claimCode : Bytes} {verifier : Vector UInt8 64}
    {material : ClaimCodeMaterial} (h : parseClaimCode claimCode (.ok verifier) = .ok material) :
    material.diskId = claimCode.take 16 ∧ material.authVerifier = verifier := by
  unfold parseClaimCode at h
  split_ifs at h
  obtain rfl := Except.ok.inj h
  exact ⟨rfl, rfl⟩

/-- The storer reads the same claim code as the client. -/
theorem config_parseClaimCode_ok {go : Server.Config.Runtime} {claimCode : Bytes}
    {m : Server.Config.Material} (h : Server.Config.parseClaimCode go claimCode = .ok m) :
    m.diskID = claimCode.take 16 ∧ m.authVerifier = go.sha512 claimCode := by
  unfold Server.Config.parseClaimCode at h
  split_ifs at h
  obtain rfl := Except.ok.inj h
  exact ⟨rfl, rfl⟩

theorem encodeRequest_authFinish {token : Bytes} (proof : Vector UInt8 64)
    (hmin : 1 ≤ token.length) (hmax : token.length < 65536) (hid : requestId ≠ 0) :
    ∃ payload, (AuthFinishRequest.mk token proof).encodeRequest requestId = .ok payload := by
  have hlen : ¬ (token.length < authChallengeTokenMinBytes ∨ token.length > 65535) :=
    not_or.mpr ⟨not_lt.mpr hmin, not_lt.mpr (Nat.le_of_lt_succ hmax)⟩
  unfold AuthFinishRequest.encodeRequest
  rw [if_neg hlen, ProtocolHeader.newRequest, if_neg hid]
  exact ⟨_, rfl⟩

/-- The second half of an authentication. -/
theorem admits_authFinish {token : Bytes} {proof : Vector UInt8 64}
    {salt' : Vector UInt8 16}
    (hreq : (AuthFinishRequest.mk token proof).encodeRequest requestId = .ok payload)
    (hparse : ∀ now < deadline, ∃ ch : Server.Challenge, cfg.codec.parse now c token = .ok ch ∧
      ch.diskID = entry.diskID ∧ ch.salt = salt.toList)
    (hproof : proof.toList =
      Server.computeProof cfg.codec.hmac entry.authVerifier salt.toList) :
    ClientHandler.Admits cfg server handle c entry deadline
      (Waits c { authInFlight := true } none answered)
      [.payload c payload salt', next c, next c, next c]
      (HasGrant c entry fun g => ⟨c, payload, ({ status := .ok, body := putUint64 g.id } :
        Server.Response).encode (requestHeader .authFinish requestId 0).toServer⟩ :: answered) := by
  refine .cons (R := fun s => ∃ ch : Server.Challenge, (ch.diskID = entry.diskID ∧
    ch.salt = salt.toList) ∧ Waits c (.authenticating (.authLookup ch proof.toList))
      (some ⟨payload, (requestHeader .authFinish requestId 0).toServer⟩) answered s)
    ClientHandler.stable_waits (fun s s' h hG hs => ?_) (.exists fun ch => .const fun hch => ?_)
  · obtain ⟨ch, hok, hch⟩ := hparse _ hG.now
    exact ⟨ch, hch, step_authFinish hreq hok h hs⟩
  · exact ClientHandler.admits_proof hch.1 (hproof.trans (by rw [hch.2]))

/-- **A client that knows the claim code is given a grant.**  The storer has registered the disk
with the claim code; the client asks for a challenge, answers it, and the gateway takes the sections
of its handler, with any steps of the other connections, of the storers and of the clock in between.
As long as the storer serves the disk and the challenge has not expired, the answer of the gateway
is the id of a grant. -/
theorem claimCode_granted {go : Server.Config.Runtime} {claimCode : Bytes}
    {m : Server.Config.Material} {verifier : Vector UInt8 64} {material : ClaimCodeMaterial}
    (hstorer : Server.Config.parseClaimCode go claimCode = .ok m)
    (hclaim : parseClaimCode claimCode (.ok verifier) = .ok material)
    (hsha : go.sha512 claimCode = verifier.toList)
    (hdisk : entry.diskID = m.diskID) (hverifier : entry.authVerifier = m.authVerifier)
    {hmac : Bytes → Bytes → Vector UInt8 64}
    (hcodec : ∀ key msg, cfg.codec.hmac key msg = (hmac key msg).toList)
    {as : List (HandlerAction F)} {s s₁ : ClientHandler}
    (hr : runFrom (ClientHandler.step cfg server handle) {} as = some s)
    (hfree : Free c s)
    (hconn : c < 2 ^ 64)
    (hlate : (s.plane.gateway.now + Server.challengeTTL) / Server.second < 2 ^ 63)
    {startId finishId : UInt64} (hfinishId : finishId ≠ 0) {startPayload : Bytes}
    (hstart : (AuthStartRequest.mk material.diskId).encodeRequest startId = .ok startPayload)
    (hs : s.step cfg server handle (.payload c startPayload salt) = some s₁) :
    ∃ challenge finishPayload,
      s₁.answers c = ⟨c, startPayload, challenge⟩ :: s.answers c ∧
      authFinishPayload hmac material startId finishId challenge = .ok finishPayload ∧
      ∀ bs s₂ salt', runFrom (ClientHandler.step cfg server handle) s₁ bs = some s₂ →
        bs.filter (own c) = [.payload c finishPayload salt', next c, next c, next c] →
        StepsMeet (ClientHandler.step cfg server handle) (fun t _ => t.Serves entry
          ((s.plane.gateway.now + Server.challengeTTL) / Server.second * Server.second)) s₁ bs →
        ∃ response authId, s₂.answers c = ⟨c, finishPayload, response⟩ :: s₁.answers c ∧
          AuthFinishRequest.decodeResponse response finishId = .ok authId ∧
          Free c s₂ ∧ ∃ g, s₂.plane.gateway.grants.items authId.toNat = some g ∧
            g.clientConnection = c ∧ g.diskID = material.diskId := by
  obtain ⟨hmaterial, hauth⟩ := parseClaimCode_ok hclaim
  obtain ⟨hm, hmauth⟩ := config_parseClaimCode_ok hstorer
  have hentryDisk : material.diskId = entry.diskID := by rw [hmaterial, hdisk, hm]
  have hentryAuth : entry.authVerifier = material.authVerifier.toList := by
    rw [hverifier, hmauth, hsha, hauth]
  have hhmac : ∀ key msg, (cfg.codec.hmac key msg).length = 64 := fun key msg => by
    rw [hcodec, Vector.length_toList]
  have hw := waits_of_run hr hfree
  obtain ⟨challenge, hw₁, hdecode⟩ := step_authStart hhmac hstart hw hs
  have hlength : (issued cfg s c material.diskId salt).length = 113 :=
    length_issued hhmac material.length_diskId
  obtain ⟨finishPayload, hfinish⟩ :=
    encodeRequest_authFinish (hmac material.authVerifier.toList salt.toList)
      (le_of_le_of_eq (by decide) hlength.symm) (lt_of_eq_of_lt hlength (by decide)) hfinishId
  refine ⟨challenge, finishPayload, hw₁.answers, ?_, fun bs s₂ salt' hrun hown hserves => ?_⟩
  · simp only [authFinishPayload, hdecode, hfinish]
  have hparse : ∀ now < (s.plane.gateway.now + Server.challengeTTL) / Server.second * Server.second,
      ∃ ch : Server.Challenge,
        cfg.codec.parse now c (issued cfg s c material.diskId salt) = .ok ch ∧
          ch.diskID = entry.diskID ∧ ch.salt = salt.toList := fun now hnow =>
    ⟨_, Server.TokenCodec.parse_issue (issue_eq material.length_diskId) (hhmac _)
      Vector.length_toList hconn hlate hnow, hentryDisk, rfl⟩
  have hproof : (hmac material.authVerifier.toList salt.toList).toList =
      Server.computeProof cfg.codec.hmac entry.authVerifier salt.toList := by
    rw [computeProof_eq hmac hcodec, hentryAuth]
  have hadmits : ClientHandler.Admits cfg server handle c entry _
      (Waits c { authInFlight := true } none (⟨c, startPayload, challenge⟩ :: s.answers c))
      [.payload c finishPayload salt', next c, next c, next c] _ :=
    admits_authFinish hfinish hparse hproof
  obtain ⟨g, howns, hw₂, hitem⟩ := hadmits s₁ bs s₂ hw₁ hown hserves hrun
  obtain ⟨authId, hid, hne⟩ := exists_uint64 howns.pos howns.lt
  refine ⟨_, authId, hw₂.answers.trans (by rw [hw₁.answers]), ?_, free_of_waits hw₂, g,
    hid ▸ hitem, howns.connection, howns.disk.trans hentryDisk.symm⟩
  rw [← hid]
  exact decode_authFinish hne

/-- A session open, from the request to its answer. -/
theorem admits_sessionOpen {authId : UInt64} {g : Grant}
    (hreq : (SessionOpenRequest.mk authId).encodeRequest requestId = .ok payload)
    (howns : Owns c entry g) (hid : g.id = authId.toNat) (u : Nat) :
    ClientHandler.Admits cfg server handle c entry g.expiresAt
      (fun s => Waits c {} none answered s ∧ s.plane.gateway.grants.items g.id = some g)
      [.payload c payload salt, next c, next c, next c, opens c u, next c, next c]
      (HasSession c fun session =>
        ⟨c, payload, ({ status := .ok, sessionID := session } : Server.Response).encode
          (requestHeader .sessionOpen requestId 0).toServer⟩ :: answered) := by
  refine .cons (ClientHandler.stable_grant howns.connection howns.disk) (fun s s' h _ hs => ?_)
    (ClientHandler.admits_grant
      (x := ⟨payload, (requestHeader .sessionOpen requestId 0).toServer⟩) howns u)
  obtain ⟨hw, hgrants⟩ := step_sessionOpen hreq h.1 hs
  exact ⟨hid ▸ hw, by rw [hgrants, h.2]⟩

/-- **A grant is given a session.**  The client asks for a session with the id of its grant, and the
storer opens one; again with any steps of the others in between, as long as the storer serves the
disk and the grant has not expired. -/
theorem grant_opened {as : List (HandlerAction F)} {s s' : ClientHandler}
    (hr : runFrom (ClientHandler.step cfg server handle) {} as = some s) (hfree : Free c s)
    {authId openId : UInt64} {g : Grant}
    (hgrant : s.plane.gateway.grants.items authId.toNat = some g) (hconn : g.clientConnection = c)
    (hdisk : g.diskID = entry.diskID)
    (hopen : (SessionOpenRequest.mk authId).encodeRequest openId = .ok payload)
    {bs : List (HandlerAction F)} (u : Nat)
    (hr' : runFrom (ClientHandler.step cfg server handle) s bs = some s')
    (hown : bs.filter (own c) =
      [.payload c payload salt, next c, next c, next c, opens c u, next c, next c])
    (hserves : StepsMeet (ClientHandler.step cfg server handle)
      (fun t _ => t.Serves entry g.expiresAt) s bs) :
    ∃ response session, s'.answers c = ⟨c, payload, response⟩ :: s.answers c ∧
      SessionOpenResponse.decodeResponse response openId = .ok session ∧ Free c s' := by
  have hw := waits_of_run hr hfree
  have hid : g.id = authId.toNat := (s.plane.gateway.grants.keyed _ g hgrant).1
  have hreq : (ClientRequest.sessionOpen ⟨authId⟩).encodeRequest server openId = .ok payload :=
    hopen
  have hne : authId ≠ 0 := (ClientRequest.encodeRequest_ok hreq).2.1
  have hpos : 0 < authId.toNat := Nat.pos_of_ne_zero fun hzero => hne (UInt64.toNat_inj.mp hzero)
  have howns : Owns c entry g := ⟨hid ▸ hpos, hid ▸ authId.toNat_lt, hconn, hdisk⟩
  obtain ⟨session, ⟨hsession, hmax⟩, hw'⟩ :=
    admits_sessionOpen hopen howns hid u s bs s' ⟨hw, hid ▸ hgrant⟩ hown hserves hr'
  obtain ⟨sessionId, hnat, hnonzero⟩ := exists_uint64 hsession hmax
  refine ⟨_, sessionId, hw'.answers, ?_, free_of_waits hw'⟩
  rw [← hnat]
  exact decode_sessionOpen hnonzero

/-! ## Two clients -/

/-- Stands for HMAC-SHA512: 64 bytes that begin with the key. -/
def keyedHmac (key msg : Bytes) : Vector UInt8 64 := .ofFn fun i => (key ++ msg).getD i 0

def keyedConfig : GatewayConfig := ⟨⟨fun key msg => (keyedHmac key msg).toList, [7]⟩, ""⟩

def keyedCode : Bytes := List.replicate 16 97 ++ List.replicate 64 98

/-- Stands for the Go library, with the secret of a claim code for its SHA-512. -/
def keyedRuntime : Server.Config.Runtime := ⟨fun _ => true, some, fun s => s.drop 16⟩

def keyedVerifier : Vector UInt8 64 := .replicate 64 98

def keyedMaterial : ClaimCodeMaterial :=
  ⟨List.replicate 16 97, keyedVerifier, by decide, by decide⟩

def keyedEntry : Entry := ⟨List.replicate 16 97, List.replicate 64 98, "storer", 1, true⟩

/-- The storer has registered the disk, and there are two clients. -/
def registeredRun : List (HandlerAction Bytes) :=
  [.plane (.gateway (.acceptStorer "storer")),
    .plane (.gateway (.register 1 ⟨"", keyedEntry.diskID, keyedEntry.authVerifier⟩)),
    .plane (.gateway .acceptClient), .plane (.gateway .acceptClient)]

def keyedStart : Bytes := encoded (.authStart ⟨keyedMaterial.diskId⟩) 1

/-- What the first client answers the challenge with. -/
def keyedFinish : Bytes :=
  encoded (.authFinish ⟨issued keyedConfig {} 2 keyedMaterial.diskId plainSalt,
    keyedHmac keyedMaterial.authVerifier.toList plainSalt.toList⟩) 2

/-- The first client answers while the second asks for a challenge. -/
def grantedRun : List (HandlerAction Bytes) :=
  [.payload 3 keyedStart plainSalt, .payload 2 keyedFinish plainSalt, .plane (.gateway (.tick 5)),
    next 2, .payload 3 (encoded .connHeartbeat 2) plainSalt, next 2, next 2]

/-- What can be checked of `Serves`. -/
def servesNow (entry : Entry) (deadline : Nat) (s : ClientHandler) : Prop :=
  s.plane.gateway.routes.lookupRoute entry.diskID = some entry ∧
    s.plane.gateway.links entry.connectionID = true ∧ s.plane.gateway.now < deadline ∧
    s.plane.gateway.Room ∧
    ∀ e ≤ s.plane.gateway.nextConn, ∀ st ∈ s.plane.gateway.storers e, st.stage = .serving

instance (entry : Entry) (deadline : Nat) (s : ClientHandler) :
    Decidable (servesNow entry deadline s) :=
  inferInstanceAs (Decidable (_ ∧ _ ∧ _ ∧ _ ∧ ∀ e ≤ _, _))

theorem serves_of_now {deadline : Nat} (h : Kept s) (hnow : servesNow entry deadline s) :
    s.Serves entry deadline where
  route := hnow.1
  link := hnow.2.1
  diskOpen := fun e st ds hst hstage => by
    rw [hnow.2.2.2.2 e (h.inv.torn.storerIDs e st hst) st hst] at hstage
    cases hstage
  now := hnow.2.2.1
  room := hnow.2.2.2.1

theorem keyed_hmac (key msg : Bytes) :
    keyedConfig.codec.hmac key msg = (keyedHmac key msg).toList := by
  simp only [keyedConfig]

def keyedStored : Server.Config.Material :=
  ⟨keyedCode, List.replicate 16 97, List.replicate 64 98⟩

theorem keyed_stored : Server.Config.parseClaimCode keyedRuntime keyedCode = .ok keyedStored := by
  decide

theorem keyed_known : parseClaimCode keyedCode (.ok keyedVerifier) = .ok keyedMaterial := by
  unfold parseClaimCode
  rw [dif_neg (by decide), dif_pos (by decide)]
  rfl

theorem keyed_sha : keyedRuntime.sha512 keyedCode = keyedVerifier.toList := by
  decide

theorem keyed_start :
    (AuthStartRequest.mk keyedMaterial.diskId).encodeRequest 1 = .ok keyedStart := by
  decide

/-- The gateway of the two clients. -/
abbrev keyedStep : ClientHandler → HandlerAction Bytes → Option ClientHandler :=
  ClientHandler.step keyedConfig storedZstd Server.WholeMode.memoryFile

/-- Connection 2 is free. -/
def freeNow (s : ClientHandler) : Prop :=
  s.plane.gateway.clients 2 = some {} ∧ (s.plane.proxy 2).isNone ∧ (s.serving 2).isNone

instance (s : ClientHandler) : Decidable (freeNow s) := inferInstanceAs (Decidable (_ ∧ _))

theorem free_of_now (h : freeNow s) : Free 2 s :=
  ⟨h.1, Option.isNone_iff_eq_none.mp h.2.1, Option.isNone_iff_eq_none.mp h.2.2⟩

theorem claimCode_granted_keyed : ∃ s₁ s₂ response authId,
    runFrom keyedStep {} (registeredRun ++ [.payload 2 keyedStart plainSalt]) = some s₁ ∧
    runFrom keyedStep s₁ grantedRun = some s₂ ∧
    s₂.answers 2 = ⟨2, keyedFinish, response⟩ :: s₁.answers 2 ∧
    AuthFinishRequest.decodeResponse response 2 = .ok authId := by
  obtain ⟨s, hs, hp⟩ := Lib.exists_run keyedStep {} registeredRun
    (fun s => decide (freeNow s ∧ s.plane.gateway.now = 0) &&
      (keyedStep s (.payload 2 keyedStart plainSalt)).any fun s₁ =>
        (runFrom keyedStep s₁ grantedRun).isSome &&
        decide (StepsMeet keyedStep
          (fun t _ => servesNow keyedEntry (30 * Server.second) t) s₁ grantedRun) &&
        (s₁.answers 2).head?.any fun x => decide
          (authFinishPayload keyedHmac keyedMaterial 1 2 x.response = .ok keyedFinish))
    (by decide +kernel)
  rw [Bool.and_eq_true, decide_eq_true_eq] at hp
  obtain ⟨⟨hfree, hnow⟩, hp⟩ := hp
  obtain ⟨s₁, hs₁, hp⟩ := (Option.any_eq_true _ _).mp hp
  rw [Bool.and_eq_true, Bool.and_eq_true, decide_eq_true_eq] at hp
  obtain ⟨⟨hsome, hserves⟩, hhead⟩ := hp
  obtain ⟨x, hx, hfinish⟩ := (Option.any_eq_true _ _).mp hhead
  obtain ⟨s₂, hs₂⟩ := Option.isSome_iff_exists.mp hsome
  have hrun : runFrom keyedStep {} (registeredRun ++ [.payload 2 keyedStart plainSalt]) =
      some s₁ := by
    rw [Lib.runFrom_append, hs, Option.bind_some, runFrom, hs₁]
    rfl
  have hkept := Lib.run_inv (I := Kept) (fun _ _ _ h hs => h.step hs) kept_init hrun
  have hdisk : keyedEntry.diskID = keyedStored.diskID := rfl
  have hverifier : keyedEntry.authVerifier = keyedStored.authVerifier := rfl
  have hlate : (s.plane.gateway.now + Server.challengeTTL) / Server.second < 2 ^ 63 := by
    rw [hnow]
    decide
  have hfinishId : (2 : UInt64) ≠ 0 := by decide
  obtain ⟨challenge, finishPayload, hanswers, hpayload, hrest⟩ :=
    claimCode_granted keyed_stored keyed_known keyed_sha hdisk hverifier keyed_hmac hs
      (free_of_now hfree) (by decide) hlate hfinishId keyed_start hs₁
  have hsame : finishPayload = keyedFinish := by
    rw [hanswers, List.head?_cons] at hx
    obtain rfl := Option.some.inj hx
    exact Except.ok.inj (hpayload.symm.trans (of_decide_eq_true hfinish))
  subst hsame
  have hdeadline : (s.plane.gateway.now + Server.challengeTTL) / Server.second * Server.second =
      30 * Server.second := by
    rw [hnow]
    decide
  rw [hdeadline] at hrest
  obtain ⟨response, authId, hlast, hdecode, -⟩ := hrest grantedRun s₂ plainSalt hs₂ rfl
    (Lib.StepsMeet.mono (I := Kept) (fun _ _ h hnow => serves_of_now h hnow)
      (fun _ _ _ h hs => h.step hs) hkept hserves)
  exact ⟨s₁, s₂, response, authId, hrun, hs₂, hlast, hdecode⟩

/-- The first client opens a session while the second waits. -/
def openedRun : List (HandlerAction Bytes) :=
  [.plane (.gateway (.tick 1)), .payload 2 (encoded (.sessionOpen ⟨1⟩) 3) plainSalt, next 2, next 2,
    .plane (.gateway .acceptClient), next 2, opens 2 9, .plane (.gateway (.endClient 3)), next 2,
    next 2]

/-- The first grant. -/
def keyedGrant : Grant := ⟨1, 2, keyedEntry.diskID, 5 + Server.challengeTTL⟩

theorem grant_opened_keyed : ∃ s s' response session,
    runFrom keyedStep {} (registeredRun ++ .payload 2 keyedStart plainSalt :: grantedRun) =
      some s ∧
    runFrom keyedStep s openedRun = some s' ∧
    s'.answers 2 = ⟨2, encoded (.sessionOpen ⟨1⟩) 3, response⟩ :: s.answers 2 ∧
    SessionOpenResponse.decodeResponse response 3 = .ok session := by
  obtain ⟨s, hs, hp⟩ := Lib.exists_run keyedStep {}
    (registeredRun ++ .payload 2 keyedStart plainSalt :: grantedRun)
    (fun s => decide (freeNow s ∧ s.plane.gateway.grants.items 1 = some keyedGrant) &&
      (runFrom keyedStep s openedRun).isSome &&
      decide (StepsMeet keyedStep
        (fun t _ => servesNow keyedEntry keyedGrant.expiresAt t) s openedRun))
    (by decide +kernel)
  rw [Bool.and_eq_true, Bool.and_eq_true, decide_eq_true_eq, decide_eq_true_eq] at hp
  obtain ⟨⟨⟨hfree, hgrant⟩, hsome⟩, hserves⟩ := hp
  obtain ⟨s', hs'⟩ := Option.isSome_iff_exists.mp hsome
  have hkept := Lib.run_inv (I := Kept) (fun _ _ _ h hs => h.step hs) kept_init hs
  have hconn : keyedGrant.clientConnection = 2 := rfl
  have hitem : s.plane.gateway.grants.items (1 : UInt64).toNat = some keyedGrant := hgrant
  have hdisk : keyedGrant.diskID = keyedEntry.diskID := rfl
  have hopen : (SessionOpenRequest.mk 1).encodeRequest 3 = .ok (encoded (.sessionOpen ⟨1⟩) 3) := by
    decide
  obtain ⟨response, session, hlast, hdecode, -⟩ :=
    grant_opened hs (free_of_now hfree) hitem hconn hdisk hopen 9 hs' rfl
      (Lib.StepsMeet.mono (I := Kept) (fun _ _ h hnow => serves_of_now h hnow)
        (fun _ _ _ h hs => h.step hs) hkept hserves)
  exact ⟨s, s', response, session, hs, hs', hlast, hdecode⟩

end YumeDisk.Client
