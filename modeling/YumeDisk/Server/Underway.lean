import YumeDisk.Server.Replies

/-!
# A request that a client waits for

* `Plane.Positive`: no session has the id 0.
* `Plane.Underway`: where the request is; `Plane.Outcome`: a section of its handler goes on, or it
  has responded with what the operation is to give.
* `Plane.step_frame`: a step of one client leaves the requests of the others alone.
-/

namespace YumeDisk.Server

open YumeDisk.Lib
open WholeMode (FileHandle)

/-! ## Ids -/

theorem Sections.stage {op : UInt8} {c : Nat} {g g' : Gateway} (h : Sections op c g g') :
    ∃ cl, g'.clients = Function.update g.clients c (some cl) ∧ cl.stage.Numbered := by
  rcases h with ⟨cl, hcl, -, hn⟩ | ⟨cl, _, _, hcl, hidle, -⟩
  · exact ⟨cl, hcl, hn⟩
  · exact ⟨cl, hcl, by rw [hidle]; trivial⟩

namespace Gateway

/-- No session has the id 0. -/
structure Positive (g : Gateway) : Prop where
  stages : ∀ c cl, g.clients c = some cl → cl.stage.Numbered
  sessions : ∀ id x, g.sessions.items id = some x → 0 < id

variable {cfg : GatewayConfig} {g g' : Gateway}

/-- One client has moved. -/
theorem Positive.update (h : g.Positive) {c : Nat} {cl : Client}
    (hclients : g'.clients = Function.update g.clients c (some cl)) (hcl : cl.stage.Numbered)
    (hsessions : ∀ id x, g'.sessions.items id = some x → 0 < id) : g'.Positive := by
  refine ⟨fun c' cl' hcl' => ?_, hsessions⟩
  rw [hclients] at hcl'
  by_cases hc : c' = c
  · rw [hc, Function.update_self] at hcl'
    exact Option.some.inj hcl' ▸ hcl
  · rw [Function.update_of_ne hc] at hcl'
    exact h.stages c' cl' hcl'

/-- A session that a step adds is above the base. -/
theorem Positive.sessions_step (h : g.Positive) (ht : g.Torn) {a : GatewayAction}
    (hs : g.step cfg a = some g') : ∀ id x, g'.sessions.items id = some x → 0 < id := by
  intro id x hx
  rcases Nat.eq_zero_or_pos id with rfl | hpos
  · have hnone : g.sessions.items 0 = none := by
      cases hy : g.sessions.items 0 with
      | none => rfl
      | some y => exact absurd (h.sessions 0 y hy) (lt_irrefl 0)
    have := (ht.step hs).spent 0 (Nat.zero_le _) hnone
    rw [this] at hx
    cases hx
  · exact hpos

/-- The counters do not wrap at the next id. -/
def Room (g : Gateway) : Prop := g.grants.nextID + 1 < 2 ^ 64 ∧ g.sessions.nextID + 1 < 2 ^ 63

instance (g : Gateway) : Decidable g.Room := inferInstanceAs (Decidable (_ ∧ _))

/-- The sections that end a connection. -/
theorem handler_closing {c : Nat} {cl : Client} (hop : cl.stage.opCode = none)
    (h : g.handler cfg c cl = some g') :
    ∃ cl', g'.clients = Function.update g.clients c (some cl') ∧ cl'.stage.Numbered ∧
      cl'.connected = false := by
  unfold Gateway.handler at h
  cases hstage : cl.stage with
  | closingGrants | closingSessions =>
    simp only [hstage, Option.some.injEq] at h
    subst h
    exact ⟨_, rfl, trivial, rfl⟩
  | closingNotices records =>
    cases records with
    | nil =>
      simp only [hstage, Option.some.injEq] at h
      subst h
      exact ⟨_, rfl, trivial, rfl⟩
    | cons record records =>
      simp only [hstage, Option.some.injEq] at h
      subst h
      refine ⟨{ cl with stage := .closingNotices records }, ?_, trivial, rfl⟩
      unfold Gateway.sendNotice
      split <;> rfl
  | idle | openUpstream _ _ | closed =>
    rw [hstage] at h
    cases h
  | _ =>
    rw [hstage] at hop
    cases hop

theorem Positive.handler {c : Nat} {cl : Client} (h : g.Positive) (ht : g.Torn) (hroom : g.Room)
    (hcl : g.clients c = some cl) (hs : g.handler cfg c cl = some g') : g'.Positive := by
  have hstep : g.step cfg (.handler c) = some g' := by
    show (g.clients c).bind _ = _
    rw [hcl]
    exact hs
  have hclient : ∃ cl', g'.clients = Function.update g.clients c (some cl') ∧
      cl'.stage.Numbered := by
    cases hop : cl.stage.opCode with
    | none =>
      obtain ⟨cl', hclients, hn, -⟩ := handler_closing hop hs
      exact ⟨cl', hclients, hn⟩
    | some op => exact (sections_handler g c cl hop (h.stages c cl hcl) hroom.1 hroom.2 hs).stage
  obtain ⟨cl', hclients, hn⟩ := hclient
  exact h.update hclients hn (h.sessions_step ht hstep)

/-- Every step but the arrival of a request. -/
theorem Positive.step {a : GatewayAction} (h : g.Positive) (ht : g.Torn) (hroom : g.Room)
    (hrequest : ∀ c req, a ≠ .request c req) (hs : g.step cfg a = some g') : g'.Positive := by
  have hsessions := h.sessions_step ht hs
  cases a with
  | request c req => exact absurd rfl (hrequest c req)
  | handler c =>
    obtain ⟨cl, hcl, hs⟩ := Option.bind_eq_some_iff.mp hs
    exact h.handler ht hroom hcl hs
  | upstream c reply =>
    obtain ⟨cl, hcl, hs⟩ := Option.bind_eq_some_iff.mp hs
    cases hst : cl.stage with
    | openUpstream id entry =>
      rw [hst] at hs
      cases hs
      obtain ⟨cl', hclients, hn⟩ := (sections_openUpstream g c cl id entry reply).stage
      exact h.update hclients hn hsessions
    | _ => rw [hst] at hs; cases hs
  | endClient c =>
    obtain ⟨cl, hcl, hs⟩ := Option.bind_eq_some_iff.mp hs
    split_ifs at hs with hidle
    cases hs
    exact h.update rfl trivial hsessions
  | acceptClient =>
    cases hs
    exact h.update rfl trivial hsessions
  | tick d | acceptStorer remoteAddr =>
    cases hs
    exact ⟨h.stages, hsessions⟩
  | register e req =>
    obtain ⟨st, hst, hs⟩ := Option.bind_eq_some_iff.mp hs
    split_ifs at hs with hserving
    cases hs
    refine ⟨?_, hsessions⟩
    have hclients : (g.register cfg e st req).clients = g.clients := by
      unfold register
      split_ifs
      · rfl
      · rfl
      · split <;> rfl
    rw [hclients]
    exact h.stages
  | endStorer e =>
    obtain ⟨st, hst, hs⟩ := Option.bind_eq_some_iff.mp hs
    split_ifs at hs with hserving
    cases hs
    exact ⟨h.stages, hsessions⟩
  | storer e =>
    obtain ⟨st, hst, hs⟩ := Option.bind_eq_some_iff.mp hs
    refine ⟨?_, hsessions⟩
    have hclients : g'.clients = g.clients := by
      unfold teardown at hs
      split at hs
      all_goals first
        | (obtain rfl := Option.some.inj hs; rfl)
        | cases hs
    rw [hclients]
    exact h.stages

end Gateway

/-! ## Sessions and notices -/

namespace Plane

/-- No session has the id 0, nor has a notice that is still to be written. -/
structure Positive (s : Plane) : Prop where
  gateway : s.gateway.Positive
  emitting : ∀ e, ∀ x ∈ s.emitting e, 0 < x.1.id ∧ x.2.length = 2

variable {cfg : GatewayConfig} {s s' : Plane} {c : Nat} {cl : Client}

theorem Positive.respond (h : s.Positive) (c : Nat) (cl : Client) (r : Response) :
    (s.respond c cl r).Positive :=
  ⟨h.gateway.update rfl trivial h.gateway.sessions, h.emitting⟩

theorem Positive.setProxy (h : s.Positive) (c : Nat) (p : Option ProxyStage) :
    (s.setProxy c p).Positive :=
  ⟨h.gateway, h.emitting⟩

theorem Positive.closeSession (h : s.Positive) (session : Nat) :
    (s.closeSession session).Positive := by
  refine ⟨⟨h.gateway.stages, fun id x hx => ?_⟩, h.emitting⟩
  change (s.gateway.sessions.close session).items id = some x at hx
  rw [Sessions.close_items] at hx
  split_ifs at hx
  exact h.gateway.sessions id x hx

theorem Positive.handleRequest (h : s.Positive) (c : Nat) (cl : Client) (op : ProxyOp)
    (sessionID : Nat) (body : Bytes) : (s.handleRequest c cl op sessionID body).Positive := by
  unfold Plane.handleRequest
  split_ifs
  · exact h.respond c cl _
  · split
    · exact h.respond c cl _
    · exact h.setProxy c _

theorem Positive.handleSessionCloseNotice (h : s.Positive) (c : Nat) (cl : Client)
    (sessionID : Nat) (body : Bytes) :
    (s.handleSessionCloseNotice c cl sessionID body).Positive := by
  unfold Plane.handleSessionCloseNotice
  split_ifs
  · exact ⟨h.gateway.update rfl trivial h.gateway.sessions, h.emitting⟩
  · split
    · exact h
    · exact h.setProxy c _

theorem Positive.advance {stage : ProxyStage} (h : s.Positive) (hs : s.advance c cl stage = some s') :
    s'.Positive := by
  unfold Plane.advance at hs
  cases stage with
  | link op body record =>
    dsimp only at hs
    split_ifs at hs <;> cases hs
    · exact h.setProxy c _
    · exact h.setProxy c _
  | upstream op body record => cases hs
  | drop record body =>
    cases hs
    exact (h.closeSession record.id).respond c cl _
  | close record =>
    cases hs
    exact (h.closeSession record.id).setProxy c _
  | notice record =>
    cases hs
    have hg : (s.gateway.sendNotice record.routeConnectionID record.upstreamSessionID).Positive := by
      unfold Gateway.sendNotice
      split
      · exact ⟨h.gateway.stages, h.gateway.sessions⟩
      · exact h.gateway
    exact ⟨hg, h.emitting⟩

/-- The records that a lost route or a storer closes. -/
theorem Positive.emits (h : s.Positive) {xs : List (Record × Bytes)} {e : Nat}
    (hxs : ∀ x ∈ xs, 0 < x.1.id ∧ x.2.length = 2) :
    ∀ e', ∀ x ∈ Function.update s.emitting e xs e', 0 < x.1.id ∧ x.2.length = 2 := by
  intro e' x hx
  by_cases he : e' = e
  · rw [he, Function.update_self] at hx
    exact hxs x hx
  · rw [Function.update_of_ne he] at hx
    exact h.emitting e' x hx

theorem Positive.record (h : s.Positive) (ht : s.gateway.Torn) {id : Nat} {x : Record}
    (hx : s.gateway.sessions.items id = some x) : 0 < x.id := by
  rw [(ht.indexed.keyed id x hx).1]
  exact h.gateway.sessions id x hx

theorem Positive.note (h : s.Positive) (ht : s.gateway.Torn) (a : GatewayAction) :
    ∀ e, ∀ x ∈ (s.note a).emitting e, 0 < x.1.id ∧ x.2.length = 2 := by
  cases a with
  | storer e =>
    unfold Plane.note
    dsimp only
    split
    · exact h.emitting
    · refine h.emits fun x hx => ?_
      obtain ⟨r, hr, rfl⟩ := List.mem_map.mp hx
      obtain ⟨id, -, hid⟩ := List.mem_filterMap.mp hr
      exact ⟨h.record ht hid, rfl⟩
    · exact h.emitting
  | upstream c reply =>
    cases reply with
    | error e => exact h.emitting
    | ok u =>
      unfold Plane.note
      dsimp only
      split
      · exact h.emitting
      · exact h.emitting
  | _ => exact h.emitting

theorem Positive.notifyRouteSessionClosed (h : s.Positive) (ht : s.gateway.Torn) (e u : Nat)
    {body : Bytes} (hbody : body.length = 2) : (s.notifyRouteSessionClosed e u body).Positive := by
  unfold Plane.notifyRouteSessionClosed
  rcases s.gateway.sessions.closeRouteSession_cases e u with heq | ⟨id, -, heq⟩
  · rw [heq]
    exact ⟨h.gateway, @Positive.emits s h [] e fun x hx => by cases hx⟩
  · rw [heq]
    refine ⟨(h.closeSession id).gateway, h.emits fun x hx => ?_⟩
    obtain ⟨r, hr, rfl⟩ := List.mem_map.mp hx
    exact ⟨h.record ht (Option.mem_toList.mp hr), hbody⟩

/-- Every step but the arrival of a request. -/
theorem Positive.step {a : PlaneAction} (h : s.Positive) (hi : s.Inv) (hroom : s.gateway.Room)
    (hrequest : ∀ c req, a ≠ .gateway (.request c req)) (hs : s.step cfg a = some s') :
    s'.Positive := by
  cases a with
  | gateway a =>
    simp only [Plane.step] at hs
    split_ifs at hs with hfree
    obtain ⟨g, hg, rfl⟩ := Option.map_eq_some_iff.mp hs
    exact ⟨h.gateway.step hi.torn hroom (fun c req ha => hrequest c req (by rw [ha])) hg,
      h.note hi.torn a⟩
  | request c op sessionID body =>
    obtain ⟨cl, hcl, hs⟩ := Option.bind_eq_some_iff.mp hs
    split_ifs at hs with hidle
    cases hs
    exact h.handleRequest c cl op sessionID body
  | closeNotice c sessionID body =>
    obtain ⟨cl, hcl, hs⟩ := Option.bind_eq_some_iff.mp hs
    split_ifs at hs with hidle
    cases hs
    exact h.handleSessionCloseNotice c cl sessionID body
  | advance c =>
    obtain ⟨cl, hcl, hs⟩ := Option.bind_eq_some_iff.mp hs
    obtain ⟨stage, hp, hs⟩ := Option.bind_eq_some_iff.mp hs
    exact h.advance hs
  | reply c status body =>
    obtain ⟨cl, hcl, hs⟩ := Option.bind_eq_some_iff.mp hs
    split at hs
    · cases hs
      unfold Plane.reply
      split
      · exact h.setProxy c _
      · exact h.respond c cl _
    · cases hs
  | lost c =>
    simp only [Plane.step] at hs
    split at hs
    · split_ifs at hs
      cases hs
      exact h.setProxy c _
    · cases hs
  | noticeFails c =>
    obtain ⟨cl, hcl, hs⟩ := Option.bind_eq_some_iff.mp hs
    split at hs
    · split_ifs at hs
      cases hs
      have hcl : ClientStage.closingGrants.Numbered := trivial
      exact ⟨@Gateway.Positive.update s.gateway (s.gateway.setStage c cl .closingGrants) h.gateway c
        { cl with stage := .closingGrants } rfl hcl h.gateway.sessions, h.emitting⟩
    · cases hs
  | breakLink e | storerCloses e u =>
    cases hs
    exact ⟨h.gateway, h.emitting⟩
  | storerNotice e u body =>
    obtain ⟨st, hst, hs⟩ := Option.bind_eq_some_iff.mp hs
    split_ifs at hs with hc
    cases hs
    exact h.notifyRouteSessionClosed hi.torn e u hc.2.2.2
  | emit e =>
    change s.emit e = some s' at hs
    unfold Plane.emit at hs
    cases hx : s.emitting e with
    | nil => rw [hx] at hs; cases hs
    | cons x rest =>
      rw [hx] at hs
      cases hs
      refine ⟨h.gateway, h.emits fun y hy => h.emitting e y ?_⟩
      rw [hx]
      exact List.mem_cons_of_mem _ hy

/-! ## A request that has not been answered -/

/-- Where the request is: in a handler of `Gateway`, or on its way to a storer and back. -/
def Underway (s : Plane) (c : Nat) (serving : Serving) : Prop :=
  (s.proxy c = none ∧ serving.header.sessionID = 0 ∧ ∃ cl, s.gateway.clients c = some cl ∧
    cl.stage.opCode = some serving.header.opCode) ∨
  ∃ op record, serving.header.opCode = op.code ∧ serving.header.sessionID = record.id ∧
    (s.proxy c = some (.link op (serving.payload.drop headerSize) record) ∨
      s.proxy c = some (.upstream op (serving.payload.drop headerSize) record) ∨
        ∃ body, s.proxy c = some (.drop record body))

/-- The response, if it says `OK`, is what the operation is to give. -/
def Answers (zstd : Zstd) (serving : Serving) (r : Response) : Prop :=
  r.status = .ok →
    SuccessBody zstd serving.header (serving.payload.drop headerSize) r.sessionID r.body

/-- After a section of the handler: it goes on, it has returned an error, or it has responded. -/
def Outcome (zstd : Zstd) (s : Plane) (c : Nat) (serving : Serving) : Prop :=
  s.Underway c serving ∨ (∃ cl, s.gateway.clients c = some cl ∧ cl.connected = false) ∨
    ∃ cl r log, s.gateway.clients c = some cl ∧ cl.stage = .idle ∧ s.proxy c = none ∧
      s.gateway.log = .responded c r :: log ∧ Answers zstd serving r

variable {zstd : Zstd} {serving : Serving}

theorem Underway.of_eq (h : s.Underway c serving)
    (hclient : ∀ cl, s.gateway.clients c = some cl → s'.gateway.clients c = some cl)
    (hproxy : s'.proxy c = s.proxy c) : s'.Underway c serving := by
  unfold Underway at *
  rw [hproxy]
  exact h.imp_left fun ⟨hnone, hsession, cl, hcl, hop⟩ => ⟨hnone, hsession, cl, hclient cl hcl, hop⟩

theorem answers_refuse {status : Status} (h : status ≠ .ok) (sessionID : Nat) (body : Bytes) :
    Answers zstd serving { status, sessionID, body } :=
  fun hok => absurd hok h

/-- The response of an authentication or of an open. -/
theorem answers_of_successful {r : Response} (hsession : serving.header.sessionID = 0)
    (h : r.status = .ok → r.Successful serving.header.opCode) : Answers zstd serving r := by
  intro hok
  rcases h hok with ⟨hop, hid, salt, token, hsalt, hpos, hmax, hbody⟩ | ⟨hop, hid, id, hpos, hmax,
    hbody⟩ | ⟨hop, hpos, hmax, hbody⟩
  · rw [hid, hbody]
    exact .authStart hop hsession hsalt hpos hmax
  · rw [hid, hbody]
    exact .authFinish hop hsession hpos hmax
  · rw [hbody]
    exact .sessionOpen hop hpos hmax

/-- A section of a handler of `Gateway`. -/
theorem outcome_of_sections {g : Gateway} (hg : s'.gateway = g) (hproxy : s'.proxy c = none)
    (hsession : serving.header.sessionID = 0)
    (h : Sections serving.header.opCode c s.gateway g) : s'.Outcome zstd c serving := by
  subst hg
  rcases h with ⟨cl, hcl, hop, -⟩ | ⟨cl, r, log, hcl, hidle, hlog, hr⟩
  · refine .inl (.inl ⟨hproxy, hsession, cl, ?_, hop⟩)
    rw [hcl, Function.update_self]
  · refine .inr (.inr ⟨cl, r, log, ?_, hidle, hproxy, hlog, answers_of_successful hsession hr⟩)
    rw [hcl, Function.update_self]

/-- A handler of a session responds. -/
theorem outcome_respond (cl : Client) {r : Response} (hr : Answers zstd serving r) :
    (s.respond c cl r).Outcome zstd c serving :=
  .inr (.inr ⟨{ cl with stage := .idle }, r, _, Function.update_self _ _ _, rfl,
    Function.update_self _ _ _, rfl, hr⟩)

/-- The arrival of a Describe, a ReadAt or a WriteAt. -/
theorem outcome_handleRequest (hi : s.Inv) (op : ProxyOp) (hop : serving.header.opCode = op.code)
    (cl : Client) : (s.handleRequest c cl op serving.header.sessionID
      (serving.payload.drop headerSize)).Outcome zstd c serving := by
  unfold Plane.handleRequest
  split_ifs with hzero
  · exact outcome_respond cl (answers_refuse (by decide) _ _)
  · cases howned : s.gateway.sessions.lookupOwned serving.header.sessionID c with
    | none => exact outcome_respond cl (answers_refuse (by decide) _ _)
    | some record =>
      have hitem := (Option.filter_eq_some_iff.mp howned).1
      refine .inl (.inr ⟨op, record, hop, (hi.torn.indexed.keyed _ _ hitem).1.symm, .inl ?_⟩)
      exact Function.update_self _ _ _

/-- A section of the handler that proxies. -/
theorem outcome_advance {stage : ProxyStage} (h : s.Underway c serving)
    (hp : s.proxy c = some stage) (hs : s.advance c cl stage = some s') :
    s'.Outcome zstd c serving := by
  rcases h with ⟨hnone, -⟩ | ⟨op, record, hop, hsession, hstage⟩
  · rw [hnone] at hp
    cases hp
  · rcases hstage with hlink | hup | ⟨body, hdrop⟩
    · obtain rfl := Option.some.inj (hp.symm.trans hlink)
      unfold Plane.advance at hs
      dsimp only at hs
      split_ifs at hs <;> cases hs
      · exact .inl (.inr ⟨op, record, hop, hsession, .inr (.inl (Function.update_self _ _ _))⟩)
      · exact .inl (.inr ⟨op, record, hop, hsession,
          .inr (.inr ⟨[], Function.update_self _ _ _⟩)⟩)
    · obtain rfl := Option.some.inj (hp.symm.trans hup)
      cases hs
    · obtain rfl := Option.some.inj (hp.symm.trans hdrop)
      cases hs
      exact outcome_respond cl (answers_refuse (by decide) _ _)

/-- The storer has replied. -/
theorem outcome_reply {status : Status} {record : Record} {body : Bytes} {op : ProxyOp}
    (hop : serving.header.opCode = op.code) (hsession : serving.header.sessionID = record.id)
    (hr : Answers zstd serving { status, sessionID := record.id, body }) :
    (s.reply c cl record status body).Outcome zstd c serving := by
  unfold Plane.reply
  split_ifs with hunavailable
  · exact .inl (.inr ⟨op, record, hop, hsession,
      .inr (.inr ⟨body, Function.update_self _ _ _⟩)⟩)
  · exact outcome_respond cl hr

/-! ## The other clients -/

/-- The client that a step is about. -/
def subject : PlaneAction → Option Nat
  | .gateway (.request c _) | .gateway (.handler c) | .gateway (.upstream c _)
  | .gateway (.endClient c) | .request c .. | .closeNotice c .. | .advance c | .reply c .. | .lost c
  | .noticeFails c => some c
  | _ => none

theorem note_proxy (s : Plane) (a : GatewayAction) : (s.note a).proxy = s.proxy := by
  unfold Plane.note
  split
  · split <;> rfl
  · rfl
  · split <;> rfl
  · rfl

theorem emit_frame {e : Nat} (hs : s.emit e = some s') :
    s'.gateway = s.gateway ∧ s'.proxy = s.proxy := by
  unfold Plane.emit at hs
  cases hx : s.emitting e with
  | nil => rw [hx] at hs; cases hs
  | cons x rest =>
    rw [hx] at hs
    cases hs
    exact ⟨rfl, rfl⟩

/-- A step of one client. -/
theorem frame_of_update {c' : Nat} (hc : c' ≠ c) {p : Option ProxyStage}
    (hclients : s'.gateway.clients = s.gateway.clients ∨
      ∃ cl, s'.gateway.clients = Function.update s.gateway.clients c (some cl))
    (hproxy : s'.proxy = s.proxy ∨ s'.proxy = Function.update s.proxy c p) :
    s'.gateway.clients c' = s.gateway.clients c' ∧ s'.proxy c' = s.proxy c' := by
  constructor
  · rcases hclients with heq | ⟨cl, heq⟩
    · rw [heq]
    · rw [heq, Function.update_of_ne hc]
  · rcases hproxy with heq | heq
    · rw [heq]
    · rw [heq, Function.update_of_ne hc]

/-- **A step leaves the other clients alone.** -/
theorem step_frame {a : PlaneAction} (hi : s.Inv) (hs : s.step cfg a = some s') {c' : Nat}
    (hsubject : subject a ≠ some c') {cl' : Client} (hcl' : s.gateway.clients c' = some cl') :
    s'.gateway.clients c' = some cl' ∧ s'.proxy c' = s.proxy c' := by
  have hne : ∀ {c}, subject a = some c → c' ≠ c := by
    rintro c hc rfl
    exact hsubject hc
  have hsame : s'.gateway.clients c' = s.gateway.clients c' ∧ s'.proxy c' = s.proxy c' →
      s'.gateway.clients c' = some cl' ∧ s'.proxy c' = s.proxy c' :=
    fun h => ⟨h.1.trans hcl', h.2⟩
  cases a with
  | gateway a =>
    simp only [Plane.step] at hs
    split_ifs at hs with hfree
    obtain ⟨g, hg, rfl⟩ := Option.map_eq_some_iff.mp hs
    refine ⟨(hi.torn.step hg).others c' (fun hw => hsubject ?_) cl' hcl', ?_⟩
    · cases a with
      | request | handler | upstream | endClient => cases hw; rfl
      | _ => cases hw
    · exact congrFun (note_proxy s a) c'
  | request c op sessionID body =>
    obtain ⟨cl, hcl, hs⟩ := Option.bind_eq_some_iff.mp hs
    split_ifs at hs with hidle
    cases hs
    refine hsame ?_
    unfold Plane.handleRequest
    split_ifs
    · exact frame_of_update (hne rfl) (.inr ⟨_, rfl⟩) (.inr rfl)
    · split
      · exact frame_of_update (hne rfl) (.inr ⟨_, rfl⟩) (.inr rfl)
      · exact frame_of_update (hne rfl) (.inl rfl) (.inr rfl)
  | closeNotice c sessionID body =>
    obtain ⟨cl, hcl, hs⟩ := Option.bind_eq_some_iff.mp hs
    split_ifs at hs with hidle
    cases hs
    refine hsame ?_
    unfold Plane.handleSessionCloseNotice
    split_ifs
    · exact @frame_of_update s _ c c' (hne rfl) none (.inr ⟨_, rfl⟩) (.inl rfl)
    · split
      · exact ⟨rfl, rfl⟩
      · exact frame_of_update (hne rfl) (.inl rfl) (.inr rfl)
  | advance c =>
    obtain ⟨cl, hcl, hs⟩ := Option.bind_eq_some_iff.mp hs
    obtain ⟨stage, hp, hs⟩ := Option.bind_eq_some_iff.mp hs
    refine hsame ?_
    unfold Plane.advance at hs
    cases stage with
    | link op body record =>
      dsimp only at hs
      split_ifs at hs <;> cases hs
      · exact frame_of_update (hne rfl) (.inl rfl) (.inr rfl)
      · exact frame_of_update (hne rfl) (.inl rfl) (.inr rfl)
    | upstream op body record => cases hs
    | drop record body =>
      cases hs
      exact frame_of_update (hne rfl) (.inr ⟨_, rfl⟩) (.inr rfl)
    | close record =>
      cases hs
      exact frame_of_update (hne rfl) (.inl rfl) (.inr rfl)
    | notice record =>
      cases hs
      refine frame_of_update (hne rfl) (.inl ?_) (.inr rfl)
      exact (Gateway.shrinks_sendNotice _ _ _).clients
  | reply c status body =>
    obtain ⟨cl, hcl, hs⟩ := Option.bind_eq_some_iff.mp hs
    split at hs
    · cases hs
      refine hsame ?_
      unfold Plane.reply
      split
      · exact frame_of_update (hne rfl) (.inl rfl) (.inr rfl)
      · exact frame_of_update (hne rfl) (.inr ⟨_, rfl⟩) (.inr rfl)
    · cases hs
  | lost c =>
    simp only [Plane.step] at hs
    split at hs
    · split_ifs at hs
      cases hs
      exact hsame (frame_of_update (hne rfl) (.inl rfl) (.inr rfl))
    · cases hs
  | noticeFails c =>
    obtain ⟨cl, hcl, hs⟩ := Option.bind_eq_some_iff.mp hs
    split at hs
    · split_ifs at hs
      cases hs
      exact hsame (frame_of_update (hne rfl) (.inr ⟨_, rfl⟩) (.inr rfl))
    · cases hs
  | breakLink e | storerCloses e u =>
    cases hs
    exact ⟨hcl', rfl⟩
  | storerNotice e u body =>
    obtain ⟨st, hst, hs⟩ := Option.bind_eq_some_iff.mp hs
    split_ifs at hs with hc
    cases hs
    exact ⟨hcl', rfl⟩
  | emit e =>
    obtain ⟨hg, hp⟩ := emit_frame hs
    exact ⟨hg ▸ hcl', congrFun hp c'⟩

end Plane

end YumeDisk.Server
