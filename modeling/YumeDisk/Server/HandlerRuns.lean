import YumeDisk.Server.Underway
import YumeDisk.Lib.Update

/-!
# The responses of a run of the gateway

* `HandlerGuard`: a SessionDescribe does not find its session on a disk of size 0, and the counters
  of auth ids and of sessions do not wrap.
* `Inv.finish`: what goes out at the end of a section; `step_inv`: one step.
* `sound_run`: in a run whose steps meet the guard, every response and every notice is sound.
-/

namespace YumeDisk.Server

open YumeDisk.Lib
open WholeMode (FileHandle)

/-! ## The handler -/

namespace ClientHandler

variable {F : Type} {cfg : GatewayConfig} {zstd : Zstd} {handle : FileHandle F}
  {s s' : ClientHandler} {c : Nat} {cl : Client}

/-- The invariant; the request of the client `busy` has just been moved. -/
structure Inv (zstd : Zstd) (busy : Option Nat) (s : ClientHandler) : Prop where
  plane : s.plane.Inv
  positive : s.plane.Positive
  serving : ∀ c sv, busy ≠ some c → s.serving c = some sv →
    parseHeader sv.payload = some sv.header ∧ s.plane.Underway c sv
  sound : s.Sound zstd

theorem inv_init : Inv zstd none {} where
  plane := Plane.inv_init
  positive := ⟨⟨nofun, nofun⟩, nofun⟩
  serving _ _ _ h := by cases h
  sound := ⟨nofun, nofun⟩

/-- **What goes out when a handler has responded.** -/
theorem replied_encode {conn : Nat} {sv : Serving} {r : Response}
    (hparse : parseHeader sv.payload = some sv.header) (hr : Plane.Answers zstd sv r) :
    Exchange.Replied zstd ⟨conn, sv.payload, r.encode sv.header⟩ := by
  refine ⟨sv.header, r.status.code, _, r.body, hparse, r.status.code_lt, rfl, ?_⟩
  by_cases hok : r.status = .ok
  · rw [if_pos hok]
    exact .inr ⟨Status.code_eq_zero.mpr hok, hr hok⟩
  · rw [if_neg hok]
    exact .inl ⟨fun h => hok (Status.code_eq_zero.mp h), rfl⟩

/-- An error that is answered at once. -/
theorem replied_error {conn : Nat} {payload : Bytes} {header : Header} {status : Nat}
    (hparse : parseHeader payload = some header) (hne : status ≠ 0) (hlt : status < 2 ^ 16) :
    Exchange.Replied zstd ⟨conn, payload, buildErrorResponse header status⟩ :=
  ⟨header, status, header.sessionID, [], hparse, hlt, rfl, .inl ⟨hne, rfl⟩⟩

theorem Inv.send (h : Inv zstd (some c) s) {payload response : Bytes}
    (hreplied : Exchange.Replied zstd ⟨c, payload, response⟩) :
    Inv zstd none (s.send c payload response) where
  plane := h.plane
  positive := h.positive
  serving c' sv _ hsv := by
    obtain ⟨hc, hsv⟩ := update_none hsv
    exact h.serving c' sv (fun he => hc (Option.some.inj he).symm) hsv
  sound := ⟨fun x hx => (List.mem_cons.mp hx).elim (fun hx => hx ▸ hreplied) (h.sound.sent x),
    h.sound.notices⟩

/-- The client is not waiting any more. -/
theorem Inv.clear (h : Inv zstd (some c) s) :
    Inv zstd none { s with serving := Function.update s.serving c none } where
  plane := h.plane
  positive := h.positive
  serving c' sv _ hsv := by
    obtain ⟨hc, hsv⟩ := update_none hsv
    exact h.serving c' sv (fun he => hc (Option.some.inj he).symm) hsv
  sound := ⟨h.sound.sent, h.sound.notices⟩

theorem Inv.settle (h : Inv zstd (some c) s) (hserving : ∀ sv, s.serving c = some sv →
    parseHeader sv.payload = some sv.header ∧ s.plane.Underway c sv) : Inv zstd none s where
  plane := h.plane
  positive := h.positive
  serving c' sv _ hsv := by
    by_cases hc : c' = c
    · subst hc
      exact hserving sv hsv
    · exact h.serving c' sv (fun he => hc (Option.some.inj he).symm) hsv
  sound := ⟨h.sound.sent, h.sound.notices⟩

theorem Inv.unsettle (h : Inv zstd none s) (c : Nat) : Inv zstd (some c) s :=
  ⟨h.plane, h.positive, fun c' sv _ hsv => h.serving c' sv nofun hsv, h.sound⟩

theorem opCode_idle {cl : Client} (h : cl.stage = .idle) : cl.stage.opCode = none := by
  rw [h]
  rfl

theorem connected_of_opCode {cl : Client} {op : UInt8} (h : cl.stage.opCode = some op) :
    cl.connected = true := by
  unfold Client.connected
  cases hstage : cl.stage with
  | closingGrants | closingSessions | closingNotices | closed =>
    rw [hstage] at h
    cases h
  | _ => rfl

/-- A request that is under way: its client is there, and its handler has not finished. -/
theorem underway_client {sv : Serving} (hi : s.plane.Inv) (h : s.plane.Underway c sv) :
    ∃ cl, s.plane.gateway.clients c = some cl ∧ cl.connected = true ∧
      ¬(cl.stage = .idle ∧ s.plane.proxy c = none) := by
  rcases h with ⟨-, -, cl, hcl, hop⟩ | ⟨op, record, -, -, hstage⟩
  · refine ⟨cl, hcl, connected_of_opCode hop, fun h => ?_⟩
    rw [opCode_idle h.1] at hop
    cases hop
  · have hsome : ∃ stage, s.plane.proxy c = some stage := by
      rcases hstage with h | h | ⟨body, h⟩
      · exact ⟨_, h⟩
      · exact ⟨_, h⟩
      · exact ⟨_, h⟩
    obtain ⟨stage, hproxy⟩ := hsome
    obtain ⟨cl, hcl, hidle⟩ := hi.proxied c stage hproxy
    refine ⟨cl, hcl, ?_, fun h => ?_⟩
    · unfold Client.connected
      rw [hidle]
    · rw [hproxy] at h
      cases h.2

/-- **The end of a section**: the response goes out, if there is one. -/
theorem Inv.finish (h : Inv zstd (some c) s) (hout : ∀ sv, s.serving c = some sv →
    parseHeader sv.payload = some sv.header ∧ s.plane.Outcome zstd c sv) :
    Inv zstd none (s.finish c) := by
  unfold ClientHandler.finish
  cases hsv : s.serving c with
  | none => exact h.settle fun sv hsv' => by rw [hsv] at hsv'; cases hsv'
  | some sv =>
    obtain ⟨hparse, hcases⟩ := hout sv hsv
    rcases hcases with hunder | ⟨cl, hcl, hconnected⟩ | ⟨cl, r, log, hcl, hidle, hproxy, hlog, hr⟩
    · obtain ⟨cl, hcl, hconnected, hbusy⟩ := underway_client h.plane hunder
      simp only [hcl, hconnected, Bool.not_true, Bool.false_eq_true, if_false, if_neg hbusy]
      refine h.settle fun sv' hsv' => ?_
      obtain rfl := Option.some.inj (hsv.symm.trans hsv')
      exact ⟨hparse, hunder⟩
    · simp only [hcl, hconnected, Bool.not_false, if_true]
      exact h.clear
    · have hconnected : cl.connected = true := by
        unfold Client.connected
        rw [hidle]
      simp only [hcl, hconnected, Bool.not_true, Bool.false_eq_true, if_false,
        if_pos (And.intro hidle hproxy), hlog]
      exact h.send (replied_encode hparse hr)

/-- A step of `Plane` for client `c`; nobody else's request moves. -/
theorem Inv.moved (h : Inv zstd none s) {a : PlaneAction} {plane : Plane}
    (hs : s.plane.step cfg a = some plane) (hpositive : plane.Positive)
    {serving : Nat → Option Serving} (hsubject : ∀ c', c' ≠ c → Plane.subject a ≠ some c')
    (hserving : ∀ c', c' ≠ c → serving c' = s.serving c') :
    Inv zstd (some c) { s with plane, serving } where
  plane := Plane.step_inv s.plane a plane h.plane hs
  positive := hpositive
  serving c' sv hc hsv := by
    have hne : c' ≠ c := fun he => hc (he ▸ rfl)
    change serving c' = some sv at hsv
    rw [hserving c' hne] at hsv
    obtain ⟨hparse, hunder⟩ := h.serving c' sv nofun hsv
    refine ⟨hparse, ?_⟩
    obtain ⟨cl, hcl, -⟩ := underway_client h.plane hunder
    obtain ⟨hclient, hproxy⟩ := Plane.step_frame h.plane hs (hsubject c' hne) hcl
    refine hunder.of_eq (fun cl' hcl' => ?_) hproxy
    obtain rfl := Option.some.inj (hcl.symm.trans hcl')
    exact hclient
  sound := ⟨h.sound.sent, h.sound.notices⟩

/-- A step of `Plane` that is about no client with a request under way. -/
theorem Inv.stepped (h : Inv zstd none s) {a : PlaneAction} {plane : Plane}
    (hs : s.plane.step cfg a = some plane) (hpositive : plane.Positive)
    (hsubject : ∀ c, Plane.subject a = some c → s.serving c = none) :
    Inv zstd none { s with plane } where
  plane := Plane.step_inv s.plane a plane h.plane hs
  positive := hpositive
  serving c sv _ hsv := by
    obtain ⟨hparse, hunder⟩ := h.serving c sv nofun hsv
    refine ⟨hparse, ?_⟩
    obtain ⟨cl, hcl, -⟩ := underway_client h.plane hunder
    have hne : Plane.subject a ≠ some c := by
      intro hc
      cases (hsubject c hc).symm.trans hsv
    obtain ⟨hclient, hproxy⟩ := Plane.step_frame h.plane hs hne hcl
    refine hunder.of_eq (fun cl' hcl' => ?_) hproxy
    obtain rfl := Option.some.inj (hcl.symm.trans hcl')
    exact hclient
  sound := ⟨h.sound.sent, h.sound.notices⟩

/-! ## Payloads -/

/-- A Describe, a ReadAt or a WriteAt. -/
theorem Inv.serveProxy (h : Inv zstd none s) (hroom : s.plane.gateway.Room) {payload : Bytes}
    {header : Header} (hparse : parseHeader payload = some header) (op : ProxyOp)
    (hop : header.opCode = op.code)
    (hs : s.serve cfg c payload header (.request c op header.sessionID (payload.drop headerSize)) =
      some s') : Inv zstd none s' := by
  obtain ⟨plane, hplane, rfl⟩ := Option.map_eq_some_iff.mp hs
  have hmoved : Inv zstd (some c)
      { s with plane, serving := Function.update s.serving c (some { payload, header }) } :=
    h.moved hplane (h.positive.step h.plane hroom (fun _ _ ha => by cases ha) hplane)
      (fun c' hc he => hc (Option.some.inj he).symm) fun c' hc => Function.update_of_ne hc _ _
  refine Inv.finish hmoved fun sv hsv => ?_
  obtain rfl := Option.some.inj ((Function.update_self c _ s.serving).symm.trans hsv)
  refine ⟨hparse, ?_⟩
  obtain ⟨cl, hcl, hstep⟩ := Option.bind_eq_some_iff.mp hplane
  split_ifs at hstep with hidle
  cases hstep
  exact @Plane.outcome_handleRequest s.plane c zstd ⟨payload, header⟩ h.plane op hop cl

/-- An authentication or an open, up to the first registry. -/
theorem Inv.serveRequest (h : Inv zstd none s) {payload : Bytes} {header : Header}
    (hparse : parseHeader payload = some header) (hproxy : s.plane.proxy c = none) (req : Request)
    (hrefused : header.sessionID ≠ 0 → ∀ cl, s.plane.gateway.handleRequest cfg c cl req =
      s.plane.gateway.respond c cl { status := .badHeader })
    (hsections : ∀ cl, (∃ cl', (s.plane.gateway.handleRequest cfg c cl req).clients =
        Function.update s.plane.gateway.clients c (some cl') ∧ cl'.stage = .closingGrants) ∨
      Sections header.opCode c s.plane.gateway (s.plane.gateway.handleRequest cfg c cl req))
    (hs : s.serve cfg c payload header (.gateway (.request c req)) = some s') :
    Inv zstd none s' := by
  obtain ⟨plane, hplane, rfl⟩ := Option.map_eq_some_iff.mp hs
  have hplane' := hplane
  simp only [Plane.step] at hplane'
  split_ifs at hplane' with hfree
  obtain ⟨g, hg, hp⟩ := Option.map_eq_some_iff.mp hplane'
  have hsessions := h.positive.gateway.sessions_step h.plane.torn hg
  obtain ⟨cl, hcl, hg⟩ := Option.bind_eq_some_iff.mp hg
  split_ifs at hg with hidle
  obtain rfl := Option.some.inj hg
  have hstage : ∃ cl', (s.plane.gateway.handleRequest cfg c cl req).clients =
      Function.update s.plane.gateway.clients c (some cl') ∧ cl'.stage.Numbered := by
    rcases hsections cl with ⟨cl', hclients, hclosing⟩ | hsec
    · exact ⟨cl', hclients, by rw [hclosing]; trivial⟩
    · exact hsec.stage
  obtain ⟨cl', hclients, hn⟩ := hstage
  have hpositive : plane.Positive := by
    rw [← hp]
    exact ⟨h.positive.gateway.update hclients hn hsessions, h.positive.emitting⟩
  have hmoved : Inv zstd (some c)
      { s with plane, serving := Function.update s.serving c (some { payload, header }) } :=
    h.moved hplane hpositive (fun c' hc he => hc (Option.some.inj he).symm)
      fun c' hc => Function.update_of_ne hc _ _
  refine Inv.finish hmoved fun sv hsv => ?_
  obtain rfl := Option.some.inj ((Function.update_self c _ s.serving).symm.trans hsv)
  refine ⟨hparse, ?_⟩
  have hgateway : plane.gateway = s.plane.gateway.handleRequest cfg c cl req := by rw [← hp]
  have hnone : plane.proxy c = none := by rw [← hp]; exact hproxy
  by_cases hzero : header.sessionID = 0
  · rcases hsections cl with ⟨cl'', hclients', hclosing⟩ | hsec
    · refine .inr (.inl ⟨cl'', ?_, by rw [Client.connected, hclosing]⟩)
      show plane.gateway.clients c = _
      rw [hgateway, hclients', Function.update_self]
    · exact Plane.outcome_of_sections (s := s.plane) hgateway hnone hzero hsec
  · rw [hrefused hzero cl] at hgateway
    refine .inr (.inr ⟨{ cl with stage := .idle }, _, s.plane.gateway.log, ?_, rfl, hnone, ?_,
      Plane.answers_refuse (by decide : Status.badHeader ≠ .ok) 0 []⟩)
    · show plane.gateway.clients c = _
      rw [hgateway]
      exact Function.update_self _ _ _
    · show plane.gateway.log = _
      rw [hgateway]
      rfl

/-- A payload without a response. -/
theorem Inv.handleNotice (h : Inv zstd none s) (hroom : s.plane.gateway.Room)
    {a : PlaneAction} (hrequest : ∀ c req, a ≠ .gateway (.request c req))
    (hsubject : Plane.subject a = some c) (hserving : s.serving c = none)
    (hs : s.handleNotice cfg a = some s') : Inv zstd none s' := by
  obtain ⟨plane, hplane, rfl⟩ := Option.map_eq_some_iff.mp hs
  refine h.stepped hplane (h.positive.step h.plane hroom hrequest hplane) fun c' hc => ?_
  rw [hsubject] at hc
  exact Option.some.inj hc ▸ hserving

theorem Inv.handleConnHeartbeat (h : Inv zstd none s) {payload : Bytes} {header : Header}
    (hparse : parseHeader payload = some header) (hop : header.opCode = opConnHeartbeat) :
    Inv zstd none (s.handleConnHeartbeat c payload header) := by
  unfold ClientHandler.handleConnHeartbeat
  split_ifs with hzero hbody
  · exact (h.unsettle c).send (replied_error hparse (by decide) (by decide))
  · exact (h.unsettle c).send (replied_error hparse (by decide) (by decide))
  · refine (h.unsettle c).send ⟨header, statusOK, header.sessionID, [], hparse, by decide, rfl,
      .inr ⟨rfl, ?_⟩⟩
    rw [not_not.mp hzero]
    exact .connHeartbeat hop (not_not.mp hzero)

variable (hmac : ∀ key msg, (cfg.codec.hmac key msg).length = 64)

include hmac in
/-- **A payload of a client.** -/
theorem Inv.handlePayload (h : Inv zstd none s) (hroom : s.plane.gateway.Room)
    (hserving : s.serving c = none) (hproxy : s.plane.proxy c = none) {payload : Bytes}
    {salt : Vector UInt8 16} (hs : s.handlePayload cfg c payload salt = some s') :
    Inv zstd none s' := by
  unfold ClientHandler.handlePayload at hs
  cases hparse : parseHeader payload with
  | none =>
    rw [hparse] at hs
    exact h.handleNotice hroom (fun _ _ ha => by cases ha) rfl hserving hs
  | some header =>
    rw [hparse] at hs
    dsimp only at hs
    split_ifs at hs with hnotice hvalid hclose hrequest hstart hfinish hopen hdescribe hheartbeat
      hread hwrite
    · exact h.handleNotice hroom (fun _ _ ha => by cases ha) rfl hserving hs
    · exact h.handleNotice hroom (fun _ _ ha => by cases ha) rfl hserving hs
    · exact h.handleNotice hroom (fun _ _ ha => by cases ha) rfl hserving hs
    · obtain rfl := Option.some.inj hs
      exact (h.unsettle c).send (replied_error hparse (by decide) (by decide))
    · refine h.serveRequest hparse hproxy
        (.authStart header.sessionID (payload.drop headerSize) salt.toList)
        (fun hzero cl => if_pos hzero) (fun cl => ?_) hs
      rw [hstart]
      exact sections_handleAuthStart hmac _ c cl _ _ salt
    · refine h.serveRequest hparse hproxy (.authFinish header.sessionID (payload.drop headerSize))
        (fun hzero cl => if_pos hzero) (fun cl => .inr ?_) hs
      rw [hfinish]
      exact sections_handleAuthFinish _ c cl _ _
    · refine h.serveRequest hparse hproxy (.sessionOpen header.sessionID (payload.drop headerSize))
        (fun hzero cl => if_pos hzero) (fun cl => .inr ?_) hs
      rw [hopen]
      exact sections_handleSessionOpen _ c cl _ _
    · exact h.serveProxy hroom hparse .describe hdescribe hs
    · obtain rfl := Option.some.inj hs
      exact h.handleConnHeartbeat hparse hheartbeat
    · exact h.serveProxy hroom hparse .readAt hread hs
    · exact h.serveProxy hroom hparse .writeAt hwrite hs
    · obtain rfl := Option.some.inj hs
      exact (h.unsettle c).send (replied_error hparse (by decide) (by decide))

/-! ## The other steps -/

/-- The session of a Describe that waits for the storer. -/
def described : Option ProxyStage → Option Record
  | some (.upstream .describe _ record) => some record
  | _ => none

/-- The counters do not wrap, and a Describe does not find its session on a disk of size 0. -/
def HandlerGuard (s : ClientHandler) : HandlerAction F → Prop
  | .roundTrip c proxy => s.plane.gateway.Room ∧ ∀ record ∈ described (s.plane.proxy c),
      ∀ service ∈ proxy.service (.ofNat record.routeConnectionID),
        service.Sized (.ofNat record.upstreamSessionID)
  | _ => s.plane.gateway.Room

instance (s : ClientHandler) : ∀ a : HandlerAction F, Decidable (s.HandlerGuard a)
  | .roundTrip c proxy => inferInstanceAs (Decidable (s.plane.gateway.Room ∧
      ∀ record ∈ described (s.plane.proxy c),
        ∀ service ∈ proxy.service (.ofNat record.routeConnectionID),
          service.Sized (.ofNat record.upstreamSessionID)))
  | .payload .. | .plane _ | .dataChanged .. => inferInstanceAs (Decidable s.plane.gateway.Room)

theorem Inv.roundTrip (h : Inv zstd none s) {proxy : SessionProxy F}
    (hG : s.HandlerGuard (.roundTrip c proxy))
    (hs : s.step cfg zstd handle (.roundTrip c proxy) = some s') : Inv zstd none s' := by
  simp only [ClientHandler.step] at hs
  split at hs
  · next op request record hup =>
    rcases hreply : proxy.roundTrip zstd handle (.ofNat record.routeConnectionID)
      (.ofNat record.upstreamSessionID) op.code request with ⟨code, body⟩
    rw [hreply] at hs
    obtain ⟨status, hstatus, hs⟩ := Option.bind_eq_some_iff.mp hs
    obtain ⟨plane, hplane, rfl⟩ := Option.map_eq_some_iff.mp hs
    have hmoved : Inv zstd (some c) { s with plane } :=
      h.moved hplane (h.positive.step h.plane hG.1 (fun _ _ ha => by cases ha) hplane)
        (fun c' hc he => hc (Option.some.inj he).symm) fun _ _ => rfl
    refine hmoved.finish fun sv hsv => ?_
    obtain ⟨hparse, hunder⟩ := h.serving c sv nofun hsv
    refine ⟨hparse, ?_⟩
    obtain ⟨cl, hcl, hstep⟩ := Option.bind_eq_some_iff.mp hplane
    rw [hup] at hstep
    obtain rfl := Option.some.inj hstep
    rcases hunder with ⟨hnone, -⟩ | ⟨op', record', hop, hsession, hstage⟩
    · rw [hnone] at hup
      cases hup
    · have hsame : op' = op ∧ sv.payload.drop headerSize = request ∧ record' = record := by
        rcases hstage with hp | hp | ⟨_, hp⟩
        · cases hp.symm.trans hup
        · cases hp.symm.trans hup
          exact ⟨rfl, rfl, rfl⟩
        · cases hp.symm.trans hup
      obtain ⟨rfl, hrequest, rfl⟩ := hsame
      refine Plane.outcome_reply hop hsession fun hok => ?_
      rw [hrequest, ← hsession]
      refine SessionProxy.roundTrip_reply op' (fun hd s hservice => ?_) hop hreply ?_
      · subst hd
        exact hG.2 record' (by rw [hup]; rfl) s hservice
      · have hcode := List.find?_some hstatus
        rw [show status = .ok from hok] at hcode
        exact (of_decide_eq_true hcode).symm
  · cases hs

/-- The next section of a handler, or the failure of its link. -/
theorem Inv.section (h : Inv zstd none s) (hroom : s.plane.gateway.Room) {a : PlaneAction}
    (hclient : a.client = some c) {plane : Plane} (hplane : s.plane.step cfg a = some plane) :
    Inv zstd none ({ s with plane }.finish c) := by
  have hrequest : ∀ c req, a ≠ .gateway (.request c req) := by
    rintro c req rfl
    cases hclient
  have hsubject : Plane.subject a = some c := by
    unfold PlaneAction.client at hclient
    split at hclient
    all_goals first
      | exact hclient
      | cases hclient
  have hmoved : Inv zstd (some c) { s with plane } :=
    h.moved hplane (h.positive.step h.plane hroom hrequest hplane)
      (fun c' hc he => hc (Option.some.inj (hsubject.symm.trans he)).symm) fun _ _ => rfl
  refine hmoved.finish fun sv hsv => ?_
  obtain ⟨hparse, hunder⟩ := h.serving c sv (by rintro ⟨⟩) hsv
  refine ⟨hparse, ?_⟩
  -- a client that proxies is idle
  have hgateway : ∀ {b : GatewayAction} {cl : Client}, a = .gateway b →
      s.plane.gateway.clients c = some cl → cl.stage ≠ .idle →
      s.plane.proxy c = none ∧ plane.proxy c = none ∧ sv.header.sessionID = 0 ∧
        cl.stage.opCode = some sv.header.opCode := by
    rintro b cl rfl hcl hbusy
    have hproxy : plane.proxy c = s.plane.proxy c := by
      simp only [Plane.step] at hplane
      split_ifs at hplane
      obtain ⟨g, -, rfl⟩ := Option.map_eq_some_iff.mp hplane
      exact congrFun (Plane.note_proxy s.plane b) c
    rcases hunder with ⟨hnone, hzero, cl', hcl', hop⟩ | ⟨op, record, -, -, hstage⟩
    · obtain rfl := Option.some.inj (hcl.symm.trans hcl')
      exact ⟨hnone, hproxy.trans hnone, hzero, hop⟩
    · have hsome : ∃ stage, s.plane.proxy c = some stage := by
        rcases hstage with hp | hp | ⟨body, hp⟩
        · exact ⟨_, hp⟩
        · exact ⟨_, hp⟩
        · exact ⟨_, hp⟩
      obtain ⟨stage, hp⟩ := hsome
      obtain ⟨cl', hcl', hidle⟩ := h.plane.proxied c stage hp
      obtain rfl := Option.some.inj (hcl.symm.trans hcl')
      exact absurd hidle hbusy
  cases a with
  | gateway b =>
    have hstep := hplane
    simp only [Plane.step] at hstep
    split_ifs at hstep
    obtain ⟨g, hg, hp⟩ := Option.map_eq_some_iff.mp hstep
    have hpg : plane.gateway = g := by rw [← hp]
    cases b with
    | handler c' =>
      cases hclient
      obtain ⟨cl, hcl, hhandler⟩ := Option.bind_eq_some_iff.mp hg
      have hbusy : cl.stage ≠ .idle := by
        intro hidle
        unfold Gateway.handler at hhandler
        rw [hidle] at hhandler
        cases hhandler
      obtain ⟨-, hnone, hzero, hop⟩ := hgateway rfl hcl hbusy
      exact Plane.outcome_of_sections hpg hnone hzero (sections_handler _ c cl hop
        (h.positive.gateway.stages c cl hcl) hroom.1 hroom.2 hhandler)
    | upstream c' reply =>
      cases hclient
      obtain ⟨cl, hcl, hup⟩ := Option.bind_eq_some_iff.mp hg
      cases hst : cl.stage with
      | openUpstream id entry =>
        rw [hst] at hup
        obtain rfl := Option.some.inj hup
        obtain ⟨-, hnone, hzero, hop⟩ := hgateway rfl hcl (by rw [hst]; rintro ⟨⟩)
        rw [hst] at hop
        refine Plane.outcome_of_sections (s := s.plane) hpg hnone hzero ?_
        rw [← Option.some.inj hop]
        exact sections_openUpstream _ c cl id entry reply
      | _ => rw [hst] at hup; cases hup
    | _ => cases hclient
  | advance c' =>
    cases hclient
    obtain ⟨cl, hcl, hstep⟩ := Option.bind_eq_some_iff.mp hplane
    obtain ⟨stage, hp, hstep⟩ := Option.bind_eq_some_iff.mp hstep
    exact Plane.outcome_advance hunder hp hstep
  | lost c' =>
    cases hclient
    simp only [Plane.step] at hplane
    split at hplane
    · next op body record hup =>
      split_ifs at hplane
      obtain rfl := Option.some.inj hplane
      rcases hunder with ⟨hnone, -⟩ | ⟨op', record', hop, hsession, hstage⟩
      · rw [hnone] at hup
        cases hup
      · have hsame : record' = record := by
          rcases hstage with hp | hp | ⟨_, hp⟩
          · cases hp.symm.trans hup
          · cases hp.symm.trans hup
            rfl
          · cases hp.symm.trans hup
        subst hsame
        exact .inl (.inr ⟨op', record', hop, hsession,
          .inr (.inr ⟨[], Function.update_self _ _ _⟩)⟩)
    · cases hplane
  | noticeFails c' =>
    cases hclient
    obtain ⟨cl, hcl, hstep⟩ := Option.bind_eq_some_iff.mp hplane
    split at hstep
    · next record hnotice =>
      rcases hunder with ⟨hnone, -⟩ | ⟨op', record', -, -, hstage⟩
      · cases hnone.symm.trans hnotice
      · rcases hstage with hp | hp | ⟨_, hp⟩ <;> cases hp.symm.trans hnotice
    · cases hstep
  | _ => cases hclient

/-- A notice that goes out. -/
theorem Inv.notice (h : Inv zstd none s) {conn : Nat} {payload : Bytes} (hn : Noticed payload) :
    Inv zstd none { s with notices := (conn, payload) :: s.notices } where
  plane := h.plane
  positive := h.positive
  serving := h.serving
  sound := ⟨h.sound.sent, fun n hn' =>
    (List.mem_cons.mp hn').elim (fun he => he ▸ hn) (h.sound.notices n)⟩

theorem closeNoticeBody_of_length {body : Bytes} (h : body.length = 2) :
    ∃ reason, reason < 2 ^ 16 ∧ body = buildSessionCloseNoticeBody reason := by
  match body, h with
  | [hi, lo], _ =>
    have hhi := hi.toNat_lt
    have hlo := lo.toNat_lt
    refine ⟨uint16 hi lo, by unfold uint16; omega, ?_⟩
    have hdiv : uint16 hi lo / 256 = hi.toNat := by unfold uint16; omega
    have hmod : UInt8.ofNat (uint16 hi lo) = lo := by
      apply UInt8.toNat_inj.mp
      rw [UInt8.toNat_ofNat']
      unfold uint16
      omega
    rw [buildSessionCloseNoticeBody, putUint16, hdiv, hmod, UInt8.ofNat_toNat]

/-- The close notice that a storer has come to. -/
theorem Inv.emit (h : Inv zstd none s) (hroom : s.plane.gateway.Room) {e : Nat} {plane : Plane}
    (hplane : s.plane.step cfg (.emit e) = some plane) :
    Inv zstd none ({ s with plane }.writeCloseNotice) := by
  have hstepped : Inv zstd none { s with plane } :=
    h.stepped hplane (h.positive.step h.plane hroom (fun _ _ ha => by cases ha) hplane) nofun
  change s.plane.emit e = some plane at hplane
  unfold Plane.emit at hplane
  cases hx : s.plane.emitting e with
  | nil => rw [hx] at hplane; cases hplane
  | cons x rest =>
    have hmem : x ∈ s.plane.emitting e := by rw [hx]; exact List.mem_cons_self
    obtain ⟨hpos, hlength⟩ := h.positive.emitting e x hmem
    have hle := (h.plane.emitting e x hmem).1.1
    obtain ⟨reason, hreason, hbody⟩ := closeNoticeBody_of_length hlength
    have hmax : x.1.id < 2 ^ 64 := by
      have := hroom.2
      have : gatewaySessionBaseID = 2 ^ 63 := rfl
      omega
    rw [hx] at hplane
    obtain rfl := Option.some.inj hplane
    unfold ClientHandler.writeCloseNotice
    dsimp only
    split_ifs with hwritten
    · refine hstepped.notice ⟨x.1.id, hpos, hmax, .inl ⟨reason, hreason, ?_⟩⟩
      rw [← hbody]
    · exact hstepped

theorem Inv.dataChanged (h : Inv zstd none s) (hroom : s.plane.gateway.Room) (route u : Nat) :
    Inv zstd none (s.notifyRouteSessionDataChanged route u) := by
  unfold ClientHandler.notifyRouteSessionDataChanged
  cases hfound : s.plane.gateway.sessions.lookupRouteSession route u with
  | none => exact h
  | some record =>
    obtain ⟨id, -, hid⟩ := Option.bind_eq_some_iff.mp hfound
    obtain ⟨hkey, hle⟩ := h.plane.torn.indexed.keyed id record hid
    have hmax : record.id < 2 ^ 64 := by
      have := hroom.2
      have : gatewaySessionBaseID = 2 ^ 63 := rfl
      omega
    dsimp only
    split_ifs
    · exact h.notice ⟨record.id, h.positive.record h.plane.torn hid, hmax, .inr rfl⟩
    · exact h

include hmac in
/-- **Every step keeps the invariant.** -/
theorem step_inv (s : ClientHandler) (a : HandlerAction F) (s' : ClientHandler)
    (h : Inv zstd none s) (hG : s.HandlerGuard a) (hs : s.step cfg zstd handle a = some s') :
    Inv zstd none s' := by
  cases a with
  | payload c payload salt =>
    simp only [ClientHandler.step] at hs
    split at hs
    · next cl hcl hserving hproxy =>
      split_ifs at hs
      exact h.handlePayload hmac hG hserving hproxy hs
    · cases hs
  | roundTrip c proxy => exact h.roundTrip hG hs
  | plane a =>
    simp only [ClientHandler.step] at hs
    split_ifs at hs with hpayload
    obtain ⟨plane, hplane, rfl⟩ := Option.map_eq_some_iff.mp hs
    have hrequest : ∀ c req, a ≠ .gateway (.request c req) := by
      rintro c req rfl
      exact hpayload rfl
    have hpositive := h.positive.step h.plane hG hrequest hplane
    split
    · exact h.emit hG hplane
    · cases hclient : a.client with
      | some c => exact h.section hG hclient hplane
      | none =>
        refine h.stepped hplane hpositive fun c hc => ?_
        -- what is left is the end of a connection
        cases hsv : s.serving c with
        | none => rfl
        | some sv =>
          obtain ⟨cl, hcl, -, hbusy⟩ := underway_client h.plane (h.serving c sv nofun hsv).2
          cases a with
          | gateway b =>
            cases b with
            | endClient c' =>
              obtain rfl := Option.some.inj hc
              simp only [Plane.step] at hplane
              split_ifs at hplane with hfree
              obtain ⟨g, hg, -⟩ := Option.map_eq_some_iff.mp hplane
              obtain ⟨cl', hcl', hg⟩ := Option.bind_eq_some_iff.mp hg
              obtain rfl := Option.some.inj (hcl.symm.trans hcl')
              split_ifs at hg with hidle
              exact absurd ⟨hidle, Option.isNone_iff_eq_none.mp hfree⟩ hbusy
            | request c' req => exact absurd rfl (hrequest c' req)
            | handler | upstream => cases hclient
            | _ => cases hc
          | request | closeNotice | reply => exact absurd rfl hpayload
          | advance | lost | noticeFails => cases hclient
          | _ => cases hc
  | dataChanged route u =>
    obtain rfl := Option.some.inj hs
    exact h.dataChanged hG route u

include hmac in
/-- **Every response and every notice is sound**, in a run whose steps meet the guard. -/
theorem sound_run {as : List (HandlerAction F)} {s : ClientHandler}
    (hG : StepsMeet (step cfg zstd handle) HandlerGuard {} as)
    (hr : runFrom (step cfg zstd handle) {} as = some s) : s.Sound zstd :=
  (run_inv_of_guard (step_inv hmac) as {} s inv_init hG hr).sound

end ClientHandler

end YumeDisk.Server
