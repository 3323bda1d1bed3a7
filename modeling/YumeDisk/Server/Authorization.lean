import YumeDisk.Server.Gateway
import YumeDisk.Lib.Update

/-!
# Who may open a session (`HandleAuthFinish`, `HandleSessionOpen`, `CloseRouteConnection`)

`Bound`: a session was opened only by a client that had proved itself against the very registration
that the session runs on, with a grant of its own that had not expired and had opened no session.

A grant names a disk, not a registration, and its removal, the issue of another and the
registration of the disk by another storer are separate sections.  So `Bound` does not hold of every
run (`reregistered_unbound`, `expired_unbound`); it holds of every run whose steps are `Unraced`
(`bound_of_unraced`).
-/

namespace YumeDisk.Server

open YumeDisk.Lib

/-- The auth id that a `SessionOpen` has looked up and not yet consumed. -/
def ClientStage.lookedUp : ClientStage → Option Nat
  | .openRoute authID _ | .openLink authID _ | .openUpstream authID _ | .openRegister authID _ _
  | .openConsume authID _ _ _ => some authID
  | _ => none

/-- The disk of an `AuthFinish` before its `Issue`, and the registration it was verified against. -/
def ClientStage.issuing : ClientStage → Option (DiskID × Entry)
  | .authIssue diskID entry _ => some (diskID, entry)
  | _ => none

namespace Gateway

variable {cfg : GatewayConfig}

/-- An `AuthFinish` of client `c` was verified against the registration `entry`. -/
def Proved (cfg : GatewayConfig) (log : List Event) (c : Nat) (entry : Entry) : Prop :=
  ∃ salt proof, .proved c entry salt proof ∈ log ∧
    proof = computeProof cfg.codec.hmac entry.authVerifier salt

/-- What must have happened before a session is opened. -/
def Justified (cfg : GatewayConfig) (past : List Event) : Event → Prop
  | .opened c entry authID _ time =>
    Proved cfg past c entry ∧ (∃ g, .issued g ∈ past ∧ g.id = authID) ∧
      (∀ g, .issued g ∈ past → g.id = authID →
        g.clientConnection = c ∧ g.diskID = entry.diskID ∧ time < g.expiresAt) ∧
      ∀ c' entry' session' time', .opened c' entry' authID session' time' ∉ past
  | _ => True

/-- **Every session that was opened was authorized.** -/
def Bound (cfg : GatewayConfig) (s : Gateway) : Prop :=
  ∀ ev past, ev :: past <:+ s.log → Justified cfg past ev

/-- A step outside the windows between the sections: a disk is registered while no grant for it is
valid, a grant is issued while the registration that was proved is the last of its disk, and no
grant expires between the `LookupDisk` and the `ConsumeDisk` of a `SessionOpen`. -/
def Unraced (cfg : GatewayConfig) (s : Gateway) : GatewayAction → Prop
  | .tick d => ∀ c ≤ s.nextConn, ∀ cl ∈ s.clients c, ∀ id ∈ cl.stage.lookedUp,
    ∀ g ∈ s.grants.items id, s.now + d < g.expiresAt
  | .handler c => ∀ cl ∈ s.clients c, ∀ x ∈ cl.stage.issuing, s.routes.registered x.1 = some x.2
  | .register e req => ∀ st ∈ s.storers e, st.registered = false →
    req.gatewayToken = cfg.gatewayToken →
      (s.routes.register ⟨req.diskID, req.authVerifier, st.remoteAddr, e, true⟩).isOk →
        ∀ id ∈ s.grants.byDisk req.diskID, ∀ g ∈ s.grants.items id, g.expiresAt ≤ s.now
  | _ => True

instance (s : Gateway) : ∀ a, Decidable (Unraced cfg s a)
  | .tick d => inferInstanceAs (Decidable (∀ c ≤ s.nextConn, ∀ cl ∈ s.clients c,
      ∀ id ∈ cl.stage.lookedUp, ∀ g ∈ s.grants.items id, s.now + d < g.expiresAt))
  | .handler c => inferInstanceAs (Decidable (∀ cl ∈ s.clients c, ∀ x ∈ cl.stage.issuing,
      s.routes.registered x.1 = some x.2))
  | .register e req => inferInstanceAs (Decidable (∀ st ∈ s.storers e, st.registered = false →
      req.gatewayToken = cfg.gatewayToken →
        (s.routes.register ⟨req.diskID, req.authVerifier, st.remoteAddr, e, true⟩).isOk →
          ∀ id ∈ s.grants.byDisk req.diskID, ∀ g ∈ s.grants.items id, g.expiresAt ≤ s.now))
  | .acceptClient | .acceptStorer _ | .request _ _ | .upstream _ _ | .endClient _ | .endStorer _
  | .storer _ => isTrue trivial

/-! ## The invariant -/

/-- What holds of a client in the middle of a request. -/
def StageInv (cfg : GatewayConfig) (s : Gateway) (c : Nat) : ClientStage → Prop
  | .authClock diskID entry | .authIssue diskID entry _ =>
    Proved cfg s.log c entry ∧ entry.diskID = diskID
  | .openRoute authID diskID =>
    authID ≤ s.grants.nextID ∧ ∀ g, s.grants.items authID = some g →
      g.clientConnection = c ∧ g.diskID = diskID ∧ s.now < g.expiresAt
  | .openLink authID entry | .openUpstream authID entry | .openRegister authID entry _
  | .openConsume authID entry _ _ =>
    authID ≤ s.grants.nextID ∧ ∀ g, s.grants.items authID = some g →
      g.clientConnection = c ∧ g.diskID = entry.diskID ∧ s.now < g.expiresAt ∧
        s.routes.registered g.diskID = some entry
  | _ => True

structure Inv (cfg : GatewayConfig) (s : Gateway) : Prop where
  bound : Bound cfg s
  /-- A grant is the one that was issued under its id, and while it is valid the last registration
  is the one that was proved. -/
  grants : ∀ id g, s.grants.items id = some g → .issued g ∈ s.log ∧ (s.now < g.expiresAt →
    ∃ entry, s.routes.registered g.diskID = some entry ∧ Proved cfg s.log g.clientConnection entry)
  issued : ∀ g, .issued g ∈ s.log → g.id ≤ s.grants.nextID ∧
    ∀ g', s.grants.items g.id = some g' → g' = g
  /-- The grant of an open session is gone. -/
  used : ∀ c entry authID session time, .opened c entry authID session time ∈ s.log →
    authID ≤ s.grants.nextID ∧ s.grants.items authID = none
  clients : ∀ c cl, s.clients c = some cl → c ≤ s.nextConn ∧ StageInv cfg s c cl.stage

theorem Proved.mono {log log' : List Event} {c : Nat} {e : Entry} (h : Proved cfg log c e)
    (hlog : log ⊆ log') : Proved cfg log' c e := by
  obtain ⟨salt, proof, hmem, hproof⟩ := h
  exact ⟨salt, proof, hlog hmem, hproof⟩

/-- What no step undoes, whoever takes it. -/
structure Evolves (s s' : Gateway) : Prop where
  log : s.log ⊆ s'.log
  nextConn : s.nextConn ≤ s'.nextConn
  nextID : s.grants.nextID ≤ s'.grants.nextID
  items : ∀ id g, id ≤ s.grants.nextID → s'.grants.items id = some g → s.grants.items id = some g
  registered : ∀ id g, s.grants.items id = some g → s.now < g.expiresAt →
    s'.routes.registered g.diskID = s.routes.registered g.diskID
  clock : ∀ c cl id g, s.clients c = some cl → cl.stage.lookedUp = some id →
    s.grants.items id = some g → s.now < g.expiresAt → s'.now < g.expiresAt
  now : s.now ≤ s'.now

theorem StageInv.evolves {s s' : Gateway} {c : Nat} {cl : Client} (hcl : s.clients c = some cl)
    (h : StageInv cfg s c cl.stage) (he : Evolves s s') : StageInv cfg s' c cl.stage := by
  have hclock := fun id g => he.clock c cl id g hcl
  revert h hclock
  cases cl.stage with
  | authClock d e => exact fun h _ => ⟨h.1.mono he.log, h.2⟩
  | authIssue d e t => exact fun h _ => ⟨h.1.mono he.log, h.2⟩
  | openRoute id d =>
    intro h hclock
    refine ⟨h.1.trans he.nextID, fun g hg => ?_⟩
    have hg := he.items id g h.1 hg
    obtain ⟨hc, hd, ht⟩ := h.2 g hg
    exact ⟨hc, hd, hclock id g rfl hg ht⟩
  | openLink id e | openUpstream id e | openRegister id e u | openConsume id e u n =>
    intro h hclock
    refine ⟨h.1.trans he.nextID, fun g hg => ?_⟩
    have hg := he.items id g h.1 hg
    obtain ⟨hc, hd, ht, hr⟩ := h.2 g hg
    exact ⟨hc, hd, hclock id g rfl hg ht, (he.registered id g hg ht).trans hr⟩
  | _ => exact fun _ _ => trivial

/-- **The invariant, from one state to the next**: what is new is the clients that have moved, the
grants that were issued and the events. -/
theorem Inv.evolves {s s' : Gateway} (h : Inv cfg s) (he : Evolves s s')
    (hclients : ∀ c cl, s'.clients c = some cl → s.clients c = some cl ∨
      c ≤ s'.nextConn ∧ StageInv cfg s' c cl.stage)
    (hgrants : ∀ id g, s'.grants.items id = some g → s.grants.items id = some g ∨
      .issued g ∈ s'.log ∧ ∃ entry, s'.routes.registered g.diskID = some entry ∧
        Proved cfg s'.log g.clientConnection entry)
    (hissued : ∀ g, .issued g ∈ s'.log → .issued g ∈ s.log ∨ s.grants.nextID < g.id ∧
      g.id ≤ s'.grants.nextID ∧ s'.grants.items g.id = some g)
    (hused : ∀ c e id n t, .opened c e id n t ∈ s'.log → .opened c e id n t ∈ s.log ∨
      id ≤ s.grants.nextID ∧ s'.grants.items id = none)
    (hbound : Bound cfg s') : Inv cfg s' where
  bound := hbound
  grants id g hg := by
    rcases hgrants id g hg with hold | hnew
    · obtain ⟨hlog, hproved⟩ := h.grants id g hold
      refine ⟨he.log hlog, fun ht => ?_⟩
      have ht := he.now.trans_lt ht
      obtain ⟨e, hr, hp⟩ := hproved ht
      exact ⟨e, (he.registered id g hold ht).trans hr, hp.mono he.log⟩
    · exact ⟨hnew.1, fun _ => hnew.2⟩
  issued g hg := by
    rcases hissued g hg with hold | ⟨-, hle, hitem⟩
    · obtain ⟨hle, huniq⟩ := h.issued g hold
      exact ⟨hle.trans he.nextID, fun g' hg' => huniq g' (he.items g.id g' hle hg')⟩
    · exact ⟨hle, fun g' hg' => Option.some.inj (hg'.symm.trans hitem)⟩
  used c e id n t hopened := by
    rcases hused c e id n t hopened with hold | ⟨hle, hnone⟩
    · obtain ⟨hle, hnone⟩ := h.used c e id n t hold
      refine ⟨hle.trans he.nextID, ?_⟩
      cases hs : s'.grants.items id with
      | none => rfl
      | some g =>
        rw [he.items id g hle hs] at hnone
        cases hnone
    · exact ⟨hle.trans he.nextID, hnone⟩
  clients c cl hcl := by
    rcases hclients c cl hcl with hold | hnew
    · obtain ⟨hc, hst⟩ := h.clients c cl hold
      exact ⟨hc.trans he.nextConn, hst.evolves hold he⟩
    · exact hnew

theorem bound_cons {s s' : Gateway} {ev : Event} (h : Bound cfg s) (hlog : s'.log = ev :: s.log)
    (hev : Justified cfg s.log ev) : Bound cfg s' := by
  intro ev' past hp
  rw [hlog, List.suffix_cons_iff] at hp
  rcases hp with hp | hp
  · cases hp
    exact hev
  · exact h ev' past hp

/-! ## Steps that open no session and issue no grant -/

/-- Neither a grant nor a session. -/
def quiet : Event → Prop
  | .issued _ | .opened .. => False
  | _ => True

theorem Justified.of_quiet {past : List Event} {ev : Event} (h : quiet ev) :
    Justified cfg past ev := by
  cases ev with
  | opened => exact h.elim
  | _ => trivial

theorem bound_append {s s' : Gateway} (h : Bound cfg s) :
    ∀ (evs : List Event), (∀ ev ∈ evs, quiet ev) → s'.log = evs ++ s.log → Bound cfg s'
  | [], _, hlog => by
    unfold Bound
    rw [hlog]
    exact h
  | ev :: evs, hq, hlog => by
    have ht : Bound cfg { s' with log := evs ++ s.log } :=
      bound_append h evs (fun ev hev => hq ev (List.mem_cons_of_mem _ hev)) rfl
    exact bound_cons ht hlog (.of_quiet (hq ev List.mem_cons_self))

theorem Inv.quiet {s s' : Gateway} (h : Inv cfg s) (he : Evolves s s') {l : List Event}
    (hlog : s'.log = l ++ s.log) (hquiet : ∀ ev ∈ l, Gateway.quiet ev)
    (hitems : ∀ id g, s'.grants.items id = some g → s.grants.items id = some g)
    (hclients : ∀ c cl, s'.clients c = some cl → s.clients c = some cl ∨
      c ≤ s'.nextConn ∧ StageInv cfg s' c cl.stage) : Inv cfg s' := by
  have hmem : ∀ ev ∈ s'.log, ¬Gateway.quiet ev → ev ∈ s.log := by
    intro ev hev hq
    rw [hlog, List.mem_append] at hev
    exact hev.resolve_left fun he => hq (hquiet ev he)
  exact h.evolves he hclients (fun id g hg => .inl (hitems id g hg))
    (fun g hg => .inl (hmem _ hg fun h => h)) (fun c e id n t ho => .inl (hmem _ ho fun h => h))
    (bound_append h.bound l hquiet hlog)

/-- A step that issues no grant, opens no session, registers no disk and takes no time. -/
structure Narrows (s s' : Gateway) : Prop where
  log : ∃ evs, s'.log = evs ++ s.log ∧ ∀ ev ∈ evs, quiet ev
  nextConn : s'.nextConn = s.nextConn
  nextID : s'.grants.nextID = s.grants.nextID
  items : ∀ id g, s'.grants.items id = some g → s.grants.items id = some g
  registered : ∀ d, s'.routes.registered d = s.routes.registered d
  now : s'.now = s.now

theorem Narrows.evolves {s s' : Gateway} (h : Narrows s s') : Evolves s s' where
  log := by
    obtain ⟨evs, hlog, -⟩ := h.log
    rw [hlog]
    exact List.subset_append_right _ _
  nextConn := h.nextConn.ge
  nextID := h.nextID.ge
  items id g _ hg := h.items id g hg
  registered _ g _ _ := h.registered g.diskID
  clock _ _ _ _ _ _ _ ht := by rwa [h.now]
  now := h.now.ge

theorem Narrows.trans {s t u : Gateway} (h : Narrows s t) (h' : Narrows t u) : Narrows s u where
  log := by
    obtain ⟨evs, hlog, hq⟩ := h.log
    obtain ⟨evs', hlog', hq'⟩ := h'.log
    refine ⟨evs' ++ evs, by rw [hlog', hlog, List.append_assoc], fun ev hev => ?_⟩
    exact (List.mem_append.mp hev).elim (hq' ev) (hq ev)
  nextConn := h'.nextConn.trans h.nextConn
  nextID := h'.nextID.trans h.nextID
  items id g hg := h.items id g (h'.items id g hg)
  registered d := (h'.registered d).trans (h.registered d)
  now := h'.now.trans h.now

section Narrows

variable (s : Gateway)

theorem Narrows.refl : Narrows s s :=
  ⟨⟨[], rfl, by simp⟩, rfl, rfl, fun _ _ h => h, fun _ => rfl, rfl⟩

theorem narrows_setStage (c : Nat) (cl : Client) (st : ClientStage) :
    Narrows s (s.setStage c cl st) :=
  ⟨⟨[], rfl, by simp⟩, rfl, rfl, fun _ _ h => h, fun _ => rfl, rfl⟩

theorem narrows_record {ev : Event} (h : quiet ev) : Narrows s (s.record ev) :=
  ⟨⟨[ev], rfl, by simpa using h⟩, rfl, rfl, fun _ _ h => h, fun _ => rfl, rfl⟩

theorem narrows_respond (c : Nat) (cl : Client) (r : Response) : Narrows s (s.respond c cl r) :=
  (narrows_setStage s c cl .idle).trans (narrows_record _ trivial)

theorem narrows_sendNotice (e u : Nat) : Narrows s (s.sendNotice e u) := by
  unfold sendNotice
  split
  · exact narrows_record s trivial
  · exact .refl s

@[simp] theorem sendNotice_clients (e u : Nat) : (s.sendNotice e u).clients = s.clients := by
  unfold sendNotice
  split <;> rfl

theorem narrows_sessions (sessions : Sessions) : Narrows s { s with sessions } :=
  ⟨⟨[], rfl, by simp⟩, rfl, rfl, fun _ _ h => h, fun _ => rfl, rfl⟩

theorem narrows_setStorer (e : Nat) (st : Storer) (stage : StorerStage) :
    Narrows s (s.setStorer e st stage) :=
  ⟨⟨[], rfl, by simp⟩, rfl, rfl, fun _ _ h => h, fun _ => rfl, rfl⟩

theorem narrows_links (links : Nat → Bool) : Narrows s { s with links } :=
  ⟨⟨[], rfl, by simp⟩, rfl, rfl, fun _ _ h => h, fun _ => rfl, rfl⟩

theorem narrows_grants {grants : Grants} (hid : grants.nextID = s.grants.nextID)
    (hitems : ∀ id g, grants.items id = some g → s.grants.items id = some g) :
    Narrows s { s with grants } :=
  ⟨⟨[], rfl, by simp⟩, rfl, hid, hitems, fun _ => rfl, rfl⟩

theorem narrows_disconnectConnection (e : Nat) :
    Narrows s { s with routes := (s.routes.disconnectConnection e).1 } :=
  ⟨⟨[], rfl, by simp⟩, rfl, rfl, fun _ _ h => h,
    fun d => Routes.registered_disconnectConnection s.routes e d, rfl⟩

end Narrows

/-- Client `c` has moved, and nobody else. -/
structure Moved (cfg : GatewayConfig) (s s' : Gateway) (c : Nat) : Prop where
  narrows : Narrows s s'
  client : ∃ cl, s'.clients = Function.update s.clients c (some cl) ∧ StageInv cfg s' c cl.stage

theorem Inv.moved {s s' : Gateway} {c : Nat} (h : Inv cfg s) (hc : c ≤ s.nextConn)
    (hm : Moved cfg s s' c) : Inv cfg s' := by
  obtain ⟨cl, hclients, hstage⟩ := hm.client
  obtain ⟨evs, hlog, hquiet⟩ := hm.narrows.log
  refine h.quiet hm.narrows.evolves hlog hquiet hm.narrows.items fun c' cl' hcl' => ?_
  rw [hclients] at hcl'
  rcases update_some hcl' with ⟨rfl, rfl⟩ | ⟨hcc, hcl'⟩
  · exact .inr ⟨hm.narrows.nextConn ▸ hc, hstage⟩
  · exact .inl hcl'

theorem Inv.narrows {s s' : Gateway} (h : Inv cfg s) (hn : Narrows s s')
    (hc : s'.clients = s.clients) : Inv cfg s' := by
  obtain ⟨evs, hlog, hquiet⟩ := hn.log
  exact h.quiet hn.evolves hlog hquiet hn.items fun c cl hcl => .inl (hc ▸ hcl)

section Moved

variable {s t : Gateway} {c : Nat} {cl : Client}

/-- The handler returns. -/
theorem moved_respond (hn : Narrows s t) (hc : t.clients = s.clients) (r : Response) :
    Moved cfg s (t.respond c cl r) c :=
  ⟨hn.trans (narrows_respond t c cl r), { cl with stage := .idle }, by rw [← hc]; rfl, trivial⟩

theorem moved_setStage {st : ClientStage} (hn : Narrows s t) (hc : t.clients = s.clients)
    (hst : StageInv cfg t c st) : Moved cfg s (t.setStage c cl st) c := by
  refine ⟨hn.trans (narrows_setStage t c cl st), { cl with stage := st }, by rw [← hc]; rfl, ?_⟩
  revert hst
  cases st <;> exact id

theorem handleRequest_moved (req : Request) : Moved cfg s (s.handleRequest cfg c cl req) c := by
  rcases s.handleRequest_cases cfg c cl req with ⟨cl', r, heq⟩ | ⟨cl', stage, heq, hasked⟩
  · rw [heq]
    exact moved_respond (.refl s) rfl r
  · rw [heq]
    exact moved_setStage (.refl s) rfl (by cases stage <;> trivial)

theorem authLookup_moved (ch : Challenge) (proof : Bytes) :
    Moved cfg s (s.authLookup cfg c cl ch proof) c := by
  unfold authLookup
  split
  · exact moved_respond (.refl s) rfl _
  · next entry hlookup =>
    split
    · exact moved_respond (.refl s) rfl _
    · next hproof =>
      refine ⟨(narrows_setStage s c cl _).trans (narrows_record _ trivial), _, rfl, ?_⟩
      exact ⟨⟨ch.salt, proof, List.mem_cons_self, not_not.mp hproof⟩,
        (Routes.registered_of_lookupRoute hlookup).2.2⟩

theorem openLookup_moved (id : Nat) : Moved cfg s (s.openLookup c cl id) c := by
  unfold openLookup
  rcases s.grants.lookupDisk_cases s.now id c with ⟨g, hg, hconn, ht, h⟩ | ⟨status, h⟩ | ⟨status, h⟩
  · rw [h]
    refine moved_setStage (.refl s) rfl ⟨(s.grants.keyed id g hg).2, fun g' hg' => ?_⟩
    obtain rfl := Option.some.inj (hg.symm.trans hg')
    exact ⟨hconn, rfl, ht⟩
  · rw [h]
    exact moved_respond (.refl s) rfl _
  · rw [h]
    exact moved_respond (narrows_grants s (Grants.removeLocked_nextID _ _)
      fun _ _ => Grants.removeLocked_narrows) rfl _

theorem openRoute_moved {id : Nat} {d : DiskID} (h : StageInv cfg s c (.openRoute id d)) :
    Moved cfg s (s.openRoute c cl id d) c := by
  unfold openRoute
  split
  · exact moved_respond (.refl s) rfl _
  · next entry hlookup =>
    obtain ⟨hr, -, hd⟩ := Routes.registered_of_lookupRoute hlookup
    refine moved_setStage (.refl s) rfl ⟨h.1, fun g hg => ?_⟩
    obtain ⟨hc, hgd, ht⟩ := h.2 g hg
    exact ⟨hc, hgd.trans hd.symm, ht, by rw [hgd, hr]⟩

theorem openLink_moved {id : Nat} {e : Entry} (h : StageInv cfg s c (.openLink id e)) :
    Moved cfg s (s.openLink c cl id e) c := by
  unfold openLink
  split
  · exact moved_setStage (.refl s) rfl h
  · exact moved_respond (.refl s) rfl _

theorem openUpstream_moved {id : Nat} {e : Entry} (h : StageInv cfg s c (.openUpstream id e))
    (reply : Except SessionError Nat) : Moved cfg s (s.openUpstream c cl id e reply) c := by
  cases reply with
  | error err => exact moved_respond (.refl s) rfl _
  | ok u => exact moved_setStage (.refl s) rfl h

theorem openRegister_moved {id u : Nat} {e : Entry} (h : StageInv cfg s c (.openRegister id e u)) :
    Moved cfg s (s.openRegister c cl id e u) c :=
  moved_setStage (narrows_sessions s _) rfl h

end Moved

/-! ## A grant is issued -/

theorem authIssue_inv {s : Gateway} {c : Nat} {cl : Client} {d : DiskID} {e : Entry} {t : Nat}
    (h : Inv cfg s) (hcl : s.clients c = some cl) (hst : cl.stage = .authIssue d e t)
    (hr : s.routes.registered d = some e) : Inv cfg (s.authIssue c cl d t) := by
  obtain ⟨hc, hstage⟩ := h.clients c cl hcl
  rw [hst] at hstage
  set id := s.grants.nextID + 1 with hid
  set g : Grant := ⟨id, c, d, t⟩ with hg
  set s₁ := { s with grants := (s.grants.issue c d t).1 }.record (.issued g) with hs₁
  have hissue : ∀ x, s₁.grants.items x = if x = id then some g else s.grants.items x := by
    intro x
    show Function.update s.grants.items id (some g) x = _
    rw [Function.update_apply]
  have he : Evolves s s₁ :=
    ⟨List.subset_cons_self _ _, le_refl _, Nat.le_succ _, fun x g' hx hg' => by
      rw [hissue, if_neg (by omega)] at hg'
      exact hg', fun _ _ _ _ => rfl, fun _ _ _ _ _ _ _ ht => ht, le_refl _⟩
  have h₁ : Inv cfg s₁ := by
    refine h.evolves he (fun _ _ hcl => .inl hcl) (fun x g' hg' => ?_) (fun g' hg' => ?_)
      (fun _ _ _ _ _ ho => .inl ?_) (bound_cons h.bound rfl trivial)
    · rw [hissue] at hg'
      split at hg'
      · obtain rfl := Option.some.inj hg'
        exact .inr ⟨List.mem_cons_self, e, hr, hstage.1.mono he.log⟩
      · exact .inl hg'
    · rcases List.mem_cons.mp hg' with hg' | hg'
      · cases hg'
        exact .inr ⟨Nat.lt_succ_self _, le_refl _, by rw [hissue, if_pos rfl]⟩
      · exact .inl hg'
    · exact (List.mem_cons.mp ho).resolve_left (by simp)
  -- the handler returns, whether `FinishAuth` finds its phase or not
  have hm : Moved cfg s₁ (s.authIssue c cl d t) c := by
    unfold authIssue
    cases cl.finishAuth with
    | none => exact moved_respond (.refl s₁) rfl _
    | some cl => exact moved_respond (.refl s₁) rfl _
  exact h₁.moved hc hm

/-! ## A session is opened -/

theorem openConsume_inv {s : Gateway} {c id u n : Nat} {cl : Client} {e : Entry}
    (h : Inv cfg s) (hcl : s.clients c = some cl) (hst : cl.stage = .openConsume id e u n) :
    Inv cfg (s.openConsume c cl id e u n) := by
  obtain ⟨hc, hstage⟩ := h.clients c cl hcl
  rw [hst] at hstage
  obtain ⟨hle, hgrant⟩ := hstage
  unfold openConsume Grants.consumeDisk
  cases hg : s.grants.items id with
  | none => exact h.moved hc (moved_setStage (.refl s) rfl trivial)
  | some g =>
    obtain ⟨hconn, hdisk, ht, hr⟩ := hgrant g hg
    have hn := narrows_grants s (s.grants.removeLocked_nextID id)
      fun _ _ => Grants.removeLocked_narrows
    dsimp only
    rw [if_neg (by simp [hdisk])]
    cases hf : cl.finishSessionOpen with
    | none => exact h.moved hc (moved_setStage hn rfl trivial)
    | some cl' =>
      set s₁ : Gateway := { s with grants := s.grants.removeLocked id } with hs₁
      have h₁ : Inv cfg s₁ := h.narrows hn rfl
      have hnone : s₁.grants.items id = none := by
        show (s.grants.removeLocked id).items id = none
        rw [Grants.removeLocked_items, if_pos rfl]
      have h₂ : Inv cfg (s₁.record (.opened c e id n s.now)) := by
        obtain ⟨hissued, hproved⟩ := h.grants id g hg
        obtain ⟨e', hr', hp⟩ := hproved ht
        obtain rfl := Option.some.inj (hr.symm.trans hr')
        have hid := (s.grants.keyed id g hg).1
        refine h₁.evolves ⟨List.subset_cons_self _ _, le_refl _, le_refl _, fun _ _ _ hg => hg,
          fun _ _ _ _ => rfl, fun _ _ _ _ _ _ _ ht => ht, le_refl _⟩ (fun _ _ hcl => .inl hcl)
          (fun _ _ hg => .inl hg) (fun g' hg' => .inl ?_) (fun c' e' id' n' t' ho => ?_)
          (bound_cons h₁.bound rfl ⟨hconn ▸ hp, ⟨g, hissued, hid⟩, fun g' hg' hid' => ?_,
            fun c' e' n' t' ho => ?_⟩)
        · exact (List.mem_cons.mp hg').resolve_left (by simp)
        · rcases List.mem_cons.mp ho with ho | ho
          · cases ho
            exact .inr ⟨(s.grants.removeLocked_nextID id).symm ▸ hle, hnone⟩
          · exact .inl ho
        · obtain rfl := (h.issued g' hg').2 g (hid' ▸ hg)
          exact ⟨hconn, hdisk, ht⟩
        · -- the grant of a session that is open is gone
          have := (h.used c' e' id n' t' ho).2
          rw [hg] at this
          cases this
      exact h₂.moved hc (moved_respond (.refl _) rfl _)

/-! ## Every step -/

theorem handler_inv {s s' : Gateway} {c : Nat} {cl : Client} (h : Inv cfg s)
    (hcl : s.clients c = some cl) (hG : Unraced cfg s (.handler c))
    (hs : s.handler cfg c cl = some s') : Inv cfg s' := by
  obtain ⟨hc, hstage⟩ := h.clients c cl hcl
  have hG := hG cl hcl
  unfold handler at hs
  cases hst : cl.stage with
  | idle | openUpstream | closed => rw [hst] at hs; cases hs
  | authLookup ch proof =>
    rw [hst] at hs
    cases hs
    exact h.moved hc (authLookup_moved ch proof)
  | authClock d e =>
    rw [hst] at hs hstage
    cases hs
    exact h.moved hc (moved_setStage (.refl s) rfl hstage)
  | authIssue d e t =>
    rw [hst] at hs hG
    cases hs
    exact authIssue_inv h hcl hst (hG (d, e) rfl)
  | openLookup id =>
    rw [hst] at hs
    cases hs
    exact h.moved hc (openLookup_moved id)
  | openRoute id d =>
    rw [hst] at hs hstage
    cases hs
    exact h.moved hc (openRoute_moved hstage)
  | openLink id e =>
    rw [hst] at hs hstage
    cases hs
    exact h.moved hc (openLink_moved hstage)
  | openRegister id e u =>
    rw [hst] at hs hstage
    cases hs
    exact h.moved hc (openRegister_moved hstage)
  | openConsume id e u n =>
    rw [hst] at hs
    cases hs
    exact openConsume_inv h hcl hst
  | openAbort e u n status =>
    rw [hst] at hs
    cases hs
    exact h.moved hc (moved_setStage (narrows_sessions s _) rfl trivial)
  | openNotice e u status =>
    rw [hst] at hs
    cases hs
    exact h.moved hc (moved_respond (narrows_sendNotice s _ _) (sendNotice_clients s _ _) _)
  | closingGrants =>
    rw [hst] at hs
    cases hs
    have hn : Narrows s { s with grants := s.grants.closeConnection c } :=
      narrows_grants s (s.grants.closeConnection_nextID c) fun x g hg => by
        rw [Grants.closeConnection_items] at hg
        exact (Option.filter_eq_some_iff.mp hg).1
    exact h.moved hc (moved_setStage hn rfl trivial)
  | closingSessions =>
    rw [hst] at hs
    cases hs
    exact h.moved hc (moved_setStage (narrows_sessions s _) rfl trivial)
  | closingNotices records =>
    rw [hst] at hs
    cases records with
    | nil =>
      cases hs
      exact h.moved hc (moved_setStage (.refl s) rfl trivial)
    | cons r records =>
      cases hs
      exact h.moved hc (moved_setStage (narrows_sendNotice s _ _) (sendNotice_clients s _ _) trivial)

theorem teardown_inv {s s' : Gateway} {e : Nat} {st : Storer} (h : Inv cfg s)
    (hs : s.teardown e st = some s') : Inv cfg s' := by
  unfold teardown at hs
  cases hst : st.stage with
  | serving | done => rw [hst] at hs; cases hs
  | disconnecting =>
    rw [hst] at hs
    cases hs
    exact h.narrows ((narrows_disconnectConnection s e).trans (narrows_setStorer _ e st _)) rfl
  | removingLink diskIDs =>
    rw [hst] at hs
    cases hs
    exact h.narrows ((narrows_links s _).trans (narrows_setStorer _ e st _)) rfl
  | closingDisks diskIDs =>
    rw [hst] at hs
    cases diskIDs with
    | nil =>
      cases hs
      exact h.narrows ((narrows_sessions s _).trans (narrows_setStorer _ e st _)) rfl
    | cons d diskIDs =>
      cases hs
      have hn : Narrows s { s with grants := s.grants.closeDisk d } :=
        narrows_grants s (s.grants.closeDisk_nextID d) fun x g hg => by
          rw [Grants.closeDisk_items] at hg
          exact (Option.filter_eq_some_iff.mp hg).1
      exact h.narrows (hn.trans (narrows_setStorer _ e st _)) rfl

theorem register_inv {s : Gateway} {e : Nat} {st : Storer} {req : StorerRegisterRequest}
    (h : Inv cfg s) (hst : s.storers e = some st) (hG : Unraced cfg s (.register e req)) :
    Inv cfg (s.register cfg e st req) := by
  have hrecord : ∀ r, Inv cfg (s.record (.responded e r)) := fun r =>
    h.narrows (narrows_record s trivial) rfl
  unfold register
  split
  · exact hrecord _
  · next hfirst =>
    split
    · exact hrecord _
    · next htoken =>
      cases hr : s.routes.register ⟨req.diskID, req.authVerifier, st.remoteAddr, e, true⟩ with
      | error err => exact hrecord _
      | ok routes =>
        have hstale := hG st hst (Bool.eq_false_iff.mpr hfirst) (not_not.mp htoken)
          (by rw [hr]; rfl)
        have h₁ : Inv cfg { s with routes } := by
          refine h.quiet (l := []) ⟨List.Subset.refl _, le_refl _, le_refl _,
            fun _ _ _ hg => hg, fun id g hg ht => ?_, fun _ _ _ _ _ _ _ ht => ht, le_refl _⟩ rfl
            (by simp) (fun _ _ hg => hg) (fun _ _ hcl => .inl hcl)
          -- no valid grant names the disk that is registered
          refine Routes.registered_register_of_ne hr fun hd => ?_
          exact (hstale id ((s.grants.disk_index _ id).mpr ⟨g, hg, hd⟩) g hg).not_gt ht
        exact h₁.narrows ((narrows_setStorer _ e _ _).trans (narrows_record _ trivial)) rfl

/-- **Every unraced step keeps the invariant.** -/
theorem step_inv (s : Gateway) (a : GatewayAction) (s' : Gateway) (h : Inv cfg s)
    (hG : Unraced cfg s a) (hs : step cfg s a = some s') : Inv cfg s' := by
  cases a with
  | tick d =>
    cases hs
    refine h.quiet (l := []) ⟨List.Subset.refl _, le_refl _, le_refl _, fun _ _ _ hg => hg,
      fun _ _ _ _ => rfl, fun c cl id g hcl hid hg _ => ?_, Nat.le_add_right _ _⟩ rfl (by simp)
      (fun _ _ hg => hg) (fun _ _ hcl => .inl hcl)
    exact hG c (h.clients c cl hcl).1 cl hcl id hid g hg
  | acceptClient =>
    cases hs
    refine h.quiet (l := []) ⟨List.Subset.refl _, Nat.le_succ _, le_refl _, fun _ _ _ hg => hg,
      fun _ _ _ _ => rfl, fun _ _ _ _ _ _ _ ht => ht, le_refl _⟩ rfl (by simp) (fun _ _ hg => hg)
      (fun c cl hcl => ?_)
    rcases update_some hcl with ⟨hc, rfl⟩ | ⟨hc, hcl⟩
    · exact .inr ⟨hc.le, trivial⟩
    · exact .inl hcl
  | acceptStorer remoteAddr =>
    cases hs
    exact h.quiet (l := []) ⟨List.Subset.refl _, Nat.le_succ _, le_refl _, fun _ _ _ hg => hg,
      fun _ _ _ _ => rfl, fun _ _ _ _ _ _ _ ht => ht, le_refl _⟩ rfl (by simp) (fun _ _ hg => hg)
      (fun _ _ hcl => .inl hcl)
  | request c req =>
    obtain ⟨cl, hcl, hs⟩ := Option.bind_eq_some_iff.mp hs
    split_ifs at hs
    cases hs
    exact h.moved (h.clients c cl hcl).1 (handleRequest_moved req)
  | handler c =>
    obtain ⟨cl, hcl, hs⟩ := Option.bind_eq_some_iff.mp hs
    exact handler_inv h hcl hG hs
  | upstream c reply =>
    obtain ⟨cl, hcl, hs⟩ := Option.bind_eq_some_iff.mp hs
    obtain ⟨hc, hstage⟩ := h.clients c cl hcl
    cases hst : cl.stage with
    | openUpstream id e =>
      rw [hst] at hs hstage
      cases hs
      exact h.moved hc (openUpstream_moved hstage reply)
    | _ => rw [hst] at hs; cases hs
  | endClient c =>
    obtain ⟨cl, hcl, hs⟩ := Option.bind_eq_some_iff.mp hs
    split_ifs at hs
    cases hs
    exact h.moved (h.clients c cl hcl).1 (moved_setStage (.refl s) rfl trivial)
  | register e req =>
    obtain ⟨st, hst, hs⟩ := Option.bind_eq_some_iff.mp hs
    split_ifs at hs
    cases hs
    exact register_inv h hst hG
  | endStorer e =>
    obtain ⟨st, hst, hs⟩ := Option.bind_eq_some_iff.mp hs
    split_ifs at hs
    cases hs
    exact h.narrows (narrows_setStorer s e st _) rfl
  | storer e =>
    obtain ⟨st, hst, hs⟩ := Option.bind_eq_some_iff.mp hs
    exact teardown_inv h hs

theorem inv_init : Inv cfg {} where
  bound ev past h := by
    rw [show ({} : Gateway).log = [] from rfl, List.suffix_nil] at h
    cases h
  grants id g h := by cases h
  issued g h := by cases h
  used c e id n t h := by cases h
  clients c cl h := by cases h

/-- **Every session is authorized** in a run whose steps are outside the windows. -/
theorem bound_of_unraced (cfg : GatewayConfig) (as : List GatewayAction) (s : Gateway)
    (hG : StepsMeet (step cfg) (Unraced cfg) {} as) (h : runFrom (step cfg) {} as = some s) :
    Bound cfg s :=
  (run_inv_of_guard step_inv as {} s inv_init hG h).bound

/-! ## Runs -/

section Runs

/-- Stands for HMAC-SHA512 in the runs below: 64 bytes that begin with the key. -/
def keyedMac (key msg : Bytes) : Bytes := (key ++ (msg ++ List.replicate 64 0)).take 64

def exampleConfig : GatewayConfig := ⟨⟨keyedMac, [7]⟩, "token"⟩

def exampleDisk : DiskID := List.replicate 16 65

def exampleSalt : Bytes := List.replicate 16 3

/-- A storer registers the disk with the verifier whose bytes are all `v`. -/
def registration (e : Nat) (v : UInt8) : GatewayAction :=
  .register e ⟨"token", exampleDisk, List.replicate 64 v⟩

/-- Client 2 starts, and finishes with the proof for the verifier `v`, up to the issue. -/
def authentication (v : UInt8) : List GatewayAction :=
  match exampleConfig.codec.issue 0 2 exampleDisk challengeTTL exampleSalt with
  | .error _ => []
  | .ok (_, token) =>
    [.request 2 (.authStart 0 exampleDisk exampleSalt),
      .request 2 (.authFinish 0 (buildAuthFinishRequestBody token
        (computeProof keyedMac (List.replicate 64 v) exampleSalt))), .handler 2, .handler 2]

/-- Client 2 opens a session with auth id 1, up to the storer's reply. -/
def opening : List GatewayAction :=
  [.request 2 (.sessionOpen 0 (putUint64 1)), .handler 2, .handler 2, .handler 2]

/-- The storer of the proof leaves and another registers the disk before the grant is issued. -/
def reregisteredRun : List GatewayAction :=
  [.acceptStorer "a", .acceptClient, registration 1 1] ++ authentication 1 ++
    [.endStorer 1, .storer 1, .storer 1, .storer 1, .storer 1, .acceptStorer "b",
      registration 3 2, .handler 2] ++
    opening ++ [.upstream 2 (.ok 9), .handler 2, .handler 2]

/-- The registrations of the sessions that were opened. -/
def openedOn (s : Gateway) : List Nat :=
  s.log.filterMap fun
    | .opened _ entry .. => some entry.connectionID
    | _ => none

/-- The registrations that a proof was verified against. -/
def provedOn (s : Gateway) : List Nat :=
  s.log.filterMap fun
    | .proved _ entry .. => some entry.connectionID
    | _ => none

theorem Bound.mem {s : Gateway} (h : Bound cfg s) {ev : Event} (hev : ev ∈ s.log) :
    ∃ past, past ⊆ s.log ∧ Justified cfg past ev := by
  obtain ⟨post, past, hlog⟩ := List.append_of_mem hev
  refine ⟨past, fun x hx => ?_, h ev past ⟨post, hlog.symm⟩⟩
  rw [hlog]
  exact List.mem_append_right _ (List.mem_cons_of_mem _ hx)

theorem Bound.openedOn_subset {s : Gateway} (h : Bound cfg s) : s.openedOn ⊆ s.provedOn := by
  intro x hx
  obtain ⟨ev, hev, hx⟩ := List.mem_filterMap.mp hx
  cases ev with
  | opened c entry id n t =>
    obtain ⟨past, hpast, ⟨salt, proof, hp, -⟩, -⟩ := h.mem hev
    exact List.mem_filterMap.mpr ⟨_, hpast hp, hx⟩
  | _ => cases hx

/-- **A session on a registration that the client never proved itself against.** -/
theorem reregistered_unbound :
    ∃ s, runFrom (step exampleConfig) {} reregisteredRun = some s ∧ ¬Bound exampleConfig s := by
  obtain ⟨s, hs, hp⟩ := exists_run (step exampleConfig) {} reregisteredRun
    (fun s => decide (3 ∈ s.openedOn ∧ 3 ∉ s.provedOn)) (by decide +kernel)
  obtain ⟨ho, hn⟩ := of_decide_eq_true hp
  exact ⟨s, hs, fun h => hn (h.openedOn_subset ho)⟩

/-- The storer replies when the grant has expired. -/
def expiredRun : List GatewayAction :=
  [.acceptStorer "a", .acceptClient, registration 1 1] ++ authentication 1 ++ [.handler 2] ++
    opening ++ [.tick challengeTTL, .upstream 2 (.ok 9), .handler 2, .handler 2]

/-- A session was opened at a time at which its grant had expired. -/
def openedLate (s : Gateway) : Bool :=
  s.log.any fun
    | .opened _ _ authID _ time => s.log.all fun
      | .issued g => g.id ≠ authID || g.expiresAt ≤ time
      | _ => true
    | _ => false

theorem Bound.not_openedLate {s : Gateway} (h : Bound cfg s) : s.openedLate = false := by
  refine Bool.eq_false_iff.mpr fun hlate => ?_
  obtain ⟨ev, hev, hlate⟩ := List.any_eq_true.mp hlate
  cases ev with
  | opened c entry id n t =>
    obtain ⟨past, hpast, -, ⟨g, hg, hid⟩, huniq, -⟩ := h.mem hev
    have ht := (huniq g hg hid).2.2
    have := List.all_eq_true.mp hlate _ (hpast hg)
    simp only [hid, ne_eq, not_true_eq_false, decide_false, Bool.false_or,
      decide_eq_true_eq] at this
    omega
  | _ => cases hlate

/-- **A session with a grant that has expired**: only `LookupDisk` looks at the clock. -/
theorem expired_unbound :
    ∃ s, runFrom (step exampleConfig) {} expiredRun = some s ∧ ¬Bound exampleConfig s := by
  obtain ⟨s, hs, hp⟩ := exists_run (step exampleConfig) {} expiredRun openedLate
    (by decide +kernel)
  exact ⟨s, hs, fun h => absurd (h.not_openedLate.symm.trans hp) (by simp)⟩

/-- A session is opened; then the storer leaves, and another registers the disk. -/
def unracedRun : List GatewayAction :=
  [.acceptStorer "a", .acceptClient, registration 1 1] ++ authentication 1 ++ [.handler 2] ++
    opening ++ [.upstream 2 (.ok 9), .handler 2, .handler 2, .endStorer 1, .storer 1, .storer 1,
      .storer 1, .storer 1, .acceptStorer "b", registration 3 2]

theorem unracedRun_bound :
    ∃ s, runFrom (step exampleConfig) {} unracedRun = some s ∧ 1 ∈ s.openedOn ∧
      Bound exampleConfig s := by
  obtain ⟨s, hs, hp⟩ := exists_run (step exampleConfig) {} unracedRun
    (fun s => decide (1 ∈ s.openedOn)) (by decide +kernel)
  exact ⟨s, hs, of_decide_eq_true hp, bound_of_unraced exampleConfig unracedRun s
    (by decide +kernel) hs⟩

end Runs

end Gateway

end YumeDisk.Server
