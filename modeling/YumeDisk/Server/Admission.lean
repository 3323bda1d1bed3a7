import YumeDisk.Lib.Thread
import YumeDisk.Server.HandlerRuns
import YumeDisk.Lib.Update

/-!
# A grant of a connection (`client/auth/registry.go`, `client/session/opener.go`)

* `Gateway.OwnLookups`: what a SessionOpen has looked up is a grant of its own connection.
* `Gateway.grant_kept`: **a grant stays** until its connection consumes it or ends, while no storer
  of its disk is torn down.
* `ClientHandler.Waits`: where one connection is; no step of the others changes it
  (`stable_waits`).
* `admits_proof`, `admits_grant`: **a right proof is granted, a grant opens a session**.
-/

namespace YumeDisk.Server

open YumeDisk.Lib
open WholeMode (FileHandle)

namespace Gateway

variable {cfg : GatewayConfig} {g g' t : Gateway} {c : Nat} {cl cl' : Client}

/-! ## What a SessionOpen has looked up -/

/-- A SessionOpen runs on a grant of its connection. -/
def OwnLookups (g : Gateway) : Prop :=
  ∀ c cl, g.clients c = some cl → ∀ id d, cl.stage.lookup = some (id, d) →
    ∀ x, g.grants.items id = some x → x.clientConnection = c

theorem ownLookups_init : OwnLookups {} := nofun

/-- A step of `c`, with what it has looked up then. -/
def Looks (R : Nat → Prop) (c : Nat) (g g' : Gateway) : Prop :=
  ∃ cl', g'.clients = Function.update g.clients c (some cl') ∧
    ∀ id d, cl'.stage.lookup = some (id, d) → R id

section Looks

variable {R : Nat → Prop}

theorem looks_respond (h : t.clients = g.clients) (cl : Client) (r : Response) :
    Looks R c g (t.respond c cl r) :=
  ⟨{ cl with stage := .idle }, by rw [← h]; rfl, nofun⟩

theorem looks_setStage (h : t.clients = g.clients) (cl : Client) {stage : ClientStage}
    (hR : ∀ id d, stage.lookup = some (id, d) → R id) : Looks R c g (t.setStage c cl stage) :=
  ⟨{ cl with stage }, by rw [← h]; rfl, hR⟩

theorem looks_handleRequest (req : Request) : Looks R c g (g.handleRequest cfg c cl req) := by
  rcases g.handleRequest_cases cfg c cl req with ⟨cl', r, heq⟩ | ⟨cl', stage, heq, hasked⟩
  · rw [heq]
    exact looks_respond rfl cl' r
  · rw [heq]
    refine looks_setStage rfl cl' fun _ _ he => ?_
    cases stage with
    | closingGrants | authLookup | openLookup => cases he
    | _ => cases hasked

end Looks

/-- The auth ids that a section of the handler of `c` may go on with: the one that it has had, or
one that it finds now. -/
def Found (g : Gateway) (c : Nat) (cl : Client) (id : Nat) : Prop :=
  (∃ d, cl.stage.lookup = some (id, d)) ∨ ∃ d, (g.grants.lookupDisk g.now id c).2 = .ok d

theorem looks_handler (hs : g.handler cfg c cl = some g') : Looks (g.Found c cl) c g g' := by
  unfold handler at hs
  cases hst : cl.stage with
  | idle | openUpstream | closed =>
    rw [hst] at hs
    cases hs
  | authLookup challenge proof =>
    rw [hst] at hs
    obtain rfl := Option.some.inj hs
    unfold authLookup
    split
    · exact looks_respond rfl _ _
    split_ifs
    · exact looks_respond rfl _ _
    · exact looks_setStage (t := g) rfl cl nofun
  | authClock d entry =>
    rw [hst] at hs
    obtain rfl := Option.some.inj hs
    exact looks_setStage rfl _ nofun
  | authIssue d entry expiresAt =>
    rw [hst] at hs
    obtain rfl := Option.some.inj hs
    simp only [authIssue]
    split
    · exact looks_respond rfl _ _
    · exact looks_respond rfl _ _
  | openLookup authID =>
    rw [hst] at hs
    obtain rfl := Option.some.inj hs
    simp only [openLookup]
    split
    · exact looks_respond rfl _ _
    · next diskID hfound =>
      refine looks_setStage rfl _ fun id d hlookup => .inr ⟨diskID, ?_⟩
      obtain ⟨rfl, -⟩ := Prod.mk.inj (Option.some.inj hlookup)
      exact hfound
  | openRoute authID diskID =>
    rw [hst] at hs
    obtain rfl := Option.some.inj hs
    unfold openRoute
    split
    · exact looks_respond rfl _ _
    · refine looks_setStage rfl _ fun id d hlookup => .inl ⟨diskID, ?_⟩
      obtain ⟨rfl, -⟩ := Prod.mk.inj (Option.some.inj hlookup)
      rw [hst]
      rfl
  | openLink authID entry =>
    rw [hst] at hs
    obtain rfl := Option.some.inj hs
    unfold openLink
    split_ifs
    · exact looks_setStage rfl _ fun id d hlookup => .inl ⟨d, by rw [hst]; exact hlookup⟩
    · exact looks_respond rfl _ _
  | openRegister authID entry upstream =>
    rw [hst] at hs
    obtain rfl := Option.some.inj hs
    exact looks_setStage rfl _ fun id d hlookup => .inl ⟨d, by rw [hst]; exact hlookup⟩
  | openConsume authID entry upstream session =>
    rw [hst] at hs
    obtain rfl := Option.some.inj hs
    simp only [openConsume]
    split_ifs
    · exact looks_setStage rfl _ nofun
    split
    · exact looks_setStage rfl _ nofun
    · exact looks_respond rfl _ _
  | openAbort entry upstream session status =>
    rw [hst] at hs
    obtain rfl := Option.some.inj hs
    exact looks_setStage rfl _ nofun
  | openNotice entry upstream status =>
    rw [hst] at hs
    obtain rfl := Option.some.inj hs
    exact looks_respond (sendNotice_clients g _ _) _ _
  | closingGrants =>
    rw [hst] at hs
    obtain rfl := Option.some.inj hs
    exact looks_setStage rfl _ nofun
  | closingSessions =>
    rw [hst] at hs
    obtain rfl := Option.some.inj hs
    exact looks_setStage rfl _ nofun
  | closingNotices records =>
    rw [hst] at hs
    cases records with
    | nil =>
      obtain rfl := Option.some.inj hs
      exact looks_setStage rfl _ nofun
    | cons record records =>
      obtain rfl := Option.some.inj hs
      exact looks_setStage (sendNotice_clients g _ _) _ nofun

/-- Whose step an action is, if it is a client's. -/
def client : GatewayAction → Option Nat
  | .request c _ | .handler c | .upstream c _ | .endClient c => some c
  | _ => none

/-- What a step has looked up: what a client has then is its own of before, or nothing, or what its
handler finds. -/
theorem lookup_step {a : GatewayAction} (hs : g.step cfg a = some g')
    (hcl' : g'.clients c = some cl') {id : Nat} {d : DiskID}
    (hlookup : cl'.stage.lookup = some (id, d)) :
    (∃ cl d', g.clients c = some cl ∧ cl.stage.lookup = some (id, d')) ∨
      ∃ d', (g.grants.lookupDisk g.now id c).2 = .ok d' := by
  have hsame : g'.clients = g.clients → ∃ cl d', g.clients c = some cl ∧
      cl.stage.lookup = some (id, d') := fun h => ⟨cl', d, h ▸ hcl', hlookup⟩
  have hlooks : ∀ {c₀ cl₀}, g.clients c₀ = some cl₀ → Looks (g.Found c₀ cl₀) c₀ g g' →
      (∃ cl d', g.clients c = some cl ∧ cl.stage.lookup = some (id, d')) ∨
        ∃ d', (g.grants.lookupDisk g.now id c).2 = .ok d' := by
    rintro c₀ cl₀ hcl₀ ⟨cl₁, hclients, hfound⟩
    rw [hclients] at hcl'
    rcases update_some hcl' with ⟨rfl, rfl⟩ | ⟨hc, hcl'⟩
    · rcases hfound id d hlookup with ⟨d', hold⟩ | hnew
      · exact .inl ⟨cl₀, d', hcl₀, hold⟩
      · exact .inr hnew
    · exact .inl ⟨cl', d, hcl', hlookup⟩
  cases a with
  | tick | acceptStorer =>
    obtain rfl := Option.some.inj hs
    exact .inl (hsame rfl)
  | acceptClient =>
    obtain rfl := Option.some.inj hs
    rcases update_some hcl' with ⟨hc, rfl⟩ | ⟨hc, hcl'⟩
    · cases hlookup
    · exact .inl ⟨cl', d, hcl', hlookup⟩
  | request c₀ req =>
    obtain ⟨cl₀, hcl₀, hs⟩ := Option.bind_eq_some_iff.mp hs
    split_ifs at hs
    obtain rfl := Option.some.inj hs
    exact hlooks hcl₀ (looks_handleRequest req)
  | handler c₀ =>
    obtain ⟨cl₀, hcl₀, hs⟩ := Option.bind_eq_some_iff.mp hs
    exact hlooks hcl₀ (looks_handler hs)
  | upstream c₀ reply =>
    obtain ⟨cl₀, hcl₀, hs⟩ := Option.bind_eq_some_iff.mp hs
    split at hs
    · next authID entry hst =>
      obtain rfl := Option.some.inj hs
      refine hlooks hcl₀ ?_
      cases reply with
      | error err => exact looks_respond rfl _ _
      | ok upstream =>
        exact looks_setStage rfl _ fun id d hlookup => .inl ⟨d, by rw [hst]; exact hlookup⟩
    · cases hs
  | endClient c₀ =>
    obtain ⟨cl₀, hcl₀, hs⟩ := Option.bind_eq_some_iff.mp hs
    split_ifs at hs
    obtain rfl := Option.some.inj hs
    exact hlooks hcl₀ (looks_setStage rfl _ nofun)
  | register e req =>
    obtain ⟨st, -, hs⟩ := Option.bind_eq_some_iff.mp hs
    split_ifs at hs
    obtain rfl := Option.some.inj hs
    refine .inl (hsame ?_)
    unfold register
    split_ifs
    · rfl
    · rfl
    split
    · rfl
    · rfl
  | endStorer e =>
    obtain ⟨st, -, hs⟩ := Option.bind_eq_some_iff.mp hs
    split_ifs at hs
    obtain rfl := Option.some.inj hs
    exact .inl (hsame rfl)
  | storer e =>
    obtain ⟨st, -, hs⟩ := Option.bind_eq_some_iff.mp hs
    refine .inl (hsame ?_)
    unfold teardown at hs
    split at hs
    all_goals first
      | cases hs; rfl
      | cases hs

/-- A lookup that finds a grant. -/
theorem lookupDisk_ok {r : Grants} {now id : Nat} {d : DiskID}
    (h : (r.lookupDisk now id c).2 = .ok d) :
    ∃ x, r.items id = some x ∧ x.clientConnection = c ∧ x.diskID = d := by
  rcases r.lookupDisk_cases now id c with ⟨x, hx, hc, -, heq⟩ | ⟨status, heq⟩ | ⟨status, heq⟩
  · rw [heq] at h
    exact ⟨x, hx, hc, Except.ok.inj h⟩
  · rw [heq] at h
    cases h
  · rw [heq] at h
    cases h

theorem OwnLookups.step {a : GatewayAction} (h : g.OwnLookups) (ht : g.Torn)
    (hs : g.step cfg a = some g') : g'.OwnLookups := by
  intro c cl' hcl' id d hlookup x hx
  have hk := ht.step hs
  rcases lookup_step hs hcl' hlookup with ⟨cl, d', hcl, hold⟩ | ⟨d', hfound⟩
  · exact h c cl hcl id d' hold x (hk.grants id x (ht.granted c cl id d' hcl hold).1 hx)
  · obtain ⟨y, hy, hc, -⟩ := lookupDisk_ok hfound
    have hle : id ≤ g.grants.nextID := (g.grants.keyed id y hy).1 ▸ (g.grants.keyed id y hy).2
    obtain rfl := Option.some.inj (hy.symm.trans (hk.grants id x hle hx))
    exact hc

/-! ## A grant of one connection -/

theorem grants_handleRequest (req : Request) :
    (g.handleRequest cfg c cl req).grants = g.grants := by
  rcases g.handleRequest_cases cfg c cl req with ⟨_, _, heq⟩ | ⟨_, _, heq, -⟩
  · rw [heq]
    rfl
  · rw [heq]
    rfl

@[simp] theorem grants_sendNotice (e u : Nat) : (g.sendNotice e u).grants = g.grants := by
  unfold sendNotice
  split <;> rfl

/-- A lookup of another connection leaves a grant. -/
theorem lookupDisk_other {r : Grants} {now id id' : Nat} {x : Grant} (hx : r.items id = some x)
    (hc : x.clientConnection ≠ c) : (r.lookupDisk now id' c).1.items id = some x := by
  unfold Grants.lookupDisk
  split
  · exact hx
  · next y hy =>
    split_ifs with hother
    · exact hx
    · have hne : id ≠ id' := by
        rintro rfl
        obtain rfl := Option.some.inj (hx.symm.trans hy)
        exact hc (not_not.mp hother)
      show (r.removeLocked id').items id = some x
      rw [Grants.removeLocked_items, if_neg hne, hx]
    · exact hx

theorem issue_items {r : Grants} {id : Nat} {x : Grant} (hx : r.items id = some x)
    (d : DiskID) (expiresAt : Nat) : (r.issue c d expiresAt).1.items id = some x := by
  have hne : id ≠ r.nextID + 1 := by
    rintro rfl
    rw [r.fresh] at hx
    cases hx
  show Function.update r.items (r.nextID + 1) _ id = some x
  rw [Function.update_of_ne hne, hx]

/-- A section of the handler of another connection. -/
theorem grant_handler {id : Nat} {x : Grant} (h : g.OwnLookups) (hcl : g.clients c = some cl)
    (hx : g.grants.items id = some x) (hc : x.clientConnection ≠ c)
    (hs : g.handler cfg c cl = some g') : g'.grants.items id = some x := by
  unfold handler at hs
  cases hst : cl.stage with
  | idle | openUpstream | closed =>
    rw [hst] at hs
    cases hs
  | authLookup challenge proof =>
    rw [hst] at hs
    obtain rfl := Option.some.inj hs
    unfold authLookup
    split
    · exact hx
    split_ifs
    · exact hx
    · exact hx
  | authClock d entry =>
    rw [hst] at hs
    obtain rfl := Option.some.inj hs
    exact hx
  | authIssue d entry expiresAt =>
    rw [hst] at hs
    obtain rfl := Option.some.inj hs
    simp only [authIssue]
    split
    · exact issue_items hx d expiresAt
    · exact issue_items hx d expiresAt
  | openLookup authID =>
    rw [hst] at hs
    obtain rfl := Option.some.inj hs
    simp only [openLookup]
    split
    · exact lookupDisk_other hx hc
    · exact lookupDisk_other hx hc
  | openRoute authID diskID =>
    rw [hst] at hs
    obtain rfl := Option.some.inj hs
    unfold openRoute
    split
    · exact hx
    · exact hx
  | openLink authID entry =>
    rw [hst] at hs
    obtain rfl := Option.some.inj hs
    unfold openLink
    split_ifs
    · exact hx
    · exact hx
  | openRegister authID entry upstream =>
    rw [hst] at hs
    obtain rfl := Option.some.inj hs
    exact hx
  | openConsume authID entry upstream session =>
    rw [hst] at hs
    obtain rfl := Option.some.inj hs
    -- the grant that it consumes is its own
    have hne : id ≠ authID := by
      rintro rfl
      exact hc (h c cl hcl id entry.diskID (by rw [hst]; rfl) x hx)
    have hkept : (g.grants.consumeDisk authID).1.items id = some x := by
      unfold Grants.consumeDisk
      split
      · exact hx
      · rw [Grants.removeLocked_items, if_neg hne, hx]
    simp only [openConsume]
    split_ifs
    · exact hkept
    split
    · exact hkept
    · exact hkept
  | openAbort entry upstream session status =>
    rw [hst] at hs
    obtain rfl := Option.some.inj hs
    exact hx
  | openNotice entry upstream status =>
    rw [hst] at hs
    obtain rfl := Option.some.inj hs
    show (g.sendNotice _ _).grants.items id = some x
    rwa [grants_sendNotice]
  | closingGrants =>
    rw [hst] at hs
    obtain rfl := Option.some.inj hs
    show (g.grants.closeConnection c).items id = some x
    rw [Grants.closeConnection_items, hx]
    simp [Option.filter, hc]
  | closingSessions =>
    rw [hst] at hs
    obtain rfl := Option.some.inj hs
    exact hx
  | closingNotices records =>
    rw [hst] at hs
    cases records with
    | nil =>
      obtain rfl := Option.some.inj hs
      exact hx
    | cons record records =>
      obtain rfl := Option.some.inj hs
      show (g.sendNotice _ _).grants.items id = some x
      rwa [grants_sendNotice]

/-- No storer closes the grants of the disk. -/
def DiskOpen (g : Gateway) (diskID : DiskID) : Prop :=
  ∀ e st ds, g.storers e = some st → st.stage = .closingDisks ds → diskID ∉ ds

/-- **A grant stays** while others act and no storer of its disk is torn down. -/
theorem grant_kept {a : GatewayAction} {id : Nat} {x : Grant} (h : g.OwnLookups)
    (hx : g.grants.items id = some x) (hclient : client a ≠ some x.clientConnection)
    (hopen : g.DiskOpen x.diskID) (hs : g.step cfg a = some g') :
    g'.grants.items id = some x := by
  cases a with
  | tick | acceptStorer | acceptClient =>
    obtain rfl := Option.some.inj hs
    exact hx
  | request c req =>
    obtain ⟨cl, -, hs⟩ := Option.bind_eq_some_iff.mp hs
    split_ifs at hs
    obtain rfl := Option.some.inj hs
    rwa [grants_handleRequest]
  | handler c =>
    obtain ⟨cl, hcl, hs⟩ := Option.bind_eq_some_iff.mp hs
    exact grant_handler h hcl hx (fun hc => hclient (congrArg some hc.symm)) hs
  | upstream c reply =>
    obtain ⟨cl, -, hs⟩ := Option.bind_eq_some_iff.mp hs
    split at hs
    · obtain rfl := Option.some.inj hs
      cases reply <;> exact hx
    · cases hs
  | endClient c =>
    obtain ⟨cl, -, hs⟩ := Option.bind_eq_some_iff.mp hs
    split_ifs at hs
    obtain rfl := Option.some.inj hs
    exact hx
  | register e req =>
    obtain ⟨st, -, hs⟩ := Option.bind_eq_some_iff.mp hs
    split_ifs at hs
    obtain rfl := Option.some.inj hs
    unfold register
    split_ifs
    · exact hx
    · exact hx
    split
    · exact hx
    · exact hx
  | endStorer e =>
    obtain ⟨st, -, hs⟩ := Option.bind_eq_some_iff.mp hs
    split_ifs at hs
    obtain rfl := Option.some.inj hs
    exact hx
  | storer e =>
    obtain ⟨st, hst, hs⟩ := Option.bind_eq_some_iff.mp hs
    unfold teardown at hs
    split at hs
    · obtain rfl := Option.some.inj hs
      exact hx
    · obtain rfl := Option.some.inj hs
      exact hx
    · next d ds hstage =>
      obtain rfl := Option.some.inj hs
      have hd : x.diskID ≠ d := fun hd => hopen e st _ hst hstage (hd ▸ List.mem_cons_self)
      show (g.grants.closeDisk d).items id = some x
      rw [Grants.closeDisk_items, hx]
      simp [Option.filter, hd]
    · obtain rfl := Option.some.inj hs
      exact hx
    · cases hs
    · cases hs

end Gateway

namespace Plane

variable {cfg : GatewayConfig} {s s' : Plane} {c : Nat}

/-- What a step that is not the gateway's does to its clients: one may be idle again or end. -/
def Rests (g g' : Gateway) : Prop :=
  g'.grants = g.grants ∧ (g'.clients = g.clients ∨
    ∃ c cl, g'.clients = Function.update g.clients c (some cl) ∧ cl.stage.lookup = none)

theorem rests_step {a : PlaneAction} (ha : ∀ b, a ≠ .gateway b) (hs : s.step cfg a = some s') :
    Rests s.gateway s'.gateway := by
  have hsame : ∀ {g : Gateway}, g.grants = s.gateway.grants → g.clients = s.gateway.clients →
      Rests s.gateway g := fun hg hc => ⟨hg, .inl hc⟩
  have hupdate : ∀ {g : Gateway} {c cl}, g.grants = s.gateway.grants →
      g.clients = Function.update s.gateway.clients c (some cl) → cl.stage.lookup = none →
        Rests s.gateway g := fun hg hc hl => ⟨hg, .inr ⟨_, _, hc, hl⟩⟩
  cases a with
  | gateway b => exact absurd rfl (ha b)
  | request c op sessionID body =>
    obtain ⟨cl, -, hs⟩ := Option.bind_eq_some_iff.mp hs
    split_ifs at hs
    obtain rfl := Option.some.inj hs
    unfold Plane.handleRequest
    split_ifs
    · exact hupdate rfl rfl rfl
    split
    · exact hupdate rfl rfl rfl
    · exact hsame rfl rfl
  | closeNotice c sessionID body =>
    obtain ⟨cl, -, hs⟩ := Option.bind_eq_some_iff.mp hs
    split_ifs at hs
    obtain rfl := Option.some.inj hs
    unfold Plane.handleSessionCloseNotice
    split_ifs
    · exact hupdate rfl rfl rfl
    split
    · exact hsame rfl rfl
    · exact hsame rfl rfl
  | advance c =>
    obtain ⟨cl, -, hs⟩ := Option.bind_eq_some_iff.mp hs
    obtain ⟨stage, -, hs⟩ := Option.bind_eq_some_iff.mp hs
    unfold Plane.advance at hs
    cases stage with
    | link op body record =>
      dsimp only at hs
      split_ifs at hs
      · obtain rfl := Option.some.inj hs
        exact hsame rfl rfl
      · obtain rfl := Option.some.inj hs
        exact hsame rfl rfl
    | upstream op body record => cases hs
    | drop record body =>
      obtain rfl := Option.some.inj hs
      exact hupdate rfl rfl rfl
    | close record =>
      obtain rfl := Option.some.inj hs
      exact hsame rfl rfl
    | notice record =>
      obtain rfl := Option.some.inj hs
      exact hsame (Gateway.grants_sendNotice _ _) (Gateway.sendNotice_clients _ _ _)
  | reply c status body =>
    obtain ⟨cl, -, hs⟩ := Option.bind_eq_some_iff.mp hs
    split at hs
    · obtain rfl := Option.some.inj hs
      unfold Plane.reply
      split
      · exact hsame rfl rfl
      · exact hupdate rfl rfl rfl
    · cases hs
  | lost c =>
    simp only [Plane.step] at hs
    split at hs
    · split_ifs at hs
      obtain rfl := Option.some.inj hs
      exact hsame rfl rfl
    · cases hs
  | noticeFails c =>
    obtain ⟨cl, -, hs⟩ := Option.bind_eq_some_iff.mp hs
    split at hs
    · split_ifs at hs
      obtain rfl := Option.some.inj hs
      exact hupdate rfl rfl rfl
    · cases hs
  | breakLink | storerCloses =>
    obtain rfl := Option.some.inj hs
    exact hsame rfl rfl
  | storerNotice e u body =>
    obtain ⟨st, -, hs⟩ := Option.bind_eq_some_iff.mp hs
    split_ifs at hs
    obtain rfl := Option.some.inj hs
    exact hsame rfl rfl
  | emit e =>
    have hframe := (Plane.emit_frame hs).1
    exact hsame (by rw [hframe]) (by rw [hframe])

theorem ownLookups_step {a : PlaneAction} (hi : s.Inv) (h : s.gateway.OwnLookups)
    (hs : s.step cfg a = some s') : s'.gateway.OwnLookups := by
  by_cases ha : ∃ b, a = .gateway b
  · obtain ⟨b, rfl⟩ := ha
    simp only [Plane.step] at hs
    split_ifs at hs
    obtain ⟨g, hg, rfl⟩ := Option.map_eq_some_iff.mp hs
    exact h.step hi.torn hg
  · obtain ⟨hgrants, hclients⟩ := rests_step (fun b hb => ha ⟨b, hb⟩) hs
    intro c cl hcl id d hlookup x hx
    rw [hgrants] at hx
    rcases hclients with heq | ⟨c₀, cl₀, heq, hnone⟩
    · exact h c cl (heq ▸ hcl) id d hlookup x hx
    · rw [heq] at hcl
      rcases update_some hcl with ⟨hc, rfl⟩ | ⟨hc, hcl⟩
      · rw [hnone] at hlookup
        cases hlookup
      · exact h c cl hcl id d hlookup x hx

theorem grant_kept {a : PlaneAction} {id : Nat} {x : Grant} (h : s.gateway.OwnLookups)
    (hx : s.gateway.grants.items id = some x) (hsubject : subject a ≠ some x.clientConnection)
    (hopen : s.gateway.DiskOpen x.diskID) (hs : s.step cfg a = some s') :
    s'.gateway.grants.items id = some x := by
  by_cases ha : ∃ b, a = .gateway b
  · obtain ⟨b, rfl⟩ := ha
    simp only [Plane.step] at hs
    split_ifs at hs
    obtain ⟨g, hg, rfl⟩ := Option.map_eq_some_iff.mp hs
    refine Gateway.grant_kept h hx (fun hc => hsubject ?_) hopen hg
    cases b with
    | request | handler | upstream | endClient => exact hc
    | _ => cases hc
  · exact (congrArg (·.items id) (rests_step (fun b hb => ha ⟨b, hb⟩) hs).1).trans hx

end Plane

/-- A connection in an AuthFinish. -/
def Client.authenticating (stage : ClientStage) : Client := { stage, authInFlight := true }

/-- A connection in a SessionOpen. -/
def Client.opening (stage : ClientStage) : Client := { stage, openInFlight := true }

/-- The client that a step is about. -/
def HandlerAction.client {F : Type} : HandlerAction F → Option Nat
  | .payload c _ _ | .roundTrip c _ => some c
  | .plane a => Plane.subject a
  | .dataChanged .. => none

namespace ClientHandler

variable {F : Type} {cfg : GatewayConfig} {zstd : Zstd} {handle : FileHandle F}
  {s s' : ClientHandler} {c : Nat} {cl cl' : Client}

/-! ## The end of a section -/

theorem finish_frame (s : ClientHandler) (c : Nat) :
    (s.finish c).plane = s.plane ∧ (s.finish c).notices = s.notices ∧
      (∀ c', c' ≠ c → (s.finish c).serving c' = s.serving c') ∧
        ((s.finish c).sent = s.sent ∨ ∃ x, x.conn = c ∧ (s.finish c).sent = x :: s.sent) := by
  have hclear : ∀ c', c' ≠ c → Function.update s.serving c none c' = s.serving c' :=
    fun c' hc => Function.update_of_ne hc _ _
  unfold ClientHandler.finish
  split
  · split_ifs
    · exact ⟨rfl, rfl, hclear, .inl rfl⟩
    · split
      · exact ⟨rfl, rfl, hclear, .inr ⟨_, rfl, rfl⟩⟩
      · exact ⟨rfl, rfl, fun _ _ => rfl, .inl rfl⟩
    · exact ⟨rfl, rfl, fun _ _ => rfl, .inl rfl⟩
  · exact ⟨rfl, rfl, fun _ _ => rfl, .inl rfl⟩

/-- The handler goes on. -/
theorem finish_busy (hcl : s.plane.gateway.clients c = some cl) (hconnected : cl.connected = true)
    (hbusy : ¬(cl.stage = .idle ∧ s.plane.proxy c = none)) : s.finish c = s := by
  unfold ClientHandler.finish
  cases s.serving c with
  | none => rfl
  | some x =>
    simp only [hcl, hconnected, Bool.not_true, Bool.false_eq_true, if_false, if_neg hbusy]

/-- The handler has responded. -/
theorem finish_responded {x : Serving} {r : Response} {log : List Event}
    (hserving : s.serving c = some x) (hcl : s.plane.gateway.clients c = some cl)
    (hidle : cl.stage = .idle) (hproxy : s.plane.proxy c = none)
    (hlog : s.plane.gateway.log = .responded c r :: log) :
    s.finish c = s.send c x.payload (r.encode x.header) := by
  have hconnected : cl.connected = true := by rw [Client.connected, hidle]
  unfold ClientHandler.finish
  simp only [hserving, hcl, hconnected, Bool.not_true, Bool.false_eq_true, if_false,
    if_pos (And.intro hidle hproxy), hlog]

/-! ## Where a connection is -/

/-- What has been answered on a connection. -/
def answers (s : ClientHandler) (c : Nat) : List Exchange := s.sent.filter (·.conn = c)

/-- A step leaves alone what is served and answered on `c`. -/
structure Aside (cfg : GatewayConfig) (c : Nat) (s s' : ClientHandler) : Prop where
  plane : s'.plane = s.plane ∨
    ∃ b, s.plane.step cfg b = some s'.plane ∧ Plane.subject b ≠ some c
  serving : s'.serving c = s.serving c
  answers : s'.answers c = s.answers c

theorem aside_finish {b : PlaneAction} {plane : Plane} {serving : Nat → Option Serving} {c' : Nat}
    (hc : c ≠ c') (hplane : s.plane.step cfg b = some plane) (hb : Plane.subject b = some c')
    (hserving : serving c = s.serving c) :
    Aside cfg c s ({ s with plane, serving }.finish c') := by
  obtain ⟨hpl, -, hothers, hsent⟩ := finish_frame { s with plane, serving } c'
  refine ⟨.inr ⟨b, by rw [hpl, hplane], fun he => hc (Option.some.inj (he.symm.trans hb))⟩,
    (hothers c hc).trans hserving, ?_⟩
  rcases hsent with heq | ⟨x, hx, heq⟩
  · rw [answers, heq, answers]
  · rw [answers, heq, List.filter_cons_of_neg (by simpa using fun he => hc (he.symm.trans hx)),
      answers]

theorem aside_send {c' : Nat} (hc : c ≠ c') (payload response : Bytes) :
    Aside cfg c s (s.send c' payload response) :=
  ⟨.inl rfl, Function.update_of_ne hc _ _,
    List.filter_cons_of_neg (by simpa using fun he : c' = c => hc he.symm)⟩

theorem aside_notice {b : PlaneAction} (hb : Plane.subject b ≠ some c)
    (hs : s.handleNotice cfg b = some s') : Aside cfg c s s' := by
  obtain ⟨plane, hplane, rfl⟩ := Option.map_eq_some_iff.mp hs
  exact ⟨.inr ⟨b, hplane, hb⟩, rfl, rfl⟩

theorem aside_serve {b : PlaneAction} {c' : Nat} {payload : Bytes} {header : Header} (hc : c ≠ c')
    (hb : Plane.subject b = some c') (hs : s.serve cfg c' payload header b = some s') :
    Aside cfg c s s' := by
  obtain ⟨plane, hplane, rfl⟩ := Option.map_eq_some_iff.mp hs
  exact aside_finish hc hplane hb (Function.update_of_ne hc _ _)

/-- The payload of another client. -/
theorem aside_payload {c' : Nat} (hc : c ≠ c') {payload : Bytes} {salt : Vector UInt8 16}
    (hs : s.handlePayload cfg c' payload salt = some s') : Aside cfg c s s' := by
  have hnotice : ∀ {b}, Plane.subject b = some c' → s.handleNotice cfg b = some s' →
      Aside cfg c s s' := fun hb hs =>
    aside_notice (fun he => hc (Option.some.inj (he.symm.trans hb))) hs
  have hsend : ∀ response, some (s.send c' payload response) = some s' → Aside cfg c s s' :=
    fun response he => Option.some.inj he ▸ aside_send hc payload response
  unfold handlePayload at hs
  split at hs
  · exact hnotice rfl hs
  · dsimp only at hs
    split_ifs at hs
    · exact hnotice rfl hs
    · exact hnotice rfl hs
    · exact hnotice rfl hs
    · exact hsend _ hs
    · exact aside_serve hc rfl hs
    · exact aside_serve hc rfl hs
    · exact aside_serve hc rfl hs
    · exact aside_serve hc rfl hs
    · unfold handleConnHeartbeat at hs
      split_ifs at hs
      · exact hsend _ hs
      · exact hsend _ hs
      · exact hsend _ hs
    · exact aside_serve hc rfl hs
    · exact aside_serve hc rfl hs
    · exact hsend _ hs

/-- **A step of the others** leaves a connection alone. -/
theorem aside_step {a : HandlerAction F} (ha : a.client ≠ some c)
    (hs : s.step cfg zstd handle a = some s') : Aside cfg c s s' := by
  cases a with
  | payload c' payload salt =>
    have hc : c ≠ c' := fun he => ha (congrArg some he.symm)
    simp only [step] at hs
    split at hs
    · split_ifs at hs
      exact aside_payload hc hs
    · cases hs
  | roundTrip c' proxy =>
    have hc : c ≠ c' := fun he => ha (congrArg some he.symm)
    simp only [step] at hs
    split at hs
    · obtain ⟨status, -, hs⟩ := Option.bind_eq_some_iff.mp hs
      obtain ⟨plane, hplane, rfl⟩ := Option.map_eq_some_iff.mp hs
      exact aside_finish hc hplane rfl rfl
    · cases hs
  | plane a =>
    simp only [step] at hs
    split_ifs at hs with hpayload
    obtain ⟨plane, hplane, rfl⟩ := Option.map_eq_some_iff.mp hs
    split
    · next e =>
      have hwritten : ∀ t : ClientHandler, t.writeCloseNotice.plane = t.plane ∧
          t.writeCloseNotice.serving = t.serving ∧ t.writeCloseNotice.sent = t.sent := by
        intro t
        unfold writeCloseNotice
        split
        · split_ifs <;> exact ⟨rfl, rfl, rfl⟩
        · exact ⟨rfl, rfl, rfl⟩
      obtain ⟨hpl, hserving, hsent⟩ := hwritten { s with plane }
      exact ⟨.inr ⟨.emit e, by rw [hpl, hplane], (by rintro ⟨⟩)⟩, by rw [hserving],
        by rw [answers, hsent, answers]⟩
    · cases hclient : a.client with
      | some c' =>
        have hsubject : Plane.subject a = some c' := by
          unfold PlaneAction.client at hclient
          split at hclient
          all_goals first
            | exact hclient
            | cases hclient
        exact aside_finish (fun he => ha (he ▸ hsubject)) hplane hsubject rfl
      | none => exact ⟨.inr ⟨a, hplane, ha⟩, rfl, rfl⟩
  | dataChanged route upstream =>
    obtain rfl := Option.some.inj hs
    unfold notifyRouteSessionDataChanged
    split
    · exact ⟨.inl rfl, rfl, rfl⟩
    · split_ifs <;> exact ⟨.inl rfl, rfl, rfl⟩

/-- Connection `c` is idle or in a request, and this has been answered on it. -/
structure Waits (c : Nat) (cl : Client) (x : Option Serving) (answered : List Exchange)
    (s : ClientHandler) : Prop where
  plane : s.plane.Inv
  owned : s.plane.gateway.OwnLookups
  client : s.plane.gateway.clients c = some cl
  proxy : s.plane.proxy c = none
  serving : s.serving c = x
  answers : s.answers c = answered

theorem Waits.other {x : Option Serving} {answered : List Exchange}
    (h : s.Waits c cl x answered) {a : HandlerAction F} (ha : a.client ≠ some c)
    (hs : s.step cfg zstd handle a = some s') : s'.Waits c cl x answered := by
  obtain ⟨hplane, hserving, hanswers⟩ := aside_step ha hs
  rcases hplane with heq | ⟨b, hb, hsubject⟩
  · exact ⟨heq ▸ h.plane, heq ▸ h.owned, heq ▸ h.client, heq ▸ h.proxy, hserving ▸ h.serving,
      hanswers ▸ h.answers⟩
  · obtain ⟨hclient, hproxy⟩ := Plane.step_frame h.plane hb hsubject h.client
    exact ⟨Plane.step_inv s.plane b s'.plane h.plane hb, Plane.ownLookups_step h.plane h.owned hb,
      hclient, hproxy.trans h.proxy, hserving ▸ h.serving, hanswers ▸ h.answers⟩

/-- A grant of the connection stays. -/
theorem grant_kept {a : HandlerAction F} (ha : a.client ≠ some c)
    (howned : s.plane.gateway.OwnLookups) {id : Nat} {g : Grant}
    (hg : s.plane.gateway.grants.items id = some g) (hc : g.clientConnection = c)
    (hopen : s.plane.gateway.DiskOpen g.diskID) (hs : s.step cfg zstd handle a = some s') :
    s'.plane.gateway.grants.items id = some g := by
  rcases (aside_step ha hs).plane with heq | ⟨b, hb, hsubject⟩
  · rw [heq, hg]
  · exact Plane.grant_kept howned hg (fun he => hsubject (he.trans (congrArg some hc))) hopen hb

/-! ## The steps of the connection -/

section Own

variable {x : Serving} {y : Option Serving} {answered : List Exchange} {plane : Plane}
  {serving : Nat → Option Serving}

/-- The handler goes on. -/
theorem Waits.moved (h : s.Waits c cl y answered) {b : PlaneAction}
    (hb : s.plane.step cfg b = some plane) (hclient : plane.gateway.clients c = some cl')
    (hproxy : plane.proxy c = none) (hserving : serving c = some x)
    (hconnected : cl'.connected = true) (hbusy : cl'.stage ≠ .idle) :
    ({ s with plane, serving }.finish c).Waits c cl' (some x) answered := by
  rw [finish_busy (s := { s with plane, serving }) hclient hconnected fun hb => hbusy hb.1]
  exact ⟨Plane.step_inv s.plane b plane h.plane hb, Plane.ownLookups_step h.plane h.owned hb,
    hclient, hproxy, hserving, h.answers⟩

/-- The handler responds. -/
theorem Waits.responded (h : s.Waits c cl y answered) {b : PlaneAction}
    (hb : s.plane.step cfg b = some plane) (hclient : plane.gateway.clients c = some cl')
    (hproxy : plane.proxy c = none) (hserving : serving c = some x)
    (hidle : cl'.stage = .idle) {r : Response} {log : List Event}
    (hlog : plane.gateway.log = .responded c r :: log) :
    ({ s with plane, serving }.finish c).Waits c cl' none
      (⟨c, x.payload, r.encode x.header⟩ :: answered) := by
  rw [finish_responded (s := { s with plane, serving }) hserving hclient hidle hproxy hlog]
  refine ⟨Plane.step_inv s.plane b plane h.plane hb, Plane.ownLookups_step h.plane h.owned hb,
    hclient, hproxy, Function.update_self _ _ _, ?_⟩
  show List.filter _ (_ :: s.sent) = _
  rw [List.filter_cons_of_pos (by simp)]
  exact congrArg _ h.answers

variable {g' : Gateway}

/-- A section of the handler of the connection. -/
theorem Waits.handler (h : s.Waits c cl y answered)
    (hs : s.step cfg zstd handle (.plane (.gateway (.handler c))) = some s') :
    ∃ g', s.plane.gateway.handler cfg c cl = some g' ∧
      s.plane.step cfg (.gateway (.handler c)) = some { s.plane with gateway := g' } ∧
      s' = { s with plane := { s.plane with gateway := g' } }.finish c := by
  have hplane : ∀ plane, s.plane.step cfg (.gateway (.handler c)) = some plane →
      ∃ g', s.plane.gateway.handler cfg c cl = some g' ∧
        plane = { s.plane with gateway := g' } := by
    intro plane hplane
    simp only [Plane.step, Plane.free, if_true] at hplane
    obtain ⟨g', hg', rfl⟩ := Option.map_eq_some_iff.mp hplane
    obtain ⟨cl', hcl', hg'⟩ := Option.bind_eq_some_iff.mp hg'
    obtain rfl := Option.some.inj (h.client.symm.trans hcl')
    exact ⟨g', hg', rfl⟩
  simp only [step, PlaneAction.fromPayload, Bool.false_eq_true, if_false, stepPlane,
    PlaneAction.client] at hs
  obtain ⟨plane, hstep, rfl⟩ := Option.map_eq_some_iff.mp hs
  obtain ⟨g', hg', rfl⟩ := hplane plane hstep
  exact ⟨g', hg', hstep, rfl⟩

/-- A request of the gateway that arrives on the connection. -/
theorem Waits.serve (h : s.Waits c cl none answered) {payload : Bytes} {header : Header}
    {req : Request}
    (hs : s.serve cfg c payload header (.gateway (.request c req)) = some s') :
    s.plane.step cfg (.gateway (.request c req)) =
        some { s.plane with gateway := s.plane.gateway.handleRequest cfg c cl req } ∧
      s' = { s with
        plane := { s.plane with gateway := s.plane.gateway.handleRequest cfg c cl req }
        serving := Function.update s.serving c (some { payload, header }) }.finish c := by
  obtain ⟨plane, hstep, rfl⟩ := Option.map_eq_some_iff.mp hs
  have hplane := hstep
  simp only [Plane.step, Plane.free, h.proxy, Option.isNone_none, if_true] at hplane
  obtain ⟨g', hg', rfl⟩ := Option.map_eq_some_iff.mp hplane
  obtain ⟨cl', hcl', hg'⟩ := Option.bind_eq_some_iff.mp hg'
  obtain rfl := Option.some.inj (h.client.symm.trans hcl')
  split_ifs at hg'
  obtain rfl := Option.some.inj hg'
  exact ⟨hstep, rfl⟩

end Own

/-! ## An authentication and an open, section by section -/

/-- A storer serves the disk of `entry`, and it is not `deadline` yet. -/
structure Serves (entry : Entry) (deadline : Nat) (s : ClientHandler) : Prop where
  route : s.plane.gateway.routes.lookupRoute entry.diskID = some entry
  link : s.plane.gateway.links entry.connectionID = true
  diskOpen : s.plane.gateway.DiskOpen entry.diskID
  now : s.plane.gateway.now < deadline
  room : s.plane.gateway.Room

/-- The actions of a connection. -/
def own (c : Nat) (a : HandlerAction F) : Bool := a.client = some c

/-- In every run in which a storer serves the disk, with these actions of connection `c` among those
of the others. -/
abbrev Admits (cfg : GatewayConfig) (zstd : Zstd) (handle : FileHandle F) (c : Nat) (entry : Entry)
    (deadline : Nat) : (ClientHandler → Prop) → List (HandlerAction F) → (ClientHandler → Prop) →
    Prop :=
  Threaded (step cfg zstd handle) (own c) fun s _ => s.Serves entry deadline

variable {entry : Entry} {deadline : Nat} {x : Serving} {y : Option Serving}
  {answered : List Exchange}

theorem stable_waits : Stable (step cfg zstd handle) (own c) (fun s _ => s.Serves entry deadline)
    (Waits c cl y answered) :=
  fun _ _ _ h ha _ hs => h.other (by simpa [own] using ha) hs

/-- The grant of the connection, whatever else it waits for. -/
theorem stable_grant {g : Grant} (hc : g.clientConnection = c) (hd : g.diskID = entry.diskID) :
    Stable (step cfg zstd handle) (own c) (fun s _ => s.Serves entry deadline) fun s =>
      Waits c cl y answered s ∧ s.plane.gateway.grants.items g.id = some g :=
  fun _ _ _ h ha hG hs =>
    ⟨stable_waits _ _ _ h.1 ha hG hs,
      grant_kept (by simpa [own] using ha) h.1.owned h.2 hc (hd ▸ hG.diskOpen) hs⟩

/-- The next section of the handler of `c`. -/
abbrev next (c : Nat) : HandlerAction F := .plane (.gateway (.handler c))

theorem step_authLookup {challenge : Challenge} {proof : Bytes}
    (hdisk : challenge.diskID = entry.diskID)
    (hproof : proof = computeProof cfg.codec.hmac entry.authVerifier challenge.salt)
    (h : s.Waits c (.authenticating (.authLookup challenge proof)) (some x) answered)
    (hG : s.Serves entry deadline) (hs : s.step cfg zstd handle (next c) = some s') :
    s'.Waits c (.authenticating (.authClock challenge.diskID entry)) (some x)
      answered := by
  obtain ⟨g', hg', hplane, rfl⟩ := h.handler hs
  have hclients : g'.clients c =
      some (.authenticating (.authClock challenge.diskID entry)) := by
    obtain rfl := Option.some.inj hg'
    simp only [Gateway.authLookup, hdisk, hG.route, ← hproof, ne_eq, not_true_eq_false, if_false]
    exact Function.update_self _ _ _
  exact h.moved hplane hclients h.proxy h.serving rfl nofun

theorem step_authClock {diskID : DiskID}
    (h : s.Waits c (.authenticating (.authClock diskID entry)) (some x) answered)
    (hs : s.step cfg zstd handle (next c) = some s') :
    s'.Waits c (.authenticating (.authIssue diskID entry (s.plane.gateway.now + challengeTTL)))
      (some x) answered := by
  obtain ⟨g', hg', hplane, rfl⟩ := h.handler hs
  obtain rfl := Option.some.inj hg'
  exact h.moved hplane (Function.update_self _ _ _) h.proxy h.serving rfl nofun

theorem step_authIssue {diskID : DiskID} {expiresAt : Nat} (hG : s.Serves entry deadline)
    (h : s.Waits c (.authenticating (.authIssue diskID entry expiresAt)) (some x)
      answered) (hs : s.step cfg zstd handle (next c) = some s') :
    ∃ id, 0 < id ∧ id < 2 ^ 64 ∧
      s'.plane.gateway.grants.items id = some ⟨id, c, diskID, expiresAt⟩ ∧
      s'.Waits c {} none
        (⟨c, x.payload, ({ status := .ok, body := putUint64 id } : Response).encode x.header⟩ ::
          answered) := by
  obtain ⟨g', hg', hplane, rfl⟩ := h.handler hs
  obtain rfl := Option.some.inj hg'
  refine ⟨s.plane.gateway.grants.nextID + 1, Nat.succ_pos _, hG.room.1, ?_, ?_⟩
  · rw [(finish_frame _ c).1]
    exact Function.update_self _ _ _
  · exact h.responded hplane (Function.update_self _ _ _) h.proxy h.serving rfl rfl

/-- A grant of connection `c` for the disk of `entry`. -/
structure Owns (c : Nat) (entry : Entry) (g : Grant) : Prop where
  pos : 0 < g.id
  lt : g.id < 2 ^ 64
  connection : g.clientConnection = c
  disk : g.diskID = entry.diskID

/-- The connection is idle and has a grant. -/
def HasGrant (c : Nat) (entry : Entry) (answered : Grant → List Exchange) (s : ClientHandler) :
    Prop :=
  ∃ g, Owns c entry g ∧ Waits c {} none (answered g) s ∧
    s.plane.gateway.grants.items g.id = some g

theorem stable_hasGrant {answered : Grant → List Exchange} :
    Stable (step cfg zstd handle) (own c) (fun s _ => s.Serves entry deadline)
      (HasGrant c entry answered) :=
  .exists fun _ s a s' ⟨howns, h⟩ ha hG hs =>
    ⟨howns, stable_grant howns.connection howns.disk s a s' h ha hG hs⟩

/-- **A right proof is granted.** -/
theorem admits_proof {challenge : Challenge} {proof : Bytes}
    (hdisk : challenge.diskID = entry.diskID)
    (hproof : proof = computeProof cfg.codec.hmac entry.authVerifier challenge.salt) :
    Admits cfg zstd handle c entry deadline
      (Waits c (.authenticating (.authLookup challenge proof)) (some x) answered)
      [next c, next c, next c]
      (HasGrant c entry fun g => ⟨c, x.payload,
        ({ status := .ok, body := putUint64 g.id } : Response).encode x.header⟩ :: answered) := by
  refine .cons stable_waits (fun s s' h hG hs => step_authLookup hdisk hproof h hG hs) ?_
  refine .cons (R := fun s => ∃ e, Waits c (.authenticating (.authIssue challenge.diskID entry e))
    (some x) answered s) stable_waits (fun s s' h _ hs => ⟨_, step_authClock h hs⟩)
    (.exists fun e => ?_)
  refine .cons stable_waits (fun s s' h hG hs => ?_) (.nil stable_hasGrant)
  obtain ⟨id, hpos, hmax, hitem, hw⟩ := step_authIssue hG h hs
  exact ⟨⟨id, c, challenge.diskID, e⟩, ⟨hpos, hmax, rfl, hdisk⟩, hw, hitem⟩

/-! ## An open -/

/-- The storer opens the upstream session `u`. -/
abbrev opens (c u : Nat) : HandlerAction F := .plane (.gateway (.upstream c (.ok u)))

theorem Waits.upstream {u authID : Nat}
    (h : s.Waits c (.opening (.openUpstream authID entry)) (some x) answered)
    (hs : s.step cfg zstd handle (opens c u) = some s') :
    s'.Waits c (.opening (.openRegister authID entry u)) (some x) answered ∧
      s'.plane.gateway.grants = s.plane.gateway.grants := by
  have hgateway : s.plane.gateway.step cfg (.upstream c (.ok u)) =
      some (s.plane.gateway.openUpstream c (.opening (.openUpstream authID entry)) authID entry
        (.ok u)) := by
    show (s.plane.gateway.clients c).bind _ = _
    rw [h.client]
    rfl
  simp only [step, PlaneAction.fromPayload, Bool.false_eq_true, if_false, stepPlane,
    PlaneAction.client] at hs
  obtain ⟨plane, hplane, rfl⟩ := Option.map_eq_some_iff.mp hs
  have hnext := hplane
  simp only [Plane.step, Plane.free, if_true, hgateway, Option.map_some] at hnext
  obtain rfl := Option.some.inj hnext
  refine ⟨h.moved hplane (Function.update_self _ _ _) ?_ h.serving rfl (by rintro ⟨⟩), ?_⟩
  · exact (congrFun (Plane.note_proxy s.plane _) c).trans h.proxy
  · rw [(finish_frame _ c).1]
    rfl

variable {g : Grant}

theorem step_openLookup (howns : Owns c entry g)
    (h : s.Waits c (.opening (.openLookup g.id)) (some x) answered ∧
      s.plane.gateway.grants.items g.id = some g)
    (hG : s.Serves entry g.expiresAt) (hs : s.step cfg zstd handle (next c) = some s') :
    s'.Waits c (.opening (.openRoute g.id g.diskID)) (some x) answered ∧
      s'.plane.gateway.grants.items g.id = some g := by
  obtain ⟨hw, hitem⟩ := h
  obtain ⟨g', hg', hplane, rfl⟩ := hw.handler hs
  have hfound : s.plane.gateway.grants.lookupDisk s.plane.gateway.now g.id c =
      (s.plane.gateway.grants, .ok g.diskID) := by
    unfold Grants.lookupDisk
    rw [hitem]
    dsimp only
    rw [if_neg (not_not.mpr howns.connection), if_neg (not_le.mpr hG.now)]
    rfl
  obtain rfl := Option.some.inj hg'
  have hnext : s.plane.gateway.openLookup c (.opening (.openLookup g.id)) g.id =
      s.plane.gateway.setStage c (.opening (.openLookup g.id)) (.openRoute g.id g.diskID) := by
    unfold Gateway.openLookup
    rw [hfound]
  refine ⟨hw.moved hplane ?_ hw.proxy hw.serving rfl nofun, ?_⟩
  · show (s.plane.gateway.openLookup c _ g.id).clients c = _
    rw [hnext]
    exact Function.update_self _ _ _
  · rw [(finish_frame _ c).1]
    show (s.plane.gateway.openLookup c _ g.id).grants.items g.id = _
    rw [hnext]
    exact hitem

theorem step_openRoute (howns : Owns c entry g)
    (h : s.Waits c (.opening (.openRoute g.id g.diskID)) (some x) answered ∧
      s.plane.gateway.grants.items g.id = some g)
    (hG : s.Serves entry g.expiresAt) (hs : s.step cfg zstd handle (next c) = some s') :
    s'.Waits c (.opening (.openLink g.id entry)) (some x) answered ∧
      s'.plane.gateway.grants.items g.id = some g := by
  obtain ⟨hw, hitem⟩ := h
  obtain ⟨g', hg', hplane, rfl⟩ := hw.handler hs
  obtain rfl := Option.some.inj hg'
  have hnext : s.plane.gateway.openRoute c (.opening (.openRoute g.id g.diskID)) g.id g.diskID =
      s.plane.gateway.setStage c (.opening (.openRoute g.id g.diskID)) (.openLink g.id entry) := by
    unfold Gateway.openRoute
    rw [howns.disk, hG.route]
  refine ⟨hw.moved hplane ?_ hw.proxy hw.serving rfl nofun, ?_⟩
  · show (s.plane.gateway.openRoute c _ g.id g.diskID).clients c = _
    rw [hnext]
    exact Function.update_self _ _ _
  · rw [(finish_frame _ c).1]
    show (s.plane.gateway.openRoute c _ g.id g.diskID).grants.items g.id = _
    rw [hnext]
    exact hitem

theorem step_openLink
    (h : s.Waits c (.opening (.openLink g.id entry)) (some x) answered ∧
      s.plane.gateway.grants.items g.id = some g)
    (hG : s.Serves entry g.expiresAt) (hs : s.step cfg zstd handle (next c) = some s') :
    s'.Waits c (.opening (.openUpstream g.id entry)) (some x) answered ∧
      s'.plane.gateway.grants.items g.id = some g := by
  obtain ⟨hw, hitem⟩ := h
  obtain ⟨g', hg', hplane, rfl⟩ := hw.handler hs
  obtain rfl := Option.some.inj hg'
  have hnext : s.plane.gateway.openLink c (.opening (.openLink g.id entry)) g.id entry =
      s.plane.gateway.setStage c (.opening (.openLink g.id entry)) (.openUpstream g.id entry) := by
    unfold Gateway.openLink
    rw [if_pos hG.link]
  refine ⟨hw.moved hplane ?_ hw.proxy hw.serving rfl nofun, ?_⟩
  · show (s.plane.gateway.openLink c _ g.id entry).clients c = _
    rw [hnext]
    exact Function.update_self _ _ _
  · rw [(finish_frame _ c).1]
    show (s.plane.gateway.openLink c _ g.id entry).grants.items g.id = _
    rw [hnext]
    exact hitem

theorem step_openRegister {u : Nat}
    (h : s.Waits c (.opening (.openRegister g.id entry u)) (some x) answered ∧
      s.plane.gateway.grants.items g.id = some g)
    (hG : s.Serves entry g.expiresAt) (hs : s.step cfg zstd handle (next c) = some s') :
    ∃ session, (0 < session ∧ session < 2 ^ 64) ∧
      s'.Waits c (.opening (.openConsume g.id entry u session)) (some x) answered ∧
      s'.plane.gateway.grants.items g.id = some g := by
  obtain ⟨hw, hitem⟩ := h
  obtain ⟨g', hg', hplane, rfl⟩ := hw.handler hs
  obtain rfl := Option.some.inj hg'
  refine ⟨gatewaySessionBaseID + (s.plane.gateway.sessions.nextID + 1), ⟨by omega, ?_⟩,
    hw.moved hplane (Function.update_self _ _ _) hw.proxy hw.serving rfl nofun, ?_⟩
  · have := hG.room.2
    unfold gatewaySessionBaseID
    omega
  · rw [(finish_frame _ c).1]
    exact hitem

theorem step_openConsume {u session : Nat} (howns : Owns c entry g)
    (h : s.Waits c (.opening (.openConsume g.id entry u session)) (some x) answered ∧
      s.plane.gateway.grants.items g.id = some g)
    (hs : s.step cfg zstd handle (next c) = some s') :
    s'.Waits c {} none (⟨c, x.payload,
      ({ status := .ok, sessionID := session } : Response).encode x.header⟩ :: answered) := by
  obtain ⟨hw, hitem⟩ := h
  obtain ⟨g', hg', hplane, rfl⟩ := hw.handler hs
  have hconsume : (s.plane.gateway.grants.consumeDisk g.id).2 = some entry.diskID := by
    unfold Grants.consumeDisk
    rw [hitem]
    exact congrArg some howns.disk
  obtain rfl := Option.some.inj hg'
  have hnext : ∃ t : Gateway, s.plane.gateway.openConsume c
      (.opening (.openConsume g.id entry u session)) g.id entry u session =
        t.respond c {} { status := .ok, sessionID := session } := by
    unfold Gateway.openConsume
    simp only [hconsume, ne_eq, not_true_eq_false, if_false]
    exact ⟨_, rfl⟩
  obtain ⟨t, hnext⟩ := hnext
  have hlog : (s.plane.gateway.openConsume c (.opening (.openConsume g.id entry u session)) g.id
      entry u session).log = .responded c { status := .ok, sessionID := session } :: t.log := by
    rw [hnext]
    rfl
  refine hw.responded hplane ?_ hw.proxy hw.serving rfl hlog
  show (s.plane.gateway.openConsume c _ g.id entry u session).clients c = _
  rw [hnext]
  exact Function.update_self _ _ _

/-- The connection is idle and has been given a session. -/
def HasSession (c : Nat) (answered : Nat → List Exchange) (s : ClientHandler) : Prop :=
  ∃ session, (0 < session ∧ session < 2 ^ 64) ∧ Waits c {} none (answered session) s

/-- **A grant opens a session.** -/
theorem admits_grant (howns : Owns c entry g) (u : Nat) :
    Admits cfg zstd handle c entry g.expiresAt
      (fun s => Waits c (.opening (.openLookup g.id)) (some x) answered s ∧
        s.plane.gateway.grants.items g.id = some g)
      [next c, next c, next c, opens c u, next c, next c]
      (HasSession c fun session => ⟨c, x.payload,
        ({ status := .ok, sessionID := session } : Response).encode x.header⟩ :: answered) := by
  have hstable : ∀ cl, Stable (step cfg zstd handle) (own c)
      (fun s _ => s.Serves entry g.expiresAt) fun s =>
        Waits c cl (some x) answered s ∧ s.plane.gateway.grants.items g.id = some g :=
    fun _ => stable_grant howns.connection howns.disk
  refine .cons (hstable _) (fun s s' h hG hs => step_openLookup howns h hG hs) ?_
  refine .cons (hstable _) (fun s s' h hG hs => step_openRoute howns h hG hs) ?_
  refine .cons (hstable _) (fun s s' h hG hs => step_openLink h hG hs) ?_
  refine .cons (R := fun s => Waits c (.opening (.openRegister g.id entry u)) (some x) answered s ∧
    s.plane.gateway.grants.items g.id = some g) (hstable _) (fun s s' h _ hs => ?_) ?_
  · obtain ⟨hw, hgrants⟩ := h.1.upstream hs
    exact ⟨hw, by rw [hgrants, h.2]⟩
  refine .cons (hstable _) (fun s s' h hG hs => step_openRegister h hG hs)
    (.exists fun session => .const fun hsession => ?_)
  refine .cons (hstable _) (fun s s' h _ hs => ?_) (.nil ?_)
  · exact ⟨session, hsession, step_openConsume howns h hs⟩
  · exact .exists fun session => (stable_const _).and stable_waits

end ClientHandler

end YumeDisk.Server
