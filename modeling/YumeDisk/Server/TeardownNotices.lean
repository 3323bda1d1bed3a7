import YumeDisk.Server.Authorization
import YumeDisk.Server.RouteTeardown

/-!
# What a teardown leaves, and whom it tells (`CloseRouteConnection`, `NotifySessionClosed`)

A record that a teardown takes is either still to be notified or has been: `Inv` keeps the ids in
`emitting` and `notices` apart, and each of them closed for good (`Spent`).  The grants from before
the disconnect go disk by disk (`LeftAt`).

* `teardown_leaves_nothing`: a route whose teardown has finished, when no SessionOpen on it is
  running any more.
-/

namespace YumeDisk.Server

open YumeDisk.Lib

/-- The id of a session that was registered and is closed. -/
def Gateway.Spent (g : Gateway) (session : Nat) : Prop :=
  session ≤ gatewaySessionBaseID + g.sessions.nextID ∧ g.sessions.items session = none

/-- No grant for the disk is left of those up to `lastGrant`. -/
def Gateway.Cleared (g : Gateway) (lastGrant : Nat) (diskID : DiskID) : Prop :=
  ∀ id x, id ≤ lastGrant → g.grants.items id = some x → x.diskID ≠ diskID

/-- The disks whose grants are still to be closed. -/
def Gateway.LeftAt (g : Gateway) (l : Leaving) : StorerStage → Prop
  | .serving | .disconnecting => False
  | .removingLink diskIDs => ∀ d ∈ l.diskIDs, d ∈ diskIDs
  | .closingDisks diskIDs => ∀ d ∈ l.diskIDs, d ∈ diskIDs ∨ g.Cleared l.lastGrant d
  | .done => ∀ d ∈ l.diskIDs, g.Cleared l.lastGrant d

section Goes

open Gateway

variable {who : Option Party} {g g' : Gateway}

theorem Gateway.Spent.goes {session : Nat} (h : g.Spent session) (hg : Goes who g g') :
    g'.Spent session :=
  ⟨h.1.trans (Nat.add_le_add_left hg.grown _), hg.spent session h.1 h.2⟩

theorem Gateway.Cleared.goes {n : Nat} {d : DiskID} (h : g.Cleared n d)
    (hn : n ≤ g.grants.nextID) (hg : Goes who g g') : g'.Cleared n d :=
  fun id x hid hx => h id x hid (hg.grants id x (hid.trans hn) hx)

theorem Gateway.LeftAt.goes {l : Leaving} {stage : StorerStage} (h : g.LeftAt l stage)
    (hn : l.lastGrant ≤ g.grants.nextID) (hg : Goes who g g') : g'.LeftAt l stage := by
  cases stage with
  | serving | disconnecting | removingLink => exact h
  | closingDisks ds => exact fun d hd => (h d hd).imp_right fun hc => hc.goes hn hg
  | done => exact fun d hd => (h d hd).goes hn hg

end Goes

namespace Plane

variable {cfg : GatewayConfig} {s : Plane}

/-! ## The invariant -/

structure Inv (s : Plane) : Prop where
  torn : s.gateway.Torn
  proxied : ∀ c p, s.proxy c = some p → ∃ cl, s.gateway.clients c = some cl ∧ cl.stage = .idle
  left : ∀ e st, s.gateway.storers e = some st → st.stage ≠ .serving → st.stage ≠ .disconnecting →
    ∃ l, s.leaving e = some l
  leaving : ∀ e l, s.leaving e = some l → l.lastGrant ≤ s.gateway.grants.nextID ∧
    ∃ st, s.gateway.storers e = some st ∧ s.gateway.LeftAt l st.stage
  /-- A notice that is still to be written is the first of its session. -/
  emitting : ∀ e x, x ∈ s.emitting e → s.gateway.Spent x.1.id ∧
    (∃ cl, s.gateway.clients x.1.clientConnectionID = some cl) ∧
      ∀ n ∈ s.notices, n.sessionID ≠ x.1.id
  once : ∀ e, ((s.emitting e).map fun x => x.1.id).Nodup
  apart : ∀ e e' x x', x ∈ s.emitting e → x' ∈ s.emitting e' → x.1.id = x'.1.id → e = e'
  notices : ∀ n ∈ s.notices, s.gateway.Spent n.sessionID ∧
    ∃ cl, s.gateway.clients n.clientConnectionID = some cl ∧
      (cl.connected = true → n.written = true)
  told : (s.notices.map CloseNotice.sessionID).Nodup
  removed : ∀ e r, (e, r) ∈ s.removed →
    (r, buildSessionCloseNoticeBody reasonRouteLost) ∈ s.emitting e ∨
      ∃ written, ⟨r.id, r.clientConnectionID, buildSessionCloseNoticeBody reasonRouteLost,
        written⟩ ∈ s.notices

theorem inv_init : Inv {} where
  torn := Gateway.torn_init
  proxied c p h := by cases h
  left e st h := by cases h
  leaving e l h := by cases h
  emitting e x h := by cases h
  once e := List.nodup_nil
  apart e e' x x' h := by cases h
  notices n h := by cases h
  told := List.nodup_nil
  removed e r h := by cases h

open Gateway in
/-- A step of the gateway; what is known of the storer that takes it is given anew. -/
theorem Inv.kept {who : Option Party} {g : Gateway} (h : s.Inv) (hk : Kept who s.gateway g)
    (hproxied : ∀ c p, s.proxy c = some p → ∃ cl, g.clients c = some cl ∧ cl.stage = .idle)
    (leaving : Nat → Option Leaving)
    (hother : ∀ e, who ≠ some (.storer e) → leaving e = s.leaving e)
    (hleft : ∀ e, who = some (.storer e) →
      (∀ st, g.storers e = some st → st.stage ≠ .serving → st.stage ≠ .disconnecting →
        ∃ l, leaving e = some l) ∧
      ∀ l, leaving e = some l → l.lastGrant ≤ g.grants.nextID ∧
        ∃ st, g.storers e = some st ∧ g.LeftAt l st.stage) :
    Inv { s with gateway := g, leaving } where
  torn := hk.toTorn
  proxied := hproxied
  left e st hst hserving hdisc := by
    by_cases he : who = some (.storer e)
    · exact (hleft e he).1 st hst hserving hdisc
    · show ∃ l, leaving e = some l
      rw [hother e he]
      rcases hk.stages e he with hsame | ⟨-, hnew⟩
      · rw [show g.storers e = some st from hst] at hsame
        obtain ⟨st₀, hst₀, hstage⟩ := Option.map_eq_some_iff.mp hsame.symm
        exact h.left e st₀ hst₀ (hstage ▸ hserving) (hstage ▸ hdisc)
      · rw [show g.storers e = some st from hst] at hnew
        exact absurd (Option.some.inj hnew) hserving
  leaving e l hl := by
    by_cases he : who = some (.storer e)
    · exact (hleft e he).2 l hl
    · change leaving e = some l at hl
      rw [hother e he] at hl
      obtain ⟨hn, st, hst, hat⟩ := h.leaving e l hl
      refine ⟨hn.trans hk.nextID, ?_⟩
      rcases hk.stages e he with hsame | ⟨hnone, -⟩
      · rw [hst] at hsame
        obtain ⟨st', hst', hstage⟩ := Option.map_eq_some_iff.mp hsame
        exact ⟨st', hst', hstage ▸ hat.goes hn hk.toGoes⟩
      · rw [hst] at hnone
        cases hnone
  emitting e x hx := by
    obtain ⟨hspent, ⟨cl, hcl⟩, hfirst⟩ := h.emitting e x hx
    obtain ⟨cl', hcl', -⟩ := hk.clients _ cl hcl
    exact ⟨hspent.goes hk.toGoes, ⟨cl', hcl'⟩, hfirst⟩
  once := h.once
  apart := h.apart
  notices n hn := by
    obtain ⟨hspent, cl, hcl, hw⟩ := h.notices n hn
    obtain ⟨cl', hcl', hconn⟩ := hk.clients _ cl hcl
    exact ⟨hspent.goes hk.toGoes, cl', hcl', fun hc => hw (hconn hc)⟩
  told := h.told
  removed := h.removed

/-- A step of a client. -/
theorem Inv.client {c : Nat} {g : Gateway} (h : s.Inv)
    (hk : Gateway.Kept (some (.client c)) s.gateway g)
    (hproxied : ∀ p, s.proxy c = some p → ∃ cl, g.clients c = some cl ∧ cl.stage = .idle) :
    Inv { s with gateway := g } := by
  refine h.kept hk (fun c' p hp => ?_) s.leaving (fun _ _ => rfl) fun e he => by cases he
  by_cases hc : c' = c
  · subst hc
    exact hproxied p hp
  · obtain ⟨cl, hcl, hidle⟩ := h.proxied c' p hp
    exact ⟨cl, hk.others c' (fun hw => hc (by cases hw; rfl)) cl hcl, hidle⟩

theorem Inv.setProxy (h : s.Inv) {c : Nat} (p : Option ProxyStage)
    (hp : p.isSome → ∃ cl, s.gateway.clients c = some cl ∧ cl.stage = .idle) :
    (s.setProxy c p).Inv := by
  refine { h with proxied := fun c' q hq => ?_ }
  change Function.update s.proxy c p c' = some q at hq
  by_cases hc : c' = c
  · subst hc
    rw [Function.update_self] at hq
    exact hp (by rw [hq]; rfl)
  · rw [Function.update_of_ne hc] at hq
    exact h.proxied c' q hq

/-! ## Notices to clients -/

/-- The storer has taken these records; their notices are to be written. -/
theorem Inv.emits (h : s.Inv) {e : Nat} (hempty : s.emitting e = []) (xs : List (Record × Bytes))
    (removed : List (Nat × Record))
    (hspent : ∀ x ∈ xs, s.gateway.Spent x.1.id ∧
      ∃ cl, s.gateway.clients x.1.clientConnectionID = some cl)
    (hfirst : ∀ x ∈ xs, (∀ n ∈ s.notices, n.sessionID ≠ x.1.id) ∧
      ∀ e', ∀ y ∈ s.emitting e', y.1.id ≠ x.1.id)
    (hnodup : (xs.map fun x => x.1.id).Nodup)
    (hremoved : ∀ e' r, (e', r) ∈ removed → (e', r) ∈ s.removed ∨
      e' = e ∧ (r, buildSessionCloseNoticeBody reasonRouteLost) ∈ xs) :
    Inv { s with emitting := Function.update s.emitting e xs, removed } := by
  have hmem : ∀ e' x, x ∈ Function.update s.emitting e xs e' →
      e' = e ∧ x ∈ xs ∨ e' ≠ e ∧ x ∈ s.emitting e' := by
    intro e' x hx
    by_cases he : e' = e
    · rw [he, Function.update_self] at hx
      exact .inl ⟨he, hx⟩
    · rw [Function.update_of_ne he] at hx
      exact .inr ⟨he, hx⟩
  refine { h with emitting := fun e' x hx => ?_, once := fun e' => ?_,
                  apart := fun e₁ e₂ x y hx hy hid => ?_, removed := fun e' r hr => ?_ }
  · rcases hmem e' x hx with ⟨-, hx⟩ | ⟨-, hx⟩
    · exact ⟨(hspent x hx).1, (hspent x hx).2, (hfirst x hx).1⟩
    · exact h.emitting e' x hx
  · show ((Function.update s.emitting e xs e').map _).Nodup
    by_cases he : e' = e
    · rw [he, Function.update_self]
      exact hnodup
    · rw [Function.update_of_ne he]
      exact h.once e'
  · rcases hmem e₁ x hx with ⟨h₁, hx'⟩ | ⟨-, hx'⟩ <;>
      rcases hmem e₂ y hy with ⟨h₂, hy'⟩ | ⟨-, hy'⟩
    · exact h₁.trans h₂.symm
    · exact absurd hid.symm ((hfirst x hx').2 e₂ y hy')
    · exact absurd hid ((hfirst y hy').2 e₁ x hx')
    · exact h.apart e₁ e₂ x y hx' hy' hid
  · rcases hremoved e' r hr with hold | ⟨rfl, hx⟩
    · refine (h.removed e' r hold).imp_left fun hx => ?_
      have he : e' ≠ e := by
        rintro rfl
        rw [hempty] at hx
        cases hx
      show _ ∈ Function.update s.emitting e xs e'
      rw [Function.update_of_ne he]
      exact hx
    · refine .inl ?_
      show _ ∈ Function.update s.emitting e' xs e'
      rw [Function.update_self]
      exact hx

/-- **A notice is written once.** -/
theorem Inv.emit {s' : Plane} {e : Nat} (h : s.Inv) (hs : s.emit e = some s') : s'.Inv := by
  unfold Plane.emit at hs
  cases hx : s.emitting e with
  | nil => rw [hx] at hs; cases hs
  | cons x rest =>
    obtain ⟨r, body⟩ := x
    rw [hx] at hs
    cases hs
    have hhead : (r, body) ∈ s.emitting e := by rw [hx]; exact List.mem_cons_self
    have hnodup := h.once e
    rw [hx, List.map_cons, List.nodup_cons] at hnodup
    obtain ⟨hspent, ⟨cl, hcl⟩, hfirst⟩ := h.emitting e (r, body) hhead
    have hrest : ∀ e' y, y ∈ Function.update s.emitting e rest e' →
        y ∈ s.emitting e' ∧ y.1.id ≠ r.id := by
      intro e' y hy
      by_cases he : e' = e
      · subst he
        rw [Function.update_self] at hy
        refine ⟨by rw [hx]; exact List.mem_cons_of_mem _ hy, fun hid => hnodup.1 ?_⟩
        exact hid ▸ List.mem_map_of_mem (f := fun x : Record × Bytes => x.1.id) hy
      · rw [Function.update_of_ne he] at hy
        exact ⟨hy, fun hid => he (h.apart e' e y (r, body) hy hhead hid)⟩
    refine { h with emitting := fun e' y hy => ?_, once := fun e' => ?_,
                    apart := fun e₁ e₂ y z hy hz hid => ?_, notices := fun n hn => ?_,
                    told := ?_, removed := fun e' r' hr => ?_ }
    · obtain ⟨hy, hne⟩ := hrest e' y hy
      obtain ⟨hspent', hclient, hfirst'⟩ := h.emitting e' y hy
      refine ⟨hspent', hclient, fun n hn => ?_⟩
      rcases List.mem_cons.mp hn with rfl | hn
      · exact fun hid => hne hid.symm
      · exact hfirst' n hn
    · show ((Function.update s.emitting e rest e').map _).Nodup
      by_cases he : e' = e
      · rw [he, Function.update_self]
        exact hnodup.2
      · rw [Function.update_of_ne he]
        exact h.once e'
    · exact h.apart e₁ e₂ y z (hrest e₁ y hy).1 (hrest e₂ z hz).1 hid
    · rcases List.mem_cons.mp hn with rfl | hn
      · refine ⟨hspent, cl, hcl, fun hc => ?_⟩
        show (s.gateway.clients r.clientConnectionID).any Client.connected = true
        rw [hcl]
        exact hc
      · exact h.notices n hn
    · rw [List.map_cons, List.nodup_cons]
      refine ⟨fun hmem => ?_, h.told⟩
      obtain ⟨n, hn, hid⟩ := List.mem_map.mp hmem
      exact hfirst n hn hid
    · rcases h.removed e' r' hr with hstill | ⟨w, hw⟩
      · by_cases he : e' = e
        · subst he
          rw [hx] at hstill
          rcases List.mem_cons.mp hstill with heq | hstill
          · cases heq
            exact .inr ⟨_, List.mem_cons_self⟩
          · refine .inl ?_
            show _ ∈ Function.update s.emitting e' rest e'
            rw [Function.update_self]
            exact hstill
        · refine .inl ?_
          show _ ∈ Function.update s.emitting e rest e'
          rw [Function.update_of_ne he]
          exact hstill
      · exact .inr ⟨w, List.mem_cons_of_mem _ hw⟩

/-! ## The steps of a storer -/

section Storer

open Gateway

variable {g : Gateway} {e : Nat} {st : Storer}

theorem storers_setStorer (g : Gateway) (e : Nat) (st : Storer) (stage : StorerStage) :
    (g.setStorer e st stage).storers e = some { st with stage } :=
  Function.update_self _ _ _

/-- The disks of the storer are taken down, and the last grant is noted. -/
theorem Inv.disconnect (h : s.Inv) (hst : s.gateway.storers e = some st)
    (hstage : st.stage = .disconnecting)
    (hs : s.gateway.teardown e st = some g) :
    Inv { s.note (.storer e) with gateway := g } := by
  have hk : Kept (some (.storer e)) s.gateway g := h.torn.kept.teardown hst hs
  unfold teardown at hs
  rw [hstage] at hs
  cases hs
  set leaving := Function.update s.leaving e (some ⟨s.gateway.grants.nextID,
    (s.gateway.routes.disconnectConnection e).2.map Entry.diskID⟩) with hleaving
  have hnote : s.note (.storer e) = { s with leaving } := by
    simp [note, hst, hstage, hleaving]
  rw [hnote]
  refine h.kept hk (fun c p hp => h.proxied c p hp) leaving (fun e' he => ?_) fun e' he => ?_
  · exact Function.update_of_ne (fun heq : e' = e => he (heq ▸ rfl)) _ _
  · cases he
    refine ⟨fun _ _ _ _ => ⟨_, Function.update_self _ _ _⟩, fun l hl => ?_⟩
    rw [hleaving, Function.update_self] at hl
    cases hl
    exact ⟨le_refl _, _, storers_setStorer _ _ _ _, fun d hd => hd⟩

/-- The teardown goes on, and takes no session yet. -/
theorem Inv.goOn (h : s.Inv) (hk : Kept (some (.storer e)) s.gateway g)
    (hclients : g.clients = s.gateway.clients) (hst : s.gateway.storers e = some st)
    {st' : Storer} (hst' : g.storers e = some st') (hserving : st.stage ≠ .serving)
    (hdisc : st.stage ≠ .disconnecting)
    (hat : ∀ l, l.lastGrant ≤ s.gateway.grants.nextID → s.gateway.LeftAt l st.stage →
      g.LeftAt l st'.stage) : Inv { s with gateway := g } := by
  refine h.kept hk (fun c p hp => ?_) s.leaving (fun _ _ => rfl) fun e' he => ?_
  · rw [hclients]
    exact h.proxied c p hp
  · cases he
    refine ⟨fun _ _ _ _ => h.left e st hst hserving hdisc, fun l hl => ?_⟩
    obtain ⟨hn, st₀, hst₀, hl₀⟩ := h.leaving e l hl
    obtain rfl := Option.some.inj (hst.symm.trans hst₀)
    exact ⟨hn.trans hk.nextID, st', hst', hat l hn hl₀⟩

/-- **The records that are taken with a route are all to be notified.** -/
theorem Inv.takeSessions (h : s.Inv) (hst : s.gateway.storers e = some st)
    (hstage : st.stage = .closingDisks []) (hempty : s.emitting e = [])
    (hs : s.gateway.teardown e st = some g) :
    Inv { s.note (.storer e) with gateway := g } := by
  have hk : Kept (some (.storer e)) s.gateway g := h.torn.kept.teardown hst hs
  unfold teardown at hs
  rw [hstage] at hs
  cases hs
  set records := (s.gateway.sessions.closeRouteConnection e).2 with hrecords
  have h₁ : Inv { s with
      gateway := { s.gateway with
        sessions := (s.gateway.sessions.closeRouteConnection e).1 }.setStorer e st .done } :=
    h.goOn hk rfl hst (storers_setStorer _ _ _ _) (by simp [hstage]) (by simp [hstage])
      fun l _ hl d hd => by
        rw [hstage] at hl
        exact (hl d hd).resolve_left List.not_mem_nil
  have hnote : s.note (.storer e) = { s with
      emitting := Function.update s.emitting e
        (records.map fun r => (r, buildSessionCloseNoticeBody reasonRouteLost))
      removed := records.map (fun r => (e, r)) ++ s.removed } := by
    simp [note, hst, hstage, hrecords]
  rw [hnote]
  have hindexed := h.torn.indexed
  have hitem : ∀ r ∈ records, s.gateway.sessions.items r.id = some r ∧ r.routeConnectionID = e :=
    fun r hr => hindexed.mem_closeRouteConnection.mp hr
  -- what has been told or is being told is closed, and these sessions were open
  have hopen : ∀ r ∈ records, ¬s.gateway.Spent r.id := by
    rintro r hr ⟨-, hnone⟩
    rw [(hitem r hr).1] at hnone
    cases hnone
  refine h₁.emits hempty _ _ (fun x hx => ?_) (fun x hx => ?_) ?_ (fun e' r hr => ?_)
  · obtain ⟨r, hr, rfl⟩ := List.mem_map.mp hx
    obtain ⟨hr, he⟩ := hitem r hr
    refine ⟨⟨?_, ?_⟩, h.torn.owners r.id r hr⟩
    · show r.id ≤ gatewaySessionBaseID + (s.gateway.sessions.closeRouteConnection e).1.nextID
      rw [Sessions.closeRouteConnection_nextID]
      exact (hindexed.keyed r.id r hr).2
    · show (s.gateway.sessions.closeRouteConnection e).1.items r.id = none
      rw [hindexed.closeRouteConnection_items, hr]
      simp [Option.filter, he]
  · obtain ⟨r, hr, rfl⟩ := List.mem_map.mp hx
    refine ⟨fun n hn hid => hopen r hr ?_, fun e' y hy hid => hopen r hr ?_⟩
    · exact hid ▸ (h.notices n hn).1
    · exact hid ▸ (h.emitting e' y hy).1
  · rw [List.map_map]
    exact hindexed.nodup_closeRouteConnection e
  · rcases List.mem_append.mp hr with hr | hr
    · obtain ⟨r', hr', heq⟩ := List.mem_map.mp hr
      cases heq
      exact .inr ⟨rfl, List.mem_map.mpr ⟨r, hr', rfl⟩⟩
    · exact .inl hr

theorem Inv.teardown (h : s.Inv) (hst : s.gateway.storers e = some st)
    (hempty : s.emitting e = []) (hs : s.gateway.teardown e st = some g) :
    Inv { s.note (.storer e) with gateway := g } := by
  have hk : Kept (some (.storer e)) s.gateway g := h.torn.kept.teardown hst hs
  cases hstage : st.stage with
  | serving | done =>
    unfold Gateway.teardown at hs
    rw [hstage] at hs
    cases hs
  | disconnecting => exact h.disconnect hst hstage hs
  | removingLink ds =>
    have hnote : s.note (.storer e) = s := by simp [note, hst, hstage]
    rw [hnote]
    unfold Gateway.teardown at hs
    rw [hstage] at hs
    cases hs
    refine h.goOn hk rfl hst (storers_setStorer _ _ _ _) (by simp [hstage]) (by simp [hstage])
      fun l _ hl => ?_
    rw [hstage] at hl
    by_cases hds : ds = []
    · rw [if_pos hds]
      intro d hd
      have := hl d hd
      rw [hds] at this
      cases this
    · rw [if_neg hds]
      exact fun d hd => .inl (hl d hd)
  | closingDisks ds =>
    cases ds with
    | nil => exact h.takeSessions hst hstage hempty hs
    | cons d ds =>
      have hnote : s.note (.storer e) = s := by simp [note, hst, hstage]
      rw [hnote]
      have hclear : Cleared g (s.gateway.grants.nextID) d := by
        unfold Gateway.teardown at hs
        rw [hstage] at hs
        cases hs
        intro id x _ hx
        change (s.gateway.grants.closeDisk d).items id = some x at hx
        rw [Grants.closeDisk_items] at hx
        simpa using (Option.filter_eq_some_iff.mp hx).2
      have hgoes := hk.toGoes
      unfold Gateway.teardown at hs
      rw [hstage] at hs
      cases hs
      refine h.goOn hk rfl hst (storers_setStorer _ _ _ _) (by simp [hstage]) (by simp [hstage])
        fun l hn hl d' hd' => ?_
      rw [hstage] at hl
      rcases hl d' hd' with hmem | hc
      · rcases List.mem_cons.mp hmem with rfl | hmem
        · exact .inr fun id x hid hx => hclear id x (hid.trans hn) hx
        · exact .inl hmem
      · exact .inr (hc.goes hn hgoes)

end Storer

/-! ## Every step -/

section Client

open Gateway

variable {c : Nat} {cl : Client}

theorem Inv.respond (h : s.Inv) (hcl : s.gateway.clients c = some cl) (hidle : cl.stage = .idle)
    (r : Response) : (s.respond c cl r).Inv := by
  have hk : Kept (some (.client c)) s.gateway (s.gateway.respond c cl r) :=
    h.torn.kept.respond hcl (by simp [Client.connected, hidle])
      (leaves_of_none (by rw [hidle]; rfl)) r
  refine (h.client hk fun p hp => ?_).setProxy none (fun hp => by cases hp)
  exact ⟨{ cl with stage := .idle }, Function.update_self _ _ _, rfl⟩

theorem Inv.closeSession (h : s.Inv) (session : Nat) : (s.closeSession session).Inv :=
  have hk : Kept none s.gateway { s.gateway with sessions := s.gateway.sessions.close session } :=
    h.torn.kept.shrinks (shrinks_close s.gateway session)
  h.kept hk h.proxied s.leaving (fun _ _ => rfl) fun e he => by cases he

theorem Inv.handleRequest (h : s.Inv) (hcl : s.gateway.clients c = some cl)
    (hidle : cl.stage = .idle) (op : ProxyOp) (sessionID : Nat) (body : Bytes) :
    (s.handleRequest c cl op sessionID body).Inv := by
  unfold Plane.handleRequest
  split
  · exact h.respond hcl hidle _
  · split
    · exact h.respond hcl hidle _
    · exact h.setProxy _ fun _ => ⟨cl, hcl, hidle⟩

theorem Inv.endConnection (h : s.Inv) (hcl : s.gateway.clients c = some cl)
    (hidle : cl.stage = .idle) (hp : s.proxy c = none) :
    Inv { s with gateway := s.gateway.setStage c cl .closingGrants } := by
  have hk : Kept (some (.client c)) s.gateway (s.gateway.setStage c cl .closingGrants) :=
    h.torn.kept.toStage hcl (fun hc => by cases hc) (by rw [hidle]; rfl) rfl
  refine h.client hk fun p hp' => ?_
  rw [hp] at hp'
  cases hp'

theorem Inv.handleSessionCloseNotice (h : s.Inv) (hcl : s.gateway.clients c = some cl)
    (hidle : cl.stage = .idle) (hp : s.proxy c = none) (sessionID : Nat) (body : Bytes) :
    (s.handleSessionCloseNotice c cl sessionID body).Inv := by
  unfold Plane.handleSessionCloseNotice
  split
  · exact h.endConnection hcl hidle hp
  · split
    · exact h
    · exact h.setProxy _ fun _ => ⟨cl, hcl, hidle⟩

theorem Inv.advance {s' : Plane} {stage : ProxyStage} (h : s.Inv)
    (hcl : s.gateway.clients c = some cl) (hp : s.proxy c = some stage)
    (hs : s.advance c cl stage = some s') : s'.Inv := by
  obtain ⟨cl', hcl', hidle⟩ := h.proxied c stage hp
  obtain rfl := Option.some.inj (hcl.symm.trans hcl')
  cases stage with
  | link op body record =>
    simp only [Plane.advance] at hs
    split_ifs at hs
    · cases hs
      exact h.setProxy _ fun _ => ⟨cl, hcl, hidle⟩
    · cases hs
      exact h.setProxy _ fun _ => ⟨cl, hcl, hidle⟩
  | upstream => cases hs
  | drop record body =>
    cases hs
    exact (h.closeSession record.id).respond hcl hidle _
  | close record =>
    cases hs
    exact (h.closeSession record.id).setProxy _ fun _ => ⟨cl, hcl, hidle⟩
  | notice record =>
    cases hs
    have hshrinks := shrinks_sendNotice s.gateway record.routeConnectionID
      record.upstreamSessionID
    have hk₀ : Kept (some (.client c)) s.gateway s.gateway := h.torn.kept
    have hk := hk₀.shrinks hshrinks
    refine (h.client hk fun p _ => ⟨cl, ?_, hidle⟩).setProxy none fun hp => by cases hp
    rw [hshrinks.clients, hcl]

end Client

/-- The gateway's own steps do not touch a client that is proxying. -/
theorem proxied_step {a : GatewayAction} {g : Gateway} (h : s.Inv) (hfree : s.free a = true)
    (hs : s.gateway.step cfg a = some g) (hk : Gateway.Kept (Gateway.who a) s.gateway g) {c : Nat}
    {p : ProxyStage} (hp : s.proxy c = some p) :
    ∃ cl, g.clients c = some cl ∧ cl.stage = .idle := by
  obtain ⟨cl, hcl, hidle⟩ := h.proxied c p hp
  refine ⟨cl, hk.others c (fun hw => ?_) cl hcl, hidle⟩
  cases a with
  | request c' req | endClient c' =>
    cases hw
    simp [free, hp] at hfree
  | handler c' =>
    cases hw
    obtain ⟨cl', hcl', hs⟩ := Option.bind_eq_some_iff.mp hs
    obtain rfl := Option.some.inj (hcl.symm.trans hcl')
    unfold Gateway.handler at hs
    rw [hidle] at hs
    cases hs
  | upstream c' reply =>
    cases hw
    obtain ⟨cl', hcl', hs⟩ := Option.bind_eq_some_iff.mp hs
    obtain rfl := Option.some.inj (hcl.symm.trans hcl')
    rw [hidle] at hs
    cases hs
  | _ => cases hw

theorem Inv.gateway {a : GatewayAction} {g : Gateway} (h : s.Inv) (hfree : s.free a = true)
    (hs : s.gateway.step cfg a = some g) : Inv { s.note a with gateway := g } := by
  have hk := h.torn.step hs
  have hproxied := fun c p hp => proxied_step (c := c) (p := p) h hfree hs hk hp
  cases a with
  | storer e =>
    obtain ⟨st, hst, hs⟩ := Option.bind_eq_some_iff.mp hs
    exact h.teardown hst (List.isEmpty_iff.mp hfree) hs
  | endStorer e =>
    obtain ⟨st, hst, hs'⟩ := Option.bind_eq_some_iff.mp hs
    split_ifs at hs' with hserving
    cases hs'
    have h' := h.kept hk hproxied s.leaving (fun _ _ => rfl) fun e' he => by
      cases he
      refine ⟨fun st' hst' _ hd => ?_, fun l hl => ?_⟩
      · rw [storers_setStorer] at hst'
        cases hst'
        exact absurd rfl hd
      · obtain ⟨-, st', hst', hl⟩ := h.leaving e l hl
        obtain rfl := Option.some.inj (hst.symm.trans hst')
        rw [hserving] at hl
        exact hl.elim
    exact { h' with }
  | upstream c reply =>
    have h' := h.kept hk hproxied s.leaving (fun _ _ => rfl) fun e' he => by cases he
    cases reply with
    | error err => exact h'
    | ok u =>
      unfold note
      dsimp only
      split
      · exact { h' with }
      · exact h'
  | _ =>
    exact h.kept hk hproxied s.leaving (fun _ _ => rfl) fun e' he => by cases he

theorem Inv.notifyRouteSessionClosed (h : s.Inv) {e : Nat} (hempty : s.emitting e = [])
    (u : Nat) (body : Bytes) : (s.notifyRouteSessionClosed e u body).Inv := by
  unfold Plane.notifyRouteSessionClosed
  rcases s.gateway.sessions.closeRouteSession_cases e u with heq | ⟨id, -, heq⟩
  · rw [heq]
    have h' := h.emits hempty [] s.removed (fun x hx => by cases hx) (fun x hx => by cases hx)
      List.nodup_nil fun e' r hr => .inl hr
    exact { h' with }
  · rw [heq]
    cases hr : s.gateway.sessions.items id with
    | none =>
      have h' := (h.closeSession id).emits hempty [] s.removed (fun x hx => by cases hx)
        (fun x hx => by cases hx) List.nodup_nil fun e' r hr => .inl hr
      exact { h' with }
    | some r =>
      have hid := h.torn.indexed.keyed id r hr
      have hopen : ¬s.gateway.Spent r.id := by
        rintro ⟨-, hnone⟩
        rw [hid.1, hr] at hnone
        cases hnone
      have h' := (h.closeSession id).emits hempty [(r, body)] s.removed (fun x hx => ?_)
        (fun x hx => ?_) (List.nodup_singleton _) fun e' r hr => .inl hr
      · exact { h' with }
      · rw [List.mem_singleton.mp hx]
        refine ⟨⟨?_, ?_⟩, h.torn.owners id r hr⟩
        · show r.id ≤ gatewaySessionBaseID + (s.gateway.sessions.close id).nextID
          rw [Sessions.close_nextID, hid.1]
          exact hid.2
        · show (s.gateway.sessions.close id).items r.id = none
          rw [Sessions.close_items, if_pos hid.1]
      · rw [List.mem_singleton.mp hx]
        refine ⟨fun n hn hn' => hopen (hn' ▸ (h.notices n hn).1), fun e' y hy hy' => ?_⟩
        exact hopen (hy' ▸ (h.emitting e' y hy).1)

/-- **Every step keeps the invariant.** -/
theorem step_inv (s : Plane) (a : PlaneAction) (s' : Plane) (h : s.Inv)
    (hs : step cfg s a = some s') : s'.Inv := by
  cases a with
  | gateway a =>
    simp only [step] at hs
    split_ifs at hs with hfree
    obtain ⟨g, hg, rfl⟩ := Option.map_eq_some_iff.mp hs
    exact h.gateway hfree hg
  | request c op sessionID body =>
    obtain ⟨cl, hcl, hs⟩ := Option.bind_eq_some_iff.mp hs
    split_ifs at hs with hidle
    cases hs
    exact h.handleRequest hcl hidle.1 op sessionID body
  | closeNotice c sessionID body =>
    obtain ⟨cl, hcl, hs⟩ := Option.bind_eq_some_iff.mp hs
    split_ifs at hs with hidle
    cases hs
    exact h.handleSessionCloseNotice hcl hidle.1 hidle.2 sessionID body
  | advance c =>
    obtain ⟨cl, hcl, hs⟩ := Option.bind_eq_some_iff.mp hs
    obtain ⟨stage, hp, hs⟩ := Option.bind_eq_some_iff.mp hs
    exact h.advance hcl hp hs
  | reply c status body =>
    obtain ⟨cl, hcl, hs⟩ := Option.bind_eq_some_iff.mp hs
    split at hs
    · next op body₀ record hp =>
      obtain ⟨cl', hcl', hidle⟩ := h.proxied c _ hp
      obtain rfl := Option.some.inj (hcl.symm.trans hcl')
      cases hs
      unfold Plane.reply
      split
      · exact h.setProxy _ fun _ => ⟨cl, hcl, hidle⟩
      · exact h.respond hcl hidle _
    · cases hs
  | lost c =>
    simp only [step] at hs
    split at hs
    · next op body record hp =>
      split_ifs at hs
      cases hs
      exact h.setProxy _ fun _ => h.proxied c _ hp
    · cases hs
  | noticeFails c =>
    obtain ⟨cl, hcl, hs⟩ := Option.bind_eq_some_iff.mp hs
    split at hs
    · next record hp =>
      obtain ⟨cl', hcl', hidle⟩ := h.proxied c _ hp
      obtain rfl := Option.some.inj (hcl.symm.trans hcl')
      split_ifs at hs
      cases hs
      exact (h.setProxy (c := c) none (fun hp => by cases hp)).endConnection hcl hidle
        (Function.update_self _ _ _)
    · cases hs
  | breakLink e =>
    cases hs
    exact { h with }
  | storerCloses e u =>
    cases hs
    exact { h with }
  | storerNotice e u body =>
    obtain ⟨st, hst, hs⟩ := Option.bind_eq_some_iff.mp hs
    split_ifs at hs with hc
    cases hs
    exact h.notifyRouteSessionClosed hc.2.2.1 u body
  | emit e => exact h.emit hs

theorem run_inv {as : List PlaneAction} (h : runFrom (step cfg) {} as = some s) : s.Inv :=
  YumeDisk.Lib.run_inv step_inv inv_init h

/-! ## A teardown that has finished -/

/-- The one element with its key. -/
theorem filter_key {α κ : Type} [DecidableEq κ] {f : α → κ} {l : List α} (h : (l.map f).Nodup)
    {x : α} (hx : x ∈ l) : l.filter (fun y => f y = f x) = [x] := by
  induction l with
  | nil => cases hx
  | cons y l ih =>
    rw [List.map_cons, List.nodup_cons] at h
    rcases List.mem_cons.mp hx with rfl | hx
    · rw [List.filter_cons_of_pos (by simp), List.filter_eq_nil_iff.mpr]
      intro z hz hzx
      exact h.1 (List.mem_map.mpr ⟨z, hz, of_decide_eq_true hzx⟩)
    · rw [List.filter_cons_of_neg, ih h.2 hx]
      intro hyx
      exact h.1 (of_decide_eq_true hyx ▸ List.mem_map_of_mem hx)

/-- `DisconnectConnection` has returned. -/
def TornDown (s : Plane) (e : Nat) : Prop :=
  (∃ st, s.gateway.storers e = some st ∧ st.stage = .done) ∧ s.emitting e = []

/-- A SessionOpen that has found the route is running. -/
def Opening (s : Plane) (e : Nat) : Prop :=
  ∃ c cl, s.gateway.clients c = some cl ∧ cl.stage.target = some e

/-- **A route that is torn down leaves nothing**: no session, and no grant that was issued before;
each session that was taken has been notified once, to its client, on its connection if it is still
there. -/
theorem teardown_leaves_nothing (cfg : GatewayConfig) (as : List PlaneAction) (s : Plane)
    (h : runFrom (step cfg) {} as = some s) (e : Nat) (hdown : s.TornDown e)
    (hopen : ¬s.Opening e) :
    (∀ id r, s.gateway.sessions.items id = some r → r.routeConnectionID ≠ e) ∧
    (∃ l, s.leaving e = some l ∧ ∀ id x, s.gateway.grants.items id = some x → id ≤ l.lastGrant →
      x.diskID ∉ l.diskIDs) ∧
    ∀ r, (e, r) ∈ s.removed → ∃ written,
      s.notices.filter (·.sessionID = r.id) =
        [⟨r.id, r.clientConnectionID, buildSessionCloseNoticeBody reasonRouteLost, written⟩] ∧
      (∀ cl, s.gateway.clients r.clientConnectionID = some cl → cl.connected → written = true) := by
  have hi := run_inv h
  obtain ⟨⟨st, hst, hdone⟩, hempty⟩ := hdown
  refine ⟨?_, ?_, fun r hr => ?_⟩
  · rintro id r hr rfl
    obtain ⟨st', hst', hat⟩ := hi.torn.records id r hr
    obtain rfl := Option.some.inj (hst.symm.trans hst')
    rw [hdone] at hat
    obtain ⟨c, cl, hcl, hholds⟩ := hat
    exact hopen ⟨c, cl, hcl, ClientStage.target_of_holds hholds⟩
  · obtain ⟨l, hl⟩ := hi.left e st hst (by simp [hdone]) (by simp [hdone])
    obtain ⟨-, st', hst', hat⟩ := hi.leaving e l hl
    obtain rfl := Option.some.inj (hst.symm.trans hst')
    rw [hdone] at hat
    exact ⟨l, hl, fun id x hx hid hd => hat _ hd id x hid hx rfl⟩
  · rcases hi.removed e r hr with hstill | ⟨written, hmem⟩
    · rw [hempty] at hstill
      cases hstill
    · refine ⟨written, ?_, fun cl hcl hc => ?_⟩
      · exact filter_key hi.told hmem
      · obtain ⟨-, cl', hcl', hw⟩ := hi.notices _ hmem
        obtain rfl := Option.some.inj (hcl.symm.trans hcl')
        exact hw hc

/-! ## A run -/

/-- Client 2 registers a session on the route of storer 1, which is torn down then. -/
def openThenTeardown : List GatewayAction :=
  [.acceptStorer "a", .acceptClient, Gateway.registration 1 1] ++ Gateway.authentication 1 ++
    [.handler 2] ++ Gateway.opening ++ [.upstream 2 (.ok 9), .handler 2, .endStorer 1, .storer 1,
      .storer 1, .storer 1, .storer 1]

/-- The client is told, and then looks at its grant again. -/
def racedOpen : List PlaneAction :=
  openThenTeardown.map .gateway ++
    [.emit 1, .gateway (.handler 2), .gateway (.handler 2), .gateway (.handler 2)]

theorem racedOpen_leaves_nothing : ∃ s r,
    runFrom (step Gateway.exampleConfig) {} racedOpen = some s ∧ (1, r) ∈ s.removed ∧
      (∀ id r, s.gateway.sessions.items id = some r → r.routeConnectionID ≠ 1) ∧
      (∃ l, s.leaving 1 = some l ∧ ∀ id x, s.gateway.grants.items id = some x →
        id ≤ l.lastGrant → x.diskID ∉ l.diskIDs) ∧
      ∃ written, s.notices.filter (·.sessionID = r.id) =
        [⟨r.id, r.clientConnectionID, buildSessionCloseNoticeBody reasonRouteLost, written⟩] := by
  obtain ⟨s, hs, hp⟩ := exists_run (step Gateway.exampleConfig) {} racedOpen
    (fun s => decide (s.removed.map Prod.fst = [1] ∧
      (s.gateway.storers 1).map Storer.stage = some .done ∧ s.emitting 1 = [] ∧
      ∀ c ≤ s.gateway.nextConn, ∀ cl ∈ s.gateway.clients c, cl.stage.target ≠ some 1))
    (by decide +kernel)
  obtain ⟨hremoved, hdone, hempty, hnone⟩ := of_decide_eq_true hp
  obtain ⟨st, hst, hstage⟩ := Option.map_eq_some_iff.mp hdone
  obtain ⟨⟨e, r⟩, hr⟩ : ∃ x, s.removed = [x] := by
    cases hx : s.removed with
    | nil => rw [hx] at hremoved; cases hremoved
    | cons x xs =>
      rw [hx] at hremoved
      exact ⟨x, by simpa using (List.cons.inj hremoved).2⟩
  obtain rfl : e = 1 := by
    rw [hr] at hremoved
    exact (List.cons.inj hremoved).1
  have hmem : (1, r) ∈ s.removed := by rw [hr]; exact List.mem_singleton.mpr rfl
  have hopen : ¬s.Opening 1 := by
    rintro ⟨c, cl, hcl, ht⟩
    exact hnone c ((run_inv hs).torn.clientIDs c cl hcl) cl hcl ht
  obtain ⟨hsessions, hgrants, hnotices⟩ := teardown_leaves_nothing Gateway.exampleConfig racedOpen s
    hs 1 ⟨⟨st, hst, hstage⟩, hempty⟩ hopen
  obtain ⟨written, hw, -⟩ := hnotices r hmem
  exact ⟨s, r, hs, hmem, hsessions, hgrants, written, hw⟩

end Plane

end YumeDisk.Server
