import Mathlib.Data.List.Dedup
import Mathlib.Data.List.Forall2
import YumeDisk.Lib.Descent
import YumeDisk.TauriClient.NetworkDisks

/-!
# What the queued events take from the stores (`network/event_reconciler.rs`)

`Stores` is what a command that fails has to leave as it was.  The events that are queued when a
command starts are applied first; they close sessions and invalidate runtimes, and no part of that
is undone by what comes after it, so the stores are partially ordered by how far they have sunk.

* `Stores` with its order: sessions and draft items go, runtimes are unmounted or marked missing,
  the configuration becomes unreadable.
* `descendsAt_syncPendingEvents`: **the events leave the stores exactly when they are `Quiet`**,
  which is asked of the state before them.
-/

namespace YumeDisk.TauriClient

open YumeDisk.Lib

/-! ## Lists, element by element -/

theorem forall₂_trans {α : Type} {R : α → α → Prop} (hR : ∀ a b c, R a b → R b c → R a c)
    {xs ys zs : List α} (h : List.Forall₂ R xs ys) (h' : List.Forall₂ R ys zs) :
    List.Forall₂ R xs zs := by
  induction h generalizing zs with
  | nil => exact h'
  | cons hr _ ih =>
    cases h' with
    | cons hr' h' => exact .cons (hR _ _ _ hr hr') (ih h')

theorem forall₂_antisymm {α : Type} {R : α → α → Prop} (hR : ∀ a b, R a b → R b a → a = b)
    {xs ys : List α} (h : List.Forall₂ R xs ys) (h' : List.Forall₂ R ys xs) : xs = ys := by
  induction h with
  | nil => rfl
  | cons hr _ ih =>
    cases h' with
    | cons hr' h' => rw [hR _ _ hr hr', ih h']

theorem map_eq_self_iff {α : Type} {f : α → α} {xs : List α} :
    xs.map f = xs ↔ ∀ x ∈ xs, f x = x := by
  conv_lhs => rhs; rw [← List.map_id xs]
  exact List.map_inj_left

/-! ## Runtimes and drafts -/

/-- The reason of a network disk without a session, and no medium. -/
def DiskRuntime.missing (r : DiskRuntime) : DiskRuntime :=
  r.setNetworkInvalid networkSessionMissingReason

/-- What becomes of a runtime that is let go of. -/
def DiskRuntime.Sinks (r r' : DiskRuntime) : Prop :=
  r' = r ∨ r' = r.missing ∨ r.mountedTargetId ≠ none ∧ r'.mountedTargetId = none

theorem DiskRuntime.Sinks.mounted {r r' : DiskRuntime} (h : r.Sinks r')
    (h' : r.mountedTargetId = none) : r'.mountedTargetId = none := by
  rcases h with rfl | rfl | h
  · exact h'
  · rfl
  · exact h.2

theorem DiskRuntime.Sinks.trans (r r' r'' : DiskRuntime) (h : r.Sinks r') (h' : r'.Sinks r'') :
    r.Sinks r'' := by
  rcases h with rfl | rfl | h
  · exact h'
  · rcases h' with rfl | rfl | h'
    · exact .inr (.inl rfl)
    · exact .inr (.inl rfl)
    · exact absurd rfl h'.1
  · exact .inr (.inr ⟨h.1, h'.mounted h.2⟩)

theorem DiskRuntime.Sinks.antisymm (r r' : DiskRuntime) (h : r.Sinks r') (h' : r'.Sinks r) :
    r = r' := by
  rcases h with rfl | rfl | h
  · rfl
  · rcases h' with h' | h' | h'
    · exact h'
    · exact h'
    · exact absurd rfl h'.1
  · exact absurd (h'.mounted h.2) h.1

/-- What becomes of a draft that loses items. -/
structure NetworkCreateDraft.Sinks (d d' : NetworkCreateDraft) : Prop where
  draftId : d'.draftId = d.draftId
  serverAddr : d'.serverAddr = d.serverAddr
  connection : d'.connection = d.connection
  items : d'.items.Sublist d.items

theorem NetworkCreateDraft.Sinks.refl (d : NetworkCreateDraft) : d.Sinks d :=
  ⟨rfl, rfl, rfl, .refl _⟩

theorem NetworkCreateDraft.Sinks.trans (d d' d'' : NetworkCreateDraft) (h : d.Sinks d')
    (h' : d'.Sinks d'') : d.Sinks d'' :=
  ⟨h'.draftId.trans h.draftId, h'.serverAddr.trans h.serverAddr,
    h'.connection.trans h.connection, h'.items.trans h.items⟩

theorem NetworkCreateDraft.Sinks.antisymm (d d' : NetworkCreateDraft) (h : d.Sinks d')
    (h' : d'.Sinks d) : d = d' := by
  cases d
  cases d'
  simp only [NetworkCreateDraft.mk.injEq]
  exact ⟨h'.draftId, h'.serverAddr, h'.connection, h'.items.antisymm h.items⟩

/-! ## The stores -/

/-- What a command that fails has to leave as it was. -/
structure Stores where
  runtimes : List DiskRuntime
  openedSessions : List OpenedNetworkDiskSession
  drafts : List NetworkCreateDraft
  pendingDeletions : List PendingDiskDeletion
  config : Option (List PersistedDiskRecord)
deriving DecidableEq

def ClientState.stores (s : ClientState) : Stores where
  runtimes := s.store.runtimes
  openedSessions := s.network.openedSessions
  drafts := s.network.drafts
  pendingDeletions := s.catalog.pendingDeletions
  config := s.config

namespace Stores

/-- `a` has sunk to `b`.  Of the runtimes it is said only while no session has gone: with one, any
reason may have been written. -/
structure Sinks (a b : Stores) : Prop where
  openedSessions : b.openedSessions.Sublist a.openedSessions
  runtimes : b.openedSessions = a.openedSessions →
    List.Forall₂ DiskRuntime.Sinks a.runtimes b.runtimes
  drafts : List.Forall₂ NetworkCreateDraft.Sinks a.drafts b.drafts
  pendingDeletions : b.pendingDeletions = a.pendingDeletions
  config : b.config = a.config ∨ b.config = none

theorem Sinks.refl (a : Stores) : a.Sinks a :=
  ⟨.refl _, fun _ => List.forall₂_same.mpr fun _ _ => .inl rfl,
    List.forall₂_same.mpr fun d _ => .refl d, rfl, .inl rfl⟩

theorem Sinks.trans {a b c : Stores} (h : a.Sinks b) (h' : b.Sinks c) : a.Sinks c where
  openedSessions := h'.openedSessions.trans h.openedSessions
  runtimes heq := by
    have hab : b.openedSessions = a.openedSessions :=
      h.openedSessions.antisymm (heq ▸ h'.openedSessions)
    exact forall₂_trans DiskRuntime.Sinks.trans (h.runtimes hab) (h'.runtimes (heq.trans hab.symm))
  drafts := forall₂_trans NetworkCreateDraft.Sinks.trans h.drafts h'.drafts
  pendingDeletions := h'.pendingDeletions.trans h.pendingDeletions
  config := by
    rcases h'.config with hc | hc
    · exact hc ▸ h.config
    · exact .inr hc

theorem Sinks.antisymm {a b : Stores} (h : a.Sinks b) (h' : b.Sinks a) : a = b := by
  have hopened := h.openedSessions.antisymm h'.openedSessions
  have hconfig : a.config = b.config := by
    rcases h.config with hc | hc
    · exact hc.symm
    · rcases h'.config with hc' | hc'
      · exact hc'
      · exact hc'.trans hc.symm
  cases a
  cases b
  simp only [mk.injEq]
  exact ⟨forall₂_antisymm DiskRuntime.Sinks.antisymm (h.runtimes hopened) (h'.runtimes hopened.symm),
    hopened.symm, forall₂_antisymm NetworkCreateDraft.Sinks.antisymm h.drafts h'.drafts,
    h'.pendingDeletions, hconfig⟩

/-- The lower stores have sunk further. -/
instance : PartialOrder Stores where
  le b a := a.Sinks b
  le_refl := Sinks.refl
  le_trans _ _ _ h h' := h'.trans h
  le_antisymm _ _ h h' := h'.antisymm h

theorem le_iff {a b : Stores} : b ≤ a ↔ a.Sinks b := Iff.rfl

/-- The drafts are told apart by their ids. -/
def DraftsApart (b : Stores) : Prop := (b.drafts.map (·.draftId)).Nodup

theorem Sinks.draftIds {a b : Stores} (h : a.Sinks b) :
    b.drafts.map (·.draftId) = a.drafts.map (·.draftId) := by
  obtain ⟨-, -, hdrafts, -, -⟩ := h
  generalize a.drafts = xs, b.drafts = ys at hdrafts
  induction hdrafts with
  | nil => rfl
  | cons hd _ ih => rw [List.map_cons, List.map_cons, hd.draftId, ih]

theorem Sinks.apart {a b : Stores} (h : a.Sinks b) (ha : a.DraftsApart) : b.DraftsApart := by
  unfold DraftsApart
  rw [h.draftIds]
  exact ha

end Stores

abbrev DescendsStores (P : Stores → Prop) {α : Type} (x : ClientM α) : Prop :=
  Descends ClientState.stores Stores.DraftsApart P x

abbrev DescendsStoresAt (p : Prop) {α : Type} (x : ClientM α) (s : ClientState) : Prop :=
  DescendsAt ClientState.stores Stores.DraftsApart p x s

theorem descendsStoresAt_of_ok {α : Type} {p : Prop} {x : ClientM α} {s t : ClientState} {a : α}
    (hx : x s = .ok a t) (h : s.stores.DraftsApart → s.stores.Sinks t.stores)
    (hp : s.stores.DraftsApart → (t.stores = s.stores ↔ p)) : DescendsStoresAt p x s :=
  descendsAt_of_ok hx fun hs => ⟨h hs, (h hs).apart hs, hp hs⟩

theorem stores_closeSession (s : ClientState) (session : DiskSession) :
    (s.closeSession session).stores = s.stores := by
  unfold ClientState.closeSession
  split <;> rfl

theorem stores_closeSessions (sessions : List DiskSession) :
    ∀ s : ClientState, (s.closeSessions sessions).stores = s.stores := by
  induction sessions with
  | nil => exact fun _ => rfl
  | cons x xs ih => exact fun s => (ih _).trans (stores_closeSession s x)

/-! ## A session that is gone -/

/-- `invalidate_runtime_by_key`, for one runtime. -/
def DiskRuntime.invalidated (key : NetworkDiskKey) (reason : String) (r : DiskRuntime) :
    DiskRuntime :=
  if r.networkKey = some key then r.setNetworkInvalid reason else r

namespace Stores

/-- What `invalidate_runtime_by_key` does to the stores. -/
def invalidate (b : Stores) (key : NetworkDiskKey) (reason : String) : Stores :=
  { b with
    runtimes := b.runtimes.map (·.invalidated key reason)
    openedSessions := b.openedSessions.filter (·.key ≠ key) }

/-- The key has no session, and its runtimes say so. -/
def Missing (b : Stores) (key : NetworkDiskKey) : Prop :=
  (∀ opened ∈ b.openedSessions, opened.key ≠ key) ∧
    ∀ r ∈ b.runtimes, r.networkKey = some key → r.missing = r

theorem filter_key_eq_self {opened : List OpenedNetworkDiskSession} {key : NetworkDiskKey} :
    opened.filter (·.key ≠ key) = opened ↔ ∀ o ∈ opened, o.key ≠ key := by
  simp [List.filter_eq_self]

theorem invalidate_sinks (b : Stores) (key : NetworkDiskKey) :
    b.Sinks (b.invalidate key networkSessionMissingReason) := by
  refine ⟨List.filter_sublist, fun _ => ?_, List.forall₂_same.mpr fun d _ => .refl d, rfl, .inl rfl⟩
  refine List.forall₂_map_right_iff.mpr (List.forall₂_same.mpr fun r _ => ?_)
  unfold DiskRuntime.invalidated
  split
  · exact .inr (.inl rfl)
  · exact .inl rfl

theorem invalidate_eq_self_iff (b : Stores) (key : NetworkDiskKey) :
    b.invalidate key networkSessionMissingReason = b ↔ b.Missing key := by
  have hruntime : ∀ r : DiskRuntime, r.invalidated key networkSessionMissingReason = r ↔
      (r.networkKey = some key → r.missing = r) := by
    intro r
    unfold DiskRuntime.invalidated
    split
    · rename_i hkey
      exact ⟨fun h _ => h, fun h => h hkey⟩
    · rename_i hkey
      exact iff_of_true rfl fun h => absurd h hkey
  have heq : b.invalidate key networkSessionMissingReason = b ↔
      b.runtimes.map (·.invalidated key networkSessionMissingReason) = b.runtimes ∧
        b.openedSessions.filter (·.key ≠ key) = b.openedSessions := by
    cases b
    simp only [invalidate, mk.injEq, and_true]
  rw [heq, map_eq_self_iff, filter_key_eq_self, and_comm]
  exact and_congr_right fun _ => forall₂_congr fun r _ => hruntime r

/-- Sessions go, whatever is written of the runtimes. -/
theorem invalidateAll_spec (reason : String) (keys : List NetworkDiskKey) : ∀ b : Stores,
    let c := keys.foldl (fun b key => b.invalidate key reason) b
    c.openedSessions.Sublist b.openedSessions ∧ c.drafts = b.drafts ∧
      c.pendingDeletions = b.pendingDeletions ∧ c.config = b.config := by
  induction keys with
  | nil => exact fun b => ⟨.refl _, rfl, rfl, rfl⟩
  | cons key keys ih =>
    intro b
    obtain ⟨hopened, hdrafts, hpending, hconfig⟩ := ih (b.invalidate key reason)
    exact ⟨hopened.trans List.filter_sublist, hdrafts, hpending, hconfig⟩

/-- **A connection that is lost** takes the sessions of its server. -/
theorem invalidateAll_sinks {b : Stores} {keys : List NetworkDiskKey} (reason : String)
    (h : ∀ key ∈ keys, ∃ opened ∈ b.openedSessions, opened.key = key) :
    let c := keys.foldl (fun b key => b.invalidate key reason) b
    b.Sinks c ∧ (c = b ↔ keys = []) := by
  cases keys with
  | nil => exact ⟨.refl b, iff_of_true rfl rfl⟩
  | cons key keys =>
    obtain ⟨hopened, hdrafts, hpending, hconfig⟩ :=
      invalidateAll_spec reason keys (b.invalidate key reason)
    set c := keys.foldl (fun b key => b.invalidate key reason) (b.invalidate key reason) with hc
    have hfewer : c.openedSessions ≠ b.openedSessions := by
      intro heq
      obtain ⟨opened, hmem, hkey⟩ := h key List.mem_cons_self
      have hsub : c.openedSessions.Sublist (b.openedSessions.filter (·.key ≠ key)) := hopened
      rw [heq] at hsub
      have hfilter : b.openedSessions.filter (·.key ≠ key) = b.openedSessions :=
        List.filter_sublist.antisymm hsub
      exact filter_key_eq_self.mp hfilter opened hmem hkey
    refine ⟨⟨hopened.trans List.filter_sublist, fun heq => absurd heq hfewer, ?_, hpending,
      .inl hconfig⟩, iff_of_false (fun heq => hfewer (heq ▸ rfl)) (List.cons_ne_nil _ _)⟩
    show List.Forall₂ _ b.drafts c.drafts
    rw [hdrafts]
    exact List.forall₂_same.mpr fun d _ => .refl d

end Stores

theorem visitRuntimes_map {f : DiskRuntime → Backend → DiskRuntime × Backend}
    {g : DiskRuntime → DiskRuntime} (h : ∀ r backend, (f r backend).1 = g r) :
    ∀ (rs : List DiskRuntime) (backend : Backend), (visitRuntimes f rs backend).1 = rs.map g
  | [], _ => rfl
  | r :: rs, backend => congrArg₂ List.cons (h r backend) (visitRuntimes_map h rs _)

theorem run_invalidateRuntimeByKey (w : Answers) (key : NetworkDiskKey) (reason : String)
    (s : ClientState) : ∃ t, invalidateRuntimeByKey w key reason s = .ok ⟨⟩ t ∧
      t.stores = s.stores.invalidate key reason := by
  have hruntimes := visitRuntimes_map (f := invalidateRuntime w key reason)
    (g := (·.invalidated key reason)) (fun r backend => by
      unfold invalidateRuntime DiskRuntime.invalidated
      split <;> rfl) s.store.runtimes s.backend
  let u : ClientState := { s with network := s.network.removeOpenedSession key }
  let v := { u.setStore { u.store with
      runtimes := (visitRuntimes (invalidateRuntime w key reason) u.store.runtimes u.backend).1 } with
    backend := (visitRuntimes (invalidateRuntime w key reason) u.store.runtimes u.backend).2 }
  have hv : v.stores = s.stores.invalidate key reason := by
    show Stores.mk (visitRuntimes _ s.store.runtimes s.backend).1 _ _ _ _ = _
    rw [hruntimes]
    rfl
  cases hopened : s.network.openedSession key with
  | none =>
    refine ⟨v, ?_, hv⟩
    show whenSome (s.network.openedSession key) _ v = _
    rw [hopened]
    rfl
  | some opened =>
    refine ⟨v.closeSession opened.session, ?_, (stores_closeSession v _).trans hv⟩
    show whenSome (s.network.openedSession key) _ v = _
    rw [hopened]
    rfl

/-! ## Draft items that are gone -/

/-- `draft_mut` for several drafts, one after the other. -/
theorem setDrafts_eq (ds : List NetworkCreateDraft) : ∀ (network : NetworkClientState),
    (ds.map (·.draftId)).Nodup → ds.foldl (·.setDraft ·) network =
      { network with
        drafts := network.drafts.map fun x => (ds.find? (·.draftId = x.draftId)).getD x } := by
  induction ds with
  | nil =>
    intro network _
    show network = { network with drafts := network.drafts.map id }
    rw [List.map_id]
  | cons d ds ih =>
    intro network hnodup
    obtain ⟨hd, hds⟩ := List.nodup_cons.mp hnodup
    rw [List.foldl_cons, ih (network.setDraft d) hds]
    unfold NetworkClientState.setDraft
    rw [List.map_map]
    refine congrArg (fun drafts => ({ network with drafts := drafts } : NetworkClientState)) ?_
    refine List.map_congr_left fun x _ => ?_
    show (ds.find? fun y => decide (y.draftId = (if x.draftId = d.draftId then d else x).draftId)).getD
      (if x.draftId = d.draftId then d else x) = _
    by_cases hx : x.draftId = d.draftId
    · rw [if_pos hx, List.find?_cons_of_pos (by simp [hx])]
      have hnone : ds.find? (fun y => decide (y.draftId = d.draftId)) = none :=
        List.find?_eq_none.mpr fun y hy hid =>
          hd (List.mem_map.mpr ⟨y, hy, of_decide_eq_true hid⟩)
      rw [hnone]
      rfl
    · rw [if_neg hx, List.find?_cons_of_neg (by simp [Ne.symm hx])]

theorem find?_filterMap_draft {g : NetworkCreateDraft → Option NetworkCreateDraft}
    (hg : ∀ d d', g d = some d' → d'.draftId = d.draftId) {x : NetworkCreateDraft} :
    ∀ {drafts : List NetworkCreateDraft}, (drafts.map (·.draftId)).Nodup → x ∈ drafts →
      (drafts.filterMap g).find? (·.draftId = x.draftId) = g x
  | d :: drafts, hnodup, hx => by
    obtain ⟨hd, hdrafts⟩ := List.nodup_cons.mp hnodup
    rcases List.mem_cons.mp hx with rfl | hx
    · have hrest : (drafts.filterMap g).find? (·.draftId = x.draftId) = none := by
        refine List.find?_eq_none.mpr fun y hy hid => hd ?_
        obtain ⟨z, hz, hzy⟩ := List.mem_filterMap.mp hy
        exact List.mem_map.mpr ⟨z, hz, (hg z y hzy).symm.trans (of_decide_eq_true hid)⟩
      cases hgx : g x with
      | none => rw [List.filterMap_cons_none hgx, hrest]
      | some x' =>
        rw [List.filterMap_cons_some hgx, List.find?_cons_of_pos (by simp [hg x x' hgx])]
    · have hne : d.draftId ≠ x.draftId := fun heq => hd (List.mem_map.mpr ⟨x, hx, heq.symm⟩)
      have ih := find?_filterMap_draft hg hdrafts hx
      cases hgd : g d with
      | none => rw [List.filterMap_cons_none hgd, ih]
      | some d' =>
        rw [List.filterMap_cons_some hgd,
          List.find?_cons_of_neg (by simp [hg d d' hgd, hne]), ih]

theorem filterMap_ids_sublist {g : NetworkCreateDraft → Option NetworkCreateDraft}
    (hg : ∀ d d', g d = some d' → d'.draftId = d.draftId) :
    ∀ drafts : List NetworkCreateDraft,
      ((drafts.filterMap g).map (·.draftId)).Sublist (drafts.map (·.draftId))
  | [] => .refl _
  | d :: drafts => by
    have ih := filterMap_ids_sublist hg drafts
    cases hgd : g d with
    | none =>
      rw [List.filterMap_cons_none hgd]
      exact ih.cons _
    | some d' =>
      rw [List.filterMap_cons_some hgd, List.map_cons, hg d d' hgd]
      exact ih.cons_cons _

/-- **Drafts that lose items**, each set by its id. -/
theorem takeItems_spec {g : NetworkCreateDraft → Option NetworkCreateDraft}
    (hg : ∀ d d', g d = some d' → d.Sinks d') {s : ClientState} (hs : s.stores.DraftsApart) :
    let t := { s with
      network := (s.network.drafts.filterMap g).foldl (·.setDraft ·) s.network }
    s.stores.Sinks t.stores ∧
      (t.stores = s.stores ↔ ∀ d ∈ s.network.drafts, (g d).getD d = d) := by
  have hid : ∀ d d', g d = some d' → d'.draftId = d.draftId := fun d d' h => (hg d d' h).draftId
  have hapart : (s.network.drafts.map (·.draftId)).Nodup := hs
  have hnetwork : (s.network.drafts.filterMap g).foldl (·.setDraft ·) s.network =
      { s.network with drafts := s.network.drafts.map fun d => (g d).getD d } := by
    rw [setDrafts_eq _ _ (hapart.sublist (filterMap_ids_sublist hid _))]
    refine congrArg (fun drafts => ({ s.network with drafts := drafts } : NetworkClientState)) ?_
    exact List.map_congr_left fun d hd => by rw [find?_filterMap_draft hid hapart hd]
  have hsinks : ∀ d : NetworkCreateDraft, d.Sinks ((g d).getD d) := by
    intro d
    cases hgd : g d with
    | none => exact .refl d
    | some d' => exact hg d d' hgd
  dsimp only
  rw [hnetwork]
  refine ⟨⟨.refl _, fun _ => List.forall₂_same.mpr fun _ _ => .inl rfl,
    List.forall₂_map_right_iff.mpr (List.forall₂_same.mpr fun d _ => hsinks d), rfl, .inl rfl⟩, ?_⟩
  have heq : (Stores.mk s.store.runtimes s.network.openedSessions
      (s.network.drafts.map fun d => (g d).getD d) s.catalog.pendingDeletions s.config) =
        s.stores ↔ s.network.drafts.map (fun d => (g d).getD d) = s.network.drafts := by
    simp [ClientState.stores]
  exact heq.trans map_eq_self_iff

/-- `remove_draft_sessions_by_session_id`, for one draft. -/
def NetworkCreateDraft.removeBySessionId (d : NetworkCreateDraft) (sessionId : Nat) :
    Option (NetworkDraftItem × NetworkCreateDraft) :=
  (d.items.find? (·.session.sessionId = sessionId)).bind fun item =>
    d.removeItem item.key.remoteDiskId

theorem removeBySessionId_spec {d : NetworkCreateDraft} {sessionId : Nat} :
    match d.removeBySessionId sessionId with
    | some (_, d') => ∃ item ∈ d.items, item.session.sessionId = sessionId ∧
        d' = { d with items := d.items.filter (·.key.remoteDiskId ≠ item.key.remoteDiskId) }
    | none => ∀ item ∈ d.items, item.session.sessionId ≠ sessionId := by
  unfold NetworkCreateDraft.removeBySessionId
  cases hfound : d.items.find? (·.session.sessionId = sessionId) with
  | none => exact fun item hitem hid => List.find?_eq_none.mp hfound item hitem (decide_eq_true hid)
  | some item =>
    have hitem := List.mem_of_find?_eq_some hfound
    have hsome : (d.items.find? (·.key.remoteDiskId = item.key.remoteDiskId)).isSome :=
      List.find?_isSome.mpr ⟨item, hitem, decide_eq_true rfl⟩
    obtain ⟨again, hagain⟩ := Option.isSome_iff_exists.mp hsome
    have hid := List.find?_some hfound
    rw [Option.bind_some, NetworkCreateDraft.removeItem, hagain]
    exact ⟨item, hitem, of_decide_eq_true hid, rfl⟩

theorem filter_remote_ne_self {d : NetworkCreateDraft} {item : NetworkDraftItem}
    (h : item ∈ d.items) :
    ({ d with items := d.items.filter (·.key.remoteDiskId ≠ item.key.remoteDiskId) } :
      NetworkCreateDraft) ≠ d := by
  intro heq
  have hitems : d.items.filter (·.key.remoteDiskId ≠ item.key.remoteDiskId) = d.items :=
    congrArg (·.items) heq
  exact of_decide_eq_true (List.filter_eq_self.mp hitems item h) rfl

/-- The draft without the item of a session, if it is one for the server and has one. -/
def dropSession (serverAddr : String) (sessionId : Nat) (d : NetworkCreateDraft) :
    Option NetworkCreateDraft :=
  if d.serverAddr = serverAddr then (d.removeBySessionId sessionId).map (·.2) else none

theorem dropSession_sinks {serverAddr : String} {sessionId : Nat} (d d' : NetworkCreateDraft)
    (h : dropSession serverAddr sessionId d = some d') : d.Sinks d' := by
  unfold dropSession at h
  split at h
  · have hspec := @removeBySessionId_spec d sessionId
    cases hremove : d.removeBySessionId sessionId with
    | none =>
      rw [hremove] at h
      cases h
    | some removed =>
      rw [hremove] at h hspec
      obtain rfl := Option.some.inj h
      obtain ⟨item, -, -, hd'⟩ := hspec
      show d.Sinks removed.2
      rw [hd']
      exact ⟨rfl, rfl, rfl, List.filter_sublist⟩
  · cases h

theorem dropSession_eq_self_iff {serverAddr : String} {sessionId : Nat} (d : NetworkCreateDraft) :
    (dropSession serverAddr sessionId d).getD d = d ↔
      (d.serverAddr = serverAddr → ∀ item ∈ d.items, item.session.sessionId ≠ sessionId) := by
  unfold dropSession
  split
  · rename_i hd
    have hspec := @removeBySessionId_spec d sessionId
    cases hremove : d.removeBySessionId sessionId with
    | none =>
      rw [hremove] at hspec
      exact iff_of_true rfl fun _ => hspec
    | some removed =>
      rw [hremove] at hspec
      obtain ⟨item, hitem, hid, hd'⟩ := hspec
      refine iff_of_false (fun heq => filter_remote_ne_self hitem (hd' ▸ heq)) fun h => ?_
      exact h hd item hitem hid
  · rename_i hd
    exact iff_of_true rfl fun h => absurd h hd

theorem descends_removeDraftSessionsBySessionId (serverAddr : String) (sessionId : Nat) :
    DescendsStores (fun b => ∀ d ∈ b.drafts, d.serverAddr = serverAddr →
        ∀ item ∈ d.items, item.session.sessionId ≠ sessionId)
      (removeDraftSessionsBySessionId serverAddr sessionId) := by
  intro s
  let removed := (s.network.draftsForServer serverAddr).filterMap (·.removeBySessionId sessionId)
  let t := { s with
    network := (s.network.drafts.filterMap (dropSession serverAddr sessionId)).foldl (·.setDraft ·)
      s.network }
  have hremoved : removed.map (·.2) =
      s.network.drafts.filterMap (dropSession serverAddr sessionId) := by
    show ((s.network.drafts.filter _).filterMap _).map _ = _
    rw [List.map_filterMap, List.filterMap_filter]
    refine List.filterMap_congr fun d _ => ?_
    by_cases hd : d.serverAddr = serverAddr <;> simp [dropSession, hd]
  have hnetwork : removed.foldl (fun network r => network.setDraft r.2) s.network = t.network := by
    show _ = (s.network.drafts.filterMap (dropSession serverAddr sessionId)).foldl _ _
    rw [← hremoved, List.foldl_map]
  have hstores := stores_closeSessions (removed.map (·.1.session)) t
  refine descendsStoresAt_of_ok (t := t.closeSessions (removed.map (·.1.session))) (a := ⟨⟩) ?_
    (fun hs => ?_) fun hs => ?_
  · show EStateM.Result.ok _ (ClientState.closeSessions { s with
      network := removed.foldl (fun network r => network.setDraft r.2) s.network } _) = _
    rw [hnetwork]
    rfl
  · rw [hstores]
    exact (takeItems_spec dropSession_sinks hs).1
  · rw [hstores]
    exact (takeItems_spec dropSession_sinks hs).2.trans
      (forall₂_congr fun d _ => dropSession_eq_self_iff d)

theorem descends_removeAllDraftSessionsForServer (serverAddr : String) :
    DescendsStores (fun b => ∀ d ∈ b.drafts, d.serverAddr = serverAddr → d.items = [])
      (removeAllDraftSessionsForServer serverAddr) := by
  intro s
  let drafts := s.network.draftsForServer serverAddr
  let g : NetworkCreateDraft → Option NetworkCreateDraft := fun d =>
    if d.serverAddr = serverAddr then some { d with items := [] } else none
  let t := { s with network := (s.network.drafts.filterMap g).foldl (·.setDraft ·) s.network }
  have hg : ∀ d d', g d = some d' → d.Sinks d' := by
    intro d d' h
    simp only [g] at h
    split at h
    · obtain rfl := Option.some.inj h
      exact ⟨rfl, rfl, rfl, List.nil_sublist _⟩
    · cases h
  have hdrafts : drafts.map (fun draft => ({ draft with items := [] } : NetworkCreateDraft)) =
      s.network.drafts.filterMap g := by
    show (s.network.drafts.filter _).map _ = _
    rw [← List.filterMap_eq_map, List.filterMap_filter]
    refine List.filterMap_congr fun d _ => ?_
    by_cases hd : d.serverAddr = serverAddr <;> simp [g, hd]
  have hnetwork : drafts.foldl (fun network draft => network.setDraft { draft with items := [] })
      s.network = t.network := by
    show _ = (s.network.drafts.filterMap g).foldl _ _
    rw [← hdrafts, List.foldl_map]
  have hstores := stores_closeSessions (drafts.flatMap fun draft => draft.items.map (·.session)) t
  refine descendsStoresAt_of_ok (a := ⟨⟩) (t := t.closeSessions
    (drafts.flatMap fun draft => draft.items.map (·.session))) ?_ (fun hs => ?_) fun hs => ?_
  · show EStateM.Result.ok _ (ClientState.closeSessions { s with
      network := drafts.foldl (fun network draft => network.setDraft { draft with items := [] })
        s.network } _) = _
    rw [hnetwork]
  · rw [hstores]
    exact (takeItems_spec hg hs).1
  · rw [hstores]
    refine (takeItems_spec hg hs).2.trans (forall₂_congr fun d _ => ?_)
    by_cases hd : d.serverAddr = serverAddr
    · simp only [g, if_pos hd, Option.getD_some]
      exact ⟨fun h _ => (congrArg (·.items) h).symm, fun h => by rw [← h hd]⟩
    · simp [g, hd]

/-! ## The queue of events -/

/-- What the event has to do with the stores: nothing. -/
def NetworkClientEvent.Idle (b : Stores) : NetworkClientEvent → Prop
  | .sessionClosed serverAddr sessionId =>
    (∀ opened ∈ b.openedSessions,
      ¬ (opened.key.serverAddr = serverAddr ∧ opened.session.sessionId = sessionId)) ∧
      ∀ d ∈ b.drafts, d.serverAddr = serverAddr →
        ∀ item ∈ d.items, item.session.sessionId ≠ sessionId
  | .sessionDataChanged _ _ => True
  | .connectionLost serverAddr =>
    (∀ opened ∈ b.openedSessions, opened.key.serverAddr ≠ serverAddr) ∧
      ∀ d ∈ b.drafts, d.serverAddr = serverAddr → d.items = []

/-- The invalidation of a disk that is none of the network, or already missing. -/
def Stores.Invalidated (b : Stores) (localDiskId : String) : Prop :=
  ∀ key ∈ (b.runtimes.find? (·.localDiskId = localDiskId)).bind (·.networkKey), b.Missing key

/-- No event and no invalidation is queued that would change the stores. -/
def Quiet (s : ClientState) : Prop :=
  (∀ event ∈ s.network.pendingEvents, event.Idle s.stores) ∧
    ∀ localDiskId ∈ s.network.pendingMediaInvalidations, s.stores.Invalidated localDiskId

theorem descends_forEach {α : Type} {f : α → ClientM Unit} {P : α → Stores → Prop}
    (hf : ∀ a, DescendsStores (P a) (f a)) :
    ∀ as : List α, DescendsStores (fun b => ∀ a ∈ as, P a b) (forEach f as)
  | [] => fun s => (descends_pure () s).congr (by simp)
  | a :: as => fun s =>
    (Descends.bind (hf a) (fun _ => descends_forEach hf as) s).congr (by simp)

/-- The loop of `ConnectionLost` over the keys of its server. -/
theorem run_invalidateAll (w : Answers) (reason : String) : ∀ (keys : List NetworkDiskKey)
    (s : ClientState), ∃ t, forEach (invalidateRuntimeByKey w · reason) keys s = .ok ⟨⟩ t ∧
      t.stores = keys.foldl (fun b key => b.invalidate key reason) s.stores
  | [], s => ⟨s, rfl, rfl⟩
  | key :: keys, s => by
    obtain ⟨t, ht, hstores⟩ := run_invalidateRuntimeByKey w key reason s
    obtain ⟨u, hu, hstores'⟩ := run_invalidateAll w reason keys t
    exact ⟨u, (bind_ok ht).trans hu, hstores'.trans (by rw [hstores]; rfl)⟩

theorem descends_applyEvent (w : Answers) (event : NetworkClientEvent) :
    DescendsStores (event.Idle ·) (applyEvent w event) := by
  intro s
  cases event with
  | sessionDataChanged serverAddr sessionId => exact descends_pure () s
  | sessionClosed serverAddr sessionId =>
    refine descendsAt_get_bind (DescendsAt.bind ?_ fun _ =>
      descends_removeDraftSessionsBySessionId serverAddr sessionId)
    unfold NetworkClientState.findOpenedSessionBySessionId
    cases hfind : s.network.openedSessions.find? fun opened =>
        opened.key.serverAddr = serverAddr ∧ opened.session.sessionId = sessionId with
    | none =>
      refine (descends_pure () s).congr (iff_of_true trivial fun opened hopened h => ?_)
      exact List.find?_eq_none.mp hfind opened hopened (decide_eq_true h)
    | some opened =>
      have hmem := List.mem_of_find?_eq_some hfind
      have hfound := List.find?_some hfind
      have hsession := of_decide_eq_true hfound
      obtain ⟨t, ht, hstores⟩ :=
        run_invalidateRuntimeByKey w opened.key networkSessionMissingReason s
      refine descendsStoresAt_of_ok ht (fun _ => hstores ▸ Stores.invalidate_sinks _ _) fun _ => ?_
      rw [hstores, Stores.invalidate_eq_self_iff]
      exact iff_of_false (fun h => h.1 opened hmem rfl) fun h => h opened hmem hsession
  | connectionLost serverAddr =>
    refine descendsAt_get_bind (DescendsAt.bind ?_ fun _ =>
      descends_removeAllDraftSessionsForServer serverAddr)
    obtain ⟨t, ht, hstores⟩ := run_invalidateAll w networkConnectionUnavailableReason
      (s.network.openedSessionKeysForServer serverAddr) s
    have hkeys : ∀ key, key ∈ s.network.openedSessionKeysForServer serverAddr ↔
        (∃ opened ∈ s.network.openedSessions, opened.key = key) ∧ key.serverAddr = serverAddr := by
      intro key
      simp [NetworkClientState.openedSessionKeysForServer]
    obtain ⟨hsinks, hsame⟩ := Stores.invalidateAll_sinks (b := s.stores)
      networkConnectionUnavailableReason fun key hkey => ((hkeys key).mp hkey).1
    refine descendsStoresAt_of_ok ht (fun _ => hstores ▸ hsinks) fun _ => ?_
    rw [hstores]
    refine hsame.trans (List.eq_nil_iff_forall_not_mem.trans ⟨fun h opened hopened hserver => ?_,
      fun h key hkey => ?_⟩)
    · exact h opened.key ((hkeys _).mpr ⟨⟨opened, hopened, rfl⟩, hserver⟩)
    · obtain ⟨⟨opened, hopened, rfl⟩, hserver⟩ := (hkeys key).mp hkey
      exact h opened hopened hserver

theorem descends_invalidateRuntimeByLocalDiskId (w : Answers) (localDiskId : String) :
    DescendsStores (·.Invalidated localDiskId)
      (invalidateRuntimeByLocalDiskId w networkSessionMissingReason localDiskId) := by
  intro s
  refine descendsAt_get_bind ?_
  have hkey : (s.store.findRuntime localDiskId).bind (·.networkKey) =
      (s.stores.runtimes.find? (·.localDiskId = localDiskId)).bind (·.networkKey) := rfl
  cases hfound : (s.store.findRuntime localDiskId).bind (·.networkKey) with
  | none =>
    refine (descends_pure () s).congr (iff_of_true trivial fun key h => ?_)
    rw [← hkey, hfound] at h
    cases h
  | some key =>
    obtain ⟨t, ht, hstores⟩ := run_invalidateRuntimeByKey w key networkSessionMissingReason s
    refine descendsStoresAt_of_ok ht (fun _ => hstores ▸ Stores.invalidate_sinks _ _) fun _ => ?_
    rw [hstores, Stores.invalidate_eq_self_iff]
    show _ ↔ ∀ key' ∈ (s.store.findRuntime localDiskId).bind (·.networkKey), s.stores.Missing key'
    rw [hfound]
    simp

/-- **The queued events** leave the stores as they were exactly when none has to do with them. -/
theorem descendsAt_syncPendingEvents (w : Answers) (s : ClientState) :
    DescendsStoresAt (Quiet s) (syncPendingEvents w) s := by
  refine descendsAt_get_bind ?_
  have hdrain : DescendsStoresAt True (modifyNetwork fun network =>
      { network with pendingEvents := [], pendingMediaInvalidations := [] }) s :=
    descendsAt_of_same (run_modify _) rfl trivial
  have hevents := descends_forEach (descends_applyEvent w) s.network.pendingEvents
  have hinvalidations := descends_forEach (descends_invalidateRuntimeByLocalDiskId w)
    (sortDedup s.network.pendingMediaInvalidations)
  refine (hdrain.bind fun _ => hevents.bind fun _ => hinvalidations).congr ?_
  rw [true_and]
  refine and_congr Iff.rfl (forall_congr' fun localDiskId => ?_)
  unfold sortDedup
  rw [List.mem_dedup, List.mem_mergeSort]

end YumeDisk.TauriClient
