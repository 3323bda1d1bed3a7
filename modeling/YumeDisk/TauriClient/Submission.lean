import YumeDisk.TauriClient.Naming

/-!
# The submission of a draft, with what runs beside it

`submit_network_draft` has saved the disks of its clone of the draft when it takes the draft itself
out of the table.  In between the commands on drafts that do not take the catalog may run.

* `Submitting`: what holds then: the catalog and the configuration wait, and what is left of the
  draft is a part of the clone.
* `submitting_run`: every run beside a submission, with the draft there at its end exactly when no
  step of it has disposed of it.
* `finishSubmit_submitted`: each item that is left has one disk and one opened session.
-/

namespace YumeDisk.TauriClient

open YumeDisk.Lib

variable {paths : PathApi}

/-! ## What leaves the catalog and the configuration -/

structure Aside (s s' : ClientState) : Prop where
  catalog : s'.catalog = s.catalog
  config : s'.config = s.config
  holder : s'.holder = s.holder

instance : Std.Refl Aside := ⟨fun _ => ⟨rfl, rfl, rfl⟩⟩

instance : IsTrans ClientState Aside :=
  ⟨fun _ _ _ h h' => ⟨h'.catalog.trans h.catalog, h'.config.trans h.config,
    h'.holder.trans h.holder⟩⟩

section Aside

theorem aside_modifyNetwork (f : NetworkClientState → NetworkClientState) :
    Keeps Aside (modifyNetwork f) :=
  keeps_modify fun _ => ⟨rfl, rfl, rfl⟩

theorem aside_closeSession (s : ClientState) (session : DiskSession) :
    Aside s (s.closeSession session) := by
  unfold ClientState.closeSession
  split <;> exact ⟨rfl, rfl, rfl⟩

theorem aside_closeSessions (sessions : List DiskSession) :
    ∀ s : ClientState, Aside s (s.closeSessions sessions) := by
  induction sessions with
  | nil => exact fun s => ⟨rfl, rfl, rfl⟩
  | cons x xs ih => exact fun s => IsTrans.trans _ _ _ (aside_closeSession s x) (ih _)

theorem aside_removeNetworkDraftItem (draftId remoteDiskId : String) :
    Keeps Aside (removeNetworkDraftItem draftId remoteDiskId) := by
  refine Keeps.bind keeps_get fun s => ?_
  cases s.network.draft draftId with
  | none => exact keeps_throw _
  | some draft =>
    dsimp only
    cases draft.removeItem remoteDiskId with
    | none => exact keeps_throw _
    | some removed =>
      exact Keeps.bind (aside_modifyNetwork _) fun _ => keeps_modify fun s => aside_closeSession s _

theorem aside_disposeNetworkDraft (draftId : String) :
    Keeps Aside (disposeNetworkDraft draftId) := by
  refine Keeps.bind keeps_get fun s => ?_
  cases s.network.draft draftId with
  | none => exact keeps_throw _
  | some draft =>
    exact Keeps.bind (aside_modifyNetwork _) fun _ => keeps_modify (aside_closeSessions _)

/-- An observation writes nothing of the network client either. -/
def Observes (s s' : ClientState) : Prop := Aside s s' ∧ s'.network = s.network

instance : Std.Refl Observes := ⟨fun s => ⟨Std.Refl.refl s, rfl⟩⟩

instance : IsTrans ClientState Observes :=
  ⟨fun _ _ _ h h' => ⟨IsTrans.trans _ _ _ h.1 h'.1, h'.2.trans h.2⟩⟩

theorem observes_closeSession (s : ClientState) (session : DiskSession) :
    Observes s (s.closeSession session) := by
  unfold ClientState.closeSession
  split <;> exact ⟨⟨rfl, rfl, rfl⟩, rfl⟩

theorem observes_observeFresh (task : NetworkRescanTask) (stale : Option OpenedNetworkDiskSession)
    (answer : GatewayAnswer) : Keeps Observes (observeFresh task stale answer) := by
  cases answer with
  | noConnection | authFailed => exact keeps_pure _
  | authenticated connection diskId opens =>
    refine keeps_ite (keeps_pure _) ?_
    cases opens with
    | failed => exact keeps_pure _
    | opened sessionId metadata =>
      refine fun s => ends_bind_of_ok (t := s) rfl ?_
      have hu : Observes s { s with
          sessions := (s.sessions.openOn connection task.serverAddr sessionId).2 } :=
        ⟨⟨rfl, rfl, rfl⟩, rfl⟩
      refine ends_bind_of_ok (a := ⟨⟩) rfl ?_
      cases metadata with
      | none =>
        exact ends_bind_of_ok (run_modify _) (ends_of_ok (run_pure _)
          (IsTrans.trans _ _ _ hu (observes_closeSession _ _)))
      | some metadata => exact ends_of_ok (run_pure _) hu

theorem observes_observeTask (rescan : Rescan) (answer : GatewayAnswer) :
    Keeps Observes (observeTask rescan answer) := by
  unfold observeTask
  cases rescan.tasks with
  | nil => exact keeps_pure _
  | cons task tasks =>
    refine Keeps.bind (Keeps.bind keeps_get fun s => ?_) fun _ => keeps_pure _
    cases s.network.openedSession task.key with
    | none => exact observes_observeFresh task none answer
    | some opened =>
      refine Keeps.bind (fun s => ends_of_ok (a := (s.sessions.ensureUsable opened.session).1)
        (t := { s with sessions := (s.sessions.ensureUsable opened.session).2 }) rfl
          ⟨⟨rfl, rfl, rfl⟩, rfl⟩) fun usable => ?_
      cases usable with
      | true => exact keeps_pure _
      | false => exact observes_observeFresh task _ answer

theorem final_of_keeps {α : Type} {R : ClientState → ClientState → Prop} {x : ClientM α}
    (h : Keeps R x) (s : ClientState) : R s (x.final s) :=
  final_of_ends (h s)

end Aside

/-! ## Beside a submission -/

/-- The state beside the submission of the clone `draft`, which began to wait in `t`. -/
structure Submitting (draft : NetworkCreateDraft) (t u : ClientState) : Prop where
  aside : Aside t u
  numbered : ∃ n < u.network.nextDraftNumber, draft.draftId = draftIdOf n
  sinks : ∀ d ∈ u.network.drafts, d.draftId = draft.draftId → draft.Sinks d

/-- The draft of the id is in the table. -/
def HasDraft (draftId : String) (s : ClientState) : Prop :=
  ∃ d ∈ s.network.drafts, d.draftId = draftId

theorem Submitting.sink {draft : NetworkCreateDraft} {t u v : ClientState}
    (h : Submitting draft t u) (haside : Aside u v) (hsink : DraftsSink u v) :
    Submitting draft t v := by
  refine ⟨IsTrans.trans _ _ _ h.aside haside, hsink.nextDraftNumber ▸ h.numbered,
    fun d' hd' hid => ?_⟩
  obtain ⟨d, hd, hsinks⟩ := hsink.drafts d' hd'
  exact (h.sinks d hd (hsinks.draftId.symm.trans hid)).trans _ _ _ hsinks

theorem hasDraft_iff {draftId : String} {s : ClientState} :
    HasDraft draftId s ↔ draftId ∈ s.network.drafts.map (·.draftId) := by
  simp [HasDraft]

theorem hasDraft_of_ids {draftId : String} {s s' : ClientState}
    (h : s'.network.drafts.map (·.draftId) = s.network.drafts.map (·.draftId)) :
    HasDraft draftId s' ↔ HasDraft draftId s := by
  rw [hasDraft_iff, hasDraft_iff, h]

/-- The state after `create_network_draft`. -/
theorem final_createNetworkDraft (serverAddr : String) (connection : Except String Nat)
    (s : ClientState) : (createNetworkDraft serverAddr connection).final s = s ∨
      ∃ serverAddr' connection', (createNetworkDraft serverAddr connection).final s = { s with
        network := NetworkClientState.insertDraft
          { s.network with nextDraftNumber := s.network.nextDraftNumber + 1 }
          ⟨draftIdOf s.network.nextDraftNumber, serverAddr', connection', []⟩ } := by
  unfold createNetworkDraft failWhen ClientM.final
  dsimp only
  by_cases hempty : (trim serverAddr).isEmpty = true
  · rw [if_pos hempty]
    exact .inl rfl
  · rw [if_neg hempty]
    cases connection with
    | error text => exact .inl rfl
    | ok connection => exact .inr ⟨_, connection, rfl⟩

theorem Submitting.created {draft : NetworkCreateDraft} {t u : ClientState}
    (h : Submitting draft t u) (serverAddr : String) (connection : Nat) :
    let v : ClientState := { u with
      network := NetworkClientState.insertDraft
        { u.network with nextDraftNumber := u.network.nextDraftNumber + 1 }
        ⟨draftIdOf u.network.nextDraftNumber, serverAddr, connection, []⟩ }
    Submitting draft t v ∧ (HasDraft draft.draftId v ↔ HasDraft draft.draftId u) := by
  obtain ⟨n, hn, hid⟩ := h.numbered
  have hne : draft.draftId ≠ draftIdOf u.network.nextDraftNumber := fun heq =>
    absurd (draftIdOf_injective (hid.symm.trans heq)) (Nat.ne_of_lt hn)
  have hmem : ∀ d : NetworkCreateDraft, d.draftId = draft.draftId →
      (d ∈ u.network.drafts.filter (·.draftId ≠ draftIdOf u.network.nextDraftNumber) ++
        [⟨draftIdOf u.network.nextDraftNumber, serverAddr, connection, []⟩] ↔
          d ∈ u.network.drafts) := by
    intro d hd
    rw [List.mem_append, List.mem_singleton, List.mem_filter]
    constructor
    · rintro (⟨hd, -⟩ | rfl)
      · exact hd
      · exact absurd hd.symm hne
    · exact fun hmem => .inl ⟨hmem, decide_eq_true (hd ▸ hne)⟩
  refine ⟨⟨IsTrans.trans _ _ _ h.aside ⟨rfl, rfl, rfl⟩, ⟨n, Nat.lt_succ_of_lt hn, hid⟩,
    fun d hd hdid => h.sinks d ((hmem d hdid).mp hd) hdid⟩, ?_⟩
  exact exists_congr fun d => and_congr_left fun hd => hmem d hd

/-- The ids after `remove_network_draft_item`. -/
theorem final_removeNetworkDraftItem (draftId remoteDiskId : String) (s : ClientState) :
    ((removeNetworkDraftItem draftId remoteDiskId).final s).network.drafts.map (·.draftId) =
      s.network.drafts.map (·.draftId) := by
  refine final_of_ends (P := fun t =>
    t.network.drafts.map (·.draftId) = s.network.drafts.map (·.draftId)) ?_
  refine ends_bind_of_ok (t := s) rfl ?_
  cases s.network.draft draftId with
  | none => exact ends_of_error (run_throw _) rfl
  | some draft =>
    dsimp only
    cases draft.removeItem remoteDiskId with
    | none => exact ends_of_error (run_throw _) rfl
    | some removed =>
      refine ends_bind_of_ok (run_modify _) (ends_of_ok (run_modify _) ?_)
      rw [(observes_closeSession _ _).2]
      show (s.network.drafts.map _).map _ = _
      rw [List.map_map]
      refine List.map_congr_left fun d _ => ?_
      by_cases hid : d.draftId = removed.2.draftId <;> simp [hid]

/-- The drafts after `dispose_network_draft`. -/
theorem final_disposeNetworkDraft (draftId : String) (s : ClientState) :
    ((disposeNetworkDraft draftId).final s).network.drafts =
      s.network.drafts.filter (·.draftId ≠ draftId) := by
  unfold disposeNetworkDraft ClientM.final
  rw [run_get_bind]
  cases hfound : s.network.draft draftId with
  | none =>
    refine (List.filter_eq_self.mpr fun d hd => ?_).symm
    simpa using List.find?_eq_none.mp hfound d hd
  | some draft =>
    show (ClientState.closeSessions _ _).network.drafts = _
    have hnetwork : ∀ (sessions : List DiskSession) (u : ClientState),
        (u.closeSessions sessions).network = u.network := by
      intro sessions
      induction sessions with
      | nil => exact fun _ => rfl
      | cons x xs ih => exact fun u => (ih _).trans (observes_closeSession u x).2
    rw [hnetwork]
    rfl

/-- **A step beside a submission.** -/
theorem submitting_step {draft : NetworkCreateDraft} {t u v : ClientState} {a : Action}
    (hholder : t.holder = .submitting draft) (h : Submitting draft t u)
    (ha : a ≠ .finishSubmit) (hs : step paths u a = some v) :
    Submitting draft t v ∧ (HasDraft draft.draftId v ↔
      HasDraft draft.draftId u ∧ a ≠ .disposeNetworkDraft draft.draftId) := by
  have hu : u.holder = .submitting draft := h.aside.holder.trans hholder
  have hbusy : u.holder ≠ .free := by
    rw [hu]
    rintro ⟨⟩
  have hcommand : ∀ x, command u x ≠ some v := fun x hx => hbusy (command_cases hx).1
  have hcatalog : ∀ x, withCatalog u x ≠ some v := fun x hx => hbusy (withCatalog_cases hx).1
  -- the queues, the sessions and the backend
  have hrest : ∀ (b : Action) (w : ClientState), Aside u w → w.network.drafts = u.network.drafts →
      w.network.nextDraftNumber = u.network.nextDraftNumber →
        b ≠ .disposeNetworkDraft draft.draftId →
          Submitting draft t w ∧ (HasDraft draft.draftId w ↔
            HasDraft draft.draftId u ∧ b ≠ .disposeNetworkDraft draft.draftId) := by
    intro b w haside hdrafts hnext hb
    refine ⟨h.sink haside (draftsSink_of_same hdrafts hnext haside.holder), ?_⟩
    exact (hasDraft_of_ids (congrArg (List.map (·.draftId)) hdrafts)).trans
      ⟨fun hd => ⟨hd, hb⟩, And.left⟩
  cases a with
  | createMemoryDisk w request => exact absurd hs (hcommand _)
  | createFileDisk w request => exact absurd hs (hcommand _)
  | createNewFileDisk w files request => exact absurd hs (hcommand _)
  | updateDisk w request => exact absurd hs (hcommand _)
  | mountDisk w localDiskId => exact absurd hs (hcommand _)
  | ejectDisk w localDiskId => exact absurd hs (hcommand _)
  | deleteDisk w localDiskId => exact absurd hs (hcommand _)
  | undoDeleteDisk w deletionId => exact absurd hs (hcommand _)
  | commitDeletedDisk deletionId => exact absurd hs (hcommand _)
  | restoreClientState w config => exact absurd hs (hcommand _)
  | sync w => exact absurd hs (hcommand _)
  | watch w broken => exact absurd hs (hcommand _)
  | addNetworkDraftItem w draftId diskName claimCode => exact absurd hs (hcatalog _)
  | submitNetworkDraft w draftId => exact absurd hs (hcatalog _)
  | continueAdd answer => simp [step, hu] at hs
  | finishSubmit => exact absurd rfl ha
  | startRescan w => exact absurd (step_cases hs).1 hbusy
  | submitRescan answer => simp [step, hu] at hs
  | submitBeginCommit => simp [step, hu] at hs
  | finishCommit w => simp [step, hu] at hs
  | beginCommit =>
    obtain ⟨-, -, -, hfree, -⟩ := step_cases hs
    exact absurd hfree hbusy
  | rescan answer =>
    obtain ⟨rescan, -, hx⟩ := step_cases hs
    have hends := observes_observeTask rescan answer u
    obtain ⟨rescan', w, hx, rfl⟩ | ⟨e, hx⟩ := hx
    · replace hends := hends.of_ok hx
      exact hrest (.rescan answer) _ ⟨hends.1.catalog, hends.1.config, hends.1.holder⟩
        (congrArg (·.drafts) hends.2) (congrArg (·.nextDraftNumber) hends.2) (by rintro ⟨⟩)
    · replace hends := hends.of_error hx
      exact hrest (.rescan answer) _ hends.1 (congrArg (·.drafts) hends.2)
        (congrArg (·.nextDraftNumber) hends.2) (by rintro ⟨⟩)
  | createNetworkDraft serverAddr connection =>
    obtain rfl := Option.some.inj hs
    rcases final_createNetworkDraft serverAddr connection u with
      heq | ⟨serverAddr', connection', heq⟩
    · rw [heq]
      exact hrest (.createNetworkDraft serverAddr connection) _ (Std.Refl.refl u) rfl rfl (by rintro ⟨⟩)
    · rw [heq]
      obtain ⟨hsubmitting, hhas⟩ := h.created serverAddr' connection'
      exact ⟨hsubmitting, hhas.trans ⟨fun hd => ⟨hd, (by rintro ⟨⟩)⟩, And.left⟩⟩
  | removeNetworkDraftItem draftId remoteDiskId =>
    obtain rfl := Option.some.inj hs
    refine ⟨h.sink (final_of_keeps (aside_removeNetworkDraftItem draftId remoteDiskId) u)
      (final_of_keeps (drafts_removeNetworkDraftItem draftId remoteDiskId) u), ?_⟩
    rw [hasDraft_of_ids (final_removeNetworkDraftItem draftId remoteDiskId u)]
    exact ⟨fun hd => ⟨hd, (by rintro ⟨⟩)⟩, And.left⟩
  | disposeNetworkDraft draftId =>
    obtain rfl := Option.some.inj hs
    refine ⟨h.sink (final_of_keeps (aside_disposeNetworkDraft draftId) u)
      (final_of_keeps (drafts_disposeNetworkDraft draftId) u), ?_⟩
    unfold HasDraft
    rw [final_disposeNetworkDraft]
    constructor
    · rintro ⟨d, hd, hid⟩
      obtain ⟨hd, hne⟩ := List.mem_filter.mp hd
      refine ⟨⟨d, hd, hid⟩, fun heq => of_decide_eq_true hne ?_⟩
      cases heq
      exact hid
    · rintro ⟨⟨d, hd, hid⟩, hne⟩
      refine ⟨d, List.mem_filter.mpr ⟨hd, decide_eq_true fun heq => hne ?_⟩, hid⟩
      rw [← heq, hid]
  | raise event | invalidate localDiskId | deactivate connection sessionId | terminate handle |
    loseDisks =>
    obtain rfl := Option.some.inj hs
    exact hrest _ _ ⟨rfl, rfl, rfl⟩ rfl rfl (by rintro ⟨⟩)
  | rehash openedSessions =>
    obtain ⟨-, rfl⟩ := step_cases hs
    exact hrest (.rehash openedSessions) _ ⟨rfl, rfl, rfl⟩ rfl rfl (by rintro ⟨⟩)

/-- **A run beside a submission**: the draft is there at its end exactly when no step of it has
disposed of it. -/
theorem submitting_run {draft : NetworkCreateDraft} {t u : ClientState} {as : List Action}
    (hholder : t.holder = .submitting draft) (h : Submitting draft t t)
    (hhas : HasDraft draft.draftId t) (has : ∀ a ∈ as, a ≠ .finishSubmit)
    (hrun : runFrom (step paths) t as = some u) :
    Submitting draft t u ∧
      (HasDraft draft.draftId u ↔ .disposeNetworkDraft draft.draftId ∉ as) := by
  refine run_inv_history (I := fun as u => (∀ a ∈ as, a ≠ .finishSubmit) → Submitting draft t u ∧
      (HasDraft draft.draftId u ↔ .disposeNetworkDraft draft.draftId ∉ as))
    (fun _ => ⟨h, iff_of_true hhas nofun⟩) (fun bs v a v' _ ih hs has => ?_) hrun has
  obtain ⟨hv, hiff⟩ := ih fun b hb => has b (List.mem_append_left _ hb)
  obtain ⟨hv', hiff'⟩ := submitting_step hholder hv (has a (by simp)) hs
  refine ⟨hv', hiff'.trans ?_⟩
  rw [hiff, List.mem_append, List.mem_singleton, not_or]
  exact and_congr_right fun _ => ne_comm

/-! ## The end of a submission -/

/-- The item has one disk and one opened session. -/
structure NetworkDraftItem.Became (item : NetworkDraftItem) (s : ClientState) : Prop where
  runtime : ∃ localDiskId, s.store.runtimes.filter (·.networkKey = some item.key) =
    [item.runtime item.key.serverAddr localDiskId]
  session : s.network.openedSessions.filter (·.key = item.key) =
    [⟨item.key, item.session, item.metadata⟩]

/-- What is left of a draft. -/
def ClientState.draftItems (s : ClientState) (draftId : String) : List NetworkDraftItem :=
  match s.network.draft draftId with
  | none => []
  | some draft => draft.items

theorem checkDraftItems_ok {store : DiskRuntimeStore} {network : NetworkClientState}
    {draft : NetworkCreateDraft} : ∀ {items : List NetworkDraftItem},
      checkDraftItems store network draft items = .ok () →
        ∀ item ∈ items, ∀ r ∈ store.runtimes, r.networkKey ≠ some item.key
  | [], _, item, hitem => nomatch hitem
  | x :: items, h, item, hitem => by
    unfold checkDraftItems ensureUniqueNetworkKey at h
    by_cases hany : store.runtimes.any (·.networkKey = some x.key) = true
    · rw [if_pos hany] at h
      cases h
    · rcases List.mem_cons.mp hitem with rfl | hitem
      · simpa using hany
      · refine @checkDraftItems_ok store network draft items ?_ item hitem
        rw [if_neg hany] at h
        split at h
        · cases h
        · cases hbackend : ensureUniqueNetworkBackend network draft.serverAddr x.metadata.backendId
            (some draft.draftId) with
          | error e =>
            rw [hbackend] at h
            cases h
          | ok _ =>
            rw [hbackend] at h
            exact h

/-- No disk of other items has the key. -/
theorem filter_draftRuntimes_nil {key : NetworkDiskKey} {serverAddr : String} :
    ∀ {items : List NetworkDraftItem} {number : Nat},
      (∀ x ∈ items, x.key.remoteDiskId ≠ key.remoteDiskId) →
        (draftRuntimes serverAddr number items).filter (·.networkKey = some key) = []
  | [], _, _ => rfl
  | x :: items, number, h => by
    have hx : (x.runtime serverAddr (DiskRuntimeStore.localDiskIdOf number)).networkKey ≠
        some key := fun heq =>
      h x List.mem_cons_self (congrArg (·.remoteDiskId) (Option.some.inj heq))
    rw [draftRuntimes, List.filter_cons_of_neg (by simpa using hx)]
    exact filter_draftRuntimes_nil fun y hy => h y (List.mem_cons_of_mem _ hy)

theorem filter_draftRuntimes {serverAddr : String} : ∀ {items : List NetworkDraftItem},
    ItemsOk serverAddr items → ∀ (number : Nat), ∀ item ∈ items, ∃ localDiskId,
      (draftRuntimes serverAddr number items).filter (·.networkKey = some item.key) =
        [item.runtime item.key.serverAddr localDiskId]
  | [], _, _, _, hitem => nomatch hitem
  | x :: items, h, number, item, hitem => by
    obtain ⟨hx, -⟩ := List.pairwise_cons.mp h.sorted
    have hserver := h.server x List.mem_cons_self
    rcases List.mem_cons.mp hitem with rfl | hitem
    · refine ⟨DiskRuntimeStore.localDiskIdOf number, ?_⟩
      have hkey : (item.runtime serverAddr (DiskRuntimeStore.localDiskIdOf number)).networkKey =
          some item.key := by
        rw [← hserver]
        rfl
      rw [draftRuntimes, List.filter_cons_of_pos (by simpa using hkey),
        filter_draftRuntimes_nil fun y hy => (hx y hy).ne', hserver]
    · have hne : (x.runtime serverAddr (DiskRuntimeStore.localDiskIdOf number)).networkKey ≠
          some item.key := fun heq =>
        (hx item hitem).ne (congrArg (·.remoteDiskId) (Option.some.inj heq))
      rw [draftRuntimes, List.filter_cons_of_neg (by simpa using hne)]
      exact filter_draftRuntimes (h.sublist (List.sublist_cons_self _ _)) _ item hitem

theorem filter_insertOpenedSession (network : NetworkClientState)
    (opened : OpenedNetworkDiskSession) (key : NetworkDiskKey) :
    (network.insertOpenedSession opened).openedSessions.filter (·.key = key) =
      if opened.key = key then [opened] else network.openedSessions.filter (·.key = key) := by
  unfold NetworkClientState.insertOpenedSession NetworkClientState.removeOpenedSession
  dsimp only
  rw [List.filter_append, List.filter_filter]
  by_cases hkey : opened.key = key
  · subst hkey
    simp
  · rw [if_neg hkey, List.filter_cons_of_neg (by simpa using hkey), List.filter_nil,
      List.append_nil]
    refine List.filter_congr fun x _ => ?_
    by_cases hx : x.key = key
    · simp [hx, Ne.symm hkey]
    · simp [hx]

/-- The state of the network client with the sessions of the items. -/
def NetworkClientState.insertItems (network : NetworkClientState) (items : List NetworkDraftItem) :
    NetworkClientState :=
  items.foldl (fun network item =>
    network.insertOpenedSession ⟨item.key, item.session, item.metadata⟩) network

theorem filter_insertItems_other {key : NetworkDiskKey} : ∀ {items : List NetworkDraftItem}
    {network : NetworkClientState}, (∀ x ∈ items, x.key ≠ key) →
      (network.insertItems items).openedSessions.filter (·.key = key) =
        network.openedSessions.filter (·.key = key)
  | [], _, _ => rfl
  | x :: items, network, h => by
    refine (filter_insertItems_other fun y hy => h y (List.mem_cons_of_mem _ hy)).trans ?_
    rw [filter_insertOpenedSession, if_neg (h x List.mem_cons_self)]

theorem filter_insertItems {serverAddr : String} : ∀ {items : List NetworkDraftItem},
    ItemsOk serverAddr items → ∀ (network : NetworkClientState), ∀ item ∈ items,
      (network.insertItems items).openedSessions.filter (·.key = item.key) =
        [⟨item.key, item.session, item.metadata⟩]
  | [], _, _, _, hitem => nomatch hitem
  | x :: items, h, network, item, hitem => by
    obtain ⟨hx, -⟩ := List.pairwise_cons.mp h.sorted
    rcases List.mem_cons.mp hitem with rfl | hitem
    · refine (filter_insertItems_other fun y hy heq => (hx y hy).ne' ?_).trans ?_
      · rw [heq]
      · rw [filter_insertOpenedSession, if_pos rfl]
    · exact filter_insertItems (h.sublist (List.sublist_cons_self _ _)) _ item hitem

theorem finishSubmit_ends (draftId : String) (s : ClientState) :
    Ends (finishSubmit draftId) s
      (fun _ t => ∃ draft, s.network.draft draftId = some draft ∧
        t = { s with network := (s.network.removeDraft draftId).insertItems draft.items })
      fun _ t => s.network.draft draftId = none ∧ t = s := by
  refine ends_bind_of_ok (t := s) rfl ?_
  cases s.network.draft draftId with
  | none => exact ends_of_error (run_throw _) ⟨rfl, rfl⟩
  | some draft =>
    refine ends_bind_of_ok (run_modify _) ?_
    cases startRescan (collectNetworkRescanPlans s.store.runtimes) with
    | none => exact ends_of_ok (run_pure _) ⟨draft, rfl, rfl⟩
    | some rescan => exact ends_of_ok (run_pure _) ⟨draft, rfl, rfl⟩

theorem hasDraft_iff_draft {draftId : String} {s : ClientState} :
    HasDraft draftId s ↔ s.network.draft draftId ≠ none := by
  unfold HasDraft NetworkClientState.draft
  rw [Ne, List.find?_eq_none]
  simp

/-- **The end of a submission**: each item that is left has become one disk with one session,
unless the draft has gone. -/
theorem finishSubmit_submitted {u t v : ClientState} {draft : NetworkCreateDraft} {number : Nat}
    (hitems : ItemsOk draft.serverAddr draft.items)
    (hchecked : checkDraftItems u.store u.network draft draft.items = .ok ())
    (ht : t.store.runtimes =
      u.store.runtimes ++ draftRuntimes draft.serverAddr number draft.items)
    (hv : Submitting draft t v) :
    Ends (finishSubmit draft.draftId) v
      (fun _ z => HasDraft draft.draftId v ∧ z.catalog = t.catalog ∧ z.config = t.config ∧
        ∀ item ∈ v.draftItems draft.draftId, item.Became z)
      fun _ z => ¬ HasDraft draft.draftId v ∧ z = v := by
  refine (finishSubmit_ends draft.draftId v).mono (fun _ z ⟨d, hd, hz⟩ => ?_) fun _ z ⟨hnone, hz⟩ =>
    ⟨fun hhas => hasDraft_iff_draft.mp hhas hnone, hz⟩
  subst hz
  refine ⟨hasDraft_iff_draft.mpr (by rw [hd]; nofun), hv.aside.catalog, hv.aside.config,
    fun item hitem => ?_⟩
  have hid := List.find?_some hd
  have hsinks := hv.sinks d (List.mem_of_find?_eq_some hd) (of_decide_eq_true hid)
  replace hitem : item ∈ d.items := by
    unfold ClientState.draftItems at hitem
    rw [hd] at hitem
    exact hitem
  have hmem := hsinks.items.subset hitem
  refine ⟨?_, filter_insertItems (hitems.sublist hsinks.items) _ item hitem⟩
  have hruntimes : v.store.runtimes = u.store.runtimes ++ _ :=
    (congrArg (·.runtimeStore.runtimes) hv.aside.catalog).trans ht
  have hold : u.store.runtimes.filter (·.networkKey = some item.key) = [] :=
    List.filter_eq_nil_iff.mpr fun r hr => by simpa using checkDraftItems_ok hchecked item hmem r hr
  obtain ⟨localDiskId, hnew⟩ := filter_draftRuntimes hitems number item hmem
  refine ⟨localDiskId, ?_⟩
  show v.store.runtimes.filter _ = _
  rw [hruntimes, List.filter_append, hold, hnew, List.nil_append]

end YumeDisk.TauriClient
