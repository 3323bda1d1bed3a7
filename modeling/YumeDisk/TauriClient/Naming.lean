import YumeDisk.TauriClient.Drafts
import YumeDisk.TauriClient.MediumSafety

/-!
# The ids of the disks and of the drafts, in every run

What a command relies on when it takes its change back: no two disks of the catalog have one id,
and the drafts are in order.  No guard is needed for these, whatever the server, the driver and the
other threads do.

* `Named`: the ids of a state are in order.
* `step_named`, `named_run`: **every step keeps it**, and every run reaches it.
-/

namespace YumeDisk.TauriClient

open YumeDisk.Lib

variable {paths : PathApi}

/-! ## The ids of the disks -/

section Ids

def KeepsIds (s s' : ClientState) : Prop := IdsInv s → IdsInv s'

instance : Std.Refl KeepsIds := ⟨fun _ => id⟩

instance : IsTrans ClientState KeepsIds := ⟨fun _ _ _ h h' => h' ∘ h⟩

theorem CatalogDemotes.keepsIds {s s' : ClientState} (h : CatalogDemotes paths s s') :
    KeepsIds s s' := by
  refine fun hids => hids.of_perm ?_ h.nextDiskNumber
  have hruntimes : s'.catalog.runtimeStore.runtimes.map (·.localDiskId) =
      s.catalog.runtimeStore.runtimes.map (·.localDiskId) := h.runtimes.ids
  unfold catalogIds
  rw [hruntimes, h.pending]

theorem SameCatalog.keepsIds {s s' : ClientState} (h : SameCatalog s s') : KeepsIds s s' :=
  fun hids => hids.of_perm (by rw [h.catalog]) (congrArg (·.nextDiskNumber) h.store)

theorem ids_of_keepsCatalog {α : Type} {x : ClientM α} (h : KeepsCatalog paths x) :
    Keeps KeepsIds x :=
  fun s => (h s).mono (fun _ _ ht => ht.keepsIds) fun _ _ ht => ht.keepsIds

theorem ids_of_same {α : Type} {x : ClientM α} (h : Keeps SameCatalog x) : Keeps KeepsIds x :=
  fun s => (h s).mono (fun _ _ ht => ht.keepsIds) fun _ _ ht => ht.keepsIds

/-- Numbers may be left out. -/
theorem IdsInv.skip {s : ClientState} (h : IdsInv s) {number : Nat}
    (hle : s.store.nextDiskNumber ≤ number) :
    IdsInv (s.setStore { s.store with nextDiskNumber := number }) :=
  ⟨h.nodup, fun id hid n hn => Nat.lt_of_lt_of_le (h.numbers id hid n hn) hle⟩

theorem IdsInv.saveConfig {s : ClientState} (h : IdsInv s) (w : Answers) :
    IdsInv (s.saveConfig w) :=
  (same_saveConfig s w).keepsIds h

theorem ids_of_creation {w : Answers} {x : ClientM Unit} {accepted : ClientState → Prop}
    (hx : ∀ s, IdsInv s → EndsCreation (accepted s) w x s) {s : ClientState} (h : IdsInv s) :
    Ends x s (fun _ t => IdsInv t) fun _ t => IdsInv t := by
  refine (hx s h).mono (fun _ t ⟨_, hn, r, hr, ht⟩ => ?_) fun _ t ht => ?_
  · rw [ht]
    exact (h.insertNew hn hr).saveConfig w
  · rcases ht with ⟨-, rfl⟩ | ⟨-, -, -, rfl⟩
    · exact h
    · exact (h.skip (Nat.le_succ _)).saveConfig w

theorem ids_undoDeleteDisk {s : ClientState} (h : IdsInv s) (w : Answers) (deletionId : String) :
    Ends (undoDeleteDisk w deletionId) s (fun _ t => IdsInv t) fun _ t => IdsInv t := by
  refine (ends_undoDeleteDisk h w deletionId).mono (fun _ t ht => ?_) fun _ t ht => ?_
  · obtain ⟨-, pending, before, after, htaken, rfl⟩ := ht
    exact h.taken htaken
  · rcases ht with ⟨-, rfl⟩ | ⟨-, pending, before, after, htaken, rfl⟩
    · exact h
    · refine h.of_perm ?_ rfl
      show (s.store.runtimes.map _ ++ s.catalog.pendingDeletions.map _).Perm
        (s.store.runtimes.map _ ++ (before ++ after ++ [_]).map _)
      rw [htaken.split]
      simp only [List.map_append, List.map_cons, List.map_nil, List.append_assoc]
      exact .append_left _ (.append_left _ (List.perm_append_singleton _ _).symm)

theorem ids_commitDeletedDisk (deletionId : String) :
    Keeps KeepsIds (commitDeletedDisk deletionId) := by
  refine fun s => ends_bind_of_ok (t := s) rfl ?_
  cases htake : s.catalog.takePendingDeletion deletionId with
  | none => exact keeps_throw _ s
  | some result =>
    obtain ⟨pending, catalog⟩ := result
    obtain ⟨ps, ps', hps, rfl⟩ := takePendingDeletion_spec htake
    refine ends_of_ok (a := ⟨⟩) rfl fun h => h.sublist ?_
    refine (List.Sublist.refl _).append (List.Sublist.map _ ?_)
    rw [hps]
    exact (List.Sublist.refl ps).append (List.sublist_cons_self _ _)

theorem ids_restoreClientState (w : Answers)
    (config : Except ApiError (List PersistedDiskRecord)) :
    Keeps KeepsIds (restoreClientState paths w config) := by
  refine Keeps.bind (keeps_modify fun s => SameCatalog.keepsIds ⟨rfl, rfl, rfl⟩) fun _ =>
    Keeps.bind (ids_of_same (same_liftExcept _)) fun disks => ?_
  cases hstore : buildRestoredRuntimeStore paths w disks with
  | error e => exact keeps_throw_bind _ _
  | ok store =>
    obtain ⟨hids, -⟩ := restoreDisks_spec restored_nil hstore
    refine fun s => ends_bind_of_ok (a := store) (t := s) rfl
      (ends_of_ok (run_modify _) fun _ => ?_)
    show IdsOk (store.runtimes.map _ ++ []) store.nextDiskNumber
    rw [List.append_nil]
    exact hids

theorem visitFirst_ids {p : DiskRuntime → Bool}
    {f : DiskRuntime → Backend → DiskRuntime × Backend}
    (hf : ∀ r b, (f r b).1.localDiskId = r.localDiskId) :
    ∀ (rs : List DiskRuntime) (backend : Backend),
      (visitFirst p f rs backend).1.map (·.localDiskId) = rs.map (·.localDiskId)
  | [], _ => rfl
  | r :: rs, backend => by
    unfold visitFirst
    by_cases hp : p r = true
    · rw [if_pos hp]
      exact congrArg (· :: rs.map (·.localDiskId)) (hf r backend)
    · rw [if_neg hp]
      exact congrArg (r.localDiskId :: ·) (visitFirst_ids hf rs backend)

/-- The runtimes are written in place. -/
theorem IdsInv.setRuntimes {s : ClientState} (h : IdsInv s) {runtimes : List DiskRuntime}
    (hids : runtimes.map (·.localDiskId) = s.store.runtimes.map (·.localDiskId))
    (backend : Backend) :
    IdsInv { s.setStore { s.store with runtimes := runtimes } with backend := backend } := by
  refine h.of_perm ?_ rfl
  show (s.store.runtimes.map _ ++ _).Perm (runtimes.map _ ++ _)
  rw [hids]
  exact .refl _

theorem ids_rescanLocalRuntimeDisks (w : Answers) :
    Keeps KeepsIds (rescanLocalRuntimeDisks paths w) := fun s =>
  ends_bind_of_ok (t := s) rfl (ends_of_ok (run_modify _) fun h => h.setRuntimes
    (visitRuntimes_ids (fun r b => (@rescanLocalRuntime_spec paths w _ r b _ rfl).1) _ _) _)

theorem applyRuntimeAction_id (w : Answers) (result : NetworkRescanCommitResult)
    (r : DiskRuntime) (backend : Backend) :
    (applyRuntimeAction w result r backend).1.localDiskId = r.localDiskId := by
  cases result <;> rfl

theorem ids_commitRuntimes (w : Answers) (sessions : List OpenedNetworkDiskSession)
    (actions : List NetworkResolvedAction) :
    Keeps KeepsIds (commitRuntimes w sessions actions) := by
  refine Keeps.bind (ids_of_same (same_modifyNetwork _)) fun _ => ?_
  induction actions with
  | nil => exact keeps_pure _
  | cons action actions ih =>
    refine Keeps.bind (keeps_modify fun s h => ?_) fun _ => ih
    exact h.setRuntimes (visitFirst_ids (fun r b => applyRuntimeAction_id w _ r b) _ _) _

theorem ids_startRuntimeRescan (w : Answers) : Keeps KeepsIds (startRuntimeRescan paths w) :=
  Keeps.bind (ids_of_keepsCatalog (@keepsCatalog_syncPendingEvents paths w)) fun _ =>
    Keeps.bind (ids_rescanLocalRuntimeDisks w) fun _ => Keeps.bind keeps_get fun _ =>
      Keeps.bind (ids_of_same (same_saveClientState w)) fun _ =>
        Keeps.bind (ids_of_same (same_liftExcept _)) fun _ => keeps_pure _

theorem same_finishSubmit (draftId : String) : Keeps SameCatalog (finishSubmit draftId) := by
  refine fun s => ends_bind_of_ok (t := s) rfl ?_
  cases s.network.draft draftId with
  | none => exact keeps_throw _ s
  | some draft =>
    refine ends_bind_of_ok (run_modify _) ?_
    cases startRescan (collectNetworkRescanPlans s.store.runtimes) with
    | none => exact ends_of_ok (run_pure _) ⟨rfl, rfl, rfl⟩
    | some rescan => exact ends_of_ok (run_pure _) ⟨rfl, rfl, rfl⟩

theorem ids_submitDraft {s : ClientState} (h : IdsInv s) (w : Answers) (draftId : String) :
    Ends (submitDraft w draftId) s (fun _ t => IdsInv t) fun _ t => IdsInv t := by
  refine (ends_submitDraft h w draftId).mono (fun _ t ht => ?_) fun _ t ht => ?_
  · obtain ⟨draft, -, hfits, -, -, rfl⟩ := ht
    exact (h.withRuntimes hfits).saveConfig w
  · rcases ht with ⟨-, rfl⟩ | ⟨draft, -, ⟨-, ht⟩ | ⟨-, -, rfl⟩⟩
    · exact h
    · exact ht
    · exact (h.skip (Nat.le_add_right _ _)).saveConfig w

end Ids

/-! ## Every step -/

structure Named (s : ClientState) : Prop where
  disks : IdsInv s
  drafts : DraftsInv s

theorem Named.of_ends {s : ClientState} (h : Named s) {α : Type} {x : ClientM α}
    (hids : Ends x s (fun _ t => IdsInv t) fun _ t => IdsInv t) (hdrafts : KeepsDrafts x) :
    Ends x s (fun _ t => Named t) fun _ t => Named t :=
  (Ends.and hids (hdrafts s)).mono (fun _ _ ht => ⟨ht.1, h.drafts.sink ht.2⟩)
    fun _ _ ht => ⟨ht.1, h.drafts.sink ht.2⟩

theorem Named.of_sections {s : ClientState} (h : Named s) {α : Type} {x : ClientM α}
    (hids : Keeps KeepsIds x) (hdrafts : KeepsDrafts x) :
    Ends x s (fun _ t => Named t) fun _ t => Named t :=
  h.of_ends ((hids s).mono (fun _ _ ht => ht h.disks) fun _ _ ht => ht h.disks) hdrafts

/-- **The queued events** come to their end. -/
theorem sync_ok (paths : PathApi) {s : ClientState} (h : Named s) (w : Answers) :
    ∃ t, syncPendingEvents w s = .ok ⟨⟩ t ∧ Named t ∧ t.stores ≤ s.stores ∧
      (t.stores = s.stores ↔ Quiet s) := by
  have hends := descendsAt_syncPendingEvents w s h.drafts.apart
  have hkept := h.of_sections (ids_of_keepsCatalog (@keepsCatalog_syncPendingEvents paths w))
    (drafts_syncPendingEvents w)
  cases hs : syncPendingEvents w s with
  | error e t => exact (hends.of_error hs).elim
  | ok a t =>
    obtain ⟨hle, -, hquiet⟩ := hends.of_ok hs
    exact ⟨t, rfl, hkept.of_ok hs, hle, hquiet⟩

theorem Named.withHolder {s : ClientState} (h : Named s) {holder : Holder}
    (hh : holder.AddsFor s.network) : Named { s with holder := holder } :=
  ⟨h.disks, h.drafts.withHolder hh⟩

/-- A section that ends in a holder that adds to no draft. -/
theorem named_holder {x : ClientM Holder} {s : ClientState}
    (h : Ends x s (fun _ t => Named t) fun _ t => Named t)
    (hh : Ends x s (fun holder _ => ∀ network, holder.AddsFor network) fun _ _ => True) :
    Named (x.toHolder s) :=
  toHolder_of_ends ((Ends.and h hh).mono (fun _ _ ht => ht.1.withHolder (ht.2 _))
    fun _ _ ht => ht.1.withHolder trivial)

theorem named_deleteDisk (paths : PathApi) {s : ClientState} (h : Named s) (w : Answers)
    (localDiskId : String) :
    Ends (deleteDisk w localDiskId) s (fun _ t => Named t) fun _ t => Named t := by
  obtain ⟨t, ht, hnamed, -⟩ := sync_ok paths h w
  exact (Ends.and (ends_deleteDisk ht hnamed.disks localDiskId)
    (drafts_deleteDisk w localDiskId s)).mono (fun _ _ hu => ⟨hu.1.1, h.drafts.sink hu.2⟩)
      fun _ _ hu => ⟨hu.1.1, h.drafts.sink hu.2⟩

theorem submitNetworkDraft_addsFor (w : Answers) (draftId : String) (s : ClientState) :
    Ends (submitNetworkDraft w draftId) s (fun holder _ => ∀ network, holder.AddsFor network)
      fun _ _ => True := by
  refine ends_value (fun _ => ends_value fun s => ?_) s
  cases s.network.draft draftId with
  | none => exact fun _ => trivial
  | some draft =>
    refine ends_value fun _ => ends_value fun _ => ends_value fun ids => ends_value fun saved => ?_
    cases saved with
    | ok _ => exact fun _ _ => trivial
    | error e => exact ends_value fun _ _ => trivial

theorem named_submitNetworkDraft (paths : PathApi) {s : ClientState} (h : Named s) (w : Answers)
    (draftId : String) :
    Ends (submitNetworkDraft w draftId) s (fun _ t => Named t) fun _ t => Named t := by
  obtain ⟨t, ht, hnamed, -⟩ := sync_ok paths h w
  refine ends_bind_of_ok ht ((Ends.and (ids_submitDraft hnamed.disks w draftId)
    (drafts_submitDraft w draftId t)).mono (fun _ _ hu => ?_) fun _ _ hu => ?_)
  · exact ⟨hu.1, hnamed.drafts.sink hu.2⟩
  · exact ⟨hu.1, hnamed.drafts.sink hu.2⟩

theorem finishSubmit_addsFor (draftId : String) (s : ClientState) :
    Ends (finishSubmit draftId) s (fun holder _ => ∀ network, holder.AddsFor network)
      fun _ _ => True := by
  refine ends_value (fun s => ?_) s
  cases s.network.draft draftId with
  | none => exact fun _ => trivial
  | some draft =>
    refine ends_value fun _ => ?_
    cases startRescan (collectNetworkRescanPlans s.store.runtimes) with
    | none => exact fun _ _ => trivial
    | some rescan => exact fun _ _ => trivial

theorem Named.of_sink {s s' : ClientState} (h : Named s) (hids : IdsInv s')
    (hdrafts : DraftsSink s s') : Named s' :=
  ⟨hids, h.drafts.sink hdrafts⟩

theorem ids_observeTask (rescan : Rescan) (answer : GatewayAnswer) :
    Keeps KeepsIds (observeTask rescan answer) := fun s =>
  (observeTask_spec rescan answer s).mono (fun _ _ ht => ht.1.keepsIds) fun _ _ ht => ht.keepsIds

theorem named_beginCommit {s : ClientState} (h : Named s) (background : Bool) (rescan : Rescan) :
    Named ((beginCommit background rescan).toHolder s) :=
  named_holder (h.of_sections
      (Keeps.bind (ids_of_same (same_commitSessions _)) fun _ => keeps_pure _)
      (Keeps.bind (drafts_commitSessions _) fun _ => keeps_pure _))
    (ends_value (fun _ _ => ends_of_ok (run_pure _) fun _ => trivial) s)

/-- **Step lemma.** -/
theorem step_named {s s' : ClientState} {a : Action} (h : Named s)
    (hs : step paths s a = some s') : Named s' := by
  cases a with
  | createMemoryDisk w request =>
    exact command_of_ends (h.of_ends
      (ids_of_creation (fun _ h => endsCreation_createMemoryDisk h request) h.disks)
      (drafts_createMemoryDisk w request)) hs
  | createFileDisk w request =>
    exact command_of_ends (h.of_ends
      (ids_of_creation (fun _ h => endsCreation_createFileDisk h request id id) h.disks)
      (drafts_createFileDisk w request)) hs
  | createNewFileDisk w files request =>
    exact command_of_ends (h.of_ends
      (ids_of_creation (fun _ h => endsCreation_createNewFileDisk h files request) h.disks)
      (drafts_createNewFileDisk w files request)) hs
  | updateDisk w request =>
    exact command_of_ends (h.of_sections (ids_of_keepsCatalog
      (@keepsCatalog_updateDisk paths w request)) (drafts_updateDisk w request)) hs
  | mountDisk w localDiskId =>
    exact command_of_ends (h.of_sections (ids_of_keepsCatalog
      (@keepsCatalog_mountDisk paths w localDiskId)) (drafts_mountDisk w localDiskId)) hs
  | ejectDisk w localDiskId =>
    exact command_of_ends (h.of_sections (ids_of_keepsCatalog
      (@keepsCatalog_ejectDisk paths w localDiskId)) (drafts_ejectDisk w localDiskId)) hs
  | deleteDisk w localDiskId => exact command_of_ends (named_deleteDisk paths h w localDiskId) hs
  | undoDeleteDisk w deletionId =>
    exact command_of_ends (h.of_ends (ids_undoDeleteDisk h.disks w deletionId)
      (drafts_undoDeleteDisk w deletionId)) hs
  | commitDeletedDisk deletionId =>
    exact command_of_ends (h.of_sections (ids_commitDeletedDisk deletionId)
      (drafts_commitDeletedDisk deletionId)) hs
  | restoreClientState w config =>
    exact command_of_ends (h.of_sections (ids_restoreClientState w config)
      (drafts_restoreClientState w config)) hs
  | sync w =>
    exact command_of_ends (h.of_sections (ids_of_keepsCatalog
      (@keepsCatalog_syncPendingEvents paths w)) (drafts_syncPendingEvents w)) hs
  | watch w broken =>
    exact command_of_ends (h.of_sections
      (Keeps.bind (ids_of_keepsCatalog (@keepsCatalog_syncBackendState paths w broken))
        fun _ => ids_of_keepsCatalog (@keepsCatalog_syncPendingEvents paths w))
      (Keeps.bind (drafts_syncBackendState w broken) fun _ => drafts_syncPendingEvents w)) hs
  | createNetworkDraft serverAddr connection =>
    obtain rfl := Option.some.inj hs
    exact final_of_ends ((Ends.and (ids_of_same (same_createNetworkDraft serverAddr connection) s)
      (ends_createNetworkDraft h.drafts serverAddr connection)).mono
        (fun _ _ ht => ⟨ht.1 h.disks, ht.2⟩) fun _ _ ht => ⟨ht.1 h.disks, ht.2⟩)
  | removeNetworkDraftItem draftId remoteDiskId =>
    obtain rfl := Option.some.inj hs
    exact final_of_ends (h.of_sections
      (ids_of_same (same_removeNetworkDraftItem draftId remoteDiskId))
      (drafts_removeNetworkDraftItem draftId remoteDiskId))
  | disposeNetworkDraft draftId =>
    obtain rfl := Option.some.inj hs
    exact final_of_ends (h.of_sections (ids_of_same (same_disposeNetworkDraft draftId))
      (drafts_disposeNetworkDraft draftId))
  | addNetworkDraftItem w draftId diskName claimCode =>
    obtain ⟨-, rfl⟩ := withCatalog_cases hs
    have hids : Keeps KeepsIds (addNetworkDraftItem w draftId diskName claimCode) := by
      refine Keeps.bind (ids_of_keepsCatalog (@keepsCatalog_syncPendingEvents paths w)) fun _ =>
        Keeps.bind (ids_of_same (same_failWhen _ _)) fun _ => Keeps.bind keeps_get fun s => ?_
      cases s.network.draft draftId with
      | none => exact keeps_throw _
      | some draft => exact keeps_pure _
    exact toHolder_of_ends ((Ends.and (hids s)
      (ends_addNetworkDraftItem h.drafts w draftId diskName claimCode)).mono
        (fun _ _ ht => ⟨ht.1 h.disks, ht.2⟩) fun _ _ ht => ⟨ht.1 h.disks, ht.2⟩)
  | continueAdd answer =>
    obtain ⟨_, _, _, _, _, _, hholder, rfl⟩ := step_cases hs
    exact toHolder_of_ends ((Ends.and (ids_of_same (same_continueAdd _ _ _ _ _ _ _) s)
      (ends_continueAdd h.drafts hholder answer)).mono
        (fun _ _ ht => ⟨ht.1 h.disks, ht.2⟩) fun _ _ ht => ⟨ht.1 h.disks, ht.2⟩)
  | submitNetworkDraft w draftId =>
    obtain ⟨-, rfl⟩ := withCatalog_cases hs
    exact named_holder (named_submitNetworkDraft paths h w draftId)
      (submitNetworkDraft_addsFor w draftId s)
  | finishSubmit =>
    obtain ⟨draft, -, rfl⟩ := step_cases hs
    exact named_holder (h.of_sections (ids_of_same (same_finishSubmit _)) (drafts_finishSubmit _))
      (finishSubmit_addsFor _ s)
  | startRescan w =>
    have hends := h.of_sections (@ids_startRuntimeRescan paths w) (drafts_startRuntimeRescan w)
    obtain ⟨-, ⟨rescan, t, hx, rfl⟩ | ⟨e, hx⟩⟩ := step_cases hs
    · have ht := hends.of_ok hx
      exact ht.of_sink ht.disks (draftsSink_of_same rfl rfl rfl)
    · exact hends.of_error hx
  | rescan answer =>
    obtain ⟨rescan, -, hx⟩ := step_cases hs
    have hends := h.of_sections (ids_observeTask rescan answer) (drafts_observeTask rescan answer)
    obtain ⟨rescan', t, hx, rfl⟩ | ⟨e, hx⟩ := hx
    · have ht := hends.of_ok hx
      exact ht.of_sink ht.disks (draftsSink_of_same rfl rfl rfl)
    · exact hends.of_error hx
  | beginCommit =>
    obtain ⟨rescan, -, -, -, rfl⟩ := step_cases hs
    have hnone : Named { s with rescan := none } :=
      h.of_sink h.disks (draftsSink_of_same rfl rfl rfl)
    exact named_beginCommit hnone true rescan
  | submitRescan answer =>
    obtain ⟨rescan, -, rfl⟩ := step_cases hs
    refine named_holder (h.of_sections
      (Keeps.bind (ids_observeTask rescan answer) fun _ => keeps_pure _)
      (Keeps.bind (drafts_observeTask rescan answer) fun _ => keeps_pure _))
      (ends_value (fun _ _ => ends_of_ok (run_pure _) fun _ => trivial) s)
  | submitBeginCommit =>
    obtain ⟨rescan, -, -, rfl⟩ := step_cases hs
    exact named_beginCommit h false rescan
  | finishCommit w =>
    obtain ⟨background, opened, actions, plans, -, rfl⟩ := step_cases hs
    have hcommitted := final_of_ends (h.of_sections (ids_commitRuntimes w opened actions)
      (drafts_commitRuntimes w opened actions))
    unfold afterCommit
    split
    · have hsaved := hcommitted.of_sink (hcommitted.disks.saveConfig w)
        (draftsSink_of_same rfl rfl rfl)
      have hfree := hsaved.withHolder (show Holder.free.AddsFor _ from trivial)
      exact hfree.of_sink hfree.disks (draftsSink_of_same rfl rfl rfl)
    · refine hcommitted.withHolder ?_
      cases startRescan plans with
      | none => trivial
      | some rescan => trivial
  | raise event | invalidate localDiskId | deactivate connection sessionId | terminate handle |
    loseDisks =>
    obtain rfl := Option.some.inj hs
    exact h.of_sink h.disks (draftsSink_of_same rfl rfl rfl)
  | rehash openedSessions =>
    obtain ⟨-, rfl⟩ := step_cases hs
    exact h.of_sink h.disks (draftsSink_of_same rfl rfl rfl)

theorem named_init : Named {} where
  disks := ⟨List.nodup_nil, fun _ h => nomatch h⟩
  drafts := ⟨List.nodup_nil, fun _ h => (nomatch h), fun _ h => (nomatch h), trivial⟩

/-- **Every run** of the client keeps the ids in order. -/
theorem named_run {s : ClientState} {as : List Action}
    (hrun : runFrom (step paths) {} as = some s) : Named s :=
  run_inv (fun _ _ _ => step_named) named_init hrun

end YumeDisk.TauriClient
