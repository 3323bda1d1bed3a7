import YumeDisk.TauriClient.Submission

/-!
# The catalog commands, all or nothing

A command that changes the catalog saves the configuration last, and takes its change back by hand
when that fails.  Here is when this leaves nothing behind.

* `CatalogCommand.run`: a command from its start to its result, with the steps beside it.
* `AllOrNothing`: after an error the stores are what they were, and after a success they are what
  the configuration says.
* `run_reaches`: a command is a run of the client.
* `allOrNothing_iff`: **the commands are all or nothing exactly when** `CatalogCommand.AtomicWhen`.
  `deleteDisk_leaves_ejected`: a deletion that fails with the disk ejected.
-/

namespace YumeDisk.TauriClient

open YumeDisk.Lib

variable {paths : PathApi}

/-! ## Runs of commands -/

/-- What a section returns, unless it panics. -/
def ClientM.returns {α : Type} (x : ClientM α) (s : ClientState) :
    Option (Except ApiError α × ClientState) :=
  match x s with
  | .ok a t => some (.ok a, t)
  | .error e t => if e = overflowPanic then none else some (.error e, t)

def Action.finishesSubmit : Action → Bool
  | .finishSubmit => true
  | _ => false

/-- The commands that save the configuration. -/
inductive CatalogCommand where
  | createMemoryDisk (w : Answers) (request : CreateMemoryDiskRequest)
  | createFileDisk (w : Answers) (request : CreateFileDiskRequest)
  | createNewFileDisk (w : Answers) (files : NewFileAnswers) (request : CreateNewFileDiskRequest)
  | updateDisk (w : Answers) (request : UpdateDiskRequest)
  | deleteDisk (w : Answers) (localDiskId : String)
  | undoDeleteDisk (w : Answers) (deletionId : String)
  /-- `meanwhile` are the steps between the copy of the draft and its removal. -/
  | submitNetworkDraft (w : Answers) (draftId : String) (meanwhile : List Action)

/-- The result of a command: of a submission the items of the draft that is removed. -/
abbrev CommandResult := Except ApiError (List NetworkDraftItem) × ClientState

/-- A command that is one section. -/
def runSection (s : ClientState) (x : ClientM Unit) : Option CommandResult :=
  if s.holder = .free then
    ClientM.returns (do
      x
      return []) s
  else
    none

/-- `submit_network_draft` up to the rescan that it ends with, which returns no error. -/
def runSubmission (paths : PathApi) (s : ClientState) (w : Answers) (draftId : String)
    (meanwhile : List Action) : Option CommandResult :=
  if s.holder = .free ∧ meanwhile.all (!·.finishesSubmit) then
    match (submitNetworkDraft w draftId).returns s with
    | none => none
    | some (.error e, t) => some (.error e, t)
    | some (.ok holder, t) =>
      match runFrom (step paths) { t with holder := holder } meanwhile with
      | none => none
      | some u =>
        ClientM.returns (do
          let _ ← finishSubmit draftId
          return u.draftItems draftId) u
  else
    none

namespace CatalogCommand

def run (paths : PathApi) (s : ClientState) : CatalogCommand → Option CommandResult
  | .createMemoryDisk w request => runSection s (TauriClient.createMemoryDisk w request)
  | .createFileDisk w request => runSection s (TauriClient.createFileDisk paths w request)
  | .createNewFileDisk w files request =>
    runSection s (TauriClient.createNewFileDisk paths w files request)
  | .updateDisk w request => runSection s (TauriClient.updateDisk w request)
  | .deleteDisk w localDiskId => runSection s (TauriClient.deleteDisk w localDiskId)
  | .undoDeleteDisk w deletionId => runSection s (TauriClient.undoDeleteDisk w deletionId)
  | .submitNetworkDraft w draftId meanwhile => runSubmission paths s w draftId meanwhile

end CatalogCommand

/-- A command that has returned `out` in `s` is all or nothing. -/
def AllOrNothing (s : ClientState) (out : CommandResult) : Prop :=
  match out.1 with
  | .error _ => out.2.stores = s.stores
  | .ok items => Persisted out.2 ∧ ∀ item ∈ items, item.Became out.2

/-! ## When they are -/

/-- The state that the events leave that are queued when a command starts. -/
def ClientState.afterEvents (s : ClientState) (w : Answers) : ClientState :=
  (syncPendingEvents w).final s

/-- The disk is ejected and saved without, or there is nothing to take back: no event has changed
the stores, and a deletion that has come to the save leaves the runtime as it is. -/
def DeletesWhole (w : Answers) (s t : ClientState) (localDiskId : String) : Prop :=
  (∃ r, t.store.findRuntime localDiskId = some r ∧ GivesBack w t r ∧ w.saves = .ok ()) ∨
    Quiet s ∧ ∀ r, t.store.findRuntime localDiskId = some r → GivesBack w t r →
      SavesWhole w t ∧ r.Bare ∧ ∀ opened ∈ t.network.openedSessions, some opened.key ≠ r.networkKey

/-- The deletion goes back where it was: to the end of the list, with an index that is in range. -/
def UndoesWhole (w : Answers) (s : ClientState) (deletionId : String) : Prop :=
  w.saves = .ok () ∨ ∀ pending catalog, s.catalog.takePendingDeletion deletionId =
    some (pending, catalog) → SavesWhole w s ∧ s.catalog.pendingDeletions.getLast? = some pending ∧
      pending.removedRuntime.index ≤ s.store.runtimes.length

/-- The draft is still there after the save, or there is nothing to take back. -/
def SubmitsWhole (w : Answers) (s t : ClientState) (draftId : String) (meanwhile : List Action) :
    Prop :=
  ((∃ draft, DraftAccepted t draftId draft) ∧ w.saves = .ok () ∧
    .disposeNetworkDraft draftId ∉ meanwhile) ∨
    Quiet s ∧ ∀ draft, DraftAccepted t draftId draft → w.saves ≠ .ok () ∧ SavesWhole w t

def CatalogCommand.AtomicWhen (paths : PathApi) (s : ClientState) : CatalogCommand → Prop
  | .createMemoryDisk w request => request.Accepted w → SavesWhole w s
  | .createFileDisk w request => request.Accepted paths s.store → SavesWhole w s
  | .createNewFileDisk w files request => request.Accepted paths s.store files → SavesWhole w s
  | .updateDisk w request => request.Accepted s.store → SavesWhole w s
  | .deleteDisk w localDiskId => DeletesWhole w s (s.afterEvents w) localDiskId
  | .undoDeleteDisk w deletionId => UndoesWhole w s deletionId
  | .submitNetworkDraft w draftId meanwhile =>
    SubmitsWhole w s (s.afterEvents w) draftId meanwhile

/-! ## Sections -/

section Sections

variable {α : Type} {s : ClientState} {w : Answers}

theorem returns_run {x : ClientM α} {out : Except ApiError α × ClientState}
    (hx : x.returns s = some out) :
    (∃ a t, x s = .ok a t ∧ out = (.ok a, t)) ∨
      ∃ e t, x s = .error e t ∧ e ≠ overflowPanic ∧ out = (.error e, t) := by
  unfold ClientM.returns at hx
  cases hs : x s with
  | ok a t =>
    rw [hs] at hx
    exact .inl ⟨a, t, rfl, (Option.some.inj hx).symm⟩
  | error e t =>
    rw [hs] at hx
    dsimp only at hx
    split at hx
    · cases hx
    · rename_i hpanic
      exact .inr ⟨e, t, rfl, hpanic, (Option.some.inj hx).symm⟩

theorem returns_cases {x : ClientM α} {Q : α → ClientState → Prop}
    {E : ApiError → ClientState → Prop} {out : Except ApiError α × ClientState}
    (h : Ends x s Q E) (hx : x.returns s = some out) :
    (∃ a t, out = (.ok a, t) ∧ Q a t) ∨
      ∃ e t, out = (.error e, t) ∧ e ≠ overflowPanic ∧ E e t := by
  rcases returns_run hx with ⟨a, t, hs, rfl⟩ | ⟨e, t, hs, hpanic, rfl⟩
  · exact .inl ⟨a, t, rfl, h.of_ok hs⟩
  · exact .inr ⟨e, t, rfl, hpanic, h.of_error hs⟩

/-- A section is judged at its two ends. -/
theorem allOrNothing_section {x : ClientM Unit} {p : Prop} {out : CommandResult}
    (h : Ends x s (fun _ t => Persisted t ∧ p)
      fun e t => e ≠ overflowPanic → (t.stores = s.stores ↔ p))
    (hc : runSection s x = some out) : AllOrNothing s out ↔ p := by
  unfold runSection at hc
  split at hc
  · have hends : Ends (do
        x
        return [] : ClientM (List NetworkDraftItem)) s
        (fun items t => items = [] ∧ Persisted t ∧ p)
        fun e t => e ≠ overflowPanic → (t.stores = s.stores ↔ p) :=
      Ends.bind h fun _ t ht => ends_of_ok (run_pure _) ⟨rfl, ht⟩
    rcases returns_cases hends hc with ⟨items, t, rfl, rfl, hsaved, hp⟩ | ⟨e, t, rfl, hpanic, he⟩
    · exact iff_of_true ⟨hsaved, nofun⟩ hp
    · exact he hpanic
  · cases hc

theorem Stores.withConfig_eq_iff {b : Stores} {config : Option (List PersistedDiskRecord)} :
    ({ b with config := config } : Stores) = b ↔ config = b.config := by
  cases b
  simp

/-- The stores after a save that fails. -/
theorem stores_saveConfig_error {e : ApiError} (h : w.saves = .error e) (t : ClientState) :
    (t.saveConfig w).stores = { t.stores with config := configAfterFailure w t.config } := by
  unfold ClientState.saveConfig configAfterFailure
  rw [h]
  rfl

theorem stores_saveConfig_eq_iff {e : ApiError} (h : w.saves = .error e) (t : ClientState) :
    (t.saveConfig w).stores = t.stores ↔ SavesWhole w t := by
  rw [stores_saveConfig_error h, Stores.withConfig_eq_iff]
  exact configAfterFailure_eq_iff h t

theorem configAfterFailure_sinks (w : Answers) (config : Option (List PersistedDiskRecord)) :
    configAfterFailure w config = config ∨ configAfterFailure w config = none := by
  unfold configAfterFailure
  split
  · exact .inr rfl
  · exact .inl rfl

theorem stores_saveConfig_le {e : ApiError} (h : w.saves = .error e) (t : ClientState) :
    (t.saveConfig w).stores ≤ t.stores := by
  rw [Stores.le_iff, stores_saveConfig_error h]
  exact ⟨.refl _, (Stores.Sinks.refl t.stores).runtimes, (Stores.Sinks.refl t.stores).drafts, rfl,
    configAfterFailure_sinks w t.config⟩

/-- **Creations.** -/
theorem EndsCreation.atomic {accepted : Prop} {x : ClientM Unit} (h : EndsCreation accepted w x s) :
    Ends x s (fun _ t => Persisted t ∧ (accepted → SavesWhole w s))
      fun e t => e ≠ overflowPanic → (t.stores = s.stores ↔ (accepted → SavesWhole w s)) := by
  refine h.mono (fun _ t ⟨hsaves, _, r, _, ht⟩ => ?_) fun e t ht hpanic => ?_
  · subst ht
    exact ⟨persisted_saveConfig _ hsaves, fun _ => .inl hsaves⟩
  · rcases ht with ⟨hrefused, rfl⟩ | ⟨ha, ⟨e, hsaves⟩, -, rfl⟩
    · exact iff_of_true rfl fun ha => absurd ha (hrefused.resolve_right hpanic)
    · exact (stores_saveConfig_eq_iff hsaves _).trans ⟨fun hw _ => hw, fun hw => hw ha⟩

theorem updateDisk_atomic (w : Answers) (request : UpdateDiskRequest) (s : ClientState) :
    Ends (updateDisk w request) s
      (fun _ t => Persisted t ∧ (request.Accepted s.store → SavesWhole w s))
      fun e t => e ≠ overflowPanic →
        (t.stores = s.stores ↔ (request.Accepted s.store → SavesWhole w s)) := by
  refine (ends_updateDisk w request s).mono (fun _ t ⟨hsaves, store, ht⟩ => ?_) fun e t ht _ => ?_
  · subst ht
    exact ⟨persisted_saveConfig _ hsaves, fun _ => .inl hsaves⟩
  · rcases ht with ⟨hrefused, rfl⟩ | ⟨ha, ⟨e, hsaves⟩, rfl⟩
    · exact iff_of_true rfl fun ha => absurd ha hrefused
    · exact (stores_saveConfig_eq_iff hsaves s).trans ⟨fun hw _ => hw, fun hw => hw ha⟩

end Sections

/-! ## Deletions -/

section Deletion

variable {w : Answers} {s t v : ClientState} {r : DiskRuntime}

theorem Stores.forget_eq_self_iff {b : Stores} :
    b.forget r = b ↔ ∀ opened ∈ b.openedSessions, some opened.key ≠ r.networkKey := by
  unfold forget
  cases b
  simp [List.filter_eq_self]

/-- The runtime that goes back leaves the stores as they were when it is as it was. -/
theorem DeletionUndone.stores_eq_iff (h : DeletionUndone w t r v) :
    v.stores = t.stores ↔ SavesWhole w t ∧ r.Bare ∧
      ∀ opened ∈ t.network.openedSessions, some opened.key ≠ r.networkKey := by
  obtain ⟨⟨e, hsaves⟩, r', rs, rs', hprepared, hsplit, hv⟩ := h
  have hruntime : rs ++ r' :: rs' = t.store.runtimes ↔ r.Bare := by
    rw [hsplit, List.append_cancel_left_eq, List.cons.injEq, and_iff_left rfl]
    exact hprepared.eq_iff
  have hopened := @Stores.forget_eq_self_iff r t.stores
  rw [← configAfterFailure_eq_iff hsaves, ← hruntime, hv]
  simp only [Stores.forget, ClientState.stores, Stores.mk.injEq, true_and, and_true] at hopened ⊢
  rw [hopened]
  tauto

/-- What goes back has sunk. -/
theorem DeletionUndone.stores_le (h : DeletionUndone w t r v) : v.stores ≤ t.stores := by
  obtain ⟨-, r', rs, rs', hprepared, hsplit, hv⟩ := h
  rw [Stores.le_iff, hv]
  refine ⟨List.filter_sublist, fun _ => ?_, List.forall₂_same.mpr fun d _ => .refl d, rfl, ?_⟩
  · show List.Forall₂ _ t.store.runtimes _
    rw [hsplit]
    refine List.rel_append (List.forall₂_same.mpr fun _ _ => .inl rfl)
      (.cons hprepared.sinks (List.forall₂_same.mpr fun _ _ => .inl rfl))
  · exact configAfterFailure_sinks w t.config

/-- Stores that only sink are the same at the end when they were the same in between. -/
theorem stores_eq_iff_of_le (hvt : v.stores ≤ t.stores) (hts : t.stores ≤ s.stores) :
    v.stores = s.stores ↔ t.stores = s.stores ∧ v.stores = t.stores := by
  refine ⟨fun h => ?_, fun ⟨h, h'⟩ => h'.trans h⟩
  have hmid : t.stores = s.stores := le_antisymm hts (h ▸ hvt)
  exact ⟨hmid, h.trans hmid.symm⟩

end Deletion

/-- **The queued events**, which every disk outlives. -/
theorem afterEvents_spec (paths : PathApi) {s : ClientState} (h : Named s) (w : Answers) :
    syncPendingEvents w s = .ok ⟨⟩ (s.afterEvents w) ∧ Named (s.afterEvents w) ∧
      (s.afterEvents w).stores ≤ s.stores ∧ ((s.afterEvents w).stores = s.stores ↔ Quiet s) ∧
      (s.afterEvents w).store.runtimes.length = s.store.runtimes.length := by
  obtain ⟨t, ht, hnamed, hle, hquiet⟩ := sync_ok paths h w
  have hfinal : s.afterEvents w = t := by
    unfold ClientState.afterEvents ClientM.final
    rw [ht]
  have hdemotes := @keepsCatalog_syncPendingEvents paths w s
  unfold Ends at hdemotes
  rw [ht] at hdemotes
  rw [hfinal]
  exact ⟨ht, hnamed, hle, hquiet, by simpa using congrArg List.length hdemotes.runtimes.ids⟩

theorem deleteDisk_atomic (paths : PathApi) {s : ClientState} (h : Named s) (w : Answers)
    (localDiskId : String) :
    Ends (deleteDisk w localDiskId) s
      (fun _ v => Persisted v ∧ DeletesWhole w s (s.afterEvents w) localDiskId)
      fun e v => e ≠ overflowPanic →
        (v.stores = s.stores ↔ DeletesWhole w s (s.afterEvents w) localDiskId) := by
  obtain ⟨hsync, hnamed, hle, hquiet, -⟩ := afterEvents_spec paths h w
  set t := s.afterEvents w
  refine (ends_deleteDisk hsync hnamed.disks localDiskId).mono (fun _ v hv => ?_) fun e v hv _ => ?_
  · obtain ⟨-, hsaves, hpersisted, r, hfind, hgives⟩ := hv
    exact ⟨hpersisted, .inl ⟨r, hfind, hgives, hsaves⟩⟩
  · obtain ⟨-, ⟨hfind, hstores⟩ | ⟨r, hfind, ⟨hgives, hstores⟩ | ⟨hgives, hundone⟩⟩⟩ := hv
    -- nothing has been removed
    · rw [hstores, hquiet]
      refine ⟨fun hq => .inr ⟨hq, fun r hr => ?_⟩, ?_⟩
      · rw [hfind] at hr
        cases hr
      · rintro (⟨r, hr, -⟩ | ⟨hq, -⟩)
        · rw [hfind] at hr
          cases hr
        · exact hq
    -- the driver has kept the disk
    · rw [hstores, hquiet]
      refine ⟨fun hq => .inr ⟨hq, fun r' hr hgives' => ?_⟩, ?_⟩
      · obtain rfl := Option.some.inj (hfind.symm.trans hr)
        exact absurd hgives' hgives
      · rintro (⟨r', hr, hgives', -⟩ | ⟨hq, -⟩)
        · obtain rfl := Option.some.inj (hfind.symm.trans hr)
          exact absurd hgives' hgives
        · exact hq
    -- the save has failed
    · rw [stores_eq_iff_of_le hundone.stores_le hle, hquiet, hundone.stores_eq_iff]
      obtain ⟨e', hsaves⟩ := hundone.1
      constructor
      · refine fun ⟨hq, hwhole⟩ => .inr ⟨hq, fun r' hr _ => ?_⟩
        obtain rfl := Option.some.inj (hfind.symm.trans hr)
        exact hwhole
      · rintro (⟨r', -, -, hsaves'⟩ | ⟨hq, hwhole⟩)
        · rw [hsaves] at hsaves'
          cases hsaves'
        · exact ⟨hq, hwhole r hfind hgives⟩

/-! ## Undoing a deletion -/

/-- The deletion goes back to the end of the list, with the index that its runtime had there. -/
theorem IdsInv.restaged_iff {s : ClientState} (h : IdsInv s) {deletionId : String}
    {pending : PendingDiskDeletion} {before after : List PendingDiskDeletion}
    (ht : Taken s deletionId pending before after) :
    before ++ after ++ [⟨pending.deletionId, ⟨min pending.removedRuntime.index
        s.store.runtimes.length, pending.removedRuntime.runtime⟩⟩] = s.catalog.pendingDeletions ↔
      s.catalog.pendingDeletions.getLast? = some pending ∧
        pending.removedRuntime.index ≤ s.store.runtimes.length := by
  have hnodup := (List.nodup_append.mp h.nodup).2.1
  rw [ht.split, List.map_append, List.map_cons] at hnodup
  have hnew := (List.nodup_cons.mp (List.nodup_append.mp hnodup).2.1).1
  rw [ht.split, List.append_assoc, List.append_cancel_left_eq]
  rcases List.eq_nil_or_concat after with rfl | ⟨init, last, rfl⟩
  · obtain ⟨deletionId', index, runtime⟩ := pending
    simp
  · -- another one is last, and no two of them are of one disk
    have hne : last.removedRuntime.runtime.localDiskId ≠
        pending.removedRuntime.runtime.localDiskId := by
      intro heq
      refine hnew (List.mem_map.mpr ⟨last, by simp, heq⟩)
    refine iff_of_false (fun heq => hne ?_) fun ⟨heq, _⟩ => hne ?_
    · rw [List.concat_eq_append, ← List.cons_append] at heq
      have hlast := (List.append_inj' heq rfl).2
      rw [← (List.cons.inj hlast).1]
    · rw [List.concat_eq_append, ← List.cons_append, ← List.append_assoc,
        List.getLast?_concat] at heq
      rw [Option.some.inj heq]

theorem undoDeleteDisk_atomic {s : ClientState} (h : IdsInv s) (w : Answers) (deletionId : String) :
    Ends (undoDeleteDisk w deletionId) s
      (fun _ t => Persisted t ∧ UndoesWhole w s deletionId)
      fun e t => e ≠ overflowPanic → (t.stores = s.stores ↔ UndoesWhole w s deletionId) := by
  refine (ends_undoDeleteDisk h w deletionId).mono (fun _ t ht => ?_) fun e t ht _ => ?_
  · obtain ⟨hsaves, pending, before, after, -, rfl⟩ := ht
    exact ⟨persisted_saveConfig _ hsaves, .inl hsaves⟩
  · rcases ht with ⟨hnone, rfl⟩ | ⟨⟨e', hsaves⟩, pending, before, after, htaken, rfl⟩
    · refine iff_of_true rfl (.inr fun pending catalog htake => ?_)
      rw [hnone] at htake
      cases htake
    · rw [stores_saveConfig_error hsaves]
      have hconfig := configAfterFailure_eq_iff hsaves s
      simp only [ClientState.stores, Stores.mk.injEq, true_and]
      rw [hconfig, h.restaged_iff htaken]
      constructor
      · rintro ⟨-, hlast, hwhole⟩
        refine .inr fun pending' catalog htake => ?_
        obtain ⟨rfl, -⟩ := Prod.mk.inj (Option.some.inj (htaken.found.symm.trans htake))
        exact ⟨hwhole, hlast⟩
      · rintro (hsaves' | hwhole)
        · rw [hsaves] at hsaves'
          cases hsaves'
        · obtain ⟨hwhole, hlast⟩ := hwhole pending _ htaken.found
          exact ⟨rfl, hlast, hwhole⟩

/-! ## Submissions -/

theorem submissionWaits {s : ClientState} (h : Named s) {draftId : String}
    {draft : NetworkCreateDraft} (ha : DraftAccepted s draftId draft) {t : ClientState}
    (hnetwork : t.network = s.network) :
    draft.draftId = draftId ∧ ItemsOk draft.serverAddr draft.items ∧ HasDraft draft.draftId t ∧
      Submitting draft t t := by
  have hid := List.find?_some ha.found
  have hmem := List.mem_of_find?_eq_some ha.found
  refine ⟨of_decide_eq_true hid, h.drafts.items draft hmem, ⟨draft, hnetwork ▸ hmem, rfl⟩,
    Std.Refl.refl t, hnetwork ▸ h.drafts.numbered draft hmem, fun d hd hdid => ?_⟩
  rw [draft_unique h.drafts.apart (hnetwork ▸ hd) hmem hdid]
  exact .refl draft

theorem length_draftRuntimes (serverAddr : String) : ∀ (number : Nat)
    (items : List NetworkDraftItem), (draftRuntimes serverAddr number items).length = items.length
  | _, [] => rfl
  | number, _ :: items => congrArg (· + 1) (length_draftRuntimes serverAddr (number + 1) items)

theorem not_finishSubmit_of_all {as : List Action} (h : as.all (!·.finishesSubmit)) :
    ∀ a ∈ as, a ≠ .finishSubmit := by
  rintro a ha rfl
  have hfalse := List.all_eq_true.mp h _ ha
  cases hfalse

/-- The two sections of a submission, of which the second one is not come to after an error. -/
theorem runSubmission_run {s : ClientState} {w : Answers} {draftId : String}
    {meanwhile : List Action} {out : CommandResult}
    (hc : runSubmission paths s w draftId meanwhile = some out) :
    s.holder = .free ∧ (∀ a ∈ meanwhile, a ≠ .finishSubmit) ∧
      ((∃ e t, submitNetworkDraft w draftId s = .error e t ∧ e ≠ overflowPanic ∧
        out = (.error e, t)) ∨
      ∃ holder t u, submitNetworkDraft w draftId s = .ok holder t ∧
        runFrom (step paths) { t with holder := holder } meanwhile = some u ∧
        ClientM.returns (do
          let _ ← finishSubmit draftId
          return u.draftItems draftId) u = some out) := by
  unfold runSubmission at hc
  split at hc
  case isFalse => cases hc
  case isTrue hstart =>
    refine ⟨hstart.1, not_finishSubmit_of_all hstart.2, ?_⟩
    cases hreturns : (submitNetworkDraft w draftId).returns s with
    | none =>
      rw [hreturns] at hc
      cases hc
    | some first =>
      rw [hreturns] at hc
      rcases returns_run hreturns with ⟨holder, t, hs, rfl⟩ | ⟨e, t, hs, hpanic, rfl⟩
      · dsimp only at hc
        split at hc
        case h_1 => cases hc
        case h_2 u hrun => exact .inr ⟨holder, t, u, hs, hrun, hc⟩
      · exact .inl ⟨e, t, hs, hpanic, (Option.some.inj hc).symm⟩

/-- What a submission returns when it is resumed in `v`. -/
theorem finish_cases {u t v : ClientState} {draft : NetworkCreateDraft} {number : Nat}
    (hitems : ItemsOk draft.serverAddr draft.items)
    (hchecked : checkDraftItems u.store u.network draft draft.items = .ok ())
    (ht : t.store.runtimes =
      u.store.runtimes ++ draftRuntimes draft.serverAddr number draft.items)
    (hv : Submitting draft t v) {out : CommandResult}
    (hc : ClientM.returns (do
      let _ ← finishSubmit draft.draftId
      return v.draftItems draft.draftId) v = some out) :
    (∃ z, out = (.ok (v.draftItems draft.draftId), z) ∧ HasDraft draft.draftId v ∧
      z.catalog = t.catalog ∧ z.config = t.config ∧
      ∀ item ∈ v.draftItems draft.draftId, item.Became z) ∨
      ∃ e, out = (.error e, v) ∧ ¬ HasDraft draft.draftId v := by
  have hends : Ends (do
      let _ ← finishSubmit draft.draftId
      return v.draftItems draft.draftId : ClientM (List NetworkDraftItem)) v
      (fun items z => items = v.draftItems draft.draftId ∧ HasDraft draft.draftId v ∧
        z.catalog = t.catalog ∧ z.config = t.config ∧
        ∀ item ∈ v.draftItems draft.draftId, item.Became z)
      fun _ z => ¬ HasDraft draft.draftId v ∧ z = v :=
    Ends.bind (finishSubmit_submitted hitems hchecked ht hv) fun _ _ hz =>
      ends_of_ok (run_pure _) ⟨rfl, hz⟩
  rcases returns_cases hends hc with ⟨items, z, rfl, rfl, hz⟩ | ⟨e, z, rfl, -, hgone, rfl⟩
  · exact .inl ⟨z, rfl, hz⟩
  · exact .inr ⟨e, rfl, hgone⟩

theorem allOrNothing_submission {s : ClientState} (h : Named s) (w : Answers) (draftId : String)
    (meanwhile : List Action) {out : CommandResult}
    (hc : runSubmission paths s w draftId meanwhile = some out) :
    AllOrNothing s out ↔ SubmitsWhole w s (s.afterEvents w) draftId meanwhile := by
  obtain ⟨hsync, hnamed, hle, hquiet, hlength⟩ := afterEvents_spec paths h w
  set t := s.afterEvents w
  have hends : Ends (submitNetworkDraft w draftId) s _ _ :=
    ends_bind_of_ok hsync (ends_submitDraft hnamed.disks w draftId)
  obtain ⟨-, hmeanwhile, ⟨e, u, hs, hpanic, rfl⟩ | ⟨holder, u, v, hs, hrun, hfinish⟩⟩ :=
    runSubmission_run hc
  · rcases hends.of_error hs with
      ⟨hnone, rfl⟩ | ⟨draft, ha, ⟨hpanic', -⟩ | ⟨-, ⟨e', hsaves⟩, rfl⟩⟩
    · show t.stores = s.stores ↔ _
      rw [hquiet]
      refine ⟨fun hq => .inr ⟨hq, fun draft ha => absurd ha (hnone draft)⟩, ?_⟩
      rintro (⟨⟨draft, ha⟩, -⟩ | ⟨hq, -⟩)
      · exact absurd ha (hnone draft)
      · exact hq
    · exact absurd hpanic' hpanic
    · -- the disks are taken out again
      let u : ClientState := t.setStore { t.store with
        nextDiskNumber := t.store.nextDiskNumber + draft.items.length }
      show (u.saveConfig w).stores = s.stores ↔ _
      rw [@stores_eq_iff_of_le s t _ (stores_saveConfig_le hsaves u) hle, hquiet]
      refine (and_congr_right fun _ => stores_saveConfig_eq_iff hsaves u).trans ?_
      constructor
      · exact fun ⟨hq, hwhole⟩ => .inr ⟨hq, fun _ _ => ⟨by rw [hsaves]; nofun, hwhole⟩⟩
      · rintro (⟨-, hsaves', -⟩ | ⟨hq, hwhole⟩)
        · rw [hsaves] at hsaves'
          cases hsaves'
        · exact ⟨hq, (hwhole draft ha).2⟩
  · -- the disks are saved, and what is left of the draft goes
    obtain ⟨draft, ha, -, hsaves, rfl, rfl⟩ := hends.of_ok hs
    obtain ⟨rfl, hitems, hhas, hsubmitting⟩ := submissionWaits hnamed ha
      (t := { (t.withRuntimes draft.serverAddr draft.items).saveConfig w with
        holder := .submitting draft }) rfl
    obtain ⟨hv, hiff⟩ := submitting_run rfl hsubmitting hhas hmeanwhile hrun
    rcases @finish_cases t _ v draft t.store.nextDiskNumber hitems ha.checked rfl hv _ hfinish with
      ⟨z, rfl, hhas', hcatalog, hconfig, hbecame⟩ | ⟨e, rfl, hgone⟩
    · refine iff_of_true ⟨?_, hbecame⟩ (.inl ⟨⟨draft, ha⟩, hsaves, hiff.mp hhas'⟩)
      have hpersisted := persisted_saveConfig
        (t.withRuntimes draft.serverAddr draft.items) hsaves
      unfold Persisted ClientState.store
      rw [hconfig, hcatalog]
      exact hpersisted
    · refine iff_of_false (fun heq => ?_) ?_
      · -- the disks of the draft are still in the store
        have hnew : v.store.runtimes.length = s.store.runtimes.length :=
          congrArg (fun b : Stores => b.runtimes.length) heq
        have hcatalog := congrArg (·.runtimeStore.runtimes.length) hv.aside.catalog
        have hall : v.store.runtimes.length = (t.store.runtimes ++
          draftRuntimes draft.serverAddr t.store.nextDiskNumber draft.items).length := hcatalog
        rw [List.length_append, length_draftRuntimes] at hall
        have hpos := List.length_pos_iff.mpr ha.nonempty
        omega
      · rintro (⟨-, -, hnot⟩ | ⟨-, hwhole⟩)
        · exact hgone (hiff.mpr hnot)
        · exact (hwhole draft ha).1 hsaves

/-! ## Commands as runs -/

theorem returns_final {α β : Type} {s : ClientState} {x : ClientM α} {b : β}
    {out : Except ApiError β × ClientState} (hx : ClientM.returns (do
      let _ ← x
      return b) s = some out) : out.2 = x.final s := by
  unfold ClientM.final
  cases hs : x s with
  | ok a t =>
    unfold ClientM.returns at hx
    rw [bind_ok hs] at hx
    exact congrArg Prod.snd (Option.some.inj hx).symm
  | error e t =>
    unfold ClientM.returns at hx
    rw [bind_error hs] at hx
    dsimp only at hx
    split at hx
    · cases hx
    · exact congrArg Prod.snd (Option.some.inj hx).symm

theorem toHolder_final (x : ClientM Holder) (s : ClientState) :
    ∃ holder, x.toHolder s = { x.final s with holder := holder } := by
  unfold ClientM.toHolder ClientM.final
  cases x s with
  | ok holder t => exact ⟨holder, rfl⟩
  | error e t => exact ⟨.free, rfl⟩

theorem runSection_final {s : ClientState} {x : ClientM Unit} {out : CommandResult}
    (hc : runSection s x = some out) : command s x = some out.2 := by
  unfold runSection at hc
  unfold command
  split at hc
  · rename_i hfree
    rw [if_pos hfree, returns_final hc]
  · cases hc

theorem runSubmission_reaches {s : ClientState} (h : Named s) {w : Answers} {draftId : String}
    {meanwhile : List Action} {out : CommandResult}
    (hc : runSubmission paths s w draftId meanwhile = some out) :
    ∃ as holder, runFrom (step paths) s as = some { out.2 with holder := holder } := by
  obtain ⟨hsync, hnamed, -⟩ := afterEvents_spec paths h w
  set t := s.afterEvents w
  have hends : Ends (submitNetworkDraft w draftId) s _ _ :=
    ends_bind_of_ok hsync (ends_submitDraft hnamed.disks w draftId)
  obtain ⟨hfree, hmeanwhile, ⟨e, u, hs, -, rfl⟩ | ⟨holder, u, v, hs, hrun, hfinish⟩⟩ :=
    runSubmission_run hc
  · refine ⟨[.submitNetworkDraft w draftId], .free, ?_⟩
    simp [runFrom, step, withCatalog, hfree, ClientM.toHolder, hs]
  · have hstart : step paths s (.submitNetworkDraft w draftId) =
        some { u with holder := holder } := by
      simp [step, withCatalog, hfree, ClientM.toHolder, hs]
    obtain ⟨draft, ha, -, -, rfl, rfl⟩ := hends.of_ok hs
    obtain ⟨rfl, -, hhas, hsubmitting⟩ := submissionWaits hnamed ha
      (t := { (t.withRuntimes draft.serverAddr draft.items).saveConfig w with
        holder := .submitting draft }) rfl
    obtain ⟨hv, -⟩ := submitting_run rfl hsubmitting hhas hmeanwhile hrun
    have hwaits : v.holder = .submitting draft := hv.aside.holder
    obtain ⟨holder, hend⟩ := toHolder_final (finishSubmit draft.draftId) v
    have hlast : step paths v .finishSubmit = some { out.2 with holder := holder } := by
      rw [returns_final hfinish, ← hend]
      simp only [step, hwaits]
    refine ⟨.submitNetworkDraft w draft.draftId :: (meanwhile ++ [.finishSubmit]), holder, ?_⟩
    unfold runFrom
    rw [hstart]
    dsimp only
    rw [runFrom_append, hrun]
    show runFrom (step paths) v [.finishSubmit] = _
    unfold runFrom
    rw [hlast]
    rfl

/-- **A command is a run** of the client, up to who holds the catalog at its end. -/
theorem run_reaches {s : ClientState} (h : Named s) {command : CatalogCommand}
    {out : CommandResult} (hc : command.run paths s = some out) :
    ∃ as holder, runFrom (step paths) s as = some { out.2 with holder := holder } := by
  have hsection : ∀ (a : Action) (x : ClientM Unit), step paths s a = TauriClient.command s x →
      runSection s x = some out →
        ∃ as holder, runFrom (step paths) s as = some { out.2 with holder := holder } := by
    intro a x ha hx
    refine ⟨[a], out.2.holder, ?_⟩
    unfold runFrom
    rw [ha, runSection_final hx]
    rfl
  cases command with
  | createMemoryDisk w request => exact hsection (.createMemoryDisk w request) _ rfl hc
  | createFileDisk w request => exact hsection (.createFileDisk w request) _ rfl hc
  | createNewFileDisk w files request =>
    exact hsection (.createNewFileDisk w files request) _ rfl hc
  | updateDisk w request => exact hsection (.updateDisk w request) _ rfl hc
  | deleteDisk w localDiskId => exact hsection (.deleteDisk w localDiskId) _ rfl hc
  | undoDeleteDisk w deletionId => exact hsection (.undoDeleteDisk w deletionId) _ rfl hc
  | submitNetworkDraft w draftId meanwhile => exact runSubmission_reaches h hc

/-- **The commands that save the configuration are all or nothing exactly when** this is said of
the state that they start in. -/
theorem allOrNothing_iff {s : ClientState} {as : List Action}
    (hrun : runFrom (step paths) {} as = some s) {command : CatalogCommand} {out : CommandResult}
    (hc : command.run paths s = some out) :
    AllOrNothing s out ↔ command.AtomicWhen paths s := by
  have h := named_run hrun
  cases command with
  | createMemoryDisk w request =>
    exact allOrNothing_section (endsCreation_createMemoryDisk h.disks request).atomic hc
  | createFileDisk w request =>
    exact allOrNothing_section (endsCreation_createFileDisk h.disks request id id).atomic hc
  | createNewFileDisk w files request =>
    exact allOrNothing_section (endsCreation_createNewFileDisk h.disks files request).atomic hc
  | updateDisk w request => exact allOrNothing_section (updateDisk_atomic w request s) hc
  | deleteDisk w localDiskId =>
    exact allOrNothing_section (deleteDisk_atomic paths h w localDiskId) hc
  | undoDeleteDisk w deletionId =>
    exact allOrNothing_section (undoDeleteDisk_atomic h.disks w deletionId) hc
  | submitNetworkDraft w draftId meanwhile => exact allOrNothing_submission h w draftId meanwhile hc

/-- A disk of one MiB in memory. -/
def oneMib : CreateMemoryDiskRequest := ⟨"memory", 1, .auto, false⟩

/-- The configuration cannot be written; its file stays as it is. -/
def unsaved : Answers where
  saves := .error ⟨"client-config-write-failed", "", none⟩

/-- A disk that is created and mounted. -/
def mountedDisk : List Action :=
  [.createMemoryDisk {} oneMib, .mountDisk { creates := .ok 3 } "disk-1"]

/-- Two disks, one of them mounted and the other one deleted. -/
def deletedDisk : List Action :=
  mountedDisk ++ [.createMemoryDisk {} { oneMib with diskName := "second" }, .deleteDisk {} "disk-2"]

/-- The deletion cannot be undone and saved, but it is the last one; the mounted disk is deleted. -/
def undoFails (s : ClientState) : Bool :=
  ((CatalogCommand.undoDeleteDisk unsaved "deletion-1").run plainPaths s).any (fun out =>
      !out.1.toBool) &&
    (s.catalog.takePendingDeletion "deletion-1").any (fun taken =>
      decide (s.catalog.pendingDeletions.getLast? = some taken.1 ∧
        taken.1.removedRuntime.index ≤ s.store.runtimes.length)) &&
    ((CatalogCommand.deleteDisk {} "disk-1").run plainPaths s).any (fun out => out.1.toBool) &&
    ((s.afterEvents {}).store.findRuntime "disk-1").any (fun r =>
      decide (∀ targetId ∈ r.mountedTargetId, ((s.afterEvents {}).backend.find? targetId).isSome))

/-- The deletion that is not undone goes back where it was. -/
theorem failedUndo_allOrNothing :
    ∃ s, runFrom (step plainPaths) {} deletedDisk = some s ∧
      (∃ out, (CatalogCommand.undoDeleteDisk unsaved "deletion-1").run plainPaths s = some out ∧
        out.1.toBool = false ∧ AllOrNothing s out) ∧
      ∃ out, (CatalogCommand.deleteDisk {} "disk-1").run plainPaths s = some out ∧
        out.1.toBool = true ∧ AllOrNothing s out := by
  obtain ⟨s, hs, h⟩ := exists_run (step plainPaths) {} deletedDisk undoFails (by decide +kernel)
  simp only [undoFails, Bool.and_eq_true, Option.any_eq_true] at h
  obtain ⟨⟨⟨⟨undone, hundone, hfail⟩, taken, htaken, hplace⟩, deleted, hdeleted, hdone⟩, r, hr,
    hback⟩ := h
  obtain ⟨hlast, hindex⟩ := of_decide_eq_true hplace
  refine ⟨s, hs, ⟨undone, hundone, by simpa using hfail, ?_⟩, deleted, hdeleted, hdone, ?_⟩
  · refine (allOrNothing_iff hs hundone).mpr (.inr fun pending catalog heq => ?_)
    obtain rfl := Option.some.inj (htaken.symm.trans heq)
    exact ⟨.inr (.inl rfl), hlast, hindex⟩
  · exact (allOrNothing_iff hs hdeleted).mpr
      (.inl ⟨r, hr, fun targetId hmem => ⟨of_decide_eq_true hback targetId hmem, rfl⟩, rfl⟩)

/-- A deletion that cannot be saved leaves the disk ejected. -/
theorem deleteDisk_leaves_ejected :
    ∃ s out, runFrom (step plainPaths) {} mountedDisk = some s ∧
      (CatalogCommand.deleteDisk unsaved "disk-1").run plainPaths s = some out ∧
      ¬ AllOrNothing s out := by
  have h : ((runFrom (step plainPaths) {} mountedDisk).bind fun s =>
      ((CatalogCommand.deleteDisk unsaved "disk-1").run plainPaths s).map fun out =>
        (out.1.toBool, decide (out.2.stores = s.stores))) = some (false, false) := by
    decide +kernel
  obtain ⟨s, hs, h⟩ := Option.bind_eq_some_iff.mp h
  obtain ⟨⟨result, t⟩, hout, h⟩ := Option.map_eq_some_iff.mp h
  refine ⟨s, (result, t), hs, hout, fun hall => ?_⟩
  obtain ⟨hresult, hstores⟩ := Prod.mk.inj h
  cases result with
  | ok items => cases hresult
  | error e => exact of_decide_eq_false hstores hall

end YumeDisk.TauriClient
