import Mathlib.Data.String.Basic
import YumeDisk.TauriClient.CommandEffects

/-!
# The drafts, in every run

No two drafts have one id, the items of a draft are of different disks of its server, and an
addition that waits for the server is to the draft that it was started for.

* `DraftsInv`: the drafts of a state are in order.
* `DraftsSink`: a section writes nothing of the drafts, or takes drafts or items away.  All of them
  do so but for the creation of a draft and the addition of an item.
* `DraftsInv.sink`, `DraftsInv.insertDraft`, `DraftsInv.insertItem`: what keeps the drafts in order.
-/

namespace YumeDisk.TauriClient

open YumeDisk.Lib

variable {paths : PathApi}

/-! ## Drafts -/

/-- The items of a draft for the server: in the order of their remote ids, which are different. -/
structure ItemsOk (serverAddr : String) (items : List NetworkDraftItem) : Prop where
  server : ∀ item ∈ items, item.key.serverAddr = serverAddr
  sorted : items.Pairwise fun x y => x.key.remoteDiskId < y.key.remoteDiskId

theorem ItemsOk.sublist {serverAddr : String} {items items' : List NetworkDraftItem}
    (h : ItemsOk serverAddr items) (hs : items'.Sublist items) : ItemsOk serverAddr items' :=
  ⟨fun item hitem => h.server item (hs.subset hitem), h.sorted.sublist hs⟩

theorem mem_insertSorted {item x : NetworkDraftItem} : ∀ {items : List NetworkDraftItem},
    x ∈ NetworkCreateDraft.insertSorted item items → x = item ∨ x ∈ items
  | [], h => .inl (List.mem_singleton.mp h)
  | y :: items, h => by
    unfold NetworkCreateDraft.insertSorted at h
    split at h
    · exact List.mem_cons.mp h
    · rcases List.mem_cons.mp h with h | h
      · exact .inl h
      · exact .inr (List.mem_cons_of_mem _ h)
    · rcases List.mem_cons.mp h with h | h
      · exact .inr (h ▸ List.mem_cons_self)
      · exact (mem_insertSorted h).imp_right (List.mem_cons_of_mem _)

theorem insertSorted_sorted (item : NetworkDraftItem) : ∀ {items : List NetworkDraftItem},
    items.Pairwise (fun x y => x.key.remoteDiskId < y.key.remoteDiskId) →
      (NetworkCreateDraft.insertSorted item items).Pairwise
        fun x y => x.key.remoteDiskId < y.key.remoteDiskId
  | [], _ => List.pairwise_singleton _ _
  | y :: items, h => by
    obtain ⟨hy, hitems⟩ := List.pairwise_cons.mp h
    unfold NetworkCreateDraft.insertSorted
    cases hcompare : compare item.key.remoteDiskId y.key.remoteDiskId with
    | lt =>
      have hlt : item.key.remoteDiskId < y.key.remoteDiskId :=
        Std.LawfulLTCmp.eq_lt_iff_lt.mp hcompare
      refine List.pairwise_cons.mpr ⟨fun x hx => ?_, h⟩
      rcases List.mem_cons.mp hx with rfl | hx
      · exact hlt
      · exact hlt.trans (hy x hx)
    | eq =>
      have heq : item.key.remoteDiskId = y.key.remoteDiskId :=
        Std.LawfulEqOrd.eq_of_compare hcompare
      exact List.pairwise_cons.mpr ⟨fun x hx => heq ▸ hy x hx, hitems⟩
    | gt =>
      have hgt : y.key.remoteDiskId < item.key.remoteDiskId :=
        Std.LawfulLTCmp.eq_lt_iff_lt.mp (Std.OrientedCmp.gt_iff_lt.mp hcompare)
      refine List.pairwise_cons.mpr ⟨fun x hx => ?_, insertSorted_sorted item hitems⟩
      rcases mem_insertSorted hx with rfl | hx
      · exact hgt
      · exact hy x hx

theorem ItemsOk.insertItem {draft : NetworkCreateDraft} (h : ItemsOk draft.serverAddr draft.items)
    {item : NetworkDraftItem} (hitem : item.key.serverAddr = draft.serverAddr) :
    ItemsOk draft.serverAddr (draft.insertItem item).items := by
  refine ⟨fun x hx => ?_, insertSorted_sorted item h.sorted⟩
  rcases mem_insertSorted hx with rfl | hx
  · exact hitem
  · exact h.server x hx

/-- `allocate_draft_id`. -/
def draftIdOf (number : Nat) : String := "draft-" ++ toString number

theorem draftIdOf_injective {m n : Nat} (h : draftIdOf m = draftIdOf n) : m = n := by
  have hdigits : Nat.toDigits 10 m = Nat.toDigits 10 n := by
    have hlist := congrArg String.toList h
    simpa [draftIdOf] using hlist
  rw [← Nat.ofDigitChars_ten_toDigits (n := m), hdigits, Nat.ofDigitChars_ten_toDigits]

/-- The keys that an addition has found are of its server. -/
def AddStage.For (serverAddr : String) : AddStage → Prop
  | .authenticate => True
  | .openSession key => key.serverAddr = serverAddr
  | .describe key _ => key.serverAddr = serverAddr
  | .insert key _ _ => key.serverAddr = serverAddr

/-- The draft that is added to is for the server that it was for. -/
def Holder.AddsFor (network : NetworkClientState) : Holder → Prop
  | .adding draftId _ _ serverAddr _ stage =>
    (∃ n < network.nextDraftNumber, draftId = draftIdOf n) ∧
      (∀ d ∈ network.drafts, d.draftId = draftId → d.serverAddr = serverAddr) ∧
      stage.For serverAddr
  | _ => True

structure DraftsInv (s : ClientState) : Prop where
  apart : s.stores.DraftsApart
  numbered : ∀ d ∈ s.network.drafts, ∃ n < s.network.nextDraftNumber, d.draftId = draftIdOf n
  items : ∀ d ∈ s.network.drafts, ItemsOk d.serverAddr d.items
  adding : s.holder.AddsFor s.network

/-- What leaves the drafts, or takes them or their items away. -/
structure DraftsSink (s s' : ClientState) : Prop where
  ids : (s'.network.drafts.map (·.draftId)).Sublist (s.network.drafts.map (·.draftId))
  drafts : ∀ d' ∈ s'.network.drafts, ∃ d ∈ s.network.drafts, d.Sinks d'
  nextDraftNumber : s'.network.nextDraftNumber = s.network.nextDraftNumber
  holder : s'.holder = s.holder

theorem DraftsSink.refl (s : ClientState) : DraftsSink s s :=
  ⟨.refl _, fun d hd => ⟨d, hd, .refl d⟩, rfl, rfl⟩

instance : Std.Refl DraftsSink := ⟨DraftsSink.refl⟩

instance : IsTrans ClientState DraftsSink :=
  ⟨fun _ _ _ h h' => ⟨h'.ids.trans h.ids, fun d'' hd'' => by
      obtain ⟨d', hd', hsinks'⟩ := h'.drafts d'' hd''
      obtain ⟨d, hd, hsinks⟩ := h.drafts d' hd'
      exact ⟨d, hd, hsinks.trans _ _ _ hsinks'⟩,
    h'.nextDraftNumber.trans h.nextDraftNumber, h'.holder.trans h.holder⟩⟩

theorem DraftsInv.sink {s s' : ClientState} (h : DraftsInv s) (hs : DraftsSink s s') :
    DraftsInv s' := by
  refine ⟨h.apart.sublist hs.ids, fun d' hd' => ?_, fun d' hd' => ?_, ?_⟩
  · obtain ⟨d, hd, hsinks⟩ := hs.drafts d' hd'
    rw [hs.nextDraftNumber, hsinks.draftId]
    exact h.numbered d hd
  · obtain ⟨d, hd, hsinks⟩ := hs.drafts d' hd'
    rw [hsinks.serverAddr]
    exact (h.items d hd).sublist hsinks.items
  · have hadding := h.adding
    rw [hs.holder]
    cases hholder : s.holder with
    | adding draftId diskName claimCode serverAddr connection stage =>
      rw [hholder] at hadding
      obtain ⟨hnumber, hserver, hstage⟩ := hadding
      refine ⟨hs.nextDraftNumber ▸ hnumber, fun d' hd' hid => ?_, hstage⟩
      obtain ⟨d, hd, hsinks⟩ := hs.drafts d' hd'
      rw [hsinks.serverAddr]
      exact hserver d hd (hsinks.draftId.symm.trans hid)
    | free => trivial
    | submitting draft => trivial
    | rescanning rescan => trivial
    | committing background sessionsToInsert actions plans => trivial

/-- What writes nothing of the drafts. -/
theorem draftsSink_of_same {s s' : ClientState} (hdrafts : s'.network.drafts = s.network.drafts)
    (hnext : s'.network.nextDraftNumber = s.network.nextDraftNumber)
    (hholder : s'.holder = s.holder) : DraftsSink s s' :=
  ⟨hdrafts ▸ .refl _, hdrafts ▸ (DraftsSink.refl s).drafts, hnext, hholder⟩

/-! ## Sections that write nothing of the drafts -/

abbrev KeepsDrafts {α : Type} (x : ClientM α) : Prop := Keeps DraftsSink x

section Keeps

variable {α : Type}

theorem drafts_modifyStore (f : DiskRuntimeStore → DiskRuntimeStore) :
    KeepsDrafts (modifyStore f) :=
  keeps_modify fun _ => draftsSink_of_same rfl rfl rfl

theorem drafts_modifyCatalog (f : DiskCatalogState → DiskCatalogState) :
    KeepsDrafts (modifyCatalog f) :=
  keeps_modify fun _ => draftsSink_of_same rfl rfl rfl

theorem drafts_liftExcept (x : Except ApiError α) : KeepsDrafts (liftExcept x) := by
  cases x with
  | ok a => exact keeps_pure a
  | error e => exact keeps_throw e

theorem drafts_failWhen (p : Prop) [Decidable p] (e : ApiError) : KeepsDrafts (failWhen p e) :=
  keeps_ite (keeps_throw e) (keeps_pure ())

theorem draftsSink_closeSession (s : ClientState) (session : DiskSession) :
    DraftsSink s (s.closeSession session) := by
  unfold ClientState.closeSession
  split <;> exact draftsSink_of_same rfl rfl rfl

theorem draftsSink_closeSessions (sessions : List DiskSession) :
    ∀ s : ClientState, DraftsSink s (s.closeSessions sessions) := by
  induction sessions with
  | nil => exact fun s => DraftsSink.refl s
  | cons x xs ih => exact fun s => IsTrans.trans _ _ _ (draftsSink_closeSession s x) (ih _)

theorem drafts_closeSessionForCleanup (session : DiskSession) :
    KeepsDrafts (closeSessionForCleanup session) :=
  keeps_modify fun s => draftsSink_closeSession s session

theorem drafts_closeSessions (sessions : List DiskSession) :
    KeepsDrafts (modify (·.closeSessions sessions) : ClientM Unit) :=
  keeps_modify (draftsSink_closeSessions sessions)

theorem drafts_ensureUsable (session : DiskSession) : KeepsDrafts (ensureUsable session) :=
  fun s => ends_of_ok (a := (s.sessions.ensureUsable session).1)
    (t := { s with sessions := (s.sessions.ensureUsable session).2 }) rfl
    (draftsSink_of_same rfl rfl rfl)

theorem drafts_saveClientState (w : Answers) : KeepsDrafts (saveClientState w) :=
  Keeps.bind (keeps_modify fun _ => draftsSink_of_same rfl rfl rfl) fun _ => keeps_pure _

theorem drafts_removeManagedDisk (w : Answers) (localDiskId : String) (targetId : Nat) :
    KeepsDrafts (removeManagedDiskWithMedia w localDiskId targetId) := fun s =>
  ends_of_ok (a := (s.backend.remove targetId (w.removes localDiskId)).1)
    (t := { s with backend := (s.backend.remove targetId (w.removes localDiskId)).2 }) rfl
    (draftsSink_of_same rfl rfl rfl)

theorem drafts_tryCreateManagedDisk (w : Answers) (media : Media) :
    KeepsDrafts (tryCreateManagedDisk w media) := by
  unfold tryCreateManagedDisk
  cases w.creates with
  | error text => exact keeps_pure _
  | ok targetId =>
    exact Keeps.bind (keeps_modify fun _ => draftsSink_of_same rfl rfl rfl) fun _ => keeps_pure _

theorem drafts_forRuntimes (f : DiskRuntime → Backend → DiskRuntime × Backend) :
    KeepsDrafts (forRuntimes f) :=
  keeps_modify fun _ => draftsSink_of_same rfl rfl rfl

theorem drafts_forRuntime (localDiskId : String)
    (f : DiskRuntime → Backend → DiskRuntime × Backend) : KeepsDrafts (forRuntime localDiskId f) :=
  keeps_modify fun _ => draftsSink_of_same rfl rfl rfl

theorem drafts_whenSome (o : Option α) {f : α → ClientM Unit} (hf : ∀ a, KeepsDrafts (f a)) :
    KeepsDrafts (whenSome o f) := by
  cases o with
  | none => exact keeps_pure _
  | some a => exact hf a

theorem drafts_forEach {f : α → ClientM Unit} (hf : ∀ a, KeepsDrafts (f a)) :
    ∀ as : List α, KeepsDrafts (forEach f as)
  | [] => keeps_pure _
  | a :: as => Keeps.bind (hf a) fun _ => drafts_forEach hf as

theorem drafts_removeOpenedSession (key : NetworkDiskKey) :
    KeepsDrafts (modifyNetwork (·.removeOpenedSession key)) :=
  keeps_modify fun _ => draftsSink_of_same rfl rfl rfl

end Keeps

theorem drafts_invalidateRuntimeByKey (w : Answers) (key : NetworkDiskKey) (reason : String) :
    KeepsDrafts (invalidateRuntimeByKey w key reason) :=
  Keeps.bind keeps_get fun _ => Keeps.bind (drafts_removeOpenedSession key) fun _ =>
    Keeps.bind (drafts_forRuntimes _) fun _ =>
      drafts_whenSome _ fun opened => drafts_closeSessionForCleanup opened.session

/-- A draft is written back after items of it have been taken. -/
theorem DraftsSink.setDraft {s t : ClientState} (h : DraftsSink s t) {d d' : NetworkCreateDraft}
    (hd : d ∈ s.network.drafts) (hsinks : d.Sinks d') :
    DraftsSink s { t with network := t.network.setDraft d' } := by
  refine ⟨?_, fun x' hx' => ?_, h.nextDraftNumber, h.holder⟩
  · have hids : ((t.network.drafts.map fun x => if x.draftId = d'.draftId then d' else x).map
        (·.draftId)) = t.network.drafts.map (·.draftId) := by
      rw [List.map_map]
      refine List.map_congr_left fun x _ => ?_
      by_cases hx : x.draftId = d'.draftId
      · simp [hx]
      · simp [hx]
    exact hids ▸ h.ids
  · obtain ⟨x, hx, rfl⟩ := List.mem_map.mp hx'
    split
    · exact ⟨d, hd, hsinks⟩
    · exact h.drafts x hx

theorem draftsSink_setDrafts {s : ClientState} : ∀ (ds : List NetworkCreateDraft)
    {t : ClientState}, DraftsSink s t → (∀ d' ∈ ds, ∃ d ∈ s.network.drafts, d.Sinks d') →
      DraftsSink s { t with network := ds.foldl (·.setDraft ·) t.network }
  | [], _, h, _ => h
  | d' :: ds, _, h, hds => by
    obtain ⟨d, hd, hsinks⟩ := hds d' List.mem_cons_self
    exact draftsSink_setDrafts ds (h.setDraft hd hsinks)
      fun x hx => hds x (List.mem_cons_of_mem _ hx)

theorem drafts_removeDraftSessionsBySessionId (serverAddr : String) (sessionId : Nat) :
    KeepsDrafts (removeDraftSessionsBySessionId serverAddr sessionId) := by
  intro s
  refine ends_bind_of_ok (t := s) rfl (ends_bind_of_ok (run_modify _) (ends_of_ok (run_modify _)
    (IsTrans.trans _ _ _ ?_ (draftsSink_closeSessions _ _))))
  have hfold := @List.foldl_map _ _ _ (fun removed : NetworkDraftItem × NetworkCreateDraft =>
    removed.2) NetworkClientState.setDraft
  dsimp only
  rw [← hfold]
  refine draftsSink_setDrafts _ (DraftsSink.refl s) fun d' hd' => ?_
  obtain ⟨removed, hremoved, rfl⟩ := List.mem_map.mp hd'
  obtain ⟨d, hd, hsome⟩ := List.mem_filterMap.mp hremoved
  have hspec := @removeBySessionId_spec d sessionId
  rw [show d.removeBySessionId sessionId = some removed from hsome] at hspec
  obtain ⟨item, -, -, hitems⟩ := hspec
  refine ⟨d, (List.mem_filter.mp hd).1, ?_⟩
  rw [hitems]
  exact ⟨rfl, rfl, rfl, List.filter_sublist⟩

theorem drafts_removeAllDraftSessionsForServer (serverAddr : String) :
    KeepsDrafts (removeAllDraftSessionsForServer serverAddr) := by
  intro s
  refine ends_bind_of_ok (t := s) rfl (ends_bind_of_ok (run_modify _) (ends_of_ok (run_modify _)
    (IsTrans.trans _ _ _ ?_ (draftsSink_closeSessions _ _))))
  have hfold := @List.foldl_map _ _ _ (fun d : NetworkCreateDraft =>
    ({ d with items := [] } : NetworkCreateDraft)) NetworkClientState.setDraft
  dsimp only
  rw [← hfold]
  refine draftsSink_setDrafts _ (DraftsSink.refl s) fun d' hd' => ?_
  obtain ⟨d, hd, rfl⟩ := List.mem_map.mp hd'
  exact ⟨d, (List.mem_filter.mp hd).1, rfl, rfl, rfl, List.nil_sublist _⟩

theorem drafts_applyEvent (w : Answers) (event : NetworkClientEvent) :
    KeepsDrafts (applyEvent w event) := by
  cases event with
  | sessionClosed serverAddr sessionId =>
    exact Keeps.bind keeps_get fun _ => Keeps.bind
      (drafts_whenSome _ fun _ => drafts_invalidateRuntimeByKey w _ _) fun _ =>
        drafts_removeDraftSessionsBySessionId serverAddr sessionId
  | sessionDataChanged serverAddr sessionId => exact keeps_pure _
  | connectionLost serverAddr =>
    exact Keeps.bind keeps_get fun _ => Keeps.bind
      (drafts_forEach (fun _ => drafts_invalidateRuntimeByKey w _ _) _) fun _ =>
        drafts_removeAllDraftSessionsForServer serverAddr

theorem drafts_syncPendingEvents (w : Answers) : KeepsDrafts (syncPendingEvents w) := by
  refine Keeps.bind keeps_get fun _ => Keeps.bind
    (keeps_modify fun _ => draftsSink_of_same rfl rfl rfl) fun _ =>
      Keeps.bind (drafts_forEach (drafts_applyEvent w) _) fun _ => drafts_forEach (fun _ => ?_) _
  exact Keeps.bind keeps_get fun _ => drafts_whenSome _ fun _ =>
    drafts_invalidateRuntimeByKey w _ _

/-! ### Disks -/

theorem drafts_mountNetworkDisk (w : Answers) (localDiskId : String) :
    KeepsDrafts (mountNetworkDisk w localDiskId) := by
  refine Keeps.bind keeps_get fun s => ?_
  cases s.store.findRuntime localDiskId with
  | none => exact keeps_throw _
  | some runtime =>
    dsimp only
    cases runtime.mountedTargetId with
    | some targetId => exact keeps_throw _
    | none =>
    dsimp only
    cases runtime.invalidReason with
    | some reason => exact keeps_throw _
    | none =>
    dsimp only
    cases runtime.networkKey with
    | none => exact keeps_throw _
    | some key =>
    dsimp only
    cases s.network.openedSession key with
    | none => exact Keeps.bind (drafts_modifyStore _) fun _ => keeps_throw _
    | some opened =>
    refine Keeps.bind (drafts_ensureUsable _) fun usable => ?_
    cases usable with
    | false =>
      exact Keeps.bind (drafts_removeOpenedSession key) fun _ =>
        Keeps.bind (drafts_modifyStore _) fun _ => keeps_throw _
    | true =>
      refine Keeps.bind (drafts_liftExcept _) fun media =>
        Keeps.bind (drafts_tryCreateManagedDisk w media) fun created => ?_
      cases created with
      | error text => exact keeps_throw _
      | ok targetId => exact Keeps.bind (drafts_modifyStore _) fun _ => keeps_pure _

theorem drafts_mountLocalDisk (w : Answers) (localDiskId : String) :
    KeepsDrafts (mountLocalDisk w localDiskId) := by
  refine Keeps.bind keeps_get fun s => ?_
  cases s.store.findRuntime localDiskId with
  | none => exact keeps_throw _
  | some runtime =>
    dsimp only
    cases runtime.mountedTargetId with
    | some targetId => exact keeps_throw _
    | none =>
    refine Keeps.bind (drafts_failWhen _ _) fun _ => Keeps.bind (drafts_liftExcept _) fun media =>
      Keeps.bind (drafts_modifyStore _) fun _ =>
        Keeps.bind (drafts_tryCreateManagedDisk w media) fun created => ?_
    cases created with
    | error text => exact Keeps.bind (drafts_modifyStore _) fun _ => keeps_throw _
    | ok targetId => exact Keeps.bind (drafts_modifyStore _) fun _ => keeps_pure _

theorem drafts_mountDisk (w : Answers) (localDiskId : String) :
    KeepsDrafts (mountDisk w localDiskId) := by
  refine Keeps.bind (drafts_syncPendingEvents w) fun _ => Keeps.bind keeps_get fun s => ?_
  cases s.store.findRuntime localDiskId with
  | none => exact keeps_throw _
  | some runtime =>
    dsimp only
    split
    · exact Keeps.bind (drafts_mountNetworkDisk w localDiskId) fun _ => keeps_pure _
    · exact Keeps.bind (drafts_mountLocalDisk w localDiskId) fun _ => keeps_pure _

theorem drafts_ejectNetworkDisk (w : Answers) (localDiskId : String) :
    KeepsDrafts (ejectNetworkDisk w localDiskId) := by
  refine Keeps.bind keeps_get fun s => ?_
  cases s.store.findRuntime localDiskId with
  | none => exact keeps_throw _
  | some runtime =>
    dsimp only
    cases runtime.mountedTargetId with
    | none => exact keeps_throw _
    | some targetId =>
      refine Keeps.bind (drafts_removeManagedDisk w localDiskId targetId) fun removed => ?_
      cases removed with
      | error text => exact keeps_throw _
      | ok media => exact drafts_modifyStore _

theorem drafts_ejectLocalDisk (w : Answers) (localDiskId : String) :
    KeepsDrafts (ejectLocalDisk w localDiskId) := by
  refine Keeps.bind keeps_get fun s => ?_
  cases s.store.findRuntime localDiskId with
  | none => exact keeps_throw _
  | some runtime =>
    dsimp only
    cases runtime.mountedTargetId with
    | none => exact keeps_throw _
    | some targetId =>
      refine Keeps.bind (drafts_removeManagedDisk w localDiskId targetId) fun removed => ?_
      cases removed with
      | error text => exact keeps_throw _
      | ok media => exact drafts_modifyStore _

theorem drafts_ejectDisk (w : Answers) (localDiskId : String) :
    KeepsDrafts (ejectDisk w localDiskId) := by
  refine Keeps.bind (drafts_syncPendingEvents w) fun _ => Keeps.bind keeps_get fun s => ?_
  cases s.store.findRuntime localDiskId with
  | none => exact keeps_throw _
  | some runtime =>
    exact keeps_ite (drafts_ejectNetworkDisk w _) (drafts_ejectLocalDisk w _)

theorem drafts_prepareDeletedRuntime (w : Answers) (runtime : DiskRuntime) :
    KeepsDrafts (prepareDeletedRuntime w runtime) := by
  refine keeps_ite (Keeps.bind (drafts_whenSome _ fun targetId => ?_) fun _ =>
    Keeps.bind (drafts_whenSome _ fun key => ?_) fun _ => keeps_pure _) ?_
  · refine Keeps.bind (drafts_removeManagedDisk w _ targetId) fun removed => ?_
    cases removed with
    | error text => exact keeps_throw _
    | ok media => exact keeps_pure _
  · exact Keeps.bind keeps_get fun _ => Keeps.bind (drafts_removeOpenedSession key) fun _ =>
      drafts_whenSome _ fun opened => drafts_closeSessionForCleanup opened.session
  · unfold prepareDeletedLocalRuntime
    cases runtime.mountedTargetId with
    | none => exact keeps_pure _
    | some targetId =>
      refine Keeps.bind (drafts_removeManagedDisk w _ targetId) fun removed => ?_
      cases removed with
      | error text => exact keeps_throw _
      | ok media => exact keeps_pure _

theorem drafts_attempt {α : Type} {x : ClientM α} (h : KeepsDrafts x) :
    KeepsDrafts (attempt x) := fun s =>
  (ends_attempt (h s)).mono (fun result _ ht => by cases result <;> exact ht) fun _ _ h => h.elim

theorem drafts_set_bind {α : Type} {s u : ClientState} {f : PUnit → ClientM α} (hu : DraftsSink s u)
    (hf : KeepsDrafts (f ⟨⟩)) :
    Ends (set u >>= f) s (fun _ t => DraftsSink s t) fun _ t => DraftsSink s t :=
  ends_bind_of_ok (a := ⟨⟩) (t := u) rfl ((hf u).mono (fun _ _ h => IsTrans.trans _ _ _ hu h)
    fun _ _ h => IsTrans.trans _ _ _ hu h)

theorem drafts_deleteDisk (w : Answers) (localDiskId : String) :
    KeepsDrafts (deleteDisk w localDiskId) := by
  refine Keeps.bind (drafts_syncPendingEvents w) fun _ s => ends_bind_of_ok (t := s) rfl ?_
  cases s.store.removeRuntime localDiskId with
  | none => exact keeps_throw _ s
  | some result =>
    refine drafts_set_bind (draftsSink_of_same rfl rfl rfl) ?_
    refine Keeps.bind (drafts_attempt (drafts_prepareDeletedRuntime w _)) fun prepared => ?_
    cases prepared with
    | error e => exact Keeps.bind (drafts_modifyStore _) fun _ => keeps_throw _
    | ok runtime =>
      refine Keeps.bind (drafts_saveClientState w) fun saved => ?_
      cases saved with
      | error e => exact Keeps.bind (drafts_modifyStore _) fun _ => keeps_throw _
      | ok _ => exact drafts_modifyCatalog _

theorem drafts_undoDeleteDisk (w : Answers) (deletionId : String) :
    KeepsDrafts (undoDeleteDisk w deletionId) := by
  refine fun s => ends_bind_of_ok (t := s) rfl ?_
  cases s.catalog.takePendingDeletion deletionId with
  | none => exact keeps_throw _ s
  | some result =>
    refine drafts_set_bind (draftsSink_of_same rfl rfl rfl) ?_
    refine Keeps.bind (drafts_modifyStore _) fun _ =>
      Keeps.bind (drafts_saveClientState w) fun saved => ?_
    cases saved with
    | ok _ => exact keeps_pure _
    | error e =>
      refine fun t => ends_bind_of_ok (t := t) rfl ?_
      cases t.store.removeRuntime result.1.removedRuntime.runtime.localDiskId with
      | none => exact keeps_throw _ t
      | some removed =>
        exact drafts_set_bind (draftsSink_of_same rfl rfl rfl)
          (Keeps.bind (drafts_modifyCatalog _) fun _ => keeps_throw _)

theorem drafts_commitDeletedDisk (deletionId : String) :
    KeepsDrafts (commitDeletedDisk deletionId) := by
  refine fun s => ends_bind_of_ok (t := s) rfl ?_
  cases s.catalog.takePendingDeletion deletionId with
  | none => exact keeps_throw _ s
  | some result => exact draftsSink_of_same rfl rfl rfl

theorem drafts_updateDisk (w : Answers) (request : UpdateDiskRequest) :
    KeepsDrafts (updateDisk w request) := by
  refine Keeps.bind (drafts_failWhen _ _) fun _ => Keeps.bind keeps_get fun s => ?_
  cases s.store.findRuntime request.localDiskId with
  | none => exact keeps_throw _
  | some runtime =>
    refine Keeps.bind (drafts_failWhen _ _) fun _ => Keeps.bind (drafts_modifyStore _) fun _ =>
      Keeps.bind (drafts_saveClientState w) fun saved => ?_
    cases saved with
    | ok _ => exact keeps_pure _
    | error e => exact Keeps.bind (drafts_modifyStore _) fun _ => keeps_throw _

theorem drafts_allocateLocalDiskId : KeepsDrafts allocateLocalDiskId := fun s =>
  (ends_allocateLocalDiskId s).mono
    (fun _ _ ⟨_, _, ht⟩ => ht ▸ draftsSink_of_same rfl rfl rfl) fun _ _ ht => ht ▸ DraftsSink.refl s

theorem drafts_saveOrRemove (w : Answers) (localDiskId : String) :
    KeepsDrafts (saveOrRemove w localDiskId) := by
  refine Keeps.bind (drafts_saveClientState w) fun saved => ?_
  cases saved with
  | ok _ => exact keeps_pure _
  | error e => exact Keeps.bind (drafts_modifyStore _) fun _ => keeps_throw _

theorem drafts_createMemoryDisk (w : Answers) (request : CreateMemoryDiskRequest) :
    KeepsDrafts (createMemoryDisk w request) :=
  Keeps.bind (drafts_failWhen _ _) fun _ => Keeps.bind (drafts_failWhen _ _) fun _ =>
    Keeps.bind (drafts_liftExcept _) fun _ => Keeps.bind (drafts_liftExcept _) fun _ =>
      Keeps.bind drafts_allocateLocalDiskId fun _ => Keeps.bind (drafts_modifyStore _) fun _ =>
        drafts_saveOrRemove w _

theorem drafts_createFileDiskRuntime (w : Answers) (request : CreateFileDiskRequest) :
    KeepsDrafts (createFileDiskRuntime paths w request) :=
  Keeps.bind (drafts_failWhen _ _) fun _ => Keeps.bind (drafts_failWhen _ _) fun _ =>
    Keeps.bind keeps_get fun _ => Keeps.bind (drafts_liftExcept _) fun _ =>
      Keeps.bind drafts_allocateLocalDiskId fun _ => Keeps.bind (drafts_modifyStore _) fun _ =>
        keeps_pure _

theorem drafts_createFileDisk (w : Answers) (request : CreateFileDiskRequest) :
    KeepsDrafts (createFileDisk paths w request) :=
  Keeps.bind (drafts_createFileDiskRuntime w request) fun _ => drafts_saveOrRemove w _

theorem drafts_createNewFileDisk (w : Answers) (files : NewFileAnswers)
    (request : CreateNewFileDiskRequest) :
    KeepsDrafts (createNewFileDisk paths w files request) := by
  refine Keeps.bind (drafts_failWhen _ _) fun _ => Keeps.bind (drafts_failWhen _ _) fun _ =>
    Keeps.bind keeps_get fun _ => Keeps.bind (drafts_liftExcept _) fun _ =>
      Keeps.bind (drafts_failWhen _ _) fun _ => Keeps.bind (drafts_failWhen _ _) fun _ =>
        Keeps.bind (drafts_liftExcept _) fun _ => ?_
  cases files.parent with
  | none => exact keeps_throw _
  | some parent =>
    exact Keeps.bind (drafts_failWhen _ _) fun _ => Keeps.bind (drafts_failWhen _ _) fun _ =>
      Keeps.bind (drafts_liftExcept _) fun _ =>
        Keeps.bind (drafts_createFileDiskRuntime w _) fun _ => drafts_saveOrRemove w _

theorem drafts_restoreClientState (w : Answers)
    (config : Except ApiError (List PersistedDiskRecord)) :
    KeepsDrafts (restoreClientState paths w config) :=
  Keeps.bind (keeps_modify fun _ => draftsSink_of_same rfl rfl rfl) fun _ =>
    Keeps.bind (drafts_liftExcept _) fun _ => Keeps.bind (drafts_liftExcept _) fun _ =>
      keeps_modify fun _ => draftsSink_of_same rfl rfl rfl

theorem drafts_syncBackendState (w : Answers) (broken : Bool) :
    KeepsDrafts (syncBackendState w broken) :=
  Keeps.bind keeps_get fun _ => Keeps.bind (drafts_modifyStore _) fun _ =>
    Keeps.bind (keeps_modify fun _ => draftsSink_of_same rfl rfl rfl) fun _ =>
      keeps_ite (Keeps.bind (keeps_modify fun _ => draftsSink_of_same rfl rfl rfl) fun _ =>
        drafts_modifyStore _) (keeps_pure _)

/-! ### Rescans -/

theorem drafts_startRuntimeRescan (w : Answers) : KeepsDrafts (startRuntimeRescan paths w) :=
  Keeps.bind (drafts_syncPendingEvents w) fun _ =>
    Keeps.bind (Keeps.bind keeps_get fun _ => drafts_forRuntimes _) fun _ =>
      Keeps.bind keeps_get fun _ => Keeps.bind (drafts_saveClientState w) fun _ =>
        Keeps.bind (drafts_liftExcept _) fun _ => keeps_pure _

theorem drafts_observeFresh (task : NetworkRescanTask) (stale : Option OpenedNetworkDiskSession)
    (answer : GatewayAnswer) : KeepsDrafts (observeFresh task stale answer) := by
  cases answer with
  | noConnection | authFailed => exact keeps_pure _
  | authenticated connection diskId opens =>
    refine keeps_ite (keeps_pure _) ?_
    cases opens with
    | failed => exact keeps_pure _
    | opened sessionId metadata =>
      refine fun s => ends_bind_of_ok (t := s) rfl ?_
      have hu : DraftsSink s { s with
          sessions := (s.sessions.openOn connection task.serverAddr sessionId).2 } :=
        draftsSink_of_same rfl rfl rfl
      refine drafts_set_bind hu ?_
      cases metadata with
      | none => exact Keeps.bind (drafts_closeSessionForCleanup _) fun _ => keeps_pure _
      | some metadata => exact keeps_pure _

theorem drafts_collectTaskObservation (task : NetworkRescanTask) (answer : GatewayAnswer) :
    KeepsDrafts (collectTaskObservation task answer) := by
  refine Keeps.bind keeps_get fun s => ?_
  cases s.network.openedSession task.key with
  | none => exact drafts_observeFresh task none answer
  | some opened =>
    exact Keeps.bind (drafts_ensureUsable _) fun _ =>
      keeps_ite (keeps_pure _) (drafts_observeFresh task _ answer)

theorem drafts_observeTask (rescan : Rescan) (answer : GatewayAnswer) :
    KeepsDrafts (observeTask rescan answer) := by
  unfold observeTask
  cases rescan.tasks with
  | nil => exact keeps_pure _
  | cons task tasks =>
    exact Keeps.bind (drafts_collectTaskObservation task answer) fun _ => keeps_pure _

theorem takeAllForCleanup_drafts (cleanups : List PendingSessionCleanup) :
    ∀ network : NetworkClientState,
      (takeAllForCleanup network cleanups).2.drafts = network.drafts ∧
        (takeAllForCleanup network cleanups).2.nextDraftNumber = network.nextDraftNumber := by
  induction cleanups with
  | nil => exact fun _ => ⟨rfl, rfl⟩
  | cons cleanup rest ih =>
    intro network
    obtain ⟨hdrafts, hnext⟩ := ih (takeForCleanup network cleanup).2
    unfold takeForCleanup at hdrafts hnext
    unfold takeAllForCleanup takeForCleanup
    split at hdrafts <;> simp_all [NetworkClientState.removeOpenedSession]

theorem drafts_commitSessions (actions : List NetworkResolvedAction) :
    KeepsDrafts (commitSessions actions) := by
  intro s
  refine ends_bind_of_ok (t := s) rfl ?_
  obtain ⟨hdrafts, hnext⟩ :=
    takeAllForCleanup_drafts (actions.flatMap (·.sessionsToCleanup)) s.network
  exact drafts_set_bind (draftsSink_of_same hdrafts hnext rfl) (drafts_closeSessions _)

theorem insertOpenedSessions_drafts (sessions : List OpenedNetworkDiskSession) :
    ∀ network : NetworkClientState,
      (sessions.foldl (·.insertOpenedSession ·) network).drafts = network.drafts ∧
        (sessions.foldl (·.insertOpenedSession ·) network).nextDraftNumber =
          network.nextDraftNumber := by
  induction sessions with
  | nil => exact fun _ => ⟨rfl, rfl⟩
  | cons opened sessions ih => exact fun network => ih (network.insertOpenedSession opened)

theorem drafts_commitRuntimes (w : Answers) (sessions : List OpenedNetworkDiskSession)
    (actions : List NetworkResolvedAction) : KeepsDrafts (commitRuntimes w sessions actions) :=
  Keeps.bind (keeps_modify fun s => draftsSink_of_same
      (insertOpenedSessions_drafts sessions s.network).1
      (insertOpenedSessions_drafts sessions s.network).2 rfl) fun _ =>
    drafts_forEach (fun _ => drafts_forRuntime _ _) _

/-! ## The flows on drafts -/

theorem drafts_removeNetworkDraftItem (draftId remoteDiskId : String) :
    KeepsDrafts (removeNetworkDraftItem draftId remoteDiskId) := by
  refine fun s => ends_bind_of_ok (t := s) rfl ?_
  cases hfound : s.network.draft draftId with
  | none => exact keeps_throw _ s
  | some draft =>
    dsimp only
    cases hremove : draft.removeItem remoteDiskId with
    | none => exact keeps_throw _ s
    | some removed =>
      obtain ⟨item, draft'⟩ := removed
      refine ends_bind_of_ok (run_modify _) (ends_of_ok (run_modify _)
        (IsTrans.trans _ _ _ ?_ (draftsSink_closeSession _ _)))
      refine (DraftsSink.refl s).setDraft (List.mem_of_find?_eq_some hfound) ?_
      unfold NetworkCreateDraft.removeItem at hremove
      split at hremove
      · cases hremove
      · cases hremove
        exact ⟨rfl, rfl, rfl, List.filter_sublist⟩

theorem draftsSink_removeDraft {s : ClientState} (draftId : String) :
    DraftsSink s { s with network := s.network.removeDraft draftId } :=
  ⟨List.filter_sublist.map _, fun d hd => ⟨d, (List.mem_filter.mp hd).1, .refl d⟩, rfl, rfl⟩

theorem drafts_disposeNetworkDraft (draftId : String) :
    KeepsDrafts (disposeNetworkDraft draftId) := by
  refine fun s => ends_bind_of_ok (t := s) rfl ?_
  cases s.network.draft draftId with
  | none => exact keeps_throw _ s
  | some draft =>
    exact ends_bind_of_ok (run_modify _) (ends_of_ok (run_modify _)
      (IsTrans.trans _ _ _ (draftsSink_removeDraft draftId) (draftsSink_closeSessions _ _)))

theorem drafts_insertDraftRuntimes (serverAddr : String) : ∀ items : List NetworkDraftItem,
    KeepsDrafts (insertDraftRuntimes serverAddr items)
  | [] => keeps_pure _
  | _ :: items => Keeps.bind drafts_allocateLocalDiskId fun _ =>
      Keeps.bind (drafts_modifyStore _) fun _ =>
        Keeps.bind (drafts_insertDraftRuntimes serverAddr items) fun _ => keeps_pure _

theorem drafts_submitDraft (w : Answers) (draftId : String) :
    KeepsDrafts (submitDraft w draftId) := by
  refine Keeps.bind keeps_get fun s => ?_
  cases s.network.draft draftId with
  | none => exact keeps_throw _
  | some draft =>
    refine Keeps.bind (drafts_failWhen _ _) fun _ => Keeps.bind (drafts_liftExcept _) fun _ =>
      Keeps.bind (drafts_insertDraftRuntimes _ _) fun _ =>
        Keeps.bind (drafts_saveClientState w) fun saved => ?_
    cases saved with
    | ok _ => exact keeps_pure _
    | error e => exact Keeps.bind (drafts_modifyStore _) fun _ => keeps_throw _

theorem drafts_finishSubmit (draftId : String) : KeepsDrafts (finishSubmit draftId) := by
  refine fun s => ends_bind_of_ok (t := s) rfl ?_
  cases s.network.draft draftId with
  | none => exact keeps_throw _ s
  | some draft =>
    obtain ⟨hdrafts, hnext⟩ := insertOpenedSessions_drafts
      (draft.items.map fun item => ⟨item.key, item.session, item.metadata⟩)
      (s.network.removeDraft draftId)
    rw [List.foldl_map] at hdrafts hnext
    have hsink : DraftsSink s { s with
        network := draft.items.foldl (fun network item =>
            network.insertOpenedSession ⟨item.key, item.session, item.metadata⟩)
          (s.network.removeDraft draftId) } :=
      IsTrans.trans _ _ _ (draftsSink_removeDraft draftId) (draftsSink_of_same hdrafts hnext rfl)
    refine ends_bind_of_ok (run_modify _) ?_
    cases startRescan (collectNetworkRescanPlans s.store.runtimes) with
    | none => exact ends_of_ok (run_pure _) hsink
    | some rescan => exact ends_of_ok (run_pure _) hsink

theorem DraftsInv.withHolder {s : ClientState} (h : DraftsInv s) {holder : Holder}
    (hh : holder.AddsFor s.network) : DraftsInv { s with holder := holder } :=
  ⟨h.apart, h.numbered, h.items, hh⟩

theorem draft_unique {s : ClientState} (h : s.stores.DraftsApart) {d d' : NetworkCreateDraft}
    (hd : d ∈ s.network.drafts) (hd' : d' ∈ s.network.drafts) (hid : d.draftId = d'.draftId) :
    d = d' :=
  List.inj_on_of_nodup_map h hd hd' hid

/-- **A new draft** has a new id. -/
theorem DraftsInv.insertDraft {s : ClientState} (h : DraftsInv s) (serverAddr : String)
    (connection : Nat) : DraftsInv { s with
      network := NetworkClientState.insertDraft
        { s.network with nextDraftNumber := s.network.nextDraftNumber + 1 }
        ⟨draftIdOf s.network.nextDraftNumber, serverAddr, connection, []⟩ } := by
  have hnew : ∀ d ∈ s.network.drafts, d.draftId ≠ draftIdOf s.network.nextDraftNumber := by
    intro d hd heq
    obtain ⟨n, hn, hid⟩ := h.numbered d hd
    exact absurd (draftIdOf_injective (hid.symm.trans heq)) (Nat.ne_of_lt hn)
  have hkept : s.network.drafts.filter (·.draftId ≠ draftIdOf s.network.nextDraftNumber) =
      s.network.drafts := List.filter_eq_self.mpr fun d hd => decide_eq_true (hnew d hd)
  have hmem : ∀ {d}, d ∈ s.network.drafts.filter
      (·.draftId ≠ draftIdOf s.network.nextDraftNumber) ++
        [⟨draftIdOf s.network.nextDraftNumber, serverAddr, connection, []⟩] →
      d ∈ s.network.drafts ∨
        d = ⟨draftIdOf s.network.nextDraftNumber, serverAddr, connection, []⟩ := by
    intro d hd
    rw [hkept] at hd
    exact (List.mem_append.mp hd).imp_right List.mem_singleton.mp
  refine ⟨?_, fun d hd => ?_, fun d hd => ?_, ?_⟩
  · show ((s.network.drafts.filter _ ++ [_]).map NetworkCreateDraft.draftId).Nodup
    rw [hkept, List.map_append, List.map_singleton]
    refine List.Nodup.append h.apart (List.nodup_singleton _) ?_
    intro id hid hid'
    obtain ⟨d, hd, rfl⟩ := List.mem_map.mp hid
    exact hnew d hd (List.mem_singleton.mp hid')
  · rcases hmem hd with hd | rfl
    · obtain ⟨n, hn, hid⟩ := h.numbered d hd
      exact ⟨n, Nat.lt_succ_of_lt hn, hid⟩
    · exact ⟨_, Nat.lt_succ_self _, rfl⟩
  · rcases hmem hd with hd | rfl
    · exact h.items d hd
    · exact ⟨nofun, List.Pairwise.nil⟩
  · have hadding := h.adding
    show Holder.AddsFor _ s.holder
    cases hholder : s.holder with
    | adding draftId diskName claimCode addr connection' stage =>
      rw [hholder] at hadding
      obtain ⟨⟨n, hn, rfl⟩, hserver, hstage⟩ := hadding
      refine ⟨⟨n, Nat.lt_succ_of_lt hn, rfl⟩, fun d hd hid => ?_, hstage⟩
      rcases hmem hd with hd | rfl
      · exact hserver d hd hid
      · exact absurd (draftIdOf_injective hid).symm (Nat.ne_of_lt hn)
    | free => trivial
    | submitting draft => trivial
    | rescanning rescan => trivial
    | committing background sessionsToInsert actions plans => trivial

theorem ends_createNetworkDraft {s : ClientState} (h : DraftsInv s) (serverAddr : String)
    (connection : Except String Nat) :
    Ends (createNetworkDraft serverAddr connection) s (fun _ t => DraftsInv t)
      fun _ t => DraftsInv t := by
  refine ends_failWhen_bind (fun _ => h) fun _ => ?_
  cases connection with
  | error text => exact ends_of_error (run_throw _) h
  | ok connection => exact ends_of_ok (run_modify _) (h.insertDraft _ connection)

theorem ends_addNetworkDraftItem {s : ClientState} (h : DraftsInv s) (w : Answers)
    (draftId diskName claimCode : String) :
    Ends (addNetworkDraftItem w draftId diskName claimCode) s
      (fun holder t => DraftsInv { t with holder := holder })
      fun _ t => DraftsInv { t with holder := .free } := by
  refine Ends.bind ((drafts_syncPendingEvents w s).mono (fun _ _ ht => h.sink ht)
    fun _ _ ht => (h.sink ht).withHolder trivial) fun _ t ht => ?_
  refine ends_failWhen_bind (fun _ => ht.withHolder trivial) fun _ =>
    ends_bind_of_ok (t := t) rfl ?_
  cases hfound : t.network.draft draftId with
  | none => exact ends_of_error (run_throw _) (ht.withHolder trivial)
  | some draft =>
    have hmem := List.mem_of_find?_eq_some hfound
    have hid := List.find?_some hfound
    obtain rfl : draft.draftId = draftId := of_decide_eq_true hid
    refine ends_of_ok (run_pure _) (ht.withHolder ⟨ht.numbered draft hmem, fun d hd hid => ?_,
      trivial⟩)
    rw [draft_unique ht.apart hd hmem hid]

/-- The item goes into the draft that it was for. -/
theorem DraftsInv.insertItem {s : ClientState} (h : DraftsInv s) {draft : NetworkCreateDraft}
    (hmem : draft ∈ s.network.drafts) {item : NetworkDraftItem}
    (hitem : item.key.serverAddr = draft.serverAddr) :
    DraftsInv { s with
      network := s.network.setDraft (draft.insertItem item)
      holder := .free } := by
  have hcases : ∀ {d'}, d' ∈ (s.network.setDraft (draft.insertItem item)).drafts →
      ∃ d ∈ s.network.drafts, d'.draftId = d.draftId ∧ ItemsOk d'.serverAddr d'.items := by
    intro d' hd'
    obtain ⟨d, hd, rfl⟩ := List.mem_map.mp hd'
    by_cases hid : d.draftId = draft.draftId
    · rw [if_pos (show d.draftId = (draft.insertItem item).draftId from hid)]
      exact ⟨d, hd, hid.symm, (h.items draft hmem).insertItem hitem⟩
    · rw [if_neg (show ¬ d.draftId = (draft.insertItem item).draftId from hid)]
      exact ⟨d, hd, rfl, h.items d hd⟩
  refine ⟨?_, fun d' hd' => ?_, fun d' hd' => ?_, trivial⟩
  · have hids : (s.network.setDraft (draft.insertItem item)).drafts.map (·.draftId) =
        s.network.drafts.map (·.draftId) := by
      unfold NetworkClientState.setDraft
      rw [List.map_map]
      refine List.map_congr_left fun d _ => ?_
      by_cases hid : d.draftId = (draft.insertItem item).draftId <;> simp [hid]
    show ((s.network.setDraft (draft.insertItem item)).drafts.map (·.draftId)).Nodup
    rw [hids]
    exact h.apart
  · obtain ⟨d, hd, hid, -⟩ := hcases hd'
    obtain ⟨n, hn, hnid⟩ := h.numbered d hd
    exact ⟨n, hn, hid.trans hnid⟩
  · obtain ⟨-, -, -, hok⟩ := hcases hd'
    exact hok

theorem ends_continueAdd {s : ClientState} (h : DraftsInv s)
    {draftId diskName claimCode serverAddr : String} {connection : Nat} {stage : AddStage}
    (hholder : s.holder = .adding draftId diskName claimCode serverAddr connection stage)
    (answer : AddAnswer) :
    Ends (continueAdd draftId diskName claimCode serverAddr connection stage answer) s
      (fun holder t => DraftsInv { t with holder := holder })
      fun _ t => DraftsInv { t with holder := .free } := by
  have hadding := h.adding
  rw [hholder] at hadding
  obtain ⟨hnumber, hserver, hstage⟩ := hadding
  have hstay : Ends (pure (.adding draftId diskName claimCode serverAddr connection stage) :
      ClientM Holder) s (fun holder t => DraftsInv { t with holder := holder })
      fun _ t => DraftsInv { t with holder := .free } :=
    ends_of_ok (run_pure _) (h.withHolder ⟨hnumber, hserver, hstage⟩)
  cases stage with
  | authenticate =>
    cases answer with
    | authenticated diskId =>
      cases diskId with
      | error text => exact ends_of_error (run_throw _) (h.withHolder trivial)
      | ok diskId =>
        exact ends_bind_of_ok (t := s) rfl (ends_liftExcept_bind (fun _ _ => h.withHolder trivial)
          fun _ _ => ends_of_ok (run_pure _) (h.withHolder ⟨hnumber, hserver, rfl⟩))
    | opened _ | described _ | resumed => exact hstay
  | openSession key =>
    cases answer with
    | opened sessionId =>
      cases sessionId with
      | error text => exact ends_of_error (run_throw _) (h.withHolder trivial)
      | ok sessionId =>
        have ht : DraftsInv { s with
            sessions := (s.sessions.openOn connection serverAddr sessionId).2 } :=
          h.sink (draftsSink_of_same rfl rfl rfl)
        exact ends_bind_of_ok (t := s) rfl (ends_bind_of_ok (a := ⟨⟩) rfl
          (ends_of_ok (run_pure _) (ht.withHolder ⟨hnumber, hserver, hstage⟩)))
    | authenticated _ | described _ | resumed => exact hstay
  | describe key session =>
    have hclosed := (h.sink (draftsSink_closeSession s session)).withHolder
      (show Holder.free.AddsFor _ from trivial)
    cases answer with
    | described metadata =>
      cases metadata with
      | error text => exact ends_bind_of_ok (run_modify _) (ends_of_error (run_throw _) hclosed)
      | ok metadata =>
        refine ends_bind_of_ok (t := s) rfl ?_
        cases ensureUniqueNetworkBackend s.network serverAddr metadata.backendId none with
        | error e => exact ends_bind_of_ok (run_modify _) (ends_of_error (run_throw _) hclosed)
        | ok _ => exact ends_of_ok (run_pure _) (h.withHolder ⟨hnumber, hserver, hstage⟩)
    | authenticated _ | opened _ | resumed => exact hstay
  | insert key session metadata =>
    cases answer with
    | resumed =>
      refine ends_bind_of_ok (t := s) rfl ?_
      cases hfound : s.network.draft draftId with
      | none => exact ends_of_error (run_throw _) (h.withHolder trivial)
      | some draft =>
        have hmem := List.mem_of_find?_eq_some hfound
        have hid := List.find?_some hfound
        refine ends_bind_of_ok (run_modify _) (ends_of_ok (run_pure _) (h.insertItem hmem ?_))
        exact hstage.trans (hserver draft hmem (of_decide_eq_true hid)).symm
    | authenticated _ | opened _ | described _ => exact hstay

end YumeDisk.TauriClient
