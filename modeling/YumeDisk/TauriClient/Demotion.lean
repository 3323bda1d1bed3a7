import Mathlib.Data.List.Forall2
import YumeDisk.TauriClient.System

/-!
# What the flows do to the runtimes

Most sections leave every runtime its medium, and make none valid that was not: mounting, ejecting,
an event, the loss of the backend.  `Demotes` says so of the list of runtimes, `CatalogDemotes` of
the state.

* `OneRuntimePerMedium`: what a demotion cannot break.
* `keepsCatalog_syncPendingEvents`, `keepsCatalog_mountDisk`, `keepsCatalog_ejectDisk`,
  `keepsCatalog_updateDisk`, `keepsCatalog_syncBackendState`: the sections that only demote.
-/

namespace YumeDisk.TauriClient

open YumeDisk.Lib

/-! ## Media -/

/-- What a disk is a disk of: a file, by its normalized path, or a remote disk. -/
inductive MediumKey where
  | file (normalizedPath : String)
  | network (key : NetworkDiskKey)
deriving DecidableEq, Repr

def DiskRuntime.mediumKey (paths : PathApi) (r : DiskRuntime) : Option MediumKey :=
  match r.mediaConfig with
  | .memory .. => none
  | .file path _ => (paths.normalized? path).map .file
  | .network serverAddr remoteDiskId _ _ => some (.network ⟨serverAddr, remoteDiskId⟩)

/-- The medium of a runtime that is not invalid. -/
def DiskRuntime.heldMedium (paths : PathApi) (r : DiskRuntime) : Option MediumKey :=
  if r.Valid then r.mediumKey paths else none

/-- No two runtimes that are not invalid have one normalized path, or one server address and remote
disk id. -/
def OneRuntimePerMedium (paths : PathApi) (runtimes : List DiskRuntime) : Prop :=
  (runtimes.filterMap (·.heldMedium paths)).Nodup

variable {paths : PathApi}

/-- The runtime `r` after a change that leaves it its medium and does not make it valid. -/
structure Demoted (paths : PathApi) (r r' : DiskRuntime) : Prop where
  localDiskId : r'.localDiskId = r.localDiskId
  mediumKey : r'.mediumKey paths = r.mediumKey paths
  valid : r'.Valid → r.Valid

theorem Demoted.refl (r : DiskRuntime) : Demoted paths r r := ⟨rfl, rfl, id⟩

theorem Demoted.trans {r r' r'' : DiskRuntime} (h : Demoted paths r r') (h' : Demoted paths r' r'') :
    Demoted paths r r'' :=
  ⟨h'.localDiskId.trans h.localDiskId, h'.mediumKey.trans h.mediumKey, h.valid ∘ h'.valid⟩

theorem Demoted.heldMedium {r r' : DiskRuntime} (h : Demoted paths r r') {k : MediumKey}
    (hk : r'.heldMedium paths = some k) : r.heldMedium paths = some k := by
  unfold DiskRuntime.heldMedium at hk ⊢
  split_ifs at hk with hv
  rw [if_pos (h.valid hv), ← h.mediumKey, hk]

/-- The runtimes of a list, each demoted. -/
abbrev Demotes (paths : PathApi) : List DiskRuntime → List DiskRuntime → Prop :=
  List.Forall₂ (Demoted paths)

theorem Demotes.refl (rs : List DiskRuntime) : Demotes paths rs rs :=
  List.forall₂_same.mpr fun r _ => Demoted.refl r

theorem Demotes.trans {rs rs' rs'' : List DiskRuntime} (h : Demotes paths rs rs')
    (h' : Demotes paths rs' rs'') : Demotes paths rs rs'' := by
  induction h generalizing rs'' with
  | nil =>
    cases h'
    exact .nil
  | cons hr _ ih =>
    cases h' with
    | cons hr' h' => exact .cons (hr.trans hr') (ih h')

theorem Demotes.sublist {rs rs' : List DiskRuntime} (h : Demotes paths rs rs') :
    (rs'.filterMap (·.heldMedium paths)).Sublist (rs.filterMap (·.heldMedium paths)) := by
  induction h with
  | nil => exact .refl _
  | @cons r r' rs rs' hr _ ih =>
    rw [List.filterMap_cons, List.filterMap_cons]
    cases hk : r'.heldMedium paths with
    | some k =>
      rw [hr.heldMedium hk]
      exact ih.cons_cons k
    | none =>
      cases r.heldMedium paths with
      | none => exact ih
      | some k => exact ih.cons k

theorem OneRuntimePerMedium.demotes {rs rs' : List DiskRuntime}
    (h : OneRuntimePerMedium paths rs) (hd : Demotes paths rs rs') :
    OneRuntimePerMedium paths rs' :=
  h.sublist hd.sublist

theorem Demotes.ids {rs rs' : List DiskRuntime} (h : Demotes paths rs rs') :
    rs'.map (·.localDiskId) = rs.map (·.localDiskId) := by
  induction h with
  | nil => rfl
  | cons hr _ ih => rw [List.map_cons, List.map_cons, hr.localDiskId, ih]

/-! ## What demotes a list -/

theorem demotes_updateFirst {p : DiskRuntime → Bool} {f : DiskRuntime → DiskRuntime} :
    ∀ {rs : List DiskRuntime}, (∀ r, rs.find? p = some r → Demoted paths r (f r)) →
      Demotes paths rs (DiskRuntimeStore.updateFirst p f rs)
  | [], _ => .nil
  | r :: rs, h => by
    unfold DiskRuntimeStore.updateFirst
    by_cases hp : p r = true
    · rw [if_pos hp]
      exact .cons (h r (List.find?_cons_of_pos hp)) (Demotes.refl rs)
    · rw [if_neg hp]
      refine .cons (.refl r) (demotes_updateFirst fun x hx => h x ?_)
      rw [List.find?_cons_of_neg hp]
      exact hx

theorem demotes_map {f : DiskRuntime → DiskRuntime} (h : ∀ r, Demoted paths r (f r))
    (rs : List DiskRuntime) : Demotes paths rs (rs.map f) :=
  List.forall₂_map_right_iff.mpr (List.forall₂_same.mpr fun r _ => h r)

theorem demotes_visitRuntimes {f : DiskRuntime → Backend → DiskRuntime × Backend}
    (h : ∀ r b, Demoted paths r (f r b).1) :
    ∀ (rs : List DiskRuntime) (b : Backend), Demotes paths rs (visitRuntimes f rs b).1
  | [], _ => .nil
  | r :: rs, b => .cons (h r b) (demotes_visitRuntimes h rs _)

theorem demoted_setInvalid (r : DiskRuntime) (reason : String) :
    Demoted paths r (r.setNetworkInvalid reason) :=
  ⟨rfl, rfl, fun h => nomatch h⟩

theorem mediumKey_setFileCapacity (r : DiskRuntime) (capacity : Nat) :
    ({ r with mediaConfig := DiskRuntime.setFileCapacity capacity r.mediaConfig } :
      DiskRuntime).mediumKey paths = r.mediumKey paths := by
  unfold DiskRuntime.mediumKey
  cases r.mediaConfig <;> rfl

theorem mediumKey_setNetworkCapacity (r : DiskRuntime) (capacity : Nat) :
    ({ r with mediaConfig := DiskRuntime.setNetworkCapacity capacity r.mediaConfig } :
      DiskRuntime).mediumKey paths = r.mediumKey paths := by
  unfold DiskRuntime.mediumKey
  cases r.mediaConfig <;> rfl

theorem mediumKey_setNetworkUnmounted (r : DiskRuntime) (capacity : Nat) (readOnly : Bool) :
    (r.setNetworkUnmounted capacity readOnly).mediumKey paths = r.mediumKey paths :=
  mediumKey_setNetworkCapacity r capacity

theorem DiskRuntime.valid_of_mounted {r : DiskRuntime} {targetId : Nat}
    (h : r.mountedTargetId = some targetId) : r.Valid := by
  unfold mountedTargetId at h
  unfold Valid invalidReason
  cases hs : r.state with
  | mounted t => rfl
  | unmounted => rfl
  | invalid reason =>
    rw [hs] at h
    cases h

theorem demoted_afterRemoval (w : Answers) {r : DiskRuntime} (hr : r.Valid) (media : Media) :
    Demoted paths r (afterRemoval w r media) := by
  unfold afterRemoval
  split
  · exact ⟨rfl, rfl, fun _ => hr⟩
  · dsimp only
    split
    · exact ⟨rfl, rfl, fun _ => hr⟩
    · split
      · exact ⟨rfl, mediumKey_setFileCapacity r _, fun _ => hr⟩
      · exact ⟨rfl, mediumKey_setFileCapacity r 0, fun _ => hr⟩

theorem demoted_detachRuntimeAfterBackendLoss (w : Answers) {r : DiskRuntime} (hr : r.Valid) :
    Demoted paths r (detachRuntimeAfterBackendLoss w r) := by
  unfold detachRuntimeAfterBackendLoss
  split
  · exact ⟨rfl, mediumKey_setNetworkCapacity r _, fun _ => hr⟩
  · split
    · exact ⟨rfl, rfl, fun _ => hr⟩
    · split
      · exact .refl r
      · split
        · exact ⟨rfl, mediumKey_setFileCapacity r _, fun _ => hr⟩
        · exact ⟨rfl, mediumKey_setFileCapacity r 0, fun _ => hr⟩

/-! ## Sections that only demote -/

/-- A section that demotes the runtimes, and leaves the rest of the catalog and the rescans. -/
structure CatalogDemotes (paths : PathApi) (s s' : ClientState) : Prop where
  runtimes : Demotes paths s.store.runtimes s'.store.runtimes
  nextDiskNumber : s'.store.nextDiskNumber = s.store.nextDiskNumber
  pending : s'.catalog.pendingDeletions = s.catalog.pendingDeletions
  holder : s'.holder = s.holder
  rescan : s'.rescan = s.rescan

instance : Std.Refl (CatalogDemotes paths) := ⟨fun _ => ⟨.refl _, rfl, rfl, rfl, rfl⟩⟩

instance : IsTrans ClientState (CatalogDemotes paths) :=
  ⟨fun _ _ _ h h' => ⟨h.runtimes.trans h'.runtimes, h'.nextDiskNumber.trans h.nextDiskNumber,
    h'.pending.trans h.pending, h'.holder.trans h.holder, h'.rescan.trans h.rescan⟩⟩

/-- A section that writes nothing of the catalog. -/
structure SameCatalog (s s' : ClientState) : Prop where
  catalog : s'.catalog = s.catalog
  holder : s'.holder = s.holder
  rescan : s'.rescan = s.rescan

instance : Std.Refl SameCatalog := ⟨fun _ => ⟨rfl, rfl, rfl⟩⟩

instance : IsTrans ClientState SameCatalog :=
  ⟨fun _ _ _ h h' => ⟨h'.catalog.trans h.catalog, h'.holder.trans h.holder,
    h'.rescan.trans h.rescan⟩⟩

theorem SameCatalog.store {s s' : ClientState} (h : SameCatalog s s') : s'.store = s.store := by
  rw [ClientState.store, h.catalog, ClientState.store]

theorem SameCatalog.demotes {s s' : ClientState} (h : SameCatalog s s') :
    CatalogDemotes paths s s' := by
  refine ⟨?_, ?_, ?_, h.holder, h.rescan⟩
  · rw [h.store]
    exact Demotes.refl _
  · rw [h.store]
  · rw [h.catalog]

abbrev KeepsCatalog (paths : PathApi) {α : Type} (x : ClientM α) : Prop :=
  Keeps (CatalogDemotes paths) x

section Keeps

variable {α : Type}

theorem keepsCatalog_of_same {x : ClientM α} (h : Keeps SameCatalog x) : KeepsCatalog paths x :=
  fun s => (h s).mono (fun _ _ h => h.demotes) fun _ _ h => h.demotes

theorem keepsCatalog_modifyStore {f : DiskRuntimeStore → DiskRuntimeStore}
    (hf : ∀ store, Demotes paths store.runtimes (f store).runtimes ∧
      (f store).nextDiskNumber = store.nextDiskNumber) : KeepsCatalog paths (modifyStore f) :=
  keeps_modify fun s => ⟨(hf s.store).1, (hf s.store).2, rfl, rfl, rfl⟩

theorem same_modifyNetwork (f : NetworkClientState → NetworkClientState) :
    Keeps SameCatalog (modifyNetwork f) :=
  keeps_modify fun _ => ⟨rfl, rfl, rfl⟩

theorem same_closeSession (s : ClientState) (session : DiskSession) :
    SameCatalog s (s.closeSession session) := by
  unfold ClientState.closeSession
  split <;> exact ⟨rfl, rfl, rfl⟩

theorem same_closeSessions (sessions : List DiskSession) :
    ∀ s : ClientState, SameCatalog s (s.closeSessions sessions) := by
  induction sessions with
  | nil => exact fun s => ⟨rfl, rfl, rfl⟩
  | cons x xs ih => exact fun s => IsTrans.trans _ _ _ (same_closeSession s x) (ih _)

theorem same_closeSessionForCleanup (session : DiskSession) :
    Keeps SameCatalog (closeSessionForCleanup session) :=
  keeps_modify fun s => same_closeSession s session

theorem same_modify_closeSessions (sessions : List DiskSession) :
    Keeps SameCatalog (modify (·.closeSessions sessions) : ClientM Unit) :=
  keeps_modify (same_closeSessions sessions)

theorem same_liftExcept (x : Except ApiError α) : Keeps SameCatalog (liftExcept x) := by
  cases x with
  | ok a => exact keeps_pure a
  | error e => exact keeps_throw e

theorem same_failWhen (p : Prop) [Decidable p] (e : ApiError) :
    Keeps SameCatalog (failWhen p e) :=
  keeps_ite (keeps_throw e) (keeps_pure ())

theorem same_ensureUsable (session : DiskSession) : Keeps SameCatalog (ensureUsable session) :=
  fun s => ends_of_ok (a := (s.sessions.ensureUsable session).1)
    (t := { s with sessions := (s.sessions.ensureUsable session).2 }) rfl ⟨rfl, rfl, rfl⟩

theorem same_saveConfig (s : ClientState) (w : Answers) : SameCatalog s (s.saveConfig w) :=
  ⟨rfl, rfl, rfl⟩

theorem same_saveClientState (w : Answers) : Keeps SameCatalog (saveClientState w) :=
  Keeps.bind (keeps_modify fun s => same_saveConfig s w) fun _ => keeps_pure _

theorem same_removeManagedDisk (w : Answers) (localDiskId : String) (targetId : Nat) :
    Keeps SameCatalog (removeManagedDiskWithMedia w localDiskId targetId) := fun s =>
  ends_of_ok (a := (s.backend.remove targetId (w.removes localDiskId)).1)
    (t := { s with backend := (s.backend.remove targetId (w.removes localDiskId)).2 }) rfl
    ⟨rfl, rfl, rfl⟩

theorem same_tryCreateManagedDisk (w : Answers) (media : Media) :
    Keeps SameCatalog (tryCreateManagedDisk w media) := by
  unfold tryCreateManagedDisk
  cases w.creates with
  | error text => exact keeps_pure _
  | ok targetId => exact Keeps.bind (keeps_modify fun _ => ⟨rfl, rfl, rfl⟩) fun _ => keeps_pure _

theorem keepsCatalog_forRuntimes {f : DiskRuntime → Backend → DiskRuntime × Backend}
    (hf : ∀ r b, Demoted paths r (f r b).1) : KeepsCatalog paths (forRuntimes f) :=
  keeps_modify fun s =>
    ⟨demotes_visitRuntimes hf s.store.runtimes s.backend, rfl, rfl, rfl, rfl⟩

theorem keepsCatalog_whenSome (o : Option α) {f : α → ClientM Unit}
    (hf : ∀ a, KeepsCatalog paths (f a)) : KeepsCatalog paths (whenSome o f) := by
  cases o with
  | none => exact keeps_pure _
  | some a => exact hf a

theorem keepsCatalog_forEach {f : α → ClientM Unit} (hf : ∀ a, KeepsCatalog paths (f a)) :
    ∀ as : List α, KeepsCatalog paths (forEach f as)
  | [] => keeps_pure _
  | a :: as => Keeps.bind (hf a) fun _ => keepsCatalog_forEach hf as

theorem keepsCatalog_invalidateRuntimeByKey (w : Answers) (key : NetworkDiskKey)
    (reason : String) : KeepsCatalog paths (invalidateRuntimeByKey w key reason) := by
  refine Keeps.bind keeps_get fun s => Keeps.bind (keepsCatalog_of_same (same_modifyNetwork _)) fun _ =>
    Keeps.bind (keepsCatalog_forRuntimes fun r b => ?_) fun _ =>
      keepsCatalog_whenSome _ fun opened => keepsCatalog_of_same (same_closeSessionForCleanup opened.session)
  unfold invalidateRuntime
  split
  · exact demoted_setInvalid r reason
  · exact .refl r

theorem keepsCatalog_applyEvent (w : Answers) (event : NetworkClientEvent) :
    KeepsCatalog paths (applyEvent w event) := by
  cases event with
  | sessionClosed serverAddr sessionId =>
    exact Keeps.bind keeps_get fun s =>
      Keeps.bind (keepsCatalog_whenSome _ fun key => keepsCatalog_invalidateRuntimeByKey w key _)
        fun _ => Keeps.bind keeps_get fun _ =>
          Keeps.bind (keepsCatalog_of_same (same_modifyNetwork _)) fun _ =>
            keepsCatalog_of_same (same_modify_closeSessions _)
  | sessionDataChanged serverAddr sessionId => exact keeps_pure _
  | connectionLost serverAddr =>
    exact Keeps.bind keeps_get fun s =>
      Keeps.bind (keepsCatalog_forEach (keepsCatalog_invalidateRuntimeByKey w · _) _) fun _ =>
        Keeps.bind keeps_get fun _ =>
          Keeps.bind (keepsCatalog_of_same (same_modifyNetwork _)) fun _ =>
            keepsCatalog_of_same (same_modify_closeSessions _)

theorem keepsCatalog_syncPendingEvents (w : Answers) :
    KeepsCatalog paths (syncPendingEvents w) := by
  exact Keeps.bind keeps_get fun s => Keeps.bind (keepsCatalog_of_same (same_modifyNetwork _)) fun _ =>
    Keeps.bind (keepsCatalog_forEach (keepsCatalog_applyEvent w) _) fun _ =>
      keepsCatalog_forEach (fun localDiskId => Keeps.bind keeps_get fun s =>
        keepsCatalog_whenSome _ fun key => keepsCatalog_invalidateRuntimeByKey w key _) _

/-! ### Mounting and ejecting -/

/-- A change of the runtime that a flow has looked up, made before anything else is written. -/
theorem Ends.updateFound {s t : ClientState} (hs : SameCatalog s t) {localDiskId : String}
    {runtime : DiskRuntime} (hfind : s.store.findRuntime localDiskId = some runtime)
    {f : DiskRuntime → DiskRuntime} (hf : Demoted paths runtime (f runtime)) :
    CatalogDemotes paths s (t.setStore (t.store.updateRuntime localDiskId f)) := by
  refine ⟨?_, ?_, ?_, hs.holder, hs.rescan⟩
  · show Demotes paths s.store.runtimes (DiskRuntimeStore.updateFirst _ f t.store.runtimes)
    rw [hs.store]
    refine demotes_updateFirst fun r hr => ?_
    obtain rfl : r = runtime := Option.some.inj (hr.symm.trans hfind)
    exact hf
  · show t.store.nextDiskNumber = _
    rw [hs.store]
  · show t.catalog.pendingDeletions = _
    rw [hs.catalog]

theorem keepsCatalog_updateRuntime (localDiskId : String) {f : DiskRuntime → DiskRuntime}
    (hf : ∀ r, Demoted paths r (f r)) :
    KeepsCatalog paths (modifyStore (·.updateRuntime localDiskId f)) :=
  keepsCatalog_modifyStore fun _ => ⟨demotes_updateFirst fun r _ => hf r, rfl⟩

/-- A section that has written nothing of the catalog goes on. -/
theorem Ends.bindSame {β : Type} {s t : ClientState} {x : ClientM α} {f : α → ClientM β}
    (hx : Keeps SameCatalog x) (ht : SameCatalog s t)
    (hf : ∀ a u, SameCatalog s u → Ends (f a) u (fun _ v => CatalogDemotes paths s v)
      fun _ v => CatalogDemotes paths s v) :
    Ends (x >>= f) t (fun _ v => CatalogDemotes paths s v) fun _ v => CatalogDemotes paths s v :=
  Ends.bind ((hx t).mono (fun _ _ h => IsTrans.trans _ _ _ ht h) fun _ _ h =>
    SameCatalog.demotes (IsTrans.trans _ _ _ ht h)) hf

/-- It ends with what only demotes. -/
theorem Ends.thenKeeps {s t : ClientState} {x : ClientM α} (ht : SameCatalog s t)
    (hx : KeepsCatalog paths x) :
    Ends x t (fun _ v => CatalogDemotes paths s v) fun _ v => CatalogDemotes paths s v :=
  (hx t).mono (fun _ _ h => IsTrans.trans _ _ _ ht.demotes h)
    fun _ _ h => IsTrans.trans _ _ _ ht.demotes h

/-- It ends with a change of the runtime that it has looked up, and a result or an error. -/
theorem Ends.thenUpdate {s t : ClientState} (ht : SameCatalog s t) {localDiskId : String}
    {runtime : DiskRuntime} (hfind : s.store.findRuntime localDiskId = some runtime)
    {f : DiskRuntime → DiskRuntime} (hf : Demoted paths runtime (f runtime))
    {x : ClientM α} (hx : KeepsCatalog paths x) :
    Ends (modifyStore (·.updateRuntime localDiskId f) >>= fun _ => x) t
      (fun _ v => CatalogDemotes paths s v) fun _ v => CatalogDemotes paths s v :=
  Ends.bind (Q := fun _ u => CatalogDemotes paths s u)
    (ends_of_ok (run_modify _) (Ends.updateFound ht hfind hf)) fun _ u hu =>
      (hx u).mono (fun _ _ h => IsTrans.trans _ _ _ hu h) fun _ _ h => IsTrans.trans _ _ _ hu h

theorem keepsCatalog_mountNetworkDisk (w : Answers) (localDiskId : String) :
    KeepsCatalog paths (mountNetworkDisk w localDiskId) := by
  intro s
  refine ends_bind_of_ok (t := s) rfl ?_
  have hs : SameCatalog s s := ⟨rfl, rfl, rfl⟩
  cases hfind : s.store.findRuntime localDiskId with
  | none => exact keeps_throw _ s
  | some runtime =>
    dsimp only
    cases hmounted : runtime.mountedTargetId with
    | some targetId => exact keeps_throw _ s
    | none =>
      dsimp only
      cases hinvalid : runtime.invalidReason with
      | some reason => exact keeps_throw _ s
      | none =>
        dsimp only
        cases hkey : runtime.networkKey with
        | none => exact keeps_throw _ s
        | some key =>
          dsimp only
          cases hopened : s.network.openedSession key with
          | none =>
            exact Keeps.bind (keepsCatalog_updateRuntime _ fun r => demoted_setInvalid r _)
              (fun _ => keeps_throw _) s
          | some opened =>
            dsimp only
            refine Ends.bindSame (same_ensureUsable opened.session) hs fun usable t ht => ?_
            cases usable with
            | false =>
              exact Ends.thenKeeps ht <|
                Keeps.bind (keepsCatalog_of_same (same_modifyNetwork _)) fun _ =>
                  Keeps.bind (keepsCatalog_updateRuntime _ fun r => demoted_setInvalid r _)
                    fun _ => keeps_throw _
            | true =>
              refine Ends.bindSame (same_liftExcept _) ht fun media u hu =>
                Ends.bindSame (same_tryCreateManagedDisk w media) hu fun created v hv => ?_
              cases created with
              | error text => exact Ends.thenKeeps hv (keeps_throw _)
              | ok targetId =>
                exact Ends.thenUpdate hv hfind ⟨rfl, rfl, fun _ => hinvalid⟩ (keeps_pure _)

theorem updateFirst_updateFirst {p : DiskRuntime → Bool} {f g : DiskRuntime → DiskRuntime}
    (hf : ∀ r, p (f r) = p r) (rs : List DiskRuntime) :
    DiskRuntimeStore.updateFirst p g (DiskRuntimeStore.updateFirst p f rs) =
      DiskRuntimeStore.updateFirst p (g ∘ f) rs := by
  induction rs with
  | nil => rfl
  | cons r rs ih =>
    by_cases hp : p r = true
    · simp [DiskRuntimeStore.updateFirst, hp, hf]
    · simp [DiskRuntimeStore.updateFirst, hp, ih]

theorem keepsCatalog_mountLocalDisk (w : Answers) (localDiskId : String) :
    KeepsCatalog paths (mountLocalDisk w localDiskId) := by
  intro s
  refine ends_bind_of_ok (t := s) rfl ?_
  have hs : SameCatalog s s := ⟨rfl, rfl, rfl⟩
  cases hfind : s.store.findRuntime localDiskId with
  | none => exact keeps_throw _ s
  | some runtime =>
    dsimp only
    cases hmounted : runtime.mountedTargetId with
    | some targetId => exact keeps_throw _ s
    | none =>
      dsimp only
      cases hinvalid : runtime.invalidReason with
      | some reason => exact keeps_throw _ s
      | none =>
        refine Ends.bindSame (same_failWhen _ _) hs fun _ t ht =>
          Ends.bindSame (same_liftExcept _) ht fun media t ht => ?_
        refine ends_bind_of_ok (run_modify _) ?_
        refine Ends.bind (((same_tryCreateManagedDisk w media) _).mono (fun _ _ h => h)
          fun _ v hv => ?_) fun created v hv => ?_
        · exact IsTrans.trans _ _ _ (Ends.updateFound ht hfind ⟨rfl, rfl, id⟩) hv.demotes
        · have hupdate : ∀ f : DiskRuntime → DiskRuntime,
              Demoted paths runtime (f { runtime with media := none }) →
              CatalogDemotes paths s (v.setStore (v.store.updateRuntime localDiskId f)) := by
            intro f hf
            have htwice := Ends.updateFound (f := fun r => f { r with media := none }) ht hfind hf
            refine ⟨?_, ?_, ?_, hv.holder.trans ht.holder, hv.rescan.trans ht.rescan⟩
            · have hruntimes := htwice.runtimes
              show Demotes paths _ (DiskRuntimeStore.updateFirst _ f v.store.runtimes)
              rw [hv.store]
              show Demotes paths _ (DiskRuntimeStore.updateFirst _ f
                (DiskRuntimeStore.updateFirst _ _ t.store.runtimes))
              rw [updateFirst_updateFirst (f := fun r => { r with media := none }) fun _ => rfl]
              exact hruntimes
            · show v.store.nextDiskNumber = _
              rw [hv.store]
              exact htwice.nextDiskNumber
            · show v.catalog.pendingDeletions = _
              rw [hv.catalog]
              exact htwice.pending
          cases created with
          | ok targetId =>
            exact ends_bind_of_ok (run_modify _)
              (ends_of_ok (run_pure _) (hupdate _ ⟨rfl, rfl, fun _ => hinvalid⟩))
          | error text =>
            exact ends_bind_of_ok (run_modify _)
              (ends_of_error (run_throw _) (hupdate _ ⟨rfl, rfl, id⟩))

theorem keepsCatalog_mountDisk (w : Answers) (localDiskId : String) :
    KeepsCatalog paths (mountDisk w localDiskId) := by
  refine Keeps.bind (keepsCatalog_syncPendingEvents w) fun _ => Keeps.bind keeps_get fun s => ?_
  cases s.store.findRuntime localDiskId with
  | none => exact keeps_throw _
  | some runtime =>
    dsimp only
    split
    · exact Keeps.bind (keepsCatalog_mountNetworkDisk w localDiskId) fun _ => keeps_pure _
    · exact Keeps.bind (keepsCatalog_mountLocalDisk w localDiskId) fun _ => keeps_pure _

/-- An ejection, of either kind of disk. -/
theorem ends_eject {w : Answers} {localDiskId : String} {s : ClientState} {runtime : DiskRuntime}
    (hfind : s.store.findRuntime localDiskId = some runtime) {targetId : Nat}
    {f : Media → DiskRuntime → DiskRuntime} (hf : ∀ media, Demoted paths runtime (f media runtime))
    (e : String → ApiError) :
    Ends (do
        match ← removeManagedDiskWithMedia w localDiskId targetId with
        | .error text => throw (e text)
        | .ok media => modifyStore (·.updateRuntime localDiskId (f media))) s
      (fun _ v => CatalogDemotes paths s v) fun _ v => CatalogDemotes paths s v := by
  have hs : SameCatalog s s := ⟨rfl, rfl, rfl⟩
  refine Ends.bindSame (same_removeManagedDisk w localDiskId targetId) hs fun removed t ht => ?_
  cases removed with
  | error text => exact Ends.thenKeeps ht (keeps_throw _)
  | ok media => exact ends_of_ok (run_modify _) (Ends.updateFound ht hfind (hf media))

theorem keepsCatalog_ejectNetworkDisk (w : Answers) (localDiskId : String) :
    KeepsCatalog paths (ejectNetworkDisk w localDiskId) := by
  intro s
  refine ends_bind_of_ok (t := s) rfl ?_
  cases hfind : s.store.findRuntime localDiskId with
  | none => exact keeps_throw _ s
  | some runtime =>
    dsimp only
    cases hmounted : runtime.mountedTargetId with
    | none => exact keeps_throw _ s
    | some targetId =>
      exact ends_eject hfind (f := fun _ r => r.setNetworkUnmounted r.capacityBytes r.sourceReadOnly)
        (fun _ => ⟨rfl, mediumKey_setNetworkUnmounted runtime _ _,
          fun _ => DiskRuntime.valid_of_mounted hmounted⟩) _

theorem keepsCatalog_ejectLocalDisk (w : Answers) (localDiskId : String) :
    KeepsCatalog paths (ejectLocalDisk w localDiskId) := by
  intro s
  refine ends_bind_of_ok (t := s) rfl ?_
  cases hfind : s.store.findRuntime localDiskId with
  | none => exact keeps_throw _ s
  | some runtime =>
    dsimp only
    cases hmounted : runtime.mountedTargetId with
    | none => exact keeps_throw _ s
    | some targetId =>
      exact ends_eject hfind (f := fun media r => afterRemoval w r media)
        (fun media => demoted_afterRemoval w (DiskRuntime.valid_of_mounted hmounted) media) _

theorem keepsCatalog_ejectDisk (w : Answers) (localDiskId : String) :
    KeepsCatalog paths (ejectDisk w localDiskId) := by
  refine Keeps.bind (keepsCatalog_syncPendingEvents w) fun _ => Keeps.bind keeps_get fun s => ?_
  cases s.store.findRuntime localDiskId with
  | none => exact keeps_throw _
  | some runtime =>
    dsimp only
    split
    · exact keepsCatalog_ejectNetworkDisk w localDiskId
    · exact keepsCatalog_ejectLocalDisk w localDiskId

theorem keepsCatalog_updateDisk (w : Answers) (request : UpdateDiskRequest) :
    KeepsCatalog paths (updateDisk w request) := by
  refine Keeps.bind (keepsCatalog_of_same (same_failWhen _ _)) fun _ =>
    Keeps.bind keeps_get fun s => ?_
  cases s.store.findRuntime request.localDiskId with
  | none => exact keeps_throw _
  | some runtime =>
    refine Keeps.bind (keepsCatalog_of_same (same_failWhen _ _)) fun _ =>
      Keeps.bind (keepsCatalog_updateRuntime _ fun r => ⟨rfl, rfl, id⟩) fun _ =>
        Keeps.bind (keepsCatalog_of_same (same_saveClientState w)) fun saved => ?_
    cases saved with
    | ok _ => exact keeps_pure _
    | error e =>
      exact Keeps.bind (keepsCatalog_updateRuntime _ fun r => ⟨rfl, rfl, id⟩) fun _ =>
        keeps_throw _

theorem demotes_applyDiskRemoved (w : Answers) (store : DiskRuntimeStore) (targetId : Nat) :
    Demotes paths store.runtimes (applyDiskRemoved w store targetId).runtimes := by
  refine demotes_updateFirst fun r hr => demoted_detachRuntimeAfterBackendLoss w ?_
  have hmounted := List.find?_some hr
  exact DiskRuntime.valid_of_mounted (of_decide_eq_true hmounted)

theorem demotes_applySessionBroken (w : Answers) (store : DiskRuntimeStore) :
    Demotes paths store.runtimes (applySessionBroken w store).runtimes := by
  refine demotes_map (fun r => ?_) _
  cases hr : r.mountedTargetId with
  | none => exact .refl r
  | some targetId => exact demoted_detachRuntimeAfterBackendLoss w (DiskRuntime.valid_of_mounted hr)

theorem keepsCatalog_syncBackendState (w : Answers) (broken : Bool) :
    KeepsCatalog paths (syncBackendState w broken) := by
  refine Keeps.bind keeps_get fun s => Keeps.bind (keepsCatalog_modifyStore fun store => ?_)
    fun _ => Keeps.bind (keeps_modify fun _ => SameCatalog.demotes ⟨rfl, rfl, rfl⟩) fun _ => ?_
  · induction s.backend.responses generalizing store with
    | nil => exact ⟨Demotes.refl _, rfl⟩
    | cons targetId rest ih =>
      obtain ⟨hd, hn⟩ := ih (applyDiskRemoved w store targetId)
      exact ⟨(demotes_applyDiskRemoved w store targetId).trans hd, hn⟩
  · cases broken with
    | false => exact keeps_pure _
    | true =>
      exact Keeps.bind (keeps_modify fun _ => SameCatalog.demotes ⟨rfl, rfl, rfl⟩) fun _ =>
        keepsCatalog_modifyStore fun store => ⟨demotes_applySessionBroken w store, rfl⟩

/-! ### Drafts and observations -/

theorem same_createNetworkDraft (serverAddr : String) (connection : Except String Nat) :
    Keeps SameCatalog (createNetworkDraft serverAddr connection) := by
  refine Keeps.bind (same_failWhen _ _) fun _ => ?_
  cases connection with
  | error text => exact keeps_throw _
  | ok connection => exact same_modifyNetwork _

theorem same_removeNetworkDraftItem (draftId remoteDiskId : String) :
    Keeps SameCatalog (removeNetworkDraftItem draftId remoteDiskId) := by
  refine Keeps.bind keeps_get fun s => ?_
  cases s.network.draft draftId with
  | none => exact keeps_throw _
  | some draft =>
    dsimp only
    cases draft.removeItem remoteDiskId with
    | none => exact keeps_throw _
    | some removed =>
      exact Keeps.bind (same_modifyNetwork _) fun _ => same_closeSessionForCleanup _

theorem same_disposeNetworkDraft (draftId : String) :
    Keeps SameCatalog (disposeNetworkDraft draftId) := by
  refine Keeps.bind keeps_get fun s => ?_
  cases s.network.draft draftId with
  | none => exact keeps_throw _
  | some draft =>
    exact Keeps.bind (same_modifyNetwork _) fun _ => same_modify_closeSessions _

theorem same_continueAdd (draftId diskName claimCode serverAddr : String) (connection : Nat)
    (stage : AddStage) (answer : AddAnswer) :
    Keeps SameCatalog
      (continueAdd draftId diskName claimCode serverAddr connection stage answer) := by
  unfold continueAdd
  split
  · exact keeps_throw _
  · exact Keeps.bind keeps_get fun s => Keeps.bind (same_liftExcept _) fun _ => keeps_pure _
  · exact keeps_throw _
  · exact fun s => ends_of_ok (t := { s with sessions := _ }) rfl ⟨rfl, rfl, rfl⟩
  · exact Keeps.bind (same_closeSessionForCleanup _) fun _ => keeps_throw _
  · refine Keeps.bind keeps_get fun s => ?_
    split
    · exact Keeps.bind (same_closeSessionForCleanup _) fun _ => keeps_throw _
    · exact keeps_pure _
  · refine Keeps.bind keeps_get fun s => ?_
    split
    · exact keeps_throw _
    · exact Keeps.bind (same_modifyNetwork _) fun _ => keeps_pure _
  · exact keeps_pure _

theorem same_observeFresh (task : NetworkRescanTask) (stale : Option OpenedNetworkDiskSession)
    (answer : GatewayAnswer) : Keeps SameCatalog (observeFresh task stale answer) := by
  cases answer with
  | noConnection => exact keeps_pure _
  | authFailed => exact keeps_pure _
  | authenticated connection diskId opens =>
    unfold observeFresh
    dsimp only
    split
    · exact keeps_pure _
    · cases opens with
      | failed => exact keeps_pure _
      | opened sessionId metadata =>
        intro s
        let u : ClientState :=
          { s with sessions := (s.sessions.openOn connection task.serverAddr sessionId).2 }
        have hu : SameCatalog s u := ⟨rfl, rfl, rfl⟩
        refine ends_bind_of_ok (t := s) rfl (ends_bind_of_ok (t := u) (a := ⟨⟩) rfl ?_)
        cases metadata with
        | none =>
          exact ((Keeps.bind (same_closeSessionForCleanup _) fun _ => keeps_pure _) u).mono
            (fun _ _ h => IsTrans.trans _ _ _ hu h) fun _ _ h => IsTrans.trans _ _ _ hu h
        | some metadata => exact hu

theorem same_collectTaskObservation (task : NetworkRescanTask) (answer : GatewayAnswer) :
    Keeps SameCatalog (collectTaskObservation task answer) := by
  refine Keeps.bind keeps_get fun s => ?_
  cases s.network.openedSession task.key with
  | none => exact same_observeFresh task none answer
  | some opened =>
    refine Keeps.bind (same_ensureUsable opened.session) fun usable => ?_
    cases usable with
    | true => exact keeps_pure _
    | false => exact same_observeFresh task (some opened) answer

theorem same_commitSessions (actions : List NetworkResolvedAction) :
    Keeps SameCatalog (commitSessions actions) := by
  intro s
  let u : ClientState :=
    { s with network := (takeAllForCleanup s.network (actions.flatMap (·.sessionsToCleanup))).2 }
  have hu : SameCatalog s u := ⟨rfl, rfl, rfl⟩
  refine ends_bind_of_ok (t := s) rfl (ends_bind_of_ok (t := u) (a := ⟨⟩) rfl ?_)
  exact ((same_modify_closeSessions _) u).mono (fun _ _ h => IsTrans.trans _ _ _ hu h)
    fun _ _ h => IsTrans.trans _ _ _ hu h

end Keeps

end YumeDisk.TauriClient
