import Mathlib.Data.List.Nodup
import Mathlib.Data.List.Pairwise
import YumeDisk.TauriClient.Demotion

/-!
# One runtime for each medium: the commands

A disk is checked against the store when it is created; a configuration and a rescan of the files
look for duplicates themselves.  A deletion that is undone is not checked.

* `MediaInv`: the ids tell the runtimes apart, and no two valid runtimes have one medium.
* `media_createFileDisk`, `media_deleteDisk`, `media_restoreClientState`,
  `media_rescanLocalRuntimeDisks`: the commands that keep it.
* `media_undoDeleteDisk`: under `UndoGuard`.
-/

namespace YumeDisk.TauriClient

open YumeDisk.Lib

variable {paths : PathApi}

/-! ## The ids of the disks -/

theorem parseU64_toDigits {n : Nat} (h : n ≤ u64Max) : parseU64 (Nat.toDigits 10 n) = some n := by
  have hdigit : ∀ c ∈ Nat.toDigits 10 n, c.isDigit = true := fun c hc =>
    Nat.isDigit_of_mem_toDigits (by decide) (by decide) hc
  have hdigits : stripPlus (Nat.toDigits 10 n) = Nat.toDigits 10 n := by
    unfold stripPlus
    split
    · rename_i rest hr
      exact absurd (hdigit '+' (hr ▸ List.mem_cons_self)) (by decide)
    · rfl
  unfold parseU64
  dsimp only
  rw [hdigits, Nat.ofDigitChars_ten_toDigits,
    if_pos ⟨Nat.toDigits_ne_nil, List.all_eq_true.mpr hdigit, h⟩]

/-- The id that is allocated is numbered by its number. -/
theorem parse_localDiskIdOf {n : Nat} (h : n ≤ u64Max) :
    parseLocalDiskIdNumber (DiskRuntimeStore.localDiskIdOf n) = some n := by
  have hlist : (DiskRuntimeStore.localDiskIdOf n).toList =
      'd' :: 'i' :: 's' :: 'k' :: '-' :: Nat.toDigits 10 n := by
    simp [DiskRuntimeStore.localDiskIdOf]
  unfold parseLocalDiskIdNumber
  rw [hlist]
  exact parseU64_toDigits h

/-- The ids of the runtimes, and of those whose deletion can be undone. -/
def catalogIds (catalog : DiskCatalogState) : List String :=
  catalog.runtimeStore.runtimes.map (·.localDiskId) ++
    catalog.pendingDeletions.map (·.removedRuntime.runtime.localDiskId)

/-- No id is used twice, and those that are numbered are numbered below the next number. -/
structure IdsOk (ids : List String) (next : Nat) : Prop where
  nodup : ids.Nodup
  numbers : ∀ id ∈ ids, ∀ n, parseLocalDiskIdNumber id = some n → n < next

theorem IdsOk.perm {ids ids' : List String} {next : Nat} (h : IdsOk ids next)
    (hp : ids.Perm ids') : IdsOk ids' next :=
  ⟨hp.nodup_iff.mp h.nodup, fun id hid => h.numbers id (hp.mem_iff.mpr hid)⟩

theorem IdsOk.sublist {ids ids' : List String} {next : Nat} (h : IdsOk ids next)
    (hs : ids'.Sublist ids) : IdsOk ids' next :=
  ⟨h.nodup.sublist hs, fun id hid => h.numbers id (hs.subset hid)⟩

/-- **A new id** is none of those in use. -/
theorem IdsOk.fresh {ids : List String} {next : Nat} (h : IdsOk ids next) (hn : next < u64Max) :
    IdsOk (DiskRuntimeStore.localDiskIdOf next :: ids) (next + 1) := by
  have hparse := parse_localDiskIdOf (Nat.le_of_lt hn)
  refine ⟨List.nodup_cons.mpr ⟨fun hmem => ?_, h.nodup⟩, fun id hid n hnum => ?_⟩
  · exact Nat.lt_irrefl next (h.numbers _ hmem next hparse)
  · rcases List.mem_cons.mp hid with rfl | hid
    · rw [hparse] at hnum
      obtain rfl := Option.some.inj hnum
      exact Nat.lt_succ_self next
    · exact Nat.lt_succ_of_lt (h.numbers id hid n hnum)

/-! ## Rescans -/

def NetworkRescanObservation.task : NetworkRescanObservation → NetworkRescanTask
  | .candidate c => c.task
  | .failure f => f.task

/-- The tasks of a plan are of different disks. -/
def DistinctTasks (tasks : List NetworkRescanTask) : Prop := (tasks.map (·.localDiskId)).Nodup

/-- The tasks of a rescan, those it has observed first. -/
def Rescan.allTasks (rescan : Rescan) : List NetworkRescanTask :=
  rescan.observations.map NetworkRescanObservation.task ++ rescan.tasks

structure Rescan.Ok (rescan : Rescan) : Prop where
  current : DistinctTasks rescan.allTasks
  later : ∀ plan ∈ rescan.plans, DistinctTasks plan.tasks

/-- The rescan has found the disk available. -/
def NetworkResolvedAction.Available (action : NetworkResolvedAction) : Prop :=
  match action.result with
  | .invalid _ => False
  | _ => True

/-- The actions of a plan: one for each disk, and one disk available for each remote disk. -/
structure ActionsOk (actions : List NetworkResolvedAction) : Prop where
  oneForDisk : ∀ a ∈ actions, ∀ b ∈ actions, a.task.localDiskId = b.task.localDiskId → a = b
  oneAvailable : ∀ a ∈ actions, ∀ b ∈ actions, a.Available → b.Available →
    a.task.key = b.task.key → a = b

def Holder.Ok : Holder → Prop
  | .rescanning rescan => rescan.Ok
  | .committing _ _ actions plans => ActionsOk actions ∧ ∀ plan ∈ plans, DistinctTasks plan.tasks
  | _ => True

/-! ## The invariant -/

structure MediaInv (paths : PathApi) (s : ClientState) : Prop where
  ids : IdsOk (catalogIds s.catalog) s.store.nextDiskNumber
  one : OneRuntimePerMedium paths s.store.runtimes
  rescan : ∀ rescan, s.rescan = some rescan → rescan.Ok
  holder : s.holder.Ok

/-- `s'` is as good as `s`. -/
def KeepsMedia (paths : PathApi) (s s' : ClientState) : Prop := MediaInv paths s → MediaInv paths s'

instance : Std.Refl (KeepsMedia paths) := ⟨fun _ => id⟩

instance : IsTrans ClientState (KeepsMedia paths) := ⟨fun _ _ _ h h' => h' ∘ h⟩

theorem CatalogDemotes.media {s s' : ClientState} (h : CatalogDemotes paths s s') :
    KeepsMedia paths s s' := by
  intro hinv
  refine ⟨?_, hinv.one.demotes h.runtimes, ?_, ?_⟩
  · have hids : catalogIds s'.catalog = catalogIds s.catalog := by
      unfold catalogIds
      rw [h.pending]
      exact congrArg (· ++ _) h.runtimes.ids
    rw [hids, h.nextDiskNumber]
    exact hinv.ids
  · rw [h.rescan]
    exact hinv.rescan
  · rw [h.holder]
    exact hinv.holder

theorem media_of_keepsCatalog {α : Type} {x : ClientM α} (h : KeepsCatalog paths x) :
    Keeps (KeepsMedia paths) x := fun s =>
  (h s).mono (fun _ _ h => h.media) fun _ _ h => h.media

theorem media_of_same {α : Type} {x : ClientM α} (h : Keeps SameCatalog x) :
    Keeps (KeepsMedia paths) x :=
  media_of_keepsCatalog (keepsCatalog_of_same h)

/-- What depends on the catalog and the rescans only. -/
theorem MediaInv.of_eq {s s' : ClientState} (h : MediaInv paths s) (hs : SameCatalog s s') :
    MediaInv paths s' :=
  (SameCatalog.demotes hs).media h

/-! ## Creation -/

/-- A runtime whose medium no valid runtime has. -/
theorem OneRuntimePerMedium.concat {rs : List DiskRuntime} (h : OneRuntimePerMedium paths rs)
    {r : DiskRuntime}
    (hr : ∀ k, r.heldMedium paths = some k → k ∉ rs.filterMap (·.heldMedium paths)) :
    OneRuntimePerMedium paths (rs ++ [r]) := by
  show ((rs ++ [r]).filterMap _).Nodup
  rw [List.filterMap_append]
  cases hk : r.heldMedium paths with
  | none =>
    rw [List.filterMap_cons_none hk, List.filterMap_nil, List.append_nil]
    exact h
  | some k =>
    rw [List.filterMap_cons_some hk, List.filterMap_nil]
    exact List.nodup_append.mpr ⟨h, by simp, fun a ha b hb => by
      rintro rfl
      exact hr a (hk.trans (congrArg some (List.mem_singleton.mp hb).symm)) ha⟩

theorem ends_allocateLocalDiskId (s : ClientState) :
    Ends allocateLocalDiskId s
      (fun id t => s.store.nextDiskNumber < u64Max ∧
        id = DiskRuntimeStore.localDiskIdOf s.store.nextDiskNumber ∧
        t = s.setStore { s.store with nextDiskNumber := s.store.nextDiskNumber + 1 })
      fun _ t => t = s := by
  refine ends_bind_of_ok (t := s) rfl ?_
  dsimp only
  by_cases hn : u64Max ≤ s.store.nextDiskNumber
  · rw [failWhen, if_pos hn]
    exact ends_of_error (run_throw_bind _) rfl
  · rw [failWhen, if_neg hn]
    exact ⟨Nat.lt_of_not_le hn, rfl, rfl⟩

/-- **A runtime with a new id** whose medium no valid runtime has. -/
theorem MediaInv.insert {s : ClientState} (h : MediaInv paths s)
    (hn : s.store.nextDiskNumber < u64Max) {r : DiskRuntime}
    (hid : r.localDiskId = DiskRuntimeStore.localDiskIdOf s.store.nextDiskNumber)
    (hr : ∀ k, r.heldMedium paths = some k →
      k ∉ s.store.runtimes.filterMap (·.heldMedium paths)) :
    MediaInv paths (s.setStore ({ s.store with
      nextDiskNumber := s.store.nextDiskNumber + 1 }.insertRuntime r)) := by
  have hbump : ({ s.store with nextDiskNumber := s.store.nextDiskNumber + 1 } :
      DiskRuntimeStore).bumpNextDiskNumber r.localDiskId =
      { s.store with nextDiskNumber := s.store.nextDiskNumber + 1 } := by
    unfold DiskRuntimeStore.bumpNextDiskNumber
    rw [hid, parse_localDiskIdOf (Nat.le_of_lt hn)]
    dsimp only
    rw [if_neg (by omega)]
  unfold DiskRuntimeStore.insertRuntime
  rw [hbump]
  refine ⟨?_, ?_, h.rescan, h.holder⟩
  · refine (h.ids.fresh hn).perm ?_
    show (_ :: (s.store.runtimes.map (·.localDiskId) ++ _)).Perm
      ((s.store.runtimes ++ [r]).map (·.localDiskId) ++ _)
    rw [List.map_append, List.map_singleton, hid]
    refine List.perm_middle.symm.trans ?_
    rw [List.append_assoc]
    exact .refl _
  · exact OneRuntimePerMedium.concat h.one hr

/-- The first element that `p` holds of, and the list without it. -/
theorem findIdx_split {α : Type} {xs : List α} {p : α → Bool} {x : α}
    (h : xs[xs.findIdx p]? = some x) :
    p x = true ∧ ∃ ys zs, xs = ys ++ x :: zs ∧ xs.findIdx p = ys.length ∧
      xs.eraseIdx (xs.findIdx p) = ys ++ zs := by
  obtain ⟨hlt, hget⟩ := List.getElem?_eq_some_iff.mp h
  refine ⟨hget ▸ List.findIdx_getElem, xs.take (xs.findIdx p), xs.drop (xs.findIdx p + 1),
    ?_, ?_, List.eraseIdx_eq_take_drop_succ ..⟩
  · rw [← hget, List.getElem_cons_drop, List.take_append_drop]
  · rw [List.length_take]
    omega

/-- `remove_runtime` takes one runtime out. -/
theorem removeRuntime_spec {store : DiskRuntimeStore} {localDiskId : String}
    {removed : RemovedDiskRuntime} {store' : DiskRuntimeStore}
    (h : store.removeRuntime localDiskId = some (removed, store')) :
    removed.runtime.localDiskId = localDiskId ∧
      ∃ rs rs', store.runtimes = rs ++ removed.runtime :: rs' ∧ removed.index = rs.length ∧
        store' = { store with runtimes := rs ++ rs' } := by
  unfold DiskRuntimeStore.removeRuntime at h
  dsimp only at h
  cases hr : store.runtimes[store.runtimes.findIdx (·.localDiskId = localDiskId)]? with
  | none =>
    rw [hr] at h
    cases h
  | some runtime =>
    rw [hr] at h
    obtain ⟨rfl, rfl⟩ := Prod.mk.inj (Option.some.inj h)
    obtain ⟨hid, rs, rs', hrs, hindex, herase⟩ := findIdx_split hr
    exact ⟨of_decide_eq_true hid, rs, rs', hrs, hindex, by rw [herase]⟩

theorem removeRuntime_isSome {store : DiskRuntimeStore} {r : DiskRuntime}
    (h : r ∈ store.runtimes) : (store.removeRuntime r.localDiskId).isSome := by
  unfold DiskRuntimeStore.removeRuntime
  dsimp only
  have hlt : store.runtimes.findIdx (·.localDiskId = r.localDiskId) < store.runtimes.length :=
    List.findIdx_lt_length_of_exists ⟨r, h, by simp⟩
  rw [List.getElem?_eq_getElem hlt]
  rfl

theorem dropRuntime_spec (store : DiskRuntimeStore) (localDiskId : String) :
    (store.dropRuntime localDiskId).nextDiskNumber = store.nextDiskNumber ∧
      (store.dropRuntime localDiskId).runtimes.Sublist store.runtimes := by
  unfold DiskRuntimeStore.dropRuntime
  cases hr : store.removeRuntime localDiskId with
  | none => exact ⟨rfl, .refl _⟩
  | some result =>
    obtain ⟨removed, store'⟩ := result
    obtain ⟨-, rs, rs', hrs, -, rfl⟩ := removeRuntime_spec hr
    refine ⟨rfl, ?_⟩
    rw [hrs]
    exact (List.Sublist.refl rs).append (List.sublist_cons_self _ _)

theorem MediaInv.dropRuntime {s : ClientState} (h : MediaInv paths s) (localDiskId : String) :
    MediaInv paths (s.setStore (s.store.dropRuntime localDiskId)) := by
  obtain ⟨hn, hs⟩ := dropRuntime_spec s.store localDiskId
  refine ⟨?_, h.one.sublist (hs.filterMap _), h.rescan, h.holder⟩
  show IdsOk _ (s.store.dropRuntime localDiskId).nextDiskNumber
  rw [hn]
  exact h.ids.sublist ((hs.map _).append_right _)

theorem media_saveOrRemove (w : Answers) (localDiskId : String) :
    Keeps (KeepsMedia paths) (saveOrRemove w localDiskId) := by
  refine Keeps.bind (media_of_same (same_saveClientState w)) fun saved => ?_
  cases saved with
  | ok _ => exact keeps_pure _
  | error error =>
    exact Keeps.bind (keeps_modify fun s h => h.dropRuntime localDiskId) fun _ => keeps_throw _

/-- The flows that allocate an id and insert a runtime with it. -/
theorem ends_allocateInsert {s : ClientState} (h : MediaInv paths s)
    {runtime : String → DiskRuntime} (hid : ∀ id, (runtime id).localDiskId = id)
    (hr : ∀ id k, (runtime id).heldMedium paths = some k →
      k ∉ s.store.runtimes.filterMap (·.heldMedium paths))
    {β : Type} {f : String → ClientM β} (hf : ∀ id, Keeps (KeepsMedia paths) (f id)) :
    Ends (do
        let id ← allocateLocalDiskId
        modifyStore (·.insertRuntime (runtime id))
        f id) s (fun _ t => MediaInv paths t) fun _ t => MediaInv paths t := by
  refine Ends.bind ((ends_allocateLocalDiskId s).mono (fun _ _ h => h) fun _ t ht => ?_)
    fun id t ht => ?_
  · exact ht ▸ h
  · obtain ⟨hn, rfl, rfl⟩ := ht
    refine ends_bind_of_ok (run_modify _) ?_
    have hinsert := h.insert hn (hid _) (hr (DiskRuntimeStore.localDiskIdOf s.store.nextDiskNumber))
    exact (hf _ _).mono (fun _ _ ht => ht hinsert) fun _ _ ht => ht hinsert

/-- Only the states that satisfy the invariant are looked at. -/
theorem ends_media {α : Type} {x : ClientM α} {s : ClientState}
    (h : MediaInv paths s → Ends x s (fun _ t => MediaInv paths t) fun _ t => MediaInv paths t) :
    Ends x s (fun _ t => KeepsMedia paths s t) fun _ t => KeepsMedia paths s t := by
  by_cases hs : MediaInv paths s
  · exact (h hs).mono (fun _ _ ht _ => ht) fun _ _ ht _ => ht
  · unfold Ends
    cases x s <;> exact fun h => absurd h hs

theorem heldMedium_of_memory {r : DiskRuntime} {kind : MemoryMediaKind} {capacity : Nat}
    (h : r.mediaConfig = .memory kind capacity) : r.heldMedium paths = none := by
  simp [DiskRuntime.heldMedium, DiskRuntime.mediumKey, h]

theorem heldMedium_of_invalid {r : DiskRuntime} {reason : String} (h : r.state = .invalid reason) :
    r.heldMedium paths = none := by
  simp [DiskRuntime.heldMedium, DiskRuntime.Valid, DiskRuntime.invalidReason, h]

theorem media_createMemoryDisk (w : Answers) (request : CreateMemoryDiskRequest) :
    Keeps (KeepsMedia paths) (createMemoryDisk w request) := by
  refine Keeps.bind (media_of_same (same_failWhen _ _)) fun _ =>
    Keeps.bind (media_of_same (same_failWhen _ _)) fun _ =>
      Keeps.bind (media_of_same (same_liftExcept _)) fun capacityBytes =>
        Keeps.bind (media_of_same (same_liftExcept _)) fun _ s => ends_media fun h => ?_
  refine ends_allocateInsert h (fun _ => rfl) (fun id k hk => ?_) fun id =>
    media_saveOrRemove w id
  rw [heldMedium_of_memory rfl] at hk
  cases hk

/-- **The check of a new file** against every runtime of the store. -/
theorem ensureUniqueFilePath_ok {store : DiskRuntimeStore} {filePath : String}
    (h : ensureUniqueFilePath paths store filePath = .ok ()) :
    ∀ p, paths.normalized? filePath = some p →
      MediumKey.file p ∉ store.runtimes.filterMap (·.heldMedium paths) := by
  obtain ⟨candidate, hcandidate, h⟩ := except_of_bind_ok h
  cases hdup : store.runtimes.findSome? (duplicatePath paths candidate) with
  | some existing =>
    rw [hdup] at h
    cases h
  | none =>
    intro p hp hmem
    have hp' : p = candidate := by
      unfold PathApi.normalized? at hp
      rw [hcandidate] at hp
      exact (Option.some.inj hp).symm
    subst hp'
    obtain ⟨r, hr, hk⟩ := List.mem_filterMap.mp hmem
    have hnone := List.findSome?_eq_none_iff.mp hdup r hr
    unfold DiskRuntime.heldMedium at hk
    split_ifs at hk
    unfold DiskRuntime.mediumKey at hk
    unfold duplicatePath DiskRuntime.filePath? at hnone
    cases hconfig : r.mediaConfig with
    | memory kind capacity =>
      rw [hconfig] at hk
      cases hk
    | network a d m c =>
      rw [hconfig] at hk
      cases hk
    | file path capacity =>
      rw [hconfig] at hk hnone
      obtain ⟨q, hq, heq⟩ := Option.map_eq_some_iff.mp hk
      cases heq
      simp [hq] at hnone

theorem media_createFileDiskRuntime (w : Answers) (request : CreateFileDiskRequest) :
    Keeps (KeepsMedia paths) (createFileDiskRuntime paths w request) := by
  unfold createFileDiskRuntime
  dsimp only
  refine Keeps.bind (media_of_same (same_failWhen _ _)) fun _ =>
    Keeps.bind (media_of_same (same_failWhen _ _)) fun _ => ?_
  intro s
  refine ends_media fun h => ?_
  refine ends_bind_of_ok (t := s) rfl ?_
  cases hunique : ensureUniqueFilePath paths s.store (trim request.filePath) with
  | error e => exact ends_of_error (run_throw_bind _) h
  | ok _ =>
    refine ends_bind_of_ok (a := ()) (t := s) rfl
      (ends_allocateInsert h (fun id => ?_) (fun id k hk => ?_) fun id => keeps_pure id)
    · unfold fileRuntime
      split <;> rfl
    · unfold fileRuntime at hk
      cases hprobe : w.probe (trim request.filePath) with
      | error e =>
        rw [hprobe, heldMedium_of_invalid rfl] at hk
        cases hk
      | ok probe =>
        rw [hprobe] at hk
        obtain ⟨p, hp, rfl⟩ := Option.map_eq_some_iff.mp hk
        exact ensureUniqueFilePath_ok hunique p hp

theorem media_createFileDisk (w : Answers) (request : CreateFileDiskRequest) :
    Keeps (KeepsMedia paths) (createFileDisk paths w request) :=
  Keeps.bind (media_createFileDiskRuntime w request) fun id => media_saveOrRemove w id

theorem media_createNewFileDisk (w : Answers) (files : NewFileAnswers)
    (request : CreateNewFileDiskRequest) :
    Keeps (KeepsMedia paths) (createNewFileDisk paths w files request) := by
  unfold createNewFileDisk
  dsimp only
  refine Keeps.bind (media_of_same (same_failWhen _ _)) fun _ =>
    Keeps.bind (media_of_same (same_failWhen _ _)) fun _ => Keeps.bind keeps_get fun s =>
      Keeps.bind (media_of_same (same_liftExcept _)) fun _ =>
        Keeps.bind (media_of_same (same_failWhen _ _)) fun _ =>
          Keeps.bind (media_of_same (same_failWhen _ _)) fun _ =>
            Keeps.bind (media_of_same (same_liftExcept _)) fun _ => ?_
  cases files.parent with
  | none => exact keeps_throw _
  | some parent =>
    exact Keeps.bind (media_of_same (same_failWhen _ _)) fun _ =>
      Keeps.bind (media_of_same (same_failWhen _ _)) fun _ =>
        Keeps.bind (media_of_same (same_liftExcept _)) fun _ =>
          Keeps.bind (media_createFileDiskRuntime w _) fun id => media_saveOrRemove w id

theorem ends_insertDraftRuntimes (serverAddr : String) (items : List NetworkDraftItem) :
    Keeps (KeepsMedia paths) (insertDraftRuntimes serverAddr items) := by
  induction items with
  | nil => exact keeps_pure _
  | cons item items ih =>
    intro s
    refine ends_media fun h => ?_
    refine ends_allocateInsert h (fun _ => rfl) (fun id k hk => ?_) fun id =>
      Keeps.bind ih fun _ => keeps_pure _
    rw [heldMedium_of_invalid rfl] at hk
    cases hk

theorem media_submitNetworkDraft (w : Answers) (draftId : String) :
    Keeps (KeepsMedia paths) (submitNetworkDraft w draftId) := by
  refine Keeps.bind (media_of_keepsCatalog (keepsCatalog_syncPendingEvents w)) fun _ =>
    Keeps.bind keeps_get fun s => ?_
  cases s.network.draft draftId with
  | none => exact keeps_throw _
  | some draft =>
    refine Keeps.bind (media_of_same (same_failWhen _ _)) fun _ =>
      Keeps.bind (media_of_same (same_liftExcept _)) fun _ =>
        Keeps.bind (ends_insertDraftRuntimes _ _) fun localDiskIds =>
          Keeps.bind (media_of_same (same_saveClientState w)) fun saved => ?_
    cases saved with
    | ok _ => exact keeps_pure _
    | error e =>
      refine Keeps.bind (keeps_modify fun s h => ?_) fun _ => keeps_throw _
      induction localDiskIds.reverse generalizing s with
      | nil => exact h.of_eq ⟨rfl, rfl, rfl⟩
      | cons id ids ih => exact ih _ (h.dropRuntime id)

/-! ## Deletion -/

theorem insertIdx_append (rs rs' : List DiskRuntime) (r : DiskRuntime) :
    (rs ++ rs').insertIdx rs.length r = rs ++ r :: rs' := by
  induction rs with
  | nil => rfl
  | cons x rs ih => exact congrArg (x :: ·) ih

/-- A runtime whose number has been counted is put back. -/
theorem restoreRemovedRuntime_spec {store : DiskRuntimeStore} (removed : RemovedDiskRuntime)
    (hnum : ∀ n, parseLocalDiskIdNumber removed.runtime.localDiskId = some n →
      n < store.nextDiskNumber) :
    store.restoreRemovedRuntime removed =
      { store with runtimes := store.runtimes.take removed.index ++
          removed.runtime :: store.runtimes.drop removed.index } := by
  have hbump : store.bumpNextDiskNumber removed.runtime.localDiskId = store := by
    unfold DiskRuntimeStore.bumpNextDiskNumber
    cases hn : parseLocalDiskIdNumber removed.runtime.localDiskId with
    | none => rfl
    | some n =>
      dsimp only
      rw [if_neg (Nat.not_le_of_lt (hnum n hn))]
  have hinsert := insertIdx_append (store.runtimes.take removed.index)
    (store.runtimes.drop removed.index) removed.runtime
  rw [List.take_append_drop, List.length_take] at hinsert
  unfold DiskRuntimeStore.restoreRemovedRuntime
  rw [hbump]
  dsimp only
  rw [hinsert]

theorem ends_attempt {α : Type} {x : ClientM α} {s : ClientState}
    {Q : α → ClientState → Prop} {E : ApiError → ClientState → Prop} (h : Ends x s Q E) :
    Ends (attempt x) s
      (fun result t =>
        match result with
        | .ok a => Q a t
        | .error e => E e t) fun _ _ => False := by
  unfold Ends at h
  cases hx : x s with
  | ok a t =>
    rw [hx] at h
    refine ends_of_ok (a := .ok a) (t := t) ?_ h
    unfold attempt
    rw [hx]
  | error e t =>
    rw [hx] at h
    refine ends_of_ok (a := .error e) (t := t) ?_ h
    unfold attempt
    rw [hx]

theorem ends_prepareDeletedRuntime (w : Answers) (runtime : DiskRuntime) (s : ClientState) :
    Ends (prepareDeletedRuntime w runtime) s
      (fun r t => SameCatalog s t ∧ Demoted paths runtime r) fun _ t => SameCatalog s t := by
  unfold prepareDeletedRuntime
  split
  · refine Ends.bind (Q := fun _ t => SameCatalog s t) ?_ fun _ t ht =>
      Ends.bind (Q := fun _ t => SameCatalog s t) ?_ fun _ u hu =>
        ⟨hu, demoted_setInvalid runtime _⟩
    · cases runtime.mountedTargetId with
      | none => exact ⟨rfl, rfl, rfl⟩
      | some targetId =>
        refine Keeps.bind (same_removeManagedDisk w _ targetId) (fun removed => ?_) s
        cases removed with
        | error text => exact keeps_throw _
        | ok media => exact keeps_pure _
    · have hclose : Keeps SameCatalog (whenSome runtime.networkKey fun key => do
          let s ← get
          let openedSession := s.network.openedSession key
          modifyNetwork (·.removeOpenedSession key)
          whenSome openedSession fun opened => closeSessionForCleanup opened.session) := by
        cases runtime.networkKey with
        | none => exact keeps_pure _
        | some key =>
          refine Keeps.bind keeps_get fun s => Keeps.bind (same_modifyNetwork _) fun _ => ?_
          cases s.network.openedSession key with
          | none => exact keeps_pure _
          | some opened => exact same_closeSessionForCleanup _
      exact (hclose t).mono (fun _ _ h => IsTrans.trans _ _ _ ht h)
        fun _ _ h => IsTrans.trans _ _ _ ht h
  · unfold prepareDeletedLocalRuntime
    cases hmounted : runtime.mountedTargetId with
    | none => exact ⟨⟨rfl, rfl, rfl⟩, .refl runtime⟩
    | some targetId =>
      refine Ends.bind ((same_removeManagedDisk w _ targetId) s) fun removed t ht => ?_
      cases removed with
      | error text => exact ends_of_error (run_throw _) ht
      | ok media =>
        exact ⟨ht, demoted_afterRemoval w (DiskRuntime.valid_of_mounted hmounted) media⟩

/-- The catalog with a runtime that has been demoted while it was out of the store. -/
theorem MediaInv.putBack {s t : ClientState} (h : MediaInv paths s) {rs rs' : List DiskRuntime}
    {r r' : DiskRuntime} (hrs : s.store.runtimes = rs ++ r :: rs') (hr : Demoted paths r r')
    (ht : SameCatalog (s.setStore { s.store with runtimes := rs ++ rs' }) t) {index : Nat}
    (hindex : index = rs.length) :
    MediaInv paths (t.setStore (t.store.restoreRemovedRuntime ⟨index, r'⟩)) := by
  have hmem : r ∈ s.store.runtimes := hrs ▸ by simp
  have hstore : t.store = { s.store with runtimes := rs ++ rs' } := ht.store
  have hback := @restoreRemovedRuntime_spec t.store ⟨index, r'⟩ (by
    intro n hn
    rw [hstore]
    refine h.ids.numbers r.localDiskId ?_ n (hr.localDiskId ▸ hn)
    exact List.mem_append_left _ (List.mem_map_of_mem hmem))
  rw [hback, show t.store.runtimes = rs ++ rs' from congrArg _ hstore, hindex, List.take_left,
    List.drop_left]
  have hdemotes : CatalogDemotes paths s
      (t.setStore { t.store with runtimes := rs ++ r' :: rs' }) := by
    refine ⟨?_, ?_, ?_, ht.holder, ht.rescan⟩
    · show Demotes paths s.store.runtimes (rs ++ r' :: rs')
      rw [hrs]
      exact List.rel_append (Demotes.refl rs) (.cons hr (Demotes.refl rs'))
    · show t.store.nextDiskNumber = _
      rw [hstore]
    · show t.catalog.pendingDeletions = _
      rw [ht.catalog]
      rfl
  exact hdemotes.media h

/-- The runtime waits for its deletion to be undone or committed. -/
theorem MediaInv.stage {s t : ClientState} (h : MediaInv paths s) {rs rs' : List DiskRuntime}
    {r r' : DiskRuntime} (hrs : s.store.runtimes = rs ++ r :: rs') (hr : Demoted paths r r')
    (ht : SameCatalog (s.setStore { s.store with runtimes := rs ++ rs' }) t) {index : Nat} :
    MediaInv paths { t with catalog := (t.catalog.stagePendingDeletion ⟨index, r'⟩).2 } := by
  have hcatalog : t.catalog =
      { s.catalog with runtimeStore := { s.store with runtimes := rs ++ rs' } } := ht.catalog
  refine ⟨?_, ?_, ?_, ?_⟩
  · have hids : catalogIds (t.catalog.stagePendingDeletion ⟨index, r'⟩).2 =
        (rs ++ rs').map (·.localDiskId) ++
          (s.catalog.pendingDeletions.map (·.removedRuntime.runtime.localDiskId) ++
            [r.localDiskId]) := by
      rw [hcatalog, ← hr.localDiskId]
      simp [catalogIds, DiskCatalogState.stagePendingDeletion]
    have hnext : (t.catalog.stagePendingDeletion ⟨index, r'⟩).2.runtimeStore.nextDiskNumber =
        s.store.nextDiskNumber := by
      rw [hcatalog]
      rfl
    show IdsOk (catalogIds (t.catalog.stagePendingDeletion ⟨index, r'⟩).2)
      (t.catalog.stagePendingDeletion ⟨index, r'⟩).2.runtimeStore.nextDiskNumber
    rw [hids, hnext]
    refine h.ids.perm ?_
    unfold catalogIds
    rw [show s.catalog.runtimeStore.runtimes = rs ++ r :: rs' from hrs]
    simp only [List.map_append, List.map_cons, List.append_assoc, List.cons_append]
    refine List.Perm.append_left _ ?_
    refine (List.perm_append_singleton _ _).symm.trans ?_
    rw [List.append_assoc]
  · show OneRuntimePerMedium paths t.catalog.runtimeStore.runtimes
    rw [hcatalog]
    refine h.one.sublist (List.Sublist.filterMap _ ?_)
    rw [hrs]
    exact (List.Sublist.refl rs).append (List.sublist_cons_self _ _)
  · intro rescan hrescan
    exact h.rescan rescan (ht.rescan ▸ hrescan)
  · show t.holder.Ok
    rw [ht.holder]
    exact h.holder

theorem media_deleteDisk (w : Answers) (localDiskId : String) :
    Keeps (KeepsMedia paths) (deleteDisk w localDiskId) := by
  refine Keeps.bind (media_of_keepsCatalog (keepsCatalog_syncPendingEvents w)) fun _ s => ?_
  refine ends_bind_of_ok (t := s) rfl ?_
  cases hremove : s.store.removeRuntime localDiskId with
  | none => exact keeps_throw _ s
  | some result =>
    obtain ⟨removed, store'⟩ := result
    obtain ⟨-, rs, rs', hrs, hindex, rfl⟩ := removeRuntime_spec hremove
    refine ends_media fun h => ?_
    let u : ClientState := s.setStore { s.store with runtimes := rs ++ rs' }
    refine ends_bind_of_ok (a := ⟨⟩) (t := u) rfl ?_
    have hprepare := ends_attempt (@ends_prepareDeletedRuntime paths w removed.runtime u)
    refine Ends.bind (hprepare.mono (fun _ _ h => h) fun _ _ h => h.elim) fun result t ht => ?_
    cases result with
    | error e =>
      refine ends_bind_of_ok (run_modify _) ?_
      exact h.putBack hrs (Demoted.refl removed.runtime) ht hindex
    | ok r =>
      have hsaved := IsTrans.trans _ _ _ ht.1 (same_saveConfig t w)
      refine ends_bind_of_ok (run_saveClientState w t) ?_
      cases w.saves with
      | error e =>
        refine ends_bind_of_ok (run_modify _) ?_
        exact h.putBack hrs ht.2 hsaved hindex
      | ok _ => exact h.stage hrs ht.2 hsaved

/-- `take_pending_deletion` takes one deletion out. -/
theorem takePendingDeletion_spec {catalog catalog' : DiskCatalogState} {deletionId : String}
    {pending : PendingDiskDeletion}
    (h : catalog.takePendingDeletion deletionId = some (pending, catalog')) :
    ∃ ps ps', catalog.pendingDeletions = ps ++ pending :: ps' ∧
      catalog' = { catalog with pendingDeletions := ps ++ ps' } := by
  unfold DiskCatalogState.takePendingDeletion at h
  dsimp only at h
  cases hp : catalog.pendingDeletions[catalog.pendingDeletions.findIdx
      (·.deletionId = deletionId)]? with
  | none =>
    rw [hp] at h
    cases h
  | some found =>
    rw [hp] at h
    obtain ⟨rfl, rfl⟩ := Prod.mk.inj (Option.some.inj h)
    obtain ⟨-, ps, ps', hps, -, herase⟩ := findIdx_split hp
    exact ⟨ps, ps', hps, by rw [herase]⟩

theorem MediaInv.takePending {s : ClientState} (h : MediaInv paths s)
    {pending : PendingDiskDeletion} {ps ps' : List PendingDiskDeletion}
    (hps : s.catalog.pendingDeletions = ps ++ pending :: ps') :
    MediaInv paths { s with catalog := { s.catalog with pendingDeletions := ps ++ ps' } } := by
  refine ⟨h.ids.sublist ?_, h.one, h.rescan, h.holder⟩
  refine (List.Sublist.refl _).append (List.Sublist.map _ ?_)
  rw [hps]
  exact (List.Sublist.refl ps).append (List.sublist_cons_self _ _)

theorem media_commitDeletedDisk (deletionId : String) :
    Keeps (KeepsMedia paths) (commitDeletedDisk deletionId) := by
  intro s
  refine ends_media fun h => ends_bind_of_ok (t := s) rfl ?_
  cases htake : s.catalog.takePendingDeletion deletionId with
  | none => exact ends_of_error (run_throw _) h
  | some result =>
    obtain ⟨pending, catalog⟩ := result
    obtain ⟨ps, ps', hps, rfl⟩ := takePendingDeletion_spec htake
    exact h.takePending hps

/-- No runtime of the store that is not invalid has the medium of the deleted one, unless the
deletion is not undone. -/
def UndoGuard (paths : PathApi) (s : ClientState) (w : Answers) (deletionId : String) : Prop :=
  w.saves = .ok () → ∀ taken ∈ s.catalog.takePendingDeletion deletionId,
    ∀ k ∈ taken.1.removedRuntime.runtime.heldMedium paths,
      k ∉ s.store.runtimes.filterMap (·.heldMedium paths)

/-- Runtimes of one id are one. -/
theorem eq_of_nodup_ids {rs : List DiskRuntime} (h : (rs.map (·.localDiskId)).Nodup)
    {r r' : DiskRuntime} (hr : r ∈ rs) (hr' : r' ∈ rs) (hid : r.localDiskId = r'.localDiskId) :
    r = r' :=
  List.inj_on_of_nodup_map h hr hr' hid

theorem OneRuntimePerMedium.perm {rs rs' : List DiskRuntime} (h : OneRuntimePerMedium paths rs)
    (hp : rs.Perm rs') : OneRuntimePerMedium paths rs' :=
  (hp.filterMap _).nodup_iff.mp h

theorem media_undoDeleteDisk {s : ClientState} (h : MediaInv paths s) {w : Answers}
    {deletionId : String} (hguard : UndoGuard paths s w deletionId) :
    Ends (undoDeleteDisk w deletionId) s (fun _ t => MediaInv paths t)
      fun _ t => MediaInv paths t := by
  refine ends_bind_of_ok (t := s) rfl ?_
  cases htake : s.catalog.takePendingDeletion deletionId with
  | none => exact ends_of_error (run_throw _) h
  | some result =>
    obtain ⟨⟨id, removed⟩, catalog⟩ := result
    have hno := fun hsaves => hguard hsaves _ htake
    obtain ⟨ps, ps', hps, rfl⟩ := takePendingDeletion_spec htake
    dsimp only at hps hno ⊢
    set r := removed.runtime with hr
    set rs := s.store.runtimes.take removed.index with hrs
    set rs' := s.store.runtimes.drop removed.index with hrs'
    have hall : s.store.runtimes = rs ++ rs' := (List.take_append_drop _ _).symm
    have hback := @restoreRemovedRuntime_spec s.store removed (by
      refine h.ids.numbers _ (List.mem_append_right _ ?_)
      rw [hps]
      simp)
    rw [← hrs, ← hrs', ← hr] at hback
    have hids : IdsOk ((rs ++ r :: rs').map (·.localDiskId) ++
        (ps ++ ps').map (·.removedRuntime.runtime.localDiskId)) s.store.nextDiskNumber := by
      refine h.ids.perm ?_
      unfold catalogIds
      rw [show s.catalog.runtimeStore.runtimes = rs ++ rs' from hall, hps]
      simp only [List.map_append, List.map_cons, List.append_assoc, List.cons_append, ← hr]
      refine .append_left _ ?_
      rw [← List.append_assoc, ← List.append_assoc]
      exact List.perm_middle
    refine ends_bind_of_ok (a := ⟨⟩)
      (t := { s with catalog := { s.catalog with pendingDeletions := ps ++ ps' } }) rfl ?_
    let u : ClientState := { s with
      catalog := { s.catalog with
        runtimeStore := { s.store with runtimes := rs ++ r :: rs' }
        pendingDeletions := ps ++ ps' } }
    refine ends_bind_of_ok (a := ⟨⟩) (t := u) ((run_modify _).trans ?_) ?_
    · show EStateM.Result.ok _ (ClientState.setStore _ (s.store.restoreRemovedRuntime removed)) = _
      rw [hback]
      rfl
    refine ends_bind_of_ok (run_saveClientState w u) ?_
    set u' := u.saveConfig w
    cases hsaves : w.saves with
    | ok _ =>
      refine ⟨hids, ?_, h.rescan, h.holder⟩
      refine @OneRuntimePerMedium.perm paths (r :: s.store.runtimes) _ ?_
        (hall ▸ List.perm_middle.symm)
      show ((r :: s.store.runtimes).filterMap _).Nodup
      cases hk : r.heldMedium paths with
      | none =>
        rw [List.filterMap_cons_none hk]
        exact h.one
      | some k =>
        rw [List.filterMap_cons_some hk]
        exact List.nodup_cons.mpr ⟨hno hsaves k hk, h.one⟩
    | error e =>
      -- the runtime is taken out again, by its id
      refine ends_bind_of_ok (t := u') rfl ?_
      cases hremove : u'.store.removeRuntime r.localDiskId with
      | none =>
        have hmem : r ∈ u'.store.runtimes := List.mem_append_right _ List.mem_cons_self
        have hsome := removeRuntime_isSome hmem
        rw [hremove] at hsome
        cases hsome
      | some result =>
        obtain ⟨removed', store'⟩ := result
        obtain ⟨hid, qs, qs', hqs, -, rfl⟩ := removeRuntime_spec hremove
        have hsame : removed'.runtime = r := by
          have hnodup := (List.nodup_append.mp hids.nodup).1
          refine eq_of_nodup_ids hnodup ?_ (by simp) hid
          rw [show rs ++ r :: rs' = qs ++ removed'.runtime :: qs' from hqs]
          simp
        have hperm : (qs ++ qs').Perm s.store.runtimes := by
          rw [hall]
          refine (List.perm_cons r).mp ?_
          have hcons := @List.perm_middle _ r rs rs'
          rw [show rs ++ r :: rs' = qs ++ removed'.runtime :: qs' from hqs, hsame] at hcons
          exact List.perm_middle.symm.trans hcons
        refine ends_bind_of_ok (a := ⟨⟩) (t := u'.setStore { u'.store with runtimes := qs ++ qs' })
          rfl ?_
        refine ends_bind_of_ok (run_modify _) ?_
        refine ends_of_error (run_throw _) ⟨h.ids.perm ?_, h.one.perm hperm.symm, h.rescan, h.holder⟩
        show List.Perm _ ((qs ++ qs').map _ ++
          (ps ++ ps' ++ [(⟨id, removed'⟩ : PendingDiskDeletion)]).map _)
        refine (hperm.symm.map _).append ?_
        rw [hps]
        simp only [List.map_append, List.map_cons, List.map_nil, hsame, ← hr]
        exact List.perm_middle.trans (List.perm_append_singleton _ _).symm

/-! ## The configuration file -/

theorem IdsOk.bump {store : DiskRuntimeStore} {ids : List String}
    (h : IdsOk ids store.nextDiskNumber) {id : String} (hid : id ∉ ids) :
    IdsOk (id :: ids) (store.bumpNextDiskNumber id).nextDiskNumber := by
  refine ⟨List.nodup_cons.mpr ⟨hid, h.nodup⟩, fun x hx n hn => ?_⟩
  unfold DiskRuntimeStore.bumpNextDiskNumber
  rcases List.mem_cons.mp hx with rfl | hx
  · rw [hn]
    dsimp only
    split
    · exact Nat.lt_succ_self n
    · omega
  · have hlt := h.numbers x hx n hn
    cases parseLocalDiskIdNumber id with
    | none => exact hlt
    | some m =>
      dsimp only
      split
      · show n < m + 1
        omega
      · exact hlt

theorem bumpNextDiskNumber_runtimes (store : DiskRuntimeStore) (id : String) :
    (store.bumpNextDiskNumber id).runtimes = store.runtimes := by
  unfold DiskRuntimeStore.bumpNextDiskNumber
  split
  · rfl
  · split <;> rfl

/-- What has been restored: the files are those of `restoredFilePaths`. -/
structure Restored (paths : PathApi) (store : DiskRuntimeStore)
    (localDiskIds restoredFilePaths : List String) : Prop where
  ids : IdsOk (store.runtimes.map (·.localDiskId)) store.nextDiskNumber
  known : ∀ r ∈ store.runtimes, r.localDiskId ∈ localDiskIds
  one : OneRuntimePerMedium paths store.runtimes
  files : ∀ k ∈ store.runtimes.filterMap (·.heldMedium paths),
    ∃ p ∈ restoredFilePaths, k = .file p

theorem restored_nil : Restored paths {} [] [] where
  ids := ⟨List.nodup_nil, fun _ h => nomatch h⟩
  known _ h := nomatch h
  one := List.nodup_nil
  files _ h := nomatch h

/-- **One disk of the configuration**: a file is held only when its path has not been seen. -/
theorem restoreDiskRuntime_spec {w : Answers} {disk : PersistedDiskRecord}
    {restoredFilePaths restoredFilePaths' : List String} {r : DiskRuntime}
    (h : restoreDiskRuntime paths w disk restoredFilePaths = .ok (r, restoredFilePaths')) :
    r.localDiskId = disk.localDiskId ∧ restoredFilePaths ⊆ restoredFilePaths' ∧
      ∀ k, r.heldMedium paths = some k →
        ∃ p, k = .file p ∧ p ∉ restoredFilePaths ∧ p ∈ restoredFilePaths' := by
  unfold restoreDiskRuntime at h
  cases hmedia : disk.media with
  | memory kind capacityBytes =>
    rw [hmedia] at h
    obtain ⟨-, -, h⟩ := except_of_bind_ok h
    cases h
    refine ⟨rfl, List.Subset.refl _, fun k hk => ?_⟩
    rw [heldMedium_of_memory rfl] at hk
    cases hk
  | network serverAddr remoteDiskId authMaterial capacityBytes sourceReadOnly =>
    rw [hmedia] at h
    cases h
    refine ⟨rfl, List.Subset.refl _, fun k hk => ?_⟩
    rw [heldMedium_of_invalid rfl] at hk
    cases hk
  | file filePath =>
    rw [hmedia] at h
    dsimp only at h
    cases hnormal : paths.normalizeFullFilePath filePath with
    | error error =>
      rw [hnormal] at h
      cases h
      refine ⟨rfl, List.Subset.refl _, fun k hk => ?_⟩
      rw [restoreInvalidFile, heldMedium_of_invalid rfl] at hk
      cases hk
    | ok normalized =>
      rw [hnormal] at h
      dsimp only at h
      by_cases hseen : normalized ∈ restoredFilePaths
      · rw [if_pos hseen] at h
        cases h
        refine ⟨rfl, List.Subset.refl _, fun k hk => ?_⟩
        rw [restoreInvalidFile, heldMedium_of_invalid rfl] at hk
        cases hk
      · rw [if_neg hseen] at h
        cases hprobe : w.probe filePath with
        | error error =>
          rw [hprobe] at h
          cases h
          refine ⟨rfl, List.subset_cons_self _ _, fun k hk => ?_⟩
          rw [restoreInvalidFile, heldMedium_of_invalid rfl] at hk
          cases hk
        | ok probe =>
          rw [hprobe] at h
          cases h
          refine ⟨rfl, List.subset_cons_self _ _, fun k hk => ?_⟩
          have hk' : (paths.normalized? filePath).map MediumKey.file = some k := hk
          unfold PathApi.normalized? at hk'
          rw [hnormal] at hk'
          obtain rfl := Option.some.inj hk'
          exact ⟨normalized, rfl, hseen, List.mem_cons_self⟩

theorem Restored.insert {store : DiskRuntimeStore} {localDiskIds restoredFilePaths : List String}
    (h : Restored paths store localDiskIds restoredFilePaths) {w : Answers}
    {disk : PersistedDiskRecord} (hid : disk.localDiskId ∉ localDiskIds) {r : DiskRuntime}
    {restoredFilePaths' : List String}
    (hr : restoreDiskRuntime paths w disk restoredFilePaths = .ok (r, restoredFilePaths')) :
    Restored paths (store.insertRuntime r) (disk.localDiskId :: localDiskIds)
      restoredFilePaths' := by
  obtain ⟨hrid, hsub, hheld⟩ := restoreDiskRuntime_spec hr
  have hruntimes : (store.insertRuntime r).runtimes = store.runtimes ++ [r] := by
    unfold DiskRuntimeStore.insertRuntime
    dsimp only
    rw [bumpNextDiskNumber_runtimes]
  have hnew : r.localDiskId ∉ store.runtimes.map (·.localDiskId) := by
    intro hmem
    obtain ⟨x, hx, heq⟩ := List.mem_map.mp hmem
    exact hid (hrid ▸ heq ▸ h.known x hx)
  have hold : ∀ k, r.heldMedium paths = some k →
      k ∉ store.runtimes.filterMap (·.heldMedium paths) := by
    intro k hk hmem
    obtain ⟨p, rfl, hp, -⟩ := hheld k hk
    obtain ⟨q, hq, heq⟩ := h.files _ hmem
    cases heq
    exact hp hq
  refine ⟨?_, ?_, ?_, ?_⟩
  · rw [hruntimes, List.map_append, List.map_singleton]
    exact (h.ids.bump hnew).perm (List.perm_append_singleton _ _).symm
  · rw [hruntimes]
    intro x hx
    rcases List.mem_append.mp hx with hx | hx
    · exact List.mem_cons_of_mem _ (h.known x hx)
    · rw [List.mem_singleton.mp hx, hrid]
      exact List.mem_cons_self
  · rw [hruntimes]
    exact OneRuntimePerMedium.concat h.one hold
  · rw [hruntimes, List.filterMap_append]
    intro k hk
    rcases List.mem_append.mp hk with hk | hk
    · obtain ⟨p, hp, rfl⟩ := h.files k hk
      exact ⟨p, hsub hp, rfl⟩
    · obtain ⟨x, hx, hk⟩ := List.mem_filterMap.mp hk
      rw [List.mem_singleton.mp hx] at hk
      obtain ⟨p, rfl, -, hp⟩ := hheld k hk
      exact ⟨p, hp, rfl⟩

/-- **The store of a configuration**, by the loop over its disks. -/
theorem restoreDisks_spec {w : Answers} : ∀ {disks : List PersistedDiskRecord}
    {store store' : DiskRuntimeStore} {localDiskIds restoredFilePaths : List String},
    Restored paths store localDiskIds restoredFilePaths →
      restoreDisks paths w store localDiskIds restoredFilePaths disks = .ok store' →
        IdsOk (store'.runtimes.map (·.localDiskId)) store'.nextDiskNumber ∧
          OneRuntimePerMedium paths store'.runtimes
  | [], store, store', _, _, h, hr => by
    cases hr
    exact ⟨h.ids, h.one⟩
  | disk :: disks, store, store', localDiskIds, restoredFilePaths, h, hr => by
    unfold restoreDisks at hr
    by_cases hid : disk.localDiskId ∈ localDiskIds
    · rw [if_pos hid] at hr
      cases hr
    · rw [if_neg hid] at hr
      obtain ⟨⟨r, restoredFilePaths'⟩, hruntime, hr⟩ := except_of_bind_ok hr
      exact restoreDisks_spec (h.insert hid hruntime) hr

theorem media_restoreClientState (w : Answers)
    (config : Except ApiError (List PersistedDiskRecord)) :
    Keeps (KeepsMedia paths) (restoreClientState paths w config) := by
  refine Keeps.bind (keeps_modify fun s h => h.of_eq ⟨rfl, rfl, rfl⟩) fun _ =>
    Keeps.bind (media_of_same (same_liftExcept _)) fun disks => ?_
  cases hstore : buildRestoredRuntimeStore paths w disks with
  | error e => exact keeps_throw_bind _ _
  | ok store =>
    obtain ⟨hids, hone⟩ := restoreDisks_spec restored_nil hstore
    refine fun s => ends_bind_of_ok (a := store) (t := s) rfl (ends_of_ok (run_modify _) fun h => ?_)
    refine ⟨?_, hone, h.rescan, h.holder⟩
    show IdsOk (store.runtimes.map _ ++ []) store.nextDiskNumber
    rw [List.append_nil]
    exact hids

/-! ## The rescan of the files -/

/-- One runtime for each medium, where the ids tell the runtimes apart. -/
theorem oneRuntimePerMedium_iff {rs : List DiskRuntime} (hids : (rs.map (·.localDiskId)).Nodup) :
    OneRuntimePerMedium paths rs ↔ ∀ r ∈ rs, ∀ r' ∈ rs, ∀ k,
      r.heldMedium paths = some k → r'.heldMedium paths = some k → r = r' := by
  unfold OneRuntimePerMedium List.Nodup
  rw [List.pairwise_filterMap]
  constructor
  · intro h r hr r' hr' k hk hk'
    by_contra hne
    have : Std.Symm fun a a' : DiskRuntime => ∀ b, a.heldMedium paths = some b →
        ∀ b', a'.heldMedium paths = some b' → b ≠ b' :=
      ⟨fun a a' h b hb b' hb' => (h b' hb' b hb).symm⟩
    exact h.forall hr hr' hne k hk k hk' rfl
  · intro h
    refine (List.Nodup.of_map _ hids).pairwise_of_forall_ne fun r hr r' hr' hne k hk k' hk' => ?_
    rintro rfl
    exact hne (h r hr r' hr' k hk hk')

theorem mem_visitRuntimes {f : DiskRuntime → Backend → DiskRuntime × Backend} {r' : DiskRuntime} :
    ∀ {rs : List DiskRuntime} {backend : Backend}, r' ∈ (visitRuntimes f rs backend).1 →
      ∃ r ∈ rs, ∃ backend, r' = (f r backend).1
  | r :: rs, backend, h => by
    rcases List.mem_cons.mp h with rfl | h
    · exact ⟨r, List.mem_cons_self, backend, rfl⟩
    · obtain ⟨x, hx, h⟩ := mem_visitRuntimes h
      exact ⟨x, List.mem_cons_of_mem _ hx, h⟩

theorem visitRuntimes_ids {f : DiskRuntime → Backend → DiskRuntime × Backend}
    (hf : ∀ r b, (f r b).1.localDiskId = r.localDiskId) :
    ∀ (rs : List DiskRuntime) (backend : Backend),
      (visitRuntimes f rs backend).1.map (·.localDiskId) = rs.map (·.localDiskId)
  | [], _ => rfl
  | r :: rs, backend => congrArg₂ (· :: ·) (hf r backend) (visitRuntimes_ids hf rs _)

/-- The normalized path of a file disk. -/
def DiskRuntime.normalizedPath? (paths : PathApi) (r : DiskRuntime) : Option String :=
  r.filePath?.bind paths.normalized?

theorem mem_duplicates_of_seen {p : String} {r : DiskRuntime}
    (hp : r.normalizedPath? paths = some p) : ∀ {rs : List DiskRuntime} {seen : List String},
      p ∈ seen → r ∈ rs → r.localDiskId ∈ collectDuplicateFileRuntimeIds paths seen rs
  | x :: rs, seen, hseen, hr => by
    unfold collectDuplicateFileRuntimeIds
    rcases List.mem_cons.mp hr with rfl | hr
    · rw [show r.filePath?.bind paths.normalized? = some p from hp]
      dsimp only
      rw [if_pos hseen]
      exact List.mem_cons_self
    · cases x.filePath?.bind paths.normalized? with
      | none => exact mem_duplicates_of_seen hp hseen hr
      | some q =>
        dsimp only
        split
        · exact List.mem_cons_of_mem _ (mem_duplicates_of_seen hp hseen hr)
        · exact mem_duplicates_of_seen hp (List.mem_cons_of_mem _ hseen) hr

/-- **Of the disks of one file, all but the first are duplicates.** -/
theorem eq_of_not_duplicates {p : String} {r r' : DiskRuntime}
    (hp : r.normalizedPath? paths = some p) (hp' : r'.normalizedPath? paths = some p) :
    ∀ {rs : List DiskRuntime} {seen : List String}, r ∈ rs → r' ∈ rs →
      r.localDiskId ∉ collectDuplicateFileRuntimeIds paths seen rs →
        r'.localDiskId ∉ collectDuplicateFileRuntimeIds paths seen rs → r = r'
  | x :: rs, seen, hmem, hmem', hno, hno' => by
    unfold collectDuplicateFileRuntimeIds at hno hno'
    rcases List.mem_cons.mp hmem with rfl | hr <;> rcases List.mem_cons.mp hmem' with rfl | hr'
    · rfl
    · rw [show r.filePath?.bind paths.normalized? = some p from hp] at hno hno'
      dsimp only at hno hno'
      split at hno
      · exact absurd List.mem_cons_self hno
      · rw [if_neg ‹_›] at hno'
        exact absurd (mem_duplicates_of_seen hp' List.mem_cons_self hr') hno'
    · rw [show r'.filePath?.bind paths.normalized? = some p from hp'] at hno hno'
      dsimp only at hno hno'
      split at hno'
      · exact absurd List.mem_cons_self hno'
      · rw [if_neg ‹_›] at hno
        exact absurd (mem_duplicates_of_seen hp List.mem_cons_self hr) hno
    · cases hx : x.filePath?.bind paths.normalized? with
      | none =>
        rw [hx] at hno hno'
        exact eq_of_not_duplicates hp hp' hr hr' hno hno'
      | some q =>
        rw [hx] at hno hno'
        dsimp only at hno hno'
        split at hno
        · rw [if_pos ‹_›] at hno'
          exact eq_of_not_duplicates hp hp' hr hr' (fun h => hno (List.mem_cons_of_mem _ h))
            fun h => hno' (List.mem_cons_of_mem _ h)
        · rw [if_neg ‹_›] at hno'
          exact eq_of_not_duplicates hp hp' hr hr' hno hno'

/-- What `rescan_local_runtime_disks` does to a runtime: a disk of a duplicate file is invalid
after it. -/
theorem rescanLocalRuntime_spec (w : Answers) (duplicates : List String) (r : DiskRuntime)
    (backend : Backend) {r' : DiskRuntime}
    (h : r' = (rescanLocalRuntime w duplicates r backend).1) :
    r'.localDiskId = r.localDiskId ∧ r'.mediumKey paths = r.mediumKey paths ∧
      (r' = r ∨ r.isNetwork = false) ∧
      (r'.Valid → r.filePath? ≠ none → r.localDiskId ∉ duplicates) := by
  subst h
  unfold rescanLocalRuntime
  by_cases hother : r.isMemory || r.isNetwork
  · rw [if_pos hother]
    refine ⟨rfl, rfl, .inl rfl, fun _ hfile => absurd ?_ hfile⟩
    unfold DiskRuntime.isMemory DiskRuntime.isNetwork at hother
    unfold DiskRuntime.filePath?
    cases hconfig : r.mediaConfig <;> simp [hconfig] at hother ⊢
  · rw [if_neg hother]
    have hnet : r.isNetwork = false := by
      cases hn : r.isNetwork with
      | false => rfl
      | true => exact absurd (by rw [hn, Bool.or_true]) hother
    by_cases hdup : r.localDiskId ∈ duplicates
    · rw [if_pos hdup]
      exact ⟨rfl, mediumKey_setFileCapacity r 0, .inr hnet, nofun⟩
    · rw [if_neg hdup]
      split
      · exact ⟨rfl, rfl, .inl rfl, fun _ _ => hdup⟩
      · split
        · exact ⟨rfl, rfl, .inl rfl, fun _ _ => hdup⟩
        · exact ⟨rfl, mediumKey_setFileCapacity r 0, .inr hnet, fun _ _ => hdup⟩
        · exact ⟨rfl, mediumKey_setFileCapacity r _, .inr hnet, fun _ _ => hdup⟩
        · exact ⟨rfl, mediumKey_setFileCapacity r 0, .inr hnet, fun _ _ => hdup⟩

theorem heldMedium_eq_some {r : DiskRuntime} {k : MediumKey} :
    r.heldMedium paths = some k ↔ r.Valid ∧ r.mediumKey paths = some k := by
  unfold DiskRuntime.heldMedium
  split
  · simp [*]
  · simp [*]

theorem normalizedPath_of_mediumKey {r : DiskRuntime} {p : String}
    (h : r.mediumKey paths = some (.file p)) :
    r.filePath? ≠ none ∧ r.normalizedPath? paths = some p := by
  unfold DiskRuntime.mediumKey at h
  unfold DiskRuntime.normalizedPath? DiskRuntime.filePath?
  cases hconfig : r.mediaConfig with
  | memory kind capacity =>
    rw [hconfig] at h
    cases h
  | network a d m c =>
    rw [hconfig] at h
    cases h
  | file path capacity =>
    rw [hconfig] at h
    obtain ⟨q, hq, heq⟩ := Option.map_eq_some_iff.mp h
    cases heq
    exact ⟨nofun, hq⟩

theorem isNetwork_of_mediumKey {r : DiskRuntime} {key : NetworkDiskKey}
    (h : r.mediumKey paths = some (.network key)) : r.isNetwork = true := by
  unfold DiskRuntime.mediumKey at h
  unfold DiskRuntime.isNetwork
  cases hconfig : r.mediaConfig with
  | memory kind capacity =>
    rw [hconfig] at h
    cases h
  | network a d m c => rfl
  | file path capacity =>
    rw [hconfig] at h
    obtain ⟨q, hq, heq⟩ := Option.map_eq_some_iff.mp h
    cases heq

/-- **The rescan of the files** restores the invariant for them, and leaves the others. -/
theorem media_rescanLocalRuntimeDisks (w : Answers) :
    Keeps (KeepsMedia paths) (rescanLocalRuntimeDisks paths w) := by
  refine fun s => ends_bind_of_ok (t := s) rfl (ends_of_ok (run_modify _) fun h => ?_)
  set duplicates := collectDuplicateFileRuntimeIds paths [] s.store.runtimes with hdup
  have hspec := fun r b => @rescanLocalRuntime_spec paths w duplicates r b _ rfl
  have hids := visitRuntimes_ids (fun r b => (hspec r b).1) s.store.runtimes s.backend
  have hnodup : (s.store.runtimes.map (·.localDiskId)).Nodup :=
    (List.nodup_append.mp h.ids.nodup).1
  refine ⟨?_, ?_, h.rescan, h.holder⟩
  · show IdsOk ((visitRuntimes _ _ _).1.map _ ++ _) _
    rw [hids]
    exact h.ids
  · refine (oneRuntimePerMedium_iff (hids ▸ hnodup)).mpr fun r₁' hr₁' r₂' hr₂' k hk₁ hk₂ => ?_
    obtain ⟨r₁, hr₁, b₁, rfl⟩ := mem_visitRuntimes hr₁'
    obtain ⟨r₂, hr₂, b₂, rfl⟩ := mem_visitRuntimes hr₂'
    obtain ⟨hv₁, hm₁⟩ := heldMedium_eq_some.mp hk₁
    obtain ⟨hv₂, hm₂⟩ := heldMedium_eq_some.mp hk₂
    obtain ⟨hid₁, hkey₁, hsame₁, hfile₁⟩ := hspec r₁ b₁
    obtain ⟨hid₂, hkey₂, hsame₂, hfile₂⟩ := hspec r₂ b₂
    suffices heq : r₁ = r₂ by
      refine eq_of_nodup_ids (hids ▸ hnodup) hr₁' hr₂' ?_
      rw [hid₁, hid₂, heq]
    rw [hkey₁] at hm₁
    rw [hkey₂] at hm₂
    cases k with
    | file p =>
      obtain ⟨hf₁, hp₁⟩ := normalizedPath_of_mediumKey hm₁
      obtain ⟨hf₂, hp₂⟩ := normalizedPath_of_mediumKey hm₂
      exact eq_of_not_duplicates hp₁ hp₂ hr₁ hr₂ (hfile₁ hv₁ hf₁) (hfile₂ hv₂ hf₂)
    | network key =>
      have hn₁ := isNetwork_of_mediumKey hm₁
      have hn₂ := isNetwork_of_mediumKey hm₂
      rcases hsame₁ with hsame₁ | hn; swap
      · exact absurd (hn₁.symm.trans hn) (by decide)
      rcases hsame₂ with hsame₂ | hn; swap
      · exact absurd (hn₂.symm.trans hn) (by decide)
      rw [hsame₁] at hk₁
      rw [hsame₂] at hk₂
      exact (oneRuntimePerMedium_iff hnodup).mp h.one r₁ hr₁ r₂ hr₂ _ hk₁ hk₂

end YumeDisk.TauriClient
