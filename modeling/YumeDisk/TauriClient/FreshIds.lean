import YumeDisk.Lib.Run
import YumeDisk.TauriClient.MediumSafety

/-!
# New disk ids (`state/disk_runtime.rs`, `state/disk_catalog.rs`)

The ids are numbered by a `u64` that is moved past the numbers of the ids that are inserted, and
the deletions by another.  Neither is checked: at its end it goes on from zero (where overflow is
checked for, the client panics there).

* `step`: the calls that the catalog answers, `overflows`: a counter was at its end.
* `Counted`: the numbers of the ids that runtimes and pending deletions have are below the next.
* `fresh_iff`: **the ids of a run are new, and no counter is at its end, if and only if** no id
  that is inserted has the last number and no counter has come to it.
-/

namespace YumeDisk.TauriClient

open YumeDisk.Lib

/-! ## The counters -/

namespace DiskRuntimeStore

/-- The counter as a `u64`. -/
def wrap (store : DiskRuntimeStore) : DiskRuntimeStore :=
  { store with nextDiskNumber := store.nextDiskNumber % (u64Max + 1) }

end DiskRuntimeStore

namespace DiskCatalogState

/-- The counters as `u64`s. -/
def wrap (catalog : DiskCatalogState) : DiskCatalogState :=
  { catalog with
    runtimeStore := catalog.runtimeStore.wrap
    nextDeletionNumber := catalog.nextDeletionNumber % (u64Max + 1) }

end DiskCatalogState

namespace DiskIds

/-- The loop of `build_restored_runtime_store`, and whether a number was past the last. -/
def restoreCounted (paths : PathApi) (w : Answers) (store : DiskRuntimeStore)
    (localDiskIds restoredFilePaths : List String) :
    List PersistedDiskRecord → Bool × Except ApiError DiskRuntimeStore
  | [] => (false, .ok store)
  | disk :: disks =>
    if disk.localDiskId ∈ localDiskIds then
      (false, .error ⟨"client-config-duplicate-disk-id", "配置文件中存在重复磁盘标识",
        some disk.localDiskId⟩)
    else
      match restoreDiskRuntime paths w disk restoredFilePaths with
      | .error error => (false, .error error)
      | .ok (runtime, restoredFilePaths) =>
        let inserted := store.insertRuntime runtime
        let rest := restoreCounted paths w inserted.wrap (disk.localDiskId :: localDiskIds)
          restoredFilePaths disks
        (decide (u64Max < inserted.nextDiskNumber) || rest.1, rest.2)

/-! ## The calls -/

/-- What `prepare_deleted_runtime` does to the runtime. -/
structure Preparation where
  run : DiskRuntime → DiskRuntime
  localDiskId : ∀ r, (run r).localDiskId = r.localDiskId

/-- Each is made with the catalog locked. -/
inductive CatalogCall where
  /-- `restore_client_state`, with the disks of the configuration. -/
  | restore (w : Answers) (disks : List PersistedDiskRecord)
  | allocate
  | insert (runtime : DiskRuntime)
  | remove (localDiskId : String)
  /-- `delete_disk`; `deleted` if the disk was prepared and the configuration saved. -/
  | delete (localDiskId : String) (preparation : Preparation) (deleted : Bool)
  /-- `undo_delete_disk`; `saved` if the configuration was. -/
  | undo (deletionId : String) (saved : Bool)
  | commit (deletionId : String)

variable (paths : PathApi)

def restoreStore (w : Answers) (disks : List PersistedDiskRecord) (catalog : DiskCatalogState) :
    DiskCatalogState :=
  match (restoreCounted paths w {} [] [] disks).2 with
  | .error _ => catalog
  | .ok store => .replaceRuntimeStore store

def deleteRuntime (localDiskId : String) (preparation : Preparation) (deleted : Bool)
    (catalog : DiskCatalogState) : DiskCatalogState :=
  match catalog.runtimeStore.removeRuntime localDiskId with
  | none => catalog
  | some (removed, store) =>
    let catalog := { catalog with runtimeStore := store }
    let removed : RemovedDiskRuntime := ⟨removed.index, preparation.run removed.runtime⟩
    if deleted then (catalog.stagePendingDeletion removed).2
    else { catalog with runtimeStore := catalog.runtimeStore.restoreRemovedRuntime removed }

def undoDeletion (deletionId : String) (saved : Bool) (catalog : DiskCatalogState) :
    DiskCatalogState :=
  match catalog.takePendingDeletion deletionId with
  | none => catalog
  | some (pending, catalog) =>
    let catalog := { catalog with
      runtimeStore := catalog.runtimeStore.restoreRemovedRuntime pending.removedRuntime }
    if saved then catalog
    else
      match catalog.runtimeStore.removeRuntime pending.removedRuntime.runtime.localDiskId with
      | none => catalog
      | some (removed, store) =>
        { catalog with runtimeStore := store }.restorePendingDeletion ⟨pending.deletionId, removed⟩

def commitDeletion (deletionId : String) (catalog : DiskCatalogState) : DiskCatalogState :=
  match catalog.takePendingDeletion deletionId with
  | none => catalog
  | some (_, catalog) => catalog

/-- The catalog after a call, before its counters are cut to 64 bits. -/
def answer (catalog : DiskCatalogState) : CatalogCall → DiskCatalogState
  | .restore w disks => restoreStore paths w disks catalog
  | .allocate => { catalog with runtimeStore := catalog.runtimeStore.allocateLocalDiskId.2 }
  | .insert runtime => { catalog with runtimeStore := catalog.runtimeStore.insertRuntime runtime }
  | .remove localDiskId =>
    { catalog with runtimeStore := catalog.runtimeStore.dropRuntime localDiskId }
  | .delete localDiskId preparation deleted =>
    deleteRuntime localDiskId preparation deleted catalog
  | .undo deletionId saved => undoDeletion deletionId saved catalog
  | .commit deletionId => commitDeletion deletionId catalog

def step (catalog : DiskCatalogState) (call : CatalogCall) : Option DiskCatalogState :=
  some (answer paths catalog call).wrap

/-- A counter was counted up past the last `u64`. -/
def overflows (catalog : DiskCatalogState) : CatalogCall → Bool
  | .restore w disks => (restoreCounted paths w {} [] [] disks).1
  | call =>
    u64Max < (answer paths catalog call).runtimeStore.nextDiskNumber ||
      u64Max < (answer paths catalog call).nextDeletionNumber

/-- No counter overflows, and the id that is allocated is that of no runtime and of no pending
deletion. -/
def Fresh (catalog : DiskCatalogState) (call : CatalogCall) : Prop :=
  overflows paths catalog call = false ∧
    (call = .allocate → catalog.runtimeStore.allocateLocalDiskId.1 ∉ catalogIds catalog)

/-! ## The numbers that are left -/

/-- The disks of a configuration that are inserted: those before the first that is refused. -/
def insertedDisks (w : Answers) (localDiskIds restoredFilePaths : List String) :
    List PersistedDiskRecord → List PersistedDiskRecord
  | [] => []
  | disk :: disks =>
    if disk.localDiskId ∈ localDiskIds then []
    else
      match restoreDiskRuntime paths w disk restoredFilePaths with
      | .error _ => []
      | .ok (_, restoredFilePaths) =>
        disk :: insertedDisks w (disk.localDiskId :: localDiskIds) restoredFilePaths disks

/-- No id that is inserted has the last number, and no counter is at it when it is counted up. -/
def InRange (catalog : DiskCatalogState) : CatalogCall → Prop
  | .restore w disks =>
    ∀ disk ∈ insertedDisks paths w [] [] disks,
      parseLocalDiskIdNumber disk.localDiskId ≠ some u64Max
  | .allocate => catalog.runtimeStore.nextDiskNumber < u64Max
  | .insert runtime => parseLocalDiskIdNumber runtime.localDiskId ≠ some u64Max
  | .delete localDiskId _ deleted =>
    deleted = true → (∃ r ∈ catalog.runtimeStore.runtimes, r.localDiskId = localDiskId) →
      catalog.nextDeletionNumber < u64Max
  | _ => True

variable {paths}

/-! ## The invariant -/

/-- The ids are numbered below the next, and the next number is a `u64`. -/
structure NumbersBelow (ids : List String) (next : Nat) : Prop where
  numbers : ∀ id ∈ ids, ∀ n, parseLocalDiskIdNumber id = some n → n < next
  le : next ≤ u64Max

theorem NumbersBelow.subset {ids ids' : List String} {next : Nat} (h : NumbersBelow ids next)
    (hs : ids' ⊆ ids) : NumbersBelow ids' next :=
  ⟨fun id hid => h.numbers id (hs hid), h.le⟩

theorem parse_le {id : String} {n : Nat} (h : parseLocalDiskIdNumber id = some n) :
    n ≤ u64Max := by
  unfold parseLocalDiskIdNumber parseU64 at h
  split at h
  · dsimp only at h
    split_ifs at h with hn
    exact Option.some.inj h ▸ hn.2.2
  · cases h

/-- The counter goes past the last number for the last id only. -/
theorem u64Max_lt_bump {store : DiskRuntimeStore} (h : store.nextDiskNumber ≤ u64Max)
    (id : String) :
    u64Max < (store.bumpNextDiskNumber id).nextDiskNumber ↔
      parseLocalDiskIdNumber id = some u64Max := by
  unfold DiskRuntimeStore.bumpNextDiskNumber
  cases hn : parseLocalDiskIdNumber id with
  | none => exact iff_of_false (Nat.not_lt_of_le h) nofun
  | some n =>
    have hle := parse_le hn
    rw [Option.some.injEq]
    dsimp only
    split_ifs
    · show u64Max < n + 1 ↔ _
      omega
    · omega

/-- **An id that is inserted** is counted. -/
theorem NumbersBelow.bump {store : DiskRuntimeStore} {ids : List String}
    (h : NumbersBelow ids store.nextDiskNumber) {id : String}
    (hid : parseLocalDiskIdNumber id ≠ some u64Max) :
    NumbersBelow (id :: ids) (store.bumpNextDiskNumber id).nextDiskNumber := by
  have hle := Nat.le_of_not_lt (mt (u64Max_lt_bump h.le id).mp hid)
  refine ⟨fun x hx n hn => ?_, hle⟩
  unfold DiskRuntimeStore.bumpNextDiskNumber
  rcases List.mem_cons.mp hx with rfl | hx
  · rw [hn]
    dsimp only
    split_ifs
    · exact Nat.lt_succ_self n
    · omega
  · have hlt := h.numbers x hx n hn
    cases parseLocalDiskIdNumber id with
    | none => exact hlt
    | some m =>
      dsimp only
      split_ifs
      · show n < m + 1
        omega
      · exact hlt

theorem wrap_store {store : DiskRuntimeStore} (h : store.nextDiskNumber ≤ u64Max) :
    store.wrap = store := by
  unfold DiskRuntimeStore.wrap
  rw [Nat.mod_eq_of_lt (Nat.lt_succ_of_le h)]

structure Counted (catalog : DiskCatalogState) : Prop where
  disks : NumbersBelow (catalogIds catalog) catalog.runtimeStore.nextDiskNumber
  deletions : catalog.nextDeletionNumber ≤ u64Max

theorem Counted.wrap {catalog : DiskCatalogState} (h : Counted catalog) : Counted catalog.wrap := by
  have hsame : catalog.wrap = catalog := by
    unfold DiskCatalogState.wrap
    rw [wrap_store h.disks.le, Nat.mod_eq_of_lt (Nat.lt_succ_of_le h.deletions)]
  rw [hsame]
  exact h

/-- A call that brings in no id, and counts nothing. -/
theorem Counted.subset {catalog catalog' : DiskCatalogState} (h : Counted catalog)
    (hids : catalogIds catalog' ⊆ catalogIds catalog)
    (hdisk : catalog'.runtimeStore.nextDiskNumber = catalog.runtimeStore.nextDiskNumber)
    (hdeletion : catalog'.nextDeletionNumber = catalog.nextDeletionNumber) : Counted catalog' := by
  refine ⟨?_, ?_⟩
  · rw [hdisk]
    exact h.disks.subset hids
  · rw [hdeletion]
    exact h.deletions

theorem counted_default : Counted {} :=
  ⟨⟨nofun, by decide +kernel⟩, by decide +kernel⟩

/-- **A new id** is none of those in use. -/
theorem Counted.allocate_not_mem {catalog : DiskCatalogState} (h : Counted catalog) :
    catalog.runtimeStore.allocateLocalDiskId.1 ∉ catalogIds catalog := fun hmem =>
  Nat.lt_irrefl _ (h.disks.numbers _ hmem _ (parse_localDiskIdOf h.disks.le))

/-! ## Restoring -/

theorem insertRuntime_runtimes (store : DiskRuntimeStore) (r : DiskRuntime) :
    (store.insertRuntime r).runtimes = store.runtimes ++ [r] :=
  congrArg (· ++ [r]) (bumpNextDiskNumber_runtimes store r.localDiskId)

theorem insertRuntime_nextDiskNumber (store : DiskRuntimeStore) (r : DiskRuntime) :
    (store.insertRuntime r).nextDiskNumber =
      (store.bumpNextDiskNumber r.localDiskId).nextDiskNumber := rfl

theorem NumbersBelow.insert {store : DiskRuntimeStore}
    (h : NumbersBelow (store.runtimes.map (·.localDiskId)) store.nextDiskNumber) {r : DiskRuntime}
    (hid : parseLocalDiskIdNumber r.localDiskId ≠ some u64Max) :
    NumbersBelow ((store.insertRuntime r).runtimes.map (·.localDiskId))
      (store.insertRuntime r).nextDiskNumber := by
  rw [insertRuntime_runtimes, insertRuntime_nextDiskNumber, List.map_append, List.map_singleton]
  exact (h.bump hid).subset (List.perm_append_singleton _ _).subset

/-- **A configuration** brings a counter past its end if and only if it inserts the last id. -/
theorem restoreCounted_spec {w : Answers} : ∀ {disks : List PersistedDiskRecord}
    {store : DiskRuntimeStore} {localDiskIds restoredFilePaths : List String},
    store.nextDiskNumber ≤ u64Max →
      ((restoreCounted paths w store localDiskIds restoredFilePaths disks).1 = false ↔
        ∀ disk ∈ insertedDisks paths w localDiskIds restoredFilePaths disks,
          parseLocalDiskIdNumber disk.localDiskId ≠ some u64Max)
  | [], _, _, _, _ => by simp [restoreCounted, insertedDisks]
  | disk :: disks, store, localDiskIds, restoredFilePaths, hle => by
    unfold restoreCounted insertedDisks
    by_cases hid : disk.localDiskId ∈ localDiskIds
    · simp [hid]
    · rw [if_neg hid, if_neg hid]
      cases hr : restoreDiskRuntime paths w disk restoredFilePaths with
      | error e => simp
      | ok result =>
        obtain ⟨r, restoredFilePaths'⟩ := result
        have hrid := (restoreDiskRuntime_spec hr).1
        have hlast := u64Max_lt_bump hle r.localDiskId
        rw [← insertRuntime_nextDiskNumber, hrid] at hlast
        dsimp only
        have hwrap : (store.insertRuntime r).wrap.nextDiskNumber ≤ u64Max :=
          Nat.le_of_lt_succ (Nat.mod_lt _ (Nat.succ_pos _))
        rw [List.forall_mem_cons, ← restoreCounted_spec hwrap, Ne, ← hlast,
          Bool.or_eq_false_iff, decide_eq_false_iff_not]

/-- The store of a configuration has its numbers counted. -/
theorem restoreCounted_below {w : Answers} : ∀ {disks : List PersistedDiskRecord}
    {store store' : DiskRuntimeStore} {localDiskIds restoredFilePaths : List String},
    NumbersBelow (store.runtimes.map (·.localDiskId)) store.nextDiskNumber →
      (∀ disk ∈ insertedDisks paths w localDiskIds restoredFilePaths disks,
        parseLocalDiskIdNumber disk.localDiskId ≠ some u64Max) →
      (restoreCounted paths w store localDiskIds restoredFilePaths disks).2 = .ok store' →
        NumbersBelow (store'.runtimes.map (·.localDiskId)) store'.nextDiskNumber
  | [], _, _, _, _, h, _, hr => by
    cases hr
    exact h
  | disk :: disks, store, store', localDiskIds, restoredFilePaths, h, hlast, hr => by
    unfold restoreCounted at hr
    unfold insertedDisks at hlast
    by_cases hid : disk.localDiskId ∈ localDiskIds
    · rw [if_pos hid] at hr
      cases hr
    · rw [if_neg hid] at hr hlast
      cases hruntime : restoreDiskRuntime paths w disk restoredFilePaths with
      | error e =>
        rw [hruntime] at hr
        cases hr
      | ok result =>
        obtain ⟨r, restoredFilePaths'⟩ := result
        rw [hruntime] at hr hlast
        have hinsert := h.insert ((restoreDiskRuntime_spec hruntime).1 ▸
          hlast disk List.mem_cons_self)
        dsimp only at hr
        rw [wrap_store hinsert.le] at hr
        exact restoreCounted_below hinsert (fun d hd => hlast d (List.mem_cons_of_mem _ hd)) hr

/-! ## Deleting -/

theorem mem_catalogIds {catalog : DiskCatalogState} {id : String} :
    id ∈ catalogIds catalog ↔ (∃ r ∈ catalog.runtimeStore.runtimes, r.localDiskId = id) ∨
      ∃ p ∈ catalog.pendingDeletions, p.removedRuntime.runtime.localDiskId = id := by
  simp [catalogIds]

/-- A runtime whose id is in use is put back: nothing is counted. -/
theorem Counted.putBack {catalog : DiskCatalogState} (h : Counted catalog)
    {i : Nat} {r : DiskRuntime} (hid : r.localDiskId ∈ catalogIds catalog)
    {catalog' : DiskCatalogState} (hids : catalogIds catalog' ⊆ catalogIds catalog)
    (hdisk : catalog'.runtimeStore.nextDiskNumber = catalog.runtimeStore.nextDiskNumber)
    (hdeletion : catalog'.nextDeletionNumber = catalog.nextDeletionNumber) :
    Counted { catalog' with
      runtimeStore := catalog'.runtimeStore.restoreRemovedRuntime ⟨i, r⟩ } := by
  rw [restoreRemovedRuntime_spec ⟨i, r⟩ fun n hn => hdisk ▸ h.disks.numbers _ hid n hn]
  refine h.subset (fun id hmem => ?_) hdisk hdeletion
  rcases mem_catalogIds.mp hmem with ⟨r, hr, rfl⟩ | hpending
  · rcases List.mem_append.mp hr with hr | hr
    · exact hids (mem_catalogIds.mpr (.inl ⟨r, List.mem_of_mem_take hr, rfl⟩))
    · rcases List.mem_cons.mp hr with rfl | hr
      · exact hid
      · exact hids (mem_catalogIds.mpr (.inl ⟨r, List.mem_of_mem_drop hr, rfl⟩))
  · exact hids (mem_catalogIds.mpr (.inr hpending))

theorem Counted.remove {catalog : DiskCatalogState} (h : Counted catalog) (localDiskId : String) :
    Counted { catalog with runtimeStore := catalog.runtimeStore.dropRuntime localDiskId } := by
  obtain ⟨hnext, hsub⟩ := dropRuntime_spec catalog.runtimeStore localDiskId
  exact h.subset ((hsub.map _).append_right _).subset hnext rfl

/-- `remove_runtime` leaves the other ids. -/
theorem removeRuntime_ids {catalog : DiskCatalogState} {localDiskId : String}
    {removed : RemovedDiskRuntime} {store : DiskRuntimeStore}
    (h : catalog.runtimeStore.removeRuntime localDiskId = some (removed, store)) :
    removed.runtime.localDiskId ∈ catalogIds catalog ∧
      catalogIds { catalog with runtimeStore := store } ⊆ catalogIds catalog ∧
      store.nextDiskNumber = catalog.runtimeStore.nextDiskNumber := by
  obtain ⟨-, rs, rs', hrs, -, rfl⟩ := removeRuntime_spec h
  refine ⟨mem_catalogIds.mpr (.inl ⟨removed.runtime, by simp [hrs], rfl⟩), fun id hid => ?_, rfl⟩
  rcases mem_catalogIds.mp hid with ⟨r, hr, rfl⟩ | hpending
  · refine mem_catalogIds.mpr (.inl ⟨r, ?_, rfl⟩)
    rw [hrs]
    exact ((List.Sublist.refl rs).append (List.sublist_cons_self _ _)).subset hr
  · exact mem_catalogIds.mpr (.inr hpending)

theorem Counted.delete {catalog : DiskCatalogState} (h : Counted catalog) (localDiskId : String)
    (preparation : Preparation) (deleted : Bool)
    (hrange : InRange paths catalog (.delete localDiskId preparation deleted)) :
    Counted (deleteRuntime localDiskId preparation deleted catalog) := by
  unfold deleteRuntime
  cases hremove : catalog.runtimeStore.removeRuntime localDiskId with
  | none => exact h
  | some result =>
    obtain ⟨removed, store⟩ := result
    obtain ⟨hid, hids, hnext⟩ := removeRuntime_ids hremove
    have hprepared : (preparation.run removed.runtime).localDiskId ∈ catalogIds catalog :=
      (preparation.localDiskId removed.runtime).symm ▸ hid
    dsimp only
    cases deleted with
    | false =>
      exact h.putBack hprepared hids hnext rfl
    | true =>
      obtain ⟨hlocal, rs, rs', hrs, -, -⟩ := removeRuntime_spec hremove
      have hdeletion := hrange rfl ⟨removed.runtime, by simp [hrs], hlocal⟩
      refine ⟨⟨fun id hmem n hn => ?_, hnext ▸ h.disks.le⟩, hdeletion⟩
      show n < store.nextDiskNumber
      rw [hnext]
      refine h.disks.numbers id ?_ n hn
      rcases mem_catalogIds.mp hmem with hr | ⟨p, hp, rfl⟩
      · exact hids (mem_catalogIds.mpr (.inl hr))
      · rcases List.mem_append.mp hp with hp | hp
        · exact hids (mem_catalogIds.mpr (.inr ⟨p, hp, rfl⟩))
        · rw [List.mem_singleton.mp hp]
          exact hprepared

/-- `take_pending_deletion` leaves the other ids. -/
theorem takePendingDeletion_ids {catalog catalog' : DiskCatalogState} {deletionId : String}
    {pending : PendingDiskDeletion}
    (h : catalog.takePendingDeletion deletionId = some (pending, catalog')) :
    pending.removedRuntime.runtime.localDiskId ∈ catalogIds catalog ∧
      catalogIds catalog' ⊆ catalogIds catalog ∧
      catalog'.runtimeStore = catalog.runtimeStore ∧
      catalog'.nextDeletionNumber = catalog.nextDeletionNumber := by
  obtain ⟨ps, ps', hps, rfl⟩ := takePendingDeletion_spec h
  refine ⟨mem_catalogIds.mpr (.inr ⟨pending, by simp [hps], rfl⟩), fun id hid => ?_, rfl, rfl⟩
  rcases mem_catalogIds.mp hid with hr | ⟨p, hp, rfl⟩
  · exact mem_catalogIds.mpr (.inl hr)
  · refine mem_catalogIds.mpr (.inr ⟨p, ?_, rfl⟩)
    rw [hps]
    exact ((List.Sublist.refl ps).append (List.sublist_cons_self _ _)).subset hp

theorem Counted.undo {catalog : DiskCatalogState} (h : Counted catalog) (deletionId : String)
    (saved : Bool) : Counted (undoDeletion deletionId saved catalog) := by
  unfold undoDeletion
  cases htake : catalog.takePendingDeletion deletionId with
  | none => exact h
  | some result =>
    obtain ⟨pending, catalog'⟩ := result
    obtain ⟨hid, hids, hstore, hdeletion⟩ := takePendingDeletion_ids htake
    have hback := h.putBack (i := pending.removedRuntime.index) hid hids (by rw [hstore]) hdeletion
    dsimp only
    cases saved with
    | true => exact hback
    | false =>
      rw [if_neg Bool.false_ne_true]
      split
      · exact hback
      · rename_i removed store hremove
        obtain ⟨hid', hids', hnext'⟩ := @removeRuntime_ids { catalog' with
          runtimeStore := catalog'.runtimeStore.restoreRemovedRuntime pending.removedRuntime }
          _ _ _ hremove
        refine hback.subset (fun id hmem => ?_) hnext' rfl
        rcases mem_catalogIds.mp hmem with hr | ⟨p, hp, rfl⟩
        · exact hids' (mem_catalogIds.mpr (.inl hr))
        · rcases List.mem_append.mp hp with hp | hp
          · exact hids' (mem_catalogIds.mpr (.inr ⟨p, hp, rfl⟩))
          · rw [List.mem_singleton.mp hp]
            exact hid'

/-- **The counters after a call** that is in range. -/
theorem Counted.answer {catalog : DiskCatalogState} (h : Counted catalog) {call : CatalogCall}
    (hrange : InRange paths catalog call) : Counted (answer paths catalog call) := by
  cases call with
  | restore w disks =>
    show Counted (restoreStore paths w disks catalog)
    unfold restoreStore
    cases hr : (restoreCounted paths w {} [] [] disks).2 with
    | error e => exact h
    | ok store =>
      have hempty : NumbersBelow (({} : DiskRuntimeStore).runtimes.map (·.localDiskId))
          ({} : DiskRuntimeStore).nextDiskNumber :=
        ⟨fun id hid => absurd hid List.not_mem_nil, counted_default.disks.le⟩
      have hbelow := restoreCounted_below hempty hrange hr
      refine ⟨hbelow.subset fun id hid => ?_, counted_default.deletions⟩
      rcases List.mem_append.mp hid with hid | hid
      · exact hid
      · cases hid
  | allocate =>
    exact ⟨⟨fun id hid n hn => Nat.lt_succ_of_lt (h.disks.numbers id hid n hn), hrange⟩,
      h.deletions⟩
  | insert runtime =>
    refine ⟨(h.disks.bump hrange).subset fun id hid => ?_, h.deletions⟩
    rcases mem_catalogIds.mp hid with ⟨r, hr, rfl⟩ | hpending
    · rcases List.mem_append.mp (insertRuntime_runtimes _ _ ▸ hr) with hr | hr
      · exact List.mem_cons_of_mem _ (mem_catalogIds.mpr (.inl ⟨r, hr, rfl⟩))
      · rw [List.mem_singleton.mp hr]
        exact List.mem_cons_self
    · exact List.mem_cons_of_mem _ (mem_catalogIds.mpr (.inr hpending))
  | remove localDiskId => exact h.remove localDiskId
  | delete localDiskId preparation deleted => exact h.delete localDiskId preparation deleted hrange
  | undo deletionId saved => exact h.undo deletionId saved
  | commit deletionId =>
    show Counted (commitDeletion deletionId catalog)
    unfold commitDeletion
    cases htake : catalog.takePendingDeletion deletionId with
    | none => exact h
    | some result =>
      obtain ⟨pending, catalog'⟩ := result
      obtain ⟨-, hids, hstore, hdeletion⟩ := takePendingDeletion_ids htake
      exact h.subset hids (by rw [hstore]) hdeletion

/-! ## The runs -/

/-- **A call overflows** if and only if it is not in range. -/
theorem overflows_iff {catalog : DiskCatalogState} (h : Counted catalog) (call : CatalogCall) :
    overflows paths catalog call = false ↔ InRange paths catalog call := by
  by_cases hrestore : ∃ w disks, call = .restore w disks
  · obtain ⟨w, disks, rfl⟩ := hrestore
    exact restoreCounted_spec counted_default.disks.le
  have hover : overflows paths catalog call = false ↔
      (answer paths catalog call).runtimeStore.nextDiskNumber ≤ u64Max ∧
        (answer paths catalog call).nextDeletionNumber ≤ u64Max := by
    unfold overflows
    split
    · exact absurd ⟨_, _, rfl⟩ hrestore
    · simp
  rw [hover]
  refine ⟨fun ⟨hdisk, hdeletion⟩ => ?_, fun hrange =>
    ⟨(h.answer hrange).disks.le, (h.answer hrange).deletions⟩⟩
  cases call with
  | restore w disks => exact absurd ⟨w, disks, rfl⟩ hrestore
  | allocate => exact hdisk
  | insert runtime => exact fun hlast =>
      Nat.not_lt_of_le hdisk ((u64Max_lt_bump h.disks.le runtime.localDiskId).mpr hlast)
  | delete localDiskId preparation deleted =>
    intro hdeleted hfound
    obtain ⟨r, hr, rfl⟩ := hfound
    subst hdeleted
    obtain ⟨⟨removed, store⟩, hremove⟩ := Option.isSome_iff_exists.mp (removeRuntime_isSome hr)
    replace hdeletion : (deleteRuntime r.localDiskId preparation true catalog).nextDeletionNumber ≤
      u64Max := hdeletion
    unfold deleteRuntime at hdeletion
    rw [hremove] at hdeletion
    exact hdeletion
  | _ => trivial

theorem Counted.step {catalog catalog' : DiskCatalogState} {call : CatalogCall}
    (h : Counted catalog) (hrange : InRange paths catalog call)
    (hs : step paths catalog call = some catalog') : Counted catalog' :=
  Option.some.inj hs ▸ (h.answer hrange).wrap

/-- **The ids of a run are new** and its counters do not overflow if and only if no id with the
last number is inserted and no counter is at its end when it is counted up. -/
theorem fresh_iff (calls : List CatalogCall) :
    StepsMeet (step paths) (Fresh paths) {} calls ↔
      StepsMeet (step paths) (InRange paths) {} calls := by
  refine stepsMeet_congr (I := Counted) (fun catalog call h => ?_)
    (fun _ _ _ h hrange hs => h.step hrange hs) counted_default
  rw [← overflows_iff h]
  exact ⟨And.left, fun hrange => ⟨hrange, fun _ => h.allocate_not_mem⟩⟩

/-- A disk of a server, of which nothing but its id matters here. -/
def remoteDisk (localDiskId : String) : PersistedDiskRecord where
  localDiskId := localDiskId
  diskName := ""
  autoMount := false
  configuredReadOnly := false
  media := .network "gateway" localDiskId "" 0 false

/-- With the last number restored, the first id that is allocated is `disk-0`, and the second one
that is in use. -/
theorem last_id_not_fresh :
    ¬ StepsMeet (step plainPaths) (Fresh plainPaths) {}
      [.restore {} [remoteDisk "disk-1", remoteDisk "disk-18446744073709551615"],
        .allocate, .allocate] := by
  rintro ⟨-, h⟩
  obtain ⟨-, h⟩ := h _ rfl
  exact (h _ rfl).1.2 rfl (by decide +kernel)

end DiskIds

end YumeDisk.TauriClient
