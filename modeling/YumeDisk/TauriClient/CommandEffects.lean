import YumeDisk.TauriClient.Stores
import YumeDisk.TauriClient.UniqueMedium

/-!
# What the catalog commands do (`commands/disk.rs`)

Each command checks its request, changes the store, saves the configuration and takes the change
back when that fails.  Here is where each of them ends, for a catalog whose ids are `IdsOk`.

* `Accepted`: the checks that a request has to pass.
* `ends_create`, `ends_updateDisk`, `ends_undoDeleteDisk`, `ends_deleteDisk`, `ends_submitDraft`:
  the ends of each command, with the state it leaves.
-/

namespace YumeDisk.TauriClient

open YumeDisk.Lib

/-! ## Checks -/

section Checks

variable {α β : Type} {s : ClientState} {Q : β → ClientState → Prop}
  {E : ApiError → ClientState → Prop}

theorem ends_failWhen_bind {p : Prop} [Decidable p] {e : ApiError} {f : Unit → ClientM β}
    (h : p → E e s) (h' : ¬ p → Ends (f ()) s Q E) : Ends (failWhen p e >>= f) s Q E := by
  unfold failWhen
  by_cases hp : p
  · rw [if_pos hp]
    exact ends_of_error (run_throw_bind _) (h hp)
  · rw [if_neg hp]
    exact ends_bind_of_ok (run_pure ()) (h' hp)

theorem ends_liftExcept_bind {x : Except ApiError α} {f : α → ClientM β}
    (h : ∀ e, x = .error e → E e s) (h' : ∀ a, x = .ok a → Ends (f a) s Q E) :
    Ends (liftExcept x >>= f) s Q E := by
  cases x with
  | ok a => exact ends_bind_of_ok (run_pure a) (h' a rfl)
  | error e => exact ends_of_error (run_throw_bind _) (h e rfl)

end Checks

/-! ## The configuration -/

/-- A save succeeds, or leaves a file behind that reads as before. -/
def SavesWhole (w : Answers) (s : ClientState) : Prop :=
  w.saves = .ok () ∨ w.tears = false ∨ s.config = none

/-- What the configuration reads as is the store. -/
def Persisted (s : ClientState) : Prop :=
  s.config = some (s.store.runtimes.map mapPersistedDiskRecord)

theorem persisted_saveConfig {w : Answers} (s : ClientState) (h : w.saves = .ok ()) :
    Persisted (s.saveConfig w) := by
  unfold Persisted ClientState.saveConfig
  rw [h]
  rfl

/-- The file after a save that fails. -/
def configAfterFailure (w : Answers) (config : Option (List PersistedDiskRecord)) :
    Option (List PersistedDiskRecord) :=
  if w.tears then none else config

theorem config_saveConfig_error {w : Answers} {e : ApiError} (h : w.saves = .error e)
    (s : ClientState) : (s.saveConfig w).config = configAfterFailure w s.config := by
  unfold ClientState.saveConfig configAfterFailure
  rw [h]

theorem configAfterFailure_eq_iff {w : Answers} {e : ApiError} (h : w.saves = .error e)
    (s : ClientState) : configAfterFailure w s.config = s.config ↔ SavesWhole w s := by
  unfold configAfterFailure SavesWhole
  rw [h]
  cases w.tears with
  | false => simp
  | true => simp [eq_comm]

/-! ## One runtime in the store -/

theorem removeRuntime_split {store : DiskRuntimeStore} {rs rs' : List DiskRuntime} {r : DiskRuntime}
    (hstore : store.runtimes = rs ++ r :: rs')
    (hfirst : ∀ x ∈ rs, x.localDiskId ≠ r.localDiskId) :
    store.removeRuntime r.localDiskId =
      some (⟨rs.length, r⟩, { store with runtimes := rs ++ rs' }) := by
  have hindex : (rs ++ r :: rs').findIdx (·.localDiskId = r.localDiskId) = rs.length := by
    rw [List.findIdx_append, List.findIdx_eq_length_of_false
      fun x hx => decide_eq_false (hfirst x hx), if_neg (Nat.lt_irrefl _)]
    simp [List.findIdx_cons]
  unfold DiskRuntimeStore.removeRuntime
  rw [hstore, hindex]
  simp [List.eraseIdx_append_of_length_le]

theorem dropRuntime_split {store : DiskRuntimeStore} {rs rs' : List DiskRuntime} {r : DiskRuntime}
    (hstore : store.runtimes = rs ++ r :: rs')
    (hfirst : ∀ x ∈ rs, x.localDiskId ≠ r.localDiskId) :
    store.dropRuntime r.localDiskId = { store with runtimes := rs ++ rs' } := by
  unfold DiskRuntimeStore.dropRuntime
  rw [removeRuntime_split hstore hfirst]

def IdsInv (s : ClientState) : Prop := IdsOk (catalogIds s.catalog) s.store.nextDiskNumber

/-- The id of the next new disk. -/
def ClientState.newLocalDiskId (s : ClientState) : String :=
  DiskRuntimeStore.localDiskIdOf s.store.nextDiskNumber

/-- The store with a new runtime. -/
def ClientState.insertNew (s : ClientState) (r : DiskRuntime) : ClientState :=
  s.setStore ({ s.store with nextDiskNumber := s.store.nextDiskNumber + 1 }.insertRuntime r)

theorem insertNew_eq {s : ClientState} (hn : s.store.nextDiskNumber < u64Max) {r : DiskRuntime}
    (hr : r.localDiskId = s.newLocalDiskId) :
    s.insertNew r = s.setStore
      { nextDiskNumber := s.store.nextDiskNumber + 1, runtimes := s.store.runtimes ++ [r] } := by
  unfold ClientState.insertNew DiskRuntimeStore.insertRuntime DiskRuntimeStore.bumpNextDiskNumber
  rw [hr, ClientState.newLocalDiskId, parse_localDiskIdOf (Nat.le_of_lt hn)]
  dsimp only
  rw [if_neg (by omega)]

/-- **A new id** is that of no runtime. -/
theorem IdsInv.new_ne {s : ClientState} (h : IdsInv s) (hn : s.store.nextDiskNumber < u64Max) :
    ∀ x ∈ s.store.runtimes, x.localDiskId ≠ s.newLocalDiskId := by
  intro x hx heq
  have hnew := List.nodup_cons.mp (h.fresh hn).nodup
  exact hnew.1 (List.mem_append_left _ (List.mem_map.mpr ⟨x, hx, heq⟩))

theorem IdsInv.insertNew {s : ClientState} (h : IdsInv s) (hn : s.store.nextDiskNumber < u64Max)
    {r : DiskRuntime} (hr : r.localDiskId = s.newLocalDiskId) : IdsInv (s.insertNew r) := by
  rw [insertNew_eq hn hr]
  refine (h.fresh hn).perm ?_
  show (_ :: (s.store.runtimes.map (·.localDiskId) ++ _)).Perm
    ((s.store.runtimes ++ [r]).map (·.localDiskId) ++ _)
  rw [List.map_append, List.map_singleton, hr]
  refine List.perm_middle.symm.trans ?_
  rw [List.append_assoc]
  exact .refl _

/-! ## Creation -/

def CreateMemoryDiskRequest.Accepted (w : Answers) (request : CreateMemoryDiskRequest) : Prop :=
  (trim request.diskName).isEmpty = false ∧ request.capacityMib ≠ 0 ∧
    ∃ capacityBytes, capacityOfMib request.capacityMib = .ok capacityBytes ∧
      w.createMemory (resolveMemoryKind request.requestedMemoryKind capacityBytes)
        capacityBytes = .ok ()

def CreateFileDiskRequest.Accepted (paths : PathApi) (store : DiskRuntimeStore)
    (request : CreateFileDiskRequest) : Prop :=
  (trim request.diskName).isEmpty = false ∧ (trim request.filePath).isEmpty = false ∧
    ensureUniqueFilePath paths store (trim request.filePath) = .ok ()

def CreateNewFileDiskRequest.Accepted (paths : PathApi) (store : DiskRuntimeStore)
    (files : NewFileAnswers) (request : CreateNewFileDiskRequest) : Prop :=
  (trim request.diskName).isEmpty = false ∧ (trim request.filePath).isEmpty = false ∧
    ensureUniqueFilePath paths store (trim request.filePath) = .ok () ∧
    request.capacityMib ≠ 0 ∧ request.fileFormat = .raw ∧
    (∃ capacityBytes, capacityOfMib request.capacityMib = .ok capacityBytes) ∧
    (∃ parent, files.parent = some (parent, true)) ∧ files.fileExists = false ∧
    files.creates = .ok ()

/-- The new disk is in the store and in the configuration. -/
def Created (w : Answers) (s t : ClientState) : Prop :=
  w.saves = .ok () ∧ s.store.nextDiskNumber < u64Max ∧
    ∃ r, r.localDiskId = s.newLocalDiskId ∧ t = (s.insertNew r).saveConfig w

/-- It has been taken out of the store again; its number is not used again. -/
def CreationUndone (w : Answers) (s t : ClientState) : Prop :=
  (∃ e, w.saves = .error e) ∧ s.store.nextDiskNumber < u64Max ∧
    t = (s.setStore { s.store with nextDiskNumber := s.store.nextDiskNumber + 1 }).saveConfig w

/-- A panic: the last disk number has been used. -/
def overflowPanic : ApiError := ⟨"panic", "attempt to add with overflow", none⟩

/-- `x` is a creation that is let through when `accepted`. -/
def EndsCreation (accepted : Prop) (w : Answers) (x : ClientM Unit) (s : ClientState) : Prop :=
  Ends x s (fun _ t => Created w s t) fun e t =>
    (¬ accepted ∨ e = overflowPanic) ∧ t = s ∨ accepted ∧ CreationUndone w s t

section Creation

variable {w : Answers} {s : ClientState} {accepted : Prop}

/-- A check that the request has to pass. -/
theorem EndsCreation.failWhen {p : Prop} [Decidable p] {e : ApiError} {f : Unit → ClientM Unit}
    (hp : accepted → ¬ p) (hf : ¬ p → EndsCreation accepted w (f ()) s) :
    EndsCreation accepted w (failWhen p e >>= f) s :=
  ends_failWhen_bind (fun h => .inl ⟨.inl fun ha => hp ha h, rfl⟩) hf

theorem EndsCreation.liftExcept {α : Type} {x : Except ApiError α} {f : α → ClientM Unit}
    (hx : accepted → ∃ a, x = .ok a) (hf : ∀ a, x = .ok a → EndsCreation accepted w (f a) s) :
    EndsCreation accepted w (liftExcept x >>= f) s := by
  refine ends_liftExcept_bind (fun e he => .inl ⟨.inl fun ha => ?_, rfl⟩) hf
  obtain ⟨a, ha⟩ := hx ha
  rw [he] at ha
  cases ha

theorem ends_allocate_bind {β : Type} {f : String → ClientM β} {Q : β → ClientState → Prop}
    {E : ApiError → ClientState → Prop}
    (hfull : u64Max ≤ s.store.nextDiskNumber → E overflowPanic s)
    (hf : s.store.nextDiskNumber < u64Max → Ends (f s.newLocalDiskId)
      (s.setStore { s.store with nextDiskNumber := s.store.nextDiskNumber + 1 }) Q E) :
    Ends (allocateLocalDiskId >>= f) s Q E := by
  by_cases hn : u64Max ≤ s.store.nextDiskNumber
  · refine ends_of_error (bind_error (e := overflowPanic) ?_) (hfull hn)
    unfold allocateLocalDiskId failWhen
    rw [run_get_bind]
    dsimp only
    rw [if_pos hn]
    rfl
  · refine ends_bind_of_ok ?_ (hf (Nat.lt_of_not_le hn))
    unfold allocateLocalDiskId failWhen
    rw [run_get_bind]
    dsimp only
    rw [if_neg hn]
    rfl

/-- **The end of a creation**, whose request has passed. -/
theorem endsCreation_insert (h : IdsInv s) (ha : accepted) {runtime : String → DiskRuntime}
    (hid : ∀ id, (runtime id).localDiskId = id) :
    EndsCreation accepted w (do
      let localDiskId ← allocateLocalDiskId
      modifyStore (·.insertRuntime (runtime localDiskId))
      saveOrRemove w localDiskId) s := by
  refine ends_allocate_bind (fun _ => .inl ⟨.inr rfl, rfl⟩) fun hn => ?_
  set r := runtime s.newLocalDiskId with hr
  have hrid : r.localDiskId = s.newLocalDiskId := hid _
  refine ends_bind_of_ok (t := s.insertNew r) (run_modify _) ?_
  refine ends_bind_of_ok (run_saveClientState w _) ?_
  cases hsaves : w.saves with
  | ok _ => exact ends_of_ok (run_pure _) ⟨hsaves, hn, r, hrid, rfl⟩
  | error e =>
    refine ends_bind_of_ok (run_modify _)
      (ends_of_error (run_throw _) (.inr ⟨ha, ⟨e, hsaves⟩, hn, ?_⟩))
    have hruntimes : ((s.insertNew r).saveConfig w).store.runtimes = s.store.runtimes ++ r :: [] :=
      congrArg (·.store.runtimes) (insertNew_eq hn hrid)
    have hdrop := dropRuntime_split hruntimes (hrid ▸ h.new_ne hn)
    rw [hrid, List.append_nil] at hdrop
    show ((s.insertNew r).saveConfig w).setStore
      (((s.insertNew r).saveConfig w).store.dropRuntime s.newLocalDiskId) = _
    rw [hdrop, insertNew_eq hn hrid]
    unfold ClientState.saveConfig
    rw [hsaves]
    rfl

theorem endsCreation_createMemoryDisk (h : IdsInv s) (request : CreateMemoryDiskRequest) :
    EndsCreation (request.Accepted w) w (createMemoryDisk w request) s := by
  unfold createMemoryDisk
  dsimp only
  refine .failWhen (fun ha => by simp [ha.1]) fun hname => .failWhen (fun ha => ha.2.1) fun hzero =>
    .liftExcept (fun ⟨_, _, capacityBytes, hcapacity, _⟩ => ⟨capacityBytes, hcapacity⟩)
      fun capacityBytes hcapacity => .liftExcept (fun ⟨_, _, capacity, hcapacity', hcreate⟩ => ?_)
        fun _ hcreate => endsCreation_insert h ?_ fun _ => rfl
  · obtain rfl := Except.ok.inj (hcapacity.symm.trans hcapacity')
    exact ⟨(), hcreate⟩
  · exact ⟨Bool.eq_false_iff.mpr hname, hzero, capacityBytes, hcapacity, hcreate⟩

theorem fileRuntime_id (request : CreateFileDiskRequest) (diskName filePath localDiskId : String) :
    (fileRuntime w request diskName filePath localDiskId).localDiskId = localDiskId := by
  unfold fileRuntime
  split <;> rfl

variable {paths : PathApi}

theorem endsCreation_createFileDisk (h : IdsInv s) (request : CreateFileDiskRequest)
    (hsub : accepted → request.Accepted paths s.store)
    (hsup : request.Accepted paths s.store → accepted) :
    EndsCreation accepted w (createFileDisk paths w request) s := by
  unfold createFileDisk createFileDiskRuntime
  simp only [bind_assoc, pure_bind]
  refine .failWhen (fun ha => by simp [(hsub ha).1]) fun hname =>
    .failWhen (fun ha => by simp [(hsub ha).2.1]) fun hpath => ends_bind_of_ok (t := s) rfl ?_
  refine EndsCreation.liftExcept (fun ha => ⟨(), (hsub ha).2.2⟩) fun _ hunique => ?_
  exact endsCreation_insert h
    (hsup ⟨Bool.eq_false_iff.mpr hname, Bool.eq_false_iff.mpr hpath, hunique⟩)
    (fileRuntime_id request _ _)

theorem endsCreation_createNewFileDisk (h : IdsInv s) (files : NewFileAnswers)
    (request : CreateNewFileDiskRequest) :
    EndsCreation (request.Accepted paths s.store files) w
      (createNewFileDisk paths w files request) s := by
  unfold createNewFileDisk
  dsimp only
  refine .failWhen (fun ha => by simp [ha.1]) fun hname =>
    .failWhen (fun ha => by simp [ha.2.1]) fun hpath => ends_bind_of_ok (t := s) rfl ?_
  refine EndsCreation.liftExcept (fun ha => ⟨(), ha.2.2.1⟩) fun _ hunique =>
    .failWhen (fun ha => ha.2.2.2.1) fun hzero =>
      .failWhen (fun ha => by simp [ha.2.2.2.2.1]) fun hformat =>
        .liftExcept (fun ha => ha.2.2.2.2.2.1) fun capacityBytes hcapacity => ?_
  cases hparent : files.parent with
  | none =>
    refine ends_of_error (run_throw _) (.inl ⟨.inl fun ha => ?_, rfl⟩)
    obtain ⟨parent, hsome⟩ := ha.2.2.2.2.2.2.1
    rw [hparent] at hsome
    cases hsome
  | some found =>
    obtain ⟨parent, isDir⟩ := found
    refine EndsCreation.failWhen (fun ha => ?_) fun hdir =>
      .failWhen (fun ha => by simp [ha.2.2.2.2.2.2.2.1]) fun hexists =>
        .liftExcept (fun ha => ⟨(), ha.2.2.2.2.2.2.2.2⟩) fun _ hcreates => ?_
    · obtain ⟨parent', hsome⟩ := ha.2.2.2.2.2.2.1
      rw [hparent] at hsome
      cases hsome
      simp
    · have hisDir : isDir = true := by simpa using hdir
      exact endsCreation_createFileDisk h
        ⟨request.diskName, request.filePath, request.autoMount, false⟩
        (fun ha => ⟨ha.1, ha.2.1, ha.2.2.1⟩) fun ha =>
          ⟨ha.1, ha.2.1, ha.2.2, hzero, by simpa using hformat, ⟨capacityBytes, hcapacity⟩,
            ⟨parent, hisDir ▸ hparent⟩, Bool.eq_false_iff.mpr hexists, hcreates⟩

end Creation

/-! ## The user's configuration of a disk -/

def UpdateDiskRequest.Accepted (store : DiskRuntimeStore) (request : UpdateDiskRequest) : Prop :=
  (trim request.diskName).isEmpty = false ∧
    ∃ runtime, store.findRuntime request.localDiskId = some runtime ∧
      (runtime.sourceReadOnly && request.configuredReadOnly != runtime.configuredReadOnly) = false

theorem updateFirst_eq_self {p : DiskRuntime → Bool} {f : DiskRuntime → DiskRuntime} :
    ∀ {rs : List DiskRuntime}, (∀ r, rs.find? p = some r → f r = r) →
      DiskRuntimeStore.updateFirst p f rs = rs
  | [], _ => rfl
  | r :: rs, h => by
    unfold DiskRuntimeStore.updateFirst
    by_cases hp : p r = true
    · rw [if_pos hp, h r (List.find?_cons_of_pos hp)]
    · rw [if_neg hp, updateFirst_eq_self fun x hx => h x (by rwa [List.find?_cons_of_neg hp])]

theorem ends_updateDisk (w : Answers) (request : UpdateDiskRequest) (s : ClientState) :
    Ends (updateDisk w request) s
      (fun _ t => w.saves = .ok () ∧ ∃ store, t = (s.setStore store).saveConfig w)
      fun _ t => ¬ request.Accepted s.store ∧ t = s ∨
        request.Accepted s.store ∧ (∃ e, w.saves = .error e) ∧ t = s.saveConfig w := by
  unfold updateDisk
  dsimp only
  refine ends_failWhen_bind (fun hname => .inl ⟨fun ha => ?_, rfl⟩) fun hname =>
    ends_bind_of_ok (t := s) rfl ?_
  · rw [ha.1] at hname
    cases hname
  cases hfind : s.store.findRuntime request.localDiskId with
  | none =>
    refine ends_of_error (run_throw _) (.inl ⟨fun ha => ?_, rfl⟩)
    obtain ⟨-, runtime, hsome, -⟩ := ha
    rw [hfind] at hsome
    cases hsome
  | some runtime =>
    refine ends_failWhen_bind (fun hlocked => .inl ⟨fun ha => ?_, rfl⟩) fun hlocked =>
      ends_bind_of_ok (run_modify _) (ends_bind_of_ok (run_saveClientState w _) ?_)
    · obtain ⟨-, runtime', hsome, hfree⟩ := ha
      rw [hfind] at hsome
      cases hsome
      rw [hfree] at hlocked
      cases hlocked
    · cases hsaves : w.saves with
      | ok _ => exact ends_of_ok (run_pure _) ⟨rfl, _, rfl⟩
      | error e =>
        refine ends_bind_of_ok (run_modify _) (ends_of_error (run_throw _)
          (.inr ⟨⟨?_, runtime, hfind, Bool.eq_false_iff.mpr hlocked⟩, ⟨e, rfl⟩, ?_⟩))
        · exact Bool.eq_false_iff.mpr hname
        · have hback : DiskRuntimeStore.updateFirst (·.localDiskId = request.localDiskId)
              (·.setUserConfig runtime.diskName runtime.autoMount runtime.configuredReadOnly)
              (DiskRuntimeStore.updateFirst (·.localDiskId = request.localDiskId)
                (·.setUserConfig (trim request.diskName) request.autoMount
                  request.configuredReadOnly) s.store.runtimes) = s.store.runtimes := by
            rw [updateFirst_updateFirst (f := (·.setUserConfig (trim request.diskName)
              request.autoMount request.configuredReadOnly)) fun _ => rfl]
            refine updateFirst_eq_self fun r hr => ?_
            obtain rfl : r = runtime := Option.some.inj (hr.symm.trans hfind)
            rfl
          show ({ s with
            catalog := { s.catalog with
              runtimeStore := { s.store with
                runtimes := DiskRuntimeStore.updateFirst _ _
                  (DiskRuntimeStore.updateFirst _ _ _) } }
            config := _ } : ClientState) = _
          rw [hback]
          unfold ClientState.saveConfig
          rw [hsaves]
          rfl

/-! ## Undoing a deletion -/

/-- The deletion that is undone, among the others. -/
structure Taken (s : ClientState) (deletionId : String) (pending : PendingDiskDeletion)
    (before after : List PendingDiskDeletion) : Prop where
  found : s.catalog.takePendingDeletion deletionId = some (pending,
    { s.catalog with pendingDeletions := before ++ after })
  split : s.catalog.pendingDeletions = before ++ pending :: after

/-- The runtimes with the deleted one at its index. -/
def putBack (removed : RemovedDiskRuntime) (rs : List DiskRuntime) : List DiskRuntime :=
  rs.take removed.index ++ removed.runtime :: rs.drop removed.index

theorem IdsInv.taken {s : ClientState} (h : IdsInv s) {deletionId : String}
    {pending : PendingDiskDeletion} {before after : List PendingDiskDeletion}
    (ht : Taken s deletionId pending before after) :
    IdsOk ((putBack pending.removedRuntime s.store.runtimes).map (·.localDiskId) ++
      (before ++ after).map (·.removedRuntime.runtime.localDiskId)) s.store.nextDiskNumber := by
  refine h.perm ?_
  unfold catalogIds
  rw [ht.split, putBack]
  conv_lhs => rw [← List.take_append_drop pending.removedRuntime.index
    s.catalog.runtimeStore.runtimes]
  simp only [List.map_append, List.map_cons, List.append_assoc, List.cons_append]
  refine .append_left _ ?_
  rw [← List.append_assoc, ← List.append_assoc]
  exact List.perm_middle

theorem ends_undoDeleteDisk {s : ClientState} (h : IdsInv s) (w : Answers) (deletionId : String) :
    Ends (undoDeleteDisk w deletionId) s
      (fun _ t => w.saves = .ok () ∧ ∃ pending before after,
        Taken s deletionId pending before after ∧ t = ({ s with
          catalog := { s.catalog with
            runtimeStore := { s.store with
              runtimes := putBack pending.removedRuntime s.store.runtimes }
            pendingDeletions := before ++ after } } : ClientState).saveConfig w)
      fun _ t => s.catalog.takePendingDeletion deletionId = none ∧ t = s ∨
        (∃ e, w.saves = .error e) ∧ ∃ pending before after,
          Taken s deletionId pending before after ∧ t = ({ s with
            catalog := { s.catalog with
              pendingDeletions := before ++ after ++ [⟨pending.deletionId,
                ⟨min pending.removedRuntime.index s.store.runtimes.length,
                  pending.removedRuntime.runtime⟩⟩] } } : ClientState).saveConfig w := by
  refine ends_bind_of_ok (t := s) rfl ?_
  cases htake : s.catalog.takePendingDeletion deletionId with
  | none => exact ends_of_error (run_throw _) (.inl ⟨rfl, rfl⟩)
  | some result =>
    obtain ⟨pending, catalog⟩ := result
    obtain ⟨before, after, hsplit, rfl⟩ := takePendingDeletion_spec htake
    have htaken : Taken s deletionId pending before after := ⟨htake, hsplit⟩
    have hids := h.taken htaken
    have hback := @restoreRemovedRuntime_spec s.store pending.removedRuntime (by
      refine h.numbers _ (List.mem_append_right _ ?_)
      rw [hsplit]
      simp)
    set u : ClientState := { s with
      catalog := { s.catalog with
        runtimeStore := { s.store with
          runtimes := putBack pending.removedRuntime s.store.runtimes }
        pendingDeletions := before ++ after } } with hu
    refine ends_bind_of_ok (a := ⟨⟩)
      (t := { s with catalog := { s.catalog with pendingDeletions := before ++ after } }) rfl ?_
    refine ends_bind_of_ok (a := ⟨⟩) (t := u) ((run_modify _).trans ?_) ?_
    · show EStateM.Result.ok _ (ClientState.setStore _
        (s.store.restoreRemovedRuntime pending.removedRuntime)) = _
      rw [hback]
      rfl
    refine ends_bind_of_ok (run_saveClientState w u) ?_
    cases hsaves : w.saves with
    | ok _ => exact ends_of_ok (run_pure _) ⟨rfl, pending, before, after, htaken, rfl⟩
    | error e =>
      -- the runtime is taken out again, by its id
      refine ends_bind_of_ok (t := u.saveConfig w) rfl ?_
      have hfirst : ∀ x ∈ s.store.runtimes.take pending.removedRuntime.index,
          x.localDiskId ≠ pending.removedRuntime.runtime.localDiskId := by
        have hnodup := (List.nodup_append.mp hids.nodup).1
        rw [putBack, List.map_append, List.map_cons] at hnodup
        exact fun x hx => (List.nodup_append.mp hnodup).2.2 _ (List.mem_map_of_mem hx) _
          List.mem_cons_self
      have hremove : (u.saveConfig w).store.removeRuntime
          pending.removedRuntime.runtime.localDiskId = _ :=
        @removeRuntime_split (u.saveConfig w).store _ _ _ rfl hfirst
      rw [hremove, List.take_append_drop, List.length_take]
      refine ends_bind_of_ok (a := ⟨⟩) rfl (ends_bind_of_ok (run_modify _)
        (ends_of_error (run_throw _) (.inr ⟨⟨e, rfl⟩, pending, before, after, htaken, ?_⟩)))
      unfold ClientState.saveConfig
      rw [hsaves]
      rfl

/-! ## Deletion -/

/-- The driver gives the medium of the runtime back, if it is mounted. -/
def GivesBack (w : Answers) (s : ClientState) (r : DiskRuntime) : Prop :=
  ∀ targetId ∈ r.mountedTargetId,
    (s.backend.find? targetId).isSome ∧ w.removes r.localDiskId = .ok ()

/-- The runtime is what its deletion leaves of it. -/
def DiskRuntime.Bare (r : DiskRuntime) : Prop :=
  r.mountedTargetId = none ∧ (r.isNetwork = true → r.missing = r)

/-- The runtime after its deletion has been prepared. -/
structure DiskRuntime.Prepared (r r' : DiskRuntime) : Prop where
  localDiskId : r'.localDiskId = r.localDiskId
  sinks : r.Sinks r'
  eq_iff : r' = r ↔ r.Bare

/-- The stores without the session of the runtime. -/
def Stores.forget (b : Stores) (r : DiskRuntime) : Stores :=
  { b with openedSessions := b.openedSessions.filter fun opened => some opened.key ≠ r.networkKey }

theorem networkKey_of_not_network {r : DiskRuntime} (h : r.isNetwork = false) :
    r.networkKey = none := by
  unfold DiskRuntime.isNetwork at h
  unfold DiskRuntime.networkKey
  cases hconfig : r.mediaConfig <;> simp [hconfig] at h ⊢

theorem Stores.forget_of_none {b : Stores} {r : DiskRuntime} (h : r.networkKey = none) :
    b.forget r = b := by
  unfold forget
  rw [h]
  simp

theorem run_removeManagedDisk (w : Answers) (localDiskId : String) (targetId : Nat)
    (s : ClientState) : ∃ t, removeManagedDiskWithMedia w localDiskId targetId s =
      .ok (s.backend.remove targetId (w.removes localDiskId)).1 t ∧
        t.stores = s.stores ∧ SameCatalog s t :=
  ⟨{ s with backend := (s.backend.remove targetId (w.removes localDiskId)).2 }, rfl, rfl,
    ⟨rfl, rfl, rfl⟩⟩

theorem backend_remove_spec (backend : Backend) (targetId : Nat) (driver : Except String Unit) :
    match (backend.remove targetId driver).1 with
    | .ok _ => (backend.find? targetId).isSome ∧ driver = .ok ()
    | .error _ => ¬ ((backend.find? targetId).isSome ∧ driver = .ok ()) := by
  unfold Backend.remove
  cases backend.find? targetId with
  | none => simp
  | some media => cases driver <;> simp

theorem mountedTargetId_afterRemoval (w : Answers) {r : DiskRuntime} (media : Media)
    (h : r.isNetwork = false) : (afterRemoval w r media).mountedTargetId = none := by
  unfold afterRemoval
  split
  · rfl
  · rename_i hmemory
    dsimp only
    have hfile : ∃ path, r.filePath? = some path := by
      unfold DiskRuntime.isNetwork at h
      unfold DiskRuntime.isMemory at hmemory
      unfold DiskRuntime.filePath?
      cases hconfig : r.mediaConfig <;> simp [hconfig] at h hmemory ⊢
    obtain ⟨path, hpath⟩ := hfile
    rw [show ({ r with media := none } : DiskRuntime).filePath? = some path from hpath]
    dsimp only
    split <;> rfl

theorem localDiskId_afterRemoval (w : Answers) (r : DiskRuntime) (media : Media) :
    (afterRemoval w r media).localDiskId = r.localDiskId := by
  unfold afterRemoval
  split
  · rfl
  · dsimp only
    split
    · rfl
    · split <;> rfl

theorem prepared_unmounted {r r' : DiskRuntime} (hid : r'.localDiskId = r.localDiskId)
    (h : r.mountedTargetId ≠ none) (h' : r'.mountedTargetId = none) : r.Prepared r' :=
  ⟨hid, .inr (.inr ⟨h, h'⟩), iff_of_false (fun heq => h (heq ▸ h')) fun hbare => h hbare.1⟩

theorem prepared_missing {r : DiskRuntime} (h : r.isNetwork = true) : r.Prepared r.missing := by
  refine ⟨rfl, .inr (.inl rfl), fun heq => ⟨?_, fun _ => heq⟩, fun hbare => hbare.2 h⟩
  rw [← heq]
  rfl

theorem ends_prepareDeletedLocalRuntime (w : Answers) {r : DiskRuntime} (h : r.isNetwork = false)
    (s : ClientState) : Ends (prepareDeletedLocalRuntime w r) s
      (fun r' t => GivesBack w s r ∧ r.Prepared r' ∧ t.stores = s.stores.forget r ∧ SameCatalog s t)
      fun _ t => ¬ GivesBack w s r ∧ t.stores = s.stores ∧ SameCatalog s t := by
  rw [Stores.forget_of_none (networkKey_of_not_network h)]
  unfold prepareDeletedLocalRuntime
  cases hmounted : r.mountedTargetId with
  | none =>
    refine ends_of_ok (run_pure _) ⟨fun targetId htarget => ?_, ⟨rfl, .inl rfl, iff_of_true rfl
      ⟨hmounted, fun hnet => ?_⟩⟩, rfl, ⟨rfl, rfl, rfl⟩⟩
    · rw [hmounted] at htarget
      cases htarget
    · rw [h] at hnet
      cases hnet
  | some targetId =>
    obtain ⟨t, ht, hstores, hsame⟩ := run_removeManagedDisk w r.localDiskId targetId s
    have hremove := backend_remove_spec s.backend targetId (w.removes r.localDiskId)
    refine ends_bind_of_ok ht ?_
    cases hresult : (s.backend.remove targetId (w.removes r.localDiskId)).1 with
    | error text =>
      rw [hresult] at hremove
      exact ends_of_error (run_throw _)
        ⟨fun hgives => hremove (hgives targetId hmounted), hstores, hsame⟩
    | ok media =>
      rw [hresult] at hremove
      refine ends_of_ok (run_pure _) ⟨fun targetId' htarget => ?_, prepared_unmounted
        (localDiskId_afterRemoval w r media) (by simp [hmounted])
        (mountedTargetId_afterRemoval w media h), hstores, hsame⟩
      obtain rfl := Option.some.inj (hmounted.symm.trans htarget)
      exact hremove

theorem ends_prepareDeletedNetworkRuntime (w : Answers) {r : DiskRuntime} (h : r.isNetwork = true)
    (s : ClientState) : Ends (prepareDeletedNetworkRuntime w r) s
      (fun r' t => GivesBack w s r ∧ r.Prepared r' ∧ t.stores = s.stores.forget r ∧ SameCatalog s t)
      fun _ t => ¬ GivesBack w s r ∧ t.stores = s.stores ∧ SameCatalog s t := by
  have hforget : ∀ t, t.stores = s.stores → SameCatalog s t → Ends (do
      whenSome r.networkKey fun key => do
        let s ← get
        let openedSession := s.network.openedSession key
        modifyNetwork (·.removeOpenedSession key)
        whenSome openedSession fun opened => closeSessionForCleanup opened.session
      return r.setNetworkInvalid networkSessionMissingReason : ClientM DiskRuntime) t
      (fun r' u => r.Prepared r' ∧ u.stores = s.stores.forget r ∧ SameCatalog s u)
      fun _ _ => False := by
    intro t ht hsame
    refine Ends.bind (Q := fun _ u => u.stores = s.stores.forget r ∧ SameCatalog s u) ?_
      fun _ u hu => ends_of_ok (run_pure _) ⟨prepared_missing h, hu⟩
    cases hkey : r.networkKey with
    | none => exact ends_of_ok (run_pure _) ⟨ht.trans (Stores.forget_of_none hkey).symm, hsame⟩
    | some key =>
      let u : ClientState := { t with network := t.network.removeOpenedSession key }
      have hu : SameCatalog s u := ⟨hsame.catalog, hsame.holder, hsame.rescan⟩
      have hremoved : u.stores = s.stores.forget r := by
        rw [Stores.forget, ← ht, hkey]
        simp [u, ClientState.stores, NetworkClientState.removeOpenedSession, ClientState.store]
      refine ends_bind_of_ok (t := t) rfl (ends_bind_of_ok (run_modify _) ?_)
      cases t.network.openedSession key with
      | none => exact ends_of_ok (run_pure _) ⟨hremoved, hu⟩
      | some opened =>
        exact ends_of_ok (run_modify _) ⟨(stores_closeSession u _).trans hremoved,
          IsTrans.trans _ _ _ hu (same_closeSession u _)⟩
  unfold prepareDeletedNetworkRuntime
  cases hmounted : r.mountedTargetId with
  | none =>
    have hgives : GivesBack w s r := by
      intro targetId htarget
      rw [hmounted] at htarget
      cases htarget
    exact ends_bind_of_ok (run_pure _)
      ((hforget s rfl ⟨rfl, rfl, rfl⟩).mono (fun _ _ hr => ⟨hgives, hr⟩)
        fun _ _ hfalse => hfalse.elim)
  | some targetId =>
    obtain ⟨t, ht, hstores, hsame⟩ := run_removeManagedDisk w r.localDiskId targetId s
    have hremove := backend_remove_spec s.backend targetId (w.removes r.localDiskId)
    cases hresult : (s.backend.remove targetId (w.removes r.localDiskId)).1 with
    | error text =>
      rw [hresult] at hremove ht
      exact ends_of_error (bind_error (bind_ok ht))
        ⟨fun hgives => hremove (hgives targetId hmounted), hstores, hsame⟩
    | ok media =>
      rw [hresult] at hremove ht
      have hgives : GivesBack w s r := by
        intro targetId' htarget
        obtain rfl := Option.some.inj (hmounted.symm.trans htarget)
        exact hremove
      exact ends_bind_of_ok (a := ()) (bind_ok ht)
        ((hforget t hstores hsame).mono (fun _ _ hr => ⟨hgives, hr⟩) fun _ _ hfalse => hfalse.elim)

theorem ends_prepareDeleted (w : Answers) (r : DiskRuntime) (s : ClientState) :
    Ends (prepareDeletedRuntime w r) s
      (fun r' t => GivesBack w s r ∧ r.Prepared r' ∧ t.stores = s.stores.forget r ∧ SameCatalog s t)
      fun _ t => ¬ GivesBack w s r ∧ t.stores = s.stores ∧ SameCatalog s t := by
  unfold prepareDeletedRuntime
  cases hnet : r.isNetwork with
  | true => exact ends_prepareDeletedNetworkRuntime w hnet s
  | false => exact ends_prepareDeletedLocalRuntime w hnet s

/-- The ids are those of another state, in any order. -/
theorem IdsInv.of_perm {s t : ClientState} (h : IdsInv s)
    (hids : (catalogIds s.catalog).Perm (catalogIds t.catalog))
    (hnext : t.store.nextDiskNumber = s.store.nextDiskNumber) : IdsInv t := by
  unfold IdsInv
  rw [hnext]
  exact h.perm hids

theorem findRuntime_split {store : DiskRuntimeStore} {localDiskId : String} {r : DiskRuntime}
    (h : store.findRuntime localDiskId = some r) :
    r.localDiskId = localDiskId ∧ ∃ rs rs', store.runtimes = rs ++ r :: rs' ∧
      store.removeRuntime localDiskId =
        some (⟨rs.length, r⟩, { store with runtimes := rs ++ rs' }) := by
  obtain ⟨hid, rs, rs', hsplit, hfirst⟩ := List.find?_eq_some_iff_append.mp h
  obtain rfl : r.localDiskId = localDiskId := of_decide_eq_true hid
  refine ⟨rfl, rs, rs', hsplit, removeRuntime_split hsplit fun x hx => ?_⟩
  simpa using hfirst x hx

theorem removeRuntime_none {store : DiskRuntimeStore} {localDiskId : String}
    (h : store.findRuntime localDiskId = none) : store.removeRuntime localDiskId = none := by
  unfold DiskRuntimeStore.removeRuntime
  rw [List.findIdx_eq_length_of_false fun x hx => by simpa using List.find?_eq_none.mp h x hx]
  simp

/-- The deleted runtime is back in the store, after its deletion has been prepared. -/
def DeletionUndone (w : Answers) (t : ClientState) (r : DiskRuntime) (v : ClientState) : Prop :=
  (∃ e, w.saves = .error e) ∧ ∃ r' rs rs', r.Prepared r' ∧ t.store.runtimes = rs ++ r :: rs' ∧
    v.stores = { t.stores.forget r with
      runtimes := rs ++ r' :: rs'
      config := configAfterFailure w t.config }

/-- **The end of a deletion**, from the state that the queued events leave. -/
theorem ends_deleteDisk {w : Answers} {s t : ClientState}
    (hsync : syncPendingEvents w s = .ok ⟨⟩ t) (h : IdsInv t) (localDiskId : String) :
    Ends (deleteDisk w localDiskId) s
      (fun _ v => IdsInv v ∧ w.saves = .ok () ∧ Persisted v ∧
        ∃ r, t.store.findRuntime localDiskId = some r ∧ GivesBack w t r)
      fun _ v => IdsInv v ∧ (t.store.findRuntime localDiskId = none ∧ v.stores = t.stores ∨
        ∃ r, t.store.findRuntime localDiskId = some r ∧
          (¬ GivesBack w t r ∧ v.stores = t.stores ∨
            GivesBack w t r ∧ DeletionUndone w t r v)) := by
  refine ends_bind_of_ok hsync (ends_bind_of_ok (t := t) rfl ?_)
  cases hfind : t.store.findRuntime localDiskId with
  | none =>
    rw [removeRuntime_none hfind]
    exact ends_of_error (run_throw _) ⟨h, .inl ⟨rfl, rfl⟩⟩
  | some r =>
    obtain ⟨-, rs, rs', hsplit, hremove⟩ := findRuntime_split hfind
    rw [hremove]
    let u : ClientState := t.setStore { t.store with runtimes := rs ++ rs' }
    have hmem : r ∈ t.store.runtimes := hsplit ▸ by simp
    -- the runtime, as it is then, goes back where it was
    have hback : ∀ {r' : DiskRuntime} {v : ClientState}, r'.localDiskId = r.localDiskId →
        SameCatalog u v → v.store.restoreRemovedRuntime ⟨rs.length, r'⟩ =
          { t.store with runtimes := rs ++ r' :: rs' } := by
      intro r' v hid hv
      have hstore : v.store = { t.store with runtimes := rs ++ rs' } := hv.store
      have hspec := @restoreRemovedRuntime_spec v.store ⟨rs.length, r'⟩ (by
        intro n hn
        rw [hstore]
        exact h.numbers r.localDiskId (List.mem_append_left _ (List.mem_map_of_mem hmem)) n
          (hid ▸ hn))
      rw [hspec, hstore]
      dsimp only
      rw [List.take_left, List.drop_left]
    have hids : ∀ {r' : DiskRuntime} {v : ClientState}, r'.localDiskId = r.localDiskId →
        SameCatalog u v → IdsInv (v.setStore { t.store with runtimes := rs ++ r' :: rs' }) := by
      intro r' v hid hv
      refine h.of_perm ?_ rfl
      show (t.store.runtimes.map _ ++ t.catalog.pendingDeletions.map _).Perm
        ((rs ++ r' :: rs').map _ ++ v.catalog.pendingDeletions.map _)
      rw [hv.catalog, hsplit]
      simp [hid, u, ClientState.setStore]
    refine ends_bind_of_ok (a := ⟨⟩) (t := u) rfl ?_
    refine Ends.bind ((ends_attempt (ends_prepareDeleted w r u)).mono (fun _ _ hq => hq)
      fun _ _ hfalse => hfalse.elim) fun result v hv => ?_
    cases result with
    | error e =>
      obtain ⟨hgives, hstores, hv⟩ := hv
      refine ends_bind_of_ok (run_modify _) (ends_of_error (run_throw _) ?_)
      show IdsInv (v.setStore (v.store.restoreRemovedRuntime ⟨rs.length, r⟩)) ∧ _
      rw [hback rfl hv]
      refine ⟨hids rfl hv, .inr ⟨r, rfl, .inl ⟨hgives, ?_⟩⟩⟩
      show (v.setStore (v.store.restoreRemovedRuntime ⟨rs.length, r⟩)).stores = t.stores
      rw [hback rfl hv]
      simp only [ClientState.stores, Stores.mk.injEq] at hstores ⊢
      exact ⟨hsplit.symm, hstores.2⟩
    | ok r' =>
      obtain ⟨hgives, hprepared, hstores, hv⟩ := hv
      have hsaved := IsTrans.trans _ _ _ hv (same_saveConfig v w)
      refine ends_bind_of_ok (run_saveClientState w v) ?_
      cases hsaves : w.saves with
      | error e =>
        refine ends_bind_of_ok (run_modify _) (ends_of_error (run_throw _) ?_)
        show IdsInv ((v.saveConfig w).setStore
          ((v.saveConfig w).store.restoreRemovedRuntime ⟨rs.length, r'⟩)) ∧ _
        rw [hback hprepared.localDiskId hsaved]
        refine ⟨hids hprepared.localDiskId hsaved, .inr ⟨r, rfl, .inr ⟨hgives, ⟨e, hsaves⟩, r', rs,
          rs', hprepared, hsplit, ?_⟩⟩⟩
        show ((v.saveConfig w).setStore
          ((v.saveConfig w).store.restoreRemovedRuntime ⟨rs.length, r'⟩)).stores = _
        rw [hback hprepared.localDiskId hsaved]
        have hconfig := config_saveConfig_error hsaves v
        simp only [ClientState.stores, Stores.forget, Stores.mk.injEq] at hstores ⊢
        exact ⟨rfl, hstores.2.1, hstores.2.2.1, hstores.2.2.2.1,
          hconfig.trans (congrArg _ hstores.2.2.2.2)⟩
      | ok _ =>
        refine ends_of_ok (run_modify _) ⟨?_, rfl, persisted_saveConfig v hsaves, r, rfl, hgives⟩
        refine h.of_perm ?_ (congrArg (·.nextDiskNumber) hsaved.store)
        show (t.store.runtimes.map _ ++ t.catalog.pendingDeletions.map _).Perm
          (catalogIds (v.catalog.stagePendingDeletion ⟨rs.length, r'⟩).2)
        have hcatalog : v.catalog = u.catalog := hv.catalog
        rw [hcatalog, hsplit]
        simp only [catalogIds, DiskCatalogState.stagePendingDeletion, u, ClientState.setStore,
          List.map_append, List.map_cons, List.map_nil, List.append_assoc, List.cons_append,
          hprepared.localDiskId]
        refine .append_left _ ((List.perm_append_singleton _ _).symm.trans ?_)
        rw [List.append_assoc]

/-! ## The submission of a draft -/

/-- The network disk of an item. -/
def NetworkDraftItem.runtime (item : NetworkDraftItem) (serverAddr localDiskId : String) :
    DiskRuntime :=
  .newNetwork localDiskId item.diskName false serverAddr item.key.remoteDiskId item.authMaterial
    item.metadata.diskSizeBytes false item.metadata.readOnly

/-- The disks of the items, numbered from the next number on. -/
def draftRuntimes (serverAddr : String) : Nat → List NetworkDraftItem → List DiskRuntime
  | _, [] => []
  | number, item :: items =>
    item.runtime serverAddr (DiskRuntimeStore.localDiskIdOf number) ::
      draftRuntimes serverAddr (number + 1) items

def ClientState.withRuntimes (s : ClientState) (serverAddr : String)
    (items : List NetworkDraftItem) : ClientState :=
  s.setStore
    { nextDiskNumber := s.store.nextDiskNumber + items.length
      runtimes := s.store.runtimes ++ draftRuntimes serverAddr s.store.nextDiskNumber items }

theorem withRuntimes_nil (s : ClientState) (serverAddr : String) :
    s.withRuntimes serverAddr [] = s := by
  simp [ClientState.withRuntimes, draftRuntimes, ClientState.setStore, ClientState.store]

theorem withRuntimes_cons {s : ClientState} (hn : s.store.nextDiskNumber < u64Max)
    (serverAddr : String) (item : NetworkDraftItem) (items : List NetworkDraftItem) :
    (s.insertNew (item.runtime serverAddr s.newLocalDiskId)).withRuntimes serverAddr items =
      s.withRuntimes serverAddr (item :: items) := by
  rw [insertNew_eq hn rfl]
  simp [ClientState.withRuntimes, draftRuntimes, ClientState.setStore, ClientState.store,
    ClientState.newLocalDiskId]
  omega

theorem IdsInv.withRuntimes {serverAddr : String} : ∀ {items : List NetworkDraftItem}
    {s : ClientState}, IdsInv s → s.store.nextDiskNumber + items.length ≤ u64Max →
      IdsInv (s.withRuntimes serverAddr items)
  | [], s, h, _ => by rwa [withRuntimes_nil]
  | item :: items, s, h, hn => by
    rw [List.length_cons] at hn
    have hlt : s.store.nextDiskNumber < u64Max := by omega
    rw [← withRuntimes_cons hlt]
    refine (h.insertNew hlt rfl).withRuntimes ?_
    rw [insertNew_eq hlt rfl]
    show s.store.nextDiskNumber + 1 + items.length ≤ u64Max
    omega

theorem ends_insertNumbered (serverAddr : String) : ∀ (items : List NetworkDraftItem)
    (s : ClientState), Ends (insertDraftRuntimes serverAddr items) s
      (fun localDiskIds t => (items ≠ [] → s.store.nextDiskNumber + items.length ≤ u64Max) ∧
        t = s.withRuntimes serverAddr items ∧ localDiskIds =
          (draftRuntimes serverAddr s.store.nextDiskNumber items).map (·.localDiskId))
      fun e t => e = overflowPanic ∧
        ∃ k, (items.take k ≠ [] → s.store.nextDiskNumber + (items.take k).length ≤ u64Max) ∧
          t = s.withRuntimes serverAddr (items.take k)
  | [], s =>
    ends_of_ok (run_pure _) ⟨fun h => absurd rfl h, (withRuntimes_nil s serverAddr).symm, rfl⟩
  | item :: items, s => by
    refine ends_allocate_bind (fun _ => ⟨rfl, 0, fun h => absurd rfl h,
      (withRuntimes_nil s serverAddr).symm⟩) fun hn => ?_
    let u := s.insertNew (item.runtime serverAddr s.newLocalDiskId)
    have hnext : u.store.nextDiskNumber = s.store.nextDiskNumber + 1 :=
      congrArg (·.store.nextDiskNumber) (insertNew_eq hn rfl)
    refine ends_bind_of_ok (t := u) (run_modify _) ?_
    refine Ends.bind ((ends_insertNumbered serverAddr items u).mono (fun _ _ h => h)
      fun _ t ⟨hpanic, k, hfits, ht⟩ => ⟨hpanic, k + 1, fun _ => ?_, ?_⟩)
        fun localDiskIds t ⟨hfits, ht, hids⟩ => ends_of_ok (run_pure _) ⟨fun _ => ?_, ?_, ?_⟩
    · rw [hnext] at hfits
      rw [List.take_succ_cons, List.length_cons]
      cases htake : items.take k with
      | nil =>
        rw [List.length_nil]
        omega
      | cons x xs =>
        have hle := hfits (by simp [htake])
        rw [htake] at hle
        omega
    · rw [ht, List.take_succ_cons]
      exact withRuntimes_cons hn serverAddr item _
    · rw [hnext] at hfits
      rw [List.length_cons]
      cases items with
      | nil =>
        rw [List.length_nil]
        omega
      | cons x xs =>
        have hle := hfits (List.cons_ne_nil _ _)
        omega
    · rw [ht]
      exact withRuntimes_cons hn serverAddr item items
    · rw [hids, hnext]
      rfl

/-- The new disks are taken out again, the last one first. -/
theorem dropRuntimes_eq {rs : List DiskRuntime} (news : List DiskRuntime) :
    ∀ store : DiskRuntimeStore, store.runtimes = rs ++ news →
      ((rs ++ news).map (·.localDiskId)).Nodup →
        (news.map (·.localDiskId)).reverse.foldl (·.dropRuntime ·) store =
          { store with runtimes := rs } := by
  induction news using List.reverseRecOn with
  | nil =>
    intro store hstore _
    rw [List.append_nil] at hstore
    rw [← hstore]
    rfl
  | append_singleton news r ih =>
    intro store hstore hnodup
    rw [← List.append_assoc] at hstore hnodup
    rw [List.map_append] at hnodup
    obtain ⟨hold, -, hne⟩ := List.nodup_append.mp hnodup
    have hdrop := dropRuntime_split hstore fun x hx =>
      hne _ (List.mem_map_of_mem hx) _ (by simp)
    rw [List.append_nil] at hdrop
    rw [List.map_append, List.map_singleton, List.reverse_append, List.reverse_singleton,
      List.singleton_append, List.foldl_cons, hdrop]
    exact ih { store with runtimes := rs ++ news } rfl hold

/-- The draft is one that `submit_network_draft` submits. -/
structure DraftAccepted (s : ClientState) (draftId : String) (draft : NetworkCreateDraft) :
    Prop where
  found : s.network.draft draftId = some draft
  nonempty : draft.items ≠ []
  checked : checkDraftItems s.store s.network draft draft.items = .ok ()

/-- **The end of a submission** before the draft is removed. -/
theorem ends_submitDraft {s : ClientState} (h : IdsInv s) (w : Answers) (draftId : String) :
    Ends (submitDraft w draftId) s
      (fun holder t => ∃ draft, DraftAccepted s draftId draft ∧
        s.store.nextDiskNumber + draft.items.length ≤ u64Max ∧ w.saves = .ok () ∧
        holder = .submitting draft ∧
        t = (s.withRuntimes draft.serverAddr draft.items).saveConfig w)
      fun e t => (∀ draft, ¬ DraftAccepted s draftId draft) ∧ t = s ∨
        ∃ draft, DraftAccepted s draftId draft ∧
          (e = overflowPanic ∧ IdsInv t ∨
            s.store.nextDiskNumber + draft.items.length ≤ u64Max ∧ (∃ e, w.saves = .error e) ∧
              t = (s.setStore { s.store with
                nextDiskNumber := s.store.nextDiskNumber + draft.items.length }).saveConfig w) := by
  refine ends_bind_of_ok (t := s) rfl ?_
  cases hfind : s.network.draft draftId with
  | none =>
    refine ends_of_error (run_throw _) (.inl ⟨fun draft ha => ?_, rfl⟩)
    have hfound := ha.found
    rw [hfind] at hfound
    cases hfound
  | some draft =>
    have hno : (draft.items.isEmpty = true ∨
        ∃ e, checkDraftItems s.store s.network draft draft.items = .error e) →
          ∀ draft', ¬ DraftAccepted s draftId draft' := by
      intro hrefused draft' ha
      obtain rfl := Option.some.inj (hfind.symm.trans ha.found)
      rcases hrefused with hempty | ⟨e, he⟩
      · exact ha.nonempty (List.isEmpty_iff.mp hempty)
      · have hchecked := ha.checked
        rw [he] at hchecked
        cases hchecked
    refine ends_failWhen_bind (fun hempty => .inl ⟨hno (.inl hempty), rfl⟩) fun hnonempty =>
      ends_liftExcept_bind (fun e he => .inl ⟨hno (.inr ⟨e, he⟩), rfl⟩) fun _ hchecked => ?_
    have hne : draft.items ≠ [] := fun hnil => hnonempty (List.isEmpty_iff.mpr hnil)
    have ha : DraftAccepted s draftId draft := ⟨hfind, hne, hchecked⟩
    refine Ends.bind ((ends_insertNumbered draft.serverAddr draft.items s).mono (fun _ _ hq => hq)
      fun _ t ⟨hpanic, k, hfits, ht⟩ => .inr ⟨draft, ha, .inl ⟨hpanic, ?_⟩⟩)
        fun localDiskIds t ⟨hfits, ht, hids⟩ => ?_
    · rw [ht]
      by_cases htake : draft.items.take k = []
      · rw [htake, withRuntimes_nil]
        exact h
      · exact h.withRuntimes (hfits htake)
    · subst ht hids
      have hinv := @IdsInv.withRuntimes draft.serverAddr _ _ h (hfits hne)
      refine ends_bind_of_ok (run_saveClientState w _) ?_
      cases hsaves : w.saves with
      | ok _ => exact ends_of_ok (run_pure _) ⟨draft, ha, hfits hne, rfl, rfl, rfl⟩
      | error e =>
        refine ends_bind_of_ok (run_modify _) (ends_of_error (run_throw _)
          (.inr ⟨draft, ha, .inr ⟨hfits hne, ⟨e, rfl⟩, ?_⟩⟩))
        have hdrop := dropRuntimes_eq _ (s.withRuntimes draft.serverAddr draft.items).store rfl
          (List.nodup_append.mp hinv.nodup).1
        show ((s.withRuntimes draft.serverAddr draft.items).saveConfig w).setStore
          (List.foldl _ (s.withRuntimes draft.serverAddr draft.items).store _) = _
        rw [hdrop]
        unfold ClientState.saveConfig
        rw [hsaves]
        rfl

end YumeDisk.TauriClient
