import YumeDisk.TauriClient.ClientState

/-!
# Memory and file disks (`backend/disk_service.rs`, `backend/persistence_service.rs`)

The sections that commands on local disks make under the catalog mutex, and the restoration of the
catalog from the configuration file.
-/

namespace YumeDisk.TauriClient

def mibBytes : Nat := 1024 * 1024

def maxDenseMemoryBytes : Nat := 1024 * 1024 * 1024

def invalidCapacityError : ApiError := ⟨"invalid-disk-capacity", "容量必须是大于 0 的 MiB 整数", none⟩

def emptyFilePathError : ApiError := ⟨"invalid-file-path", "文件路径不能为空", none⟩

def emptyDiskNameError : ApiError := ⟨"invalid-disk-name", "磁盘名称不能为空", none⟩

/-- `capacity_mib.checked_mul(MIB_BYTES)`. -/
def capacityOfMib (capacityMib : Nat) : Except ApiError Nat :=
  if capacityMib * mibBytes ≤ u64Max then return capacityMib * mibBytes
  else throw invalidCapacityError

/-! ## Creation -/

inductive RequestedMemoryMediaKind where
  | auto
  | denseMem
  | sparseMem
deriving DecidableEq, Repr

structure CreateMemoryDiskRequest where
  diskName : String
  capacityMib : Nat
  requestedMemoryKind : RequestedMemoryMediaKind
  autoMount : Bool
deriving DecidableEq, Repr

structure CreateFileDiskRequest where
  diskName : String
  filePath : String
  autoMount : Bool
  configuredReadOnly : Bool
deriving DecidableEq, Repr

inductive CreateFileFormat where
  | raw
  | vmdk
  | vhd
  | vhdx
  | vdi
  | qcow2
deriving DecidableEq, Repr

structure CreateNewFileDiskRequest where
  diskName : String
  filePath : String
  capacityMib : Nat
  fileFormat : CreateFileFormat
  autoMount : Bool
deriving DecidableEq, Repr

/-- What the file system says of the path of a new file. -/
structure NewFileAnswers where
  /-- `parent()` and whether it is a directory. -/
  parent : Option (String × Bool)
  fileExists : Bool
  /-- `create_raw_file`. -/
  creates : Except ApiError Unit

def resolveMemoryKind (requestedKind : RequestedMemoryMediaKind) (capacityBytes : Nat) :
    MemoryMediaKind :=
  match requestedKind with
  | .denseMem => .denseMem
  | .sparseMem => .sparseMem
  | .auto => if capacityBytes ≤ maxDenseMemoryBytes then .denseMem else .sparseMem

/-- The ids are numbered by a `u64`, whose overflow is a panic; a release build wraps around. -/
def allocateLocalDiskId : ClientM String := do
  let s ← get
  failWhen (u64Max ≤ s.store.nextDiskNumber) ⟨"panic", "attempt to add with overflow", none⟩
  let (localDiskId, store) := s.store.allocateLocalDiskId
  set (s.setStore store)
  return localDiskId

/-- `save_client_state`, and the removal of the new runtime when that fails. -/
def saveOrRemove (w : Answers) (localDiskId : String) : ClientM Unit := do
  match ← saveClientState w with
  | .ok () => pure ()
  | .error error =>
    modifyStore (·.dropRuntime localDiskId)
    throw error

/-- `create_memory_disk`. -/
def createMemoryDisk (w : Answers) (request : CreateMemoryDiskRequest) : ClientM Unit := do
  let diskName := trim request.diskName
  failWhen diskName.isEmpty emptyDiskNameError
  failWhen (request.capacityMib = 0) invalidCapacityError
  let capacityBytes ← liftExcept (capacityOfMib request.capacityMib)
  let memoryKind := resolveMemoryKind request.requestedMemoryKind capacityBytes
  liftExcept (w.createMemory memoryKind capacityBytes)
  let localDiskId ← allocateLocalDiskId
  modifyStore (·.insertRuntime (.newMemory localDiskId diskName request.autoMount false memoryKind
    capacityBytes (.memory memoryKind capacityBytes)))
  saveOrRemove w localDiskId

/-- The path of a file disk whose normalized path is `candidate`. -/
def duplicatePath (paths : PathApi) (candidate : String) (runtime : DiskRuntime) : Option String :=
  match runtime.filePath? with
  | none => none
  | some existing => if paths.normalized? existing = some candidate then some existing else none

/-- `ensure_unique_file_path`. -/
def ensureUniqueFilePath (paths : PathApi) (store : DiskRuntimeStore) (filePath : String) :
    Except ApiError Unit := do
  let candidate ← paths.normalizeFullFilePath filePath
  match store.runtimes.findSome? (duplicatePath paths candidate) with
  | some existing => throw ⟨"file-disk-duplicate", duplicateFileReason, some existing⟩
  | none => return ()

/-- The runtime of a file, as it is found. -/
def fileRuntime (w : Answers) (request : CreateFileDiskRequest) (diskName filePath : String)
    (localDiskId : String) : DiskRuntime :=
  match w.probe filePath with
  | .ok probe => .newFile localDiskId diskName request.autoMount request.configuredReadOnly
      filePath probe.capacityBytes probe.readOnly .unmounted none
  | .error _ => .newFile localDiskId diskName request.autoMount request.configuredReadOnly
      filePath 0 false (.invalid invalidFileReason) none

/-- `disk_service::create_file_disk`. -/
def createFileDiskRuntime (paths : PathApi) (w : Answers) (request : CreateFileDiskRequest) :
    ClientM String := do
  let diskName := trim request.diskName
  failWhen diskName.isEmpty emptyDiskNameError
  let filePath := trim request.filePath
  failWhen filePath.isEmpty emptyFilePathError
  let s ← get
  liftExcept (ensureUniqueFilePath paths s.store filePath)
  let localDiskId ← allocateLocalDiskId
  modifyStore (·.insertRuntime (fileRuntime w request diskName filePath localDiskId))
  return localDiskId

/-- `create_file_disk`. -/
def createFileDisk (paths : PathApi) (w : Answers) (request : CreateFileDiskRequest) :
    ClientM Unit := do
  let localDiskId ← createFileDiskRuntime paths w request
  saveOrRemove w localDiskId

/-- `create_new_file_disk`. -/
def createNewFileDisk (paths : PathApi) (w : Answers) (files : NewFileAnswers)
    (request : CreateNewFileDiskRequest) : ClientM Unit := do
  let diskName := trim request.diskName
  failWhen diskName.isEmpty emptyDiskNameError
  let filePath := trim request.filePath
  failWhen filePath.isEmpty emptyFilePathError
  let s ← get
  liftExcept (ensureUniqueFilePath paths s.store filePath)
  failWhen (request.capacityMib = 0) invalidCapacityError
  failWhen (request.fileFormat ≠ .raw) ⟨"unsupported-file-format", "当前阶段只支持 RAW", none⟩
  let _ ← liftExcept (capacityOfMib request.capacityMib)
  match files.parent with
  | none => throw ⟨"invalid-file-path", "文件路径必须包含父目录", some filePath⟩
  | some (parent, isDir) =>
    failWhen (!isDir) ⟨"invalid-file-path", "目标目录不存在", some parent⟩
    failWhen files.fileExists ⟨"file-already-exists", "目标文件已存在", some filePath⟩
    liftExcept files.creates
    let localDiskId ← createFileDiskRuntime paths w
      ⟨request.diskName, request.filePath, request.autoMount, false⟩
    saveOrRemove w localDiskId

/-! ## Mounting -/

/-- `build_disk_config`'s `read_only`. -/
def DiskRuntime.readOnly (r : DiskRuntime) : Bool := r.configuredReadOnly || r.sourceReadOnly

/-- The medium that `mount_local_disk` mounts: the one that is held, or the file. -/
def mountMedia (w : Answers) (r : DiskRuntime) : Except ApiError Media :=
  match r.media with
  | some media => return media
  | none =>
    match r.filePath? with
    | none => throw ⟨"held-media-not-found", "宿主未持有当前磁盘介质实例", some r.localDiskId⟩
    | some filePath => do
      w.openRawFile filePath r.readOnly
      return .rawFile filePath r.readOnly

/-- `mount_local_disk`. -/
def mountLocalDisk (w : Answers) (localDiskId : String) : ClientM Nat := do
  let s ← get
  match s.store.findRuntime localDiskId with
  | none => throw (diskNotFoundError localDiskId)
  | some runtime =>
    match runtime.mountedTargetId with
    | some targetId =>
      throw ⟨"disk-already-mounted", "磁盘已经处于挂载状态", some (toString targetId)⟩
    | none =>
    failWhen runtime.invalidReason.isSome ⟨"disk-invalid", "磁盘当前无效，不能挂载", some invalidFileReason⟩
    let media ← liftExcept (mountMedia w runtime)
    modifyStore (·.updateRuntime localDiskId fun r => { r with media := none })
    match ← tryCreateManagedDisk w media with
    | .ok targetId =>
      modifyStore (·.updateRuntime localDiskId (·.setMounted targetId))
      return targetId
    | .error text =>
      modifyStore (·.updateRuntime localDiskId fun r => { r with media := some media })
      throw ⟨"mount-disk-failed", "挂载磁盘失败", some text⟩

/-- What becomes of the runtime of a local disk whose medium has been taken back. -/
def afterRemoval (w : Answers) (r : DiskRuntime) (media : Media) : DiskRuntime :=
  if r.isMemory then
    { r with media := some media, state := .unmounted }
  else
    let r := { r with media := none }
    match r.filePath? with
    | none => r
    | some filePath =>
      match w.probe filePath with
      | .ok probe => r.setFileUnmounted probe.capacityBytes probe.readOnly
      | .error _ => r.setFileInvalid invalidFileReason

/-- `eject_local_disk`. -/
def ejectLocalDisk (w : Answers) (localDiskId : String) : ClientM Unit := do
  let s ← get
  match s.store.findRuntime localDiskId with
  | none => throw (diskNotFoundError localDiskId)
  | some runtime =>
    match runtime.mountedTargetId with
    | none => throw ⟨"disk-not-mounted", "磁盘当前未挂载，不能拔出", some localDiskId⟩
    | some targetId =>
      match ← removeManagedDiskWithMedia w localDiskId targetId with
      | .error text => throw ⟨"eject-disk-failed", "拔出磁盘失败", some text⟩
      | .ok media => modifyStore (·.updateRuntime localDiskId (afterRemoval w · media))

/-- `prepare_deleted_local_runtime`. -/
def prepareDeletedLocalRuntime (w : Answers) (runtime : DiskRuntime) : ClientM DiskRuntime := do
  match runtime.mountedTargetId with
  | none => return runtime
  | some targetId =>
    match ← removeManagedDiskWithMedia w runtime.localDiskId targetId with
    | .error text => throw ⟨"delete-disk-failed", "删除磁盘失败", some text⟩
    | .ok media => return afterRemoval w runtime media

structure UpdateDiskRequest where
  localDiskId : String
  diskName : String
  autoMount : Bool
  configuredReadOnly : Bool
deriving DecidableEq, Repr

/-- `update_disk`. -/
def updateDisk (w : Answers) (request : UpdateDiskRequest) : ClientM Unit := do
  let diskName := trim request.diskName
  failWhen diskName.isEmpty emptyDiskNameError
  let s ← get
  match s.store.findRuntime request.localDiskId with
  | none => throw (diskNotFoundError request.localDiskId)
  | some runtime =>
    failWhen (runtime.sourceReadOnly && request.configuredReadOnly != runtime.configuredReadOnly)
      ⟨"disk-read-only-locked", "源介质当前为只读，不能修改只读选项", some request.localDiskId⟩
    modifyStore (·.updateRuntime request.localDiskId
      (·.setUserConfig diskName request.autoMount request.configuredReadOnly))
    match ← saveClientState w with
    | .ok () => pure ()
    | .error error =>
      modifyStore (·.updateRuntime request.localDiskId
        (·.setUserConfig runtime.diskName runtime.autoMount runtime.configuredReadOnly))
      throw error

/-! ## The rescan of the files -/

/-- `collect_duplicate_file_runtime_ids`, after the paths in `seen`. -/
def collectDuplicateFileRuntimeIds (paths : PathApi) (seen : List String) :
    List DiskRuntime → List String
  | [] => []
  | runtime :: rest =>
    match runtime.filePath?.bind paths.normalized? with
    | none => collectDuplicateFileRuntimeIds paths seen rest
    | some path =>
      if path ∈ seen then
        runtime.localDiskId :: collectDuplicateFileRuntimeIds paths seen rest
      else
        collectDuplicateFileRuntimeIds paths (path :: seen) rest

/-- `rescan_local_runtime_disks`, one runtime. -/
def rescanLocalRuntime (w : Answers) (duplicateRuntimeIds : List String) (r : DiskRuntime)
    (backend : Backend) : DiskRuntime × Backend :=
  if r.isMemory || r.isNetwork then
    (r, backend)
  else if r.localDiskId ∈ duplicateRuntimeIds then
    let backend :=
      match r.mountedTargetId with
      | some targetId => (backend.remove targetId (w.removes r.localDiskId)).2
      | none => backend
    (r.setFileInvalid duplicateFileReason, backend)
  else
    match r.filePath? with
    | none => (r, backend)
    | some filePath =>
      match r.mountedTargetId, w.probe filePath with
      | some _, .ok _ => (r, backend)
      | some targetId, .error _ =>
        (r.setFileInvalid invalidFileReason,
          (backend.remove targetId (w.removes r.localDiskId)).2)
      | none, .ok probe => (r.setFileUnmounted probe.capacityBytes probe.readOnly, backend)
      | none, .error _ => (r.setFileInvalid invalidFileReason, backend)

/-- `disk_service::rescan_local_runtime_disks`. -/
def rescanLocalRuntimeDisks (paths : PathApi) (w : Answers) : ClientM Unit := do
  let s ← get
  let duplicateRuntimeIds := collectDuplicateFileRuntimeIds paths [] s.store.runtimes
  forRuntimes (rescanLocalRuntime w duplicateRuntimeIds)

/-! ## The configuration file -/

/-- A file disk that the configuration restores as invalid. -/
def restoreInvalidFile (disk : PersistedDiskRecord) (filePath reason : String) : DiskRuntime :=
  .newFile disk.localDiskId disk.diskName disk.autoMount disk.configuredReadOnly filePath 0 false
    (.invalid reason) none

/-- `restore_disk_runtime`; the second component is `restored_file_paths`. -/
def restoreDiskRuntime (paths : PathApi) (w : Answers) (disk : PersistedDiskRecord)
    (restoredFilePaths : List String) : Except ApiError (DiskRuntime × List String) :=
  match disk.media with
  | .memory memoryKind capacityBytes => do
    w.createMemory memoryKind capacityBytes
    return (.newMemory disk.localDiskId disk.diskName disk.autoMount disk.configuredReadOnly
      memoryKind capacityBytes (.memory memoryKind capacityBytes), restoredFilePaths)
  | .file filePath =>
    match paths.normalizeFullFilePath filePath with
    | .error error => return (restoreInvalidFile disk filePath error.message, restoredFilePaths)
    | .ok normalized =>
      if normalized ∈ restoredFilePaths then
        return (restoreInvalidFile disk filePath duplicateFileReason, restoredFilePaths)
      else
        match w.probe filePath with
        | .ok probe =>
          return (.newFile disk.localDiskId disk.diskName disk.autoMount disk.configuredReadOnly
            filePath probe.capacityBytes probe.readOnly .unmounted none,
            normalized :: restoredFilePaths)
        | .error error =>
          return (restoreInvalidFile disk filePath
            (if error.code = "invalid-file-path" then invalidFileReason else error.message),
            normalized :: restoredFilePaths)
  | .network serverAddr remoteDiskId authMaterial capacityBytes sourceReadOnly =>
    return (.newNetwork disk.localDiskId disk.diskName disk.autoMount serverAddr remoteDiskId
      authMaterial capacityBytes disk.configuredReadOnly sourceReadOnly, restoredFilePaths)

/-- The loop of `build_restored_runtime_store`. -/
def restoreDisks (paths : PathApi) (w : Answers) (store : DiskRuntimeStore)
    (localDiskIds restoredFilePaths : List String) :
    List PersistedDiskRecord → Except ApiError DiskRuntimeStore
  | [] => return store
  | disk :: disks =>
    if disk.localDiskId ∈ localDiskIds then
      throw ⟨"client-config-duplicate-disk-id", "配置文件中存在重复磁盘标识", some disk.localDiskId⟩
    else do
      let (runtime, restoredFilePaths) ← restoreDiskRuntime paths w disk restoredFilePaths
      restoreDisks paths w (store.insertRuntime runtime) (disk.localDiskId :: localDiskIds)
        restoredFilePaths disks

def buildRestoredRuntimeStore (paths : PathApi) (w : Answers) (disks : List PersistedDiskRecord) :
    Except ApiError DiskRuntimeStore :=
  restoreDisks paths w {} [] [] disks

/-- `restore_client_state`, with what `load_client_config` returns. -/
def restoreClientState (paths : PathApi) (w : Answers)
    (config : Except ApiError (List PersistedDiskRecord)) : ClientM Unit := do
  modify fun s => { s with backend := {}, config := config.toOption }
  let disks ← liftExcept config
  let store ← liftExcept (buildRestoredRuntimeStore paths w disks)
  modify fun s => { s with catalog := .replaceRuntimeStore store }

end YumeDisk.TauriClient
