import Mathlib.Data.List.Basic

/-!
# The disks of the client (`state/disk_runtime.rs`, `state/disk_catalog.rs`)

A `DiskRuntime` is one row of the list of disks: its medium, its configuration and whether it is
mounted.  The store keeps them in the order of the list; a deleted one waits in
`pendingDeletions` until its deletion is undone or committed.

`normalizeFullFilePath` (`backend/persistence_service.rs`) works on the paths of the platform,
which `PathApi` stands for.
-/

namespace YumeDisk.TauriClient

structure ApiError where
  code : String
  message : String
  detail : Option String := none
deriving DecidableEq, Repr

/-! ## Texts -/

/-- `char::is_whitespace`. -/
def isWhitespace (c : Char) : Bool :=
  let n := c.toNat
  (9 ≤ n && n ≤ 13) || n == 32 || n == 0x85 || n == 0xA0 || n == 0x1680 ||
    (0x2000 ≤ n && n ≤ 0x200A) || n == 0x2028 || n == 0x2029 || n == 0x202F || n == 0x205F ||
    n == 0x3000

/-- `str::trim`. -/
@[irreducible] def trim (s : String) : String :=
  String.ofList ((s.toList.dropWhile isWhitespace).reverse.dropWhile isWhitespace).reverse

@[irreducible] def u64Max : Nat := 18446744073709551615

def stripPlus : List Char → List Char
  | '+' :: rest => rest
  | cs => cs

/-- `str::parse::<u64>`. -/
def parseU64 (cs : List Char) : Option Nat :=
  let digits := stripPlus cs
  let value := Nat.ofDigitChars 10 digits 0
  if digits ≠ [] ∧ digits.all Char.isDigit ∧ value ≤ u64Max then some value else none

/-- The number of `disk-N`. -/
def parseLocalDiskIdNumber (localDiskId : String) : Option Nat :=
  match localDiskId.toList with
  | 'd' :: 'i' :: 's' :: 'k' :: '-' :: digits => parseU64 digits
  | _ => none

/-- `compare_local_disk_id`. -/
def compareLocalDiskId (left right : String) : Ordering :=
  match parseLocalDiskIdNumber left, parseLocalDiskIdNumber right with
  | some l, some r => (compare l r).then (compare left right)
  | _, _ => compare left right

/-! ## Paths -/

inductive Component where
  | volume (text : String)
  | rootDir (text : String)
  | curDir
  | parentDir
  | normal (segment : String)
deriving DecidableEq, Repr

/-- `std::path` and the working directory. -/
structure PathApi where
  Path : Type
  ofText : String → Path
  isAbsolute : Path → Bool
  currentDir : Except String Path
  join : Path → Path → Path
  components : Path → List Component
  empty : Path
  push : Path → String → Path
  pop : Path → Path
  display : Path → String
  /-- `cfg!(windows)`. -/
  windows : Bool

namespace PathApi

variable (paths : PathApi)

def normalizePathComponents (path : paths.Path) : paths.Path :=
  (paths.components path).foldl
    (fun normalized component =>
      match component with
      | .volume text => paths.push normalized text
      | .rootDir text => paths.push normalized text
      | .curDir => normalized
      | .parentDir => paths.pop normalized
      | .normal segment => paths.push normalized segment)
    paths.empty

/-- `to_ascii_lowercase`. -/
def toAsciiLowercase (s : String) : String := String.ofList (s.toList.map Char.toLower)

def normalizeFullFilePath (filePath : String) : Except ApiError String := do
  let trimmed := trim filePath
  if trimmed.isEmpty then
    throw ⟨"invalid-file-path", "文件路径不能为空", none⟩
  let rawPath := paths.ofText trimmed
  let absolutePath ←
    if paths.isAbsolute rawPath then
      pure rawPath
    else
      match paths.currentDir with
      | .error ioError => throw ⟨"invalid-file-path", "无法解析文件路径", some ioError⟩
      | .ok dir => pure (paths.join dir rawPath)
  let normalizedText := paths.display (paths.normalizePathComponents absolutePath)
  if paths.windows then
    return toAsciiLowercase normalizedText
  else
    return normalizedText

/-- `normalize_full_file_path(..).ok()`. -/
def normalized? (filePath : String) : Option String :=
  (paths.normalizeFullFilePath filePath).toOption

end PathApi

/-! ## Sessions and media -/

/-- A `DiskSession`: its clones share a lifecycle, which is what `handle` names. -/
structure DiskSession where
  handle : Nat
  /-- The `GatewayConnection` it is on. -/
  connection : Nat
  serverAddr : String
  sessionId : Nat
deriving DecidableEq, Repr

structure SessionMetadata where
  diskSizeBytes : Nat
  readOnly : Bool
  backendId : List UInt8
deriving DecidableEq, Repr

structure NetworkDiskKey where
  serverAddr : String
  remoteDiskId : String
deriving DecidableEq, Repr

inductive MemoryMediaKind where
  | denseMem
  | sparseMem
deriving DecidableEq, Repr

/-- The `Box<dyn Media>` of a disk. -/
inductive Media where
  | memory (kind : MemoryMediaKind) (capacityBytes : Nat)
  | rawFile (filePath : String) (readOnly : Bool)
  /-- `NetworkMedia`. -/
  | network (remoteDiskId : String) (session : DiskSession) (readOnly : Bool)
deriving DecidableEq, Repr

/-- The session that a medium is bound to. -/
def Media.session? : Media → Option DiskSession
  | .network _ session _ => some session
  | _ => none

/-! ## Runtimes -/

inductive DiskRuntimeStatus where
  | unmounted
  | mounted (targetId : Nat)
  | invalid (reason : String)
deriving DecidableEq, Repr

inductive DiskMediaConfig where
  | memory (memoryKind : MemoryMediaKind) (capacityBytes : Nat)
  | file (filePath : String) (capacityBytes : Nat)
  | network (serverAddr remoteDiskId authMaterial : String) (capacityBytes : Nat)
deriving DecidableEq, Repr

structure DiskRuntime where
  localDiskId : String
  diskName : String
  autoMount : Bool
  configuredReadOnly : Bool
  sourceReadOnly : Bool
  state : DiskRuntimeStatus
  mediaConfig : DiskMediaConfig
  media : Option Media
deriving DecidableEq, Repr

def invalidFileReason : String := "文件路径必须指向已存在文件"

def duplicateFileReason : String := "文件路径重复"

def memoryMediaLostReason : String := "内存盘介质已丢失"

def networkSessionMissingReason : String := "网络盘会话未打开"

namespace DiskRuntime

def newMemory (localDiskId diskName : String) (autoMount configuredReadOnly : Bool)
    (memoryKind : MemoryMediaKind) (capacityBytes : Nat) (media : Media) : DiskRuntime where
  localDiskId := localDiskId
  diskName := diskName
  autoMount := autoMount
  configuredReadOnly := configuredReadOnly
  sourceReadOnly := false
  state := .unmounted
  mediaConfig := .memory memoryKind capacityBytes
  media := some media

def newFile (localDiskId diskName : String) (autoMount configuredReadOnly : Bool)
    (filePath : String) (capacityBytes : Nat) (sourceReadOnly : Bool) (status : DiskRuntimeStatus)
    (media : Option Media) : DiskRuntime where
  localDiskId := localDiskId
  diskName := diskName
  autoMount := autoMount
  configuredReadOnly := configuredReadOnly
  sourceReadOnly := sourceReadOnly
  state := status
  mediaConfig := .file filePath capacityBytes
  media := media

def newNetwork (localDiskId diskName : String) (autoMount : Bool)
    (serverAddr remoteDiskId authMaterial : String) (capacityBytes : Nat)
    (configuredReadOnly sourceReadOnly : Bool) : DiskRuntime where
  localDiskId := localDiskId
  diskName := diskName
  autoMount := autoMount
  configuredReadOnly := configuredReadOnly
  sourceReadOnly := sourceReadOnly
  state := .invalid networkSessionMissingReason
  mediaConfig := .network serverAddr remoteDiskId authMaterial capacityBytes
  media := none

variable (r : DiskRuntime)

def capacityBytes : Nat :=
  match r.mediaConfig with
  | .memory _ capacity => capacity
  | .file _ capacity => capacity
  | .network _ _ _ capacity => capacity

def mountedTargetId : Option Nat :=
  match r.state with
  | .mounted targetId => some targetId
  | _ => none

def invalidReason : Option String :=
  match r.state with
  | .invalid reason => some reason
  | _ => none

def isMemory : Bool :=
  match r.mediaConfig with
  | .memory .. => true
  | _ => false

def isNetwork : Bool :=
  match r.mediaConfig with
  | .network .. => true
  | _ => false

def filePath? : Option String :=
  match r.mediaConfig with
  | .file path _ => some path
  | _ => none

def networkKey : Option NetworkDiskKey :=
  match r.mediaConfig with
  | .network serverAddr remoteDiskId _ _ => some ⟨serverAddr, remoteDiskId⟩
  | _ => none

def setMounted (targetId : Nat) : DiskRuntime := { r with state := .mounted targetId }

def setUnmounted : DiskRuntime := { r with state := .unmounted }

def setMemoryInvalid (reason : String) : DiskRuntime :=
  { r with state := .invalid reason, media := none }

/-- The capacity of a file disk. -/
def setFileCapacity (capacity : Nat) : DiskMediaConfig → DiskMediaConfig
  | .file path _ => .file path capacity
  | config => config

def setNetworkCapacity (capacity : Nat) : DiskMediaConfig → DiskMediaConfig
  | .network serverAddr remoteDiskId authMaterial _ =>
    .network serverAddr remoteDiskId authMaterial capacity
  | config => config

def setFileUnmounted (capacity : Nat) (sourceReadOnly : Bool) : DiskRuntime :=
  { r with
    mediaConfig := setFileCapacity capacity r.mediaConfig
    sourceReadOnly := sourceReadOnly
    state := .unmounted }

def setFileInvalid (reason : String) : DiskRuntime :=
  { r with
    mediaConfig := setFileCapacity 0 r.mediaConfig
    sourceReadOnly := false
    state := .invalid reason
    media := none }

def refreshNetworkMetadata (capacity : Nat) (sourceReadOnly : Bool) : DiskRuntime :=
  { r with
    mediaConfig := setNetworkCapacity capacity r.mediaConfig
    sourceReadOnly := sourceReadOnly }

def setNetworkUnmounted (capacity : Nat) (sourceReadOnly : Bool) : DiskRuntime :=
  { r.refreshNetworkMetadata capacity sourceReadOnly with state := .unmounted }

def setNetworkInvalid (reason : String) : DiskRuntime :=
  { r with state := .invalid reason, media := none }

def setUserConfig (diskName : String) (autoMount configuredReadOnly : Bool) : DiskRuntime :=
  { r with
    diskName := diskName
    autoMount := autoMount
    configuredReadOnly := configuredReadOnly }

/-- A runtime that may come to be mounted. -/
def Valid : Prop := r.invalidReason = none

instance : Decidable r.Valid := inferInstanceAs (Decidable (_ = _))

end DiskRuntime

/-! ## Records of the configuration file -/

inductive PersistedDiskMediaConfig where
  | memory (memoryKind : MemoryMediaKind) (capacityBytes : Nat)
  | file (filePath : String)
  | network (serverAddr remoteDiskId authMaterial : String) (capacityBytes : Nat)
      (sourceReadOnly : Bool)
deriving DecidableEq, Repr

structure PersistedDiskRecord where
  localDiskId : String
  diskName : String
  autoMount : Bool
  configuredReadOnly : Bool
  media : PersistedDiskMediaConfig
deriving DecidableEq, Repr

/-- `map_persisted_disk_record`. -/
def mapPersistedDiskRecord (r : DiskRuntime) : PersistedDiskRecord where
  localDiskId := r.localDiskId
  diskName := r.diskName
  autoMount := r.autoMount
  configuredReadOnly := r.configuredReadOnly
  media :=
    match r.mediaConfig with
    | .memory memoryKind capacityBytes => .memory memoryKind capacityBytes
    | .file filePath _ => .file filePath
    | .network serverAddr remoteDiskId authMaterial capacityBytes =>
      .network serverAddr remoteDiskId authMaterial capacityBytes r.sourceReadOnly

/-! ## The store and the catalog -/

structure RemovedDiskRuntime where
  index : Nat
  runtime : DiskRuntime
deriving DecidableEq, Repr

structure DiskRuntimeStore where
  nextDiskNumber : Nat := 1
  runtimes : List DiskRuntime := []
deriving DecidableEq, Repr

namespace DiskRuntimeStore

variable (store : DiskRuntimeStore)

def localDiskIdOf (number : Nat) : String := "disk-" ++ toString number

/-- `allocate_local_disk_id`. -/
def allocateLocalDiskId : String × DiskRuntimeStore :=
  (localDiskIdOf store.nextDiskNumber, { store with nextDiskNumber := store.nextDiskNumber + 1 })

/-- `bump_next_disk_number_from_local_disk_id`, unless the number is `u64::MAX`. -/
def bumpNextDiskNumber (localDiskId : String) : DiskRuntimeStore :=
  match parseLocalDiskIdNumber localDiskId with
  | none => store
  | some number =>
    if store.nextDiskNumber ≤ number then { store with nextDiskNumber := number + 1 } else store

def insertRuntime (runtime : DiskRuntime) : DiskRuntimeStore :=
  let store := store.bumpNextDiskNumber runtime.localDiskId
  { store with runtimes := store.runtimes ++ [runtime] }

def restoreRemovedRuntime (removed : RemovedDiskRuntime) : DiskRuntimeStore :=
  let store := store.bumpNextDiskNumber removed.runtime.localDiskId
  let index := min removed.index store.runtimes.length
  { store with runtimes := store.runtimes.insertIdx index removed.runtime }

def findRuntime (localDiskId : String) : Option DiskRuntime :=
  store.runtimes.find? (·.localDiskId = localDiskId)

/-- `find_runtime_mut`: the first runtime that `p` holds of, with `f` done to it. -/
def updateFirst (p : DiskRuntime → Bool) (f : DiskRuntime → DiskRuntime) :
    List DiskRuntime → List DiskRuntime
  | [] => []
  | r :: rs => if p r then f r :: rs else r :: updateFirst p f rs

def updateRuntime (localDiskId : String) (f : DiskRuntime → DiskRuntime) : DiskRuntimeStore :=
  { store with runtimes := updateFirst (·.localDiskId = localDiskId) f store.runtimes }

def removeRuntime (localDiskId : String) : Option (RemovedDiskRuntime × DiskRuntimeStore) :=
  let index := store.runtimes.findIdx (·.localDiskId = localDiskId)
  match store.runtimes[index]? with
  | none => none
  | some runtime => some (⟨index, runtime⟩, { store with runtimes := store.runtimes.eraseIdx index })

/-- `let _ = remove_runtime(..)`. -/
def dropRuntime (localDiskId : String) : DiskRuntimeStore :=
  match store.removeRuntime localDiskId with
  | none => store
  | some (_, store) => store

end DiskRuntimeStore

structure PendingDiskDeletion where
  deletionId : String
  removedRuntime : RemovedDiskRuntime
deriving DecidableEq, Repr

structure DiskCatalogState where
  runtimeStore : DiskRuntimeStore := {}
  pendingDeletions : List PendingDiskDeletion := []
  nextDeletionNumber : Nat := 1
deriving DecidableEq, Repr

namespace DiskCatalogState

variable (catalog : DiskCatalogState)

def replaceRuntimeStore (runtimeStore : DiskRuntimeStore) : DiskCatalogState where
  runtimeStore := runtimeStore
  pendingDeletions := []
  nextDeletionNumber := 1

def stagePendingDeletion (removedRuntime : RemovedDiskRuntime) : String × DiskCatalogState :=
  let deletionId := "deletion-" ++ toString catalog.nextDeletionNumber
  (deletionId, { catalog with
    nextDeletionNumber := catalog.nextDeletionNumber + 1
    pendingDeletions := catalog.pendingDeletions ++ [⟨deletionId, removedRuntime⟩] })

def takePendingDeletion (deletionId : String) : Option (PendingDiskDeletion × DiskCatalogState) :=
  let index := catalog.pendingDeletions.findIdx (·.deletionId = deletionId)
  match catalog.pendingDeletions[index]? with
  | none => none
  | some pending =>
    some (pending, { catalog with
      pendingDeletions := catalog.pendingDeletions.eraseIdx index })

def restorePendingDeletion (pending : PendingDiskDeletion) : DiskCatalogState :=
  { catalog with pendingDeletions := catalog.pendingDeletions ++ [pending] }

end DiskCatalogState

end YumeDisk.TauriClient
