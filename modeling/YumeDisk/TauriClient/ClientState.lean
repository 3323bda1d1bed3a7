import YumeDisk.Lib.Exec
import YumeDisk.TauriClient.DiskRuntime

/-!
# The state of the client (`state/client_state.rs`, `state/network_client`)

`catalog` is under the catalog mutex, `network` under the mutex of the network client; `backend`
holds the managed disks and the removals that the application has not polled yet, and `sessions`
what the connections know of the sessions that are open on them.  `closes` is the history of the
sessions the client has closed.

* `ClientM`: a flow of the client; what it has written stays written when it fails.
* `Answers`: what the driver, the file system and the configuration file answer during a section.
* `closeSession`, `removeManagedDiskWithMedia`: the two effects that the flows order.
-/

namespace YumeDisk.TauriClient

/-! ## The backend -/

structure Backend where
  /-- The media of the managed disks, by target. -/
  disks : List (Nat × Media) := []
  /-- The targets of the `DiskRemoved` responses that have not been polled. -/
  responses : List Nat := []
deriving DecidableEq, Repr

namespace Backend

variable (backend : Backend)

def find? (targetId : Nat) : Option Media := (backend.disks.find? (·.1 = targetId)).map (·.2)

def erase (targetId : Nat) : Backend :=
  { backend with disks := backend.disks.filter (·.1 ≠ targetId) }

def insert (targetId : Nat) (media : Media) : Backend :=
  { backend.erase targetId with disks := (backend.erase targetId).disks ++ [(targetId, media)] }

/-- `remove_managed_disk_with_media`; AppKernel reports the removal whether the driver accepts it or
not. -/
def remove (targetId : Nat) (driver : Except String Unit) : Except String Media × Backend :=
  match backend.find? targetId with
  | none => (.error "target-not-found", backend)
  | some media =>
    let backend := { backend with responses := backend.responses ++ [targetId] }
    match driver with
    | .error text => (.error text, backend)
    | .ok () => (.ok media, backend.erase targetId)

/-- The targets whose media are bound to the session. -/
def targetsOf (session : DiskSession) : List Nat :=
  (backend.disks.filter fun disk => disk.2.session? = some session).map (·.1)

end Backend

/-! ## Sessions -/

structure Sessions where
  nextHandle : Nat := 0
  /-- The `(connection, session id)` that are active on a live connection. -/
  active : List (Nat × Nat) := []
  /-- The handles in `STATE_CLOSED`. -/
  ended : List Nat := []
deriving DecidableEq, Repr

namespace Sessions

variable (sessions : Sessions)

def usable (s : DiskSession) : Bool :=
  s.handle ∉ sessions.ended && (s.connection, s.sessionId) ∈ sessions.active

/-- `ensure_usable`: a session that is found not to be active is terminal from then on. -/
def ensureUsable (s : DiskSession) : Bool × Sessions :=
  if sessions.usable s then
    (true, sessions)
  else
    (false, { sessions with ended := s.handle :: sessions.ended })

/-- `SessionOpener::open`, then `DiskSession::new`. -/
def openOn (connection : Nat) (serverAddr : String) (sessionId : Nat) : DiskSession × Sessions :=
  (⟨sessions.nextHandle, connection, serverAddr, sessionId⟩,
    { sessions with
      nextHandle := sessions.nextHandle + 1
      active := (connection, sessionId) :: sessions.active })

/-- `DiskSession::mark_closed`. -/
def markClosed (s : DiskSession) : Sessions :=
  { sessions with
    ended := s.handle :: sessions.ended
    active := sessions.active.filter (· ≠ (s.connection, s.sessionId)) }

end Sessions

/-- A session that `DiskSession::close` closed. -/
structure SessionClose where
  session : DiskSession
  /-- `ensure_usable` held of it. -/
  usable : Bool
  /-- The managed disks whose media were bound to it. -/
  targets : List Nat
deriving DecidableEq, Repr

/-! ## The network client -/

structure OpenedNetworkDiskSession where
  key : NetworkDiskKey
  session : DiskSession
  metadata : SessionMetadata
deriving DecidableEq, Repr

structure NetworkDraftItem where
  key : NetworkDiskKey
  diskName : String
  authMaterial : String
  session : DiskSession
  metadata : SessionMetadata
deriving DecidableEq, Repr

structure NetworkCreateDraft where
  draftId : String
  serverAddr : String
  connection : Nat
  /-- In the order of their `remoteDiskId`s, which are unique. -/
  items : List NetworkDraftItem := []
deriving DecidableEq, Repr

namespace NetworkCreateDraft

variable (draft : NetworkCreateDraft)

/-- `BTreeMap::insert`. -/
def insertSorted (item : NetworkDraftItem) : List NetworkDraftItem → List NetworkDraftItem
  | [] => [item]
  | x :: xs =>
    match compare item.key.remoteDiskId x.key.remoteDiskId with
    | .lt => item :: x :: xs
    | .eq => item :: xs
    | .gt => x :: insertSorted item xs

def insertItem (item : NetworkDraftItem) : NetworkCreateDraft :=
  { draft with items := insertSorted item draft.items }

def removeItem (remoteDiskId : String) : Option (NetworkDraftItem × NetworkCreateDraft) :=
  match draft.items.find? (·.key.remoteDiskId = remoteDiskId) with
  | none => none
  | some item =>
    some (item, { draft with items := draft.items.filter (·.key.remoteDiskId ≠ remoteDiskId) })

end NetworkCreateDraft

inductive NetworkClientEvent where
  | sessionClosed (serverAddr : String) (sessionId : Nat)
  | sessionDataChanged (serverAddr : String) (sessionId : Nat)
  | connectionLost (serverAddr : String)
deriving DecidableEq, Repr

structure NetworkClientState where
  openedSessions : List OpenedNetworkDiskSession := []
  drafts : List NetworkCreateDraft := []
  nextDraftNumber : Nat := 1
  pendingEvents : List NetworkClientEvent := []
  pendingMediaInvalidations : List String := []
deriving DecidableEq, Repr

namespace NetworkClientState

variable (network : NetworkClientState)

def openedSession (key : NetworkDiskKey) : Option OpenedNetworkDiskSession :=
  network.openedSessions.find? (·.key = key)

def removeOpenedSession (key : NetworkDiskKey) : NetworkClientState :=
  { network with openedSessions := network.openedSessions.filter (·.key ≠ key) }

def insertOpenedSession (opened : OpenedNetworkDiskSession) : NetworkClientState :=
  { network.removeOpenedSession opened.key with
    openedSessions := (network.removeOpenedSession opened.key).openedSessions ++ [opened] }

def findOpenedSessionBySessionId (serverAddr : String) (sessionId : Nat) :
    Option NetworkDiskKey :=
  (network.openedSessions.find? fun opened =>
    opened.key.serverAddr = serverAddr ∧ opened.session.sessionId = sessionId).map (·.key)

def openedSessionKeysForServer (serverAddr : String) : List NetworkDiskKey :=
  (network.openedSessions.map (·.key)).filter (·.serverAddr = serverAddr)

def draft (draftId : String) : Option NetworkCreateDraft :=
  network.drafts.find? (·.draftId = draftId)

def draftsForServer (serverAddr : String) : List NetworkCreateDraft :=
  network.drafts.filter (·.serverAddr = serverAddr)

def insertDraft (draft : NetworkCreateDraft) : NetworkClientState :=
  { network with
    drafts := network.drafts.filter (·.draftId ≠ draft.draftId) ++ [draft] }

def removeDraft (draftId : String) : NetworkClientState :=
  { network with drafts := network.drafts.filter (·.draftId ≠ draftId) }

/-- `draft_mut`, with `draft` what it has become. -/
def setDraft (draft : NetworkCreateDraft) : NetworkClientState :=
  { network with
    drafts := network.drafts.map fun d => if d.draftId = draft.draftId then draft else d }

end NetworkClientState

/-! ## Rescans and the holder of the catalog -/

structure NetworkRescanTask where
  localDiskId : String
  serverAddr : String
  remoteDiskId : String
  authMaterial : String
  wasMounted : Bool
deriving DecidableEq, Repr

def NetworkRescanTask.key (task : NetworkRescanTask) : NetworkDiskKey :=
  ⟨task.serverAddr, task.remoteDiskId⟩

structure NetworkRescanServerPlan where
  serverAddr : String
  tasks : List NetworkRescanTask
deriving DecidableEq, Repr

inductive CandidateSource where
  | existing
  | fresh
deriving DecidableEq, Repr

structure PendingSessionCleanup where
  openedSession : OpenedNetworkDiskSession
  removeFromState : Bool
deriving DecidableEq, Repr

structure NetworkRescanCandidate where
  task : NetworkRescanTask
  openedSession : OpenedNetworkDiskSession
  source : CandidateSource
  staleOpenedSession : Option OpenedNetworkDiskSession
deriving DecidableEq, Repr

structure NetworkRescanFailure where
  task : NetworkRescanTask
  reason : String
  staleOpenedSession : Option OpenedNetworkDiskSession
deriving DecidableEq, Repr

inductive NetworkRescanObservation where
  | candidate (candidate : NetworkRescanCandidate)
  | failure (failure : NetworkRescanFailure)
deriving DecidableEq, Repr

inductive NetworkRescanCommitResult where
  | refreshMounted (metadata : SessionMetadata)
  | setUnmounted (metadata : SessionMetadata) (sessionToInsert : Option OpenedNetworkDiskSession)
  | invalid (reason : String)
deriving DecidableEq, Repr

structure NetworkResolvedAction where
  task : NetworkRescanTask
  result : NetworkRescanCommitResult
  sessionsToCleanup : List PendingSessionCleanup
deriving DecidableEq, Repr

/-- A rescan on its way: the server it is at, and those that come after. -/
structure Rescan where
  serverAddr : String
  /-- The tasks it has not observed. -/
  tasks : List NetworkRescanTask
  observations : List NetworkRescanObservation := []
  plans : List NetworkRescanServerPlan
deriving DecidableEq, Repr

/-- Where `add_network_draft_item` is. -/
inductive AddStage where
  | authenticate
  | openSession (key : NetworkDiskKey)
  | describe (key : NetworkDiskKey) (session : DiskSession)
  | insert (key : NetworkDiskKey) (session : DiskSession) (metadata : SessionMetadata)
deriving DecidableEq, Repr

/-- Who holds the catalog between two steps. -/
inductive Holder where
  | free
  | adding (draftId diskName claimCode serverAddr : String) (connection : Nat) (stage : AddStage)
  /-- `submit_network_draft`, with its clone of the draft, before `remove_draft`. -/
  | submitting (draft : NetworkCreateDraft)
  /-- The rescan that ends `submit_network_draft`. -/
  | rescanning (rescan : Rescan)
  /-- `commit_server_actions` between its two sections; `background` is the rescan thread. -/
  | committing (background : Bool) (sessionsToInsert : List OpenedNetworkDiskSession)
      (actions : List NetworkResolvedAction) (plans : List NetworkRescanServerPlan)
deriving DecidableEq, Repr

/-! ## The state -/

structure ClientState where
  catalog : DiskCatalogState := {}
  network : NetworkClientState := {}
  backend : Backend := {}
  sessions : Sessions := {}
  holder : Holder := .free
  /-- The rescan thread. -/
  rescan : Option Rescan := none
  closes : List SessionClose := []
  /-- The disks that `load_client_config` reads, if it can read the file. -/
  config : Option (List PersistedDiskRecord) := some []
deriving DecidableEq, Repr

abbrev ClientM := EStateM ApiError ClientState

structure RawFileProbe where
  capacityBytes : Nat
  readOnly : Bool
deriving DecidableEq, Repr

/-- What the client is answered during one section. -/
structure Answers where
  /-- `AkRemoveDisk`, for the runtime whose disk is removed. -/
  removes : String → Except String Unit := fun _ => .ok ()
  /-- `try_create_managed_disk`. -/
  creates : Except String Nat := .error ""
  probe : String → Except ApiError RawFileProbe := fun _ => .error ⟨"invalid-file-path", "", none⟩
  openRawFile : String → Bool → Except ApiError Unit := fun _ _ => .ok ()
  /-- `create_memory_media`. -/
  createMemory : MemoryMediaKind → Nat → Except ApiError Unit := fun _ _ => .ok ()
  /-- The temporary directory and the cache of a writable network disk. -/
  cache : Except String Unit := .ok ()
  /-- `save_client_config`. -/
  saves : Except ApiError Unit := .ok ()
  /-- When it fails, it has begun to write: the file ends too early to be read. -/
  tears : Bool := false

namespace ClientState

variable (s : ClientState)

def store : DiskRuntimeStore := s.catalog.runtimeStore

def setStore (store : DiskRuntimeStore) : ClientState :=
  { s with catalog := { s.catalog with runtimeStore := store } }

/-- `DiskSession::close`. -/
def closeSession (session : DiskSession) : ClientState :=
  if session.handle ∈ s.sessions.ended then
    s
  else
    { s with
      sessions := s.sessions.markClosed session
      closes := s.closes ++
        [⟨session, s.sessions.usable session, s.backend.targetsOf session⟩] }

def closeSessions (sessions : List DiskSession) : ClientState := sessions.foldl closeSession s

end ClientState

/-! ## Sections -/

def liftExcept {α : Type} : Except ApiError α → ClientM α
  | .ok a => pure a
  | .error e => throw e

/-- `if p { return Err(e); }`. -/
def failWhen (p : Prop) [Decidable p] (e : ApiError) : ClientM Unit :=
  if p then throw e else pure ()

/-- `if let Some(a) = o`. -/
def whenSome {α : Type} (o : Option α) (f : α → ClientM Unit) : ClientM Unit :=
  match o with
  | some a => f a
  | none => pure ()

def modifyStore (f : DiskRuntimeStore → DiskRuntimeStore) : ClientM Unit :=
  modify fun s => s.setStore (f s.store)

def modifyNetwork (f : NetworkClientState → NetworkClientState) : ClientM Unit :=
  modify fun s => { s with network := f s.network }

/-- `close_session_for_cleanup`. -/
def closeSessionForCleanup (session : DiskSession) : ClientM Unit :=
  modify (·.closeSession session)

def ensureUsable (session : DiskSession) : ClientM Bool := do
  let s ← get
  let (usable, sessions) := s.sessions.ensureUsable session
  set { s with sessions := sessions }
  return usable

def removeManagedDiskWithMedia (w : Answers) (localDiskId : String) (targetId : Nat) :
    ClientM (Except String Media) := do
  let s ← get
  let (media, backend) := s.backend.remove targetId (w.removes localDiskId)
  set { s with backend := backend }
  return media

def tryCreateManagedDisk (w : Answers) (media : Media) : ClientM (Except String Nat) := do
  match w.creates with
  | .error text => return .error text
  | .ok targetId =>
    modify fun s => { s with backend := s.backend.insert targetId media }
    return .ok targetId

/-- The loop over `runtimes_mut()`. -/
def visitRuntimes (f : DiskRuntime → Backend → DiskRuntime × Backend) :
    List DiskRuntime → Backend → List DiskRuntime × Backend
  | [], backend => ([], backend)
  | r :: rs, backend =>
    let (r', backend) := f r backend
    let (rs', backend) := visitRuntimes f rs backend
    (r' :: rs', backend)

def forRuntimes (f : DiskRuntime → Backend → DiskRuntime × Backend) : ClientM Unit :=
  modify fun s =>
    let (runtimes, backend) := visitRuntimes f s.store.runtimes s.backend
    { s.setStore { s.store with runtimes := runtimes } with backend := backend }

/-- What is done to the first runtime that `p` holds of, as `find_runtime_mut` gives it. -/
def visitFirst (p : DiskRuntime → Bool) (f : DiskRuntime → Backend → DiskRuntime × Backend) :
    List DiskRuntime → Backend → List DiskRuntime × Backend
  | [], backend => ([], backend)
  | r :: rs, backend =>
    if p r then
      let (r', backend) := f r backend
      (r' :: rs, backend)
    else
      let (rs', backend) := visitFirst p f rs backend
      (r :: rs', backend)

def forRuntime (localDiskId : String) (f : DiskRuntime → Backend → DiskRuntime × Backend) :
    ClientM Unit :=
  modify fun s =>
    let (runtimes, backend) := visitFirst (·.localDiskId = localDiskId) f s.store.runtimes s.backend
    { s.setStore { s.store with runtimes := runtimes } with backend := backend }

/-- `save_client_config`: the file is written in place. -/
def ClientState.saveConfig (s : ClientState) (w : Answers) : ClientState :=
  { s with
    config :=
      match w.saves with
      | .ok () => some (s.store.runtimes.map mapPersistedDiskRecord)
      | .error _ => if w.tears then none else s.config }

/-- `save_client_state`. -/
def saveClientState (w : Answers) : ClientM (Except ApiError Unit) := do
  modify (·.saveConfig w)
  return w.saves

theorem run_saveClientState (w : Answers) (s : ClientState) :
    saveClientState w s = .ok w.saves (s.saveConfig w) := rfl

def diskNotFoundError (localDiskId : String) : ApiError :=
  ⟨"disk-not-found", "磁盘不存在", some localDiskId⟩

end YumeDisk.TauriClient
