import YumeDisk.Lib.Sort
import YumeDisk.TauriClient.LocalDisks

/-!
# Network disks (`network/cleanup.rs`, `network/event_reconciler.rs`, `network/runtime_flow`)

* `invalidateRuntimeByKey`: the medium is taken from the backend, then the session is closed.
* `prepareDeletedNetworkRuntime`: the same, for the runtime that is deleted.
* `commitSessions`, `commitRuntimes`: the two sections of `commit_server_actions`; the sessions are
  closed in the first, the media are taken from the backend in the second.
-/

namespace YumeDisk.TauriClient

def networkConnectionUnavailableReason : String := "网络盘连接不可用"

def networkAuthFailedReason : String := "网络盘认证失败"

def networkOpenFailedReason : String := "网络盘会话打开失败"

def networkMetadataFailedReason : String := "网络盘元数据获取失败"

def networkAuthMismatchReason : String := "认证材料与网络盘不匹配"

def networkBackendConflictReason : String := "网络盘后端冲突"

/-! ## Clean-up -/

/-- The runtime of a key whose session is gone; what the driver says is not looked at. -/
def invalidateRuntime (w : Answers) (key : NetworkDiskKey) (reason : String) (r : DiskRuntime)
    (backend : Backend) : DiskRuntime × Backend :=
  if r.networkKey = some key then
    let backend :=
      match r.mountedTargetId with
      | some targetId => (backend.remove targetId (w.removes r.localDiskId)).2
      | none => backend
    (r.setNetworkInvalid reason, backend)
  else
    (r, backend)

/-- `invalidate_runtime_by_key`. -/
def invalidateRuntimeByKey (w : Answers) (key : NetworkDiskKey) (reason : String) :
    ClientM Unit := do
  let s ← get
  let openedSession := s.network.openedSession key
  modifyNetwork (·.removeOpenedSession key)
  forRuntimes (invalidateRuntime w key reason)
  whenSome openedSession fun opened => closeSessionForCleanup opened.session

/-- `invalidate_runtime_by_local_disk_id`. -/
def invalidateRuntimeByLocalDiskId (w : Answers) (reason localDiskId : String) :
    ClientM Unit := do
  let s ← get
  whenSome ((s.store.findRuntime localDiskId).bind (·.networkKey)) fun key =>
    invalidateRuntimeByKey w key reason

/-- `detach_managed_disk_if_mounted`. -/
def detachManagedDiskIfMounted (w : Answers) (r : DiskRuntime) (backend : Backend) : Backend :=
  match r.mountedTargetId with
  | none => backend
  | some targetId => (backend.remove targetId (w.removes r.localDiskId)).2

/-- `remove_draft_sessions_by_session_id`: one item of each draft. -/
def removeDraftSessionsBySessionId (serverAddr : String) (sessionId : Nat) : ClientM Unit := do
  let s ← get
  let removed := (s.network.draftsForServer serverAddr).filterMap fun draft =>
    (draft.items.find? (·.session.sessionId = sessionId)).bind fun item =>
      draft.removeItem item.key.remoteDiskId
  modifyNetwork fun network => removed.foldl (fun network r => network.setDraft r.2) network
  modify (·.closeSessions (removed.map (·.1.session)))

/-- `remove_all_draft_sessions_for_server`. -/
def removeAllDraftSessionsForServer (serverAddr : String) : ClientM Unit := do
  let s ← get
  let drafts := s.network.draftsForServer serverAddr
  modifyNetwork fun network =>
    drafts.foldl (fun network draft => network.setDraft { draft with items := [] }) network
  modify (·.closeSessions (drafts.flatMap fun draft => draft.items.map (·.session)))

/-! ## Events -/

/-- `f` for each of a list. -/
def forEach {α : Type} (f : α → ClientM Unit) : List α → ClientM Unit
  | [] => pure ()
  | a :: as => do
    f a
    forEach f as

def applyEvent (w : Answers) : NetworkClientEvent → ClientM Unit
  | .sessionClosed serverAddr sessionId => do
    let s ← get
    whenSome (s.network.findOpenedSessionBySessionId serverAddr sessionId) fun key =>
      invalidateRuntimeByKey w key networkSessionMissingReason
    removeDraftSessionsBySessionId serverAddr sessionId
  -- the host is told of the change, and nothing here is written
  | .sessionDataChanged _ _ => pure ()
  | .connectionLost serverAddr => do
    let s ← get
    forEach (invalidateRuntimeByKey w · networkConnectionUnavailableReason)
      (s.network.openedSessionKeysForServer serverAddr)
    removeAllDraftSessionsForServer serverAddr

/-- `sort`, then `dedup`. -/
def sortDedup (names : List String) : List String :=
  (names.mergeSort fun a b => compare a b != .gt).dedup

/-- `sync_pending_events`. -/
def syncPendingEvents (w : Answers) : ClientM Unit := do
  let s ← get
  let events := s.network.pendingEvents
  let invalidations := sortDedup s.network.pendingMediaInvalidations
  modifyNetwork fun network =>
    { network with pendingEvents := [], pendingMediaInvalidations := [] }
  forEach (applyEvent w) events
  forEach (invalidateRuntimeByLocalDiskId w networkSessionMissingReason) invalidations

/-! ## Mounting -/

/-- `map_mount_error`. -/
def mountError (text : String) : ApiError := ⟨"mount-disk-failed", "挂载磁盘失败", some text⟩

/-- `NetworkMedia::bind`. -/
def bindNetworkMedia (w : Answers) (key : NetworkDiskKey) (opened : OpenedNetworkDiskSession)
    (configuredReadOnly : Bool) : Except ApiError Media :=
  if key.remoteDiskId.isEmpty then
    throw (mountError "invalid-argument: remote_disk_id")
  else if opened.metadata.diskSizeBytes = 0 then
    throw (mountError "invalid-argument: disk_size_bytes")
  else if configuredReadOnly || opened.metadata.readOnly then
    return .network key.remoteDiskId opened.session true
  else
    match w.cache with
    | .error text => throw (mountError text)
    | .ok () => return .network key.remoteDiskId opened.session false

/-- `mount_network_disk`. -/
def mountNetworkDisk (w : Answers) (localDiskId : String) : ClientM Nat := do
  let s ← get
  match s.store.findRuntime localDiskId with
  | none => throw (diskNotFoundError localDiskId)
  | some runtime =>
    match runtime.mountedTargetId with
    | some targetId =>
      throw ⟨"disk-already-mounted", "磁盘已经处于挂载状态", some (toString targetId)⟩
    | none =>
    match runtime.invalidReason with
    | some reason => throw ⟨"disk-invalid", "磁盘当前无效，不能挂载", some reason⟩
    | none =>
    match runtime.networkKey with
    | none => throw ⟨"disk-not-network", "磁盘不是网络盘", none⟩
    | some key =>
    match s.network.openedSession key with
    | none =>
      modifyStore (·.updateRuntime localDiskId (·.setNetworkInvalid networkSessionMissingReason))
      throw ⟨"disk-invalid", "磁盘当前无效，不能挂载", some networkSessionMissingReason⟩
    | some opened =>
    if !(← ensureUsable opened.session) then
      modifyNetwork (·.removeOpenedSession key)
      modifyStore (·.updateRuntime localDiskId (·.setNetworkInvalid networkSessionMissingReason))
      throw ⟨"disk-invalid", "磁盘当前无效，不能挂载", some networkSessionMissingReason⟩
    let media ← liftExcept (bindNetworkMedia w key opened runtime.configuredReadOnly)
    match ← tryCreateManagedDisk w media with
    | .error text => throw ⟨"mount-disk-failed", "挂载磁盘失败", some text⟩
    | .ok targetId =>
      modifyStore (·.updateRuntime localDiskId (·.setMounted targetId))
      return targetId

/-- `eject_network_disk`. -/
def ejectNetworkDisk (w : Answers) (localDiskId : String) : ClientM Unit := do
  let s ← get
  match s.store.findRuntime localDiskId with
  | none => throw (diskNotFoundError localDiskId)
  | some runtime =>
    match runtime.mountedTargetId with
    | none => throw ⟨"disk-not-mounted", "磁盘当前未挂载，不能拔出", some localDiskId⟩
    | some targetId =>
      match ← removeManagedDiskWithMedia w localDiskId targetId with
      | .error text => throw ⟨"eject-disk-failed", "拔出磁盘失败", some text⟩
      | .ok _ =>
        modifyStore (·.updateRuntime localDiskId fun r =>
          r.setNetworkUnmounted r.capacityBytes r.sourceReadOnly)

/-- `prepare_deleted_network_runtime`. -/
def prepareDeletedNetworkRuntime (w : Answers) (runtime : DiskRuntime) : ClientM DiskRuntime := do
  whenSome runtime.mountedTargetId fun targetId => do
    match ← removeManagedDiskWithMedia w runtime.localDiskId targetId with
    | .error text => throw ⟨"delete-disk-failed", "删除磁盘失败", some text⟩
    | .ok _ => pure ()
  whenSome runtime.networkKey fun key => do
    let s ← get
    let openedSession := s.network.openedSession key
    modifyNetwork (·.removeOpenedSession key)
    whenSome openedSession fun opened => closeSessionForCleanup opened.session
  return runtime.setNetworkInvalid networkSessionMissingReason

/-! ## The rescan: what is observed -/

/-- `collect_network_rescan_tasks`. -/
def collectNetworkRescanTasks (runtimes : List DiskRuntime) : List NetworkRescanTask :=
  Lib.sortBy (fun left right => compareLocalDiskId left.localDiskId right.localDiskId)
    (runtimes.filterMap fun r =>
      match r.mediaConfig with
      | .network serverAddr remoteDiskId authMaterial _ =>
        some ⟨r.localDiskId, serverAddr, remoteDiskId, authMaterial, r.mountedTargetId.isSome⟩
      | _ => none)

/-- `collect_network_rescan_plans`: the servers in their order, each with its tasks. -/
def collectNetworkRescanPlans (runtimes : List DiskRuntime) : List NetworkRescanServerPlan :=
  let tasks := collectNetworkRescanTasks runtimes
  (sortDedup (tasks.map (·.serverAddr))).map fun serverAddr =>
    ⟨serverAddr, tasks.filter (·.serverAddr = serverAddr)⟩

/-- How `open_session` and `describe_session` end. -/
inductive OpenAnswer where
  | failed
  | opened (sessionId : Nat) (metadata : Option SessionMetadata)
deriving DecidableEq, Repr

/-- How `acquire_connection`, `authenticate` and what follows end. -/
inductive GatewayAnswer where
  | noConnection
  | authFailed
  | authenticated (connection : Nat) (diskId : String) (opens : OpenAnswer)
deriving DecidableEq, Repr

def rescanFailure (task : NetworkRescanTask) (reason : String)
    (stale : Option OpenedNetworkDiskSession) : NetworkRescanObservation :=
  .failure ⟨task, reason, stale⟩

/-- `collect_task_observation` when no session of the table is usable. -/
def observeFresh (task : NetworkRescanTask) (stale : Option OpenedNetworkDiskSession) :
    GatewayAnswer → ClientM NetworkRescanObservation
  | .noConnection => return rescanFailure task networkConnectionUnavailableReason stale
  | .authFailed => return rescanFailure task networkAuthFailedReason stale
  | .authenticated connection diskId opens => do
    if diskId ≠ task.remoteDiskId then
      return rescanFailure task networkAuthMismatchReason stale
    match opens with
    | .failed => return rescanFailure task networkOpenFailedReason stale
    | .opened sessionId metadata =>
      let s ← get
      let (session, sessions) := s.sessions.openOn connection task.serverAddr sessionId
      set { s with sessions := sessions }
      match metadata with
      | none =>
        closeSessionForCleanup session
        return rescanFailure task networkMetadataFailedReason stale
      | some metadata => return .candidate ⟨task, ⟨task.key, session, metadata⟩, .fresh, stale⟩

/-- `collect_task_observation`. -/
def collectTaskObservation (task : NetworkRescanTask) (answer : GatewayAnswer) :
    ClientM NetworkRescanObservation := do
  let s ← get
  match s.network.openedSession task.key with
  | none => observeFresh task none answer
  | some opened =>
    if ← ensureUsable opened.session then
      return .candidate ⟨task, opened, .existing, none⟩
    else
      observeFresh task (some opened) answer

/-! ## The rescan: what is decided -/

def staleCleanup (stale : Option OpenedNetworkDiskSession) : List PendingSessionCleanup :=
  match stale with
  | none => []
  | some opened => [⟨opened, true⟩]

def buildAvailableAction (candidate : NetworkRescanCandidate) : NetworkResolvedAction where
  task := candidate.task
  result :=
    match candidate.source with
    | .existing =>
      if candidate.task.wasMounted then .refreshMounted candidate.openedSession.metadata
      else .setUnmounted candidate.openedSession.metadata none
    | .fresh => .setUnmounted candidate.openedSession.metadata (some candidate.openedSession)
  sessionsToCleanup := staleCleanup candidate.staleOpenedSession

def buildFailureAction (failure : NetworkRescanFailure) : NetworkResolvedAction where
  task := failure.task
  result := .invalid failure.reason
  sessionsToCleanup := staleCleanup failure.staleOpenedSession

def buildBackendConflictAction (candidate : NetworkRescanCandidate) : NetworkResolvedAction where
  task := candidate.task
  result := .invalid networkBackendConflictReason
  sessionsToCleanup := staleCleanup candidate.staleOpenedSession ++
    [⟨candidate.openedSession, candidate.source = .existing⟩]

/-- What the candidates are sorted by. -/
def compareCandidates (left right : NetworkRescanCandidate) : Ordering :=
  compareLocalDiskId left.task.localDiskId right.task.localDiskId

/-- What the actions are sorted by. -/
def compareActions (left right : NetworkResolvedAction) : Ordering :=
  compareLocalDiskId left.task.localDiskId right.task.localDiskId

def failuresOf (observations : List NetworkRescanObservation) : List NetworkRescanFailure :=
  observations.filterMap fun
    | .failure failure => some failure
    | .candidate _ => none

def candidatesOf (observations : List NetworkRescanObservation) : List NetworkRescanCandidate :=
  observations.filterMap fun
    | .candidate candidate => some candidate
    | .failure _ => none

/-- The read-only candidate of the least `localDiskId`, the first of several. -/
def winnerLocalDiskId (candidates : List NetworkRescanCandidate) : Option String :=
  (Lib.minBy compareCandidates (candidates.filter (·.openedSession.metadata.readOnly))).map
    (·.task.localDiskId)

/-- The actions of the candidates that share a backend. -/
def resolveGroup (candidates : List NetworkRescanCandidate) : List NetworkResolvedAction :=
  match candidates with
  | [candidate] => [buildAvailableAction candidate]
  | candidates =>
    let candidates := Lib.sortBy compareCandidates candidates
    let winner := winnerLocalDiskId candidates
    candidates.map fun candidate =>
      if winner = some candidate.task.localDiskId then buildAvailableAction candidate
      else buildBackendConflictAction candidate

/-- The keys of `candidate_groups`, in order. -/
def backendIdsOf (candidates : List NetworkRescanCandidate) : List (List UInt8) :=
  ((candidates.map (·.openedSession.metadata.backendId)).mergeSort
    fun a b => compare a b != .gt).dedup

/-- `resolve_server_actions`. -/
def resolveServerActions (observations : List NetworkRescanObservation) :
    List NetworkResolvedAction :=
  let candidates := candidatesOf observations
  let groups := (backendIdsOf candidates).map fun backendId =>
    candidates.filter (·.openedSession.metadata.backendId = backendId)
  Lib.sortBy compareActions
    ((failuresOf observations).map buildFailureAction ++ groups.flatMap resolveGroup)

/-! ## The rescan: what is committed -/

/-- One `PendingSessionCleanup`: the session to close, and the table without it. -/
def takeForCleanup (network : NetworkClientState) (cleanup : PendingSessionCleanup) :
    DiskSession × NetworkClientState :=
  if cleanup.removeFromState then
    let key := cleanup.openedSession.key
    (((network.openedSession key).getD cleanup.openedSession).session,
      network.removeOpenedSession key)
  else
    (cleanup.openedSession.session, network)

def takeAllForCleanup (network : NetworkClientState) :
    List PendingSessionCleanup → List DiskSession × NetworkClientState
  | [] => ([], network)
  | cleanup :: rest =>
    let (session, network) := takeForCleanup network cleanup
    let (sessions, network) := takeAllForCleanup network rest
    (session :: sessions, network)

/-- The fresh sessions of the actions. -/
def sessionsToInsert (actions : List NetworkResolvedAction) : List OpenedNetworkDiskSession :=
  actions.filterMap fun action =>
    match action.result with
    | .setUnmounted _ opened => opened
    | _ => none

/-- `commit_server_actions` up to its second section: the sessions are closed. -/
def commitSessions (actions : List NetworkResolvedAction) : ClientM Unit := do
  let s ← get
  let (sessionsToClose, network) :=
    takeAllForCleanup s.network (actions.flatMap (·.sessionsToCleanup))
  set { s with network := network }
  modify (·.closeSessions sessionsToClose)

/-- What `apply_runtime_action` does to the runtime of its task. -/
def applyRuntimeAction (w : Answers) (result : NetworkRescanCommitResult) (r : DiskRuntime)
    (backend : Backend) : DiskRuntime × Backend :=
  match result with
  | .refreshMounted metadata =>
    (r.refreshNetworkMetadata metadata.diskSizeBytes metadata.readOnly, backend)
  | .setUnmounted metadata _ =>
    (r.setNetworkUnmounted metadata.diskSizeBytes metadata.readOnly,
      detachManagedDiskIfMounted w r backend)
  | .invalid reason => (r.setNetworkInvalid reason, detachManagedDiskIfMounted w r backend)

/-- `commit_server_actions` from its second section on. -/
def commitRuntimes (w : Answers) (sessionsToInsert : List OpenedNetworkDiskSession)
    (actions : List NetworkResolvedAction) : ClientM Unit := do
  modifyNetwork fun network => sessionsToInsert.foldl (·.insertOpenedSession ·) network
  forEach (fun action => forRuntime action.task.localDiskId (applyRuntimeAction w action.result))
    actions

/-- The rescan of the plans: at the first server, if there is one. -/
def startRescan : List NetworkRescanServerPlan → Option Rescan
  | [] => none
  | plan :: plans => some { serverAddr := plan.serverAddr, tasks := plan.tasks, plans := plans }

end YumeDisk.TauriClient
