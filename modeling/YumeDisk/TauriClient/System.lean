import YumeDisk.Lib.Run
import YumeDisk.TauriClient.NetworkDisks

/-!
# The commands of the client and the threads beside them

One step is a section that holds the catalog mutex, or a part of one between two others in which it
holds the mutex of the network client too: `add_network_draft_item` and `submit_network_draft` wait
for the server with the catalog held, and commands on drafts that do not take it run meanwhile.  The
rescan thread observes without the catalog and commits with it.

`ensure_runtime_rescan_idle` is asked before the catalog is taken, so a command that it has let pass
may come in between two sections of a rescan; a command that it refuses does nothing.

The watcher, the server and the driver take steps of their own: an event or an invalidation is
queued, a session ends, the backend loses its disks.
-/

namespace YumeDisk.TauriClient

/-! ## Uniqueness (`network/uniqueness.rs`) -/

def networkDiskDuplicateError (key : NetworkDiskKey) : ApiError :=
  ⟨"network-disk-duplicate", "网络盘已存在", some (key.serverAddr ++ " | " ++ key.remoteDiskId)⟩

def hexDigit (n : Nat) : Char := Char.ofNat (if n < 10 then 48 + n else 87 + n)

def formatBackendIdHex (backendId : List UInt8) : String :=
  String.ofList (backendId.flatMap fun b => [hexDigit (b.toNat / 16), hexDigit (b.toNat % 16)])

def networkBackendConflictError (serverAddr : String) (backendId : List UInt8) : ApiError :=
  ⟨"network-backend-conflict", "网络盘后端冲突",
    some (serverAddr ++ " | " ++ formatBackendIdHex backendId)⟩

/-- The drafts for a server, but for the excluded one. -/
def otherDrafts (network : NetworkClientState) (serverAddr : String)
    (excludedDraftId : Option String) : List NetworkCreateDraft :=
  (network.draftsForServer serverAddr).filter fun draft => excludedDraftId ≠ some draft.draftId

def ensureUniqueNetworkKey (store : DiskRuntimeStore) (network : NetworkClientState)
    (key : NetworkDiskKey) (excludedDraftId : Option String) : Except ApiError Unit :=
  if store.runtimes.any (·.networkKey = some key) then
    throw (networkDiskDuplicateError key)
  else if (otherDrafts network key.serverAddr excludedDraftId).any fun draft =>
      draft.items.any (·.key.remoteDiskId = key.remoteDiskId) then
    throw (networkDiskDuplicateError key)
  else
    return ()

def ensureUniqueNetworkBackend (network : NetworkClientState) (serverAddr : String)
    (backendId : List UInt8) (excludedDraftId : Option String) : Except ApiError Unit :=
  if (otherDrafts network serverAddr excludedDraftId).any fun draft =>
      draft.items.any (·.metadata.backendId = backendId) then
    throw (networkBackendConflictError serverAddr backendId)
  else if network.openedSessions.any fun opened =>
      opened.key.serverAddr = serverAddr && opened.metadata.backendId = backendId then
    throw (networkBackendConflictError serverAddr backendId)
  else
    return ()

/-! ## Drafts (`network/draft_flow.rs`) -/

def draftNotFoundError (draftId : String) : ApiError :=
  ⟨"network-draft-not-found", "网络盘草稿不存在", some draftId⟩

def draftItemNotFoundError (remoteDiskId : String) : ApiError :=
  ⟨"network-draft-item-not-found", "网络盘草稿项不存在", some remoteDiskId⟩

/-- `create_network_draft`, with the connection that `acquire_connection` returns. -/
def createNetworkDraft (serverAddr : String) (connection : Except String Nat) :
    ClientM Unit := do
  let serverAddr := trim serverAddr
  failWhen serverAddr.isEmpty ⟨"network-server-addr-empty", "服务器地址不能为空", none⟩
  match connection with
  | .error text => throw ⟨"network-connect-failed", "测试连接失败", some text⟩
  | .ok connection =>
    modifyNetwork fun network =>
      { network with nextDraftNumber := network.nextDraftNumber + 1 }.insertDraft
        ⟨"draft-" ++ toString network.nextDraftNumber, serverAddr, connection, []⟩

/-- `remove_network_draft_item`. -/
def removeNetworkDraftItem (draftId remoteDiskId : String) : ClientM Unit := do
  let s ← get
  match s.network.draft draftId with
  | none => throw (draftNotFoundError draftId)
  | some draft =>
    match draft.removeItem remoteDiskId with
    | none => throw (draftItemNotFoundError remoteDiskId)
    | some (item, draft) =>
      modifyNetwork (·.setDraft draft)
      closeSessionForCleanup item.session

/-- `dispose_network_draft`. -/
def disposeNetworkDraft (draftId : String) : ClientM Unit := do
  let s ← get
  match s.network.draft draftId with
  | none => throw (draftNotFoundError draftId)
  | some draft =>
    modifyNetwork (·.removeDraft draftId)
    modify (·.closeSessions (draft.items.map (·.session)))

/-- `add_network_draft_item` up to `authenticate`. -/
def addNetworkDraftItem (w : Answers) (draftId diskName claimCode : String) : ClientM Holder := do
  syncPendingEvents w
  let diskName := trim diskName
  failWhen diskName.isEmpty emptyDiskNameError
  let s ← get
  match s.network.draft draftId with
  | none => throw (draftNotFoundError draftId)
  | some draft =>
    return .adding draftId diskName claimCode draft.serverAddr draft.connection .authenticate

/-- How the exchange that `add_network_draft_item` waits for ends. -/
inductive AddAnswer where
  | authenticated (diskId : Except String String)
  | opened (sessionId : Except String Nat)
  | described (metadata : Except String SessionMetadata)
  | resumed

/-- `add_network_draft_item` from one wait to the next. -/
def continueAdd (draftId diskName claimCode serverAddr : String) (connection : Nat) :
    AddStage → AddAnswer → ClientM Holder
  | .authenticate, .authenticated (.error text) =>
    throw ⟨"network-auth-failed", "认证失败", some text⟩
  | .authenticate, .authenticated (.ok diskId) => do
    let key : NetworkDiskKey := ⟨serverAddr, diskId⟩
    let s ← get
    liftExcept (ensureUniqueNetworkKey s.store s.network key none)
    return .adding draftId diskName claimCode serverAddr connection (.openSession key)
  | .openSession _, .opened (.error text) =>
    throw ⟨"network-session-open-failed", "会话打开失败", some text⟩
  | .openSession key, .opened (.ok sessionId) => do
    let s ← get
    let (session, sessions) := s.sessions.openOn connection serverAddr sessionId
    set { s with sessions := sessions }
    return .adding draftId diskName claimCode serverAddr connection (.describe key session)
  | .describe _ session, .described (.error text) => do
    closeSessionForCleanup session
    throw ⟨"network-metadata-failed", "元数据获取失败", some text⟩
  | .describe key session, .described (.ok metadata) => do
    let s ← get
    match ensureUniqueNetworkBackend s.network serverAddr metadata.backendId none with
    | .error error =>
      closeSessionForCleanup session
      throw error
    | .ok () =>
      return .adding draftId diskName claimCode serverAddr connection
        (.insert key session metadata)
  | .insert key session metadata, .resumed => do
    let s ← get
    match s.network.draft draftId with
    | none => throw (draftNotFoundError draftId)
    | some draft =>
      modifyNetwork (·.setDraft (draft.insertItem ⟨key, diskName, claimCode, session, metadata⟩))
      return .free
  -- no other answer is waited for
  | stage, _ => return .adding draftId diskName claimCode serverAddr connection stage

/-- The checks of `submit_network_draft` on its items. -/
def checkDraftItems (store : DiskRuntimeStore) (network : NetworkClientState)
    (draft : NetworkCreateDraft) : List NetworkDraftItem → Except ApiError Unit
  | [] => return ()
  | item :: items => do
    ensureUniqueNetworkKey store network item.key (some draft.draftId)
    ensureUniqueNetworkBackend network draft.serverAddr item.metadata.backendId
      (some draft.draftId)
    checkDraftItems store network draft items

/-- The runtimes of the items; the result is their local ids. -/
def insertDraftRuntimes (serverAddr : String) : List NetworkDraftItem → ClientM (List String)
  | [] => return []
  | item :: items => do
    let localDiskId ← allocateLocalDiskId
    modifyStore (·.insertRuntime (.newNetwork localDiskId item.diskName false serverAddr
      item.key.remoteDiskId item.authMaterial item.metadata.diskSizeBytes false
      item.metadata.readOnly))
    let localDiskIds ← insertDraftRuntimes serverAddr items
    return localDiskId :: localDiskIds

/-- `draft_flow::submit_network_draft` up to `remove_draft`. -/
def submitDraft (w : Answers) (draftId : String) : ClientM Holder := do
  let s ← get
  match s.network.draft draftId with
  | none => throw (draftNotFoundError draftId)
  | some draft =>
    failWhen draft.items.isEmpty ⟨"network-draft-empty", "当前没有可提交的网络盘", some draftId⟩
    liftExcept (checkDraftItems s.store s.network draft draft.items)
    let localDiskIds ← insertDraftRuntimes draft.serverAddr draft.items
    match ← saveClientState w with
    | .ok () => return .submitting draft
    | .error error =>
      modifyStore fun store => localDiskIds.reverse.foldl (·.dropRuntime ·) store
      throw error

/-- `submit_network_draft` up to `remove_draft`. -/
def submitNetworkDraft (w : Answers) (draftId : String) : ClientM Holder := do
  syncPendingEvents w
  submitDraft w draftId

/-- `submit_network_draft` from `remove_draft` on, up to the observations of its rescan. -/
def finishSubmit (draftId : String) : ClientM Holder := do
  let s ← get
  match s.network.draft draftId with
  | none => throw (draftNotFoundError draftId)
  | some draft =>
    modifyNetwork fun network =>
      draft.items.foldl
        (fun network item => network.insertOpenedSession ⟨item.key, item.session, item.metadata⟩)
        (network.removeDraft draftId)
    match startRescan (collectNetworkRescanPlans s.store.runtimes) with
    | none => return .free
    | some rescan => return .rescanning rescan

/-! ## Disks of either kind (`workflow/runtime_disk.rs`, `commands/disk.rs`) -/

/-- `runtime_disk::mount_disk`. -/
def mountDisk (w : Answers) (localDiskId : String) : ClientM Unit := do
  syncPendingEvents w
  let s ← get
  match s.store.findRuntime localDiskId with
  | none => throw (diskNotFoundError localDiskId)
  | some runtime =>
    let _ ← if runtime.isNetwork then mountNetworkDisk w localDiskId
      else mountLocalDisk w localDiskId

/-- `runtime_disk::eject_disk`. -/
def ejectDisk (w : Answers) (localDiskId : String) : ClientM Unit := do
  syncPendingEvents w
  let s ← get
  match s.store.findRuntime localDiskId with
  | none => throw (diskNotFoundError localDiskId)
  | some runtime =>
    if runtime.isNetwork then ejectNetworkDisk w localDiskId else ejectLocalDisk w localDiskId

/-- `runtime_disk::prepare_deleted_runtime`. -/
def prepareDeletedRuntime (w : Answers) (runtime : DiskRuntime) : ClientM DiskRuntime :=
  if runtime.isNetwork then prepareDeletedNetworkRuntime w runtime
  else prepareDeletedLocalRuntime w runtime

/-- The result of a call that returns its error to the caller. -/
def attempt {α : Type} (x : ClientM α) : ClientM (Except ApiError α) := fun s =>
  match x s with
  | .ok a s => .ok (.ok a) s
  | .error e s => .ok (.error e) s

def modifyCatalog (f : DiskCatalogState → DiskCatalogState) : ClientM Unit :=
  modify fun s => { s with catalog := f s.catalog }

/-- `delete_disk`. -/
def deleteDisk (w : Answers) (localDiskId : String) : ClientM Unit := do
  syncPendingEvents w
  let s ← get
  match s.store.removeRuntime localDiskId with
  | none => throw (diskNotFoundError localDiskId)
  | some (removed, store) =>
    set (s.setStore store)
    match ← attempt (prepareDeletedRuntime w removed.runtime) with
    | .error error =>
      modifyStore (·.restoreRemovedRuntime removed)
      throw error
    | .ok runtime =>
      match ← saveClientState w with
      | .error error =>
        modifyStore (·.restoreRemovedRuntime ⟨removed.index, runtime⟩)
        throw error
      | .ok () => modifyCatalog fun catalog =>
          (catalog.stagePendingDeletion ⟨removed.index, runtime⟩).2

def pendingDeletionNotFoundError (deletionId : String) : ApiError :=
  ⟨"pending-deletion-not-found", "删除撤销窗口已结束", some deletionId⟩

/-- `undo_delete_disk`. -/
def undoDeleteDisk (w : Answers) (deletionId : String) : ClientM Unit := do
  let s ← get
  match s.catalog.takePendingDeletion deletionId with
  | none => throw (pendingDeletionNotFoundError deletionId)
  | some (pending, catalog) =>
    let localDiskId := pending.removedRuntime.runtime.localDiskId
    set { s with catalog := catalog }
    modifyStore (·.restoreRemovedRuntime pending.removedRuntime)
    match ← saveClientState w with
    | .ok () => pure ()
    | .error error =>
      let s ← get
      match s.store.removeRuntime localDiskId with
      | none => throw (diskNotFoundError localDiskId)
      | some (removed, store) =>
        set (s.setStore store)
        modifyCatalog (·.restorePendingDeletion ⟨pending.deletionId, removed⟩)
        throw error

/-- `commit_deleted_disk`. -/
def commitDeletedDisk (deletionId : String) : ClientM Unit := do
  let s ← get
  match s.catalog.takePendingDeletion deletionId with
  | none => throw (pendingDeletionNotFoundError deletionId)
  | some (_, catalog) => set { s with catalog := catalog }

/-! ## The watcher (`workflow/backend_runtime`) -/

/-- `detach_runtime_after_backend_loss`. -/
def detachRuntimeAfterBackendLoss (w : Answers) (r : DiskRuntime) : DiskRuntime :=
  if r.isNetwork then
    r.setNetworkUnmounted r.capacityBytes r.sourceReadOnly
  else if r.isMemory then
    r.setMemoryInvalid memoryMediaLostReason
  else
    match r.filePath? with
    | none => r
    | some filePath =>
      match w.probe filePath with
      | .ok probe => r.setFileUnmounted probe.capacityBytes probe.readOnly
      | .error _ => r.setFileInvalid invalidFileReason

/-- `apply_disk_response` of a `DiskRemoved`. -/
def applyDiskRemoved (w : Answers) (store : DiskRuntimeStore) (targetId : Nat) :
    DiskRuntimeStore :=
  { store with
    runtimes := DiskRuntimeStore.updateFirst (·.mountedTargetId = some targetId)
      (detachRuntimeAfterBackendLoss w) store.runtimes }

/-- `apply_session_broken`. -/
def applySessionBroken (w : Answers) (store : DiskRuntimeStore) : DiskRuntimeStore :=
  { store with
    runtimes := store.runtimes.map fun r =>
      if r.mountedTargetId.isNone then r else detachRuntimeAfterBackendLoss w r }

/-- `backend_runtime::sync_runtime_state`; `broken`: a `Broken` notice is polled. -/
def syncBackendState (w : Answers) (broken : Bool) : ClientM Unit := do
  let s ← get
  modifyStore fun store => s.backend.responses.foldl (applyDiskRemoved w) store
  modify fun s => { s with backend := { s.backend with responses := [] } }
  if broken then
    modify fun s => { s with backend := {} }
    modifyStore (applySessionBroken w)

/-! ## The rescan thread (`workflow/runtime_rescan.rs`) -/

/-- The section that starts a rescan; the result is its plan. -/
def startRuntimeRescan (paths : PathApi) (w : Answers) : ClientM (Option Rescan) := do
  syncPendingEvents w
  rescanLocalRuntimeDisks paths w
  let s ← get
  liftExcept (← saveClientState w)
  return startRescan (collectNetworkRescanPlans s.store.runtimes)

/-- The observation of the first task that is left. -/
def observeTask (rescan : Rescan) (answer : GatewayAnswer) : ClientM Rescan := do
  match rescan.tasks with
  | [] => return rescan
  | task :: tasks =>
    let observation ← collectTaskObservation task answer
    return { rescan with tasks := tasks, observations := rescan.observations ++ [observation] }

/-- The first section of the commit of a plan. -/
def beginCommit (background : Bool) (rescan : Rescan) : ClientM Holder := do
  let actions := resolveServerActions rescan.observations
  commitSessions actions
  return .committing background (sessionsToInsert actions) actions rescan.plans

/-! ## Steps -/

inductive Action where
  | createMemoryDisk (w : Answers) (request : CreateMemoryDiskRequest)
  | createFileDisk (w : Answers) (request : CreateFileDiskRequest)
  | createNewFileDisk (w : Answers) (files : NewFileAnswers) (request : CreateNewFileDiskRequest)
  | updateDisk (w : Answers) (request : UpdateDiskRequest)
  | mountDisk (w : Answers) (localDiskId : String)
  | ejectDisk (w : Answers) (localDiskId : String)
  | deleteDisk (w : Answers) (localDiskId : String)
  | undoDeleteDisk (w : Answers) (deletionId : String)
  | commitDeletedDisk (deletionId : String)
  | restoreClientState (w : Answers) (config : Except ApiError (List PersistedDiskRecord))
  /-- `query_home_disk_list`. -/
  | sync (w : Answers)
  | createNetworkDraft (serverAddr : String) (connection : Except String Nat)
  | removeNetworkDraftItem (draftId remoteDiskId : String)
  | disposeNetworkDraft (draftId : String)
  | addNetworkDraftItem (w : Answers) (draftId diskName claimCode : String)
  | continueAdd (answer : AddAnswer)
  | submitNetworkDraft (w : Answers) (draftId : String)
  | finishSubmit
  | startRescan (w : Answers)
  /-- The rescan thread observes a task, or closes the sessions of a plan that it has observed. -/
  | rescan (answer : GatewayAnswer)
  | beginCommit
  /-- The same for the rescan that ends `submit_network_draft`. -/
  | submitRescan (answer : GatewayAnswer)
  | submitBeginCommit
  | finishCommit (w : Answers)
  | watch (w : Answers) (broken : Bool)
  | raise (event : NetworkClientEvent)
  | invalidate (localDiskId : String)
  /-- A connection loses a session, or is lost with it. -/
  | deactivate (connection sessionId : Nat)
  /-- A request of a session fails for good. -/
  | terminate (handle : Nat)
  | loseDisks
  /-- The table of the opened sessions is iterated in another order. -/
  | rehash (openedSessions : List OpenedNetworkDiskSession)

/-- The state that a section ends in, with the catalog released when it fails. -/
def ClientM.toHolder (x : ClientM Holder) (s : ClientState) : ClientState :=
  match x s with
  | .ok holder s => { s with holder := holder }
  | .error _ s => { s with holder := .free }

/-- The state that a computation ends in. -/
def ClientM.final {α : Type} (x : ClientM α) (s : ClientState) : ClientState :=
  match x s with
  | .ok _ s => s
  | .error _ s => s

/-- A section that takes the catalog. -/
def withCatalog (s : ClientState) (x : ClientM Holder) : Option ClientState :=
  if s.holder = .free then some (x.toHolder s) else none

/-- A command that is one section. -/
def command (s : ClientState) (x : ClientM Unit) : Option ClientState :=
  if s.holder = .free then some (x.final s) else none

/-- What the commit of a plan leaves to do. -/
def afterCommit (s : ClientState) (w : Answers) (background : Bool)
    (plans : List NetworkRescanServerPlan) : ClientState :=
  if background then
    -- the rescan thread stops when the configuration cannot be saved
    { s.saveConfig w with
      holder := .free
      rescan := match w.saves with
        | .ok () => startRescan plans
        | .error _ => none }
  else
    { s with holder := match startRescan plans with
        | none => .free
        | some rescan => .rescanning rescan }

def step (paths : PathApi) (s : ClientState) : Action → Option ClientState
  | .createMemoryDisk w request => command s (createMemoryDisk w request)
  | .createFileDisk w request => command s (createFileDisk paths w request)
  | .createNewFileDisk w files request => command s (createNewFileDisk paths w files request)
  | .updateDisk w request => command s (updateDisk w request)
  | .mountDisk w localDiskId => command s (mountDisk w localDiskId)
  | .ejectDisk w localDiskId => command s (ejectDisk w localDiskId)
  | .deleteDisk w localDiskId => command s (deleteDisk w localDiskId)
  | .undoDeleteDisk w deletionId => command s (undoDeleteDisk w deletionId)
  | .commitDeletedDisk deletionId => command s (commitDeletedDisk deletionId)
  | .restoreClientState w config => command s (restoreClientState paths w config)
  | .sync w => command s (syncPendingEvents w)
  | .createNetworkDraft serverAddr connection =>
    some ((createNetworkDraft serverAddr connection).final s)
  | .removeNetworkDraftItem draftId remoteDiskId =>
    some ((removeNetworkDraftItem draftId remoteDiskId).final s)
  | .disposeNetworkDraft draftId => some ((disposeNetworkDraft draftId).final s)
  | .addNetworkDraftItem w draftId diskName claimCode =>
    withCatalog s (addNetworkDraftItem w draftId diskName claimCode)
  | .continueAdd answer =>
    match s.holder with
    | .adding draftId diskName claimCode serverAddr connection stage =>
      some ((continueAdd draftId diskName claimCode serverAddr connection stage answer).toHolder s)
    | _ => none
  | .submitNetworkDraft w draftId => withCatalog s (submitNetworkDraft w draftId)
  | .finishSubmit =>
    match s.holder with
    | .submitting draft => some ((finishSubmit draft.draftId).toHolder s)
    | _ => none
  | .startRescan w =>
    if s.holder = .free ∧ s.rescan = none then
      match startRuntimeRescan paths w s with
      | .ok rescan s => some { s with rescan := rescan }
      | .error _ s => some s
    else
      none
  | .rescan answer =>
    match s.rescan with
    | none => none
    | some rescan =>
      match observeTask rescan answer s with
      | .ok rescan s => some { s with rescan := some rescan }
      | .error _ s => some s
  | .beginCommit =>
    match s.rescan with
    | none => none
    | some rescan =>
      if rescan.tasks = [] then withCatalog { s with rescan := none } (beginCommit true rescan)
      else none
  | .submitRescan answer =>
    match s.holder with
    | .rescanning rescan =>
      some ((do return .rescanning (← observeTask rescan answer) : ClientM Holder).toHolder s)
    | _ => none
  | .submitBeginCommit =>
    match s.holder with
    | .rescanning rescan =>
      if rescan.tasks = [] then some ((beginCommit false rescan).toHolder s) else none
    | _ => none
  | .finishCommit w =>
    match s.holder with
    | .committing background sessionsToInsert actions plans =>
      some (afterCommit ((commitRuntimes w sessionsToInsert actions).final s) w background plans)
    | _ => none
  | .watch w broken =>
    command s (do
      syncBackendState w broken
      syncPendingEvents w)
  | .raise event =>
    some { s with network := { s.network with
      pendingEvents := s.network.pendingEvents ++ [event] } }
  | .invalidate localDiskId =>
    some { s with network := { s.network with
      pendingMediaInvalidations := s.network.pendingMediaInvalidations ++ [localDiskId] } }
  | .deactivate connection sessionId =>
    some { s with sessions := { s.sessions with
      active := s.sessions.active.filter (· ≠ (connection, sessionId)) } }
  | .terminate handle =>
    some { s with sessions := { s.sessions with ended := handle :: s.sessions.ended } }
  | .loseDisks => some { s with backend := { s.backend with disks := [] } }
  | .rehash openedSessions =>
    if openedSessions.Perm s.network.openedSessions then
      some { s with network := { s.network with openedSessions := openedSessions } }
    else
      none

/-! ## What a step does -/

section Cases

variable {paths : PathApi} {s s' : ClientState}

theorem command_cases {x : ClientM Unit} (hs : command s x = some s') :
    s.holder = .free ∧ s' = x.final s := by
  unfold command at hs
  split_ifs at hs with hfree
  exact ⟨hfree, (Option.some.inj hs).symm⟩

theorem withCatalog_cases {x : ClientM Holder} (hs : withCatalog s x = some s') :
    s.holder = .free ∧ s' = x.toHolder s := by
  unfold withCatalog at hs
  split_ifs at hs with hfree
  exact ⟨hfree, (Option.some.inj hs).symm⟩

/-- What a step needs and what it leaves, where the action is no single section. -/
def StepCases (paths : PathApi) (s s' : ClientState) : Action → Prop
  | .continueAdd answer => ∃ draftId diskName claimCode serverAddr connection stage,
      s.holder = .adding draftId diskName claimCode serverAddr connection stage ∧
        s' = (continueAdd draftId diskName claimCode serverAddr connection stage answer).toHolder s
  | .finishSubmit => ∃ draft, s.holder = .submitting draft ∧
      s' = (finishSubmit draft.draftId).toHolder s
  | .startRescan w => s.holder = .free ∧
      ((∃ rescan t, startRuntimeRescan paths w s = .ok rescan t ∧ s' = { t with rescan }) ∨
        ∃ e, startRuntimeRescan paths w s = .error e s')
  | .rescan answer => ∃ rescan, s.rescan = some rescan ∧
      ((∃ rescan' t, observeTask rescan answer s = .ok rescan' t ∧
          s' = { t with rescan := some rescan' }) ∨
        ∃ e, observeTask rescan answer s = .error e s')
  | .beginCommit => ∃ rescan, s.rescan = some rescan ∧ rescan.tasks = [] ∧ s.holder = .free ∧
      s' = (beginCommit true rescan).toHolder { s with rescan := none }
  | .submitRescan answer => ∃ rescan, s.holder = .rescanning rescan ∧
      s' = (do return .rescanning (← observeTask rescan answer) : ClientM Holder).toHolder s
  | .submitBeginCommit => ∃ rescan, s.holder = .rescanning rescan ∧ rescan.tasks = [] ∧
      s' = (beginCommit false rescan).toHolder s
  | .finishCommit w => ∃ background opened actions plans,
      s.holder = .committing background opened actions plans ∧
        s' = afterCommit ((commitRuntimes w opened actions).final s) w background plans
  | .rehash openedSessions => openedSessions.Perm s.network.openedSessions ∧
      s' = { s with network := { s.network with openedSessions := openedSessions } }
  | _ => True

theorem step_cases {a : Action} (hs : step paths s a = some s') : StepCases paths s s' a := by
  cases a with
  | continueAdd answer =>
    simp only [step] at hs
    split at hs
    · next hholder => exact ⟨_, _, _, _, _, _, hholder, (Option.some.inj hs).symm⟩
    · cases hs
  | finishSubmit =>
    simp only [step] at hs
    split at hs
    · next draft hholder => exact ⟨draft, hholder, (Option.some.inj hs).symm⟩
    · cases hs
  | startRescan w =>
    simp only [step] at hs
    split_ifs at hs with hfree
    refine ⟨hfree.1, ?_⟩
    split at hs
    · next rescan t hx => exact .inl ⟨rescan, t, hx, (Option.some.inj hs).symm⟩
    · next e t hx => exact .inr ⟨e, Option.some.inj hs ▸ hx⟩
  | rescan answer =>
    simp only [step] at hs
    split at hs
    · cases hs
    · next rescan hrescan =>
      refine ⟨rescan, hrescan, ?_⟩
      split at hs
      · next rescan' t hx => exact .inl ⟨rescan', t, hx, (Option.some.inj hs).symm⟩
      · next e t hx => exact .inr ⟨e, Option.some.inj hs ▸ hx⟩
  | beginCommit =>
    simp only [step] at hs
    split at hs
    · cases hs
    · next rescan hrescan =>
      split_ifs at hs with htasks
      exact ⟨rescan, hrescan, htasks, withCatalog_cases hs⟩
  | submitRescan answer =>
    simp only [step] at hs
    split at hs
    · next rescan hholder => exact ⟨rescan, hholder, (Option.some.inj hs).symm⟩
    · cases hs
  | submitBeginCommit =>
    simp only [step] at hs
    split at hs
    · next rescan hholder =>
      split_ifs at hs with htasks
      exact ⟨rescan, hholder, htasks, (Option.some.inj hs).symm⟩
    · cases hs
  | finishCommit w =>
    simp only [step] at hs
    split at hs
    · next background opened actions plans hholder =>
      exact ⟨background, opened, actions, plans, hholder, (Option.some.inj hs).symm⟩
    · cases hs
  | rehash openedSessions =>
    simp only [step] at hs
    split_ifs at hs with hperm
    exact ⟨hperm, (Option.some.inj hs).symm⟩
  | _ => trivial

end Cases

end YumeDisk.TauriClient
