import Mathlib.Logic.Function.Basic
import Mathlib.Data.List.Nodup
import Mathlib.Order.Basic
import Std.Data.TreeMap.Lemmas
import YumeDisk.Lib.Run

/-!
# The disk handles of the backend

A runtime of the map of the backend holds the handle of a disk of AppKernel.  `AkRemoveDisk` and
`AkDetachDisk` destroy the disk at their end, whatever status they return, and `AkClose` destroys
the disks that are left; the backend reads a handle out of a runtime in one section and calls
AppKernel with it in another.

* `BackendContext`: the runtimes, the map, the disks of AppKernel and what each thread is doing.
* `BackendContext.step`: one section of one operation: what is done under one lock, or one section
  of a call of AppKernel.
* `BackendContext.uses`: the disks that AppKernel was called with, and their state at that time.

The media, the staging store and the log are left out: no operation looks at them before it calls
AppKernel.
-/

namespace YumeDisk.Backend

def yumediskMinTargetId : Nat := 0
def yumediskMaxUsableTargetId : Nat := 254
def yumediskMaxTargets : Nat := 255

/-- `State.Lifecycle` as far as a removal looks at it, and whether the disk has been freed. -/
inductive DiskLife
  | running
  | removing
  | closed
  | destroyed
deriving DecidableEq, Repr

structure AkDisk where
  life : DiskLife
  /-- `DiskCtx`: the runtime it was created for. -/
  diskCtx : Nat
deriving DecidableEq, Repr

/-- What the map holds of a disk: `handle` is `none` for the null handle, `readers` are the threads
that have the runtime locked for reading. -/
structure DiskRuntime where
  targetId : Nat
  handle : Option Nat := none
  readers : Nat := 0
deriving DecidableEq, Repr

/-- A section of AppKernel that was given a disk. -/
structure HandleUse where
  handle : Nat
  life : DiskLife
deriving DecidableEq, Repr

/-- `AkRemoveDisk` or `AkDetachDisk`. -/
inductive RemoveCall
  | remove
  | detach
deriving DecidableEq, Repr

/-- The operation that removes a disk, and what it has left to do. -/
inductive Remover
  | one (targetId : Nat)
  | all (closing session : Bool) (rest removed : List Nat)
deriving DecidableEq, Repr

/-- The operation that looks at a disk under the lock of its runtime. -/
inductive Reader
  | notify
  | snapshot (rest : List Nat)
deriving DecidableEq, Repr

/-- Where a thread is; each is named for what has been done. -/
inductive BackendPc
  | idle
  -- `try_create_managed_disk`
  | creating (targetId : Nat)
  | absent (targetId : Nat)
  | inserted (targetId runtime : Nat)
  | created (runtime handle : Nat)
  | createFailed (targetId : Nat)
  -- `remove_managed_disk_with_media`, `detach_managed_disk_with_media`
  | finding (call : RemoveCall) (targetId : Nat)
  | found (call : RemoveCall) (targetId runtime : Nat)
  | clearing (targetId runtime : Nat)
  | erasing (targetId : Nat)
  -- `remove_all_managed_disks_internal`
  | listing (closing : Bool)
  | listed (closing : Bool) (rest : List Nat)
  | next (closing session : Bool) (rest removed : List Nat)
  | unset (closing session : Bool) (rest removed : List Nat) (runtime : Nat)
  | dropping (closing session : Bool) (rest removed : List Nat) (runtime : Nat)
  -- `AkDiskRemove`, `AkDiskDetach`
  | held (call : RemoveCall) (remover : Remover) (runtime handle : Nat)
  | stopping (call : RemoveCall) (remover : Remover) (runtime handle : Nat)
  | stopped (call : RemoveCall) (remover : Remover) (runtime handle : Nat)
  -- `notify_managed_disk_data_changed`, `snapshot_managed_disks`
  | notifying (targetId : Nat)
  | looking (reader : Reader) (runtime : Nat)
  | querying (reader : Reader) (runtime handle : Nat)
  | notifyCall (runtime handle : Nat)
  | notifyEnd (runtime handle : Nat)
  -- `close`
  | joined
  | closingSession
  | discarding
  | discard (rest : List Nat)
deriving DecidableEq, Repr

/-- `session`: the handle, and whether the closing thread holds its lock. -/
structure SessionCell where
  opened : Bool := true
  locked : Bool := false
deriving DecidableEq, Repr

structure BackendContext where
  session : SessionCell := {}
  runtimes : List DiskRuntime := []
  diskRuntimes : Std.TreeMap Nat Nat := {}
  disks : List AkDisk := []
  threads : Nat → BackendPc := fun _ => .idle
  uses : List HandleUse := []

namespace BackendContext

/-- The handle in a runtime. -/
def handleOf (s : BackendContext) (runtime : Nat) : Option Nat :=
  s.runtimes[runtime]?.bind DiskRuntime.handle

def ctxOf (s : BackendContext) (handle : Nat) : Option Nat :=
  s.disks[handle]?.map AkDisk.diskCtx

def lifeOf (s : BackendContext) (handle : Nat) : DiskLife :=
  (s.disks[handle]?.map AkDisk.life).getD .destroyed

/-- No thread has the runtime locked for reading. -/
def unread (s : BackendContext) (runtime : Nat) : Bool :=
  (s.runtimes[runtime]?.map DiskRuntime.readers).getD 0 == 0

/-- `snapshot_disk_runtimes`. -/
def snapshotDiskRuntimes (s : BackendContext) : List Nat := s.diskRuntimes.toList.map Prod.snd

/-- `find_first_free_target`. -/
def findFirstFreeTarget (s : BackendContext) : Nat :=
  ((List.range' yumediskMinTargetId (yumediskMaxUsableTargetId + 1 - yumediskMinTargetId)).find?
    fun targetId => !s.diskRuntimes.contains targetId).getD yumediskMaxTargets

def setPc (s : BackendContext) (t : Nat) (pc : BackendPc) : BackendContext :=
  { s with threads := Function.update s.threads t pc }

def setHandle (s : BackendContext) (runtime : Nat) (handle : Option Nat) : BackendContext :=
  { s with runtimes := s.runtimes.modify runtime fun r => { r with handle } }

def lockRead (s : BackendContext) (runtime : Nat) : BackendContext :=
  { s with runtimes := s.runtimes.modify runtime fun r => { r with readers := r.readers + 1 } }

def unlockRead (s : BackendContext) (runtime : Nat) : BackendContext :=
  { s with runtimes := s.runtimes.modify runtime fun r => { r with readers := r.readers - 1 } }

/-- `insert_disk_runtime`, for a new runtime. -/
def insert (s : BackendContext) (targetId : Nat) : BackendContext :=
  { s with
    runtimes := s.runtimes ++ [{ targetId }]
    diskRuntimes := s.diskRuntimes.insert targetId s.runtimes.length }

/-- `AkCreateDisk`. -/
def create (s : BackendContext) (runtime : Nat) : BackendContext :=
  { s with disks := s.disks ++ [{ life := .running, diskCtx := runtime }] }

def erase (s : BackendContext) (targetId : Nat) : BackendContext :=
  { s with diskRuntimes := s.diskRuntimes.erase targetId }

def eraseAll (s : BackendContext) (targetIds : List Nat) : BackendContext :=
  targetIds.foldl erase s

def setLife (s : BackendContext) (handle : Nat) (life : DiskLife) : BackendContext :=
  { s with disks := s.disks.modify handle fun disk => { disk with life } }

def clearMap (s : BackendContext) : BackendContext := { s with diskRuntimes := {} }

def setSession (s : BackendContext) (session : SessionCell) : BackendContext := { s with session }

/-- AppKernel works on the disk. -/
def use (s : BackendContext) (handle : Nat) : BackendContext :=
  { s with uses := s.uses ++ [{ handle, life := s.lifeOf handle }] }

/-- `already_closed`; nothing is said of a disk that has been freed. -/
def alreadyClosed : RemoveCall → DiskLife → Bool
  | _, .running => false
  | .remove, .removing => true
  | .detach, .removing => false
  | _, .closed => true
  | _, .destroyed => true

/-- Where a removal goes on when AppKernel has returned `AK_STATUS_SUCCESS`, or has not. -/
def afterCall (remover : Remover) (runtime : Nat) (ok : Bool) : BackendPc :=
  match remover with
  | .one targetId => if ok then .clearing targetId runtime else .idle
  | .all closing session rest removed =>
    if ok then
      .unset closing session rest removed runtime
    else if closing then
      .dropping closing session rest removed runtime
    else
      .next closing session rest removed

/-- The next runtime of a snapshot. -/
def nextRead : List Nat → BackendPc
  | [] => .idle
  | runtime :: rest => .looking (.snapshot rest) runtime

/-- The target of a runtime. -/
def targetOf (s : BackendContext) (runtime : Nat) : Nat :=
  (s.runtimes[runtime]?.map DiskRuntime.targetId).getD yumediskMaxTargets

/-- One section of the operation of a thread.  `ok` is the status that AppKernel returns, if it does
in this section, and whether the parameters of a new disk are valid. -/
def advance (s : BackendContext) (t : Nat) (ok : Bool) : Option BackendContext :=
  match s.threads t with
  | .idle => none
  -- `try_create_managed_disk`
  | .creating targetId =>
    if targetId = yumediskMaxTargets then
      let free := s.findFirstFreeTarget
      some (s.setPc t (if free ≥ yumediskMaxTargets then .idle else .creating free))
    else if !ok || s.diskRuntimes.contains targetId then
      some (s.setPc t .idle)
    else
      some (s.setPc t (.absent targetId))
  | .absent targetId =>
    some ((s.insert targetId).setPc t (.inserted targetId s.runtimes.length))
  | .inserted targetId runtime =>
    if ok then
      some ((s.create runtime).setPc t (.created runtime s.disks.length))
    else
      some (s.setPc t (.createFailed targetId))
  | .created runtime handle =>
    if s.unread runtime then some ((s.setHandle runtime handle).setPc t .idle) else none
  | .createFailed targetId => some ((s.erase targetId).setPc t .idle)
  -- `remove_managed_disk_with_media`, `detach_managed_disk_with_media`
  | .finding call targetId =>
    match s.diskRuntimes[targetId]? with
    | none => some (s.setPc t .idle)
    | some runtime => some (s.setPc t (.found call targetId runtime))
  | .found call targetId runtime =>
    match s.handleOf runtime with
    | none => some (s.setPc t (.clearing targetId runtime))
    | some handle => some (s.setPc t (.held call (.one targetId) runtime handle))
  | .clearing targetId runtime =>
    if s.unread runtime then some ((s.setHandle runtime none).setPc t (.erasing targetId)) else none
  | .erasing targetId => some ((s.erase targetId).setPc t .idle)
  -- `remove_all_managed_disks_internal`
  | .listing closing => some (s.setPc t (.listed closing s.snapshotDiskRuntimes))
  | .listed closing rest =>
    if s.session.locked then none else some (s.setPc t (.next closing s.session.opened rest []))
  | .next closing _ [] removed =>
    some ((s.eraseAll removed).setPc t (if closing then .joined else .idle))
  | .next closing session (runtime :: rest) removed =>
    match s.handleOf runtime, session with
    | some handle, true =>
      some (s.setPc t (.held .remove (.all closing session rest removed) runtime handle))
    | _, _ => some (s.setPc t (.dropping closing session rest removed runtime))
  | .unset closing session rest removed runtime =>
    if s.unread runtime then
      some ((s.setHandle runtime none).setPc t (.dropping closing session rest removed runtime))
    else
      none
  | .dropping closing session rest removed runtime =>
    if s.unread runtime then
      some (s.setPc t (.next closing session rest (removed ++ [s.targetOf runtime])))
    else
      none
  -- `AkDiskRemove`, `AkDiskDetach`
  | .held call remover runtime handle =>
    if alreadyClosed call (s.lifeOf handle) then
      some ((s.use handle).setPc t (afterCall remover runtime true))
    else
      some (((s.use handle).setLife handle .removing).setPc t
        (.stopping call remover runtime handle))
  | .stopping call remover runtime handle =>
    some (((s.use handle).setLife handle
      (if s.lifeOf handle = .destroyed then .destroyed else .closed)).setPc t
        (.stopped call remover runtime handle))
  | .stopped call remover runtime handle =>
    some (((s.use handle).setLife handle .destroyed).setPc t
      (afterCall remover runtime (call == .detach || ok)))
  -- `notify_managed_disk_data_changed`, `snapshot_managed_disks`
  | .notifying targetId =>
    match s.diskRuntimes[targetId]? with
    | none => some (s.setPc t .idle)
    | some runtime => some (s.setPc t (.looking .notify runtime))
  | .looking reader runtime =>
    match s.handleOf runtime, reader with
    | some handle, _ => some ((s.lockRead runtime).setPc t (.querying reader runtime handle))
    | none, .notify => some (s.setPc t .idle)
    | none, .snapshot rest => some (s.setPc t (nextRead rest))
  | .querying .notify runtime handle =>
    if ok then
      some ((s.use handle).setPc t (.notifyCall runtime handle))
    else
      some (((s.use handle).unlockRead runtime).setPc t .idle)
  | .querying (.snapshot rest) runtime handle =>
    some (((s.use handle).unlockRead runtime).setPc t (nextRead rest))
  | .notifyCall runtime handle => some ((s.use handle).setPc t (.notifyEnd runtime handle))
  | .notifyEnd runtime handle => some (((s.use handle).unlockRead runtime).setPc t .idle)
  -- `close`
  | .joined =>
    if s.session.locked then
      none
    else if s.session.opened then
      some ((s.setSession { s.session with locked := true }).setPc t .closingSession)
    else
      some (s.setPc t .discarding)
  | .closingSession =>
    if s.disks.all (·.life = .destroyed) then
      some ((s.setSession { opened := false, locked := false }).setPc t .discarding)
    else
      none
  | .discarding => some (s.setPc t (.discard s.snapshotDiskRuntimes))
  | .discard (runtime :: rest) =>
    if s.unread runtime then some ((s.setHandle runtime none).setPc t (.discard rest)) else none
  | .discard [] => some (s.clearMap.setPc t .idle)

/-- The operations of a `BackendContext`. -/
inductive Op
  | create (targetId : Nat)
  | remove (call : RemoveCall) (targetId : Nat)
  | removeAll
  | notify (targetId : Nat)
  | snapshot
  | close
deriving DecidableEq, Repr

inductive Action
  /-- A thread calls an operation, and does its first section. -/
  | start (t : Nat) (op : Op)
  | next (t : Nat) (ok : Bool)
  /-- `AkClose` destroys a disk that is still registered. -/
  | destroy (t handle : Nat)
deriving DecidableEq, Repr

/-- The first section of an operation: most look at the session. -/
def start (s : BackendContext) (t : Nat) (op : Op) : Option BackendContext :=
  let opened (pc : BackendPc) : Option BackendContext :=
    if s.session.locked then none else some (s.setPc t (if s.session.opened then pc else .idle))
  match op with
  | .create targetId => opened (.creating targetId)
  | .remove call targetId => opened (.finding call targetId)
  | .notify targetId => opened (.notifying targetId)
  | .removeAll => some (s.setPc t (.listing false))
  | .close => some (s.setPc t (.listing true))
  | .snapshot => some (s.setPc t (nextRead s.snapshotDiskRuntimes))

def step (s : BackendContext) : Action → Option BackendContext
  | .start t op => if s.threads t = .idle then s.start t op else none
  | .next t ok => s.advance t ok
  | .destroy t handle =>
    if s.threads t = .closingSession ∧ s.lifeOf handle ≠ .destroyed then
      some (s.setLife handle .destroyed)
    else
      none

end BackendContext

end YumeDisk.Backend
