import Mathlib.Algebra.Group.Nat.Defs
import Mathlib.Data.List.Basic
import YumeDisk.Lib.Run

/-!
# The sessions of a storer (`session/manager.go`, `session/exclusive.go`, `session/service.go`)

* `ManagerState`: the records, under one mutex; `closeLocked` and `endIO` remove a record.
* `Service`: any number of `Read` and `Write` calls, each with the lease that `beginIO` gave it,
  between calls of `Open`, `Close` and `CloseConnection`.

`opened` and `marked` are the ids that `Open` has returned, and those that a close has found.
-/

namespace YumeDisk.Server.StorerSession

open YumeDisk.Lib

inductive SessionError where
  | unavailable
  | openRejected
  | ioLimit
  | outOfRange
  | readOnly
deriving DecidableEq, Repr

def maxDataPlaneRawBytes : Nat := 60 * 1024

structure Metadata where
  diskSizeBytes : UInt64
  readOnly : Bool
  backendID : Vector UInt8 16 := .replicate 16 0
deriving DecidableEq, Repr

structure Record where
  id : UInt64 := 0
  connection : UInt64
  closing : Bool := false
  metadata : Metadata
deriving DecidableEq, Repr

structure ManagedRecord where
  record : Record
  inFlight : UInt32 := 0
deriving DecidableEq, Repr

/-! ## The manager -/

/-- `managerState`; each item is under the id of its record. -/
structure ManagerState where
  nextID : UInt64 := 0
  items : List ManagedRecord := []
deriving DecidableEq, Repr

namespace ManagerState

def find (m : ManagerState) (id : UInt64) : Option ManagedRecord :=
  m.items.find? (·.record.id = id)

def delete (m : ManagerState) (id : UInt64) : ManagerState :=
  { m with items := m.items.filter (·.record.id ≠ id) }

def put (m : ManagerState) (entry : ManagedRecord) : ManagerState :=
  { m with items := entry :: (m.delete entry.record.id).items }

def nextSessionIDLocked (m : ManagerState) : UInt64 :=
  if m.nextID + 1 = 0 then m.nextID + 2 else m.nextID + 1

def storeLocked (m : ManagerState) (record : Record) : ManagerState × Record :=
  let id := m.nextSessionIDLocked
  let record := { record with id, closing := false }
  ({ m with nextID := id }.put { record }, record)

/-- `exclusiveManager.Open`. -/
def openExclusive (m : ManagerState) (record : Record) :
    Except SessionError (ManagerState × Record) :=
  if m.items.length > 0 then
    throw .openRejected
  else
    return m.storeLocked record

def closeLocked (m : ManagerState) (sessionID : UInt64) : ManagerState :=
  match m.find sessionID with
  | none => m
  | some entry =>
    if entry.inFlight = 0 then
      m.delete sessionID
    else
      m.put { entry with record := { entry.record with closing := true } }

def closeConnection (m : ManagerState) (connectionID : UInt64) : ManagerState :=
  (m.items.filter (·.record.connection = connectionID)).foldl
    (fun m entry => m.closeLocked entry.record.id) m

def beginIO (m : ManagerState) (sessionID : UInt64) :
    Except SessionError (ManagerState × Record) :=
  match m.find sessionID with
  | none => throw .unavailable
  | some entry =>
    if entry.record.closing then
      throw .unavailable
    else
      return (m.put { entry with inFlight := entry.inFlight + 1 }, entry.record)

def endIO (m : ManagerState) (sessionID : UInt64) : ManagerState :=
  match m.find sessionID with
  | none => m
  | some entry =>
    let entry := if entry.inFlight > 0 then { entry with inFlight := entry.inFlight - 1 } else entry
    if entry.record.closing ∧ entry.inFlight = 0 then
      m.delete sessionID
    else
      m.put entry

end ManagerState

/-! ## The service -/

inductive IoStage where
  | begun
  | accessing
  | finished (result : Except SessionError Unit)
deriving DecidableEq

/-- A call of `Read` or `Write` that `beginIO` has let in, with its `ioLease`. -/
structure Io where
  record : Record
  write : Bool
  offset : Nat
  length : Nat
  stage : IoStage := .begun
  released : Bool := false
deriving DecidableEq

/-- The checks before the storage is accessed. -/
def Io.check (io : Io) : Except SessionError Unit :=
  -- the length of a write is an `int`, cut to 32 bits for the limit
  let limited := if io.write then io.length % 2 ^ 32 else io.length
  if io.write ∧ io.record.metadata.readOnly then
    throw .readOnly
  else if io.length = 0 ∨ limited > maxDataPlaneRawBytes then
    throw .ioLimit
  else if io.offset > io.record.metadata.diskSizeBytes.toNat ∨
      io.length > io.record.metadata.diskSizeBytes.toNat - io.offset then
    throw .outOfRange
  else
    return ()

structure Service where
  manager : ManagerState := {}
  ios : List Io := []
  opened : List UInt64 := []
  marked : List UInt64 := []
deriving DecidableEq

inductive Action where
  | open (connection : UInt64) (metadata : Metadata)
  | close (sessionID : UInt64)
  | closeConnection (connection : UInt64)
  | begin (sessionID : UInt64) (write : Bool) (offset length : Nat)
  /-- The checks of `Read` and `Write`; `ReadAt` or `WriteAt` is called if they pass. -/
  | access (io : Nat)
  /-- `ReadAt` or `WriteAt` returns. -/
  | accessed (io : Nat)
  /-- `ioLease.release`. -/
  | release (io : Nat)
deriving DecidableEq, Repr

namespace Service

/-- The ids of the records that a close is for. -/
def closes (s : Service) (p : Record → Bool) : List UInt64 :=
  (s.manager.items.filter fun entry => p entry.record).map (·.record.id)

def step (s : Service) : Action → Option Service
  | .open connection metadata =>
    match s.manager.openExclusive { connection, metadata } with
    | .ok (manager, record) => some { s with manager, opened := s.opened ++ [record.id] }
    | .error _ => some s
  | .close sessionID =>
    some { s with
      manager := s.manager.closeLocked sessionID
      marked := s.marked ++ s.closes (·.id = sessionID) }
  | .closeConnection connection =>
    some { s with
      manager := s.manager.closeConnection connection
      marked := s.marked ++ s.closes (·.connection = connection) }
  | .begin sessionID write offset length =>
    match s.manager.beginIO sessionID with
    | .ok (manager, record) =>
      some { s with manager, ios := s.ios ++ [{ record, write, offset, length }] }
    | .error _ => some s
  | .access k =>
    s.ios[k]?.bind fun io =>
      if io.stage = .begun ∧ !io.released then
        match io.check with
        | .ok () => some { s with ios := s.ios.set k { io with stage := .accessing } }
        | .error e => some { s with ios := s.ios.set k { io with stage := .finished (.error e) } }
      else
        none
  | .accessed k =>
    s.ios[k]?.bind fun io =>
      if io.stage = .accessing then
        some { s with ios := s.ios.set k { io with stage := .finished (.ok ()) } }
      else
        none
  | .release k =>
    s.ios[k]?.bind fun io =>
      if io.stage = .accessing then
        none
      else if io.released then
        -- `sync.Once`
        some s
      else
        some { s with
          manager := s.manager.endIO io.record.id
          ios := s.ios.set k { io with released := true } }

/-- The I/Os of a session that hold their lease. -/
def outstanding (s : Service) (sessionID : UInt64) : Nat :=
  s.ios.countP fun io => io.record.id = sessionID ∧ !io.released

end Service

end YumeDisk.Server.StorerSession
