import Mathlib.Logic.Function.Basic
import YumeDisk.Server.DataBodies

/-!
# Whole mode and remote mode (`storer/gateway/local_adapter.go`, `storer/gateway/link`,
`gateway/storer/data_plane.go`)

* `Service`: the sessions of one export over its file; a `Read` or a `Write` from `beginIO` to the
  release of the lease.
* `LocalAdapter.roundTrip`: the gateway and its exports in one process.
* `DataPlaneHandler.handlePayload`: the storer's side of a link, on an encoded payload.
* `DataPlane.roundTrip`: the gateway's side; the request and the response cross the link as frames.

The file and the zstd package are parameters.  A nil body is an empty one.

`DataPlane.roundTrip_whole`: the two modes leave the same services, and answer the same when the
request fits a frame.
-/

namespace YumeDisk.Server.WholeMode

open YumeDisk.Lib
open StorerSession (Io ManagerState Metadata maxDataPlaneRawBytes)

/-! ## The file (`storage/file/backend.go`) -/

inductive FileError where
  | eof
  | other (code : Nat)
deriving DecidableEq, Repr

/-- `fileHandle`, with what it is over. -/
structure FileHandle (F : Type) where
  /-- The bytes that were read. -/
  readAt : F → Int → Nat → F × Bytes × Option FileError
  /-- How many bytes were written. -/
  writeAt : F → Int → Bytes → F × Nat × Option FileError

inductive StorageError where
  | readOnly
  | outOfRange
  | ioFailed
  /-- An error of the file, wrapped. -/
  | raw (e : FileError)
deriving DecidableEq, Repr

/-- `Backend`; `file` is nil when it is closed. -/
structure Backend (F : Type) where
  file : Option F
  readOnly : Bool
  size : Nat

variable {F : Type}

namespace Backend

def checkRange (b : Backend F) (offset length : Nat) : Except StorageError Unit :=
  if length = 0 then
    return ()
  else if offset > b.size then
    throw .outOfRange
  else if length > b.size - offset then
    throw .outOfRange
  else
    return ()

def readAt (handle : FileHandle F) (b : Backend F) (offset length : Nat) :
    Except StorageError Bytes × Backend F :=
  if length = 0 then
    (.ok [], b)
  else
    match b.checkRange offset length, b.file with
    | .error e, _ => (.error e, b)
    | .ok (), none => (.error .ioFailed, b)
    | .ok (), some file =>
      let (file, data, err) := handle.readAt file (toInt64 offset) length
      let b := { b with file := some file }
      match err with
      | some (.other code) => (.error (.raw (.other code)), b)
      -- the end of the file is no error by itself
      | some .eof | none => if data.length ≠ length then (.error .ioFailed, b) else (.ok data, b)

def writeAt (handle : FileHandle F) (b : Backend F) (offset : Nat) (src : Bytes) :
    Except StorageError Unit × Backend F :=
  if src.length = 0 then
    (.ok (), b)
  else if b.readOnly then
    (.error .readOnly, b)
  else
    match b.checkRange offset src.length, b.file with
    | .error e, _ => (.error e, b)
    | .ok (), none => (.error .ioFailed, b)
    | .ok (), some file =>
      let (file, n, err) := handle.writeAt file (toInt64 offset) src
      let b := { b with file := some file }
      match err with
      | some e => (.error (.raw e), b)
      | none => if n ≠ src.length then (.error .ioFailed, b) else (.ok (), b)

theorem length_readAt {handle : FileHandle F} {b b' : Backend F} {offset length : Nat}
    {data : Bytes} (h : b.readAt handle offset length = (.ok data, b')) :
    data.length = length := by
  unfold readAt at h
  split_ifs at h with hzero
  · cases h
    exact hzero.symm
  · cases hrange : b.checkRange offset length with
    | error e => rw [hrange] at h; cases h
    | ok =>
      cases hfile : b.file with
      | none => rw [hrange, hfile] at h; cases h
      | some file =>
        rcases hread : handle.readAt file (toInt64 offset) length with ⟨file', read, err⟩
        simp only [hrange, hfile, hread] at h
        cases err with
        | none =>
          dsimp only at h
          split_ifs at h with hlen
          · cases h
          · cases h
            exact not_not.mp hlen
        | some e =>
          cases e with
          | other code => cases h
          | eof =>
            dsimp only at h
            split_ifs at h with hlen
            · cases h
            · cases h
              exact not_not.mp hlen

end Backend

/-! ## The service (`session/service.go`) -/

inductive ServiceError where
  | session (e : StorerSession.SessionError)
  | ioFailed
  /-- A storage error, wrapped. -/
  | storage (e : StorageError)
deriving DecidableEq, Repr

def mapStorageError : StorageError → ServiceError
  | .readOnly => .session .readOnly
  | .outOfRange => .session .outOfRange
  | .ioFailed => .ioFailed
  | e => .storage e

/-- `Service`, with the records that `writeCommittedHook` was called with. -/
structure Service (F : Type) where
  exclusive : Bool
  manager : ManagerState := {}
  storage : Backend F
  metadata : Metadata
  hooked : Bool := true
  committed : List StorerSession.Record := []

namespace Service

/-- `Open` of the manager, which is exclusive or shared. -/
def openSession (s : Service F) (connectionID : UInt64) :
    Except StorerSession.SessionError StorerSession.Record × Service F :=
  let record : StorerSession.Record := { connection := connectionID, metadata := s.metadata }
  if s.exclusive then
    match s.manager.openExclusive record with
    | .error e => (.error e, s)
    | .ok (manager, record) => (.ok record, { s with manager })
  else
    let (manager, record) := s.manager.storeLocked record
    (.ok record, { s with manager })

def close (s : Service F) (sessionID : UInt64) : Service F :=
  { s with manager := s.manager.closeLocked sessionID }

def describe (s : Service F) (sessionID : UInt64) : Except ServiceError Metadata :=
  match s.manager.find sessionID with
  | none => throw (.session .unavailable)
  | some entry =>
    if entry.record.closing then throw (.session .unavailable) else return entry.record.metadata

def read (handle : FileHandle F) (s : Service F) (sessionID : UInt64) (offset length : Nat) :
    Except ServiceError Bytes × Service F :=
  match s.manager.beginIO sessionID with
  | .error e => (.error (.session e), s)
  | .ok (manager, record) =>
    let io : Io := { record, write := false, offset, length }
    match io.check with
    | .error e => (.error (.session e), { s with manager := manager.endIO sessionID })
    | .ok () =>
      let (result, storage) := s.storage.readAt handle offset length
      (result.mapError mapStorageError, { s with manager := manager.endIO sessionID, storage })

def write (handle : FileHandle F) (s : Service F) (sessionID : UInt64) (offset : Nat)
    (data : Bytes) : Except ServiceError Unit × Service F :=
  match s.manager.beginIO sessionID with
  | .error e => (.error (.session e), s)
  | .ok (manager, record) =>
    let io : Io := { record, write := true, offset, length := data.length }
    match io.check with
    | .error e => (.error (.session e), { s with manager := manager.endIO sessionID })
    | .ok () =>
      let (result, storage) := s.storage.writeAt handle offset data
      let s := { s with manager := manager.endIO sessionID, storage }
      match result with
      | .error e => (.error (mapStorageError e), s)
      | .ok () => (.ok (), if s.hooked then { s with committed := s.committed ++ [record] } else s)

/-- A read returns at most what the data plane carries. -/
theorem length_read {handle : FileHandle F} {s s' : Service F} {sessionID : UInt64}
    {offset length : Nat} {data : Bytes}
    (h : s.read handle sessionID offset length = (.ok data, s')) :
    data.length ≤ maxDataPlaneRawBytes := by
  unfold read at h
  cases hbegin : s.manager.beginIO sessionID with
  | error e => rw [hbegin] at h; cases h
  | ok r =>
    obtain ⟨manager, record⟩ := r
    rw [hbegin] at h
    dsimp only at h
    cases hcheck : Io.check { record, write := false, offset, length } with
    | error e => rw [hcheck] at h; cases h
    | ok =>
      have hmax : length ≤ maxDataPlaneRawBytes := by
        by_contra hlt
        have hthrow : Io.check { record, write := false, offset, length } = .error .ioLimit :=
          if_pos (.inr (not_le.mp hlt))
        rw [hthrow] at hcheck
        cases hcheck
      rw [hcheck] at h
      rcases hread : s.storage.readAt handle offset length with ⟨result, storage⟩
      rw [hread] at h
      cases result with
      | error e => cases h
      | ok data' =>
        cases h
        rw [Backend.length_readAt hread]
        exact hmax

end Service

/-! ## Whole mode -/

/-- `mapSessionErrorStatus`. -/
def mapSessionErrorStatus : ServiceError → Nat
  | .session .unavailable => statusSessionUnavailable
  | .session .openRejected => statusSessionOpenRejected
  | .session .readOnly => statusIOReadOnly
  | .session .ioLimit => statusIOLarge
  | .session .outOfRange => statusIOOutOfRange
  | .ioFailed => statusIOFailed
  | .storage _ => statusIOFailed

/-- The status and the body of a response. -/
abbrev Reply := Nat × Bytes

structure LocalAdapter (F : Type) where
  exportsByRoute : UInt64 → Option (Service F)

namespace LocalAdapter

variable (zstd : Zstd) (handle : FileHandle F)

/-- What `RoundTrip` does with the service of the export. -/
def serve (s : Service F) (sessionID : UInt64) (opCode : UInt8) (body : Bytes) :
    Reply × Service F :=
  if opCode = opSessionDescribe then
    if sessionID = 0 then
      ((statusBadHeader, []), s)
    else if body.length ≠ 0 then
      ((statusBadBody, []), s)
    else
      match s.describe sessionID with
      | .error e => ((mapSessionErrorStatus e, []), s)
      | .ok metadata =>
        ((statusOK, buildSessionDescribeResponseBody metadata.diskSizeBytes.toNat
          metadata.readOnly metadata.backendID), s)
  else if opCode = opReadAt then
    if sessionID = 0 then
      ((statusBadHeader, []), s)
    else
      match parseReadBody body with
      | none => ((statusBadBody, []), s)
      | some (offset, length) =>
        match s.read handle sessionID offset length with
        | (.error e, s) => ((mapSessionErrorStatus e, []), s)
        | (.ok data, s) => ((statusOK, buildReadResponseBody zstd data), s)
  else if opCode = opWriteAt then
    if sessionID = 0 then
      ((statusBadHeader, []), s)
    else
      match parseReadWriteBody zstd body with
      | none => ((statusBadBody, []), s)
      | some (offset, _, data) =>
        match s.write handle sessionID offset data with
        | (.error e, s) => ((mapSessionErrorStatus e, []), s)
        | (.ok (), s) => ((statusOK, []), s)
  else
    ((statusUnsupportedOp, []), s)

/-- `LocalAdapter.RoundTrip`. -/
def roundTrip (b : LocalAdapter F) (routeConnectionID sessionID : UInt64) (opCode : UInt8)
    (body : Bytes) : Reply × LocalAdapter F :=
  match b.exportsByRoute routeConnectionID with
  | none => ((statusSessionUnavailable, []), b)
  | some s =>
    let (reply, s) := serve zstd handle s sessionID opCode body
    (reply, ⟨Function.update b.exportsByRoute routeConnectionID (some s)⟩)

end LocalAdapter

/-! ## The storer's side of a link -/

/-- What ends the loop of a link. -/
inductive HandlerError where
  | parseHeader
  | validateNotice
  | unsupportedNotice (opCode : UInt8)
  | closeNoticeSession
  | closeNoticeBody
deriving DecidableEq, Repr

/-- `dataPlaneHandler`; `marks` counts the calls of `watchdog.Mark`. -/
structure DataPlaneHandler (F : Type) where
  connectionID : UInt64
  sessions : Service F
  marks : Nat := 0

namespace DataPlaneHandler

def mapSessionError (header : Header) : ServiceError → Bytes
  | .session .unavailable => buildErrorResponse header statusSessionUnavailable
  | .session .openRejected => buildErrorResponse header statusSessionOpenRejected
  | .session .readOnly => buildErrorResponse header statusIOReadOnly
  | .session .ioLimit => buildErrorResponse header statusIOLarge
  | .session .outOfRange => buildErrorResponse header statusIOOutOfRange
  | .ioFailed => buildErrorResponse header statusIOFailed
  | .storage _ => buildErrorResponse header statusIOFailed

def handleSessionOpen (h : DataPlaneHandler F) (header : Header) (body : Bytes) :
    Bytes × DataPlaneHandler F :=
  if header.sessionID ≠ 0 then
    (buildErrorResponse header statusBadHeader, h)
  else if body.length ≠ 0 then
    (buildErrorResponse header statusBadBody, h)
  else
    match h.sessions.openSession h.connectionID with
    | (.error e, sessions) => (mapSessionError header (.session e), { h with sessions })
    | (.ok desc, sessions) =>
      (buildResponseWithSessionID header statusOK desc.id.toNat [], { h with sessions })

def handleSessionDescribe (h : DataPlaneHandler F) (header : Header) (body : Bytes) : Bytes :=
  if header.sessionID = 0 then
    buildErrorResponse header statusBadHeader
  else if body.length ≠ 0 then
    buildErrorResponse header statusBadBody
  else
    match h.sessions.describe (.ofNat header.sessionID) with
    | .error e => mapSessionError header e
    | .ok metadata =>
      buildSuccessResponse header (buildSessionDescribeResponseBody metadata.diskSizeBytes.toNat
        metadata.readOnly metadata.backendID)

def handleLinkHeartbeat (h : DataPlaneHandler F) (header : Header) (body : Bytes) :
    Bytes × DataPlaneHandler F :=
  if header.sessionID ≠ 0 then
    (buildErrorResponse header statusBadHeader, h)
  else if body.length ≠ 8 then
    (buildErrorResponse header statusBadBody, h)
  else
    (buildSuccessResponse header (putUint64 (uint64 body)), { h with marks := h.marks + 1 })

def handleSessionCloseNotice (h : DataPlaneHandler F) (header : Header) (body : Bytes) :
    Except HandlerError (DataPlaneHandler F) :=
  if header.sessionID = 0 then
    throw .closeNoticeSession
  else if body.length ≠ 2 then
    throw .closeNoticeBody
  else
    return { h with sessions := h.sessions.close (.ofNat header.sessionID) }

variable (zstd : Zstd) (handle : FileHandle F)

def handleRead (h : DataPlaneHandler F) (header : Header) (body : Bytes) :
    Bytes × DataPlaneHandler F :=
  if header.sessionID = 0 then
    (buildErrorResponse header statusBadHeader, h)
  else
    match parseReadBody body with
    | none => (buildErrorResponse header statusBadBody, h)
    | some (offset, length) =>
      match h.sessions.read handle (.ofNat header.sessionID) offset length with
      | (.error e, sessions) => (mapSessionError header e, { h with sessions })
      | (.ok data, sessions) =>
        (buildSuccessResponse header (buildReadResponseBody zstd data), { h with sessions })

def handleWrite (h : DataPlaneHandler F) (header : Header) (body : Bytes) :
    Bytes × DataPlaneHandler F :=
  if header.sessionID = 0 then
    (buildErrorResponse header statusBadHeader, h)
  else
    match parseReadWriteBody zstd body with
    | none => (buildErrorResponse header statusBadBody, h)
    | some (offset, _, data) =>
      match h.sessions.write handle (.ofNat header.sessionID) offset data with
      | (.error e, sessions) => (mapSessionError header e, { h with sessions })
      | (.ok (), sessions) => (buildSuccessResponse header [], { h with sessions })

/-- `HandlePayload`; `.ok none` is a payload that has no response. -/
def handlePayload (h : DataPlaneHandler F) (payload : Bytes) :
    Except HandlerError (Option Bytes) × DataPlaneHandler F :=
  match parseHeader payload with
  | none => (.error .parseHeader, h)
  | some header =>
    let body := payload.drop headerSize
    let respond := fun (r : Bytes × DataPlaneHandler F) =>
      ((.ok (some r.1) : Except HandlerError (Option Bytes)), r.2)
    if header.flags = flagNotice then
      if !validateNoticeHeader header then
        (.error .validateNotice, h)
      else if header.opCode = opSessionCloseNotice then
        match h.handleSessionCloseNotice header body with
        | .error e => (.error e, h)
        | .ok h => (.ok none, h)
      else
        (.error (.unsupportedNotice header.opCode), h)
    else if !validateRequestHeader header then
      respond (buildErrorResponse header statusBadHeader, h)
    else if header.opCode = opSessionOpen then
      respond (h.handleSessionOpen header body)
    else if header.opCode = opSessionDescribe then
      respond (h.handleSessionDescribe header body, h)
    else if header.opCode = opLinkHeartbeat then
      respond (h.handleLinkHeartbeat header body)
    else if header.opCode = opReadAt then
      respond (h.handleRead zstd handle header body)
    else if header.opCode = opWriteAt then
      respond (h.handleWrite zstd handle header body)
    else
      respond (buildErrorResponse header statusUnsupportedOp, h)

end DataPlaneHandler

/-! ## The gateway's side -/

inductive LinkError where
  | badHeader
  | writeError
  | closed
  /-- No response to the request has come. -/
  | unanswered
deriving DecidableEq, Repr

/-- A payload that `WriteFrame` writes, as `ReadFrameInto` reads it at the other end. -/
def carry (payload : Bytes) : Option Bytes :=
  if PayloadInRange payload then
    match readFrame maxPayloadSize [frame payload] with
    | .error _ => none
    | .ok (payload, _) => some payload
  else
    none

/-- A `connection` and the handler that is at its other end. -/
structure Link (F : Type) where
  nextRequestID : UInt64 := 0
  peer : DataPlaneHandler F

/-- The ids of a `connection`, as the atomic counter leaves them. -/
def nextNonZeroRequestID (n : UInt64) : UInt64 := if n + 1 = 0 then n + 2 else n + 1

namespace Link

variable (zstd : Zstd) (handle : FileHandle F)

/-- The response that `serveFrames` hands to the caller with that request id. -/
def deliver (requestID : UInt64) (response : Bytes) : Except LinkError Bytes :=
  match parseHeader response with
  | none => throw .closed
  | some header =>
    if header.flags &&& flagResponse ≠ 0 ∧ header.requestID = requestID.toNat then
      return response
    else
      throw .unanswered

/-- `connection.roundTrip`, with the storer's `transport.Runtime` at the other end. -/
def roundTrip (l : Link F) (payload : Bytes) : Except LinkError Bytes × Link F :=
  match parseHeader payload with
  | none => (.error .badHeader, l)
  | some header =>
    let requestID := nextNonZeroRequestID l.nextRequestID
    let l := { l with nextRequestID := requestID }
    let request :=
      encodeHeader { header with requestID := requestID.toNat } ++ payload.drop headerSize
    match carry request with
    | none => (.error .writeError, l)
    | some request =>
      match l.peer.handlePayload zstd handle request with
      | (.error _, peer) => (.error .closed, { l with peer })
      | (.ok none, peer) => (.error .unanswered, { l with peer })
      | (.ok (some response), peer) =>
        match carry response with
        | none => (.error .closed, { l with peer })
        | some response => (deliver requestID response, { l with peer })

end Link

/-- `dataPlane`, with the storers that its links lead to. -/
structure DataPlane (F : Type) where
  links : UInt64 → Option (Link F)

namespace DataPlane

variable (zstd : Zstd) (handle : FileHandle F)

/-- What `RoundTrip` makes of a response. -/
def reply (opCode : UInt8) : Except LinkError Bytes → Reply
  | .error _ => (statusSessionUnavailable, [])
  | .ok resp =>
    match parseHeader resp with
    | none => (statusSessionUnavailable, [])
    | some header =>
      if !validateResponseHeader header then
        (statusSessionUnavailable, [])
      else if header.opCode ≠ opCode then
        (statusSessionUnavailable, [])
      else
        (header.statusCode, resp.drop headerSize)

/-- `dataPlane.RoundTrip`. -/
def roundTrip (p : DataPlane F) (routeConnectionID sessionID : UInt64) (opCode : UInt8)
    (body : Bytes) : Reply × DataPlane F :=
  match p.links routeConnectionID with
  | none => ((statusSessionUnavailable, []), p)
  | some link =>
    let request := encodeHeader { opCode, requestID := 1, sessionID := sessionID.toNat } ++ body
    let (resp, link) := link.roundTrip zstd handle request
    (reply opCode resp, ⟨Function.update p.links routeConnectionID (some link)⟩)

/-- The same services in one process with the gateway. -/
def whole (p : DataPlane F) : LocalAdapter F := ⟨fun r => (p.links r).map (·.peer.sessions)⟩

end DataPlane

/-! ## The two paths -/

/-- The operations on an open session. -/
inductive DataOp where
  | describe
  | readAt
  | writeAt
deriving DecidableEq, Repr

def DataOp.code : DataOp → UInt8
  | .describe => opSessionDescribe
  | .readAt => opReadAt
  | .writeAt => opWriteAt

/-- The longest body that fits a frame with its header. -/
def maxBodySize : Nat := maxPayloadSize - headerSize

theorem toNat_eq_zero {n : UInt64} : n.toNat = 0 ↔ n = 0 :=
  ⟨fun h => UInt64.toNat_inj.mp h, fun h => by rw [h]; rfl⟩

/-- **The two tables of statuses agree**. -/
theorem mapSessionError_eq (header : Header) (e : ServiceError) :
    DataPlaneHandler.mapSessionError header e =
      buildErrorResponse header (mapSessionErrorStatus e) := by
  cases e with
  | session e => cases e <;> rfl
  | ioFailed => rfl
  | storage e => rfl

namespace LocalAdapter

variable {zstd : Zstd} {handle : FileHandle F} (s : Service F) (sessionID : UInt64)

theorem serve_describe (body : Bytes) :
    serve zstd handle s sessionID opSessionDescribe body =
      if sessionID = 0 then
        ((statusBadHeader, []), s)
      else if body.length ≠ 0 then
        ((statusBadBody, []), s)
      else
        match s.describe sessionID with
        | .error e => ((mapSessionErrorStatus e, []), s)
        | .ok metadata =>
          ((statusOK, buildSessionDescribeResponseBody metadata.diskSizeBytes.toNat
            metadata.readOnly metadata.backendID), s) := rfl

theorem serve_readAt (body : Bytes) :
    serve zstd handle s sessionID opReadAt body =
      if sessionID = 0 then
        ((statusBadHeader, []), s)
      else
        match parseReadBody body with
        | none => ((statusBadBody, []), s)
        | some (offset, length) =>
          match s.read handle sessionID offset length with
          | (.error e, s) => ((mapSessionErrorStatus e, []), s)
          | (.ok data, s) => ((statusOK, buildReadResponseBody zstd data), s) := rfl

theorem serve_writeAt (body : Bytes) :
    serve zstd handle s sessionID opWriteAt body =
      if sessionID = 0 then
        ((statusBadHeader, []), s)
      else
        match parseReadWriteBody zstd body with
        | none => ((statusBadBody, []), s)
        | some (offset, _, data) =>
          match s.write handle sessionID offset data with
          | (.error e, s) => ((mapSessionErrorStatus e, []), s)
          | (.ok (), s) => ((statusOK, []), s) := rfl

/-- The statuses, and the bodies they come with. -/
def Proper (r : Reply) : Prop := r.1 < 2 ^ 16 ∧ r.2.length ≤ maxDataPlaneRawBytes + 1

theorem proper_error (e : ServiceError) : Proper (mapSessionErrorStatus e, []) := by
  refine ⟨?_, Nat.zero_le _⟩
  cases e with
  | session e => cases e <;> decide
  | ioFailed => decide
  | storage e => exact (by decide : statusIOFailed < 2 ^ 16)

theorem statusOK_lt : statusOK < 2 ^ 16 := by decide

theorem proper_status {status : Nat} (h : status < 2 ^ 16) : Proper (status, []) :=
  ⟨h, Nat.zero_le _⟩

/-- Every reply fits its header and a frame. -/
theorem proper_serve (op : DataOp) (body : Bytes) :
    Proper (serve zstd handle s sessionID op.code body).1 := by
  cases op with
  | describe =>
    rw [DataOp.code, serve_describe]
    split_ifs with hid hbody
    · exact proper_status (by decide)
    · exact proper_status (by decide)
    · cases s.describe sessionID with
      | error e => exact proper_error e
      | ok metadata =>
        refine ⟨statusOK_lt, ?_⟩
        show (buildSessionDescribeResponseBody _ _ _).length ≤ 60 * 1024 + 1
        rw [length_buildSessionDescribeResponseBody]
        omega
  | readAt =>
    rw [DataOp.code, serve_readAt]
    split_ifs with hid
    · exact proper_status (by decide)
    · cases parseReadBody body with
      | none => exact proper_status (by decide)
      | some r =>
        obtain ⟨offset, length⟩ := r
        rcases hread : s.read handle sessionID offset length with ⟨result, s'⟩
        dsimp only
        rw [hread]
        cases result with
        | error e => exact proper_error e
        | ok data =>
          exact ⟨statusOK_lt, length_buildReadResponseBody zstd (Service.length_read hread)⟩
  | writeAt =>
    rw [DataOp.code, serve_writeAt]
    split_ifs with hid
    · exact proper_status (by decide)
    · cases parseReadWriteBody zstd body with
      | none => exact proper_status (by decide)
      | some r =>
        obtain ⟨offset, length, data⟩ := r
        rcases hwrite : s.write handle sessionID offset data with ⟨result, s'⟩
        dsimp only
        rw [hwrite]
        cases result with
        | error e => exact proper_error e
        | ok => exact proper_status (by decide)

/-- **A body that fits no frame** is refused, and nothing is done. -/
theorem serve_long (op : DataOp) {body : Bytes} (h : maxBodySize < body.length) :
    ∃ status, serve zstd handle s sessionID op.code body = ((status, []), s) ∧
      status ≠ statusSessionUnavailable := by
  have hlong : 65512 < body.length := h
  by_cases hid : sessionID = 0
  · refine ⟨statusBadHeader, ?_, by decide⟩
    cases op with
    | describe => rw [DataOp.code, serve_describe, if_pos hid]
    | readAt => rw [DataOp.code, serve_readAt, if_pos hid]
    | writeAt => rw [DataOp.code, serve_writeAt, if_pos hid]
  · refine ⟨statusBadBody, ?_, by decide⟩
    cases op with
    | describe => rw [DataOp.code, serve_describe, if_neg hid, if_pos (by omega)]
    | readAt =>
      have hparse : parseReadBody body = none := if_pos (show body.length ≠ 12 by omega)
      rw [DataOp.code, serve_readAt, if_neg hid, hparse]
    | writeAt =>
      have hparse : parseReadWriteBody zstd body = none := by
        cases hr : parseReadWriteBody zstd body with
        | none => rfl
        | some r =>
          have hmax : body.length ≤ 60 * 1024 + 13 := parseReadWriteBody_length hr
          omega
      rw [DataOp.code, serve_writeAt, if_neg hid, hparse]

theorem roundTrip_export {b : LocalAdapter F} {route : UInt64} {s : Service F}
    (h : b.exportsByRoute route = some s) (sessionID : UInt64) (opCode : UInt8) (body : Bytes) :
    b.roundTrip zstd handle route sessionID opCode body =
      ((serve zstd handle s sessionID opCode body).1, ⟨Function.update b.exportsByRoute route
        (some (serve zstd handle s sessionID opCode body).2)⟩) := by
  rw [roundTrip, h]

end LocalAdapter

namespace DataPlaneHandler

variable {zstd : Zstd} {handle : FileHandle F} (h : DataPlaneHandler F)
open LocalAdapter (serve)

theorem handleSessionDescribe_eq (header : Header) {sessionID : UInt64}
    (hid : header.sessionID = sessionID.toNat) (body : Bytes) :
    let r := serve zstd handle h.sessions sessionID opSessionDescribe body
    (h.handleSessionDescribe header body, h) =
      (buildResponse header r.1.1 r.1.2, { h with sessions := r.2 }) := by
  intro r
  have hr : r = serve zstd handle h.sessions sessionID opSessionDescribe body := rfl
  rw [LocalAdapter.serve_describe] at hr
  unfold handleSessionDescribe
  rw [hid, UInt64.ofNat_toNat]
  by_cases hzero : sessionID = 0
  · rw [if_pos hzero] at hr
    rw [hr, if_pos (toNat_eq_zero.mpr hzero)]
    rfl
  · rw [if_neg hzero] at hr
    rw [if_neg fun h => hzero (toNat_eq_zero.mp h)]
    by_cases hbody : body.length ≠ 0
    · rw [if_pos hbody] at hr
      rw [hr, if_pos hbody]
      rfl
    · rw [if_neg hbody] at hr
      rw [if_neg hbody]
      cases hd : h.sessions.describe sessionID with
      | error e =>
        rw [hd] at hr
        rw [hr]
        dsimp only
        rw [mapSessionError_eq]
        rfl
      | ok metadata =>
        rw [hd] at hr
        rw [hr]
        rfl

theorem handleRead_eq (header : Header) {sessionID : UInt64}
    (hid : header.sessionID = sessionID.toNat) (body : Bytes) :
    let r := serve zstd handle h.sessions sessionID opReadAt body
    h.handleRead zstd handle header body =
      (buildResponse header r.1.1 r.1.2, { h with sessions := r.2 }) := by
  intro r
  have hr : r = serve zstd handle h.sessions sessionID opReadAt body := rfl
  rw [LocalAdapter.serve_readAt] at hr
  unfold handleRead
  rw [hid, UInt64.ofNat_toNat]
  by_cases hzero : sessionID = 0
  · rw [if_pos hzero] at hr
    rw [hr, if_pos (toNat_eq_zero.mpr hzero)]
    rfl
  · rw [if_neg hzero] at hr
    rw [if_neg fun h => hzero (toNat_eq_zero.mp h)]
    cases hparse : parseReadBody body with
    | none =>
      rw [hparse] at hr
      rw [hr]
      rfl
    | some p =>
      obtain ⟨offset, length⟩ := p
      rcases hread : h.sessions.read handle sessionID offset length with ⟨result, s'⟩
      simp only [hparse, hread] at hr
      dsimp only
      rw [hread]
      cases result with
      | error e =>
        rw [hr]
        dsimp only
        rw [mapSessionError_eq]
        rfl
      | ok data =>
        rw [hr]
        rfl

theorem handleWrite_eq (header : Header) {sessionID : UInt64}
    (hid : header.sessionID = sessionID.toNat) (body : Bytes) :
    let r := serve zstd handle h.sessions sessionID opWriteAt body
    h.handleWrite zstd handle header body =
      (buildResponse header r.1.1 r.1.2, { h with sessions := r.2 }) := by
  intro r
  have hr : r = serve zstd handle h.sessions sessionID opWriteAt body := rfl
  rw [LocalAdapter.serve_writeAt] at hr
  unfold handleWrite
  rw [hid, UInt64.ofNat_toNat]
  by_cases hzero : sessionID = 0
  · rw [if_pos hzero] at hr
    rw [hr, if_pos (toNat_eq_zero.mpr hzero)]
    rfl
  · rw [if_neg hzero] at hr
    rw [if_neg fun h => hzero (toNat_eq_zero.mp h)]
    cases hparse : parseReadWriteBody zstd body with
    | none =>
      rw [hparse] at hr
      rw [hr]
      rfl
    | some p =>
      obtain ⟨offset, length, data⟩ := p
      rcases hwrite : h.sessions.write handle sessionID offset data with ⟨result, s'⟩
      simp only [hparse, hwrite] at hr
      dsimp only
      rw [hwrite]
      cases result with
      | error e =>
        rw [hr]
        dsimp only
        rw [mapSessionError_eq]
        rfl
      | ok =>
        rw [hr]
        rfl

/-- **The handler answers a request** as the service is used in one process. -/
theorem handlePayload_request (op : DataOp) {header : Header} {sessionID : UInt64}
    (hf : header.Fits) (hop : header.opCode = op.code) (hid : header.sessionID = sessionID.toNat)
    (hvalid : validateRequestHeader header = true) (body : Bytes) :
    let r := serve zstd handle h.sessions sessionID op.code body
    h.handlePayload zstd handle (encodeHeader header ++ body) =
      (.ok (some (buildResponse header r.1.1 r.1.2)), { h with sessions := r.2 }) := by
  intro r
  have hflags : header.flags ≠ flagNotice := by
    intro hflags
    simp [validateRequestHeader, hflags, flagNotice] at hvalid
  have hbody : (encodeHeader header ++ body).drop headerSize = body :=
    List.drop_left' (length_encodeHeader header)
  unfold handlePayload
  rw [parseHeader_encodeHeader hf, hbody]
  dsimp only
  rw [if_neg hflags, hvalid, hop]
  cases op with
  | describe =>
    have heq := @handleSessionDescribe_eq F zstd handle h header sessionID hid body
    exact congrArg (fun x => (Except.ok (some x.1), x.2)) heq
  | readAt =>
    exact congrArg (fun x => (Except.ok (some x.1), x.2)) (h.handleRead_eq header hid body)
  | writeAt =>
    exact congrArg (fun x => (Except.ok (some x.1), x.2)) (h.handleWrite_eq header hid body)

end DataPlaneHandler

/-! ## Frames -/

theorem carry_eq {payload : Bytes} (h : PayloadInRange payload) : carry payload = some payload := by
  have hwhole : Whole [frame payload] := by
    rintro _ (_ | ⟨_, ⟨⟩⟩)
    exact List.cons_ne_nil _ _
  have hflatten : [frame payload].flatten = frame payload ++ [] := by simp
  obtain ⟨rest, hread, -⟩ := readFrame_frame h hwhole hflatten
  rw [carry, if_pos h, hread]

theorem nextNonZeroRequestID_ne (n : UInt64) : nextNonZeroRequestID n ≠ 0 := by
  unfold nextNonZeroRequestID
  by_cases h : n + 1 = 0
  · rw [if_pos h]
    intro h2
    have hone : n + 2 = (n + 1) + 1 := (UInt64.add_assoc n 1 1).symm
    rw [hone, h] at h2
    cases h2
  · rw [if_neg h]
    exact h

/-- The header of a request as it crosses the link. -/
def requestHeader (op : DataOp) (sessionID requestID : UInt64) : Header :=
  { opCode := op.code, requestID := requestID.toNat, sessionID := sessionID.toNat }

theorem requestHeader_fits (op : DataOp) (sessionID requestID : UInt64) :
    (requestHeader op sessionID requestID).Fits :=
  ⟨Nat.two_pow_pos 16, Nat.two_pow_pos 16, requestID.toNat_lt, sessionID.toNat_lt⟩

theorem requestHeader_valid (op : DataOp) (sessionID : UInt64) {requestID : UInt64}
    (h : requestID ≠ 0) : validateRequestHeader (requestHeader op sessionID requestID) = true := by
  have hne : requestID.toNat ≠ 0 := fun h0 => h (toNat_eq_zero.mp h0)
  simp [validateRequestHeader, validateCommonHeader, requestHeader, protocolVersion, flagResponse,
    flagNotice, hne]

/-- The header of the response to it. -/
def responseHeader (op : DataOp) (sessionID requestID : UInt64) (status : Nat) : Header :=
  { requestHeader op sessionID requestID with flags := flagResponse, statusCode := status }

theorem buildResponse_requestHeader (op : DataOp) (sessionID requestID : UInt64) (status : Nat)
    (body : Bytes) : buildResponse (requestHeader op sessionID requestID) status body =
      encodeHeader (responseHeader op sessionID requestID status) ++ body := rfl

theorem parse_response (op : DataOp) (sessionID requestID : UInt64) {r : Reply}
    (hr : LocalAdapter.Proper r) :
    parseHeader (buildResponse (requestHeader op sessionID requestID) r.1 r.2) =
      some (responseHeader op sessionID requestID r.1) :=
  parseHeader_encodeHeader ⟨hr.1, Nat.two_pow_pos 16, requestID.toNat_lt, sessionID.toNat_lt⟩ _

namespace Link

variable {zstd : Zstd} {handle : FileHandle F} (l : Link F)

/-- A request that fits a frame is answered. -/
theorem roundTrip_request (op : DataOp) (sessionID : UInt64) {body : Bytes}
    (hbody : body.length ≤ maxBodySize) :
    let requestID := nextNonZeroRequestID l.nextRequestID
    let r := LocalAdapter.serve zstd handle l.peer.sessions sessionID op.code body
    l.roundTrip zstd handle (encodeHeader (requestHeader op sessionID 1) ++ body) =
      (.ok (buildResponse (requestHeader op sessionID requestID) r.1.1 r.1.2),
        { nextRequestID := requestID, peer := { l.peer with sessions := r.2 } }) := by
  intro requestID r
  have hne : requestID ≠ 0 := nextNonZeroRequestID_ne l.nextRequestID
  have hproper : LocalAdapter.Proper r.1 := LocalAdapter.proper_serve _ _ _ _
  have hdrop : (encodeHeader (requestHeader op sessionID 1) ++ body).drop headerSize = body :=
    List.drop_left' (length_encodeHeader _)
  have hrequest : PayloadInRange (encodeHeader (requestHeader op sessionID requestID) ++ body) := by
    have hmax : body.length ≤ 65512 := hbody
    simp only [PayloadInRange, List.length_append, length_encodeHeader, minPayloadSize,
      maxPayloadSize, headerSize]
    omega
  have hresponse : PayloadInRange (buildResponse (requestHeader op sessionID requestID) r.1.1
      r.1.2) := by
    have hmax : r.1.2.length ≤ 60 * 1024 + 1 := hproper.2
    simp only [buildResponse_requestHeader, PayloadInRange, List.length_append,
      length_encodeHeader, minPayloadSize, maxPayloadSize, headerSize]
    omega
  have hhandle := @DataPlaneHandler.handlePayload_request F zstd handle l.peer op _ sessionID
    (requestHeader_fits op sessionID requestID) rfl rfl (requestHeader_valid op sessionID hne) body
  have hdeliver : deliver requestID (buildResponse (requestHeader op sessionID requestID) r.1.1
      r.1.2) = .ok (buildResponse (requestHeader op sessionID requestID) r.1.1 r.1.2) := by
    unfold deliver
    rw [parse_response op sessionID requestID hproper]
    have hflag : flagResponse &&& flagResponse ≠ 0 := by decide
    exact if_pos ⟨hflag, rfl⟩
  have hcarry : carry (encodeHeader { requestHeader op sessionID 1 with
      requestID := requestID.toNat } ++ body) =
        some (encodeHeader (requestHeader op sessionID requestID) ++ body) := carry_eq hrequest
  unfold roundTrip
  rw [parseHeader_encodeHeader (requestHeader_fits op sessionID 1), hdrop]
  dsimp only
  rw [hcarry]
  dsimp only
  rw [hhandle]
  dsimp only
  rw [carry_eq hresponse]
  dsimp only
  rw [hdeliver]

/-- A request that fits no frame is not sent. -/
theorem roundTrip_long (op : DataOp) (sessionID : UInt64) {body : Bytes}
    (hbody : maxBodySize < body.length) :
    l.roundTrip zstd handle (encodeHeader (requestHeader op sessionID 1) ++ body) =
      (.error .writeError, { l with nextRequestID := nextNonZeroRequestID l.nextRequestID }) := by
  have hdrop : (encodeHeader (requestHeader op sessionID 1) ++ body).drop headerSize = body :=
    List.drop_left' (length_encodeHeader _)
  have hlong : 65512 < body.length := hbody
  have hcarry : carry (encodeHeader { requestHeader op sessionID 1 with
      requestID := (nextNonZeroRequestID l.nextRequestID).toNat } ++ body) = none := by
    refine if_neg fun h => ?_
    have hmax := h.2
    simp only [List.length_append, length_encodeHeader, maxPayloadSize, headerSize] at hmax
    omega
  unfold roundTrip
  rw [parseHeader_encodeHeader (requestHeader_fits op sessionID 1), hdrop]
  dsimp only
  rw [hcarry]

end Link

/-! ## The two modes -/

namespace DataPlane

variable {zstd : Zstd} {handle : FileHandle F} (p : DataPlane F)

/-- A response reads back as the reply that it carries. -/
theorem reply_buildResponse (op : DataOp) (sessionID : UInt64) {requestID : UInt64}
    (hne : requestID ≠ 0) {r : Reply} (hr : LocalAdapter.Proper r) :
    reply op.code (.ok (buildResponse (requestHeader op sessionID requestID) r.1 r.2)) = r := by
  have hvalid : validateResponseHeader (responseHeader op sessionID requestID r.1) = true := by
    have hne' : requestID.toNat ≠ 0 := fun h0 => hne (toNat_eq_zero.mp h0)
    have hflags : flagResponse &&& ~~~(flagResponse ||| flagNotice) = 0 := by decide
    simp [validateResponseHeader, validateCommonHeader, responseHeader, requestHeader, hflags, hne']
  have hdrop : (buildResponse (requestHeader op sessionID requestID) r.1 r.2).drop headerSize =
      r.2 := List.drop_left' (length_encodeHeader _)
  unfold reply
  dsimp only
  rw [parse_response op sessionID requestID hr, hdrop]
  dsimp only
  rw [hvalid, if_neg (by decide), if_neg (fun h => h rfl)]
  rfl

theorem whole_update {l : Link F} {route : UInt64} {s : Service F} (h : l.peer.sessions = s) :
    (⟨Function.update p.links route (some l)⟩ : DataPlane F).whole =
      ⟨Function.update p.whole.exportsByRoute route (some s)⟩ := by
  refine congrArg LocalAdapter.mk (funext fun r => ?_)
  by_cases hr : r = route
  · subst hr
    simp [h]
  · simp [hr, whole]

theorem whole_exports {route : UInt64} {l : Link F} (hlink : p.links route = some l) :
    p.whole.exportsByRoute route = some l.peer.sessions := by
  simp [whole, hlink]

/-- A request that fits a frame: the reply of the service. -/
theorem roundTrip_of_fits (op : DataOp) {route : UInt64} {l : Link F} (sessionID : UInt64)
    {body : Bytes} (hlink : p.links route = some l) (hbody : body.length ≤ maxBodySize) :
    let r := LocalAdapter.serve zstd handle l.peer.sessions sessionID op.code body
    p.roundTrip zstd handle route sessionID op.code body =
      (r.1, ⟨Function.update p.links route (some {
        nextRequestID := nextNonZeroRequestID l.nextRequestID
        peer := { l.peer with sessions := r.2 } })⟩) := by
  intro r
  have hrt := @Link.roundTrip_request F zstd handle l op sessionID body hbody
  have hproper : LocalAdapter.Proper r.1 := LocalAdapter.proper_serve _ _ _ _
  have hrep := reply_buildResponse op sessionID (nextNonZeroRequestID_ne l.nextRequestID) hproper
  unfold roundTrip
  rw [hlink]
  dsimp only
  change (let (resp, link) := l.roundTrip zstd handle (encodeHeader (requestHeader op sessionID 1)
    ++ body); (reply op.code resp, (⟨Function.update p.links route (some link)⟩ : DataPlane F))) = _
  rw [hrt]
  dsimp only
  rw [hrep]

/-- A request that fits no frame: the gateway answers by itself. -/
theorem roundTrip_of_long (op : DataOp) {route : UInt64} {l : Link F} (sessionID : UInt64)
    {body : Bytes} (hlink : p.links route = some l) (hbody : maxBodySize < body.length) :
    p.roundTrip zstd handle route sessionID op.code body =
      ((statusSessionUnavailable, []), ⟨Function.update p.links route (some {
        l with nextRequestID := nextNonZeroRequestID l.nextRequestID })⟩) := by
  unfold roundTrip
  rw [hlink]
  dsimp only
  change (let (resp, link) := l.roundTrip zstd handle (encodeHeader (requestHeader op sessionID 1)
    ++ body); (reply op.code resp, (⟨Function.update p.links route (some link)⟩ : DataPlane F))) = _
  rw [l.roundTrip_long op sessionID hbody]
  rfl

/-- **Whole mode and remote mode**: the services end up the same, and the reply is the same exactly
when the route is unknown or the request fits a frame. -/
theorem roundTrip_whole (op : DataOp) (route sessionID : UInt64) (body : Bytes) :
    let remote := p.roundTrip zstd handle route sessionID op.code body
    let whole := p.whole.roundTrip zstd handle route sessionID op.code body
    remote.2.whole = whole.2 ∧
      (remote.1 = whole.1 ↔ p.links route = none ∨ body.length ≤ maxBodySize) := by
  cases hlink : p.links route with
  | none =>
    have hexport : p.whole.exportsByRoute route = none := by simp [DataPlane.whole, hlink]
    simp [roundTrip, LocalAdapter.roundTrip, hlink, hexport]
  | some l =>
    have hexport := p.whole_exports hlink
    have hwhole : p.whole.roundTrip zstd handle route sessionID op.code body = _ :=
      LocalAdapter.roundTrip_export hexport sessionID op.code body
    by_cases hbody : body.length ≤ maxBodySize
    · rw [p.roundTrip_of_fits op sessionID hlink hbody, hwhole]
      exact ⟨p.whole_update rfl, fun _ => .inr hbody, fun _ => rfl⟩
    · have hlong := not_le.mp hbody
      obtain ⟨status, hserve, hne⟩ := LocalAdapter.serve_long l.peer.sessions sessionID op hlong
      rw [p.roundTrip_of_long op sessionID hlink hlong, hwhole, hserve]
      refine ⟨p.whole_update rfl, fun heq => ?_, fun h => ?_⟩
      · exact absurd (congrArg Prod.fst heq).symm hne
      · rcases h with h | h
        · cases h
        · exact absurd h hbody

end DataPlane

/-! ## A request that fits no frame -/

def noZstd : Zstd := ⟨fun _ _ => none, fun _ => none⟩

/-- A file in memory. -/
def memoryFile : FileHandle Bytes where
  readAt f offset length := (f, slice f offset.toNat length, none)
  writeAt f offset src := (splice f offset.toNat src, src.length, none)

/-- One storer, on connection 1, with one session open. -/
def oneStorer : DataPlane Bytes where
  links := fun r =>
    if r = 1 then
      some { peer := {
        connectionID := 1
        sessions := {
          exclusive := true
          manager := { nextID := 1, items := [{ record := {
            id := 1, connection := 1, metadata := { diskSizeBytes := 4, readOnly := false } } }] }
          storage := { file := some [7, 7, 8, 9], readOnly := false, size := 4 }
          metadata := { diskSizeBytes := 4, readOnly := false } } } }
    else
      none

/-- A read of the last two bytes, through the link. -/
example : (oneStorer.roundTrip noZstd memoryFile 1 1 opReadAt (putUint64 2 ++ putUint32 2)).1 =
    (statusOK, [compressRaw, 8, 9]) := by decide

/-- **A read of 65513 bytes of body**: the gateway cannot send it. -/
theorem longRead_differs :
    (oneStorer.roundTrip noZstd memoryFile 1 1 DataOp.readAt.code (List.replicate 65513 0)).1 ≠
      (oneStorer.whole.roundTrip noZstd memoryFile 1 1 DataOp.readAt.code
        (List.replicate 65513 0)).1 := by
  obtain ⟨l, hlink⟩ : ∃ l, oneStorer.links 1 = some l := ⟨_, rfl⟩
  have hlong : maxBodySize < (List.replicate 65513 (0 : UInt8)).length := by
    rw [List.length_replicate]
    decide
  obtain ⟨status, hserve, hne⟩ :=
    @LocalAdapter.serve_long _ noZstd memoryFile l.peer.sessions 1 .readAt _ hlong
  rw [oneStorer.roundTrip_of_long .readAt 1 hlink hlong,
    LocalAdapter.roundTrip_export (oneStorer.whole_exports hlink) 1 _ _, hserve]
  exact fun heq => hne (congrArg Prod.fst heq).symm

end YumeDisk.Server.WholeMode
