import Mathlib.Data.List.Count
import YumeDisk.Lib.Bytes
import YumeDisk.Lib.History
import YumeDisk.Lib.Run
import YumeDisk.Server.SharedSessions

/-!
# The storer and its two exports (`storer/core.go`, `storer/export.go`, `session/service.go`)

The read-write export lets one session in at a time, the read-only one any number; both are over
one storage file.  A write that the file has taken lists the live read-only sessions and notifies
each of them, before its lease is released and it returns.

* `Core.step`: the sections of the calls, in any order.
* `Core.live`: the read-only sessions that are open, from the history.
* `write_noticed`: a write that returns OK has notified **exactly the live sessions, each once**.
* `unnoticed_unchanged`: what a session has read **holds until it is notified**.
-/

namespace YumeDisk.Server.StorerCore

open YumeDisk.Lib
open StorerSession (Io ManagedRecord ManagerState Metadata)

inductive ExportID where
  | rw
  | ro
deriving DecidableEq, Repr

inductive IoError where
  | session (error : StorerSession.SessionError)
  /-- What `mapStorageError` makes of an error of the file. -/
  | storage
deriving DecidableEq, Repr

/-- Where a call of `Read` or `Write` is. -/
inductive Stage where
  /-- It has its lease. -/
  | begun
  /-- The storage has taken the write. -/
  | wrote
  /-- `handleRWWriteCommitted` has these sessions left. -/
  | notifying (sessionIDs : List UInt64)
  /-- It holds its lease still. -/
  | finished (result : Except IoError Unit)
  | returned (result : Except IoError Unit)

structure Call where
  exportID : ExportID
  record : StorerSession.Record
  /-- What a write is to write. -/
  data : Option Bytes
  offset : Nat
  length : Nat
  stage : Stage := .begun

/-- The checks of the call. -/
def Call.check (call : Call) : Except StorerSession.SessionError Unit :=
  ({ record := call.record, write := call.data.isSome, offset := call.offset,
     length := call.length } : Io).check

inductive Event where
  | opened (exportID : ExportID) (sessionID : UInt64)
  /-- A close has found the session. -/
  | closed (exportID : ExportID) (sessionID : UInt64)
  | read (exportID : ExportID) (sessionID : UInt64) (offset : Nat) (data : Bytes)
  /-- The file has changed for the call; `ok` is whether `WriteAt` has returned nil. -/
  | took (call offset : Nat) (data : Bytes) (ok : Bool)
  /-- What `LiveSessionIDs` has returned. -/
  | listed (call : Nat) (sessionIDs : List UInt64)
  /-- A call of `NotifySessionDataChanged`. -/
  | noticed (call : Nat) (sessionID : UInt64)
deriving DecidableEq, Repr

/-- The write that an event is about. -/
def Event.call? : Event → Option Nat
  | .took k .. | .listed k _ | .noticed k _ => some k
  | .opened .. | .closed .. | .read .. => none

/-- Opens and closes. -/
def Event.OfSession (exportID : ExportID) (e : Event) : Prop :=
  ∃ id, e = .opened exportID id ∨ e = .closed exportID id

/-- `Core`; the notifier is set before the links run. -/
structure Core where
  diskSizeBytes : UInt64
  /-- The configuration has a claim code for the read-only export. -/
  hasRO : Bool
  file : Nat → UInt8
  rw : ManagerState := {}
  ro : ManagerState := {}
  calls : List Call := []
  events : List Event := []

inductive Action where
  | open (exportID : ExportID) (connection : UInt64)
  | close (exportID : ExportID) (sessionID : UInt64)
  | closeConnection (exportID : ExportID) (connection : UInt64)
  | begin (exportID : ExportID) (sessionID : UInt64) (offset length : Nat) (data : Option Bytes)
  /-- The checks, and `ReadAt` or `WriteAt` under the lock of the storage; `failed` is an error of
  the file, after so many bytes. -/
  | access (call : Nat) (failed : Option Nat)
  /-- `LiveSessionIDs`; a map is listed in any order. -/
  | list (call : Nat) (order : List UInt64)
  | notify (call : Nat)
  /-- The lease is released, and the call returns. -/
  | ret (call : Nat)
deriving DecidableEq, Repr

/-- `sharedManager.Open`. -/
def openShared (m : ManagerState) (record : StorerSession.Record) :
    ManagerState × StorerSession.Record :=
  m.storeLocked record

/-- `LiveSessionIDs`, in some order. -/
def liveSessionIDs (m : ManagerState) : List UInt64 :=
  (m.items.filter fun entry => !entry.record.closing).map (·.record.id)

namespace Core

def metadata (s : Core) (e : ExportID) : Metadata :=
  { diskSizeBytes := s.diskSizeBytes, readOnly := e = .ro }

def manager (s : Core) : ExportID → ManagerState
  | .rw => s.rw
  | .ro => s.ro

def setManager (s : Core) (e : ExportID) (m : ManagerState) : Core :=
  match e with
  | .rw => { s with rw := m }
  | .ro => { s with ro := m }

/-- Some calls have happened. -/
def happened (s : Core) (events : List Event) : Core := { s with events := s.events ++ events }

def setStage (s : Core) (k : Nat) (call : Call) (stage : Stage) : Core :=
  { s with calls := s.calls.set k { call with stage } }

/-- The sessions that a close has found. -/
def closes (s : Core) (e : ExportID) (p : StorerSession.Record → Bool) : List Event :=
  ((s.manager e).items.filter fun entry => p entry.record).map fun entry =>
    .closed e entry.record.id

/-- `Service.Open`. -/
def openSession (s : Core) : ExportID → UInt64 → Core
  | .rw, connection =>
    match s.rw.openExclusive { connection, metadata := s.metadata .rw } with
    | .ok (m, record) => (s.setManager .rw m).happened [.opened .rw record.id]
    | .error _ => s
  | .ro, connection =>
    let (m, record) := openShared s.ro { connection, metadata := s.metadata .ro }
    (s.setManager .ro m).happened [.opened .ro record.id]

/-- The checks and the access to the storage. -/
def access (s : Core) (k : Nat) (call : Call) (failed : Option Nat) : Core :=
  match call.check, call.data, failed with
  | .error e, _, _ => s.setStage k call (.finished (.error (.session e)))
  | .ok _, none, some _ => s.setStage k call (.finished (.error .storage))
  | .ok _, none, none =>
    (s.setStage k call (.finished (.ok ()))).happened
      [.read call.exportID call.record.id call.offset (readAt s.file call.offset call.length)]
  | .ok _, some data, some n =>
    ({ s with file := writeAt s.file call.offset (data.take n) } : Core).setStage k call
      (.finished (.error .storage)) |>.happened [.took k call.offset (data.take n) false]
  | .ok _, some data, none =>
    ({ s with file := writeAt s.file call.offset data } : Core).setStage k call
      (if call.exportID = .rw ∧ s.hasRO then .wrote else .finished (.ok ()))
      |>.happened [.took k call.offset data true]

def step (s : Core) : Action → Option Core
  | .open e connection => if e = .ro ∧ !s.hasRO then none else some (s.openSession e connection)
  | .close e sessionID =>
    some ((s.setManager e ((s.manager e).closeLocked sessionID)).happened
      (s.closes e (·.id = sessionID)))
  | .closeConnection e connection =>
    some ((s.setManager e ((s.manager e).closeConnection connection)).happened
      (s.closes e (·.connection = connection)))
  | .begin exportID sessionID offset length data =>
    if (data.map List.length).getD length ≠ length then
      none
    else
      match ManagerState.beginIO (s.manager exportID) sessionID with
      | .error _ => some s
      | .ok (m, record) =>
        let s := s.setManager exportID m
        some { s with calls := s.calls ++ [{ exportID, record, data, offset, length }] }
  | .access k failed =>
    s.calls[k]?.bind fun call =>
      match call.stage with
      | .begun => some (s.access k call failed)
      | _ => none
  | .list k order =>
    s.calls[k]?.bind fun call =>
      match call.stage with
      | .wrote =>
        if order.Perm (liveSessionIDs s.ro) then
          some ((s.setStage k call (.notifying order)).happened [.listed k order])
        else
          none
      | _ => none
  | .notify k =>
    s.calls[k]?.bind fun call =>
      match call.stage with
      | .notifying [] => some (s.setStage k call (.finished (.ok ())))
      | .notifying (sessionID :: rest) =>
        some ((s.setStage k call (.notifying rest)).happened [.noticed k sessionID])
      | _ => none
  | .ret k =>
    s.calls[k]?.bind fun call =>
      match call.stage with
      | .finished result =>
        some ((s.setManager call.exportID
          (ManagerState.endIO (s.manager call.exportID) call.record.id)).setStage k call
            (.returned result))
      | _ => none

/-- Whether a read-only session is open after a history. -/
def live (events : List Event) (sessionID : UInt64) : Bool :=
  events.foldl (fun live e =>
    if e = .opened .ro sessionID then true
    else if e = .closed .ro sessionID then false
    else live) false

/-- What the writes have made of the file. -/
def content (base : Nat → UInt8) (events : List Event) : Nat → UInt8 :=
  events.foldl (fun file e =>
    match e with
    | .took _ offset data _ => writeAt file offset data
    | _ => file) base

/-! ## What is open -/

variable {events more : List Event} {e : Event} {sessionID : UInt64} {k : Nat}

@[simp] theorem live_nil (sessionID : UInt64) : live [] sessionID = false := rfl

theorem live_concat (events : List Event) (e : Event) (sessionID : UInt64) :
    live (events ++ [e]) sessionID =
      if e = .opened .ro sessionID then true
      else if e = .closed .ro sessionID then false
      else live events sessionID := by
  unfold live
  rw [List.foldl_append]
  rfl

/-- A session that is open stays open where it is not closed. -/
theorem live_append (h : live events sessionID = true)
    (hmore : .closed .ro sessionID ∉ more) : live (events ++ more) sessionID = true := by
  induction more using List.reverseRecOn with
  | nil => simpa using h
  | append_singleton more e ih =>
    rw [← List.append_assoc, live_concat]
    split_ifs with hopened hclosed
    · rfl
    · exact absurd (by simp [hclosed]) hmore
    · exact ih fun hmem => hmore (List.mem_append_left _ hmem)

/-- Closes, and nothing else. -/
theorem live_closes (ids : List UInt64) :
    live (events ++ ids.map (.closed .ro)) sessionID = true ↔
      sessionID ∉ ids ∧ live events sessionID = true := by
  induction ids using List.reverseRecOn with
  | nil => simp
  | append_singleton ids id ih =>
    rw [List.map_append, ← List.append_assoc, List.map_cons, List.map_nil, live_concat]
    by_cases hid : id = sessionID
    · simp [hid]
    · simp [hid, ih, Ne.symm hid]

/-- Events that open and close nothing that is read-only. -/
theorem live_quiet (h : ∀ e ∈ more, ∀ id, e ≠ .opened .ro id ∧ e ≠ .closed .ro id) :
    live (events ++ more) sessionID = live events sessionID := by
  induction more using List.reverseRecOn with
  | nil => rw [List.append_nil]
  | append_singleton more e ih =>
    have he := h e (by simp) sessionID
    rw [← List.append_assoc, live_concat, if_neg he.1, if_neg he.2]
    exact ih fun e' he' => h e' (List.mem_append_left _ he')

theorem content_append (base : Nat → UInt8) (events more : List Event) :
    content base (events ++ more) = content (content base events) more := List.foldl_append ..

theorem content_quiet {base : Nat → UInt8} (h : ∀ k offset data ok, .took k offset data ok ∉ more) :
    content base more = base := by
  induction more with
  | nil => rfl
  | cons e more ih =>
    have hrest := ih fun k offset data ok hmem => h k offset data ok (List.mem_cons_of_mem _ hmem)
    cases e with
    | took k offset data ok => exact absurd List.mem_cons_self (h k offset data ok)
    | _ => exact hrest

/-! ## What has happened for a call -/

/-- No event is about the write. -/
def Untouched (events : List Event) (k : Nat) : Prop := ∀ e ∈ events, e.call? ≠ some k

/-- The file has taken the write. -/
def Took (events : List Event) (k offset : Nat) (data : Bytes) : Prop :=
  ∃ before after, events = before ++ .took k offset data true :: after ∧
    Untouched (before ++ after) k

/-- The sessions that were live after the file took the write have been listed, and those that are
not in `rest` have been notified. -/
def Notified (events : List Event) (k offset : Nat) (data : Bytes) (rest : List UInt64) : Prop :=
  ∃ before between all after,
    events = before ++ .took k offset data true :: (between ++ .listed k all :: after) ∧
    Untouched (before ++ between) k ∧ all.Nodup ∧
    (∀ id, id ∈ all ↔ live (before ++ .took k offset data true :: between) id = true) ∧
    after.filter (fun e => e.call? = some k) ++ rest.map (.noticed k) = all.map (.noticed k)

/-- What has happened for a call. -/
def Ledger (hasRO : Bool) (events : List Event) (k : Nat) (call : Call) : Prop :=
  match call.stage with
  | .begun => Untouched events k
  | .wrote => ∃ data, call.data = some data ∧ Took events k call.offset data
  | .notifying rest => ∃ data, call.data = some data ∧ Notified events k call.offset data rest
  | .finished result | .returned result =>
    (result = .ok () → call.data ≠ none → hasRO = true →
      ∃ data, call.data = some data ∧ Notified events k call.offset data []) ∧
    ∀ offset data, .took k offset data true ∈ events → result = .ok () ∧ call.data ≠ none

theorem Untouched.append (h : Untouched events k) (hmore : Untouched more k) :
    Untouched (events ++ more) k :=
  fun e he => (List.mem_append.mp he).elim (h e) (hmore e)

theorem Took.append {offset : Nat} {data : Bytes} (h : Took events k offset data)
    (hmore : Untouched more k) : Took (events ++ more) k offset data := by
  obtain ⟨before, after, rfl, hother⟩ := h
  refine ⟨before, after ++ more, by simp, ?_⟩
  rw [← List.append_assoc]
  exact hother.append hmore

theorem Notified.append {offset : Nat} {data : Bytes} {rest : List UInt64}
    (h : Notified events k offset data rest) (hmore : Untouched more k) :
    Notified (events ++ more) k offset data rest := by
  obtain ⟨before, between, all, after, rfl, hother, hnodup, hall, hafter⟩ := h
  refine ⟨before, between, all, after ++ more, by simp, hother, hnodup, hall, ?_⟩
  have hnone : more.filter (fun e => e.call? = some k) = [] :=
    List.filter_eq_nil_iff.mpr fun e he => by simpa using hmore e he
  rw [List.filter_append, hnone, List.append_nil]
  exact hafter

theorem Ledger.append {hasRO : Bool} {call : Call} (h : Ledger hasRO events k call)
    (hmore : Untouched more k) : Ledger hasRO (events ++ more) k call := by
  have hend : ∀ {result : Except IoError Unit},
      (result = .ok () → call.data ≠ none → hasRO = true →
        ∃ data, call.data = some data ∧ Notified events k call.offset data []) ∧
      (∀ offset data, .took k offset data true ∈ events → result = .ok () ∧ call.data ≠ none) →
      (result = .ok () → call.data ≠ none → hasRO = true →
        ∃ data, call.data = some data ∧ Notified (events ++ more) k call.offset data []) ∧
      ∀ offset data, .took k offset data true ∈ events ++ more →
        result = .ok () ∧ call.data ≠ none := by
    intro result h
    refine ⟨fun hok hdata hro => ?_, fun offset data hmem => ?_⟩
    · obtain ⟨data, hd, hn⟩ := h.1 hok hdata hro
      exact ⟨data, hd, hn.append hmore⟩
    · rcases List.mem_append.mp hmem with hmem | hmem
      · exact h.2 offset data hmem
      · exact absurd rfl (hmore _ hmem)
  unfold Ledger at h ⊢
  cases hstage : call.stage with
  | begun =>
    rw [hstage] at h
    exact h.append hmore
  | wrote =>
    rw [hstage] at h
    obtain ⟨data, hdata, htook⟩ := h
    exact ⟨data, hdata, htook.append hmore⟩
  | notifying rest =>
    rw [hstage] at h
    obtain ⟨data, hdata, hn⟩ := h
    exact ⟨data, hdata, hn.append hmore⟩
  | finished result =>
    rw [hstage] at h
    exact hend h
  | returned result =>
    rw [hstage] at h
    exact hend h

/-- The sessions are listed. -/
theorem Took.listed {offset : Nat} {data : Bytes} (h : Took events k offset data)
    {order : List UInt64} (hnodup : order.Nodup)
    (horder : ∀ id, id ∈ order ↔ live events id = true) :
    Notified (events ++ [.listed k order]) k offset data order := by
  obtain ⟨before, after, rfl, hother⟩ := h
  exact ⟨before, after, order, [], by simp, hother, hnodup, horder, by simp⟩

/-- A session is notified. -/
theorem Notified.notice {offset : Nat} {data : Bytes} {id : UInt64} {rest : List UInt64}
    (h : Notified events k offset data (id :: rest)) :
    Notified (events ++ [.noticed k id]) k offset data rest := by
  obtain ⟨before, between, all, after, rfl, hother, hnodup, hall, hafter⟩ := h
  refine ⟨before, between, all, after ++ [.noticed k id], by simp, hother, hnodup, hall, ?_⟩
  rw [List.filter_append, ← hafter, List.append_assoc]
  simp [Event.call?]

/-- **When no one is left**, exactly the sessions that were live have been notified, each once. -/
theorem Notified.count {offset : Nat} {data : Bytes} (h : Notified events k offset data []) :
    ∃ before between all after,
      events = before ++ .took k offset data true :: (between ++ .listed k all :: after) ∧
      ∀ id, events.count (.noticed k id) =
        if live (before ++ .took k offset data true :: between) id then 1 else 0 := by
  obtain ⟨before, between, all, after, rfl, hother, hnodup, hall, hafter⟩ := h
  refine ⟨before, between, all, after, rfl, fun id => ?_⟩
  have hzero : ∀ {es : List Event}, Untouched es k → es.count (.noticed k id) = 0 := fun hes =>
    List.count_eq_zero.mpr fun hmem => hes _ hmem rfl
  have hafter' : after.count (.noticed k id) = all.count id := by
    rw [List.map_nil, List.append_nil] at hafter
    rw [← List.count_filter (p := fun e => e.call? = some k) (by simp [Event.call?]), hafter]
    exact List.count_map_of_injective _ _ (fun _ _ heq => (Event.noticed.inj heq).2) id
  rw [List.count_append, List.count_cons, List.count_append, List.count_cons, hafter',
    hzero fun e he => hother e (List.mem_append_left _ he),
    hzero fun e he => hother e (List.mem_append_right _ he)]
  simp only [beq_iff_eq, reduceCtorEq, if_false, Nat.zero_add, Nat.add_zero]
  by_cases hid : live (before ++ .took k offset data true :: between) id = true
  · rw [if_pos hid, List.count_eq_one_of_mem hnodup ((hall id).mpr hid)]
  · rw [if_neg hid, List.count_eq_zero.mpr fun hmem => hid ((hall id).mp hmem)]

/-! ## The invariant -/

variable {s s' : Core} {base : Nat → UInt8} {call : Call} {exportID : ExportID}

/-- The manager of the read-only export, after a history. -/
structure Sessions (hasRO : Bool) (events : List Event) (m : ManagerState) : Prop where
  distinct : m.Distinct
  live : ∀ id, live events id = true ↔ m.Live id
  readOnly : ∀ e ∈ m.items, e.record.metadata.readOnly = true
  only : hasRO = false → m.items = []

/-- A read has returned what was in the file. -/
def Read (base : Nat → UInt8) (before : List Event) (e : Event) : Prop :=
  ∀ exportID id offset data, e = .read exportID id offset data →
    data = readAt (content base before) offset data.length

structure Inv (base : Nat → UInt8) (s : Core) : Prop where
  sessions : Sessions s.hasRO s.events s.ro
  ledger : ∀ k call, s.calls[k]? = some call → Ledger s.hasRO s.events k call
  beyond : ∀ k, s.calls[k]? = none → Untouched s.events k
  readOnly : ∀ call ∈ s.calls, call.exportID = .ro → call.record.metadata.readOnly = true
  file : s.file = content base s.events
  reads : EachAfter (Read base) s.events

theorem eachAfter_append {P : List Event → Event → Prop} (h : EachAfter P events)
    (hmore : ∀ e ∈ more, ∀ before, P before e) : EachAfter P (events ++ more) := by
  induction more using List.reverseRecOn with
  | nil => simpa using h
  | append_singleton more e ih =>
    rw [← List.append_assoc]
    exact eachAfter_concat (ih fun e' he' => hmore e' (List.mem_append_left _ he'))
      (hmore e (by simp) _)

/-- What a step of a manager leaves. -/
theorem Inv.manage (h : s.Inv base) {m : ManagerState}
    (hmore : ∀ e ∈ more, Event.OfSession exportID e)
    (hro : exportID = .ro → Sessions s.hasRO (s.events ++ more) m) :
    ((s.setManager exportID m).happened more).Inv base := by
  have hquiet : ∀ k, Untouched more k := by
    intro k e he
    obtain ⟨id, rfl | rfl⟩ := hmore e he <;> nofun
  have hcontent : content (content base s.events) more = content base s.events :=
    content_quiet fun k offset data ok hmem => by
      obtain ⟨id, heq | heq⟩ := hmore _ hmem <;> cases heq
  have hsame : (s.setManager exportID m).calls = s.calls ∧
      (s.setManager exportID m).hasRO = s.hasRO ∧ (s.setManager exportID m).file = s.file ∧
        (s.setManager exportID m).events = s.events := by
    cases exportID <;> exact ⟨rfl, rfl, rfl, rfl⟩
  obtain ⟨hcalls, hhas, hfile, hevents⟩ := hsame
  have happened : ((s.setManager exportID m).happened more).events = s.events ++ more :=
    congrArg (· ++ more) hevents
  exact {
    sessions := by
      rw [happened]
      show Sessions (s.setManager exportID m).hasRO _ (s.setManager exportID m).ro
      rw [hhas]
      cases exportID with
      | ro => exact hro rfl
      | rw =>
        refine { h.sessions with live := fun id => ?_ }
        rw [live_quiet fun e he id => ?_]
        · exact h.sessions.live id
        · obtain ⟨id', rfl | rfl⟩ := hmore e he <;> exact ⟨nofun, nofun⟩
    ledger := fun k call hk => by
      rw [happened]
      show Ledger (s.setManager exportID m).hasRO _ k call
      rw [hhas]
      exact (h.ledger k call (hcalls ▸ hk)).append (hquiet k)
    beyond := fun k hk => by
      rw [happened]
      exact (h.beyond k (hcalls ▸ hk)).append (hquiet k)
    readOnly := fun call hcall => h.readOnly call (hcalls ▸ hcall)
    file := by
      rw [happened, content_append, hcontent]
      exact hfile.trans h.file
    reads := by
      rw [happened]
      refine eachAfter_append h.reads fun e he before exportID' id offset data heq => ?_
      obtain ⟨id', rfl | rfl⟩ := hmore e he <;> cases heq }

/-- What a step of a call leaves. -/
theorem Inv.stage (h : s.Inv base) (hk : s.calls[k]? = some call) {stage : Stage}
    {file : Nat → UInt8} (hmore : ∀ e ∈ more, ∀ j ≠ k, e.call? ≠ some j)
    (hsession : ∀ e ∈ more, ∀ id, e ≠ .opened .ro id ∧ e ≠ .closed .ro id)
    (hledger : Ledger s.hasRO (s.events ++ more) k { call with stage })
    (hfile : file = content s.file more) (hreads : EachAfter (Read base) (s.events ++ more)) :
    ((({ s with file } : Core).setStage k call stage).happened more).Inv base where
  sessions := { h.sessions with
    live := fun id => (Bool.eq_iff_iff.mp (live_quiet hsession)).trans (h.sessions.live id) }
  ledger := fun j call' hj' => by
    have hj : (s.calls.set k { call with stage })[j]? = some call' := hj'
    rw [List.getElem?_set] at hj
    split_ifs at hj with hkj hlt
    · subst hkj
      obtain rfl := Option.some.inj hj
      exact hledger
    · exact (h.ledger j call' hj).append fun e he => hmore e he j (Ne.symm hkj)
  beyond := fun j hj' => by
    have hj : (s.calls.set k { call with stage })[j]? = none := hj'
    have hjk : j ≠ k := by
      rintro rfl
      rw [List.getElem?_set_self (List.getElem?_eq_some_iff.mp hk).1] at hj
      cases hj
    rw [List.getElem?_set_ne hjk.symm] at hj
    exact (h.beyond j hj).append fun e he => hmore e he j hjk
  readOnly := fun call' hcall' => by
    have hcall' : call' ∈ s.calls.set k { call with stage } := hcall'
    rcases List.mem_or_eq_of_mem_set hcall' with hmem | rfl
    · exact h.readOnly call' hmem
    · exact h.readOnly call (List.mem_of_getElem? hk)
  file := by
    show file = content base (s.events ++ more)
    rw [content_append, ← h.file]
    exact hfile
  reads := hreads

/-! ## Steps -/

/-- A record that is opened. -/
theorem Sessions.stored {hasRO : Bool} {m : ManagerState} (h : Sessions hasRO events m)
    (hro : hasRO = true) {record : StorerSession.Record}
    (hrecord : record.metadata.readOnly = true) :
    Sessions hasRO (events ++ [.opened .ro (m.storeLocked record).2.id])
      (m.storeLocked record).1 := by
  have hlive : ∀ id, ManagerState.Live { m with nextID := m.nextSessionIDLocked } id ↔ m.Live id :=
    fun _ => Iff.rfl
  exact {
    distinct := ManagerState.Distinct.put (m := { m with nextID := m.nextSessionIDLocked })
      h.distinct _
    live := fun id => by
      show _ ↔ (ManagerState.put { m with nextID := m.nextSessionIDLocked } _).Live id
      rw [live_concat, ManagerState.live_put, hlive, ← h.live id]
      show _ ↔ id = m.nextSessionIDLocked ∧ _ ∨ _
      by_cases hid : id = m.nextSessionIDLocked
      · simp [hid, ManagerState.storeLocked]
      · simp [hid, ManagerState.storeLocked, Ne.symm hid]
    readOnly := fun e he => by
      rcases ManagerState.mem_put.mp he with rfl | ⟨hmem, -⟩
      · exact hrecord
      · exact h.readOnly e hmem
    only := fun hfalse => by
      rw [hro] at hfalse
      cases hfalse }

/-- Records that are closed. -/
theorem Sessions.closed {hasRO : Bool} {m m' : ManagerState} (h : Sessions hasRO events m)
    {ids : List UInt64} (hdistinct : m'.Distinct)
    (hlive : ∀ id, m'.Live id ↔ id ∉ ids ∧ m.Live id)
    (hsub : ∀ e ∈ m'.items, ∃ e' ∈ m.items, e.record.metadata = e'.record.metadata) :
    Sessions hasRO (events ++ ids.map (.closed .ro)) m' where
  distinct := hdistinct
  live := fun id => (live_closes ids).trans ((and_congr_right fun _ => h.live id).trans
    (hlive id).symm)
  readOnly := fun e he => by
    obtain ⟨e', he', heq⟩ := hsub e he
    rw [heq]
    exact h.readOnly e' he'
  only := fun hro => by
    refine List.eq_nil_iff_forall_not_mem.mpr fun e he => ?_
    obtain ⟨e', he', -⟩ := hsub e he
    rw [h.only hro] at he'
    cases he'

theorem closes_eq (s : Core) (e : ExportID) (p : StorerSession.Record → Bool) :
    s.closes e p = (((s.manager e).items.filter fun entry => p entry.record).map
      (·.record.id)).map (.closed e) := by
  rw [closes, List.map_map]
  rfl

theorem closes_ofSession (s : Core) (e : ExportID) (p : StorerSession.Record → Bool) :
    ∀ ev ∈ s.closes e p, Event.OfSession e ev := by
  intro ev hev
  obtain ⟨entry, -, rfl⟩ := List.mem_map.mp hev
  exact ⟨_, .inr rfl⟩

theorem not_mem_closes {m : ManagerState} {p : StorerSession.Record → Bool} {id : UInt64} :
    id ∉ (m.items.filter fun entry => p entry.record).map (·.record.id) ↔
      ∀ e ∈ m.items, p e.record = true → e.record.id ≠ id := by
  simp only [List.mem_map, List.mem_filter, not_exists, not_and, and_imp]

theorem Inv.close (h : s.Inv base) (sessionID : UInt64) :
    ((s.setManager exportID ((s.manager exportID).closeLocked sessionID)).happened
      (s.closes exportID (·.id = sessionID))).Inv base := by
  refine h.manage (s.closes_ofSession _ _) ?_
  rintro rfl
  rw [closes_eq]
  refine h.sessions.closed (ManagerState.distinct_closeLocked h.sessions.distinct _) (fun id => ?_)
    (ManagerState.closeLocked_sub _ _)
  rw [not_mem_closes (p := (·.id = sessionID)), show s.manager .ro = s.ro from rfl,
    ManagerState.live_closeLocked]
  refine and_congr_left fun hlive => ?_
  simp only [decide_eq_true_eq]
  refine ⟨fun hne e _ he hid => hne (hid.symm.trans he), fun hall => ?_⟩
  rintro rfl
  obtain ⟨e, he, hid, -⟩ := hlive
  exact hall e he hid hid

theorem Inv.closeConnection (h : s.Inv base) (connection : UInt64) :
    ((s.setManager exportID ((s.manager exportID).closeConnection connection)).happened
      (s.closes exportID (·.connection = connection))).Inv base := by
  refine h.manage (s.closes_ofSession _ _) ?_
  rintro rfl
  rw [closes_eq]
  refine h.sessions.closed ?_ (fun id => ?_) ?_
  · exact ManagerState.closeConnection_induct h.sessions.distinct
      (fun m id hm => ManagerState.distinct_closeLocked hm id) connection
  · rw [not_mem_closes (p := (·.connection = connection)), show s.manager .ro = s.ro from rfl,
      ManagerState.live_closeConnection]
    simp only [decide_eq_true_eq]
  · refine ManagerState.closeConnection_induct (P := fun m => ∀ e ∈ m.items, ∃ e' ∈ s.ro.items,
      e.record.metadata = e'.record.metadata) (fun e he => ⟨e, he, rfl⟩) ?_ connection
    intro m id hm e he
    obtain ⟨e', he', heq⟩ := ManagerState.closeLocked_sub m id e he
    obtain ⟨e'', he'', heq'⟩ := hm e' he'
    exact ⟨e'', he'', heq.trans heq'⟩

theorem Inv.openSession (h : s.Inv base) (hro : exportID = .ro → s.hasRO = true)
    (connection : UInt64) : (s.openSession exportID connection).Inv base := by
  cases exportID with
  | rw =>
    unfold Core.openSession
    dsimp only
    split
    · exact h.manage (fun e he => ⟨_, .inl (List.mem_singleton.mp he)⟩) nofun
    · exact h
  | ro =>
    exact h.manage (fun e he => ⟨_, .inl (List.mem_singleton.mp he)⟩) fun _ =>
      h.sessions.stored (hro rfl) rfl

theorem happened_nil (s : Core) : s.happened [] = s := by
  unfold happened
  rw [List.append_nil]

/-- A manager has the same sessions as before. -/
theorem Inv.same (h : s.Inv base) {m : ManagerState}
    (hro : exportID = .ro → m.Distinct ∧ (∀ id, m.Live id ↔ s.ro.Live id) ∧
      ∀ e ∈ m.items, ∃ e' ∈ s.ro.items, e.record.metadata = e'.record.metadata) :
    (s.setManager exportID m).Inv base := by
  rw [← happened_nil (s.setManager exportID m)]
  refine h.manage nofun fun he => ?_
  obtain ⟨hdistinct, hlive, hsub⟩ := hro he
  have hnone : Sessions s.hasRO (s.events ++ [].map (.closed .ro)) m :=
    h.sessions.closed hdistinct (fun id => by simpa using hlive id) hsub
  exact hnone

theorem Inv.begun (h : s.Inv base) (hstage : call.stage = .begun)
    (hro : call.exportID = .ro → call.record.metadata.readOnly = true) :
    ({ s with calls := s.calls ++ [call] } : Core).Inv base := by
  have hget : ∀ {k : Nat} {call' : Call}, (s.calls ++ [call])[k]? = some call' →
      s.calls[k]? = some call' ∨ s.calls[k]? = none ∧ call' = call := by
    intro k call' hk
    rcases Nat.lt_or_ge k s.calls.length with hlt | hge
    · rw [List.getElem?_append_left hlt] at hk
      exact .inl hk
    · rw [List.getElem?_append_right hge] at hk
      refine .inr ⟨List.getElem?_eq_none hge, ?_⟩
      exact List.mem_singleton.mp (List.mem_of_getElem? hk)
  exact { h with
    ledger := fun k call' hk => by
      rcases hget hk with hk | ⟨hnone, rfl⟩
      · exact h.ledger k call' hk
      · unfold Ledger
        rw [hstage]
        exact h.beyond k hnone
    beyond := fun k hk => by
      have hlen := List.getElem?_eq_none_iff.mp hk
      rw [List.length_append] at hlen
      exact h.beyond k (List.getElem?_eq_none (by omega))
    readOnly := fun call' hcall' => by
      rcases List.mem_append.mp hcall' with hmem | hmem
      · exact h.readOnly call' hmem
      · obtain rfl := List.mem_singleton.mp hmem
        exact hro }

theorem Inv.begin (h : s.Inv base) {sessionID : UInt64} {m : ManagerState}
    {record : StorerSession.Record}
    (hbegin : ManagerState.beginIO (s.manager exportID) sessionID = .ok (m, record))
    (data : Option Bytes) (offset length : Nat) :
    ({ s.setManager exportID m with
      calls := (s.setManager exportID m).calls ++
        [{ exportID, record, data, offset, length }] } : Core).Inv base := by
  obtain ⟨entry, hmem, rfl, hclosing, rfl⟩ := ManagerState.beginIO_some hbegin
  refine (h.same ?_).begun rfl ?_
  · rintro rfl
    refine ⟨h.sessions.distinct.put _, fun id =>
      ManagerState.live_put_same h.sessions.distinct hmem rfl rfl, fun e he => ?_⟩
    rcases ManagerState.mem_put.mp he with rfl | ⟨he, -⟩
    · exact ⟨entry, hmem, rfl⟩
    · exact ⟨e, he, rfl⟩
  · rintro rfl
    exact h.sessions.readOnly entry hmem

/-- A stage that has left nothing behind. -/
theorem Inv.settle (h : s.Inv base) (hk : s.calls[k]? = some call) {stage : Stage}
    (hledger : Ledger s.hasRO s.events k { call with stage }) :
    (s.setStage k call stage).Inv base := by
  rw [← happened_nil (s.setStage k call stage)]
  refine @Inv.stage [] k s base call h hk stage s.file nofun nofun ?_ rfl ?_
  · rw [List.append_nil]
    exact hledger
  · rw [List.append_nil]
    exact h.reads

/-- A call that has left nothing behind ends with an error, or it is a read. -/
theorem ledger_finished {hasRO : Bool} {result : Except IoError Unit}
    (hother : ∀ offset data, .took k offset data true ∉ events)
    (hread : result = .ok () → call.data = none) :
    Ledger hasRO events k { call with stage := .finished result } :=
  ⟨fun hok hdata => absurd (hread hok) hdata, fun offset data hmem =>
    absurd hmem (hother offset data)⟩

/-- **The access to the storage.** -/
theorem Inv.access (h : s.Inv base) (hk : s.calls[k]? = some call) (hstage : call.stage = .begun)
    (failed : Option Nat) : (s.access k call failed).Inv base := by
  have huntouched : Untouched s.events k := by
    have hledger := h.ledger k call hk
    unfold Ledger at hledger
    rw [hstage] at hledger
    exact hledger
  have hnone : ∀ offset data, .took k offset data true ∉ s.events :=
    fun offset data hmem => huntouched _ hmem rfl
  unfold Core.access
  split
  · exact h.settle hk (ledger_finished hnone nofun)
  · exact h.settle hk (ledger_finished hnone nofun)
  · next hdata =>
    refine @Inv.stage _ k s base call h hk _ s.file (by simp [Event.call?]) (by simp) ?_ rfl ?_
    · refine ledger_finished (fun offset data hmem => ?_) fun _ => hdata
      rcases List.mem_append.mp hmem with hmem | hmem
      · exact hnone offset data hmem
      · cases List.mem_singleton.mp hmem
    · refine eachAfter_concat h.reads fun exportID id offset data heq => ?_
      obtain ⟨rfl, rfl, rfl, rfl⟩ := Event.read.inj heq
      rw [length_readAt, h.file]
  · next data n hdata =>
    refine @Inv.stage _ k s base call h hk _ _ ?_ (by simp) ?_ rfl
      (eachAfter_concat h.reads nofun)
    · simp [Event.call?, eq_comm]
    · refine ledger_finished (fun offset data hmem => ?_) nofun
      rcases List.mem_append.mp hmem with hmem | hmem
      · exact hnone offset data hmem
      · cases List.mem_singleton.mp hmem
  · next data hcheck hdata =>
    refine @Inv.stage _ k s base call h hk _ _ ?_ (by simp) ?_ rfl
      (eachAfter_concat h.reads nofun)
    · simp [Event.call?, eq_comm]
    · -- a session of the read-only export does not come this far
      have hrw : call.exportID = .rw := by
        cases hid : call.exportID with
        | rw => rfl
        | ro =>
          have hro := h.readOnly call (List.mem_of_getElem? hk) hid
          unfold Call.check Io.check at hcheck
          rw [hdata, hro] at hcheck
          cases hcheck
      have htook : Took (s.events ++ [.took k call.offset data true]) k call.offset data :=
        ⟨s.events, [], rfl, by rwa [List.append_nil]⟩
      split_ifs with hhas
      · exact ⟨data, hdata, htook⟩
      · refine ⟨fun _ _ hro => absurd ⟨hrw, hro⟩ hhas, fun _ _ _ => ⟨rfl, ?_⟩⟩
        rw [hdata]
        nofun

/-- The sessions are listed. -/
theorem Inv.list (h : s.Inv base) (hk : s.calls[k]? = some call) (hstage : call.stage = .wrote)
    {order : List UInt64} (horder : order.Perm (liveSessionIDs s.ro)) :
    ((s.setStage k call (.notifying order)).happened [.listed k order]).Inv base := by
  have hledger := h.ledger k call hk
  unfold Ledger at hledger
  rw [hstage] at hledger
  obtain ⟨data, hdata, htook⟩ := hledger
  refine @Inv.stage _ k s base call h hk _ s.file (by simp [Event.call?, eq_comm]) (by simp) ?_ rfl
    (eachAfter_concat h.reads nofun)
  refine ⟨data, hdata, htook.listed ?_ fun id => ?_⟩
  · exact horder.nodup_iff.mpr (h.sessions.distinct.sublist (List.filter_sublist.map _))
  · rw [horder.mem_iff, h.sessions.live id]
    simp only [liveSessionIDs, ManagerState.Live, List.mem_map, List.mem_filter,
      Bool.not_eq_true', and_assoc, and_comm (a := _ = false)]

/-- A session is notified, or the last one was. -/
theorem Inv.notify (h : s.Inv base) (hs : s.step (.notify k) = some s') : s'.Inv base := by
  obtain ⟨call, hk, hs⟩ := Option.bind_eq_some_iff.mp hs
  have hledger := h.ledger k call hk
  unfold Ledger at hledger
  split at hs
  · next hstage =>
    obtain rfl := Option.some.inj hs
    rw [hstage] at hledger
    obtain ⟨data, hdata, hnotified⟩ := hledger
    refine h.settle hk ⟨fun _ _ _ => ⟨data, hdata, hnotified⟩, fun _ _ _ => ⟨rfl, ?_⟩⟩
    show call.data ≠ none
    rw [hdata]
    nofun
  · next sessionID rest hstage =>
    obtain rfl := Option.some.inj hs
    rw [hstage] at hledger
    obtain ⟨data, hdata, hnotified⟩ := hledger
    exact @Inv.stage _ k s base call h hk _ s.file (by simp [Event.call?, eq_comm]) (by simp)
      ⟨data, hdata, hnotified.notice⟩ rfl (eachAfter_concat h.reads nofun)
  · cases hs

/-- The lease is released. -/
theorem Inv.ret (h : s.Inv base) (hs : s.step (.ret k) = some s') : s'.Inv base := by
  obtain ⟨call, hk, hs⟩ := Option.bind_eq_some_iff.mp hs
  split at hs
  · next result hstage =>
    obtain rfl := Option.some.inj hs
    have hledger := h.ledger k call hk
    unfold Ledger at hledger
    rw [hstage] at hledger
    have hsame : ((s.setManager call.exportID
        (ManagerState.endIO (s.manager call.exportID) call.record.id)).Inv base) := by
      refine h.same fun he => ?_
      obtain ⟨hdistinct, hlive, hsub⟩ :=
        ManagerState.endIO_spec h.sessions.distinct call.record.id
      rw [he]
      exact ⟨hdistinct, hlive, fun e hmem =>
        (hsub e hmem).imp fun _ hand => ⟨hand.1, congrArg StorerSession.Record.metadata hand.2⟩⟩
    obtain ⟨hcalls, hhas, hevents⟩ : (s.setManager call.exportID
        (ManagerState.endIO (s.manager call.exportID) call.record.id)).calls = s.calls ∧
        (s.setManager call.exportID
          (ManagerState.endIO (s.manager call.exportID) call.record.id)).hasRO = s.hasRO ∧
        (s.setManager call.exportID
          (ManagerState.endIO (s.manager call.exportID) call.record.id)).events = s.events := by
      cases call.exportID <;> exact ⟨rfl, rfl, rfl⟩
    refine hsame.settle (hcalls.symm ▸ hk) ?_
    rw [hhas, hevents]
    exact hledger
  · cases hs

theorem step_inv (s : Core) (a : Action) (s' : Core) (h : s.Inv base) (hs : s.step a = some s') :
    s'.Inv base := by
  cases a with
  | «open» e connection =>
    simp only [step] at hs
    split_ifs at hs with hro
    obtain rfl := Option.some.inj hs
    refine h.openSession (fun he => ?_) connection
    simpa [he] using hro
  | close e sessionID =>
    obtain rfl := Option.some.inj hs
    exact h.close sessionID
  | closeConnection e connection =>
    obtain rfl := Option.some.inj hs
    exact h.closeConnection connection
  | begin exportID sessionID offset length data =>
    simp only [step] at hs
    split_ifs at hs
    split at hs
    · obtain rfl := Option.some.inj hs
      exact h
    · next hbegin =>
      obtain rfl := Option.some.inj hs
      exact h.begin hbegin data offset length
  | access k failed =>
    obtain ⟨call, hk, hs⟩ := Option.bind_eq_some_iff.mp hs
    split at hs
    · next hstage =>
      obtain rfl := Option.some.inj hs
      exact h.access hk hstage failed
    · cases hs
  | list k order =>
    obtain ⟨call, hk, hs⟩ := Option.bind_eq_some_iff.mp hs
    split at hs
    · next hstage =>
      split_ifs at hs with horder
      obtain rfl := Option.some.inj hs
      exact h.list hk hstage horder
    · cases hs
  | notify k => exact h.notify hs
  | ret k => exact h.ret hs

theorem inv_init (diskSizeBytes : UInt64) (hasRO : Bool) (base : Nat → UInt8) :
    ({ diskSizeBytes, hasRO, file := base } : Core).Inv base where
  sessions := {
    distinct := List.nodup_nil
    live := fun id => by
      simp [ManagerState.Live]
    readOnly := nofun
    only := fun _ => rfl }
  ledger := fun k call hk => by cases hk
  beyond := fun k _ => nofun
  readOnly := nofun
  file := rfl
  reads := eachAfter_nil

/-! ## The results -/

/-- A write that has returned OK. -/
theorem Inv.noticed (h : s.Inv base) (hro : s.hasRO = true) (hk : s.calls[k]? = some call)
    (hstage : call.stage = .returned (.ok ())) {data : Bytes} (hdata : call.data = some data) :
    Notified s.events k call.offset data [] := by
  have hledger := h.ledger k call hk
  unfold Ledger at hledger
  rw [hstage] at hledger
  obtain ⟨data', hdata', hnotified⟩ := hledger.1 rfl (by rw [hdata]; nofun) hro
  obtain rfl := Option.some.inj (hdata.symm.trans hdata')
  exact hnotified

theorem step_hasRO (s : Core) (a : Action) (s' : Core) (hs : s.step a = some s') :
    s'.hasRO = s.hasRO := by
  have hset : ∀ (s : Core) e m, (s.setManager e m).hasRO = s.hasRO := fun s e m => by
    cases e <;> rfl
  cases a with
  | «open» e connection =>
    simp only [step] at hs
    split_ifs at hs
    obtain rfl := Option.some.inj hs
    cases e with
    | rw =>
      unfold openSession
      dsimp only
      split <;> rfl
    | ro => rfl
  | close e _ | closeConnection e _ =>
    obtain rfl := Option.some.inj hs
    exact hset ..
  | begin exportID sessionID offset length data =>
    simp only [step] at hs
    split_ifs at hs
    split at hs <;> obtain rfl := Option.some.inj hs
    · rfl
    · exact hset ..
  | access k failed =>
    obtain ⟨call, -, hs⟩ := Option.bind_eq_some_iff.mp hs
    split at hs
    · obtain rfl := Option.some.inj hs
      unfold access
      split <;> rfl
    · cases hs
  | list k order =>
    obtain ⟨call, -, hs⟩ := Option.bind_eq_some_iff.mp hs
    split at hs
    · split_ifs at hs
      obtain rfl := Option.some.inj hs
      rfl
    · cases hs
  | notify k =>
    obtain ⟨call, -, hs⟩ := Option.bind_eq_some_iff.mp hs
    split at hs
    · obtain rfl := Option.some.inj hs
      rfl
    · obtain rfl := Option.some.inj hs
      rfl
    · cases hs
  | ret k =>
    obtain ⟨call, -, hs⟩ := Option.bind_eq_some_iff.mp hs
    split at hs
    · obtain rfl := Option.some.inj hs
      exact hset ..
    · cases hs

/-- **A write that returns OK has notified the live sessions, each once.**  After the file took the
write, and before it returned, the sessions that were live were listed: those, and no others, have
been notified of it, once. -/
theorem write_noticed {diskSizeBytes : UInt64} {as : List Action}
    (hr : runFrom step { diskSizeBytes, hasRO := true, file := base } as = some s)
    (hk : s.calls[k]? = some call) (hstage : call.stage = .returned (.ok ())) {data : Bytes}
    (hdata : call.data = some data) :
    ∃ before between all after,
      s.events =
        before ++ .took k call.offset data true :: (between ++ .listed k all :: after) ∧
      ∀ id, s.events.count (.noticed k id) =
        if live (before ++ .took k call.offset data true :: between) id then 1 else 0 := by
  have h : s.Inv base := run_inv step_inv (inv_init diskSizeBytes true base) hr
  have hro : s.hasRO = true := run_inv (I := fun s : Core => s.hasRO = true)
    (fun s a s' hro hs => (step_hasRO s a s' hs).trans hro) rfl hr
  exact (h.noticed hro hk hstage hdata).count

/-- Four bytes, and both exports. -/
def fourBytes : Core := { diskSizeBytes := 4, hasRO := true, file := UInt8.ofNat }

/-- Two read-only sessions; one reads, is notified of a write, and reads again. -/
def sharedRun : List Action :=
  [.open .rw 1, .open .ro 2, .open .ro 3, .begin .ro 1 0 4 none, .access 0 none, .ret 0,
    .begin .rw 1 1 2 (some [7, 8]), .access 1 none, .list 1 [1, 2], .notify 1, .notify 1,
    .notify 1, .ret 1, .begin .ro 1 0 4 none, .access 2 none, .ret 2, .close .ro 2]

/-- A write of `data` at `offset` that returned. -/
def wrote (call : Call) (offset : Nat) (data : Bytes) : Bool :=
  match call.stage with
  | .returned (.ok ()) => call.offset == offset && call.data == some data
  | _ => false

theorem write_noticed_shared : ∃ s call, runFrom step fourBytes sharedRun = some s ∧
    s.calls[1]? = some call ∧ call.offset = 1 ∧ s.events.count (.noticed 1 1) = 1 ∧
    ∃ before between all after,
      s.events = before ++ .took 1 1 [7, 8] true :: (between ++ .listed 1 all :: after) ∧
      ∀ id, s.events.count (.noticed 1 id) =
        if live (before ++ .took 1 1 [7, 8] true :: between) id then 1 else 0 := by
  obtain ⟨s, hs, hp⟩ := exists_run step fourBytes sharedRun
    (fun s => (s.events.count (.noticed 1 1) == 1) &&
      s.calls[1]?.any fun call => wrote call 1 [7, 8]) (by decide)
  simp only [Bool.and_eq_true, beq_iff_eq] at hp
  obtain ⟨hcount, hp⟩ := hp
  obtain ⟨call, hk, hp⟩ := (Option.any_eq_true _ _).mp hp
  unfold wrote at hp
  split at hp
  · next hstage =>
    simp only [Bool.and_eq_true, beq_iff_eq] at hp
    exact ⟨s, call, hs, hk, hp.1, hcount, hp.1 ▸ write_noticed hs hk hstage hp.2⟩
  · cases hp

/-- A write that the file took, after which a session stayed open, has notified the session. -/
theorem Inv.notices (h : s.Inv base) {before after : List Event} {offset : Nat} {data : Bytes}
    (hevents : s.events = before ++ .took k offset data true :: after)
    (hquiet : ∀ call ∈ s.calls, ∃ result, call.stage = .returned result)
    (hlive : live before sessionID = true) (hopen : .closed .ro sessionID ∉ after) :
    .noticed k sessionID ∈ after := by
  have hmem : .took k offset data true ∈ s.events := by simp [hevents]
  have hro : s.hasRO = true := by
    have hlive' : live s.events sessionID = true := by
      rw [hevents]
      exact live_append hlive (by simpa using hopen)
    obtain ⟨e, he, -⟩ := (h.sessions.live sessionID).mp hlive'
    by_contra hno
    rw [h.sessions.only (Bool.not_eq_true _ ▸ hno)] at he
    cases he
  obtain ⟨call, hk⟩ : ∃ call, s.calls[k]? = some call := by
    by_contra hno
    refine h.beyond k ?_ _ hmem rfl
    exact Option.eq_none_iff_forall_not_mem.mpr fun call hcall => hno ⟨call, hcall⟩
  obtain ⟨result, hstage⟩ := hquiet call (List.mem_of_getElem? hk)
  have hledger := h.ledger k call hk
  unfold Ledger at hledger
  rw [hstage] at hledger
  obtain ⟨rfl, hdata⟩ := hledger.2 offset data hmem
  obtain ⟨data', -, before', between, all, after', heq, hother, -, hall, hafter⟩ :=
    hledger.1 rfl hdata hro
  rw [List.map_nil, List.append_nil] at hafter
  -- the file took the write once
  rcases split_cases (hevents.symm.trans heq) with ⟨rfl, -, rfl⟩ | hin | hin
  · have hbetween : live (before ++ .took k call.offset data' true :: between) sessionID = true :=
      live_append hlive fun hclosed => hopen (by simp_all)
    have hnoticed : .noticed k sessionID ∈ after'.filter fun e => e.call? = some k := by
      rw [hafter]
      exact List.mem_map_of_mem ((hall sessionID).mpr hbetween)
    exact List.mem_append_right _ (List.mem_cons_of_mem _ (List.mem_filter.mp hnoticed).1)
  · exact absurd rfl (hother _ (List.mem_append_left _ hin))
  · rcases List.mem_append.mp hin with hin | hin
    · exact absurd rfl (hother _ (List.mem_append_right _ hin))
    · rcases List.mem_cons.mp hin with heq | hin
      · cases heq
      · have hlast : .took k offset data true ∈ after'.filter fun e => e.call? = some k :=
          List.mem_filter.mpr ⟨hin, by simp [Event.call?]⟩
        rw [hafter] at hlast
        obtain ⟨id, -, heq⟩ := List.mem_map.mp hlast
        cases heq

/-- **What a read-only session has read holds until the session is notified**, where every call has
returned, the session is open still, and none of the later writes has failed on the way. -/
theorem unnoticed_unchanged {diskSizeBytes : UInt64} {hasRO : Bool} {as : List Action}
    (hr : runFrom step { diskSizeBytes, hasRO, file := base } as = some s)
    {before after : List Event} {offset : Nat} {data : Bytes}
    (hevents : s.events = before ++ .read .ro sessionID offset data :: after)
    (hlive : live before sessionID = true) (hopen : .closed .ro sessionID ∉ after)
    (hquiet : ∀ call ∈ s.calls, ∃ result, call.stage = .returned result)
    (hwhole : ∀ k offset data, .took k offset data false ∉ after)
    (hnotice : ∀ k, .noticed k sessionID ∉ after) :
    readAt s.file offset data.length = data := by
  have h : s.Inv base := run_inv step_inv (inv_init diskSizeBytes hasRO base) hr
  have htook : ∀ k offset data ok, .took k offset data ok ∉ after := by
    intro k offset' data' ok hmem
    cases ok with
    | false => exact hwhole k offset' data' hmem
    | true =>
      obtain ⟨after₁, after₂, rfl⟩ := List.append_of_mem hmem
      have hsplit : s.events = (before ++ .read .ro sessionID offset data :: after₁) ++
          .took k offset' data' true :: after₂ := by simp [hevents]
      refine hnotice k (List.mem_append_right _ (List.mem_cons_of_mem _ ?_))
      refine h.notices hsplit hquiet (live_append hlive ?_) ?_
      · simp_all
      · simp_all
  have hfile : content base s.events = content base before := by
    rw [hevents, content_append]
    exact content_quiet fun k offset data ok hmem =>
      (List.mem_cons.mp hmem).elim nofun (htook k offset data ok)
  rw [h.file, hfile]
  exact (h.reads _ _ _ hevents .ro sessionID offset data rfl).symm

/-- The second read of the session. -/
theorem unnoticed_unchanged_shared : ∃ s, runFrom step fourBytes sharedRun = some s ∧
    readAt s.file 0 4 = [0, 7, 8, 3] := by
  obtain ⟨s, hs, hp⟩ := exists_run step fourBytes sharedRun
    (fun s => (s.events == [.opened .rw 1, .opened .ro 1, .opened .ro 2,
        .read .ro 1 0 [0, 1, 2, 3], .took 1 1 [7, 8] true, .listed 1 [1, 2], .noticed 1 1,
        .noticed 1 2, .read .ro 1 0 [0, 7, 8, 3], .closed .ro 2]) && s.calls.all fun call =>
      match call.stage with
      | .returned _ => true
      | _ => false) (by decide)
  simp only [Bool.and_eq_true, beq_iff_eq] at hp
  obtain ⟨hevents, hp⟩ := hp
  have hsplit : s.events = [.opened .rw 1, .opened .ro 1, .opened .ro 2,
      .read .ro 1 0 [0, 1, 2, 3], .took 1 1 [7, 8] true, .listed 1 [1, 2], .noticed 1 1,
      .noticed 1 2] ++ .read .ro 1 0 [0, 7, 8, 3] :: [.closed .ro 2] := hevents
  refine ⟨s, hs, unnoticed_unchanged hs hsplit (by decide) (by decide) (fun call hcall => ?_)
    (by simp) (by simp)⟩
  have hreturned := List.all_eq_true.mp hp call hcall
  split at hreturned
  · next result hstage => exact ⟨result, hstage⟩
  · cases hreturned

end Core

end YumeDisk.Server.StorerCore
