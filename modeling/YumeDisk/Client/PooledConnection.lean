import YumeDisk.Client.ClosedSessions
import YumeDisk.Client.InFlight

/-!
# When the pool closes a connection (`connection_pool.rs`, `draft_flow.rs`)

`release_connection_after_session_close` and `cleanup_connection_if_idle` ask the lifecycle of a
connection whether it is idle, and close it then.  Whoever holds the connection may begin something
in between, and a draft holds it without the lifecycle knowing.

* `PooledConnection.step`: the callers of the connection, the drafts and the pool, in any order.
* `PooledConnection.Unused`: nobody needs the connection any more.
* `CloseGuard`: what the lifecycle does not show when it is asked, and what begins after that.
* `step_settled`: one step.
* `close_unused`: **the result**, for runs whose steps meet the guard.
* `close_takes_draft`: the last draft but one is disposed of.
-/

namespace YumeDisk.Client

open Lib (Bytes StepsMeet runFrom run_inv_of_guard stepsMeet_cons)
open Server (Zstd)

/-- A connection and its entry in the pool. -/
structure PooledConnection where
  connection : Connection := {}
  /-- The pool has the connection. -/
  pooled : Bool := true
  /-- The drafts that hold the connection. -/
  drafts : List Nat := []
  /-- The pool is at the connection, with what `should_close_after_session_close` has returned. -/
  closing : Option Bool := none

/-- The four sections that the lifecycle does not show. -/
def Call.Unmarked : Call → Prop
  | .authEntered _ | .authRegistering _ | .openEntered _ | .openConsuming _ => True
  | _ => False

/-- `authenticate` or `open`. -/
def Call.Exchanging : Call → Prop
  | .request .. => False
  | _ => True

/-- `authenticate` or `open` is called. -/
def ConnectionAction.Begins : ConnectionAction → Prop
  | .authenticate _ claimCode sha512 => ∃ material, parseClaimCode claimCode sha512 = .ok material
  | .openSession .. => True
  | _ => False

namespace Connection

variable {zstd : Zstd} {s s' : Connection} {t : Nat}

/-- No `authenticate` or `open` is running, no grant is to be used, and no session is active. -/
structure Unneeded (s : Connection) : Prop where
  calls : ∀ t call, s.calls t = some call → ¬ call.Exchanging
  authGrants : s.lifecycle.authGrants = []
  activeSessions : s.lifecycle.activeSessions = ∅

/-! ## What is not needed stays so until a call begins -/

theorem Unneeded.of_eq (h : s.Unneeded) (hcalls : s'.calls = s.calls)
    (hlifecycle : s'.lifecycle = s.lifecycle) : s'.Unneeded where
  calls := hcalls ▸ h.calls
  authGrants := hlifecycle ▸ h.authGrants
  activeSessions := hlifecycle ▸ h.activeSessions

theorem Unneeded.setRequest (h : s.Unneeded) (t : Nat) (request : ClientRequest) (id : UInt64)
    (mail : Mailbox) : (s.setCall t (.request request id mail)).Unneeded where
  calls t' call hcall := by
    rcases calls_setCall hcall with rfl | hcall
    · exact fun hx => hx
    · exact h.calls t' call hcall
  authGrants := h.authGrants
  activeSessions := h.activeSessions

theorem Unneeded.ret (h : s.Unneeded) (t : Nat) : (s.ret t).Unneeded where
  calls t' call hcall := h.calls t' call (calls_ret hcall)
  authGrants := h.authGrants
  activeSessions := h.activeSessions

theorem exchanging_deliver {call : Call} {id : UInt64} {result : Except NetworkClientError Bytes} :
    (call.deliver id result).Exchanging ↔ call.Exchanging := by
  unfold Call.deliver
  split <;> exact Iff.rfl

theorem Unneeded.respond (h : s.Unneeded) (pending : PendingRequest)
    (result : Except NetworkClientError Bytes) : (s.respond pending result).Unneeded where
  calls t call hcall := by
    by_cases ht : t = pending.caller
    · subst ht
      obtain ⟨call', hcall', rfl⟩ :=
        Option.map_eq_some_iff.mp ((Function.update_self _ _ s.calls).symm.trans hcall)
      exact exchanging_deliver.not.mpr (h.calls _ call' hcall')
    · exact h.calls t call ((Function.update_of_ne ht _ s.calls).symm.trans hcall)
  authGrants := h.authGrants
  activeSessions := h.activeSessions

theorem Unneeded.failAllPending (h : s.Unneeded) (error : NetworkClientError) :
    (s.failAllPending error).Unneeded := by
  have hfold : ∀ (pendings : List PendingRequest) (s : Connection), s.Unneeded →
      (pendings.foldl (fun s pending => s.respond pending (.error error)) s).Unneeded := by
    intro pendings
    induction pendings with
    | nil => exact fun s h => h
    | cons pending pendings ih => exact fun s h => ih _ (h.respond pending _)
  exact (hfold s.pendingRequests s h).of_eq rfl rfl

theorem Unneeded.allocate (h : s.Unneeded) : s.allocateRequestId.2.Unneeded := by
  unfold allocateRequestId
  split_ifs
  · exact h.of_eq rfl rfl
  · exact h.of_eq rfl rfl

theorem Unneeded.sendRequest (h : s.Unneeded) (t : Nat) (id : UInt64) (op : ClientOperationCode)
    (payload : Bytes) (writing : Bool) : (s.sendRequest t id op payload writing).2.Unneeded := by
  obtain ⟨connected, hconnected⟩ := sendPayload_eq s payload writing
  unfold Connection.sendRequest
  split_ifs
  · exact h
  · rcases hsend : s.sendPayload payload writing with ⟨_ | _, s'⟩
    · obtain rfl : s' = { s with connected } := (congrArg Prod.snd hsend).symm.trans hconnected
      exact h.of_eq rfl rfl
    · obtain rfl : s' = { s with connected } := (congrArg Prod.snd hsend).symm.trans hconnected
      exact h.of_eq rfl rfl

/-- A session is cleared. -/
theorem Unneeded.clearSession (h : s.Unneeded) (sessionId : UInt64) (hcalls : s'.calls = s.calls)
    (hlifecycle : s'.lifecycle = s.lifecycle.clearSession sessionId) : s'.Unneeded where
  calls := hcalls ▸ h.calls
  authGrants := hlifecycle ▸ h.authGrants
  activeSessions := by
    rw [hlifecycle]
    show s.lifecycle.activeSessions.erase sessionId = ∅
    rw [h.activeSessions, Finset.erase_empty]

theorem Unneeded.dispatchResponse (h : s.Unneeded) {payload : Bytes}
    (hs : s.dispatchResponse payload = .ok s') : s'.Unneeded := by
  unfold Connection.dispatchResponse at hs
  split at hs
  · cases hs
  next header hheader =>
  split_ifs at hs
  · split at hs
    · cases hs
    next notice hnotice =>
    cases hs
    exact h.clearSession notice.sessionId rfl rfl
  · split at hs
    · cases hs
    · cases hs
      exact h
  · split at hs
    · cases hs
    next pending s₁ htake =>
    obtain rfl : (s.takePendingRequest header.requestId).2 = s₁ := congrArg Prod.snd htake
    have htaken : (s.takePendingRequest header.requestId).2.Unneeded := h.of_eq rfl rfl
    split_ifs at hs
    · cases hs
      exact htaken.respond pending _
    · cases hs
      exact htaken.respond pending _

theorem Unneeded.useSession (h : s.Unneeded) (i : Nat) (d : DiskSession) :
    (s.useSession i d).Unneeded := by
  unfold Connection.useSession
  split
  · exact h
  · split_ifs
    · exact h
    · exact h.clearSession d.sessionId rfl rfl

theorem Unneeded.closeSession (h : s.Unneeded) (i : Nat) (d : DiskSession) :
    (s.closeSession i d).Unneeded := by
  unfold Connection.closeSession
  split_ifs
  · exact h
  · exact h.clearSession d.sessionId rfl rfl

theorem Unneeded.requestError (h : s.Unneeded) (i : Nat) (d : DiskSession)
    (error : ProtocolClientError) : (s.requestError i d error).Unneeded := by
  unfold Connection.requestError
  split_ifs
  · exact h.clearSession d.sessionId rfl rfl
  · exact h

/-- The only calls that are left are requests. -/
theorem Unneeded.request (h : s.Unneeded) {call : Call} (hcall : s.calls t = some call) :
    ∃ request id mail, call = .request request id mail := by
  have hexchanging := h.calls t call hcall
  cases call with
  | request request id mail => exact ⟨request, id, mail, rfl⟩
  | _ => exact absurd trivial hexchanging

/-- **One step**, if no call begins. -/
theorem Unneeded.step {a : ConnectionAction} (h : s.Unneeded) (hbegins : ¬ a.Begins)
    (hs : s.step zstd a = some s') : s'.Unneeded := by
  cases a with
  | authenticate t claimCode sha512 =>
    simp only [Connection.step] at hs
    split at hs
    · next material _ hparse => exact absurd ⟨material, hparse⟩ hbegins
    · cases hs
      exact h
    · cases hs
  | openSession t grant => exact absurd trivial hbegins
  | request t request =>
    simp only [Connection.step] at hs
    split_ifs at hs
    cases hs
    exact h.allocate.setRequest t request _ _
  | lockedSection t =>
    obtain ⟨call, hcall, hs⟩ := Option.bind_eq_some_iff.mp hs
    obtain ⟨request, id, mail, rfl⟩ := h.request hcall
    cases hs
  | send t writing =>
    obtain ⟨call, hcall, hs⟩ := Option.bind_eq_some_iff.mp hs
    obtain ⟨request, id, mail, rfl⟩ := h.request hcall
    cases mail with
    | unsent =>
      simp only [Connection.send] at hs
      split at hs
      · cases hs
        exact h.ret t
      · cases hs
        exact (h.sendRequest t _ _ _ writing).setRequest t _ _ _
    | _ => cases hs
  | receive t proof =>
    obtain ⟨call, hcall, hs⟩ := Option.bind_eq_some_iff.mp hs
    obtain ⟨request, id, mail, rfl⟩ := h.request hcall
    cases mail with
    | received result =>
      cases hs
      exact h.ret t
    | _ => cases hs
  | timeout t =>
    simp only [Connection.step] at hs
    split at hs
    · cases hs
      exact h.ret t
    · cases hs
  | dispatch payload =>
    simp only [Connection.step] at hs
    split_ifs at hs
    split at hs
    · next s₁ hdispatch =>
      cases hs
      exact h.dispatchResponse hdispatch
    · cases hs
      exact h.of_eq rfl rfl
  | transportDown =>
    cases hs
    exact h.of_eq rfl rfl
  | handleDisconnect =>
    simp only [Connection.step] at hs
    split_ifs at hs
    cases hs
    exact h.of_eq rfl rfl
  | failAllPending error =>
    simp only [Connection.step] at hs
    split_ifs at hs
    cases hs
    exact (h.failAllPending error).of_eq rfl rfl
  | resetLifecycle =>
    simp only [Connection.step] at hs
    split_ifs at hs
    cases hs
    exact ⟨h.calls, rfl, rfl⟩
  | newSession sessionId =>
    simp only [Connection.step, Connection.newSession] at hs
    split_ifs at hs
    · cases hs
    · cases hs
    · cases hs
      exact h.of_eq rfl rfl
  | useSession i =>
    obtain ⟨d, -, rfl⟩ := Option.map_eq_some_iff.mp hs
    exact h.useSession i d
  | closeSession i =>
    obtain ⟨d, -, rfl⟩ := Option.map_eq_some_iff.mp hs
    exact h.closeSession i d
  | requestError i error =>
    obtain ⟨d, -, rfl⟩ := Option.map_eq_some_iff.mp hs
    exact h.requestError i d error
  | discardAuthGrant authId =>
    cases hs
    refine ⟨h.calls, ?_, h.activeSessions⟩
    show s.lifecycle.authGrants.filter _ = []
    rw [h.authGrants, List.filter_nil]

/-! ## A connection that is down stays so -/

theorem connected_of_lockedSection {call : Call} (hs : s.lockedSection t call = some s') :
    s'.connected = s.connected := by
  unfold Connection.lockedSection at hs
  grind [setCall, ret, allocateRequestId]

theorem connected_of_send {writing : Bool} {call : Call} (hs : s.send zstd t writing call = some s')
    (hup : s'.connected = true) : s.connected = true := by
  have hsend := fun id op payload => (quiet_sendRequest s t id op payload writing).connected
  unfold Connection.send at hs
  grind [setCall, ret]

theorem connected_of_receive {proof : Except NetworkClientError (Vector UInt8 64)} {call : Call}
    (hs : s.receive t proof call = some s') : s'.connected = s.connected := by
  unfold Connection.receive at hs
  grind [setCall, ret, allocateRequestId]

theorem connected_of_dispatch {payload : Bytes} (hs : s.dispatchResponse payload = .ok s') :
    s'.connected = s.connected := by
  unfold Connection.dispatchResponse at hs
  grind [respond, closeNotice, takePendingRequest]

/-- No step brings a connection back. -/
theorem connected_of_step {a : ConnectionAction} (hs : s.step zstd a = some s')
    (hup : s'.connected = true) : s.connected = true := by
  cases a with
  | lockedSection t =>
    obtain ⟨call, -, hs⟩ := Option.bind_eq_some_iff.mp hs
    exact connected_of_lockedSection hs ▸ hup
  | send t writing =>
    obtain ⟨call, -, hs⟩ := Option.bind_eq_some_iff.mp hs
    exact connected_of_send hs hup
  | receive t proof =>
    obtain ⟨call, -, hs⟩ := Option.bind_eq_some_iff.mp hs
    exact connected_of_receive hs ▸ hup
  | dispatch payload =>
    simp only [Connection.step] at hs
    grind [connected_of_dispatch]
  | failAllPending error =>
    have hall := (quiet_failAllPending s error).connected
    simp only [Connection.step] at hs
    grind
  | _ =>
    simp only [Connection.step] at hs
    grind [setCall, ret, allocateRequestId, Connection.newSession, Connection.useSession,
      Connection.closeSession, Connection.requestError, markTerminal, markClosed, Except.toOption]

end Connection

namespace PooledConnection

inductive Action
  | connection (a : ConnectionAction)
  /-- `insert_draft`; the thread has the connection from `acquire_connection`. -/
  | insertDraft (draftId : Nat)
  /-- `remove_draft`, when a draft is submitted or disposed of. -/
  | removeDraft (draftId : Nat)
  /-- The pool asks whether the connection is idle. -/
  | checkIdle
  /-- The pool calls `close`. -/
  | close
  /-- The pool looks whether the connection is still up. -/
  | leave

/-- One section; what the pool does is under the mutex of the `NetworkClientState`. -/
def step (zstd : Zstd) (s : PooledConnection) : Action → Option PooledConnection
  | .connection a => (s.connection.step zstd a).map fun connection => { s with connection }
  | .insertDraft draftId =>
    if s.closing = none ∧ draftId ∉ s.drafts then
      some { s with drafts := draftId :: s.drafts }
    else
      none
  | .removeDraft draftId =>
    if s.closing = none then some { s with drafts := s.drafts.erase draftId } else none
  | .checkIdle =>
    if s.closing = none ∧ s.pooled = true then
      some { s with closing := some s.connection.lifecycle.shouldCloseAfterSessionClose }
    else
      none
  | .close =>
    if s.closing = some true then
      some { s with connection := { s.connection with connected := false }, closing := some false }
    else
      none
  | .leave =>
    if s.closing = some false then
      some { s with pooled := s.pooled && s.connection.connected, closing := none }
    else
      none

/-- **Nobody needs the connection**: no call needs it, and no draft holds it. -/
structure Unused (s : PooledConnection) : Prop where
  unneeded : s.connection.Unneeded
  drafts : s.drafts = []

/-- When the lifecycle says that the connection is idle, no call is where it does not show, and no
draft is there.  From then on no `authenticate` and no `open` begins until the pool has closed the
connection. -/
def CloseGuard (s : PooledConnection) : Action → Prop
  | .checkIdle => s.connection.lifecycle.shouldCloseAfterSessionClose = true →
    (∀ t call, s.connection.calls t = some call → ¬ call.Unmarked) ∧ s.drafts = []
  | .connection a => s.closing = some true → ¬ a.Begins
  | _ => True

/-- The flags are right, and what the pool has found still holds when it is about to close the
connection. -/
structure Settled (s : PooledConnection) : Prop where
  flagged : s.connection.Flagged
  unused : s.closing = some true → s.connection.connected = true → s.Unused

variable {zstd : Zstd} {s s' : PooledConnection}

theorem settled_init : Settled {} where
  flagged := Connection.flagged_init
  unused h := by cases h

theorem idle_iff (l : ConnectionLifecycle) : l.shouldCloseAfterSessionClose = true ↔
    l.authInFlight = false ∧ l.openInFlight = false ∧ l.activeSessions = ∅ ∧ l.authGrants = [] := by
  unfold ConnectionLifecycle.shouldCloseAfterSessionClose
  simp only [Bool.and_eq_true, Bool.not_eq_true', decide_eq_true_eq, List.isEmpty_iff, and_assoc]

/-- A call that shows in none of the flags is unmarked, or no exchange. -/
theorem unmarked_of_exchange {call : Call} (h : call.exchange = none) :
    ¬ call.Exchanging ∨ call.Unmarked := by
  cases call with
  | request => exact .inl fun hx => hx
  | authEntered => exact .inr trivial
  | authRegistering => exact .inr trivial
  | openEntered => exact .inr trivial
  | openConsuming => exact .inr trivial
  | _ => cases h

/-- **What the pool's check says**: an exchange that is under way has its flag, so that the
lifecycle misses the unmarked calls only. -/
theorem unneeded_of_idle (h : s.connection.Flagged) (hup : s.connection.connected = true)
    (hidle : s.connection.lifecycle.shouldCloseAfterSessionClose = true)
    (hcalls : ∀ t call, s.connection.calls t = some call → ¬ call.Unmarked) :
    s.connection.Unneeded := by
  obtain ⟨hauth, hopen, hsessions, hgrants⟩ := (idle_iff _).mp hidle
  refine ⟨fun t call hcall => ?_, hgrants, hsessions⟩
  have hnone := (Connection.exchange_of hcall).symm.trans (h.idle hup hauth hopen t)
  exact (unmarked_of_exchange hnone).resolve_right (hcalls t call hcall)

/-- **One step.** -/
theorem step_settled {a : Action} (h : s.Settled) (hguard : s.CloseGuard a)
    (hs : s.step zstd a = some s') : s'.Settled := by
  cases a with
  | connection a =>
    obtain ⟨connection, hconnection, rfl⟩ := Option.map_eq_some_iff.mp hs
    refine ⟨Connection.step_flagged h.flagged hconnection, fun hclosing hup => ?_⟩
    have hunused := h.unused hclosing (Connection.connected_of_step hconnection hup)
    exact ⟨hunused.unneeded.step (hguard hclosing) hconnection, hunused.drafts⟩
  | insertDraft draftId =>
    simp only [step] at hs
    split_ifs at hs with hnone
    cases hs
    exact ⟨h.flagged, fun hclosing => by cases hnone.1.symm.trans hclosing⟩
  | removeDraft draftId =>
    simp only [step] at hs
    split_ifs at hs with hnone
    cases hs
    exact ⟨h.flagged, fun hclosing => by cases hnone.symm.trans hclosing⟩
  | checkIdle =>
    simp only [step] at hs
    split_ifs at hs
    cases hs
    refine ⟨h.flagged, fun hclosing hup => ?_⟩
    -- the pool is going to close the connection because its lifecycle is idle
    have hidle := Option.some.inj hclosing
    obtain ⟨hcalls, hdrafts⟩ := hguard hidle
    exact ⟨unneeded_of_idle h.flagged hup hidle hcalls, hdrafts⟩
  | close =>
    simp only [step] at hs
    split_ifs at hs
    cases hs
    refine ⟨?_, fun hclosing => by cases hclosing⟩
    exact h.flagged.frame (fun _ => rfl) (fun hup => by cases hup) (fun _ => rfl) rfl h.flagged.ids
  | leave =>
    simp only [step] at hs
    split_ifs at hs
    cases hs
    exact ⟨h.flagged, fun hclosing => by cases hclosing⟩

/-- **The pool closes no connection that somebody needs**, in every run in which nothing is hidden
from the lifecycle when it says that the connection is idle, and nothing begins between that and the
close. -/
theorem close_unused {as : List Action} (hguard : StepsMeet (step zstd) CloseGuard {} as)
    (h : runFrom (step zstd) {} as = some s) (hclose : s.step zstd .close = some s')
    (hup : s.connection.connected = true) : s.Unused := by
  have hsettled := run_inv_of_guard (fun _ _ _ hi hg hs => step_settled hi hg hs) as {} s
    settled_init hguard h
  simp only [step] at hclose
  split_ifs at hclose with hclosing
  exact hsettled.unused hclosing hup

/-- A draft opens a session on the connection; it is submitted, and the session is closed.  The pool
finds the connection idle; a heartbeat has begun before it closes it. -/
def releasedRun : List Action :=
  .insertDraft 1 ::
    (Connection.opening ++ Connection.recording).map .connection ++
    [.connection (.lockedSection 0), .connection (.newSession 7)] ++
    [.removeDraft 1, .connection (.closeSession 0), .checkIdle,
      .connection (.request 1 .connHeartbeat)]

theorem stepsMeet_releasedRun : StepsMeet (step Connection.rawZstd) CloseGuard {} releasedRun := by
  have hfree : ∀ {s : PooledConnection} {a : ConnectionAction}, s.closing = none →
      s.CloseGuard (.connection a) := fun hnone hclosing => by cases hnone.symm.trans hclosing
  refine stepsMeet_cons trivial rfl ?_
  refine stepsMeet_cons (hfree rfl) rfl (stepsMeet_cons (hfree rfl) rfl ?_)
  refine stepsMeet_cons (hfree rfl) rfl (stepsMeet_cons (hfree rfl) rfl ?_)
  refine stepsMeet_cons (hfree rfl) rfl (stepsMeet_cons (hfree rfl) rfl ?_)
  refine stepsMeet_cons (hfree rfl) rfl (stepsMeet_cons (hfree rfl) rfl ?_)
  refine stepsMeet_cons trivial rfl (stepsMeet_cons (hfree rfl) rfl ?_)
  refine stepsMeet_cons (fun _ => ⟨fun t call hcall => ?_, rfl⟩) rfl ?_
  · -- thread 0 has returned
    cases t with
    | zero => cases hcall
    | succ t => cases hcall
  · exact stepsMeet_cons (fun _ hbegins => hbegins) rfl trivial

theorem releasedRun_unused : ∃ s s', runFrom (step Connection.rawZstd) {} releasedRun = some s ∧
    s.step Connection.rawZstd .close = some s' ∧ s'.connection.connected = false ∧ s.Unused := by
  obtain ⟨s, hs, hp⟩ := Lib.exists_run (step Connection.rawZstd) {} releasedRun
    (fun s => s.closing = some true && s.connection.connected) (by decide)
  rw [Bool.and_eq_true, decide_eq_true_eq] at hp
  have hclose : s.step Connection.rawZstd .close = some { s with
      connection := { s.connection with connected := false }, closing := some false } :=
    if_pos hp.1
  exact ⟨s, _, hs, hclose, rfl, close_unused stepsMeet_releasedRun hs hclose hp.2⟩

/-- Two drafts are created; the first is disposed of, and the pool closes the connection that the
second holds. -/
theorem close_takes_draft :
    ∃ s s', runFrom (step Connection.rawZstd) {}
      [.insertDraft 1, .insertDraft 2, .removeDraft 1, .checkIdle] = some s ∧
      s.connection.connected = true ∧ s.step Connection.rawZstd .close = some s' ∧
      s'.connection.connected = false ∧ s.drafts = [2] ∧ ¬ s.Unused := by
  obtain ⟨s, hs, hp⟩ := Lib.exists_run (step Connection.rawZstd) {}
    [.insertDraft 1, .insertDraft 2, .removeDraft 1, .checkIdle]
    (fun s => s.closing = some true && (s.connection.connected && s.drafts = [2]))
    (by decide)
  rw [Bool.and_eq_true, Bool.and_eq_true, decide_eq_true_eq, decide_eq_true_eq] at hp
  obtain ⟨hclosing, hup, hdrafts⟩ := hp
  refine ⟨s, _, hs, hup, if_pos hclosing, rfl, hdrafts, fun h => ?_⟩
  rw [h.drafts] at hdrafts
  cases hdrafts

end PooledConnection

end YumeDisk.Client
