import YumeDisk.Client.Callers

/-!
# A closed session stays closed (`gateway_connection.rs`, `session_opener.rs`)

The close notice of a session clears it, and `finish_session_open` records the session that the
response of an open carries.  The two come from different threads: a session stays closed as long as
no notice overtakes an open that has its response.

* `Call.Carries`: a call that is going to record a session.
* `OvertakeGuard`: a notice finds no such call, and no response follows the notice.
* `noticed_stays_closed`: **the result**, for runs whose steps meet the guard.
* `noticed_comes_back`: a run in which the notice is first.
-/

namespace YumeDisk.Client

open Lib (Bytes runFrom StepsMeet run_inv_of_guard stepsMeet_cons)
open Server (Zstd)

/-- The call is going to record `sessionId` as an active session. -/
def Call.Carries (sessionId : UInt64) : Call → Prop
  | .openStart _ id (.received (.ok payload)) =>
    SessionOpenResponse.decodeResponse payload id = .ok sessionId
  | .openFinishing _ id => id = sessionId
  | _ => False

namespace Connection

variable {zstd : Zstd} {s s' : Connection} {t : Nat}

/-- Every session whose close notice has been dispatched is closed, for the connection and for all
its disk sessions. -/
def NoticedClosed (s : Connection) : Prop :=
  ∀ id ∈ s.noticed, s.lifecycle.isSessionActive id = false ∧
    ∀ d ∈ s.diskSessions, d.sessionId = id → s.ensureUsable d = .error .sessionUnavailable

/-- No call that has the response of an open is overtaken by the notice of its session, and no
response of an open follows the notice. -/
def OvertakeGuard (s : Connection) : ConnectionAction → Prop
  | .dispatch payload =>
    (∀ notice, SessionCloseNotice.decodeNotice payload = .ok notice →
      ∀ t call, s.calls t = some call → ¬ call.Carries notice.sessionId) ∧
    ∀ t grant requestId id, s.calls t = some (.openStart grant requestId .waiting) →
      SessionOpenResponse.decodeResponse payload requestId = .ok id → id ∉ s.noticed
  | _ => True

structure Closed (s : Connection) : Prop where
  inactive : ∀ id ∈ s.noticed, id ∉ s.lifecycle.activeSessions
  carried : ∀ t call, s.calls t = some call → ∀ id ∈ s.noticed, ¬ call.Carries id
  terminal : ∀ d ∈ s.diskSessions, ∀ e ∈ d.terminalError, e = .sessionUnavailable

theorem closed_init : Closed {} where
  inactive _ h := (List.not_mem_nil h).elim
  carried _ _ h := nomatch h
  terminal _ h := (List.not_mem_nil h).elim

theorem Closed.noticedClosed (h : s.Closed) : s.NoticedClosed := by
  intro id hid
  have hinactive : s.lifecycle.isSessionActive id = false := by
    simpa [ConnectionLifecycle.isSessionActive] using h.inactive id hid
  refine ⟨hinactive, ?_⟩
  rintro d hd rfl
  unfold ensureUsable
  by_cases hclosed : d.closed = true
  · rw [if_pos hclosed]
  · rw [if_neg hclosed]
    cases hterminal : d.terminalError with
    | some e => rw [h.terminal d hd e hterminal]
    | none => simp [hinactive]

/-! ## What a step may do to the calls -/

theorem calls_setCall {call call' : Call} {t' : Nat} (h : (s.setCall t call).calls t' = some call') :
    call' = call ∨ s.calls t' = some call' := by
  by_cases ht : t' = t
  · subst ht
    exact .inl (Option.some.inj ((Function.update_self t' _ s.calls).symm.trans h)).symm
  · exact .inr ((Function.update_of_ne ht _ s.calls).symm.trans h)

theorem calls_ret {call' : Call} {t' : Nat} (h : (s.ret t).calls t' = some call') :
    s.calls t' = some call' := by
  by_cases ht : t' = t
  · subst ht
    exact nomatch (Function.update_self t' _ s.calls).symm.trans h
  · exact (Function.update_of_ne ht _ s.calls).symm.trans h

/-- A call that carries a session after a delivery carried it before, or has just been given it. -/
theorem Call.carries_deliver {call : Call} {requestId id : UInt64}
    {result : Except NetworkClientError Bytes} (h : (call.deliver requestId result).Carries id) :
    call.Carries id ∨ ∃ grant payload, call = .openStart grant requestId .waiting ∧
      result = .ok payload ∧ SessionOpenResponse.decodeResponse payload requestId = .ok id := by
  unfold Call.deliver at h
  split at h
  · cases h
  · cases h
  · next grant id' =>
    split_ifs at h with hid
    · subst hid
      cases result with
      | error e => cases h
      | ok payload => exact .inr ⟨grant, payload, rfl, rfl, h⟩
    · cases h
  · cases h
  · exact .inl h

/-- A step that records no session, dispatches no notice and gives no call the response of an
open. -/
theorem Closed.mono (h : s.Closed) (hnoticed : s'.noticed = s.noticed)
    (hactive : s'.lifecycle.activeSessions ⊆ s.lifecycle.activeSessions)
    (hcalls : ∀ t call, s'.calls t = some call → ∀ id ∈ s.noticed, ¬ call.Carries id)
    (hterminal : ∀ d ∈ s'.diskSessions, ∀ e ∈ d.terminalError, e = .sessionUnavailable) :
    s'.Closed where
  inactive id hid hmem := h.inactive id (hnoticed ▸ hid) (hactive hmem)
  carried t call hcall id hid := hcalls t call hcall id (hnoticed ▸ hid)
  terminal := hterminal

theorem Closed.setCall (h : s.Closed) (t : Nat) {call : Call} (hcall : ∀ id, ¬ call.Carries id) :
    (s.setCall t call).Closed :=
  h.mono rfl (Finset.Subset.refl _) (fun t' call' hcall' id hid => by
    rcases calls_setCall hcall' with rfl | hcall'
    · exact hcall id
    · exact h.carried t' call' hcall' id hid) h.terminal

theorem Closed.ret (h : s.Closed) (t : Nat) : (s.ret t).Closed :=
  h.mono rfl (Finset.Subset.refl _)
    (fun t' call' hcall' => h.carried t' call' (calls_ret hcall')) h.terminal

theorem Closed.setLifecycle (h : s.Closed) (lifecycle : ConnectionLifecycle)
    (hactive : lifecycle.activeSessions ⊆ s.lifecycle.activeSessions) :
    Closed { s with lifecycle } :=
  h.mono rfl hactive h.carried h.terminal

theorem Closed.respond (h : s.Closed) (pending : PendingRequest)
    {result : Except NetworkClientError Bytes}
    (hresult : ∀ payload, result = .ok payload → ∀ t grant id,
      s.calls t = some (.openStart grant pending.requestId .waiting) →
      SessionOpenResponse.decodeResponse payload pending.requestId = .ok id → id ∉ s.noticed) :
    (s.respond pending result).Closed := by
  refine h.mono rfl (Finset.Subset.refl _) ?_ h.terminal
  intro t call hcall id hid hcarries
  by_cases ht : t = pending.caller
  · subst ht
    obtain ⟨call', hcall', rfl⟩ :=
      Option.map_eq_some_iff.mp ((Function.update_self _ _ s.calls).symm.trans hcall)
    rcases Call.carries_deliver hcarries with hold | ⟨grant, payload, rfl, rfl, hdecode⟩
    · exact h.carried _ call' hcall' id hid hold
    · exact hresult payload rfl _ grant id hcall' hdecode hid
  · exact h.carried t call ((Function.update_of_ne ht _ s.calls).symm.trans hcall) id hid hcarries

theorem Closed.allocate (h : s.Closed) : s.allocateRequestId.2.Closed := by
  unfold allocateRequestId
  split_ifs
  · exact ⟨h.inactive, h.carried, h.terminal⟩
  · exact ⟨h.inactive, h.carried, h.terminal⟩

/-- A step that touches neither what is open nor what is under way. -/
theorem Closed.of_eq (h : s.Closed) (hnoticed : s'.noticed = s.noticed)
    (hlifecycle : s'.lifecycle = s.lifecycle) (hcalls : s'.calls = s.calls)
    (hsessions : s'.diskSessions = s.diskSessions) : s'.Closed :=
  h.mono hnoticed (hlifecycle ▸ Finset.Subset.refl _) (hcalls ▸ h.carried) (hsessions ▸ h.terminal)

/-! ## Requests -/

theorem Closed.failAllPending (h : s.Closed) (error : NetworkClientError) :
    (s.failAllPending error).Closed := by
  have hfold : ∀ (pendings : List PendingRequest) (s : Connection), s.Closed →
      (pendings.foldl (fun s pending => s.respond pending (.error error)) s).Closed := by
    intro pendings
    induction pendings with
    | nil => exact fun s h => h
    | cons pending pendings ih => exact fun s h => ih _ (h.respond pending nofun)
  exact (hfold s.pendingRequests s h).of_eq rfl rfl rfl rfl

theorem sendPayload_eq (s : Connection) (payload : Bytes) (writing : Bool) :
    ∃ connected, (s.sendPayload payload writing).2 = { s with connected } := by
  unfold sendPayload
  split_ifs
  · exact ⟨_, rfl⟩
  · exact ⟨_, rfl⟩
  · exact ⟨_, rfl⟩
  · exact ⟨_, rfl⟩

/-- `send_request` leaves the lifecycle, the calls and the disk sessions alone. -/
theorem Closed.sendRequest (h : s.Closed) (t : Nat) (id : UInt64) (op : ClientOperationCode)
    (payload : Bytes) (writing : Bool) : (s.sendRequest t id op payload writing).2.Closed := by
  obtain ⟨connected, hconnected⟩ := sendPayload_eq s payload writing
  unfold Connection.sendRequest
  split_ifs
  · exact h
  · rcases hsend : s.sendPayload payload writing with ⟨_ | _, s'⟩
    · obtain rfl : s' = { s with connected } := (congrArg Prod.snd hsend).symm.trans hconnected
      exact h.of_eq rfl rfl rfl rfl
    · obtain rfl : s' = { s with connected } := (congrArg Prod.snd hsend).symm.trans hconnected
      exact h.of_eq rfl rfl rfl rfl

/-- An exchange that `send_request` has begun holds no payload. -/
theorem sendRequest_mail (s : Connection) (t : Nat) (id : UInt64) (op : ClientOperationCode)
    (payload : Bytes) (writing : Bool) :
    (s.sendRequest t id op payload writing).1 = .waiting ∨
      ∃ e, (s.sendRequest t id op payload writing).1 = .received (.error e) := by
  unfold Connection.sendRequest
  split_ifs
  · exact .inr ⟨_, rfl⟩
  · rcases s.sendPayload payload writing with ⟨_ | _, s'⟩
    · exact .inr ⟨_, rfl⟩
    · exact .inl rfl

theorem not_carries_sent {grant : AuthGrant} {id session : UInt64} {mail : Mailbox}
    (h : mail = .waiting ∨ ∃ e, mail = .received (.error e)) :
    ¬ (Call.openStart grant id mail).Carries session := by
  rcases h with rfl | ⟨e, rfl⟩
  · exact fun hcarries => hcarries
  · exact fun hcarries => hcarries

/-! ## The receive thread -/

theorem Closed.dispatchResponse (h : s.Closed) {payload : Bytes}
    (hguard : s.OvertakeGuard (.dispatch payload))
    (hs : s.dispatchResponse payload = .ok s') : s'.Closed := by
  unfold Connection.dispatchResponse at hs
  split at hs
  · cases hs
  next header hheader =>
  split_ifs at hs with hclose hchanged hflags
  · split at hs
    · cases hs
    next notice hnotice =>
    cases hs
    refine ⟨?_, ?_, h.terminal⟩
    · intro id hid hmem
      obtain ⟨hne, hmem⟩ := Finset.mem_erase.mp hmem
      exact h.inactive id ((List.mem_cons.mp hid).resolve_left hne) hmem
    · intro t call hcall id hid
      rcases List.mem_cons.mp hid with rfl | hid
      · exact hguard.1 notice hnotice t call hcall
      · exact h.carried t call hcall id hid
  · split at hs
    · cases hs
    · cases hs
      exact h
  · split at hs
    · cases hs
    next pending s₁ htake =>
    have htaken : (s.takePendingRequest header.requestId).2.Closed := h.of_eq rfl rfl rfl rfl
    obtain rfl : (s.takePendingRequest header.requestId).2 = s₁ := congrArg Prod.snd htake
    split_ifs at hs
    · cases hs
      exact htaken.respond pending nofun
    · cases hs
      refine htaken.respond pending fun payload' hp t grant id hcall hdecode => ?_
      cases hp
      exact hguard.2 t grant pending.requestId id hcall hdecode

/-! ## Disk sessions -/

theorem terminal_set {d : DiskSession} {i : Nat}
    (h : ∀ d ∈ s.diskSessions, ∀ e ∈ d.terminalError, e = .sessionUnavailable)
    (hd : ∀ e ∈ d.terminalError, e = .sessionUnavailable) :
    ∀ d' ∈ s.diskSessions.set i d, ∀ e ∈ d'.terminalError, e = .sessionUnavailable := by
  intro d' hd'
  rcases List.mem_or_eq_of_mem_set hd' with hmem | rfl
  · exact h d' hmem
  · exact hd

theorem Closed.markTerminal (h : s.Closed) {i : Nat} {d : DiskSession}
    (hd : d ∈ s.diskSessions) : (s.markTerminal i d .sessionUnavailable).Closed := by
  refine h.mono rfl (Finset.erase_subset _ _) h.carried (terminal_set h.terminal ?_)
  intro e he
  cases hterminal : d.terminalError with
  | none => exact (Option.some.inj ((congrArg (fun o => some (Option.getD o _)) hterminal).symm.trans
      he)).symm
  | some e' =>
    rw [← h.terminal d hd e' hterminal]
    exact (Option.some.inj ((congrArg (fun o => some (Option.getD o _)) hterminal).symm.trans
      he)).symm

theorem ensureUsable_error {d : DiskSession} {error : NetworkClientError}
    (hd : ∀ e ∈ d.terminalError, e = .sessionUnavailable) (h : s.ensureUsable d = .error error) :
    error = .sessionUnavailable := by
  unfold ensureUsable at h
  by_cases hclosed : d.closed = true
  · rw [if_pos hclosed] at h
    exact (Except.error.inj h).symm
  · rw [if_neg hclosed] at h
    cases hterminal : d.terminalError with
    | some e =>
      rw [hterminal] at h
      exact (Except.error.inj h) ▸ hd e hterminal
    | none =>
      rw [hterminal] at h
      dsimp only at h
      split_ifs at h
      exact (Except.error.inj h).symm

theorem Closed.useSession (h : s.Closed) {i : Nat} {d : DiskSession} (hd : d ∈ s.diskSessions) :
    (s.useSession i d).Closed := by
  unfold Connection.useSession
  split
  · exact h
  next error herror =>
  rw [ensureUsable_error (h.terminal d hd) herror]
  split_ifs
  · exact h
  · exact h.markTerminal hd

theorem Closed.closeSession (h : s.Closed) {i : Nat} {d : DiskSession} (hd : d ∈ s.diskSessions) :
    (s.closeSession i d).Closed := by
  unfold Connection.closeSession
  split_ifs
  · exact h
  · exact h.mono rfl (Finset.erase_subset _ _) h.carried (terminal_set h.terminal (h.terminal d hd))

theorem Closed.requestError (h : s.Closed) {i : Nat} {d : DiskSession} (hd : d ∈ s.diskSessions)
    (error : ProtocolClientError) : (s.requestError i d error).Closed := by
  unfold Connection.requestError
  split_ifs
  · exact h.markTerminal hd
  · exact h

theorem Closed.newSession (h : s.Closed) {sessionId : UInt64}
    (hs : s.newSession sessionId = .ok s') : s'.Closed := by
  unfold Connection.newSession at hs
  split_ifs at hs
  cases hs
  refine h.mono rfl (Finset.Subset.refl _) h.carried ?_
  intro d hd
  rcases List.mem_append.mp hd with hd | hd
  · exact h.terminal d hd
  · rw [List.mem_singleton.mp hd]
    exact fun e he => nomatch he

/-! ## Calls -/

theorem Closed.lockedSection (h : s.Closed) {t : Nat} {call : Call} (hcall : s.calls t = some call)
    (hs : s.lockedSection t call = some s') : s'.Closed := by
  unfold Connection.lockedSection at hs
  split at hs
  · next material =>
    split at hs
    · cases hs
      exact h.ret t
    next lifecycle hbegin =>
    obtain ⟨-, -, rfl⟩ := ConnectionLifecycle.beginAuth_ok hbegin
    cases hs
    refine Closed.setCall ?_ t fun _ hcarries => hcarries
    exact Closed.allocate (h.setLifecycle _ (Finset.Subset.refl _))
  · cases hs
    exact (h.setLifecycle s.lifecycle.failAuth (Finset.Subset.refl _)).ret t
  · next grant =>
    split at hs
    · cases hs
      exact h.setCall t (fun _ hcarries => hcarries)
    next lifecycle hfinish =>
    obtain ⟨-, -, rfl⟩ := ConnectionLifecycle.finishAuth_ok hfinish
    cases hs
    refine Closed.setCall ?_ t fun _ hcarries => hcarries
    exact h.setLifecycle _ (Finset.Subset.refl _)
  · next grant =>
    cases hs
    exact (h.setLifecycle (s.lifecycle.registerAuthGrant grant) (Finset.Subset.refl _)).ret t
  · next grant =>
    split at hs
    · cases hs
      exact h.ret t
    next lifecycle hbegin =>
    obtain ⟨-, -, rfl⟩ := ConnectionLifecycle.beginSessionOpen_ok hbegin
    cases hs
    refine Closed.setCall ?_ t fun _ hcarries => hcarries
    exact Closed.allocate (h.setLifecycle _ (Finset.Subset.refl _))
  · cases hs
    have hfailed := h.setLifecycle s.lifecycle.failSessionOpen (Finset.Subset.refl _)
    split_ifs
    · exact hfailed.setCall t (fun _ hcarries => hcarries)
    · exact hfailed.ret t
  · next grant sessionId =>
    split at hs
    · cases hs
      exact h.setCall t (fun _ hcarries => hcarries)
    next lifecycle hfinish =>
    obtain ⟨-, -, -, rfl⟩ := ConnectionLifecycle.finishSessionOpen_ok hfinish
    cases hs
    -- the session that is recorded is the one that the call carried
    refine ⟨?_, ?_, h.terminal⟩
    · intro id hid hmem
      rcases Finset.mem_insert.mp hmem with rfl | hmem
      · exact h.carried t _ hcall id hid rfl
      · exact h.inactive id hid hmem
    · intro t' call' hcall' id hid
      rcases calls_setCall hcall' with rfl | hcall'
      · exact fun hcarries => hcarries
      · exact h.carried t' call' hcall' id hid
  · next grant =>
    cases hs
    exact (h.setLifecycle (s.lifecycle.consumeAuthGrant grant.authId) (Finset.Subset.refl _)).ret t
  · cases hs

theorem Closed.send (h : s.Closed) {writing : Bool} {call : Call}
    (hs : s.send zstd t writing call = some s') : s'.Closed := by
  unfold Connection.send at hs
  split at hs
  · split at hs
    · cases hs
      exact h.ret t
    · cases hs
      exact (h.sendRequest t _ _ _ writing).setCall t (fun _ hcarries => hcarries)
  · split at hs
    · cases hs
      exact h.setCall t (fun _ hcarries => hcarries)
    · cases hs
      exact (h.sendRequest t _ _ _ writing).setCall t (fun _ hcarries => hcarries)
  · next grant id =>
    split at hs
    · cases hs
      exact h.ret t
    next payload hencode =>
    cases hs
    exact (h.sendRequest t _ _ _ writing).setCall t
      (fun session => not_carries_sent (sendRequest_mail s t id .sessionOpen payload writing))
  · split at hs
    · cases hs
      exact h.ret t
    · cases hs
      exact (h.sendRequest t _ _ _ writing).setCall t (fun _ hcarries => hcarries)
  · cases hs

theorem Closed.receive (h : s.Closed) {proof : Except NetworkClientError (Vector UInt8 64)}
    {call : Call} (hcall : s.calls t = some call) (hs : s.receive t proof call = some s') :
    s'.Closed := by
  unfold Connection.receive at hs
  split at hs
  · cases hs
    exact h.setCall t (fun _ hcarries => hcarries)
  · split at hs
    · cases hs
      exact h.setCall t (fun _ hcarries => hcarries)
    · cases hs
      exact h.setCall t (fun _ hcarries => hcarries)
    · cases hs
      exact h.allocate.setCall t (fun _ hcarries => hcarries)
  · cases hs
    exact h.setCall t (fun _ hcarries => hcarries)
  · split at hs
    · cases hs
      exact h.setCall t (fun _ hcarries => hcarries)
    · split at hs
      · cases hs
        exact h.setCall t (fun _ hcarries => hcarries)
      · cases hs
        exact h.setCall t (fun _ hcarries => hcarries)
  · cases hs
    exact h.setCall t (fun _ hcarries => hcarries)
  · next grant id payload =>
    split at hs
    · cases hs
      exact h.setCall t (fun _ hcarries => hcarries)
    next session hdecode =>
    cases hs
    refine h.mono rfl (Finset.Subset.refl _) ?_ h.terminal
    intro t' call' hcall' id' hid hcarries
    rcases calls_setCall hcall' with rfl | hcall'
    · -- the call carried the session in the payload
      refine h.carried t _ hcall id' hid ?_
      cases hresponse : SessionOpenResponse.decodeResponse payload id with
      | error e =>
        rw [hresponse] at hdecode
        cases hdecode
      | ok session' =>
        rw [hresponse] at hdecode
        cases hdecode
        cases hcarries
        exact hresponse
    · exact h.carried t' call' hcall' id' hid hcarries
  · cases hs
    exact h.ret t
  · cases hs

theorem Closed.step {a : ConnectionAction} (h : s.Closed) (hguard : s.OvertakeGuard a)
    (hs : s.step zstd a = some s') : s'.Closed := by
  cases a with
  | authenticate t claimCode sha512 =>
    simp only [Connection.step] at hs
    split at hs
    · cases hs
      exact h.setCall t (fun _ hcarries => hcarries)
    · cases hs
      exact h
    · cases hs
  | openSession t grant =>
    simp only [Connection.step] at hs
    split_ifs at hs
    cases hs
    exact h.setCall t (fun _ hcarries => hcarries)
  | request t request =>
    simp only [Connection.step] at hs
    split_ifs at hs
    cases hs
    exact h.allocate.setCall t (fun _ hcarries => hcarries)
  | lockedSection t =>
    obtain ⟨call, hcall, hs⟩ := Option.bind_eq_some_iff.mp hs
    exact h.lockedSection hcall hs
  | send t writing =>
    obtain ⟨call, -, hs⟩ := Option.bind_eq_some_iff.mp hs
    exact h.send hs
  | receive t proof =>
    obtain ⟨call, hcall, hs⟩ := Option.bind_eq_some_iff.mp hs
    exact h.receive hcall hs
  | timeout t =>
    simp only [Connection.step] at hs
    split at hs
    · cases hs
      exact h.ret t
    · cases hs
  | dispatch payload =>
    simp only [Connection.step] at hs
    split_ifs at hs
    split at hs
    · next s₁ hdispatch =>
      cases hs
      exact h.dispatchResponse hguard hdispatch
    · cases hs
      exact h.of_eq rfl rfl rfl rfl
  | transportDown =>
    cases hs
    exact h.of_eq rfl rfl rfl rfl
  | handleDisconnect =>
    simp only [Connection.step] at hs
    split_ifs at hs
    cases hs
    exact h.of_eq rfl rfl rfl rfl
  | failAllPending error =>
    simp only [Connection.step] at hs
    split_ifs at hs
    cases hs
    exact (h.failAllPending error).of_eq rfl rfl rfl rfl
  | resetLifecycle =>
    simp only [Connection.step] at hs
    split_ifs at hs
    cases hs
    exact h.mono rfl (Finset.empty_subset _) h.carried h.terminal
  | newSession sessionId =>
    simp only [Connection.step] at hs
    cases hnew : s.newSession sessionId with
    | error e =>
      rw [hnew] at hs
      cases hs
    | ok s₁ =>
      rw [hnew] at hs
      cases hs
      exact h.newSession hnew
  | useSession i =>
    obtain ⟨d, hd, rfl⟩ := Option.map_eq_some_iff.mp hs
    exact h.useSession (List.mem_of_getElem? hd)
  | closeSession i =>
    obtain ⟨d, hd, rfl⟩ := Option.map_eq_some_iff.mp hs
    exact h.closeSession (List.mem_of_getElem? hd)
  | requestError i error =>
    obtain ⟨d, hd, rfl⟩ := Option.map_eq_some_iff.mp hs
    exact h.requestError (List.mem_of_getElem? hd) error
  | discardAuthGrant authId =>
    cases hs
    exact h.setLifecycle (s.lifecycle.consumeAuthGrant authId) (Finset.Subset.refl _)

/-- **A closed session never comes back**, in every run in which no notice overtakes an open that
has its response. -/
theorem noticed_stays_closed {as : List ConnectionAction}
    (hguard : StepsMeet (Connection.step zstd) OvertakeGuard {} as)
    (h : runFrom (Connection.step zstd) {} as = some s) : s.NoticedClosed :=
  (run_inv_of_guard (fun _ _ _ hi hg hs => Closed.step hi hg hs) as {} s closed_init hguard
    h).noticedClosed

/-! ## Two runs -/

/-- A package that compresses nothing; no step of the runs uses it. -/
def rawZstd : Zstd := ⟨fun _ _ => none, fun _ => none⟩

/-- The response of request 1, an open, with session 7. -/
def openResponse : Bytes :=
  ProtocolHeader.encode
    { protocolVersion, headerLen, opCode := .sessionOpen, flags := flagResponse, statusCode := .ok,
      reserved := 0, requestId := 1, sessionId := 7 } []

/-- The close notice of session 7; its route has been lost. -/
def routeLostNotice : Bytes := (noticeHeader .sessionCloseNotice 7).encode (Server.putUint16 1)

def someGrant : AuthGrant := ⟨[65], 3, by decide, by decide⟩

/-- Thread 0 opens session 7, and the receive thread dispatches the response. -/
def opening : List ConnectionAction :=
  [.openSession 0 someGrant, .lockedSection 0, .send 0 true, .dispatch openResponse]

/-- Thread 0 takes the response and records the session. -/
def recording : List ConnectionAction := [.receive 0 (.error (.crypto "")), .lockedSection 0]

/-- The notice right behind the response is dispatched before thread 0 records the session. -/
theorem noticed_comes_back :
    ¬ ∀ (as : List ConnectionAction) (s : Connection),
      runFrom (Connection.step rawZstd) {} as = some s → s.NoticedClosed := by
  intro h
  obtain ⟨s, hs, hp⟩ := Lib.exists_run (Connection.step rawZstd) {}
    (opening ++ .dispatch routeLostNotice :: recording)
    (fun s => s.noticed = [7] && s.lifecycle.isSessionActive 7) (by decide)
  rw [Bool.and_eq_true, decide_eq_true_eq] at hp
  have hclosed := (h _ s hs 7 (by rw [hp.1]; exact List.mem_singleton_self 7)).1
  rw [hp.2] at hclosed
  cases hclosed

/-- The notice comes when thread 0 has recorded the session and a disk session uses it. -/
def recordedRun : List ConnectionAction :=
  opening ++ recording ++ [.newSession 7, .dispatch routeLostNotice]

theorem stepsMeet_recordedRun :
    StepsMeet (Connection.step rawZstd) OvertakeGuard {} recordedRun := by
  have hdecode : ∀ notice, SessionCloseNotice.decodeNotice openResponse ≠ .ok notice := by
    intro notice
    have h : SessionCloseNotice.decodeNotice openResponse =
      .error (.unexpectedFlags flagNotice flagResponse) := by decide
    rw [h]
    exact nofun
  refine stepsMeet_cons trivial rfl (stepsMeet_cons trivial rfl (stepsMeet_cons trivial rfl ?_))
  refine stepsMeet_cons ⟨fun notice h => absurd h (hdecode notice), nofun⟩ rfl ?_
  refine stepsMeet_cons trivial rfl (stepsMeet_cons trivial rfl (stepsMeet_cons trivial rfl ?_))
  refine stepsMeet_cons ⟨fun _ _ t call hcall => ?_, fun t _ _ _ hcall => ?_⟩ rfl trivial
  · cases t with
    | zero =>
      cases hcall
      exact fun hcarries => hcarries
    | succ t => cases hcall
  · cases t with
    | zero => cases hcall
    | succ t => cases hcall

theorem recorded_stays_closed : ∃ s, runFrom (Connection.step rawZstd) {} recordedRun = some s ∧
    s.noticed = [7] ∧ s.diskSessions.length = 1 ∧ s.NoticedClosed := by
  obtain ⟨s, hs, hp⟩ := Lib.exists_run (Connection.step rawZstd) {} recordedRun
    (fun s => s.noticed = [7] && s.diskSessions.length = 1) (by decide)
  rw [Bool.and_eq_true, decide_eq_true_eq, decide_eq_true_eq] at hp
  exact ⟨s, hs, hp.1, hp.2, noticed_stays_closed stepsMeet_recordedRun hs⟩

end Connection

end YumeDisk.Client
