import YumeDisk.Client.Callers

/-!
# The flag of an exchange (`gateway_connection.rs`)

`auth_in_flight` and `open_in_flight` say that an exchange is under way.  From the section that sets
its flag to the one that clears it an exchange has the flag for itself, and a flag is never left
behind, until the connection is lost and `reset_lifecycle` clears both.

* `Call.exchange`: the exchange that a call has begun and not ended.
* `Connection.Flagged`: the invariant.
* `step_flagged`: one step.
* `Flagged.exclusive`, `Flagged.idle`: what the flags say.
-/

namespace YumeDisk.Client

open Lib (Bytes)
open Server (Zstd)

/-- What the two flags of a lifecycle are about. -/
inductive Exchange
  | auth
  | sessionOpen
deriving DecidableEq, Repr

def ConnectionLifecycle.inFlight (l : ConnectionLifecycle) : Exchange → Bool
  | .auth => l.authInFlight
  | .sessionOpen => l.openInFlight

/-- The exchange that the call has begun and not ended. -/
def Call.exchange : Call → Option Exchange
  | .authStart .. | .authFinish .. | .authFailing | .authFinishing _ => some .auth
  | .openStart .. | .openFailing .. | .openFinishing .. => some .sessionOpen
  | _ => none

/-- The request that the call sends and waits for. -/
def Call.requestId : Call → Option UInt64
  | .authStart _ id _ | .authFinish _ _ id _ | .openStart _ id _ | .request _ id _ => some id
  | _ => none

namespace Connection

variable {zstd : Zstd} {s s' : Connection} {t : Nat} {call : Call}

/-- Something about the call of each thread. -/
def project {β : Type} (f : Call → Option β) (s : Connection) (t : Nat) : Option β :=
  (s.calls t).bind f

/-- The exchange of thread `t`. -/
def exchange (s : Connection) : Nat → Option Exchange := s.project Call.exchange

/-- The request of thread `t`. -/
def requestId (s : Connection) : Nat → Option UInt64 := s.project Call.requestId

/-- While the connection is up, every exchange has its flag, a flag is that of an exchange, and
there is one at most. -/
structure Flagged (s : Connection) : Prop where
  down : s.disconnect ≠ .notStarted → s.connected = false
  ids : ∀ t id, s.requestId t = some id → id ≠ 0
  flag : s.connected = true → ∀ t e, s.exchange t = some e → s.lifecycle.inFlight e = true
  held : s.connected = true → ∀ e, s.lifecycle.inFlight e = true → ∃ t, s.exchange t = some e
  one : s.connected = true → ∀ t t' e e', s.exchange t = some e → s.exchange t' = some e' → t = t'

theorem flagged_init : Flagged {} where
  down h := absurd rfl h
  ids _ _ h := by cases h
  flag _ _ _ h := by cases h
  held _ e h := by cases e <;> cases h
  one _ _ _ _ _ h := by cases h

/-! ## What the flags say -/

/-- **No exchange is under way** when both flags are clear. -/
theorem Flagged.idle (h : s.Flagged) (hup : s.connected = true)
    (hauth : s.lifecycle.authInFlight = false) (hopen : s.lifecycle.openInFlight = false) (t : Nat) :
    s.exchange t = none := by
  cases he : s.exchange t with
  | none => rfl
  | some e =>
    have hset := h.flag hup t e he
    cases e with
    | auth => exact absurd (hauth.symm.trans hset) nofun
    | sessionOpen => exact absurd (hopen.symm.trans hset) nofun

/-! ## What a step does to the calls -/

section Project

variable {β : Type} (f : Call → Option β)

theorem project_setCall (s : Connection) (t : Nat) (call : Call) :
    (s.setCall t call).project f = Function.update (s.project f) t (f call) := by
  funext t'
  unfold project setCall
  dsimp only
  by_cases ht : t' = t
  · subst ht
    rw [Function.update_self, Function.update_self]
    rfl
  · rw [Function.update_of_ne ht, Function.update_of_ne ht]

theorem project_ret (s : Connection) (t : Nat) :
    (s.ret t).project f = Function.update (s.project f) t none := by
  funext t'
  unfold project ret
  dsimp only
  by_cases ht : t' = t
  · subst ht
    rw [Function.update_self, Function.update_self]
    rfl
  · rw [Function.update_of_ne ht, Function.update_of_ne ht]

theorem project_respond (hf : ∀ call id result, f (Call.deliver id result call) = f call)
    (s : Connection) (pending : PendingRequest) (result : Except NetworkClientError Bytes) :
    (s.respond pending result).project f = s.project f := by
  funext t
  unfold project respond
  dsimp only
  by_cases ht : t = pending.caller
  · subst ht
    rw [Function.update_self]
    cases s.calls pending.caller with
    | none => rfl
    | some call => exact hf call _ _
  · rw [Function.update_of_ne ht]

end Project

/-- A response ends no exchange. -/
theorem exchange_deliver (call : Call) (id : UInt64) (result : Except NetworkClientError Bytes) :
    (call.deliver id result).exchange = call.exchange := by
  unfold Call.deliver
  split <;> rfl

theorem requestId_deliver (call : Call) (id : UInt64) (result : Except NetworkClientError Bytes) :
    (call.deliver id result).requestId = call.requestId := by
  unfold Call.deliver
  split <;> rfl

/-! ## Steps that begin and end no exchange -/

/-- A step that leaves the lifecycle and the calls alone. -/
structure Quiet (s s' : Connection) : Prop where
  disconnect : s'.disconnect = s.disconnect
  connected : s'.connected = true → s.connected = true
  lifecycle : s'.lifecycle = s.lifecycle
  exchange : s'.exchange = s.exchange
  requestId : s'.requestId = s.requestId

theorem Quiet.refl (s : Connection) : Quiet s s := ⟨rfl, fun h => h, rfl, rfl, rfl⟩

theorem Quiet.trans {s'' : Connection} (h : Quiet s s') (h' : Quiet s' s'') : Quiet s s'' :=
  ⟨h'.disconnect.trans h.disconnect, fun hup => h.connected (h'.connected hup),
    h'.lifecycle.trans h.lifecycle, h'.exchange.trans h.exchange, h'.requestId.trans h.requestId⟩

theorem quiet_respond (s : Connection) (pending : PendingRequest)
    (result : Except NetworkClientError Bytes) : Quiet s (s.respond pending result) :=
  ⟨rfl, fun h => h, rfl, project_respond _ exchange_deliver s pending result,
    project_respond _ requestId_deliver s pending result⟩

theorem quiet_allocate (s : Connection) : Quiet s s.allocateRequestId.2 := by
  unfold allocateRequestId
  split_ifs <;> exact ⟨rfl, fun h => h, rfl, rfl, rfl⟩

theorem allocate_ne_zero (s : Connection) : s.allocateRequestId.1 ≠ 0 := by
  unfold allocateRequestId
  split_ifs with hzero
  · show (1 : UInt64) ≠ 0
    decide
  · exact hzero

/-- `send_request` may find the transport gone. -/
theorem quiet_sendRequest (s : Connection) (t : Nat) (id : UInt64) (op : ClientOperationCode)
    (payload : Bytes) (writing : Bool) :
    Quiet s (s.sendRequest t id op payload writing).2 := by
  have hpayload : Quiet s (s.sendPayload payload writing).2 := by
    unfold sendPayload
    split_ifs
    · exact .refl s
    · exact .refl s
    · exact ⟨rfl, nofun, rfl, rfl, rfl⟩
    · exact .refl s
  unfold sendRequest
  split_ifs
  · exact .refl s
  · generalize s.sendPayload payload writing = out at hpayload
    obtain ⟨result, s₁⟩ := out
    cases result with
    | error e => exact hpayload
    | ok _ => exact hpayload.trans ⟨rfl, fun h => h, rfl, rfl, rfl⟩

theorem quiet_failAllPending (s : Connection) (error : NetworkClientError) :
    Quiet s (s.failAllPending error) := by
  have hfold : ∀ (pendings : List PendingRequest) (s : Connection),
      Quiet s (pendings.foldl (fun s pending => s.respond pending (.error error)) s) := by
    intro pendings
    induction pendings with
    | nil => exact .refl
    | cons pending pendings ih => exact fun s => (quiet_respond s pending _).trans (ih _)
  exact (hfold s.pendingRequests s).trans ⟨rfl, fun h => h, rfl, rfl, rfl⟩

/-! ## The invariant -/

/-- A connection that is down stays so. -/
theorem Flagged.stays_down (h : s.Flagged) (hdisconnect : s'.disconnect = s.disconnect)
    (hconnected : s'.connected = true → s.connected = true) :
    s'.disconnect ≠ .notStarted → s'.connected = false := by
  intro hd
  cases hup : s'.connected with
  | false => rfl
  | true => exact absurd ((h.down (hdisconnect ▸ hd)).symm.trans (hconnected hup)) nofun

/-- A step that changes neither the flags nor the exchanges. -/
theorem Flagged.frame (h : s.Flagged) (hdown : s'.disconnect ≠ .notStarted → s'.connected = false)
    (hconnected : s'.connected = true → s.connected = true)
    (hflags : ∀ e, s'.lifecycle.inFlight e = s.lifecycle.inFlight e)
    (hexchange : s'.exchange = s.exchange) (hids : ∀ t id, s'.requestId t = some id → id ≠ 0) :
    s'.Flagged where
  down := hdown
  ids := hids
  flag hup t e he := (hflags e).trans (h.flag (hconnected hup) t e (hexchange ▸ he))
  held hup e he := hexchange ▸ h.held (hconnected hup) e ((hflags e).symm.trans he)
  one hup t t' e e' he he' := h.one (hconnected hup) t t' e e' (hexchange ▸ he) (hexchange ▸ he')

/-- A step that changes no call. -/
theorem Flagged.of_calls (h : s.Flagged) (hdisconnect : s'.disconnect = s.disconnect)
    (hconnected : s'.connected = s.connected)
    (hflags : ∀ e, s'.lifecycle.inFlight e = s.lifecycle.inFlight e) (hcalls : s'.calls = s.calls) :
    s'.Flagged := by
  have hproject : ∀ {β : Type} (f : Call → Option β), s'.project f = s.project f := by
    intro β f
    funext t
    unfold project
    rw [hcalls]
  refine h.frame (h.stays_down hdisconnect fun hup => hconnected ▸ hup) (fun hup => hconnected ▸ hup)
    hflags (hproject _) fun t id hid => h.ids t id ?_
  exact (congrFun (hproject Call.requestId) t).symm.trans hid

theorem Flagged.quiet (h : s.Flagged) (hq : Quiet s s') : s'.Flagged :=
  h.frame (h.stays_down hq.disconnect hq.connected) hq.connected (fun _ => hq.lifecycle ▸ rfl)
    hq.exchange fun t id hid => h.ids t id (hq.requestId ▸ hid)

theorem requestId_update {ids ids' : Nat → Option UInt64} {x : Option UInt64}
    (h : ∀ t id, ids t = some id → id ≠ 0) (hx : ∀ id, x = some id → id ≠ 0)
    (heq : ids' = Function.update ids t x) : ∀ t id, ids' t = some id → id ≠ 0 := by
  intro t' id hid
  rw [heq] at hid
  by_cases ht : t' = t
  · subst ht
    rw [Function.update_self] at hid
    exact hx id hid
  · rw [Function.update_of_ne ht] at hid
    exact h t' id hid

/-- A call goes on. -/
theorem Flagged.setCall (h : s.Flagged) {call : Call} (hx : call.exchange = s.exchange t)
    (hid : ∀ id, call.requestId = some id → id ≠ 0) : (s.setCall t call).Flagged := by
  refine h.frame h.down (fun hup => hup) (fun _ => rfl) ?_
    (requestId_update h.ids hid (project_setCall _ s t call))
  unfold exchange at hx ⊢
  rw [project_setCall, hx, Function.update_eq_self]

/-- A call that has no exchange returns. -/
theorem Flagged.ret (h : s.Flagged) (hx : s.exchange t = none) : (s.ret t).Flagged := by
  refine h.frame h.down (fun hup => hup) (fun _ => rfl) ?_
    (requestId_update h.ids (fun _ hnone => by cases hnone) (project_ret _ s t))
  unfold exchange at hx ⊢
  rw [project_ret, ← hx, Function.update_eq_self]

/-- **An exchange begins**: no other is under way, as both flags are clear. -/
theorem Flagged.begin (h : s.Flagged) (hdisconnect : s'.disconnect = s.disconnect)
    (hconnected : s'.connected = true → s.connected = true)
    (hauth : s.lifecycle.authInFlight = false) (hopen : s.lifecycle.openInFlight = false)
    {e : Exchange} (hflags : ∀ x, s'.lifecycle.inFlight x = true ↔ x = e)
    (hexchange : s'.exchange = Function.update s.exchange t (some e))
    (hids : ∀ t id, s'.requestId t = some id → id ≠ 0) : s'.Flagged := by
  have honly : s'.connected = true → ∀ t' x, s'.exchange t' = some x → t' = t ∧ x = e := by
    intro hup t' x hx
    rw [hexchange] at hx
    by_cases ht : t' = t
    · subst ht
      rw [Function.update_self] at hx
      exact ⟨rfl, (Option.some.inj hx).symm⟩
    · rw [Function.update_of_ne ht, h.idle (hconnected hup) hauth hopen] at hx
      cases hx
  refine ⟨h.stays_down hdisconnect hconnected, hids, fun hup t' x hx => ?_, fun hup x hx => ?_,
    fun hup t' t'' x x' hx hx' => ?_⟩
  · exact (hflags x).mpr (honly hup t' x hx).2
  · refine ⟨t, ?_⟩
    rw [hexchange, Function.update_self, (hflags x).mp hx]
  · exact (honly hup t' x hx).1.trans (honly hup t'' x' hx').1.symm

/-- **An exchange ends** and takes its flag away: no other needs it. -/
theorem Flagged.finish (h : s.Flagged) (hdisconnect : s'.disconnect = s.disconnect)
    (hconnected : s'.connected = s.connected) {e : Exchange} (hsome : s.exchange t = some e)
    (hflags : ∀ x, s'.lifecycle.inFlight x = true → s.lifecycle.inFlight x = true ∧ x ≠ e)
    (hexchange : s'.exchange = Function.update s.exchange t none)
    (hids : ∀ t id, s'.requestId t = some id → id ≠ 0) : s'.Flagged := by
  have hnone : s'.connected = true → ∀ t', s'.exchange t' = none := by
    intro hup t'
    rw [hexchange]
    by_cases ht : t' = t
    · subst ht
      rw [Function.update_self]
    · rw [Function.update_of_ne ht]
      cases hx : s.exchange t' with
      | none => rfl
      | some x => exact absurd (h.one (hconnected ▸ hup) t' t x e hx hsome) ht
  refine ⟨h.stays_down hdisconnect fun hup => hconnected ▸ hup, hids, fun hup t' x hx => ?_,
    fun hup x hx => ?_, fun hup t' t'' x x' hx => ?_⟩
  · exact absurd ((hnone hup t').symm.trans hx) nofun
  · -- the flag that is left would be that of another exchange
    exfalso
    obtain ⟨hset, hne⟩ := hflags x hx
    obtain ⟨t', ht'⟩ := h.held (hconnected ▸ hup) x hset
    rw [h.one (hconnected ▸ hup) t' t x e ht' hsome, hsome] at ht'
    exact hne (Option.some.inj ht').symm
  · exact absurd ((hnone hup t').symm.trans hx) nofun

/-! ## The sections -/

theorem exchange_of (hcall : s.calls t = some call) : s.exchange t = call.exchange := by
  unfold exchange project
  rw [hcall]
  rfl

theorem requestId_of (hcall : s.calls t = some call) : s.requestId t = call.requestId := by
  unfold requestId project
  rw [hcall]
  rfl

theorem Flagged.lockedSection (h : s.Flagged) (hcall : s.calls t = some call)
    (hs : s.lockedSection t call = some s') : s'.Flagged := by
  have hexchange := exchange_of hcall
  unfold Connection.lockedSection at hs
  split at hs
  · next material =>
    split at hs
    · cases hs
      exact h.ret hexchange
    next lifecycle hbegin =>
    obtain ⟨hauth, hopen, rfl⟩ := ConnectionLifecycle.beginAuth_ok hbegin
    have hq := quiet_allocate { s with lifecycle := { s.lifecycle with authInFlight := true } }
    have hid := allocate_ne_zero { s with lifecycle := { s.lifecycle with authInFlight := true } }
    generalize allocateRequestId { s with
      lifecycle := { s.lifecycle with authInFlight := true } } = out at hs hq hid
    obtain ⟨id, s₁⟩ := out
    cases hs
    have hids : ∀ t id, s₁.requestId t = some id → id ≠ 0 := fun t id hset =>
      h.ids t id ((congrFun hq.requestId t).symm.trans hset)
    refine h.begin hq.disconnect hq.connected hauth hopen (e := .auth) (t := t) (fun x => ?_) ?_
      (requestId_update hids ?_ (project_setCall _ s₁ t _))
    · show s₁.lifecycle.inFlight x = true ↔ x = .auth
      rw [hq.lifecycle]
      cases x with
      | auth => exact iff_of_true rfl rfl
      | sessionOpen => exact iff_of_false (fun hset => absurd (hopen.symm.trans hset) nofun) nofun
    · unfold exchange
      rw [project_setCall]
      exact congrArg (fun f => Function.update f t (some .auth)) hq.exchange
    · rintro id' hid'
      cases hid'
      exact hid
  · cases hs
    refine h.finish rfl rfl hexchange (fun x hx => ?_)
      (project_ret _ { s with lifecycle := s.lifecycle.failAuth } t)
      (requestId_update h.ids (fun _ hnone => by cases hnone)
        (project_ret _ { s with lifecycle := s.lifecycle.failAuth } t))
    cases x with
    | auth => cases hx
    | sessionOpen => exact ⟨hx, nofun⟩
  · next grant =>
    split at hs
    · cases hs
      exact h.setCall hexchange.symm fun _ hnone => by cases hnone
    next lifecycle hfinish =>
    obtain ⟨-, -, rfl⟩ := ConnectionLifecycle.finishAuth_ok hfinish
    cases hs
    have hset := project_setCall Call.requestId
      { s with lifecycle := { s.lifecycle with authInFlight := false } } t (.authRegistering grant)
    refine h.finish rfl rfl hexchange (fun x hx => ?_) (project_setCall _ { s with
      lifecycle := { s.lifecycle with authInFlight := false } } t _)
      (requestId_update h.ids (fun _ hnone => by cases hnone) hset)
    cases x with
    | auth => cases hx
    | sessionOpen => exact ⟨hx, nofun⟩
  · next grant =>
    cases hs
    have hregister : Flagged { s with lifecycle := s.lifecycle.registerAuthGrant grant } :=
      h.of_calls rfl rfl (fun e => by cases e <;> rfl) rfl
    exact hregister.ret hexchange
  · next grant =>
    split at hs
    · cases hs
      exact h.ret hexchange
    next lifecycle hbegin =>
    obtain ⟨hauth, hopen, rfl⟩ := ConnectionLifecycle.beginSessionOpen_ok hbegin
    have hq := quiet_allocate { s with lifecycle := { s.lifecycle with openInFlight := true } }
    have hid := allocate_ne_zero { s with lifecycle := { s.lifecycle with openInFlight := true } }
    generalize allocateRequestId { s with
      lifecycle := { s.lifecycle with openInFlight := true } } = out at hs hq hid
    obtain ⟨id, s₁⟩ := out
    cases hs
    have hids : ∀ t id, s₁.requestId t = some id → id ≠ 0 := fun t id hset =>
      h.ids t id ((congrFun hq.requestId t).symm.trans hset)
    refine h.begin hq.disconnect hq.connected hauth hopen (e := .sessionOpen) (t := t)
      (fun x => ?_) ?_ (requestId_update hids ?_ (project_setCall _ s₁ t _))
    · show s₁.lifecycle.inFlight x = true ↔ x = .sessionOpen
      rw [hq.lifecycle]
      cases x with
      | auth => exact iff_of_false (fun hset => absurd (hauth.symm.trans hset) nofun) nofun
      | sessionOpen => exact iff_of_true rfl rfl
    · unfold exchange
      rw [project_setCall]
      exact congrArg (fun f => Function.update f t (some .sessionOpen)) hq.exchange
    · rintro id' hid'
      cases hid'
      exact hid
  · next grant discard =>
    have hflags : ∀ x, s.lifecycle.failSessionOpen.inFlight x = true →
        s.lifecycle.inFlight x = true ∧ x ≠ .sessionOpen := by
      intro x hx
      cases x with
      | auth => exact ⟨hx, nofun⟩
      | sessionOpen => cases hx
    cases hs
    cases discard with
    | true =>
      exact h.finish rfl rfl hexchange hflags
        (project_setCall _ { s with lifecycle := s.lifecycle.failSessionOpen } t _)
        (requestId_update h.ids (fun _ hnone => by cases hnone)
          (project_setCall Call.requestId { s with lifecycle := s.lifecycle.failSessionOpen } t
            (.openConsuming grant)))
    | false =>
      exact h.finish rfl rfl hexchange hflags
        (project_ret _ { s with lifecycle := s.lifecycle.failSessionOpen } t)
        (requestId_update h.ids (fun _ hnone => by cases hnone)
          (project_ret _ { s with lifecycle := s.lifecycle.failSessionOpen } t))
  · next grant sessionId =>
    split at hs
    · cases hs
      exact h.setCall hexchange.symm fun _ hnone => by cases hnone
    next lifecycle hfinish =>
    obtain ⟨-, -, -, rfl⟩ := ConnectionLifecycle.finishSessionOpen_ok hfinish
    cases hs
    have hset := project_setCall Call.requestId { s with lifecycle := { s.lifecycle with
      openInFlight := false, activeSessions := insert sessionId s.lifecycle.activeSessions } } t
      (.openConsuming grant)
    refine h.finish rfl rfl hexchange (fun x hx => ?_) (project_setCall _ { s with
      lifecycle := { s.lifecycle with
        openInFlight := false
        activeSessions := insert sessionId s.lifecycle.activeSessions } } t _)
      (requestId_update h.ids (fun _ hnone => by cases hnone) hset)
    cases x with
    | auth => exact ⟨hx, nofun⟩
    | sessionOpen => cases hx
  · next grant =>
    cases hs
    have hconsume : Flagged { s with lifecycle := s.lifecycle.consumeAuthGrant grant.authId } :=
      h.of_calls rfl rfl (fun e => by cases e <;> rfl) rfl
    exact hconsume.ret hexchange
  · cases hs

/-- The requests of `authenticate` and `open` can always be encoded. -/
theorem encode_authStart (material : ClaimCodeMaterial) {id : UInt64} (hid : id ≠ 0) :
    ∃ payload, (AuthStartRequest.mk material.diskId).encodeRequest id = .ok payload := by
  unfold AuthStartRequest.encodeRequest ProtocolHeader.newRequest
  rw [material.encodeDiskId, if_neg hid]
  exact ⟨_, rfl⟩

theorem encode_sessionOpen (grant : AuthGrant) {id : UInt64} (hid : id ≠ 0) :
    ∃ payload, (SessionOpenRequest.mk grant.authId).encodeRequest id = .ok payload := by
  unfold SessionOpenRequest.encodeRequest ProtocolHeader.newRequest
  rw [if_neg grant.authId_ne, if_neg hid]
  exact ⟨_, rfl⟩

theorem Flagged.send (h : s.Flagged) {writing : Bool} (hcall : s.calls t = some call)
    (hs : s.send zstd t writing call = some s') : s'.Flagged := by
  have hexchange := exchange_of hcall
  have hids := requestId_of hcall
  have hsent : ∀ id op payload call', call'.exchange = call.exchange →
      call'.requestId = call.requestId →
      ((s.sendRequest t id op payload writing).2.setCall t call').Flagged := by
    intro id op payload call' hx hi
    have hq := quiet_sendRequest s t id op payload writing
    refine (h.quiet hq).setCall ?_ fun id hid => h.ids t id (hids.trans (hi.symm.trans hid))
    rw [hq.exchange, hexchange, hx]
  unfold Connection.send at hs
  split at hs
  · next material id =>
    obtain ⟨payload, hpayload⟩ := encode_authStart material (h.ids t id hids)
    rw [hpayload] at hs
    cases hs
    exact hsent _ _ _ _ rfl rfl
  · split at hs
    · cases hs
      exact h.setCall hexchange.symm fun _ hnone => by cases hnone
    · cases hs
      exact hsent _ _ _ _ rfl rfl
  · next grant id =>
    obtain ⟨payload, hpayload⟩ := encode_sessionOpen grant (h.ids t id hids)
    rw [hpayload] at hs
    cases hs
    exact hsent _ _ _ _ rfl rfl
  · split at hs
    · cases hs
      exact h.ret hexchange
    · cases hs
      exact hsent _ _ _ _ rfl rfl
  · cases hs

theorem Flagged.receive (h : s.Flagged) {proof : Except NetworkClientError (Vector UInt8 64)}
    (hcall : s.calls t = some call) (hs : s.receive t proof call = some s') : s'.Flagged := by
  have hexchange := exchange_of hcall
  have hstay : ∀ call' : Call, call'.exchange = call.exchange → call'.requestId = none →
      (s.setCall t call').Flagged :=
    fun call' hx hid => h.setCall (hx.trans hexchange.symm) fun id hsome => by
      rw [hid] at hsome
      cases hsome
  unfold Connection.receive at hs
  split at hs
  · cases hs
    exact hstay _ rfl rfl
  · next material id payload =>
    split at hs
    · cases hs
      exact hstay _ rfl rfl
    · cases hs
      exact hstay _ rfl rfl
    · have hq := quiet_allocate s
      have hid := allocate_ne_zero s
      generalize s.allocateRequestId = out at hs hq hid
      obtain ⟨id', s₁⟩ := out
      cases hs
      refine (h.quiet hq).setCall ?_ fun id hsome => ?_
      · rw [hq.exchange, hexchange]
        rfl
      · cases hsome
        exact hid
  · cases hs
    exact hstay _ rfl rfl
  · split at hs
    · cases hs
      exact hstay _ rfl rfl
    · split at hs
      · cases hs
        exact hstay _ rfl rfl
      · cases hs
        exact hstay _ rfl rfl
  · cases hs
    exact hstay _ rfl rfl
  · split at hs
    · cases hs
      exact hstay _ rfl rfl
    · cases hs
      exact hstay _ rfl rfl
  · cases hs
    exact h.ret hexchange
  · cases hs

theorem Flagged.dispatchResponse (h : s.Flagged) {payload : Bytes}
    (hs : s.dispatchResponse payload = .ok s') : s'.Flagged := by
  unfold Connection.dispatchResponse at hs
  split at hs
  · cases hs
  next header hheader =>
  split_ifs at hs with hclose hchanged hflags
  · split at hs
    · cases hs
    · cases hs
      exact h.of_calls rfl rfl (fun e => by cases e <;> rfl) rfl
  · split at hs
    · cases hs
    · cases hs
      exact h
  · split at hs
    · cases hs
    next pending s₁ htake =>
    have htaken : (s.takePendingRequest header.requestId).2.Flagged :=
      h.of_calls rfl rfl (fun _ => rfl) rfl
    obtain rfl : (s.takePendingRequest header.requestId).2 = s₁ := congrArg Prod.snd htake
    split_ifs at hs
    · cases hs
      exact htaken.quiet (quiet_respond _ pending _)
    · cases hs
      exact htaken.quiet (quiet_respond _ pending _)

/-! ## Runs -/

/-- **One step.** -/
theorem step_flagged {a : ConnectionAction} (h : s.Flagged) (hs : s.step zstd a = some s') :
    s'.Flagged := by
  have hterminal : ∀ i d error, (s.markTerminal i d error).Flagged := fun i d error =>
    h.of_calls rfl rfl (fun e => by cases e <;> rfl) rfl
  have hfree : ∀ {t}, s.calls t = none → s.exchange t = none := by
    intro t hnone
    unfold exchange project
    rw [hnone]
    rfl
  cases a with
  | authenticate t claimCode sha512 =>
    simp only [Connection.step] at hs
    split at hs
    · next hnone _ =>
      cases hs
      exact h.setCall (hfree hnone).symm fun _ hid => by cases hid
    · cases hs
      exact h
    · cases hs
  | openSession t grant =>
    simp only [Connection.step] at hs
    split_ifs at hs with hnone
    cases hs
    exact h.setCall (hfree (Option.isNone_iff_eq_none.mp hnone)).symm fun _ hid => by cases hid
  | request t request =>
    simp only [Connection.step] at hs
    split_ifs at hs with hnone
    have hq := quiet_allocate s
    have hid := allocate_ne_zero s
    generalize s.allocateRequestId = out at hs hq hid
    obtain ⟨id, s₁⟩ := out
    cases hs
    refine (h.quiet hq).setCall ?_ fun id' hsome => ?_
    · rw [hq.exchange, hfree (Option.isNone_iff_eq_none.mp hnone.1)]
      rfl
    · cases hsome
      exact hid
  | lockedSection t =>
    obtain ⟨call, hcall, hs⟩ := Option.bind_eq_some_iff.mp hs
    exact h.lockedSection hcall hs
  | send t writing =>
    obtain ⟨call, hcall, hs⟩ := Option.bind_eq_some_iff.mp hs
    exact h.send hcall hs
  | receive t proof =>
    obtain ⟨call, hcall, hs⟩ := Option.bind_eq_some_iff.mp hs
    exact h.receive hcall hs
  | timeout t =>
    simp only [Connection.step] at hs
    split at hs
    · next hcall =>
      cases hs
      exact h.ret (exchange_of hcall)
    · cases hs
  | dispatch payload =>
    simp only [Connection.step] at hs
    split_ifs at hs
    split at hs
    · next s₁ hdispatch =>
      cases hs
      exact h.dispatchResponse hdispatch
    · cases hs
      exact h.of_calls rfl rfl (fun _ => rfl) rfl
  | transportDown =>
    cases hs
    exact h.frame (fun _ => rfl) nofun (fun _ => rfl) rfl h.ids
  | handleDisconnect =>
    simp only [Connection.step] at hs
    split_ifs at hs
    cases hs
    exact h.frame (fun _ => rfl) nofun (fun _ => rfl) rfl h.ids
  | failAllPending error =>
    simp only [Connection.step] at hs
    split_ifs at hs with hclosed
    cases hs
    have hdown : s.connected = false := h.down (by rw [hclosed]; decide)
    have hq := quiet_failAllPending s error
    refine h.frame (fun _ => ?_) hq.connected (fun e => ?_) hq.exchange (h.quiet hq).ids
    · cases hup : (s.failAllPending error).connected with
      | false => rfl
      | true => exact absurd (hdown.symm.trans (hq.connected hup)) nofun
    · show (s.failAllPending error).lifecycle.inFlight e = s.lifecycle.inFlight e
      rw [hq.lifecycle]
  | resetLifecycle =>
    simp only [Connection.step] at hs
    split_ifs at hs with hswept
    cases hs
    have hdown : s.connected = false := h.down (by rw [hswept]; decide)
    exact ⟨fun _ => hdown, h.ids, fun hup => absurd (hdown.symm.trans hup) nofun,
      fun hup => absurd (hdown.symm.trans hup) nofun,
      fun hup => absurd (hdown.symm.trans hup) nofun⟩
  | newSession sessionId =>
    simp only [Connection.step, Connection.newSession] at hs
    split_ifs at hs
    · cases hs
    · cases hs
    · cases hs
      exact h.of_calls rfl rfl (fun _ => rfl) rfl
  | useSession i =>
    obtain ⟨d, -, rfl⟩ := Option.map_eq_some_iff.mp hs
    unfold useSession
    split
    · exact h
    · split_ifs
      · exact h
      · exact hterminal _ _ _
  | closeSession i =>
    obtain ⟨d, -, rfl⟩ := Option.map_eq_some_iff.mp hs
    unfold closeSession
    split_ifs
    · exact h
    · exact h.of_calls rfl rfl (fun e => by cases e <;> rfl) rfl
  | requestError i error =>
    obtain ⟨d, -, rfl⟩ := Option.map_eq_some_iff.mp hs
    unfold requestError
    split_ifs
    · exact hterminal _ _ _
    · exact h
  | discardAuthGrant authId =>
    cases hs
    exact h.of_calls rfl rfl (fun e => by cases e <;> rfl) rfl

end Connection

end YumeDisk.Client
