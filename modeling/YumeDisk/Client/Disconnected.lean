import YumeDisk.Client.LinkStep

/-!
# Callers after a disconnect (`gateway_connection.rs`, `transport_client.rs`)

When `handle_disconnect` has finished, `pending_requests` has no entry of a call that waits, and a
call that comes later finds the transport closed.  A call may still be in `outgoing_tx.send`: an
error of the receive loop takes the transport away without `stream.shutdown`, and if the other side
does not read either, the writer never empties the queue.

* `GatewayConnection.Unclogged`: the queue has room for all, or the writer is about to go.
* `DownInv.step`, `Unclogged.step`: the step lemmas.
* `requests_answered`: **every response goes to its caller, and no caller stays behind** when
  `handle_disconnect` finishes with nothing stuck in the queue.
* `half_closed_strands_caller`: a run in which something is.
-/

namespace YumeDisk.Client

open Lib (Bytes Reaches runFrom StepsMeet)

namespace GatewayConnection

open Requests

variable {s s' : GatewayConnection}

/-! ## What the invariants say -/

/-- The request is on its way, or its caller waits. -/
def isSent : SendStage → Bool
  | .sending | .waiting => true
  | _ => false

/-- No request that is sent is pending. -/
def NonePending (r : Requests) : Prop :=
  ∀ p ∈ r.pending, ∀ call, r.calls[p.caller]? = some call → ¬ isSent call.stage

/-- Every request that comes is refused, and none is left. -/
structure Refused (s : GatewayConnection) : Prop where
  connected : s.transport.connected = false
  pending : NonePending s.requests

/-- What a thread that closes the connection relies on. -/
def CloserOk (s : GatewayConnection) : Closer → Prop
  | .failing _ | .sendingClose _ | .shuttingDown _ => s.transport.connected = false
  | .resetting => s.Refused
  | _ => True

structure DownInv (s : GatewayConnection) : Prop where
  closers : ∀ closer ∈ s.closers, s.CloserOk closer
  swept : s.disconnect = .swept ∨ s.disconnect = .done → s.Refused

/-- The threads in `outgoing_tx.send`. -/
def senders (s : GatewayConnection) : Nat :=
  s.requests.calls.countP (·.stage.isSending) + s.closers.countP Closer.isSending

/-- The room that the queue has without the other side. -/
def room (s : GatewayConnection) : Nat :=
  outboundQueueCapacity + if s.transport.writer = .receiving then 1 else 0

/-- **Nobody is stuck in the queue.** -/
def Unclogged (s : GatewayConnection) : Prop :=
  s.transport.dead ∨ s.transport.writer = .exited ∨ (∃ error, .shuttingDown error ∈ s.closers) ∨
    s.transport.outgoing.length + s.senders ≤ s.room

/-- `handle_disconnect` finishes with nobody stuck in the queue. -/
def LeavesUnclogged (s : GatewayConnection) : LinkAction → Prop
  | .closer k _ => s.closers[k]? = some .resetting → s.Unclogged
  | _ => True

/-! ## The transport stays closed -/

/-- A transport that is closed stays so. -/
theorem step_connected {a : LinkAction} (hdown : s.transport.connected = false)
    (hs : s.step a = some s') : s'.transport.connected = false := by
  cases linkStep_of_step hs <;> first | exact hdown | rfl

/-! ## Requests that come too late -/

theorem NonePending.mono {r r' : Requests} (h : NonePending r) (hpending : r'.pending ⊆ r.pending)
    (hcalls : ∀ (c : Nat) (call' : SendCall), r'.calls[c]? = some call' → isSent call'.stage →
      ∃ call, r.calls[c]? = some call ∧ isSent call.stage) : NonePending r' := by
  intro p hp call' hcall' hsent'
  obtain ⟨call, hcall, hsent⟩ := hcalls _ call' hcall' hsent'
  exact h p (hpending hp) call hcall hsent

theorem NonePending.setStage {r : Requests} (h : NonePending r) {c : Nat} {call : SendCall}
    {stage : SendStage} (hcall : r.calls[c]? = some call)
    (hsent : isSent stage → isSent call.stage) : NonePending (r.setStage c call stage) := by
  refine h.mono (fun _ hp => hp) fun c' call' hcall' hsent' => ?_
  rcases calls_setStage hcall hcall' with ⟨rfl, rfl⟩ | ⟨-, hold⟩
  · exact ⟨call, hcall, hsent hsent'⟩
  · exact ⟨call', hold, hsent'⟩

theorem NonePending.enter {r : Requests} (h : NonePending r) (payload : Bytes)
    (request : Option (UInt64 × ClientOperationCode)) :
    NonePending { r with calls := r.calls ++ [⟨payload, request, .registering⟩] } := by
  refine h.mono (fun _ hp => hp) fun c call' hcall' hsent => ?_
  rw [List.getElem?_append] at hcall'
  split at hcall'
  · exact ⟨call', hcall', hsent⟩
  · obtain rfl := List.mem_singleton.mp (List.mem_of_getElem? hcall')
    cases hsent

theorem NonePending.register {r : Requests} (h : NonePending r) {c : Nat} {call : SendCall}
    (hcall : r.calls[c]? = some call) : NonePending (r.register c call) := by
  have hset : ∀ stage, ¬ isSent stage → NonePending (r.setStage c call stage) :=
    fun stage hstage => h.setStage hcall fun hsent => absurd hsent hstage
  have hconnecting := hset .connecting nofun
  unfold Requests.register
  split
  · exact hconnecting
  · split_ifs
    · exact hset _ nofun
    · rintro p (_ | ⟨_, hp⟩) call' hcall'
      · obtain rfl := Option.some.inj ((calls_setStage_self .connecting hcall).symm.trans hcall')
        nofun
      · exact hconnecting p hp call' hcall'

/-- **Once requests are refused, they stay refused.** -/
theorem Refused.step {a : LinkAction} (h : s.Refused) (hs : s.step a = some s') : s'.Refused := by
  refine ⟨step_connected h.connected hs, ?_⟩
  have hset : ∀ {c : Nat} {call : SendCall} {stage : SendStage},
      s.requests.calls[c]? = some call → ¬ isSent stage →
      NonePending (s.requests.setStage c call stage) :=
    fun hcall hstage => h.pending.setStage hcall fun hsent => absurd hsent hstage
  cases a with
  | sendRequest payload | sendNotice notice =>
    cases hs
    split
    · exact h.pending
    · exact h.pending.enter _ _
  | call c =>
    obtain ⟨call, hcall, hs⟩ := Option.bind_eq_some_iff.mp hs
    unfold stepCall at hs
    split at hs
    · cases hs
      exact h.pending.register hcall
    · cases hs
      refine hset hcall ?_
      unfold connectedState
      split
      · nofun
      · rw [if_neg (by rw [h.connected]; nofun)]
        nofun
    · next hstage =>
      unfold sendPayload at hs
      split at hs
      · cases hs
        exact hset hcall nofun
      · split at hs <;> cases hs
        exact h.pending.setStage hcall fun _ => by rw [hstage]; rfl
    · next error _ =>
      cases hs
      have hret : NonePending (s.requests.setStage c call (.returned (.error error))) :=
        hset hcall nofun
      exact hret.mono (fun _ hp => List.mem_of_mem_filter hp) fun _ call' hcall' hsent =>
        ⟨call', hcall', hsent⟩
    · obtain ⟨r', hr, rfl⟩ := Option.map_eq_some_iff.mp hs
      unfold Requests.recv at hr
      split at hr
      · cases hr
        exact hset hcall nofun
      · split_ifs at hr
        cases hr
        exact hset hcall nofun
    · cases hs
  | timeout c =>
    obtain ⟨call, hcall, hs⟩ := Option.bind_eq_some_iff.mp hs
    unfold stepTimeout at hs
    split at hs <;> cases hs
    exact hset hcall nofun
  | close | handleDisconnect =>
    cases hs
    exact h.pending
  | closer k shut =>
    obtain ⟨closer, -, hs⟩ := Option.bind_eq_some_iff.mp hs
    rcases stepCloser_requests hs with heq | ⟨error, -, heq⟩
    · exact heq ▸ h.pending
    · rw [heq]
      nofun
  | receive =>
    rcases stepReceive_requests hs with heq | ⟨payload, -, heq⟩
    · exact heq ▸ h.pending
    · rw [heq]
      obtain ⟨hcalls, hpending⟩ := see_calls s.requests payload
      exact h.pending.mono hpending fun c call' hcall' hsent => ⟨call', hcalls ▸ hcall', hsent⟩
  | take | written | writeFails | writerLeaves | arrives | readEnds | readFails | reset =>
    exact stream_requests rfl hs ▸ h.pending

/-! ## Threads that close the connection -/

/-- What a thread relies on stays true. -/
theorem CloserOk.step {a : LinkAction} {closer : Closer} (h : s.CloserOk closer)
    (hs : s.step a = some s') : s'.CloserOk closer := by
  cases closer with
  | failing | sendingClose | shuttingDown => exact step_connected h hs
  | resetting => exact Refused.step h hs
  | _ => trivial

/-- **Step lemma.** -/
theorem DownInv.step {a : LinkAction} (h : s.DownInv) (hs : s.step a = some s') : s'.DownInv := by
  have hold : ∀ closer ∈ s.closers, s'.CloserOk closer :=
    fun closer hmem => (h.closers closer hmem).step hs
  have hswept : s.disconnect = .swept ∨ s.disconnect = .done → s'.Refused :=
    fun hd => (h.swept hd).step hs
  have hset : ∀ {k : Nat} {closer : Closer}, s'.CloserOk closer →
      ∀ x ∈ s.closers.set k closer, s'.CloserOk x := fun hok x hx =>
    (List.mem_or_eq_of_mem_set hx).elim (hold x) fun heq => heq ▸ hok
  have hadd : ∀ {closer : Closer}, s'.CloserOk closer →
      ∀ x ∈ s.closers ++ [closer], s'.CloserOk x := fun hok x hx =>
    (List.mem_append.mp hx).elim (hold x) fun hmem => List.mem_singleton.mp hmem ▸ hok
  have hafter : ∀ error, s'.transport.connected = false → s'.CloserOk (afterClose error) := by
    intro error hdown
    cases error with
    | none => trivial
    | some error => exact hdown
  cases linkStep_of_step hs with
  | opened closer hnew =>
    refine ⟨hadd ?_, hswept⟩
    rcases hnew with ⟨-, rfl⟩ | ⟨error, -, rfl⟩ <;> trivial
  | takes => exact ⟨hset rfl, hswept⟩
  | finds error hk hdown => exact ⟨hset (hafter error hdown), hswept⟩
  | sendsClose error hk | skipsClose error hk =>
    exact ⟨hset (hold (.sendingClose error) (List.mem_of_getElem? hk)), hswept⟩
  | shuts error hk => exact ⟨hset (hafter error (hold _ (List.mem_of_getElem? hk))), hswept⟩
  | shutFails error hk =>
    refine ⟨hset ?_, hswept⟩
    cases error with
    | none => trivial
    | some error => exact hold (.shuttingDown (some error)) (List.mem_of_getElem? hk)
  | starts => exact ⟨hset trivial, by rintro (hd | hd) <;> cases hd⟩
  | leaves => exact ⟨hset trivial, hswept⟩
  | @fails k _ error r hk _ hnone =>
    have hnone : NonePending r := fun p hp => absurd (hnone ▸ hp) List.not_mem_nil
    have hrefused : Refused { (s.setRequests r).setCloser k .resetting with
        disconnect := .swept } := ⟨hold (.failing error) (List.mem_of_getElem? hk), hnone⟩
    exact ⟨@hset _ .resetting hrefused, fun _ => hrefused⟩
  | resets hk => exact ⟨hset trivial, fun _ => hold _ (List.mem_of_getElem? hk)⟩
  | dropped | drained | lost | misled => exact ⟨hadd trivial, hswept⟩
  | _ => exact ⟨hold, hswept⟩

theorem downInv_init : ({} : GatewayConnection).DownInv where
  closers := nofun
  swept := by rintro (h | h) <;> cases h

/-! ## The room in the queue -/

theorem Unclogged.mono (h : s.Unclogged) (hdead : s.transport.dead → s'.transport.dead)
    (hwriter : s'.transport.writer = s.transport.writer) (hshut : ∀ error,
      Closer.shuttingDown error ∈ s.closers → Closer.shuttingDown error ∈ s'.closers)
    (hcount : s'.transport.outgoing.length + s'.senders ≤
      s.transport.outgoing.length + s.senders) : s'.Unclogged := by
  rcases h with h | h | ⟨error, h⟩ | h
  · exact .inl (hdead h)
  · exact .inr (.inl (hwriter.trans h))
  · exact .inr (.inr (.inl ⟨error, hshut error h⟩))
  · refine .inr (.inr (.inr (hcount.trans (h.trans_eq ?_))))
    unfold room
    rw [hwriter]

/-- A thread that closes, and does not send. -/
theorem Unclogged.setCloser (h : s.Unclogged) {k : Nat} {closer closer' : Closer}
    (hk : s.closers[k]? = some closer) (hclosers : s'.closers = s.closers.set k closer')
    (htransport : s'.transport = s.transport) (hcalls : s'.requests.calls = s.requests.calls)
    (hnot : closer'.isSending = false) (hshut : ∀ error, closer ≠ .shuttingDown error) :
    s'.Unclogged := by
  refine h.mono (fun hd => htransport ▸ hd) (by rw [htransport]) (fun error hmem => ?_) ?_
  · obtain ⟨i, hi⟩ := List.mem_iff_getElem?.mp hmem
    have hne : k ≠ i := by
      rintro rfl
      exact hshut error (Option.some.inj (hk.symm.trans hi))
    rw [hclosers]
    exact List.mem_iff_getElem?.mpr ⟨i, (List.getElem?_set_ne hne).trans hi⟩
  · have hcount := @countP_set_of_not _ Closer.isSending _ _ _ closer' hk hnot
    unfold senders
    rw [hclosers, htransport, hcalls]
    omega

/-- A step that leaves the queue and the threads in it alone. -/
theorem Unclogged.same (h : s.Unclogged) (hclosers : s'.closers = s.closers ∨
      ∃ closer, s'.closers = s.closers ++ [closer] ∧ closer.isSending = false)
    (hcalls : s'.requests.calls.countP (·.stage.isSending) =
      s.requests.calls.countP (·.stage.isSending))
    (hdead : s'.transport.dead = s.transport.dead)
    (hwriter : s'.transport.writer = s.transport.writer)
    (hout : s'.transport.outgoing = s.transport.outgoing) : s'.Unclogged := by
  have hsame : s'.closers.countP Closer.isSending = s.closers.countP Closer.isSending := by
    rcases hclosers with heq | ⟨closer, heq, hnot⟩
    · rw [heq]
    · rw [heq, List.countP_append, List.countP_singleton, if_neg (by rw [hnot]; nofun)]
      rfl
  refine h.mono (fun hd => hdead.trans hd) hwriter (fun error hmem => ?_) ?_
  · rcases hclosers with heq | ⟨closer, heq, -⟩
    · exact heq ▸ hmem
    · exact heq ▸ List.mem_append_left _ hmem
  · unfold senders
    rw [hout, hcalls, hsame]

/-- **Nobody gets stuck** once the transport is closed. -/
theorem Unclogged.step {a : LinkAction} (h : s.Unclogged) (hdown : s.transport.connected = false)
    (hs : s.step a = some s') : s'.Unclogged := by
  have hin : ∀ {k : Nat} {closer closer' : Closer}, s.closers[k]? = some closer →
      closer' ∈ s.closers.set k closer' := fun hk =>
    List.mem_iff_getElem?.mpr ⟨_, List.getElem?_set_self (List.getElem?_eq_some_iff.mp hk).1⟩
  cases linkStep_of_step hs with
  | requests r hcall =>
    have hle := hcall.resolve_left (by rw [hdown]; rintro ⟨⟩)
    exact h.mono id rfl (fun _ => id)
      (Nat.add_le_add_left (Nat.add_le_add_right hle _) _)
  | sent r _ _ _ _ hsent =>
    refine h.mono id rfl (fun _ => id) ?_
    rw [List.length_append]
    have hcount : _ ≤ s.senders := Nat.add_le_add_right hsent _
    rw [Nat.succ_add] at hcount
    exact (Nat.succ_add_eq_add_succ ..).trans_le (Nat.add_le_add_left hcount _)
  | refused _ hexited => exact .inr (.inl hexited)
  | opened closer hnew =>
    refine h.same (.inr ⟨closer, rfl, ?_⟩) rfl rfl rfl rfl
    rcases hnew with ⟨-, rfl⟩ | ⟨error, -, rfl⟩ <;> rfl
  | takes _ _ hup | polled _ hup => cases hdown.symm.trans hup
  | finds error hk =>
    exact h.setCloser hk rfl rfl rfl (afterClose_isSending error) fun _ he => by cases he
  | sendsClose error hk | skipsClose error hk => exact .inr (.inr (.inl ⟨error, hin hk⟩))
  | shuts => exact .inl rfl
  | shutFails _ _ hbroken => exact .inl (Bool.or_eq_true_iff.mpr (.inr hbroken))
  | starts _ hk | leaves _ hk | resets hk =>
    exact h.setCloser hk rfl rfl rfl rfl fun _ he => by cases he
  | fails _ _ hk hcalls => exact h.setCloser hk rfl rfl hcalls rfl fun _ he => by cases he
  | dropped | drained | lost => exact h.same (.inr ⟨_, rfl, rfl⟩) rfl rfl rfl rfl
  | dispatched _ _ _ _ _ hcalls => exact h.same (.inl rfl) (congrArg _ hcalls) rfl rfl rfl
  | misled _ _ _ _ _ _ _ hcalls =>
    exact h.same (.inr ⟨_, rfl, rfl⟩) (congrArg _ hcalls) rfl rfl rfl
  | took _ outgoing hwriter hout =>
    rcases h with h | h | h | h
    · exact .inl h
    · cases hwriter.symm.trans h
    · exact .inr (.inr (.inl h))
    · refine .inr (.inr (.inr ?_))
      unfold room at h ⊢
      rw [hwriter, if_pos rfl, hout, List.length_cons] at h
      rw [if_neg (by rintro ⟨⟩)]
      show _ + s.senders ≤ _
      dsimp only [setTransport]
      omega
  | stopped | failed | left => exact .inr (.inl rfl)
  | wrote hwriter =>
    rcases h with h | h | h | h
    · exact .inl h
    · rw [h] at hwriter
      cases hwriter
    · exact .inr (.inr (.inl h))
    · refine .inr (.inr (.inr (h.trans ?_)))
      unfold room
      rw [if_neg fun hreceiving => by rw [hreceiving] at hwriter; cases hwriter]
      exact Nat.le_succ _
  | read => exact h.same (.inl rfl) rfl rfl rfl rfl
  | reset => exact .inl (Bool.or_true _)

/-! ## Callers come back -/

def Returned (c : Nat) (s : GatewayConnection) : Prop :=
  ∃ call, s.requests.calls[c]? = some call ∧ call.stage.isReturned

theorem own_closer {k : Nat} {closer : Closer} (hk : s.closers[k]? = some closer) :
    s.own (.closer k !s.transport.broken) = s.stepCloser k (!s.transport.broken) closer :=
  (if_pos rfl).trans (congrArg (Option.bind · _) hk)

/-- The steps of this side bring the call to its end. -/
def Released (s : GatewayConnection) (c : Nat) : Prop := Reaches own s (Returned c)

section Release

variable {c : Nat} {call : SendCall}

theorem own_call (hcall : s.requests.calls[c]? = some call) :
    s.own (.call c) = s.stepCall c call := by
  show s.step (.call c) = _
  exact (congrArg (Option.bind · _) hcall).trans rfl

theorem Released.after (hcall : s.requests.calls[c]? = some call)
    (hs : s.stepCall c call = some s') (h : s'.Released c) : s.Released c :=
  Reaches.after ((own_call hcall).trans hs) h

theorem released_of_failing {error : NetworkClientError} (hcall : s.requests.calls[c]? = some call)
    (hstage : call.stage = .failing error) : s.Released c := by
  have hs : s.stepCall c call = some (s.setRequests (s.requests.failCall c call error)) := by
    unfold stepCall
    rw [hstage]
  exact .after hcall hs (.here ⟨_, calls_setStage_self _ hcall, rfl⟩)

theorem released_of_connecting (hdown : s.transport.connected = false)
    (hcall : s.requests.calls[c]? = some call) (hstage : call.stage = .connecting) :
    s.Released c := by
  have hs : s.stepCall c call =
      some (s.setRequests (s.requests.setStage c call (s.connectedState call))) := by
    unfold stepCall
    rw [hstage]
  have hself := calls_setStage_self (s.connectedState call) hcall
  obtain ⟨error, herror⟩ : ∃ error, s.connectedState call = .failing error := by
    unfold connectedState
    split
    · exact ⟨_, rfl⟩
    · rw [if_neg (by rw [hdown]; nofun)]
      exact ⟨_, rfl⟩
  exact .after hcall hs (released_of_failing hself herror)

theorem released_of_registering (hdown : s.transport.connected = false)
    (hcall : s.requests.calls[c]? = some call) (hstage : call.stage = .registering) :
    s.Released c := by
  have hs : s.stepCall c call = some (s.setRequests (s.requests.register c call)) := by
    unfold stepCall
    rw [hstage]
  refine .after hcall hs ?_
  have hself : ∀ stage, (s.requests.setStage c call stage).calls[c]? = some { call with stage } :=
    fun stage => calls_setStage_self stage hcall
  unfold Requests.register
  split
  · exact released_of_connecting hdown (hself .connecting) rfl
  · split_ifs
    · exact .here ⟨_, hself _, rfl⟩
    · exact released_of_connecting hdown (hself .connecting) rfl

/-- No entry is left for the caller. -/
def NoEntry (r : Requests) (c : Nat) : Prop := ∀ p ∈ r.pending, p.caller ≠ c

theorem released_of_waiting (hno : NoEntry s.requests c)
    (hcall : s.requests.calls[c]? = some call) (hstage : call.stage = .waiting) :
    s.Released c := by
  obtain ⟨result, hr⟩ : ∃ result, s.requests.recv c call =
      some (s.requests.setStage c call (.returned result)) := by
    unfold Requests.recv
    split
    · exact ⟨_, rfl⟩
    · rw [if_neg fun hany => ?_]
      · exact ⟨_, rfl⟩
      · obtain ⟨p, hp, hcaller⟩ := List.any_eq_true.mp hany
        exact hno p hp (of_decide_eq_true hcaller)
  have hs : s.stepCall c call =
      some (s.setRequests (s.requests.setStage c call (.returned result))) := by
    unfold stepCall
    rw [hstage]
    exact congrArg (Option.map _) hr
  exact .after hcall hs (.here ⟨_, calls_setStage_self _ hcall, rfl⟩)

/-! ### Out of the queue -/

theorem released_of_exited (hcall : s.requests.calls[c]? = some call)
    (hstage : call.stage = .sending) (hexited : s.transport.writer = .exited) :
    s.Released c := by
  have hs : s.stepCall c call = some { s with
      requests := s.requests.setStage c call (.failing .sessionUnavailable)
      transport := { s.transport with connected := false } } := by
    unfold stepCall
    rw [hstage]
    exact if_pos hexited
  exact .after hcall hs (released_of_failing (calls_setStage_self _ hcall) rfl)

theorem released_of_room (hno : NoEntry s.requests c) (hcall : s.requests.calls[c]? = some call)
    (hstage : call.stage = .sending)
    (hroom : s.transport.outgoing.length < outboundQueueCapacity) : s.Released c := by
  by_cases hexited : s.transport.writer = .exited
  · exact released_of_exited hcall hstage hexited
  · have hs : s.stepCall c call = some { s with
        requests := s.requests.setStage c call
          (if call.request.isSome then .waiting else .returned (.ok []))
        transport := { s.transport with
          outgoing := s.transport.outgoing ++ [.payload call.payload] } } := by
      unfold stepCall
      rw [hstage]
      exact (if_neg hexited).trans (if_pos hroom)
    refine .after hcall hs ?_
    by_cases hrequest : call.request.isSome = true
    · rw [if_pos hrequest]
      exact released_of_waiting hno (calls_setStage_self _ hcall) rfl
    · rw [if_neg hrequest]
      exact .here ⟨_, calls_setStage_self _ hcall, rfl⟩

theorem released_of_dead (hno : NoEntry s.requests c) (hcall : s.requests.calls[c]? = some call)
    (hstage : call.stage = .sending) (hdead : s.transport.dead) : s.Released c := by
  have hwriting : ∀ (t : TransportClient) payload, t.dead → t.writer = .writing payload →
      (s.setTransport t).Released c := by
    intro t payload hdead hwriter
    have hs : (s.setTransport t).own (.writeFails .sessionUnavailable) =
        some (s.setTransport { t with
          writer := .exited, incoming := t.incoming ++ [.error .sessionUnavailable] }) := by
      show (s.setTransport t).stepWriter (some .sessionUnavailable) = _
      unfold stepWriter
      dsimp only [setTransport]
      rw [hwriter]
      exact if_pos hdead
    exact Reaches.after hs (released_of_exited hcall hstage rfl)
  cases hwriter : s.transport.writer with
  | exited => exact released_of_exited hcall hstage hwriter
  | writing payload => exact hwriting s.transport payload hdead hwriter
  | receiving =>
    cases hout : s.transport.outgoing with
    | nil =>
      refine released_of_room hno hcall hstage ?_
      rw [hout]
      decide
    | cons command outgoing =>
      cases command with
      | payload payload =>
        have hs : s.own .take = some (s.setTransport { s.transport with
            writer := .writing payload, outgoing }) := by
          show s.stepTake = _
          unfold stepTake
          rw [hwriter, hout]
        exact Reaches.after hs (hwriting _ payload hdead rfl)
      | close =>
        have hs : s.own .take = some (s.setTransport { s.transport with
            writer := .exited, outgoing }) := by
          show s.stepTake = _
          unfold stepTake
          rw [hwriter, hout]
        exact Reaches.after hs (released_of_exited hcall hstage rfl)

theorem released_of_shuttingDown (hno : NoEntry s.requests c)
    (hcall : s.requests.calls[c]? = some call) (hstage : call.stage = .sending)
    {error : Option NetworkClientError} (hmem : Closer.shuttingDown error ∈ s.closers) :
    s.Released c := by
  by_cases hdead : s.transport.dead = true
  · exact released_of_dead hno hcall hstage hdead
  · obtain ⟨k, hk⟩ := List.mem_iff_getElem?.mp hmem
    have hunbroken : s.transport.broken = false :=
      (Bool.or_eq_false_iff.mp (Bool.eq_false_iff.mpr hdead)).2
    have hs := own_closer hk
    rw [hunbroken] at hs
    exact Reaches.after hs (released_of_dead hno hcall hstage rfl)

/-- **A caller in the queue gets out** when nobody is stuck in it. -/
theorem released_of_unclogged (hno : NoEntry s.requests c)
    (hcall : s.requests.calls[c]? = some call) (hstage : call.stage = .sending)
    (h : s.Unclogged) : s.Released c := by
  rcases h with h | h | ⟨error, h⟩ | h
  · exact released_of_dead hno hcall hstage h
  · exact released_of_exited hcall hstage h
  · exact released_of_shuttingDown hno hcall hstage h
  · by_cases hroom : s.transport.outgoing.length < outboundQueueCapacity
    · exact released_of_room hno hcall hstage hroom
    -- the queue is full and the caller is one of those who wait: the writer has a place
    have hsender : 0 < s.senders := by
      refine Nat.lt_add_right _ (List.countP_pos_iff.mpr ⟨call, List.mem_of_getElem? hcall, ?_⟩)
      rw [hstage]
      rfl
    have hwriter : s.transport.writer = .receiving := by
      by_contra hnot
      unfold room at h
      rw [if_neg hnot] at h
      omega
    unfold room at h
    rw [if_pos hwriter] at h
    cases hout : s.transport.outgoing with
    | nil =>
      rw [hout] at hroom
      exact absurd (by decide) hroom
    | cons command outgoing =>
      rw [hout, List.length_cons] at h
      have hleft : outgoing.length < outboundQueueCapacity := by omega
      cases command with
      | payload payload =>
        have hs : s.own .take = some (s.setTransport { s.transport with
            writer := .writing payload, outgoing }) := by
          show s.stepTake = _
          unfold stepTake
          rw [hwriter, hout]
        exact Reaches.after hs (released_of_room hno hcall hstage hleft)
      | close =>
        have hs : s.own .take = some (s.setTransport { s.transport with
            writer := .exited, outgoing }) := by
          show s.stepTake = _
          unfold stepTake
          rw [hwriter, hout]
        exact Reaches.after hs (released_of_exited hcall hstage rfl)

/-- **No caller stays behind.** -/
theorem Refused.released (h : s.Refused) (hclear : s.Unclogged)
    (hcall : s.requests.calls[c]? = some call) : s.Released c := by
  have hno : isSent call.stage → NoEntry s.requests c := by
    rintro hsent p hp rfl
    exact h.pending p hp call hcall hsent
  cases hstage : call.stage with
  | registering => exact released_of_registering h.connected hcall hstage
  | connecting => exact released_of_connecting h.connected hcall hstage
  | sending => exact released_of_unclogged (hno (by rw [hstage]; rfl)) hcall hstage hclear
  | failing error => exact released_of_failing hcall hstage
  | waiting => exact released_of_waiting (hno (by rw [hstage]; rfl)) hcall hstage
  | returned result => exact .here ⟨call, hcall, by rw [hstage]; rfl⟩

end Release

/-! ## Runs -/

/-- What becomes of the requests of a connection. -/
structure Answers (s : GatewayConnection) : Prop where
  correlated : s.requests.Correlated
  /-- No caller stays behind when `handle_disconnect` has finished. -/
  released : s.disconnect = .done →
    ∀ c call, s.requests.calls[c]? = some call → s.Released c

/-- The frames are what they say, and `handle_disconnect` finishes with nobody stuck. -/
def CleanDisconnect (s : GatewayConnection) (a : LinkAction) : Prop :=
  s.FramesFit a ∧ s.LeavesUnclogged a

structure AnswersInv (s : GatewayConnection) : Prop where
  corr : s.requests.CorrInv
  down : s.DownInv
  clear : s.disconnect = .done → s.Unclogged

/-- Only one section finishes `handle_disconnect`. -/
theorem step_done {a : LinkAction} (hs : s.step a = some s') (hdone : s'.disconnect = .done)
    (hnot : s.disconnect ≠ .done) : ∃ k shut, a = .closer k shut ∧
      s.closers[k]? = some .resetting := by
  cases linkStep_of_step hs with
  | resets hk => exact ⟨_, _, rfl, hk⟩
  | starts | fails => cases hdone
  | _ => exact absurd hdone hnot

/-- **Step lemma.** -/
theorem AnswersInv.step {a : LinkAction} (h : s.AnswersInv) (hG : s.CleanDisconnect a)
    (hs : s.step a = some s') : s'.AnswersInv := by
  refine ⟨step_corr h.corr hG.1 hs, h.down.step hs, fun hdone => ?_⟩
  by_cases hold : s.disconnect = .done
  · exact (h.clear hold).step (h.down.swept (.inr hold)).connected hs
  · obtain ⟨k, shut, rfl, hk⟩ := step_done hs hdone hold
    have hrefused : s.Refused := h.down.closers _ (List.mem_of_getElem? hk)
    exact (hG.2 hk).step hrefused.connected hs

/-- **Every response goes to its caller, and no caller stays behind**, in every run in which
`handle_disconnect` finishes with nobody stuck in the queue. -/
theorem requests_answered {as : List LinkAction} (hr : runFrom step {} as = some s)
    (hG : StepsMeet step CleanDisconnect {} as) : s.Answers := by
  have h := Lib.run_inv_of_guard (fun _ _ _ h hG hs => AnswersInv.step h hG hs) as _ _
    (show AnswersInv {} from ⟨corrInv_init, downInv_init, nofun⟩) hG hr
  exact ⟨h.corr.correlated, fun hdone c call hcall =>
    (h.down.swept (.inr hdone)).released (h.clear hdone) hcall⟩

/-! ## A heartbeat that is answered, and one that stays behind -/

instance (s : GatewayConnection) : Decidable s.Unclogged :=
  have : Decidable (∃ error, Closer.shuttingDown error ∈ s.closers) :=
    decidable_of_iff (s.closers.any fun | .shuttingDown _ => true | _ => false) <| by
      refine List.any_eq_true.trans ⟨fun ⟨closer, hmem, hcloser⟩ => ?_,
        fun ⟨error, hmem⟩ => ⟨_, hmem, rfl⟩⟩
      cases closer with
      | shuttingDown error => exact ⟨error, hmem⟩
      | _ => cases hcloser
  inferInstanceAs (Decidable (_ ∨ _ ∨ _ ∨ _))

instance (r : Requests) (payload : Bytes) : Decidable (r.NoFalseNotice payload) :=
  match h : parseHeader payload with
  | .error _ => isTrue fun _ hparse => nomatch h.symm.trans hparse
  | .ok header => decidable_of_iff ((r.asked payload).isSome →
      header.opCode ≠ .sessionCloseNotice ∧ header.opCode ≠ .sessionDataChangedNotice)
    ⟨fun hfit _ hparse => Except.ok.inj (h.symm.trans hparse) ▸ hfit, fun hfit => hfit header h⟩

instance (s : GatewayConnection) (a : LinkAction) : Decidable (s.FramesFit a) :=
  match a with
  | .receive =>
    match hloop : s.receiveLoop, hnext : s.transport.incoming.head? with
    | .receiving, some (.ok payload) => decidable_of_iff (s.requests.NoFalseNotice payload)
      ⟨fun hfit _ hframe => Except.ok.inj (Option.some.inj (hnext.symm.trans hframe.2)) ▸ hfit,
        fun hfit => hfit payload ⟨hloop, hnext⟩⟩
    | .receiving, some (.error _) | .receiving, none =>
      isTrue fun _ hframe => nomatch hnext.symm.trans hframe.2
    | .polling, _ | .left, _ => isTrue fun _ hframe => nomatch hloop.symm.trans hframe.1
  | .sendRequest _ | .sendNotice _ | .call _ | .timeout _ | .close | .handleDisconnect _
  | .closer .. | .take | .written | .writeFails _ | .writerLeaves | .arrives _ | .readEnds _
  | .readFails _ | .reset => isTrue trivial

instance (s : GatewayConnection) (a : LinkAction) : Decidable (s.LeavesUnclogged a) :=
  match a with
  | .closer k _ => inferInstanceAs (Decidable (s.closers[k]? = some .resetting → s.Unclogged))
  | .sendRequest _ | .sendNotice _ | .call _ | .timeout _ | .close | .handleDisconnect _
  | .receive | .take | .written | .writeFails _ | .writerLeaves | .arrives _ | .readEnds _
  | .readFails _ | .reset => isTrue trivial

instance (s : GatewayConnection) (a : LinkAction) : Decidable (s.CleanDisconnect a) :=
  inferInstanceAs (Decidable (_ ∧ _))

/-- The frame of a heartbeat request or of its response. -/
def heartbeat (flags : UInt8) (requestId : UInt64) : Bytes :=
  ProtocolHeader.encode ⟨protocolVersion, headerLen, .connHeartbeat, flags, .ok, 0, requestId, 0⟩ []

/-- Request `c` of the connection up to the queue. -/
def sendHeartbeat (c : Nat) : List LinkAction :=
  [.sendRequest (heartbeat 0 (.ofNat (c + 1))), .call c, .call c]

/-- The first heartbeat is answered, and the other side then ends the stream. -/
def answeredHeartbeat : List LinkAction :=
  sendHeartbeat 0 ++ [.call 0, .take, .written, .arrives (heartbeat flagResponse 1), .receive,
    .receive, .call 0, .readEnds .sessionUnavailable, .receive, .receive, .closer 0 true,
    .closer 0 true, .closer 0 true, .closer 0 true]

theorem answeredHeartbeat_answers : ∃ s, runFrom step {} answeredHeartbeat = some s ∧
    s.disconnect = .done ∧ s.Answers := by
  obtain ⟨s, hr, hdone⟩ := Lib.exists_run step {} answeredHeartbeat
    (fun s => s.disconnect = .done) (by decide)
  exact ⟨s, hr, of_decide_eq_true hdone, requests_answered hr (by decide)⟩

/-- The close command is in the queue, or has been skipped. -/
def isShuttingDown : Closer → Bool
  | .shuttingDown _ => true
  | _ => false

/-- The writer is in the socket, the queue is full, and nobody is going to shut the stream down. -/
structure Stranded (c : Nat) (s : GatewayConnection) : Prop where
  writer : ∃ payload, s.transport.writer = .writing payload
  alive : s.transport.dead = false
  full : ¬ s.transport.outgoing.length < outboundQueueCapacity
  down : s.transport.connected = false
  closers : ∀ closer ∈ s.closers, isShuttingDown closer = false
  caller : ∃ call, s.requests.calls[c]? = some call ∧ call.stage = .sending

/-- A call that goes on leaves the stranded one alone. -/
theorem Stranded.setStage {c c' : Nat} {call : SendCall} {stage : SendStage} {requests : Requests}
    (h : s.Stranded c) (hcall : s.requests.calls[c']? = some call) (hstage : call.stage ≠ .sending)
    (hcalls : requests.calls = (s.requests.setStage c' call stage).calls) :
    (s.setRequests requests).Stranded c := by
  obtain ⟨stuck, hstuck, hsending⟩ := h.caller
  have hne : c ≠ c' := by
    rintro rfl
    obtain rfl := Option.some.inj (hcall.symm.trans hstuck)
    exact hstage hsending
  refine ⟨h.writer, h.alive, h.full, h.down, h.closers, stuck, ?_, hsending⟩
  show requests.calls[c]? = some stuck
  rw [hcalls, calls_setStage_ne call stage hne, hstuck]

theorem Stranded.stepCall {c c' : Nat} {call : SendCall} (h : s.Stranded c)
    (hcall : s.requests.calls[c']? = some call) (hs : s.stepCall c' call = some s') :
    s'.Stranded c := by
  unfold GatewayConnection.stepCall at hs
  split at hs
  · next hstage =>
    cases hs
    unfold Requests.register
    have hopen : call.stage ≠ .sending := by rw [hstage]; nofun
    split
    · exact h.setStage hcall hopen rfl
    · split_ifs
      · exact h.setStage hcall hopen rfl
      · exact h.setStage hcall hopen rfl
  · next hstage =>
    cases hs
    exact h.setStage hcall (by rw [hstage]; nofun) rfl
  · unfold sendPayload at hs
    obtain ⟨payload, hwriter⟩ := h.writer
    rw [if_neg (by rw [hwriter]; nofun), if_neg h.full] at hs
    cases hs
  · next hstage =>
    cases hs
    exact h.setStage hcall (by rw [hstage]; nofun) rfl
  · next hstage =>
    obtain ⟨r', hr, rfl⟩ := Option.map_eq_some_iff.mp hs
    have hopen : call.stage ≠ .sending := by rw [hstage]; nofun
    unfold Requests.recv at hr
    split at hr
    · cases hr
      exact h.setStage hcall hopen rfl
    · split_ifs at hr
      cases hr
      exact h.setStage hcall hopen rfl
  · cases hs

/-- A step that adds nobody who would shut the stream down. -/
theorem Stranded.same {c : Nat} (h : s.Stranded c) (hwriter : s'.transport.writer =
      s.transport.writer) (hdead : s'.transport.dead = s.transport.dead)
    (hout : s'.transport.outgoing = s.transport.outgoing)
    (hdown : s'.transport.connected = false)
    (hclosers : ∀ closer ∈ s'.closers, closer ∈ s.closers ∨ isShuttingDown closer = false)
    (hcalls : ∀ call, s.requests.calls[c]? = some call → s'.requests.calls[c]? = some call) :
    s'.Stranded c := by
  obtain ⟨call, hcall, hsending⟩ := h.caller
  refine ⟨hwriter ▸ h.writer, hdead.trans h.alive, hout ▸ h.full, hdown, fun closer hmem => ?_,
    call, hcalls call hcall, hsending⟩
  exact (hclosers closer hmem).elim (h.closers closer) id

theorem Stranded.stepCloser {c k : Nat} {shut : Bool} {closer : Closer} (h : s.Stranded c)
    (hk : s.closers[k]? = some closer) (hs : s.stepCloser k shut closer = some s') :
    s'.Stranded c := by
  have hnot := h.closers closer (List.mem_of_getElem? hk)
  have hset : ∀ closer', isShuttingDown closer' = false → ∀ x ∈ s.closers.set k closer',
      x ∈ s.closers ∨ isShuttingDown x = false := by
    intro closer' hnew x hx
    refine (List.mem_or_eq_of_mem_set hx).imp_right fun heq => ?_
    rw [heq]
    exact hnew
  cases closer with
  | closing error =>
    cases hs
    rw [if_neg (by rw [h.down]; rintro ⟨⟩)]
    exact h.same rfl rfl rfl h.down (hset _ (by cases error <;> rfl)) fun _ => id
  | sendingClose error =>
    obtain ⟨payload, hwriter⟩ := h.writer
    simp only [GatewayConnection.stepCloser] at hs
    rw [if_neg (by rw [hwriter]; rintro ⟨⟩), if_neg h.full] at hs
    cases hs
  | shuttingDown error => cases hnot
  | starting error =>
    cases hs
    split_ifs <;> exact h.same rfl rfl rfl h.down (hset _ rfl) fun _ => id
  | failing error =>
    cases hs
    exact h.same rfl rfl rfl h.down (hset _ rfl) fun call hcall =>
      (congrArg (·[c]?) (failAllPending_calls s.requests error)).trans hcall
  | resetting =>
    cases hs
    exact h.same rfl rfl rfl h.down (hset _ rfl) fun _ => id
  | finished => cases hs

/-- **Nothing that this side does helps.** -/
theorem Stranded.own {c : Nat} {a : LinkAction} (h : s.Stranded c) (hs : s.own a = some s') :
    s'.Stranded c := by
  have hadd : ∀ closer, isShuttingDown closer = false → ∀ x ∈ s.closers ++ [closer],
      x ∈ s.closers ∨ isShuttingDown x = false := by
    intro closer hnew x hx
    refine (List.mem_append.mp hx).imp_right fun hmem => ?_
    rw [List.mem_singleton.mp hmem]
    exact hnew
  have henter : ∀ payload request, (s.enter payload request).Stranded c := fun payload request =>
    h.same rfl rfl rfl h.down (fun _ => .inl) fun call hcall => by
      obtain ⟨hlt, -⟩ := List.getElem?_eq_some_iff.mp hcall
      exact (List.getElem?_append_left hlt).trans hcall
  obtain ⟨payload, hwriter⟩ := h.writer
  cases a with
  | sendRequest payload | sendNotice notice =>
    cases hs
    split
    · exact h
    · exact henter _ _
  | call c' =>
    obtain ⟨call, hcall, hs⟩ := Option.bind_eq_some_iff.mp hs
    exact h.stepCall hcall hs
  | timeout c' =>
    obtain ⟨call, hcall, hs⟩ := Option.bind_eq_some_iff.mp hs
    unfold stepTimeout at hs
    split at hs
    · next hstage _ _ =>
      cases hs
      exact h.setStage hcall (by rw [hstage]; rintro ⟨⟩) rfl
    · cases hs
  | close | handleDisconnect =>
    cases hs
    exact h.same rfl rfl rfl h.down (hadd _ rfl) fun _ => id
  | closer k shut =>
    simp only [GatewayConnection.own] at hs
    split_ifs at hs
    obtain ⟨closer, hk, hs⟩ := Option.bind_eq_some_iff.mp hs
    exact h.stepCloser hk hs
  | receive =>
    simp only [GatewayConnection.own, LinkAction.ofPeer, GatewayConnection.step,
      stepReceive] at hs
    rw [if_neg (by rintro ⟨⟩)] at hs
    split at hs
    · cases hs
      rw [if_neg (by rw [h.down]; rintro ⟨⟩)]
      exact h.same rfl rfl rfl h.down (hadd _ rfl) fun _ => id
    · split at hs
      · split_ifs at hs
        cases hs
        exact h.same rfl rfl rfl rfl (hadd _ rfl) fun _ => id
      · cases hs
        exact h.same rfl rfl rfl rfl (hadd _ rfl) fun _ => id
      · next payload incoming _ =>
        cases hs
        have hsee : ∀ call, s.requests.calls[c]? = some call →
            (s.requests.see payload).calls[c]? = some call := fun call hcall =>
          (congrArg (·[c]?) (see_calls s.requests payload).1).trans hcall
        unfold dispatch
        dsimp only
        split
        · exact h.same rfl rfl rfl h.down (fun _ => .inl) hsee
        · exact h.same rfl rfl rfl h.down (hadd _ rfl) hsee
    · cases hs
  | take =>
    simp only [GatewayConnection.own, LinkAction.ofPeer, GatewayConnection.step, stepTake,
      hwriter] at hs
    cases hs
  | writeFails error =>
    simp only [GatewayConnection.own, LinkAction.ofPeer, GatewayConnection.step, stepWriter,
      hwriter, h.alive] at hs
    cases hs
  | writerLeaves =>
    simp only [GatewayConnection.own, LinkAction.ofPeer, GatewayConnection.step, hwriter] at hs
    cases hs
  | readFails error =>
    simp only [GatewayConnection.own, LinkAction.ofPeer, GatewayConnection.step, h.alive] at hs
    cases hs
  | written | arrives _ | readEnds _ | reset => cases hs

theorem Stranded.not_released {c : Nat} (h : s.Stranded c) : ¬ s.Released c := by
  rintro ⟨as, s', hr, call, hcall, hreturned⟩
  obtain ⟨call', hcall', hsending⟩ :=
    (Lib.run_inv (fun _ _ _ h hs => Stranded.own h hs) h hr).caller
  obtain rfl := Option.some.inj (hcall.symm.trans hcall')
  rw [hsending] at hreturned
  cases hreturned

/-- Sixty-six calls, with the writer in the socket. -/
def fillQueue : List LinkAction :=
  sendHeartbeat 0 ++ [.call 0, .take] ++
    (List.range 64).flatMap (fun i => sendHeartbeat (i + 1) ++ [.call (i + 1)]) ++ sendHeartbeat 65

def isStranded (c : Nat) (s : GatewayConnection) : Bool :=
  s.transport.writer.isWriting && s.transport.dead = false &&
    s.transport.outgoing.length = outboundQueueCapacity && s.transport.connected = false &&
    (s.closers.all fun closer => isShuttingDown closer = false) &&
    s.requests.calls[c]?.any (·.stage.isSending)

theorem stranded_of {c : Nat} (h : s.isStranded c = true) : s.Stranded c := by
  simp only [isStranded, Bool.and_eq_true, decide_eq_true_eq, List.all_eq_true] at h
  obtain ⟨⟨⟨⟨⟨hwriter, halive⟩, hfull⟩, hdown⟩, hclosers⟩, hcaller⟩ := h
  obtain ⟨call, hcall, hsending⟩ := (Option.any_eq_true _ _).mp hcaller
  refine ⟨?_, halive, by omega, hdown, hclosers, call, hcall, ?_⟩
  · cases hphase : s.transport.writer with
    | writing payload => exact ⟨payload, rfl⟩
    | receiving | exited =>
      rw [hphase] at hwriter
      cases hwriter
  · cases hstage : call.stage with
    | sending => rfl
    | registering | connecting | failing | waiting | returned =>
      rw [hstage] at hsending
      cases hsending

/-- The other side ends its half of the stream, and the receive loop disconnects. -/
def halfClosed : List LinkAction :=
  fillQueue ++ [.receive, .readEnds .sessionUnavailable, .receive, .closer 0 true, .closer 0 true,
    .closer 0 true, .closer 0 true]

/-- `handle_disconnect` has finished, and the last caller stays in `outgoing_tx.send`. -/
theorem half_closed_strands_caller : ∃ s, runFrom step {} halfClosed = some s ∧ ¬ s.Answers := by
  obtain ⟨s, hr, hs⟩ := Lib.exists_run step {} halfClosed
    (fun s => s.disconnect = .done && s.isStranded 65) (by decide +kernel)
  obtain ⟨hdone, hstranded⟩ := Bool.and_eq_true_iff.mp hs
  have h := stranded_of hstranded
  obtain ⟨call, hcall, -⟩ := h.caller
  exact ⟨s, hr, fun hanswers =>
    h.not_released (hanswers.released (of_decide_eq_true hdone) 65 call hcall)⟩

end GatewayConnection

end YumeDisk.Client
