import YumeDisk.Client.Correlation

/-!
# What a step of the connection does

* `LinkStep`, `linkStep_of_step`: the steps of `GatewayConnection`, seen from the transport, the
  threads that close it and the receive loop.
-/

namespace YumeDisk.Client

open Lib (Bytes)

def WriterLoop.isWriting : WriterLoop → Bool
  | .writing _ => true
  | _ => false

namespace GatewayConnection

open Requests

variable {s s' : GatewayConnection}

/-- Some call is in `outgoing_tx.send`. -/
def anySending (r : Requests) : Bool := r.calls.any (·.stage.isSending)

/-- The calls in `outgoing_tx.send`. -/
def sending (r : Requests) : Nat := r.calls.countP (·.stage.isSending)

/-! ## What a step does -/

/-- A step, seen from the transport and from the threads that close it. -/
inductive LinkStep (s : GatewayConnection) : LinkAction → GatewayConnection → Prop
  | requests {a : LinkAction} (r : Requests)
      (hcall : s.transport.connected ∨ sending r ≤ sending s.requests) :
      LinkStep s a (s.setRequests r)
  | sent {c : Nat} {call : SendCall} (r : Requests) (hcall : s.requests.calls[c]? = some call)
      (hstage : call.stage = .sending) (hwriter : s.transport.writer ≠ .exited)
      (hroom : s.transport.outgoing.length < outboundQueueCapacity)
      (hsent : sending r < sending s.requests) :
      LinkStep s (.call c) { s with
        requests := r
        transport := { s.transport with
          outgoing := s.transport.outgoing ++ [.payload call.payload] } }
  | refused {a : LinkAction} (r : Requests) (hwriter : s.transport.writer = .exited)
      (hcall : sending r ≤ sending s.requests) :
      LinkStep s a { s with
        requests := r, transport := { s.transport with connected := false } }
  | opened {a : LinkAction} (closer : Closer)
      (hnew : a = .close ∧ closer = .closing none ∨
        ∃ error, a = .handleDisconnect error ∧ closer = .starting error) :
      LinkStep s a { s with closers := s.closers ++ [closer] }
  | takes {k : Nat} {shut : Bool} (error : Option NetworkClientError)
      (hk : s.closers[k]? = some (.closing error)) (hup : s.transport.connected = true) :
      LinkStep s (.closer k shut) { s.setCloser k (.sendingClose error) with
        transport := { s.transport with connected := false } }
  | finds {k : Nat} {shut : Bool} (error : Option NetworkClientError)
      (hk : s.closers[k]? = some (.closing error)) (hdown : s.transport.connected = false) :
      LinkStep s (.closer k shut) (s.setCloser k (afterClose error))
  | sendsClose {k : Nat} {shut : Bool} (error : Option NetworkClientError)
      (hk : s.closers[k]? = some (.sendingClose error)) (hwriter : s.transport.writer ≠ .exited)
      (hroom : s.transport.outgoing.length < outboundQueueCapacity) :
      LinkStep s (.closer k shut) { s.setCloser k (.shuttingDown error) with
        transport := { s.transport with outgoing := s.transport.outgoing ++ [.close] } }
  | skipsClose {k : Nat} {shut : Bool} (error : Option NetworkClientError)
      (hk : s.closers[k]? = some (.sendingClose error)) (hwriter : s.transport.writer = .exited) :
      LinkStep s (.closer k shut) (s.setCloser k (.shuttingDown error))
  | shuts {k : Nat} (error : Option NetworkClientError)
      (hk : s.closers[k]? = some (.shuttingDown error)) :
      LinkStep s (.closer k true) { s.setCloser k (afterClose error) with
        transport := { s.transport with shutdown := true } }
  | shutFails {k : Nat} (error : Option NetworkClientError)
      (hk : s.closers[k]? = some (.shuttingDown error)) (hbroken : s.transport.broken = true) :
      LinkStep s (.closer k false) (s.setCloser k (error.elim .finished .failing))
  | starts {k : Nat} {shut : Bool} (error : NetworkClientError)
      (hk : s.closers[k]? = some (.starting error)) (hfirst : s.disconnect = .notStarted) :
      LinkStep s (.closer k shut) { s.setCloser k (.closing (some error)) with
        disconnect := .closed }
  | leaves {k : Nat} {shut : Bool} (error : NetworkClientError)
      (hk : s.closers[k]? = some (.starting error)) (hlater : s.disconnect ≠ .notStarted) :
      LinkStep s (.closer k shut) (s.setCloser k .finished)
  | fails {k : Nat} {shut : Bool} (error : NetworkClientError) (r : Requests)
      (hk : s.closers[k]? = some (.failing error)) (hcalls : r.calls = s.requests.calls)
      (hnone : r.pending = []) :
      LinkStep s (.closer k shut) { (s.setRequests r).setCloser k .resetting with
        disconnect := .swept }
  | resets {k : Nat} {shut : Bool} (hk : s.closers[k]? = some .resetting) :
      LinkStep s (.closer k shut) { s.setCloser k .finished with disconnect := .done }
  | polled (hloop : s.receiveLoop = .polling) (hup : s.transport.connected = true) :
      LinkStep s .receive { s with receiveLoop := .receiving }
  | dropped (hloop : s.receiveLoop = .polling) (hdown : s.transport.connected = false) :
      LinkStep s .receive (s.leaveLoop .sessionUnavailable)
  | drained (hloop : s.receiveLoop = .receiving) (hin : s.transport.incoming = [])
      (hreading : s.transport.reading = false) :
      LinkStep s .receive ((s.setTransport { s.transport with connected := false }).leaveLoop
        .sessionUnavailable)
  | lost (error : NetworkClientError) (incoming : List InboundEvent)
      (hloop : s.receiveLoop = .receiving) (hin : s.transport.incoming = .error error :: incoming) :
      LinkStep s .receive ((s.setTransport { s.transport with
        connected := false, incoming }).leaveLoop error)
  | dispatched (payload : Bytes) (incoming : List InboundEvent) (r : Requests)
      (hloop : s.receiveLoop = .receiving) (hin : s.transport.incoming = .ok payload :: incoming)
      (hcalls : r.calls = s.requests.calls) :
      LinkStep s .receive { s with
        requests := r, transport := { s.transport with incoming }, receiveLoop := .polling }
  | misled (payload : Bytes) (incoming : List InboundEvent) (r : Requests)
      (error : NetworkClientError) (hloop : s.receiveLoop = .receiving)
      (hin : s.transport.incoming = .ok payload :: incoming)
      (hbad : s.requests.dispatchResponse payload = .error error)
      (hcalls : r.calls = s.requests.calls) :
      LinkStep s .receive (leaveLoop { s with
        requests := r, transport := { s.transport with incoming } } error)
  | took (payload : Bytes) (outgoing : List WriterCommand)
      (hwriter : s.transport.writer = .receiving)
      (hout : s.transport.outgoing = .payload payload :: outgoing) :
      LinkStep s .take (s.setTransport { s.transport with writer := .writing payload, outgoing })
  | stopped (outgoing : List WriterCommand) (hwriter : s.transport.writer = .receiving)
      (hout : s.transport.outgoing = .close :: outgoing) :
      LinkStep s .take (s.setTransport { s.transport with writer := .exited, outgoing })
  | wrote (hwriter : s.transport.writer.isWriting = true) :
      LinkStep s .written (s.setTransport { s.transport with writer := .receiving })
  | failed (error : NetworkClientError) (hdead : s.transport.dead = true) :
      LinkStep s (.writeFails error) (s.setTransport { s.transport with
        writer := .exited, incoming := s.transport.incoming ++ [.error error] })
  | left (hwriter : s.transport.writer = .receiving) (hout : s.transport.outgoing = [])
      (hfree : s.isHeld = false) :
      LinkStep s .writerLeaves (s.setTransport { s.transport with writer := .exited })
  | read {a : LinkAction} (event : InboundEvent) (hreading : s.transport.reading = true) :
      LinkStep s a (s.setTransport { s.transport with
        incoming := s.transport.incoming ++ [event], reading := event.toBool && s.isHeld })
  | reset : LinkStep s .reset (s.setTransport { s.transport with broken := true })

theorem countP_set_of_not {α : Type} {p : α → Bool} {l : List α} {i : Nat} {x a : α}
    (h : l[i]? = some x) (ha : p a = false) :
    (l.set i a).countP p + (if p x then 1 else 0) = l.countP p := by
  obtain ⟨hlt, hx⟩ := List.getElem?_eq_some_iff.mp h
  have hle : (if p x then 1 else 0) ≤ l.countP p := by
    split_ifs with hp
    · exact List.countP_pos_iff.mpr ⟨x, List.mem_of_getElem? h, hp⟩
    · exact Nat.zero_le _
  rw [List.countP_set hlt, hx, ha]
  exact Nat.sub_add_cancel hle

theorem sending_setStage {r : Requests} {c : Nat} {call : SendCall} {stage : SendStage}
    (hcall : r.calls[c]? = some call) (hstage : stage.isSending = false) :
    sending (r.setStage c call stage) + (if call.stage.isSending then 1 else 0) = sending r :=
  @countP_set_of_not _ (fun call : SendCall => call.stage.isSending) _ _ _ { call with stage }
    hcall hstage

theorem anySending_of_le {r r' : Requests} (h : anySending r = false)
    (hle : sending r' ≤ sending r) : anySending r' = false := by
  have hzero : sending r = 0 := List.countP_eq_zero.mpr (by simpa [anySending] using h)
  simpa [anySending] using List.countP_eq_zero.mp (Nat.le_zero.mp (hle.trans_eq hzero))

theorem sending_congr {r r' : Requests} (h : r'.calls = r.calls) : sending r' = sending r :=
  congrArg (List.countP fun call : SendCall => call.stage.isSending) h

theorem afterClose_isSending (error : Option NetworkClientError) :
    (afterClose error).isSending = false := by
  cases error <;> rfl

theorem dispatchResponse_ok {r r' : Requests} {payload : Bytes}
    (h : r.dispatchResponse payload = .ok r') :
    r'.calls = r.calls ∧ r'.pending ⊆ r.pending := by
  unfold dispatchResponse at h
  split at h
  · cases h
  split at h
  · split at h <;> cases h
    exact ⟨rfl, fun _ hp => hp⟩
  · split at h
    · split at h <;> cases h
      exact ⟨rfl, fun _ hp => hp⟩
    · split at h
      · cases h
      · split at h <;> cases h
        exact ⟨respond_calls .., fun _ hp => List.mem_of_mem_filter hp⟩

theorem see_calls (r : Requests) (payload : Bytes) :
    (r.see payload).calls = r.calls ∧ (r.see payload).pending ⊆ r.pending := by
  unfold see
  cases h : r.dispatchResponse payload with
  | error e => exact ⟨rfl, fun _ hp => hp⟩
  | ok r' =>
    obtain ⟨hcalls, hpending⟩ := dispatchResponse_ok h
    exact ⟨hcalls, hpending⟩

/-- A call that goes on without sending. -/
theorem LinkStep.setStage {a : LinkAction} {r : Requests} {c : Nat} {call : SendCall}
    {stage : SendStage} (hcall : s.requests.calls[c]? = some call)
    (hcalls : r.calls = (s.requests.setStage c call stage).calls)
    (hstage : stage.isSending = true → s.transport.connected = true) :
    LinkStep s a (s.setRequests r) := by
  refine .requests r ?_
  cases hsending : stage.isSending with
  | true => exact .inl (hstage hsending)
  | false =>
    rw [sending_congr hcalls]
    exact .inr (Nat.le.intro (sending_setStage hcall hsending))

theorem linkStep_of_stepCall {c : Nat} {call : SendCall} (hcall : s.requests.calls[c]? = some call)
    (hs : s.stepCall c call = some s') : LinkStep s (.call c) s' := by
  unfold stepCall at hs
  split at hs
  · cases hs
    unfold Requests.register
    split
    · exact .setStage hcall rfl nofun
    · split_ifs
      · exact .setStage hcall rfl nofun
      · exact .setStage hcall rfl nofun
  · cases hs
    refine .setStage hcall rfl fun h => ?_
    unfold connectedState at h
    split at h
    · cases h
    · split_ifs at h with hup
      · exact hup
      · cases h
  · next hstage =>
    unfold sendPayload at hs
    split at hs
    · next hexited =>
      cases hs
      exact .refused _ hexited (Nat.le.intro (sending_setStage hcall rfl))
    · next hwriter =>
      split at hs <;> cases hs
      have hcount := @sending_setStage _ _ _
        (if call.request.isSome then .waiting else .returned (.ok [])) hcall (by split_ifs <;> rfl)
      rw [hstage] at hcount
      exact .sent _ hcall hstage hwriter ‹_› (Nat.lt_of_succ_le hcount.le)
  · cases hs
    exact .setStage hcall rfl nofun
  · obtain ⟨r', hr, rfl⟩ := Option.map_eq_some_iff.mp hs
    unfold Requests.recv at hr
    split at hr
    · cases hr
      exact .setStage hcall rfl nofun
    · split_ifs at hr
      cases hr
      exact .setStage hcall rfl nofun
  · cases hs

theorem linkStep_enter (s : GatewayConnection) (a : LinkAction) (payload : Bytes)
    (request : Option (UInt64 × ClientOperationCode)) : LinkStep s a (s.enter payload request) := by
  refine .requests _ (.inr (Nat.le_of_eq ?_))
  show List.countP _ (s.requests.calls ++ [_]) = _
  rw [List.countP_append]
  rfl

theorem linkStep_self (s : GatewayConnection) (a : LinkAction) : LinkStep s a s :=
  .requests s.requests (.inr le_rfl)

theorem linkStep_of_receive (hs : s.stepReceive = some s') : LinkStep s .receive s' := by
  unfold stepReceive at hs
  split at hs
  · next hloop =>
    cases hs
    split_ifs with hup
    · exact .polled hloop hup
    · exact .dropped hloop (Bool.eq_false_iff.mpr hup)
  · next hloop =>
    split at hs
    · next hin =>
      split_ifs at hs with hgone
      cases hs
      rw [not_or] at hgone
      exact .drained hloop hin (Bool.eq_false_iff.mpr hgone.1)
    · next error incoming hin =>
      cases hs
      exact .lost error incoming hloop hin
    · next payload incoming hin =>
      cases hs
      have hcalls := (see_calls s.requests payload).1
      unfold dispatch
      dsimp only
      split
      · exact .dispatched payload incoming _ hloop hin hcalls
      · next error hbad => exact .misled payload incoming _ error hloop hin hbad hcalls
  · cases hs

theorem linkStep_of_stepCloser {k : Nat} {shut : Bool} {closer : Closer}
    (hk : s.closers[k]? = some closer) (hs : s.stepCloser k shut closer = some s') :
    LinkStep s (.closer k shut) s' := by
  cases closer with
  | closing error =>
    cases hs
    split_ifs with hup
    · exact .takes error hk hup
    · exact .finds error hk (Bool.eq_false_iff.mpr hup)
  | sendingClose error =>
    simp only [stepCloser] at hs
    split at hs
    · next hwriter =>
      cases hs
      exact .skipsClose error hk hwriter
    · next hwriter =>
      split at hs <;> cases hs
      exact .sendsClose error hk hwriter ‹_›
  | shuttingDown error =>
    simp only [stepCloser] at hs
    cases shut with
    | true =>
      cases hs
      exact .shuts error hk
    | false =>
      rw [if_neg (by rintro ⟨⟩)] at hs
      split at hs <;> cases hs
      exact .shutFails error hk ‹_›
  | starting error =>
    cases hs
    split_ifs with hfirst
    · exact .starts error hk hfirst
    · exact .leaves error hk hfirst
  | failing error =>
    cases hs
    exact .fails error _ hk (failAllPending_calls ..) rfl
  | resetting =>
    cases hs
    exact .resets hk
  | finished => cases hs

/-- **What a step does.** -/
theorem linkStep_of_step {a : LinkAction} (hs : s.step a = some s') : LinkStep s a s' := by
  have hread : ∀ event, s.stepReader event = some s' → LinkStep s a s' := by
    intro event hs
    unfold stepReader at hs
    split_ifs at hs with hreading
    cases hs
    exact .read event hreading
  cases a with
  | sendRequest payload | sendNotice notice =>
    cases hs
    split
    · exact linkStep_self s _
    · exact linkStep_enter s _ _ _
  | call c =>
    obtain ⟨call, hcall, hs⟩ := Option.bind_eq_some_iff.mp hs
    exact linkStep_of_stepCall hcall hs
  | timeout c =>
    obtain ⟨call, hcall, hs⟩ := Option.bind_eq_some_iff.mp hs
    unfold stepTimeout at hs
    split at hs <;> cases hs
    exact .setStage hcall rfl nofun
  | close =>
    cases hs
    exact .opened _ (.inl ⟨rfl, rfl⟩)
  | handleDisconnect error =>
    cases hs
    exact .opened _ (.inr ⟨error, rfl, rfl⟩)
  | closer k shut =>
    obtain ⟨closer, hk, hs⟩ := Option.bind_eq_some_iff.mp hs
    exact linkStep_of_stepCloser hk hs
  | receive => exact linkStep_of_receive hs
  | take =>
    simp only [step, stepTake] at hs
    split at hs
    · next hwriter hout =>
      cases hs
      exact .took _ _ hwriter hout
    · next hwriter hout =>
      cases hs
      exact .stopped _ hwriter hout
    · cases hs
  | written =>
    simp only [step, stepWriter] at hs
    split_ifs at hs
    split at hs
    · next hwriter =>
      cases hs
      exact .wrote (by rw [hwriter]; rfl)
    · cases hs
  | writeFails error =>
    simp only [step, stepWriter] at hs
    split at hs
    · split_ifs at hs with hdead
      cases hs
      exact .failed error hdead
    · cases hs
  | writerLeaves =>
    simp only [step] at hs
    split_ifs at hs with h
    cases hs
    exact .left h.1 h.2.1 h.2.2
  | arrives payload => exact hread _ hs
  | readEnds error => exact hread _ hs
  | readFails error =>
    simp only [step] at hs
    split_ifs at hs
    exact hread _ hs
  | reset =>
    cases hs
    exact .reset

end GatewayConnection

end YumeDisk.Client
