import YumeDisk.Client.TransportQueue

/-!
# Requests and their answers (`gateway_connection.rs`)

`send_request` enters a request in `pending_requests`, `dispatch_response` takes the entry that a
response asks for, and `handle_disconnect` fails all that is left.

* `Requests.Correlated`: a response goes to the caller whose request it answers and to no other, and
  a caller has one response at most.
* `Requests.CorrInv`: the invariant; `CorrInv.register`, `CorrInv.see`, `CorrInv.failAllPending`:
  the sections that change what is pending.
* `step_corr`: one step of the connection.
-/

namespace YumeDisk.Client

open Lib (Bytes)

namespace Requests

/-- The caller of the request has the answer in its channel, or had given up. -/
def Answered (r : Requests) (payload : Bytes) (p : PendingRequest) : Prop :=
  ∃ header call, parseHeader payload = .ok header ∧ header.requestId = p.requestId ∧
    r.calls[p.caller]? = some call ∧ call.request = some (p.requestId, p.opCode) ∧
    (r.mail p.caller = some (answer header p payload) ∨
      r.mail p.caller = none ∧ call.stage.isReturned)

/-- Who gets which response. -/
structure Correlated (r : Requests) : Prop where
  /-- A response reaches the caller whose request it answers, and as an error if the operation
  differs. -/
  answered : ∀ x ∈ r.seen, ∀ p, x.asked = some p → r.Answered x.payload p
  /-- No caller has two. -/
  once : (r.seen.filterMap fun x => x.asked.map (·.caller)).Nodup
  /-- What a caller has is its response, or the error of a disconnect. -/
  only : ∀ c result, r.mail c = some result →
    (∃ x ∈ r.seen, ∃ p, x.asked = some p ∧ p.caller = c) ∨
      ∃ e ∈ r.failedWith, result = .error e
  /-- A payload that a request returns is the one it has got. -/
  returned : ∀ c call payload, r.calls[c]? = some call → call.request.isSome →
    call.stage = .returned (.ok payload) → r.mail c = some (.ok payload)

/-- Nothing has been done about the call. -/
structure Untouched (r : Requests) (c : Nat) : Prop where
  mail : r.mail c = none
  pending : ∀ p ∈ r.pending, p.caller ≠ c
  seen : ∀ x ∈ r.seen, ∀ p, x.asked = some p → p.caller ≠ c

structure CorrInv (r : Requests) : Prop where
  correlated : r.Correlated
  entries : ∀ p ∈ r.pending, ∃ call, r.calls[p.caller]? = some call ∧
    call.request = some (p.requestId, p.opCode) ∧ call.stage ≠ .registering
  ids : (r.pending.map (·.requestId)).Nodup
  callers : (r.pending.map (·.caller)).Nodup
  silent : ∀ p ∈ r.pending, r.mail p.caller = none ∧
    ∀ x ∈ r.seen, ∀ q, x.asked = some q → q.caller ≠ p.caller
  fresh : ∀ c, (∀ call, r.calls[c]? = some call → call.stage = .registering) → r.Untouched c

/-- A response that answers a request does not have the operation of a notice. -/
def NoFalseNotice (r : Requests) (payload : Bytes) : Prop :=
  ∀ header, parseHeader payload = .ok header → (r.asked payload).isSome →
    header.opCode ≠ .sessionCloseNotice ∧ header.opCode ≠ .sessionDataChangedNotice

variable {r r' : Requests}

theorem corrInv_init : ({} : Requests).CorrInv where
  correlated := ⟨nofun, List.nodup_nil, nofun, nofun⟩
  entries := nofun
  ids := List.nodup_nil
  callers := List.nodup_nil
  silent := nofun
  fresh _ _ := ⟨rfl, nofun, nofun⟩

theorem Correlated.of_pending (h : r.Correlated) {pending : List PendingRequest} :
    ({ r with pending } : Requests).Correlated := ⟨h.answered, h.once, h.only, h.returned⟩

/-! ## The calls go on -/

/-- The calls of `r'` are those of `r`, further on. -/
def Grows (r r' : Requests) : Prop :=
  ∀ (c : Nat) (call : SendCall), r.calls[c]? = some call → ∃ call' : SendCall,
    r'.calls[c]? = some call' ∧
    call'.request = call.request ∧ (call.stage.isReturned → call' = call) ∧
    (call'.stage = .registering → call.stage = .registering)

theorem Grows.of_eq (h : r'.calls = r.calls) : Grows r r' :=
  fun _ call hcall => ⟨call, h ▸ hcall, rfl, fun _ => rfl, id⟩

theorem calls_setStage {c c' : Nat} {call call' : SendCall} {stage : SendStage}
    (hcall : r.calls[c]? = some call) (h : (r.setStage c call stage).calls[c']? = some call') :
    c' = c ∧ call' = { call with stage } ∨ c' ≠ c ∧ r.calls[c']? = some call' := by
  rw [setStage, List.getElem?_set] at h
  by_cases hc : c = c'
  · subst hc
    obtain ⟨hlt, -⟩ := List.getElem?_eq_some_iff.mp hcall
    rw [if_pos rfl, if_pos hlt] at h
    exact .inl ⟨rfl, (Option.some.inj h).symm⟩
  · rw [if_neg hc] at h
    exact .inr ⟨Ne.symm hc, h⟩

theorem calls_setStage_self {c : Nat} {call : SendCall} (stage : SendStage)
    (hcall : r.calls[c]? = some call) :
    (r.setStage c call stage).calls[c]? = some { call with stage } := by
  obtain ⟨hlt, -⟩ := List.getElem?_eq_some_iff.mp hcall
  rw [setStage, List.getElem?_set_self hlt]

theorem calls_setStage_ne {c c' : Nat} (call : SendCall) (stage : SendStage) (hc : c' ≠ c) :
    (r.setStage c call stage).calls[c']? = r.calls[c']? := by
  rw [setStage, List.getElem?_set_ne (Ne.symm hc)]

theorem grows_setStage {c : Nat} {call : SendCall} {stage : SendStage}
    (hcall : r.calls[c]? = some call) (hopen : ¬ call.stage.isReturned)
    (hstage : stage = .registering → call.stage = .registering) :
    Grows r (r.setStage c call stage) := by
  intro c' call' hcall'
  by_cases hc : c' = c
  · subst hc
    obtain rfl := Option.some.inj (hcall.symm.trans hcall')
    exact ⟨_, calls_setStage_self stage hcall, rfl, fun h => absurd h hopen, hstage⟩
  · exact ⟨call', (calls_setStage_ne call stage hc).trans hcall', rfl, fun _ => rfl, id⟩

theorem Answered.grow {payload : Bytes} {p : PendingRequest} (h : r.Answered payload p)
    (hg : Grows r r') (hmail : r'.mail p.caller = r.mail p.caller) : r'.Answered payload p := by
  obtain ⟨header, call, hparse, hid, hcall, hrequest, hhas⟩ := h
  obtain ⟨call', hcall', hrequest', hreturned, -⟩ := hg _ call hcall
  refine ⟨header, call', hparse, hid, hcall', hrequest'.trans hrequest, ?_⟩
  rw [hmail]
  refine hhas.imp_right fun ⟨hnone, hret⟩ => ⟨hnone, ?_⟩
  rw [hreturned hret]
  exact hret

/-- A step of a call that changes nothing else, or takes entries away. -/
theorem CorrInv.grow (h : r.CorrInv) (hg : Grows r r') (hpending : r'.pending.Sublist r.pending)
    (hmail : r'.mail = r.mail) (hseen : r'.seen = r.seen) (hfailed : r'.failedWith = r.failedWith)
    (hreturned : ∀ c call payload, r'.calls[c]? = some call → call.request.isSome →
      call.stage = .returned (.ok payload) → r'.mail c = some (.ok payload)) : r'.CorrInv where
  correlated := by
    refine ⟨fun x hx p hp => ?_, hseen ▸ h.correlated.once, fun c result hc => ?_, hreturned⟩
    · rw [hseen] at hx
      exact (h.correlated.answered x hx p hp).grow hg (by rw [hmail])
    · rw [hmail] at hc
      rw [hseen, hfailed]
      exact h.correlated.only c result hc
  entries p hp := by
    obtain ⟨call, hcall, hrequest, hstage⟩ := h.entries p (hpending.subset hp)
    obtain ⟨call', hcall', hrequest', -, hback⟩ := hg _ call hcall
    exact ⟨call', hcall', hrequest'.trans hrequest, fun hreg => hstage (hback hreg)⟩
  ids := h.ids.sublist (hpending.map _)
  callers := h.callers.sublist (hpending.map _)
  silent p hp := by
    rw [hmail, hseen]
    exact h.silent p (hpending.subset hp)
  fresh c hc := by
    have hc' : ∀ call, r.calls[c]? = some call → call.stage = .registering := by
      intro call hcall
      obtain ⟨call', hcall', -, -, hback⟩ := hg c call hcall
      exact hback (hc call' hcall')
    obtain ⟨hnone, hno, hunseen⟩ := h.fresh c hc'
    exact ⟨hmail ▸ hnone, fun p hp => hno p (hpending.subset hp), hseen ▸ hunseen⟩

/-- A call goes on. -/
theorem CorrInv.setStage (h : r.CorrInv) {c : Nat} {call : SendCall} {stage : SendStage}
    (hcall : r.calls[c]? = some call) (hopen : ¬ call.stage.isReturned)
    (hstage : stage ≠ .registering) (hreturned : ∀ payload, call.request.isSome →
      stage = .returned (.ok payload) → r.mail c = some (.ok payload)) :
    (r.setStage c call stage).CorrInv := by
  refine h.grow (grows_setStage hcall hopen fun hreg => absurd hreg hstage) (.refl _) rfl rfl rfl ?_
  intro c' call' payload hcall' hrequest hstage'
  rcases calls_setStage hcall hcall' with ⟨rfl, rfl⟩ | ⟨-, hold⟩
  · exact hreturned payload hrequest hstage'
  · exact h.correlated.returned c' call' payload hold hrequest hstage'

/-- A new call. -/
theorem CorrInv.enter (h : r.CorrInv) (payload : Bytes)
    (request : Option (UInt64 × ClientOperationCode)) :
    ({ r with calls := r.calls ++ [⟨payload, request, .registering⟩] } : Requests).CorrInv := by
  have hback : ∀ (c : Nat) (call : SendCall),
      (r.calls ++ [⟨payload, request, .registering⟩])[c]? = some call →
      r.calls[c]? = some call ∨ call.stage = .registering := by
    intro c call hcall
    rw [List.getElem?_append] at hcall
    split at hcall
    · exact .inl hcall
    · obtain rfl := List.mem_singleton.mp (List.mem_of_getElem? hcall)
      exact .inr rfl
  refine h.grow (fun c call hcall => ⟨call, ?_, rfl, fun _ => rfl, id⟩) (.refl _) rfl rfl rfl
    fun c call payload' hcall hrequest hstage => ?_
  · obtain ⟨hlt, -⟩ := List.getElem?_eq_some_iff.mp hcall
    exact (List.getElem?_append_left hlt).trans hcall
  · rcases hback c call hcall with hold | hreg
    · exact h.correlated.returned c call payload' hold hrequest hstage
    · cases hreg.symm.trans hstage

/-! ## What is pending -/

theorem CorrInv.register (h : r.CorrInv) {c : Nat} {call : SendCall}
    (hcall : r.calls[c]? = some call) (hstage : call.stage = .registering) :
    (r.register c call).CorrInv := by
  have hopen : ¬ call.stage.isReturned := by rw [hstage]; nofun
  unfold Requests.register
  split
  · exact h.setStage hcall hopen nofun nofun
  next requestId opCode hrequest =>
  split_ifs with hany
  · exact h.setStage hcall hopen nofun nofun
  · have hconnecting : (r.setStage c call .connecting).CorrInv :=
      h.setStage hcall hopen nofun nofun
    obtain ⟨hmail, hno, hunseen⟩ := h.fresh c fun call' hcall' => by
      obtain rfl := Option.some.inj (hcall.symm.trans hcall')
      exact hstage
    refine ⟨hconnecting.correlated.of_pending, ?_, ?_, ?_, ?_, fun c' hc' => ?_⟩
    · rintro p (_ | ⟨_, hp⟩)
      · exact ⟨_, calls_setStage_self .connecting hcall, hrequest, nofun⟩
      · exact hconnecting.entries p hp
    · refine List.nodup_cons.mpr ⟨fun hmem => hany ?_, h.ids⟩
      obtain ⟨p, hp, hid⟩ := List.mem_map.mp hmem
      exact List.any_eq_true.mpr ⟨p, hp, decide_eq_true hid⟩
    · refine List.nodup_cons.mpr ⟨fun hmem => ?_, h.callers⟩
      obtain ⟨p, hp, hcaller⟩ := List.mem_map.mp hmem
      exact hno p hp hcaller
    · rintro p (_ | ⟨_, hp⟩)
      · exact ⟨hmail, hunseen⟩
      · exact h.silent p hp
    · obtain ⟨hnone, hno', hunseen'⟩ := hconnecting.fresh c' hc'
      refine ⟨hnone, ?_, hunseen'⟩
      rintro p (_ | ⟨_, hp⟩) rfl
      · exact nomatch hc' _ (calls_setStage_self .connecting hcall)
      · exact hno' p hp rfl

theorem CorrInv.failCall (h : r.CorrInv) {c : Nat} {call : SendCall} {error : NetworkClientError}
    (hcall : r.calls[c]? = some call) (hopen : ¬ call.stage.isReturned) :
    (r.failCall c call error).CorrInv := by
  have hstage : (r.setStage c call (.returned (.error error))).CorrInv :=
    h.setStage hcall hopen nofun nofun
  exact hstage.grow (.of_eq rfl) List.filter_sublist rfl rfl rfl hstage.correlated.returned

theorem CorrInv.recv (h : r.CorrInv) {c : Nat} {call : SendCall} (hcall : r.calls[c]? = some call)
    (hopen : ¬ call.stage.isReturned) (hr : r.recv c call = some r') : r'.CorrInv := by
  unfold Requests.recv at hr
  split at hr
  · next result hmail =>
    cases hr
    refine h.setStage hcall hopen nofun fun payload _ hret => ?_
    rw [hmail, SendStage.returned.inj hret]
  · split_ifs at hr
    cases hr
    exact h.setStage hcall hopen nofun nofun

/-! ## The receive loop -/

theorem asked_some {payload : Bytes} {p : PendingRequest} (h : r.asked payload = some p) :
    ∃ header, parseHeader payload = .ok header ∧ header.isResponse ∧
      r.pending.find? (·.requestId = header.requestId) = some p := by
  unfold asked at h
  split at h
  · cases h
  next header hparse =>
  split_ifs at h with hresponse
  exact ⟨header, hparse, hresponse, h⟩

/-- A frame that answers no request changes nothing. -/
theorem dispatchResponse_unasked {payload : Bytes} (h : r.asked payload = none) :
    (r.dispatchResponse payload).toOption.getD r = r := by
  unfold asked at h
  unfold dispatchResponse
  split
  · rfl
  next header hparse =>
  rw [hparse] at h
  dsimp only at h
  split_ifs with hclose hchanged hflags
  · split <;> rfl
  · split <;> rfl
  · rfl
  · rw [if_pos (by simpa using hflags)] at h
    rw [h]
    rfl

/-- A frame that answers a request. -/
theorem dispatchResponse_asked {payload : Bytes} {p : PendingRequest}
    (hasked : r.asked payload = some p) (hG : r.NoFalseNotice payload) :
    ∃ header, parseHeader payload = .ok header ∧ header.requestId = p.requestId ∧
      p ∈ r.pending ∧ r.dispatchResponse payload =
        .ok { r.respond p.caller (answer header p payload) with
          pending := r.pending.filter (·.requestId ≠ header.requestId) } := by
  obtain ⟨header, hparse, hresponse, hfind⟩ := asked_some hasked
  obtain ⟨hclose, hchanged⟩ := hG header hparse (Option.isSome_of_eq_some hasked)
  have hid := List.find?_some hfind
  refine ⟨header, hparse, (of_decide_eq_true hid).symm, List.mem_of_find?_eq_some hfind, ?_⟩
  unfold dispatchResponse
  rw [hparse]
  dsimp only
  rw [if_neg hclose, if_neg hchanged, if_neg (by simp [hresponse]), hfind]

theorem respond_calls (r : Requests) (c : Nat) (result : Except NetworkClientError Bytes) :
    (r.respond c result).calls = r.calls := by
  unfold respond
  split_ifs <;> rfl

theorem respond_seen (r : Requests) (c : Nat) (result : Except NetworkClientError Bytes) :
    (r.respond c result).seen = r.seen := by
  unfold respond
  split_ifs <;> rfl

theorem respond_failedWith (r : Requests) (c : Nat) (result : Except NetworkClientError Bytes) :
    (r.respond c result).failedWith = r.failedWith := by
  unfold respond
  split_ifs <;> rfl

theorem respond_mail (r : Requests) (c : Nat) (result : Except NetworkClientError Bytes)
    (c' : Nat) : (r.respond c result).mail c' =
      if c' = c ∧ r.listening c then some result else r.mail c' := by
  unfold respond
  by_cases hlisten : r.listening c = true
  · rw [if_pos hlisten]
    by_cases hc : c' = c
    · rw [if_pos ⟨hc, hlisten⟩, hc]
      exact Function.update_self ..
    · rw [if_neg fun h => hc h.1]
      exact Function.update_of_ne hc ..
  · rw [if_neg hlisten, if_neg fun h => hlisten h.2]

theorem not_listening {c : Nat} {call : SendCall} (hcall : r.calls[c]? = some call)
    (h : ¬ r.listening c) : call.stage.isReturned := by
  unfold listening at h
  rw [hcall] at h
  simpa using h

theorem listening_open {c : Nat} {call : SendCall} (hcall : r.calls[c]? = some call)
    (h : r.listening c) : ¬ call.stage.isReturned := by
  unfold listening at h
  rw [hcall] at h
  simpa using h

theorem CorrInv.see (h : r.CorrInv) {payload : Bytes} (hG : r.NoFalseNotice payload) :
    (r.see payload).CorrInv := by
  cases hasked : r.asked payload with
  | none =>
    have hsee : r.see payload = { r with seen := ⟨payload, none⟩ :: r.seen } := by
      unfold Requests.see
      rw [dispatchResponse_unasked hasked, hasked]
    have hunasked : ∀ {P : SeenFrame → PendingRequest → Prop},
        (∀ x ∈ r.seen, ∀ p, x.asked = some p → P x p) →
        ∀ x ∈ (⟨payload, none⟩ :: r.seen : List SeenFrame), ∀ p, x.asked = some p → P x p := by
      rintro P hP x (_ | ⟨_, hx⟩) p hp
      · cases hp
      · exact hP x hx p hp
    rw [hsee]
    refine ⟨⟨hunasked fun x hx p hp => (h.correlated.answered x hx p hp).grow (.of_eq rfl) rfl,
      h.correlated.once, fun c result hc => ?_, h.correlated.returned⟩, h.entries, h.ids, h.callers,
      fun p hp => ⟨(h.silent p hp).1, hunasked (h.silent p hp).2⟩, fun c hc => ?_⟩
    · refine (h.correlated.only c result hc).imp_left fun ⟨x, hx, p, hp⟩ =>
        ⟨x, List.mem_cons_of_mem _ hx, p, hp⟩
    · obtain ⟨hmail, hno, hunseen⟩ := h.fresh c hc
      exact ⟨hmail, hno, hunasked hunseen⟩
  | some p =>
    obtain ⟨header, hparse, hid, hp, hdispatch⟩ := dispatchResponse_asked hasked hG
    obtain ⟨call, hcall, hrequest, hstage⟩ := h.entries p hp
    obtain ⟨hsilent, hunseen⟩ := h.silent p hp
    have hsee : r.see payload = { r.respond p.caller (answer header p payload) with
        pending := r.pending.filter (·.requestId ≠ header.requestId)
        seen := ⟨payload, some p⟩ :: r.seen } := by
      unfold Requests.see
      rw [hdispatch, hasked]
      rfl
    rw [hsee]
    have hcalls := respond_calls r p.caller (answer header p payload)
    have hmail := respond_mail r p.caller (answer header p payload)
    have hfailed := respond_failedWith r p.caller (answer header p payload)
    generalize r.respond p.caller (answer header p payload) = r₁ at hcalls hmail hfailed ⊢
    have hother : ∀ c, c ≠ p.caller → r₁.mail c = r.mail c := fun c hc => by
      rw [hmail, if_neg fun hboth => hc hboth.1]
    refine ⟨⟨?_, ?_, fun c result hc => ?_, fun c call' payload' hcall' hsome hret => ?_⟩,
      fun q hq => ?_, h.ids.sublist (List.filter_sublist.map _),
      h.callers.sublist (List.filter_sublist.map _), fun q hq => ?_, fun c hc => ?_⟩
    · rintro x (_ | ⟨_, hx⟩) q hq
      · obtain rfl := Option.some.inj hq
        refine ⟨header, call, hparse, hid, hcalls ▸ hcall, hrequest, ?_⟩
        by_cases hlisten : r.listening p.caller = true
        · exact .inl (by rw [hmail, if_pos ⟨rfl, hlisten⟩])
        · refine .inr ⟨?_, not_listening hcall hlisten⟩
          rw [hmail, if_neg fun hboth => hlisten hboth.2]
          exact hsilent
      · exact (h.correlated.answered x hx q hq).grow (.of_eq hcalls) (hother _ (hunseen x hx q hq))
    · refine List.nodup_cons.mpr ⟨fun hmem => ?_, h.correlated.once⟩
      obtain ⟨x, hx, hxp⟩ := List.mem_filterMap.mp hmem
      obtain ⟨q, hq, hqp⟩ := Option.map_eq_some_iff.mp hxp
      exact hunseen x hx q hq hqp
    · by_cases hpc : c = p.caller
      · exact .inl ⟨_, List.mem_cons_self, p, rfl, hpc.symm⟩
      · rw [hother c hpc] at hc
        rw [hfailed]
        exact (h.correlated.only c result hc).imp_left fun ⟨x, hx, q, hq⟩ =>
          ⟨x, List.mem_cons_of_mem _ hx, q, hq⟩
    · rw [hcalls] at hcall'
      have hold := h.correlated.returned c call' payload' hcall' hsome hret
      by_cases hpc : c = p.caller
      · subst hpc
        cases hold.symm.trans hsilent
      · rw [← hold]
        exact hother c hpc
    · rw [hcalls]
      exact h.entries q (List.mem_of_mem_filter hq)
    · obtain ⟨hqmem, hqid⟩ := List.mem_filter.mp hq
      have hne : q.caller ≠ p.caller := by
        intro heq
        obtain rfl := List.inj_on_of_nodup_map h.callers hqmem hp heq
        exact of_decide_eq_true hqid hid.symm
      obtain ⟨hqsilent, hqunseen⟩ := h.silent q hqmem
      refine ⟨(hother _ hne).trans hqsilent, ?_⟩
      rintro x (_ | ⟨_, hx⟩) p' hp'
      · obtain rfl := Option.some.inj hp'
        exact Ne.symm hne
      · exact hqunseen x hx p' hp'
    · rw [hcalls] at hc
      obtain ⟨hnone, hno, huns⟩ := h.fresh c hc
      have hpc : c ≠ p.caller := fun heq => hno p hp heq.symm
      refine ⟨(hother c hpc).trans hnone, fun q hq => hno q (List.mem_of_mem_filter hq), ?_⟩
      rintro x (_ | ⟨_, hx⟩) q hq
      · obtain rfl := Option.some.inj hq
        exact Ne.symm hpc
      · exact huns x hx q hq

/-! ## The sweep -/

/-- What `fail_all_pending` puts into the channels. -/
theorem foldl_respond (error : NetworkClientError) (ps : List PendingRequest) (r : Requests) :
    let r' := ps.foldl (fun r p => r.respond p.caller (.error error)) r
    r'.calls = r.calls ∧ r'.seen = r.seen ∧ r'.failedWith = r.failedWith ∧
      ∀ c, r'.mail c = if c ∈ ps.map (·.caller) ∧ r.listening c then some (.error error)
        else r.mail c := by
  induction ps generalizing r with
  | nil => exact ⟨rfl, rfl, rfl, fun c => by rw [if_neg fun h => nomatch h.1]; rfl⟩
  | cons p ps ih =>
    obtain ⟨hcalls, hseen, hfailed, hmail⟩ := ih (r.respond p.caller (.error error))
    refine ⟨hcalls.trans (respond_calls ..), hseen.trans (respond_seen ..),
      hfailed.trans (respond_failedWith ..), fun c => ?_⟩
    have hlisten : (r.respond p.caller (.error error)).listening c = r.listening c := by
      unfold listening
      rw [respond_calls]
    refine (hmail c).trans ?_
    rw [hlisten, respond_mail]
    by_cases hc : c = p.caller
    · subst hc
      by_cases hl : r.listening p.caller = true <;> simp [hl]
    · simp [hc]

theorem failAllPending_calls (r : Requests) (error : NetworkClientError) :
    (r.failAllPending error).calls = r.calls := (foldl_respond error r.pending r).1

theorem failAllPending_mail (r : Requests) (error : NetworkClientError) (c : Nat) :
    (r.failAllPending error).mail c =
      if c ∈ r.pending.map (·.caller) ∧ r.listening c then some (.error error) else r.mail c :=
  (foldl_respond error r.pending r).2.2.2 c

theorem CorrInv.failAllPending (h : r.CorrInv) (error : NetworkClientError) :
    (r.failAllPending error).CorrInv := by
  have hcalls := failAllPending_calls r error
  have hmail := failAllPending_mail r error
  have hseen : (r.failAllPending error).seen = r.seen := (foldl_respond error r.pending r).2.1
  have hfailed : (r.failAllPending error).failedWith = error :: r.failedWith := rfl
  have hkept : ∀ c, c ∉ r.pending.map (·.caller) → (r.failAllPending error).mail c = r.mail c :=
    fun c hc => by rw [hmail, if_neg fun hboth => hc hboth.1]
  refine ⟨⟨fun x hx p hp => ?_, hseen ▸ h.correlated.once, fun c result hc => ?_,
    fun c call payload hcall hsome hret => ?_⟩, nofun, List.nodup_nil, List.nodup_nil, nofun,
    fun c hc => ?_⟩
  · rw [hseen] at hx
    refine (h.correlated.answered x hx p hp).grow (.of_eq hcalls) (hkept _ fun hmem => ?_)
    obtain ⟨q, hq, hcaller⟩ := List.mem_map.mp hmem
    exact (h.silent q hq).2 x hx p hp hcaller.symm
  · rw [hmail] at hc
    rw [hseen, hfailed]
    split_ifs at hc
    · exact .inr ⟨error, List.mem_cons_self, (Option.some.inj hc).symm⟩
    · exact (h.correlated.only c result hc).imp_right fun ⟨e, he, heq⟩ =>
        ⟨e, List.mem_cons_of_mem _ he, heq⟩
  · rw [hcalls] at hcall
    rw [hmail, if_neg fun hboth => ?_]
    · exact h.correlated.returned c call payload hcall hsome hret
    · refine listening_open hcall hboth.2 ?_
      rw [hret]
      rfl
  · rw [hcalls] at hc
    obtain ⟨hnone, hno, hunseen⟩ := h.fresh c hc
    refine ⟨(hkept c fun hmem => ?_).trans hnone, nofun, hseen ▸ hunseen⟩
    obtain ⟨p, hp, hcaller⟩ := List.mem_map.mp hmem
    exact hno p hp hcaller

end Requests

/-! ## Steps of the connection -/

namespace GatewayConnection

open Requests

variable {s s' : GatewayConnection}

theorem stepCloser_requests {k : Nat} {shut : Bool} {closer : Closer}
    (hs : s.stepCloser k shut closer = some s') : s'.requests = s.requests ∨
      ∃ error, closer = .failing error ∧ s'.requests = s.requests.failAllPending error := by
  cases closer with
  | failing error =>
    cases hs
    exact .inr ⟨error, rfl, rfl⟩
  | closing | starting =>
    cases hs
    left
    split_ifs <;> rfl
  | sendingClose | shuttingDown =>
    left
    simp only [stepCloser] at hs
    split_ifs at hs <;> (cases hs; rfl)
  | resetting =>
    cases hs
    exact .inl rfl
  | finished => cases hs

/-- A step of the stream's reader or writer. -/
def ofStream : LinkAction → Bool
  | .take | .written | .writeFails _ | .writerLeaves | .arrives _ | .readEnds _ | .readFails _
  | .reset => true
  | _ => false

theorem stream_requests {a : LinkAction} (ha : ofStream a = true) (hs : s.step a = some s') :
    s'.requests = s.requests := by
  have hread : ∀ event, s.stepReader event = some s' → s'.requests = s.requests := by
    intro event hs
    unfold stepReader at hs
    split_ifs at hs
    cases hs
    rfl
  cases a with
  | take =>
    simp only [step, stepTake] at hs
    split at hs <;> cases hs <;> rfl
  | written | writeFails =>
    simp only [step, stepWriter] at hs
    split_ifs at hs <;> split at hs <;> cases hs <;> rfl
  | writerLeaves =>
    simp only [step] at hs
    split_ifs at hs
    cases hs
    rfl
  | arrives payload | readEnds error => exact hread _ hs
  | readFails error =>
    simp only [step] at hs
    split_ifs at hs
    exact hread _ hs
  | reset =>
    cases hs
    rfl
  | _ => cases ha

theorem dispatch_requests (s : GatewayConnection) (payload : Bytes) :
    (s.dispatch payload).requests = s.requests.see payload := by
  unfold dispatch
  dsimp only
  split <;> rfl

/-- What the next frame of the receive loop is. -/
def NextFrame (s : GatewayConnection) (payload : Bytes) : Prop :=
  s.receiveLoop = .receiving ∧ s.transport.incoming.head? = some (.ok payload)

theorem stepReceive_requests (hs : s.stepReceive = some s') : s'.requests = s.requests ∨
    ∃ payload, s.NextFrame payload ∧ s'.requests = s.requests.see payload := by
  unfold stepReceive at hs
  split at hs
  · cases hs
    left
    split_ifs <;> rfl
  · next hloop =>
    split at hs
    · split_ifs at hs
      cases hs
      exact .inl rfl
    · cases hs
      exact .inl rfl
    · next payload incoming hincoming =>
      cases hs
      exact .inr ⟨payload, ⟨hloop, by rw [hincoming]; rfl⟩, dispatch_requests _ payload⟩
  · cases hs

/-- No response that answers a request has the operation of a notice. -/
def FramesFit (s : GatewayConnection) : LinkAction → Prop
  | .receive => ∀ payload, s.NextFrame payload → s.requests.NoFalseNotice payload
  | _ => True

/-- The call of a section. -/
theorem stepCall_corr {c : Nat} {call : SendCall} (h : s.requests.CorrInv)
    (hcall : s.requests.calls[c]? = some call) (hs : s.stepCall c call = some s') :
    s'.requests.CorrInv := by
  unfold stepCall at hs
  split at hs
  · next hstage =>
    cases hs
    exact h.register hcall hstage
  · next hstage =>
    cases hs
    refine h.setStage hcall (by rw [hstage]; nofun) ?_ fun payload _ hret => ?_
    · unfold connectedState
      split
      · nofun
      · split_ifs <;> nofun
    · exfalso
      unfold connectedState at hret
      split at hret
      · cases hret
      · split_ifs at hret
  · next hstage =>
    have hopen : ¬ call.stage.isReturned := by rw [hstage]; nofun
    unfold sendPayload at hs
    split at hs
    · cases hs
      exact h.setStage hcall hopen nofun nofun
    · split at hs
      · cases hs
        refine h.setStage hcall hopen ?_ fun payload hsome hret => ?_
        · split_ifs <;> nofun
        · rw [if_pos hsome] at hret
          cases hret
      · cases hs
  · next hstage =>
    cases hs
    exact h.failCall hcall (by rw [hstage]; nofun)
  · next hstage =>
    obtain ⟨r', hr, rfl⟩ := Option.map_eq_some_iff.mp hs
    exact h.recv hcall (by rw [hstage]; nofun) hr
  · cases hs

/-- **Step lemma.** -/
theorem step_corr {a : LinkAction} (h : s.requests.CorrInv) (hG : s.FramesFit a)
    (hs : s.step a = some s') : s'.requests.CorrInv := by
  cases a with
  | sendRequest payload =>
    cases hs
    split
    · exact h
    · exact h.enter _ _
  | sendNotice notice =>
    cases hs
    split
    · exact h
    · exact h.enter _ _
  | call c =>
    obtain ⟨call, hcall, hs⟩ := Option.bind_eq_some_iff.mp hs
    exact stepCall_corr h hcall hs
  | timeout c =>
    obtain ⟨call, hcall, hs⟩ := Option.bind_eq_some_iff.mp hs
    unfold stepTimeout at hs
    split at hs
    · next hstage _ _ =>
      cases hs
      exact h.setStage hcall (by rw [hstage]; nofun) nofun nofun
    · cases hs
  | close | handleDisconnect =>
    cases hs
    exact h
  | closer k shut =>
    obtain ⟨closer, -, hs⟩ := Option.bind_eq_some_iff.mp hs
    rcases stepCloser_requests hs with heq | ⟨error, -, heq⟩
    · exact heq ▸ h
    · exact heq ▸ h.failAllPending error
  | receive =>
    rcases stepReceive_requests hs with heq | ⟨payload, hnext, heq⟩
    · exact heq ▸ h
    · exact heq ▸ h.see (hG payload hnext)
  | take | written | writeFails | writerLeaves | arrives | readEnds | readFails | reset =>
    exact stream_requests rfl hs ▸ h

end GatewayConnection

end YumeDisk.Client
