import YumeDisk.Miniport.WriteCompletion

/-!
# What a target never forgets of a write

Whatever step a target takes, what it has issued, acked and completed stays.

* `CompletedAs`: how the SRB of a write is completed.
* `Advances`, `step_advances`: what no step takes back.
* `Issues`, `step_issues`: a fragment is issued once, for a request of the target.
* `Inv.ackRange_told`: what the status of a range says of its write.
* `step_origins`: a request keeps what it was admitted with.
-/

namespace YumeDisk.Miniport

open Lib (Bytes)

namespace WriteTarget

/-- The SRB of write `eventId` is completed, or about to be, with success or not. -/
def CompletedAs (s : WriteTarget) (eventId : Nat) (success : Bool) : Prop :=
  ∃ request ∈ s.deferred ++ s.completed, request.eventId = eventId ∧
    ntSuccess request.completion.status = success

/-- The target has a request for the event. -/
def Owns (s : WriteTarget) (eventId : Nat) : Prop :=
  ∃ request ∈ s.requests, request.eventId = eventId

/-- What no step takes back. -/
structure Advances (s s' : WriteTarget) : Prop where
  issued : s.issued <+: s'.issued
  acked : s.acked ⊆ s'.acked
  off : s.deferred ++ s.completed ⊆ s'.deferred ++ s'.completed
  owns : ∀ eventId, s.Owns eventId → s'.Owns eventId

/-- What is known of the fragments that were issued. -/
structure Issues (s : WriteTarget) : Prop where
  owned : ∀ x ∈ s.issued, s.Owns x.eventId
  once : (s.issued.map fun x => (x.eventId, x.seq)).Nodup

variable {dataBuffer : Nat → Bytes} {s s' : WriteTarget} {eventId : Nat}

/-! ## The requests of a target -/

theorem Owns.of_subset (h : s.Owns eventId)
    (hsub : s.requests.map WriteRequest.eventId ⊆ s'.requests.map WriteRequest.eventId) :
    s'.Owns eventId := by
  obtain ⟨request, hr, rfl⟩ := h
  exact List.mem_map.mp (hsub (List.mem_map_of_mem hr))

theorem eventIds_of_keys {xs ys : List WriteRequest} (h : xs.map key = ys.map key) :
    xs.map WriteRequest.eventId = ys.map WriteRequest.eventId := by
  have hfst := congrArg (List.map Prod.fst) h
  simp only [List.map_map] at hfst
  exact hfst

theorem eventIds_of_init {q : QueueState} {requests : List WriteRequest}
    (h : List.Forall₂ q.MayInitialize q.pendingWrites requests) :
    requests.map WriteRequest.eventId = q.pendingWrites.map WriteRequest.eventId := by
  refine eventIds_of_keys (QueueState.map_eq_of_forall₂ (fun old request hr => ?_) h)
  rcases hr with rfl | rfl
  · rfl
  · exact initialize_key _ _

theorem Advances.refl (s : WriteTarget) : Advances s s :=
  ⟨List.prefix_refl _, fun _ => id, fun _ => id, fun _ => id⟩

theorem CompletedAs.advances {success : Bool} (h : s.CompletedAs eventId success)
    (ha : Advances s s') : s'.CompletedAs eventId success := by
  obtain ⟨request, hr, hdone⟩ := h
  exact ⟨request, ha.off hr, hdone⟩

/-! ## What a step does to the history -/

theorem mem_of_getElem?_off {xs : List WriteRequest} (ys : List WriteRequest) {i : Nat}
    {request : WriteRequest} (hr : xs[i]? = some request) :
    xs ++ ys ⊆ xs.eraseIdx i ++ (ys ++ [request]) := by
  intro x hx
  have hperm := QueueState.cons_eraseIdx_perm hr
  simp only [List.mem_append, List.mem_singleton]
  rcases List.mem_append.mp hx with hx | hx
  · rcases List.mem_cons.mp (hperm.mem_iff.mpr hx) with rfl | hx
    · exact .inr (.inr rfl)
    · exact .inl hx
  · exact .inr (.inl hx)

/-- The requests on the queue have changed, and nothing else that counts. -/
theorem Advances.of_pending (hissued : s.issued <+: s'.issued) (hacked : s.acked ⊆ s'.acked)
    (hoff : s.deferred ++ s.completed ⊆ s'.deferred ++ s'.completed)
    (harr : s'.arriving = s.arriving)
    (hpend : ∀ request ∈ s.queue.pendingWrites,
      request.eventId ∈ (s'.queue.pendingWrites ++ s'.deferred).map WriteRequest.eventId) :
    Advances s s' := by
  refine ⟨hissued, hacked, hoff, fun eventId hown => hown.of_subset fun e he => ?_⟩
  obtain ⟨request, hr, rfl⟩ := List.mem_map.mp he
  simp only [requests, harr, List.append_assoc, List.map_append, List.mem_append] at hpend hr ⊢
  rcases hr with hr | hr | hr
  · exact .inl (List.mem_map_of_mem hr)
  · rcases hpend request hr with h | h
    · exact .inr (.inl h)
    · exact .inr (.inr (.inl h))
  · have h := hoff (List.mem_append.mpr hr)
    rcases List.mem_append.mp h with h | h
    · exact .inr (.inr (.inl (List.mem_map_of_mem h)))
    · exact .inr (.inr (.inr (List.mem_map_of_mem h)))

theorem Advances.of_requests (hissued : s'.issued = s.issued) (hacked : s'.acked = s.acked)
    (hoff : s.deferred ++ s.completed ⊆ s'.deferred ++ s'.completed)
    (hrequests : s.requests ⊆ s'.requests) : Advances s s' :=
  ⟨hissued ▸ List.prefix_refl _, hacked ▸ fun _ => id, hoff, fun _ hown =>
    hown.of_subset (List.map_subset _ hrequests)⟩

theorem drain_advances (dataBuffer : Nat → Bytes) (s : WriteTarget) :
    Advances s (s.drain dataBuffer) := by
  have hout := QueueState.reserveWrite_outcome s.queue
  unfold drain
  generalize s.queue.reserveWrite = out at hout
  cases hout with
  | idle requests hinit =>
    refine Advances.of_pending (List.prefix_refl _) (fun _ => id) (fun _ => id) rfl fun request hr => ?_
    rw [List.map_append, List.mem_append]
    refine .inl ?_
    show request.eventId ∈ requests.map WriteRequest.eventId
    rw [eventIds_of_init hinit]
    exact List.mem_map_of_mem hr
  | reserved requests hinit i request slot slots hrequest hseq hslots =>
    refine Advances.of_pending (List.prefix_append _ _) (fun _ => id) (fun _ => id) rfl
      fun old hold => ?_
    rw [List.map_append, List.mem_append]
    refine .inl ?_
    have hset : (requests.set i { request with nextIssueSeq := request.nextIssueSeq + 1 }).map
        WriteRequest.eventId = requests.map WriteRequest.eventId :=
      QueueState.map_set_eq hrequest rfl
    show old.eventId ∈ (requests.set i { request with
      nextIssueSeq := request.nextIssueSeq + 1 }).map WriteRequest.eventId
    rw [hset, eventIds_of_init hinit]
    exact List.mem_map_of_mem hold

theorem ackRange_advances (s : WriteTarget) (range : WriteAckRange) :
    Advances s (s.ackRange range) := by
  have hout := QueueState.ackRange_outcome s.queue range
  have hdrop : ∀ (i : Nat) (old request done : WriteRequest), s.queue.Accepts range i old request →
      done.eventId = old.eventId → Advances s { s with
        queue := s.queue.dropWrite i
        deferred := s.deferred ++ [done]
        acked := s.acked ++ ackedSeqs range } := by
    intro i old request done ha hdone
    refine Advances.of_pending (List.prefix_refl _) (fun _ => List.mem_append_left _) ?_ rfl
      fun other hother => ?_
    · intro x hx
      simp only [List.mem_append] at hx ⊢
      exact hx.imp Or.inl id
    · show other.eventId ∈ ((s.queue.dropWrite i).pendingWrites ++
        (s.deferred ++ [done])).map WriteRequest.eventId
      rw [(QueueState.dropWrite_srbs s.queue i).2, ← List.append_assoc, List.map_append,
        List.mem_append]
      have hperm := QueueState.cons_eraseIdx_perm ha.found
      rcases List.mem_cons.mp (hperm.mem_iff.mpr hother) with rfl | hother
      · exact .inr (List.mem_singleton.mpr hdone.symm)
      · exact .inl (List.mem_map_of_mem (List.mem_append_left _ hother))
  unfold WriteTarget.ackRange
  generalize s.queue.ackRange range = out at hout
  have hevent : ∀ {i : Nat} {old request : WriteRequest}, s.queue.Accepts range i old request →
      request.eventId = old.eventId := by
    intro i old request ha
    rw [ha.initialized]
    exact congrArg Prod.fst (initialize_key old _)
  cases hout with
  | rejected requests status hstatus hinit =>
    dsimp only
    rw [if_neg hstatus]
    refine Advances.of_pending (List.prefix_refl _) (fun _ => id) (fun _ => id) rfl fun request hr => ?_
    rw [List.map_append, List.mem_append]
    refine .inl ?_
    show request.eventId ∈ requests.map WriteRequest.eventId
    rw [eventIds_of_init (hinit.imp fun _ _ hby => hby.mayInitialize)]
    exact List.mem_map_of_mem hr
  | failed i old request ha hio =>
    have he : request.eventId = old.eventId := hevent ha
    exact hdrop i old request _ ha he
  | finished i old request ha hio hall =>
    have he : request.eventId = old.eventId := hevent ha
    exact hdrop i old request _ ha he
  | kept i old request ha hio hsome =>
    refine Advances.of_pending (List.prefix_refl _) (fun _ => List.mem_append_left _) (fun x hx => ?_) rfl
      fun other hother => ?_
    · show x ∈ s.deferred ++ [] ++ s.completed
      rw [List.append_nil]
      exact hx
    · rw [List.map_append, List.mem_append]
      refine .inl ?_
      have he : request.eventId = old.eventId := hevent ha
      have he : (request.setAcked range).eventId = old.eventId := he
      show other.eventId ∈ (s.queue.pendingWrites.set i (request.setAcked range)).map
        WriteRequest.eventId
      rw [QueueState.map_set_eq ha.found he]
      exact List.mem_map_of_mem hother

/-- A slot is posted, or refused; the requests stay. -/
theorem submitSlot_cases (s : WriteTarget) (srb slotId kernelVa : Nat) (capacity : UInt32) :
    ∃ queue, s.submitSlot srb slotId kernelVa capacity = { s with queue } ∧
      queue.pendingWrites = s.queue.pendingWrites := by
  unfold submitSlot QueueState.insertWriteSlot
  dsimp only
  split_ifs <;> exact ⟨_, rfl, rfl⟩

theorem cancelWriteSlot_writes (q : QueueState) (slotId : Nat) :
    (q.cancelWriteSlot slotId).pendingWrites = q.pendingWrites := by
  unfold QueueState.cancelWriteSlot
  split
  · rfl
  · exact QueueState.resetWriteSlotShape_writes _

/-- Only a drain issues, and only a batch of acks adds to what is acked. -/
theorem step_kept {a : Action} (hs : s.step dataBuffer a = some s') :
    s'.sectorSize = s.sectorSize ∧ (a ≠ .drain → s'.issued = s.issued) ∧
      ((∀ range, a ≠ .ackRange range) → s'.acked = s.acked) := by
  cases a with
  | queueWrite lba blockCount dataLength =>
    cases hs
    unfold queueWriteSrb
    dsimp only
    split <;> exact ⟨rfl, fun _ => rfl, fun _ => rfl⟩
  | submitSlot srb slotId kernelVa capacity =>
    cases hs
    obtain ⟨queue, heq, -⟩ := s.submitSlot_cases srb slotId kernelVa capacity
    rw [heq]
    exact ⟨rfl, fun _ => rfl, fun _ => rfl⟩
  | drain =>
    cases hs
    unfold drain
    split <;> exact ⟨rfl, fun h => absurd rfl h, fun _ => rfl⟩
  | ackRange range =>
    cases hs
    unfold WriteTarget.ackRange
    dsimp only
    split <;> exact ⟨rfl, fun _ => rfl, fun h => absurd rfl (h range)⟩
  | insert i | complete i =>
    obtain ⟨request, -, rfl⟩ := Option.map_eq_some_iff.mp hs
    exact ⟨rfl, fun _ => rfl, fun _ => rfl⟩
  | nextEvent | cancelSlot slotId | sweep sweep =>
    cases hs
    exact ⟨rfl, fun _ => rfl, fun _ => rfl⟩

/-- **No step takes anything back.** -/
theorem step_advances {a : Action} (hs : s.step dataBuffer a = some s') : Advances s s' := by
  cases a with
  | queueWrite lba blockCount dataLength =>
    cases hs
    unfold queueWriteSrb
    dsimp only
    split
    · exact Advances.of_requests rfl rfl (fun _ => id) fun _ => id
    · refine Advances.of_requests rfl rfl (fun _ => id) fun x hx => ?_
      simp only [requests, List.mem_append] at hx ⊢
      exact hx.imp_left fun hx => hx.imp_left fun hx => hx.imp_left Or.inl
  | nextEvent =>
    cases hs
    exact Advances.of_requests rfl rfl (fun _ => id) fun _ => id
  | insert i =>
    obtain ⟨request, hr, rfl⟩ := Option.map_eq_some_iff.mp hs
    refine Advances.of_requests rfl rfl (fun _ => id) fun x hx => ?_
    have hmove := mem_of_getElem?_off s.queue.pendingWrites hr
    simp only [requests, List.append_assoc, List.mem_append] at hx ⊢
    rcases hx with hx | hx | hx
    · rcases List.mem_append.mp (hmove (List.mem_append_left _ hx)) with hx | hx
      · exact .inl hx
      · exact .inr (.inl hx)
    · exact .inr (.inl (List.mem_append_left _ hx))
    · exact .inr (.inr hx)
  | submitSlot srb slotId kernelVa capacity =>
    cases hs
    obtain ⟨queue, heq, hpend⟩ := s.submitSlot_cases srb slotId kernelVa capacity
    rw [heq]
    refine Advances.of_requests rfl rfl (fun _ => id) fun x hx => ?_
    simp only [requests, hpend]
    exact hx
  | cancelSlot slotId =>
    cases hs
    refine Advances.of_requests rfl rfl (fun _ => id) fun x hx => ?_
    simp only [requests, cancelWriteSlot_writes]
    exact hx
  | drain => cases hs; exact drain_advances dataBuffer s
  | ackRange range => cases hs; exact ackRange_advances s range
  | sweep sweep =>
    cases hs
    refine Advances.of_pending (List.prefix_refl _) (fun _ => id) (fun x hx => ?_) rfl fun request hr => ?_
    · simp only [sweepWrites, QueueState.sweepWrites, List.mem_append] at hx ⊢
      exact hx.imp Or.inl id
    · simp only [sweepWrites, QueueState.sweepWrites, List.nil_append, List.map_append,
        List.map_map, List.mem_append]
      exact .inr (List.mem_map_of_mem (f := WriteRequest.eventId) hr)
  | complete i =>
    obtain ⟨request, hr, rfl⟩ := Option.map_eq_some_iff.mp hs
    have hmove := mem_of_getElem?_off s.completed hr
    refine Advances.of_requests rfl rfl hmove fun x hx => ?_
    simp only [requests, List.append_assoc, List.mem_append] at hx ⊢
    rcases hx with hx | hx | hx
    · exact .inl hx
    · exact .inr (.inl hx)
    · have h := hmove (List.mem_append.mpr hx)
      simp only [List.mem_append] at h
      exact .inr (.inr h)

/-! ## A fragment is issued once -/

theorem Issues.of_issued (h : Issues s) (ha : Advances s s') (hissued : s'.issued = s.issued) :
    Issues s' :=
  ⟨fun x hx => ha.owns _ (h.owned x (hissued ▸ hx)), hissued ▸ h.once⟩

theorem drain_issues (hinv : Inv dataBuffer s) (h : Issues s) : Issues (s.drain dataBuffer) := by
  have ha := drain_advances dataBuffer s
  have hout := QueueState.reserveWrite_outcome s.queue
  revert ha
  unfold drain
  generalize s.queue.reserveWrite = out at hout
  cases hout with
  | idle requests hinit => exact fun ha => h.of_issued ha rfl
  | reserved requests hinit i request slot slots hrequest hseq hslots =>
    intro ha
    obtain ⟨hk, -⟩ := (hinv.init hinit).pending request (List.mem_of_getElem? hrequest)
    refine ⟨fun x hx => ?_, ?_⟩
    · rcases List.mem_append.mp hx with hx | hx
      · exact ha.owns _ (h.owned x hx)
      · obtain rfl := List.mem_singleton.mp hx
        refine ⟨{ request with nextIssueSeq := request.nextIssueSeq + 1 }, ?_, rfl⟩
        simp only [WriteTarget.requests, List.mem_append]
        have hi := (List.getElem?_eq_some_iff.mp hrequest).1
        exact .inl (.inl (.inr (List.mem_set hi _)))
    · rw [List.map_append, List.nodup_append]
      refine ⟨h.once, List.nodup_singleton _, ?_⟩
      rintro k hk' k' hk'' rfl
      obtain ⟨x, hx, rfl⟩ := List.mem_map.mp hk'
      simp only [List.map_cons, List.map_nil, List.mem_singleton, Prod.mk.injEq] at hk''
      -- what was issued for the request is below its next sequence number
      have hlt := (hk.recorded.slots x hx hk''.1).1
      omega

theorem step_issues {a : Action} (hinv : Inv dataBuffer s) (h : Issues s)
    (hs : s.step dataBuffer a = some s') : Issues s' := by
  by_cases ha : a = .drain
  · subst ha
    cases hs
    exact drain_issues hinv h
  · exact h.of_issued (step_advances hs) ((step_kept hs).2.1 ha)

theorem issues_init (sectorSize : Nat) : Issues (init sectorSize) := ⟨nofun, .nil⟩

/-! ## What a fragment says of its write -/

/-- The request of a fragment, and where it is. -/
theorem Inv.request_of_issued (hinv : Inv dataBuffer s) (h : Issues s) {x : IssuedSlot}
    (hx : x ∈ s.issued) : ∃ request, request.eventId = x.eventId ∧
      Kept s.sectorSize dataBuffer s.issued s.acked request ∧ x.seq < request.nextIssueSeq ∧
      (request ∈ s.queue.pendingWrites ∨ request ∈ s.deferred ++ s.completed) := by
  obtain ⟨request, hr, he⟩ := h.owned x hx
  have hk := hinv.kept hr
  have hlt := (hk.recorded.slots x hx he.symm).1
  refine ⟨request, he, hk, hlt, ?_⟩
  simp only [requests, List.append_assoc] at hr
  rcases List.mem_append.mp hr with hr | hr
  · obtain ⟨-, hzero⟩ := hk.wellFormed.nextIssueSeq_eq (hinv.arriving request hr).2.payloadBytes
    omega
  · exact List.mem_append.mp hr

/-- A write that is off the queue and not wholly acked failed. -/
theorem Inv.completedAs_false (hinv : Inv dataBuffer s) {request : WriteRequest} {seq : Nat}
    (hr : request ∈ s.deferred ++ s.completed) (hseq : seq < request.totalSeq)
    (hnot : ⟨request.eventId, seq, true⟩ ∉ s.acked) : s.CompletedAs request.eventId false := by
  refine ⟨request, hr, rfl, ?_⟩
  rw [completion_status, Bool.eq_false_iff]
  intro hsuccess
  have hone := ((hinv.finished request hr).2.mp hsuccess).2 seq hseq
  rw [List.count_eq_zero.mpr hnot] at hone
  cases hone

/-- **A write whose fragments were all acked is completed with success.** -/
theorem Inv.completedAs_true (hinv : Inv dataBuffer s) (h : Issues s) {x : IssuedSlot}
    {payload : WriteSlotPayload} (hx : x ∈ s.issued) (hpayload : x.payload = .ok payload)
    (hall : ∀ seq < payload.totalSeq, ⟨x.eventId, seq, true⟩ ∈ s.acked) :
    s.CompletedAs x.eventId true := by
  obtain ⟨request, he, hk, hlt, hplace⟩ := hinv.request_of_issued h hx
  obtain ⟨-, hfrag⟩ := hk.recorded.slots x hx he.symm
  have htotal : payload.totalSeq = request.totalSeq := by
    rw [hpayload] at hfrag
    exact congrArg WriteSlotPayload.totalSeq (Except.ok.inj hfrag)
  have hissue := hk.wellFormed.issue_le
  have hacked : 0 < request.totalSeq ∧
      ∀ seq < request.totalSeq, s.acked.count ⟨request.eventId, seq, true⟩ = 1 := by
    refine ⟨by omega, fun seq hseq => ?_⟩
    have hpos : 0 < s.acked.count ⟨request.eventId, seq, true⟩ :=
      List.count_pos_iff.mpr (he ▸ hall seq (htotal ▸ hseq))
    have honce := hk.recorded.once seq
    have hbit : (request.ackedBitmap.getD seq false).toNat ≤ 1 := Bool.toNat_le _
    omega
  rcases hplace with hr | hr
  · exact absurd hacked ((hinv.pending request hr).2.not_acked hk)
  · refine ⟨request, hr, he, ?_⟩
    rw [completion_status]
    exact (hinv.finished request hr).2.mpr hacked

/-- A write that is completed with success has all its fragments acked. -/
theorem Inv.acked_of_completedAs (hinv : Inv dataBuffer s) (h : s.CompletedAs eventId true) :
    ∃ request ∈ s.requests, request.eventId = eventId ∧ 0 < request.totalSeq ∧
      ∀ seq < request.totalSeq, ⟨eventId, seq, true⟩ ∈ s.acked := by
  obtain ⟨request, hr, rfl, hsuccess⟩ := h
  rw [completion_status] at hsuccess
  obtain ⟨hpos, hall⟩ := (hinv.finished request hr).2.mp hsuccess
  refine ⟨request, ?_, rfl, hpos, fun seq hseq => ?_⟩
  · simp only [requests, List.append_assoc]
    exact List.mem_append_right _ (List.mem_append_right _ hr)
  · refine List.count_pos_iff.mp ?_
    rw [hall seq hseq]
    exact Nat.zero_lt_one

theorem Keys.eq_of_eventId (hkeys : Keys s) {x y : WriteRequest} (hx : x ∈ s.requests)
    (hy : y ∈ s.requests) (he : x.eventId = y.eventId) : x = y :=
  List.inj_on_of_nodup_map hkeys.events hx hy he

/-- A write is completed one way. -/
theorem Inv.completedAs_unique (hinv : Inv dataBuffer s) {a b : Bool}
    (ha : s.CompletedAs eventId a) (hb : s.CompletedAs eventId b) : a = b := by
  obtain ⟨x, hx, hxe, rfl⟩ := ha
  obtain ⟨y, hy, hye, rfl⟩ := hb
  have hsub : s.deferred ++ s.completed ⊆ s.requests := by
    intro z hz
    simp only [requests, List.append_assoc]
    exact List.mem_append_right _ (List.mem_append_right _ hz)
  rw [hinv.keys.eq_of_eventId (hsub hx) (hsub hy) (hxe.trans hye.symm)]

/-! ## What the status of a range says -/

/-- Why a range is refused. -/
inductive Refused (q : QueueState) (range : WriteAckRange) : Prop
  | malformed (h : range.eventId = 0 ∨ range.seqCount = 0 ∨ range.endSeq > maxUlong)
  | unknown (h : ∀ request ∈ q.pendingWrites, request.eventId ≠ range.eventId)
  | outside (old request : WriteRequest) (hmem : old ∈ q.pendingWrites)
      (hevent : old.eventId = range.eventId)
      (hinit : initializeWriteRequest old q.writeSlotPayloadBytes = (request, statusSuccess))
      (h : range.endSeq > request.totalSeq ∨ range.endSeq > request.nextIssueSeq)
  | shapeless (old : WriteRequest) (hmem : old ∈ q.pendingWrites)
      (hevent : old.eventId = range.eventId) (hzero : old.payloadBytes = 0)
  | duplicate (old request : WriteRequest) (hmem : old ∈ q.pendingWrites)
      (hevent : old.eventId = range.eventId)
      (hinit : initializeWriteRequest old q.writeSlotPayloadBytes = (request, statusSuccess))
      (seq : Nat) (hseq : seq ∈ range.seqs) (hbit : request.ackedBitmap.getD seq false = true)

theorem initialize_status (request : WriteRequest) (shape : Nat) :
    (initializeWriteRequest request shape).2 = statusSuccess ∨ request.payloadBytes = 0 := by
  unfold initializeWriteRequest
  split_ifs with hdone
  · exact .inl rfl
  · exact .inr (not_not.mp hdone)
  · exact .inr (not_not.mp hdone)

theorem refused_of_status {q : QueueState} {range : WriteAckRange}
    (h : (q.ackRange range).2.1 ≠ statusSuccess) : Refused q range := by
  unfold QueueState.ackRange at h
  split at h
  · next hbad => exact .malformed hbad
  · split at h
    · next hfind =>
      refine .unknown fun request hr he => ?_
      have hnone := List.findIdx?_eq_none_iff.mp hfind request hr
      simp [he] at hnone
    · next i hfind =>
      obtain ⟨hi, hevent, -⟩ := List.findIdx?_eq_some_iff_getElem.mp hfind
      have hevent : q.pendingWrites[i].eventId = range.eventId := by simpa using hevent
      rw [List.getElem?_eq_getElem hi] at h
      have hmem := List.getElem_mem hi
      dsimp only at h
      split at h
      · next hstatus =>
        rcases initialize_status q.pendingWrites[i] q.writeSlotPayloadBytes with hok | hzero
        · rw [hok] at hstatus
          exact absurd hstatus (by decide)
        · exact .shapeless _ hmem hevent hzero
      · next hstatus =>
        rcases initialize_status q.pendingWrites[i] q.writeSlotPayloadBytes with hok | hzero
        · have hinit : initializeWriteRequest q.pendingWrites[i] q.writeSlotPayloadBytes =
              ((initializeWriteRequest q.pendingWrites[i] q.writeSlotPayloadBytes).1,
                statusSuccess) := Prod.ext rfl hok
          split at h
          · next hend => exact .outside _ _ hmem hevent hinit hend
          · split at h
            · next hbits =>
              obtain ⟨seq, hseq, hbit⟩ := List.any_eq_true.mp hbits
              exact .duplicate _ _ hmem hevent hinit seq hseq hbit
            · split at h
              · exact absurd rfl h
              · split at h
                · exact absurd rfl h
                · exact absurd rfl h
        · exact .shapeless _ hmem hevent hzero

/-- **A fragment whose ack is refused belongs to a write that failed**, unless it was acked with
success before. -/
theorem Inv.refused_failed (hinv : Inv dataBuffer s) (h : Issues s) {x : IssuedSlot}
    {range : WriteAckRange} (hx : x ∈ s.issued) (hevent : range.eventId = x.eventId)
    (hseq : range.seqBase = x.seq) (hcount : range.seqCount = 1) (hid : range.eventId ≠ 0)
    (hnot : ⟨range.eventId, range.seqBase, true⟩ ∉ s.acked) (hrefused : Refused s.queue range) :
    s.CompletedAs range.eventId false := by
  obtain ⟨request, he, hk, hlt, hplace⟩ := hinv.request_of_issued h hx
  have hissue := hk.wellFormed.issue_le
  have hend : range.endSeq = x.seq + 1 := by rw [WriteAckRange.endSeq, hseq, hcount]
  have hpayload := (hk.wellFormed.payload_pos (by omega)).1
  -- the request that the queue finds is that of the fragment
  have hsame : ∀ old ∈ s.queue.pendingWrites, old.eventId = range.eventId → old = request := by
    intro old hold hoe
    have hin : ∀ r, r ∈ s.queue.pendingWrites ∨ r ∈ s.deferred ++ s.completed →
        r ∈ s.requests := by
      intro r hr
      simp only [requests, List.append_assoc]
      rcases hr with hr | hr
      · exact List.mem_append_right _ (List.mem_append_left _ hr)
      · exact List.mem_append_right _ (List.mem_append_right _ hr)
    exact hinv.keys.eq_of_eventId (hin old (.inl hold)) (hin request hplace)
      (hoe.trans (hevent.trans he.symm))
  have hinit : ∀ old r, old ∈ s.queue.pendingWrites → old.eventId = range.eventId →
      initializeWriteRequest old s.queue.writeSlotPayloadBytes = (r, statusSuccess) →
      r = request := by
    intro old r hold hoe hr
    obtain rfl := hsame old hold hoe
    unfold initializeWriteRequest at hr
    rw [if_pos (Nat.pos_iff_ne_zero.mp hpayload)] at hr
    exact (Prod.mk.inj hr).1.symm
  cases hrefused with
  | malformed hbad =>
    have hmax := hk.wellFormed.totalSeq_le
    have hbytes := hk.wellFormed.bytes_le
    have hdiv : request.totalBytes / s.sectorSize ≤ request.totalBytes := Nat.div_le_self _ _
    have hmaxSeq := hk.wellFormed.maxSeq
    rcases hbad with hbad | hbad | hbad <;> omega
  | unknown hunknown =>
    rcases hplace with hr | hr
    · exact absurd (he.trans hevent.symm) (hunknown request hr)
    · have hfailed : s.CompletedAs request.eventId false := by
        refine hinv.completedAs_false hr (Nat.lt_of_lt_of_le hlt hissue) ?_
        rw [he, ← hevent, ← hseq]
        exact hnot
      rwa [he, ← hevent] at hfailed
  | outside old r hmem hoe hr hend' =>
    obtain rfl := hinit old r hmem hoe hr
    rcases hend' with hend' | hend' <;> omega
  | shapeless old hmem hoe hzero =>
    obtain rfl := hsame old hmem hoe
    omega
  | duplicate old r hmem hoe hr seq hmemSeq hbit =>
    obtain rfl := hinit old r hmem hoe hr
    obtain rfl := hsame old hmem hoe
    have hbase : seq = range.seqBase := by
      have := mem_seqs.mp hmemSeq
      omega
    have honce := hk.recorded.once seq
    rw [hbit, (hinv.pending _ hmem).2.noFailure seq, hoe, hbase,
      List.count_eq_zero.mpr hnot] at honce
    cases honce

/-- **What the status of a range says of its write.** -/
theorem Inv.ackRange_told (hinv : Inv dataBuffer s) (h : Issues s) {x : IssuedSlot}
    {range : WriteAckRange} (hx : x ∈ s.issued) (hevent : range.eventId = x.eventId)
    (hseq : range.seqBase = x.seq) (hcount : range.seqCount = 1) (hid : range.eventId ≠ 0)
    (hnot : ⟨range.eventId, range.seqBase, true⟩ ∉ s.acked) :
    (s.queue.ackRange range).2.1 = statusSuccess ∧ ntSuccess range.ioStatus = true ∧
        ⟨range.eventId, range.seqBase, true⟩ ∈ (s.ackRange range).acked ∨
      (¬ ntSuccess (s.queue.ackRange range).2.1 = true ∨ ¬ ntSuccess range.ioStatus = true) ∧
        (s.ackRange range).CompletedAs range.eventId false := by
  have ha := ackRange_advances s range
  by_cases hstatus : (s.queue.ackRange range).2.1 = statusSuccess
  · have hout := QueueState.ackRange_outcome s.queue range
    have hacked : range.seqBase ∈ range.seqs := by
      rw [mem_seqs, WriteAckRange.endSeq]
      omega
    unfold WriteTarget.ackRange
    generalize s.queue.ackRange range = out at hout hstatus
    cases hout with
    | rejected requests status hrejected hinit =>
      exact absurd (congrArg ntSuccess hstatus) hrejected
    | failed i old request hacc hio =>
      refine .inr ⟨.inr hio, _, List.mem_append_left _ (List.mem_append_right _
        (List.mem_singleton.mpr rfl)), ?_, ?_⟩
      · have he : request.eventId = old.eventId := by
          rw [hacc.initialized]
          exact congrArg Prod.fst (initialize_key old _)
        exact he.trans hacc.event
      · rw [completion_status]
        exact Bool.eq_false_iff.mpr hio
    | finished i old request hacc hio hall =>
      refine .inl ⟨rfl, hio, List.mem_append_right _ (List.mem_map.mpr ⟨_, hacked, ?_⟩)⟩
      rw [hio]
    | kept i old request hacc hio hsome =>
      refine .inl ⟨rfl, hio, List.mem_append_right _ (List.mem_map.mpr ⟨_, hacked, ?_⟩)⟩
      rw [hio]
  · refine .inr ⟨.inl ?_, ?_⟩
    · have hout := QueueState.ackRange_outcome s.queue range
      generalize s.queue.ackRange range = out at hout hstatus
      cases hout with
      | rejected requests status hrejected hinit => exact hrejected
      | _ => exact absurd rfl hstatus
    · exact (hinv.refused_failed h hx hevent hseq hcount hid hnot
        (refused_of_status hstatus)).advances ha

/-- What a range adds to the history is its own. -/
theorem mem_acked_ackRange {range : WriteAckRange} {y : AckedSeq}
    (hy : y ∈ (s.ackRange range).acked) :
    y ∈ s.acked ∨ y.eventId = range.eventId ∧ y.seq ∈ range.seqs := by
  unfold WriteTarget.ackRange at hy
  dsimp only at hy
  split at hy
  · rcases List.mem_append.mp hy with hy | hy
    · exact .inl hy
    · obtain ⟨seq, hseq, rfl⟩ := List.mem_map.mp hy
      exact .inr ⟨rfl, hseq⟩
  · exact .inl hy

/-! ## What a request was admitted with -/

/-- What no section changes of a request. -/
def origin (request : WriteRequest) : Nat × Nat × Nat × Nat × Nat :=
  (request.srb, request.eventId, request.baseLba, request.blockCount, request.totalBytes)

theorem initialize_origin (request : WriteRequest) (shape : Nat) :
    origin (initializeWriteRequest request shape).1 = origin request := by
  unfold initializeWriteRequest
  dsimp only
  split_ifs <;> rfl

theorem origins_of_init {q : QueueState} {requests : List WriteRequest}
    (h : List.Forall₂ q.MayInitialize q.pendingWrites requests) :
    requests.map origin = q.pendingWrites.map origin := by
  refine QueueState.map_eq_of_forall₂ (fun old request hr => ?_) h
  rcases hr with rfl | rfl
  · rfl
  · exact initialize_origin _ _

theorem drain_origins (dataBuffer : Nat → Bytes) (s : WriteTarget) :
    (s.drain dataBuffer).requests.map origin = s.requests.map origin := by
  have hout := QueueState.reserveWrite_outcome s.queue
  unfold drain
  generalize s.queue.reserveWrite = out at hout
  cases hout with
  | idle requests hinit => simp only [WriteTarget.requests, List.map_append, origins_of_init hinit]
  | reserved requests hinit i request slot slots hrequest hseq hslots =>
    have hset : (requests.set i { request with nextIssueSeq := request.nextIssueSeq + 1 }).map
        origin = requests.map origin := QueueState.map_set_eq hrequest rfl
    simp only [WriteTarget.requests, List.map_append, hset, origins_of_init hinit]

theorem ackRange_origins (s : WriteTarget) (range : WriteAckRange) :
    ((s.ackRange range).requests.map origin).Perm (s.requests.map origin) := by
  have hout := QueueState.ackRange_outcome s.queue range
  have hself : ∀ {i : Nat} {old request : WriteRequest}, s.queue.Accepts range i old request →
      origin (request.setAcked range) = origin old := by
    intro i old request h
    have hsame : origin (request.setAcked range) = origin request := rfl
    rw [hsame, h.initialized]
    exact initialize_origin _ _
  -- what is finished goes from the queue to the deferred requests
  have hmove : ∀ {i : Nat} {old request : WriteRequest}, s.queue.pendingWrites[i]? = some old →
      origin request = origin old →
      ((s.arriving ++ (s.queue.dropWrite i).pendingWrites ++ (s.deferred ++ [request]) ++
        s.completed).map origin).Perm (s.requests.map origin) := by
    intro i old request hold horigin
    have hperm := (QueueState.cons_eraseIdx_perm hold).map origin
    rw [(QueueState.dropWrite_srbs s.queue i).2]
    refine List.perm_iff_count.mpr fun key => ?_
    have hcount := hperm.count_eq key
    simp only [WriteTarget.requests, List.map_append, List.map_cons, List.map_nil,
      List.count_append, List.count_cons, List.count_nil, horigin] at hcount ⊢
    omega
  unfold WriteTarget.ackRange
  generalize s.queue.ackRange range = out at hout
  cases hout with
  | rejected requests status hstatus hinit =>
    dsimp only
    rw [if_neg hstatus]
    refine .of_eq ?_
    simp only [WriteTarget.requests, List.map_append,
      origins_of_init (hinit.imp fun _ _ h => h.mayInitialize)]
  | failed i old request h hio =>
    have hset := hself h
    have hfail : origin { request.setAcked range with finalStatus := range.ioStatus } =
        origin old := hset
    exact hmove h.found hfail
  | finished i old request h hio hall =>
    exact hmove h.found (hself h)
  | kept i old request h hio hsome =>
    have hset : (s.queue.pendingWrites.set i (request.setAcked range)).map origin =
        s.queue.pendingWrites.map origin :=
      QueueState.map_set_eq h.found (hself h)
    refine .of_eq ?_
    show ((s.arriving ++ s.queue.pendingWrites.set i (request.setAcked range) ++
      (s.deferred ++ []) ++ s.completed).map origin) = _
    simp only [WriteTarget.requests, List.map_append, hset, List.append_nil]

/-- **A request keeps what it was admitted with.** -/
theorem step_origins {a : Action} (hs : s.step dataBuffer a = some s') {request : WriteRequest}
    (hr : request ∈ s'.requests) : origin request ∈ s.requests.map origin ∨
      ∃ lba blockCount dataLength, a = .queueWrite lba blockCount dataLength ∧
        request.baseLba = lba ∧ request.blockCount = blockCount ∧
        request.totalBytes = dataLength.toNat := by
  have hof : ∀ {t : WriteTarget}, (t.requests.map origin).Perm (s.requests.map origin) →
      request ∈ t.requests → origin request ∈ s.requests.map origin :=
    fun hperm hmem => hperm.mem_iff.mp (List.mem_map_of_mem hmem)
  cases a with
  | queueWrite lba blockCount dataLength =>
    cases hs
    unfold queueWriteSrb at hr
    dsimp only at hr
    split at hr
    · exact .inl (List.mem_map_of_mem hr)
    · next new halloc =>
      simp only [requests, List.mem_append, List.mem_singleton] at hr
      rcases hr with (((hr | rfl) | hr) | hr) | hr
      · refine .inl (List.mem_map_of_mem ?_)
        simp only [requests, List.mem_append]
        exact .inl (.inl (.inl hr))
      · refine .inr ⟨lba, blockCount, dataLength, rfl, ?_⟩
        unfold allocWriteRequest at halloc
        split at halloc
        · cases halloc
        · cases halloc
          exact ⟨rfl, rfl, rfl⟩
      all_goals
        refine .inl (List.mem_map_of_mem ?_)
        simp only [requests, List.mem_append]
        tauto
  | nextEvent =>
    cases hs
    exact .inl (List.mem_map_of_mem hr)
  | insert i =>
    obtain ⟨new, hnew, rfl⟩ := Option.map_eq_some_iff.mp hs
    refine .inl (hof (List.perm_iff_count.mpr fun key => ?_) hr)
    have hcount := ((QueueState.cons_eraseIdx_perm hnew).map origin).count_eq key
    simp only [requests, QueueState.insertWrite, List.map_append, List.map_cons, List.map_nil,
      List.count_append, List.count_cons, List.count_nil] at hcount ⊢
    omega
  | submitSlot srb slotId kernelVa capacity =>
    cases hs
    obtain ⟨queue, heq, hpend⟩ := s.submitSlot_cases srb slotId kernelVa capacity
    refine .inl (hof (.of_eq ?_) hr)
    rw [heq]
    simp only [requests, hpend]
  | cancelSlot slotId =>
    cases hs
    simp only [requests, cancelWriteSlot_writes] at hr
    exact .inl (List.mem_map_of_mem hr)
  | drain =>
    cases hs
    exact .inl (hof (.of_eq (drain_origins dataBuffer s)) hr)
  | ackRange range =>
    cases hs
    exact .inl (hof (ackRange_origins s range) hr)
  | sweep sweep =>
    cases hs
    refine .inl (hof (List.perm_iff_count.mpr fun key => ?_) hr)
    simp only [requests, sweepWrites, QueueState.sweepWrites, List.append_nil, List.map_append,
      List.map_map, List.count_append]
    have hsame : s.queue.pendingWrites.map (origin ∘ fun request =>
        { request with finalStatus := sweep.status }) = s.queue.pendingWrites.map origin := rfl
    rw [hsame]
    omega
  | complete i =>
    obtain ⟨done, hdone, rfl⟩ := Option.map_eq_some_iff.mp hs
    refine .inl (hof (List.perm_iff_count.mpr fun key => ?_) hr)
    have hcount := ((QueueState.cons_eraseIdx_perm hdone).map origin).count_eq key
    simp only [requests, List.map_append, List.map_cons, List.map_nil, List.count_append,
      List.count_cons, List.count_nil] at hcount ⊢
    omega

end WriteTarget

end YumeDisk.Miniport
