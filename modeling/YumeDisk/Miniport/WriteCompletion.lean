import YumeDisk.Lib.Run
import YumeDisk.Miniport.Fragments

/-!
# A write is completed as its fragments are acked

* `Inv`: the invariant of a target.
* `Inv.init`, `Inv.drain`, `Inv.ackRange`, ...: one lemma for each section.
* `step_inv`, `fragmented_write`: one step, and runs.
-/

namespace YumeDisk.Miniport

open Lib (Bytes)

namespace WriteTarget

/-! ## The invariant -/

/-- The slots of the queue fit its shape. -/
structure SlotsFit (sectorSize : Nat) (q : QueueState) : Prop where
  slotCount : q.postedWriteSlotCount = q.postedWriteSlots.length
  writeCount : q.pendingWriteCount = q.pendingWrites.length
  shape : sectorSize ∣ q.writeSlotPayloadBytes
  slots : ∀ slot ∈ q.postedWriteSlots, slot.kernelVa ≠ 0 ∧ slot.capacity ≤ maxUlong ∧
    q.writeSlotPayloadBytes ≠ 0 ∧
    computeWritePayloadBytes sectorSize slot.capacity = q.writeSlotPayloadBytes

/-- No two requests have the same name, and the next ones will have others. -/
structure Keys (s : WriteTarget) : Prop where
  events : (s.requests.map WriteRequest.eventId).Nodup
  srbs : (s.requests.map WriteRequest.srb).Nodup
  old : ∀ request ∈ s.requests, request.eventId ≤ s.nextEventId ∧ request.srb < s.nextSrb

structure Inv (dataBuffer : Nat → Bytes) (s : WriteTarget) : Prop where
  keys : Keys s
  slots : SlotsFit s.sectorSize s.queue
  oldIssued : ∀ x ∈ s.issued, x.eventId ≤ s.nextEventId
  oldAcked : ∀ x ∈ s.acked, x.eventId ≤ s.nextEventId
  arriving : ∀ request ∈ s.arriving,
    Kept s.sectorSize dataBuffer s.issued s.acked request ∧ Arriving request
  pending : ∀ request ∈ s.queue.pendingWrites,
    Kept s.sectorSize dataBuffer s.issued s.acked request ∧
      Pending s.acked s.queue.writeSlotPayloadBytes request
  finished : ∀ request ∈ s.deferred ++ s.completed,
    Kept s.sectorSize dataBuffer s.issued s.acked request ∧ Finished s.acked request

variable {dataBuffer : Nat → Bytes} {sectorSize : Nat} {request : WriteRequest}
  {s : WriteTarget}

/-! ## The requests of a target -/

open QueueState

theorem Keys.of_perm {s' : WriteTarget} (h : Keys s)
    (hperm : (s'.requests.map key).Perm (s.requests.map key))
    (hevent : s'.nextEventId = s.nextEventId) (hsrb : s'.nextSrb = s.nextSrb) : Keys s' := by
  have hfst := hperm.map Prod.fst
  have hsnd := hperm.map Prod.snd
  simp only [List.map_map] at hfst hsnd
  refine ⟨hfst.nodup_iff.mpr h.events, hsnd.nodup_iff.mpr h.srbs, fun request hr => ?_⟩
  obtain ⟨old, hold, heq⟩ := List.mem_map.mp (hperm.subset (List.mem_map_of_mem hr))
  have := h.old old hold
  simp only [key, Prod.mk.injEq] at heq
  rw [hevent, hsrb, ← heq.1, ← heq.2]
  exact this

theorem mem_set_cases {xs : List WriteRequest} {i : Nat} {x y z : WriteRequest}
    (h : xs[i]? = some x) (hz : z ∈ xs.set i y) : z = y ∨ z ∈ xs.eraseIdx i := by
  have hi : i < xs.length := (List.getElem?_eq_some_iff.mp h).1
  have hperm := cons_eraseIdx_perm (List.getElem?_set_self (a := y) hi)
  rw [List.eraseIdx_set_eq] at hperm
  exact List.mem_cons.mp (hperm.mem_iff.mpr hz)

/-- The requests other than the one at `i`. -/
theorem Keys.others (h : Keys s) {i : Nat} (hi : s.queue.pendingWrites[i]? = some request) :
    ∀ y ∈ s.arriving ++ s.queue.pendingWrites.eraseIdx i ++ s.deferred ++ s.completed,
      request.eventId ≠ y.eventId := by
  have hperm : (request ::
      (s.arriving ++ s.queue.pendingWrites.eraseIdx i ++ s.deferred ++ s.completed)).Perm
        s.requests := by
    refine List.perm_iff_count.mpr fun y => ?_
    have hcount := (cons_eraseIdx_perm hi).count_eq y
    simp only [requests, List.count_cons, List.count_append] at hcount ⊢
    omega
  have hnodup := (hperm.map WriteRequest.eventId).nodup_iff.mpr h.events
  rw [List.map_cons, List.nodup_cons] at hnodup
  intro y hy heq
  exact hnodup.1 (heq ▸ List.mem_map_of_mem hy)

theorem exists_of_forall₂ {R : WriteRequest → WriteRequest → Prop} {xs ys : List WriteRequest}
    (h : List.Forall₂ R xs ys) {y : WriteRequest} (hy : y ∈ ys) : ∃ x ∈ xs, R x y := by
  induction h with
  | nil => cases hy
  | cons hxy _ ih =>
    rcases List.mem_cons.mp hy with rfl | hy
    · exact ⟨_, List.mem_cons_self, hxy⟩
    · obtain ⟨x, hx, hR⟩ := ih hy
      exact ⟨x, List.mem_cons_of_mem _ hx, hR⟩

/-- What is added to the history of the request at `i` leaves the others. -/
theorem Inv.extend (h : Inv dataBuffer s) (issued' : List IssuedSlot)
    (acked' : List AckedSeq) {i : Nat}
    (hr : s.queue.pendingWrites[i]? = some request)
    (hi : ∀ x ∈ issued', x.eventId = request.eventId)
    (ha : ∀ x ∈ acked', x.eventId = request.eventId) :
    (∀ y ∈ s.arriving,
      Kept s.sectorSize dataBuffer (s.issued ++ issued') (s.acked ++ acked') y ∧ Arriving y) ∧
    (∀ y ∈ s.queue.pendingWrites.eraseIdx i,
      Kept s.sectorSize dataBuffer (s.issued ++ issued') (s.acked ++ acked') y ∧
        Pending (s.acked ++ acked') s.queue.writeSlotPayloadBytes y) ∧
    (∀ y ∈ s.deferred ++ s.completed,
      Kept s.sectorSize dataBuffer (s.issued ++ issued') (s.acked ++ acked') y ∧
        Finished (s.acked ++ acked') y) := by
  have hother := h.keys.others hr
  simp only [List.mem_append] at hother
  have hi' : ∀ y : WriteRequest, request.eventId ≠ y.eventId →
      ∀ x ∈ issued', x.eventId ≠ y.eventId := fun y hy x hx he => hy (hi x hx ▸ he)
  have ha' : ∀ y : WriteRequest, request.eventId ≠ y.eventId →
      ∀ x ∈ acked', x.eventId ≠ y.eventId := fun y hy x hx he => hy (ha x hx ▸ he)
  refine ⟨fun y hy => ?_, fun y hy => ?_, fun y hy => ?_⟩
  · have hne := hother y (.inl (.inl (.inl hy)))
    obtain ⟨hk, harr⟩ := h.arriving y hy
    exact ⟨hk.append (hi' y hne) (ha' y hne), harr⟩
  · have hne := hother y (.inl (.inl (.inr hy)))
    obtain ⟨hk, hp⟩ := h.pending y (List.mem_of_mem_eraseIdx hy)
    exact ⟨hk.append (hi' y hne) (ha' y hne), hp.append (ha' y hne)⟩
  · have hne := hother y (by
      rcases List.mem_append.mp hy with hy | hy
      · exact .inl (.inr hy)
      · exact .inr hy)
    obtain ⟨hk, hf⟩ := h.finished y hy
    exact ⟨hk.append (hi' y hne) (ha' y hne), hf.append (ha' y hne)⟩

/-! ## The sections -/

/-- **Requests are initialized.** -/
theorem Inv.init (h : Inv dataBuffer s) {requests : List WriteRequest}
    (hinit : List.Forall₂ s.queue.MayInitialize s.queue.pendingWrites requests) :
    Inv dataBuffer { s with queue := { s.queue with pendingWrites := requests } } := by
  have hkeys : requests.map key = s.queue.pendingWrites.map key := by
    refine map_eq_of_forall₂ (fun old request hr => ?_) hinit
    rcases hr with rfl | rfl
    · rfl
    · exact initialize_key _ _
  refine { h with
    keys := h.keys.of_perm (.of_eq ?_) rfl rfl
    slots := ⟨h.slots.slotCount, h.slots.writeCount.trans hinit.length_eq, h.slots.shape,
      h.slots.slots⟩
    pending := fun request hr => ?_ }
  · simp only [WriteTarget.requests, List.map_append, hkeys]
  · obtain ⟨old, hold, hmay⟩ := exists_of_forall₂ hinit hr
    obtain ⟨hk, hp⟩ := h.pending old hold
    rcases hmay with rfl | rfl
    · exact ⟨hk, hp⟩
    · exact ⟨hk.init h.slots.shape, hp.init hk.wellFormed⟩

/-- The shape is reset only when there is nothing that has it. -/
theorem Inv.resetShape (h : Inv dataBuffer s) :
    Inv dataBuffer { s with queue := s.queue.resetWriteSlotShape } := by
  unfold QueueState.resetWriteSlotShape
  split
  · next hzero =>
    have hslots : s.queue.postedWriteSlots = [] :=
      List.length_eq_zero_iff.mp (h.slots.slotCount ▸ hzero.1)
    have hwrites : s.queue.pendingWrites = [] :=
      List.length_eq_zero_iff.mp (h.slots.writeCount ▸ hzero.2)
    refine { h with
      keys := h.keys.of_perm (.refl _) rfl rfl
      slots := ⟨h.slots.slotCount, h.slots.writeCount, dvd_zero _, fun slot hslot => ?_⟩
      pending := fun request hr => ?_ }
    · change slot ∈ s.queue.postedWriteSlots at hslot
      rw [hslots] at hslot
      cases hslot
    · change request ∈ s.queue.pendingWrites at hr
      rw [hwrites] at hr
      cases hr
  · exact h

theorem Inv.submitSlot (h : Inv dataBuffer s) (srb slotId kernelVa : Nat) (capacity : UInt32) :
    Inv dataBuffer (s.submitSlot srb slotId kernelVa capacity) := by
  unfold WriteTarget.submitSlot
  dsimp only
  split
  · exact h
  · next hslot =>
    obtain ⟨hva, hpayload⟩ := not_or.mp hslot
    unfold QueueState.insertWriteSlot
    split
    · exact h
    · next queue hok =>
      split at hok
      · cases hok
      · next hshape =>
        cases hok
        have hsame : s.queue.writeSlotPayloadBytes ≠ 0 → s.queue.writeSlotPayloadBytes =
            computeWritePayloadBytes s.sectorSize capacity.toNat :=
          fun hne => not_not.mp fun hdiff => hshape ⟨hne, hdiff⟩
        refine { h with
          keys := h.keys.of_perm (.refl _) rfl rfl
          slots := ⟨?_, h.slots.writeCount, ?_, fun slot hmem => ?_⟩
          pending := fun request hr => ?_ }
        · show s.queue.postedWriteSlotCount + 1 = _
          rw [h.slots.slotCount, List.length_append, List.length_singleton]
        · show s.sectorSize ∣ computeWritePayloadBytes s.sectorSize capacity.toNat
          unfold computeWritePayloadBytes
          split
          · exact dvd_zero _
          · exact Nat.dvd_sub_mod _
        · rcases List.mem_append.mp hmem with hmem | hmem
          · obtain ⟨hslotVa, hcap, hne, hfit⟩ := h.slots.slots slot hmem
            exact ⟨hslotVa, hcap, hpayload, hfit.trans (hsame hne)⟩
          · obtain rfl := List.mem_singleton.mp hmem
            exact ⟨hva, Nat.le_of_lt_succ capacity.toNat_lt, hpayload, rfl⟩
        · obtain ⟨hk, hp⟩ := h.pending request hr
          refine ⟨hk, hp.status, hp.noFailure, hp.unfinished, fun hne => ?_⟩
          exact (hp.shape hne).trans (hsame (hp.shape hne ▸ hne))

theorem Inv.cancelSlot (h : Inv dataBuffer s) (slotId : Nat) :
    Inv dataBuffer { s with queue := s.queue.cancelWriteSlot slotId } := by
  unfold QueueState.cancelWriteSlot
  split
  · exact h
  · next slots hslots =>
    obtain ⟨i, hfind, rfl⟩ := Option.map_eq_some_iff.mp hslots
    obtain ⟨hi, -, -⟩ := List.findIdx?_eq_some_iff_getElem.mp hfind
    refine Inv.resetShape (s := { s with queue := { s.queue with
      postedWriteSlots := s.queue.postedWriteSlots.eraseIdx i
      postedWriteSlotCount := s.queue.postedWriteSlotCount - 1 } }) ?_
    refine { h with
      keys := h.keys.of_perm (.refl _) rfl rfl
      slots := ⟨?_, h.slots.writeCount, h.slots.shape, fun slot hmem => ?_⟩ }
    · show s.queue.postedWriteSlotCount - 1 = (s.queue.postedWriteSlots.eraseIdx i).length
      rw [h.slots.slotCount, List.length_eraseIdx_of_lt hi]
    · exact h.slots.slots slot (List.mem_of_mem_eraseIdx hmem)

theorem Inv.queueWriteSrb (h : Inv dataBuffer s) (lba blockCount : Nat) (dataLength : UInt32) :
    Inv dataBuffer (s.queueWriteSrb lba blockCount dataLength) := by
  have hnext : ∀ n, n ≤ s.nextEventId → n ≤ s.nextEventId + 1 := fun n => Nat.le_succ_of_le
  unfold WriteTarget.queueWriteSrb allocWriteRequest
  dsimp only
  split
  · refine { h with
      keys := ⟨h.keys.events, h.keys.srbs, fun request hr => ?_⟩
      oldIssued := fun x hx => hnext _ (h.oldIssued x hx)
      oldAcked := fun x hx => hnext _ (h.oldAcked x hx) }
    obtain ⟨he, hs⟩ := h.keys.old request hr
    exact ⟨hnext _ he, hs⟩
  · next request hreq =>
    split at hreq
    · cases hreq
    · next hok =>
      cases hreq
      simp only [not_or, not_not] at hok
      obtain ⟨hsector, hbytes, hmod⟩ := hok
      set request : WriteRequest := {
        srb := s.nextSrb, eventId := s.nextEventId + 1, baseLba := lba, blockCount := blockCount
        totalBytes := dataLength.toNat, maxSeq := dataLength.toNat / s.sectorSize
        ackedBitmap := List.replicate (dataLength.toNat / s.sectorSize) false } with hrequest
      have hperm : (s.arriving ++ [request] ++ s.queue.pendingWrites ++ s.deferred ++
          s.completed).Perm (request :: s.requests) := by
        refine List.perm_iff_count.mpr fun y => ?_
        simp only [requests, List.count_cons, List.count_append, List.count_nil]
        omega
      have hclear : ∀ seq, request.ackedBitmap.getD seq false = false := by
        intro seq
        rw [List.getD_eq_getElem?_getD]
        exact List.getElem?_getD_replicate_default_eq _ _ seq
      have hcount : request.ackedBitmap.count true = 0 := by
        rw [hrequest, List.count_replicate]
        rfl
      refine { h with
        keys := ⟨?_, ?_, fun y hy => ?_⟩
        oldIssued := fun x hx => hnext _ (h.oldIssued x hx)
        oldAcked := fun x hx => hnext _ (h.oldAcked x hx)
        arriving := fun y hy => ?_ }
      · refine (hperm.map WriteRequest.eventId).nodup_iff.mpr ?_
        refine List.nodup_cons.mpr ⟨fun hmem => ?_, h.keys.events⟩
        obtain ⟨y, hy, heq⟩ := List.mem_map.mp hmem
        have hold := (h.keys.old y hy).1
        rw [heq] at hold
        exact Nat.lt_irrefl _ hold
      · refine (hperm.map WriteRequest.srb).nodup_iff.mpr ?_
        refine List.nodup_cons.mpr ⟨fun hmem => ?_, h.keys.srbs⟩
        obtain ⟨y, hy, heq⟩ := List.mem_map.mp hmem
        have hold := (h.keys.old y hy).2
        rw [heq] at hold
        exact Nat.lt_irrefl _ hold
      · rcases List.mem_cons.mp (hperm.subset hy) with rfl | hy
        · exact ⟨Nat.le_refl _, Nat.lt_succ_self _⟩
        · obtain ⟨he, hs⟩ := h.keys.old y hy
          exact ⟨hnext _ he, Nat.lt_succ_of_lt hs⟩
      · rcases List.mem_append.mp hy with hy | hy
        · exact h.arriving y hy
        · obtain rfl := List.mem_singleton.mp hy
          refine ⟨⟨?_, fun x hx hxe => ?_, fun seq hseq => absurd hseq (Nat.not_lt_zero _),
            fun seq => ?_⟩, rfl, rfl⟩
          · exact {
              sector_pos := Nat.pos_of_ne_zero hsector
              bytes_pos := Nat.pos_of_ne_zero hbytes
              bytes_le := Nat.le_of_lt_succ dataLength.toNat_lt
              sectors := Nat.dvd_of_mod_eq_zero hmod
              maxSeq := rfl
              bitmap := List.length_replicate
              shape := .inl ⟨rfl, rfl⟩
              issue_le := Nat.le_refl _
              bits := fun seq hseq => absurd hseq (by rw [hclear]; nofun)
              count := hcount.symm }
          · have hold := h.oldIssued x hx
            rw [hxe] at hold
            exact absurd hold (Nat.not_succ_le_self _)
          · have hnone : ∀ success, s.acked.count ⟨s.nextEventId + 1, seq, success⟩ = 0 := by
              intro success
              refine List.count_eq_zero.mpr fun hmem => ?_
              exact absurd (h.oldAcked _ hmem) (Nat.not_succ_le_self _)
            rw [hclear]
            show s.acked.count ⟨s.nextEventId + 1, seq, true⟩ +
              s.acked.count ⟨s.nextEventId + 1, seq, false⟩ = 0
            rw [hnone, hnone]

theorem Inv.insert (h : Inv dataBuffer s) {i : Nat} {s' : WriteTarget} (hs : s.insert i = some s') :
    Inv dataBuffer s' := by
  obtain ⟨request, hr, rfl⟩ := Option.map_eq_some_iff.mp hs
  obtain ⟨hk, harr⟩ := h.arriving request (List.mem_of_getElem? hr)
  refine { h with
    keys := h.keys.of_perm (.map key (List.perm_iff_count.mpr fun y => ?_)) rfl rfl
    slots := ⟨h.slots.slotCount, ?_, h.slots.shape, h.slots.slots⟩
    arriving := fun y hy => h.arriving y (List.mem_of_mem_eraseIdx hy)
    pending := fun y hy => ?_ }
  · have hcount := (cons_eraseIdx_perm hr).count_eq y
    simp only [requests, QueueState.insertWrite, List.count_cons, List.count_append,
      List.count_nil] at hcount ⊢
    omega
  · show s.queue.pendingWriteCount + 1 = (s.queue.pendingWrites ++ [request]).length
    rw [h.slots.writeCount, List.length_append, List.length_singleton]
  · rcases List.mem_append.mp hy with hy | hy
    · exact h.pending y hy
    · obtain rfl := List.mem_singleton.mp hy
      obtain ⟨htotal, hissue⟩ := hk.wellFormed.nextIssueSeq_eq harr.payloadBytes
      refine ⟨hk, harr.status, fun seq => ?_, fun _ => htotal,
        fun hne => absurd harr.payloadBytes hne⟩
      have hclear : y.ackedBitmap.getD seq false = false := by
        by_contra hbit
        have hlt := hk.wellFormed.bits seq (by simpa using hbit)
        omega
      have honce := hk.recorded.once seq
      rw [hclear, Bool.toNat_false] at honce
      show s.acked.count ⟨y.eventId, seq, false⟩ = 0
      omega

/-- **A fragment is reserved and written.** -/
theorem Inv.drain (h : Inv dataBuffer s) : Inv dataBuffer (s.drain dataBuffer) := by
  have hout := reserveWrite_outcome s.queue
  unfold WriteTarget.drain
  generalize s.queue.reserveWrite = out at hout
  cases hout with
  | idle requests hinit => exact h.init hinit
  | reserved requests hinit i request slot slots hrequest hseq hslots =>
    have h := h.init hinit
    obtain ⟨hk, hp⟩ := h.pending request (List.mem_of_getElem? hrequest)
    obtain ⟨hva, hcap, -, hfit⟩ := h.slots.slots slot (hslots ▸ List.mem_cons_self)
    have hpayload := (hk.wellFormed.payload_pos (Nat.zero_lt_of_lt hseq)).1
    have hshape := hp.shape (Nat.pos_iff_ne_zero.mp hpayload)
    have hslot : writeWriteSlotPayload (dataBuffer request.srb) request.eventId request.baseLba
        request.totalBytes request.payloadBytes request.totalSeq request.nextIssueSeq s.sectorSize
        slot = .ok (fragment s.sectorSize dataBuffer request request.nextIssueSeq) :=
      hk.wellFormed.payload_eq hseq hva hcap (hfit.trans hshape.symm)
    dsimp only
    rw [hslot]
    obtain ⟨harr, hpend, hfin⟩ := h.extend [{
      eventId := request.eventId
      seq := request.nextIssueSeq
      payload := .ok (fragment s.sectorSize dataBuffer request request.nextIssueSeq) }] [] hrequest
      (fun x hx => List.mem_singleton.mp hx ▸ rfl) nofun
    simp only [List.append_nil] at harr hpend hfin
    refine { h with
      keys := h.keys.of_perm (.of_eq ?_) rfl rfl
      slots := ⟨?_, ?_, h.slots.shape, fun slot' hslot' => ?_⟩
      oldIssued := fun x hx => ?_
      arriving := harr
      pending := fun y hy => ?_
      finished := hfin }
    · have hset : (requests.set i { request with nextIssueSeq := request.nextIssueSeq + 1 }).map
          key = requests.map key := map_set_eq hrequest rfl
      simp only [WriteTarget.requests, List.map_append, hset]
    · show s.queue.postedWriteSlotCount - 1 = slots.length
      rw [h.slots.slotCount, hslots]
      rfl
    · exact h.slots.writeCount.trans List.length_set.symm
    · exact h.slots.slots slot' (hslots ▸ List.mem_cons_of_mem _ hslot')
    · rcases List.mem_append.mp hx with hx | hx
      · exact h.oldIssued x hx
      · obtain rfl := List.mem_singleton.mp hx
        refine (h.keys.old request ?_).1
        simp only [WriteTarget.requests, List.mem_append]
        exact .inl (.inl (.inr (List.mem_of_getElem? hrequest)))
    · rcases mem_set_cases hrequest hy with rfl | hy
      · refine ⟨⟨?_, fun x hx hxe => ?_, fun seq hlt => ?_, hk.recorded.once⟩, hp.status,
          hp.noFailure, hp.unfinished, hp.shape⟩
        · exact { hk.wellFormed with
            issue_le := hseq
            bits := fun seq hbit => Nat.lt_succ_of_lt (hk.wellFormed.bits seq hbit) }
        · rcases List.mem_append.mp hx with hx | hx
          · obtain ⟨hlt, hpay⟩ := hk.recorded.slots x hx hxe
            exact ⟨Nat.lt_succ_of_lt hlt, hpay⟩
          · obtain rfl := List.mem_singleton.mp hx
            exact ⟨Nat.lt_succ_self _, rfl⟩
        · rcases Nat.lt_succ_iff_lt_or_eq.mp hlt with hlt | rfl
          · obtain ⟨x, hx, hxs⟩ := hk.recorded.all seq hlt
            exact ⟨x, List.mem_append_left _ hx, hxs⟩
          · exact ⟨_, List.mem_append_right _ (List.mem_singleton.mpr rfl), rfl, rfl⟩
      · exact hpend y hy

theorem Inv.dropWrite (h : Inv dataBuffer s) {range : WriteAckRange} {i : Nat}
    {old request : WriteRequest} (ha : s.queue.Accepts range i old request)
    (done : WriteRequest) (hkey : key done = key request)
    (hkept : Kept s.sectorSize dataBuffer s.issued (s.acked ++ ackedSeqs range) done)
    (hdone : Finished (s.acked ++ ackedSeqs range) done) :
    Inv dataBuffer { s with
      queue := s.queue.dropWrite i
      deferred := s.deferred ++ [done]
      acked := s.acked ++ ackedSeqs range } := by
  have hkeys : key done = key old := hkey.trans (ha.initialized ▸ initialize_key _ _)
  obtain ⟨harr, hpend, hfin⟩ := h.extend [] (ackedSeqs range) ha.found nofun
    fun x hx => (eventId_of_mem_ackedSeqs hx).trans ha.event.symm
  rw [List.append_nil] at harr hpend hfin
  refine Inv.resetShape (s := { s with
    queue := { s.queue with
      pendingWrites := s.queue.pendingWrites.eraseIdx i
      pendingWriteCount := s.queue.pendingWriteCount - 1 }
    deferred := s.deferred ++ [done]
    acked := s.acked ++ ackedSeqs range }) ?_
  refine { h with
    keys := h.keys.of_perm (List.perm_iff_count.mpr fun y => ?_) rfl rfl
    slots := ⟨h.slots.slotCount, ?_, h.slots.shape, h.slots.slots⟩
    oldAcked := fun x hx => ?_
    arriving := harr
    pending := hpend
    finished := fun y hy => ?_ }
  · have hcount := ((cons_eraseIdx_perm ha.found).map key).count_eq y
    simp only [requests, List.map_append, List.map_cons, List.map_nil, List.count_append,
      List.count_cons, List.count_nil, hkeys] at hcount ⊢
    omega
  · show s.queue.pendingWriteCount - 1 = (s.queue.pendingWrites.eraseIdx i).length
    rw [h.slots.writeCount,
      List.length_eraseIdx_of_lt (List.getElem?_eq_some_iff.mp ha.found).1]
  · rcases List.mem_append.mp hx with hx | hx
    · exact h.oldAcked x hx
    · rw [eventId_of_mem_ackedSeqs hx, ← ha.event]
      refine (h.keys.old old ?_).1
      simp only [requests, List.mem_append]
      exact .inl (.inl (.inr (List.mem_of_getElem? ha.found)))
  · simp only [List.mem_append, List.mem_singleton] at hy hfin
    rcases hy with (hy | rfl) | hy
    · exact hfin y (.inl hy)
    · exact ⟨hkept, hdone⟩
    · exact hfin y (.inr hy)

/-- **A range is acked, or rejected.** -/
theorem Inv.ackRange (h : Inv dataBuffer s) (range : WriteAckRange) :
    Inv dataBuffer (s.ackRange range) := by
  have hfits : ∀ {i old request}, s.queue.Accepts range i old request →
      Kept s.sectorSize dataBuffer s.issued s.acked request ∧
        Pending s.acked s.queue.writeSlotPayloadBytes request ∧ Fits range request := by
    intro i old request ha
    obtain ⟨hk, hp⟩ := h.pending old (List.mem_of_getElem? ha.found)
    have hevent : request.eventId = old.eventId := by
      have hkey := congrArg Prod.fst (initialize_key old s.queue.writeSlotPayloadBytes)
      rw [← ha.initialized] at hkey
      exact hkey
    rw [ha.initialized]
    exact ⟨hk.init h.slots.shape, hp.init hk.wellFormed,
      ha.initialized ▸ ⟨hevent.trans ha.event, ha.total, ha.issued, ha.clear⟩⟩
  have hout := ackRange_outcome s.queue range
  unfold WriteTarget.ackRange
  generalize s.queue.ackRange range = out at hout
  cases hout with
  | rejected requests status hstatus hinit =>
    dsimp only
    rw [if_neg hstatus]
    exact h.init (hinit.imp fun _ _ hby => hby.mayInitialize)
  | failed i old request ha hio =>
    obtain ⟨hk, -, hf⟩ := hfits ha
    have hk' := hf.kept hk
    refine h.dropWrite ha { request.setAcked range with finalStatus := range.ioStatus } rfl
      ⟨{ hk'.wellFormed with }, ⟨hk'.recorded.slots, hk'.recorded.all, hk'.recorded.once⟩⟩ ?_
    exact hf.failed hk hio ha.seqCount
  | finished i old request ha hio hall =>
    obtain ⟨hk, hp, hf⟩ := hfits ha
    exact h.dropWrite ha (request.setAcked range) rfl (hf.kept hk)
      (hf.finished hp hk hio ha.seqCount hall)
  | kept i old request ha hio hsome =>
    obtain ⟨hk, hp, hf⟩ := hfits ha
    obtain ⟨harr, hpend, hfin⟩ := h.extend [] (ackedSeqs range) ha.found
      nofun fun x hx => (eventId_of_mem_ackedSeqs hx).trans ha.event.symm
    rw [List.append_nil] at harr hpend hfin
    show Inv dataBuffer { s with
      queue := { s.queue with
        pendingWrites := s.queue.pendingWrites.set i (request.setAcked range) }
      deferred := s.deferred ++ []
      acked := s.acked ++ ackedSeqs range }
    rw [List.append_nil]
    refine { h with
      keys := h.keys.of_perm (.of_eq ?_) rfl rfl
      slots := ⟨h.slots.slotCount, h.slots.writeCount.trans List.length_set.symm,
        h.slots.shape, h.slots.slots⟩
      oldAcked := fun x hx => ?_
      arriving := harr
      pending := fun y hy => ?_
      finished := hfin }
    · have hkey : key (request.setAcked range) = key old := by
        show key request = key old
        rw [ha.initialized]
        exact initialize_key _ _
      simp only [requests, List.map_append, map_set_eq ha.found hkey]
    · rcases List.mem_append.mp hx with hx | hx
      · exact h.oldAcked x hx
      · rw [eventId_of_mem_ackedSeqs hx, ← ha.event]
        refine (h.keys.old old ?_).1
        simp only [requests, List.mem_append]
        exact .inl (.inl (.inr (List.mem_of_getElem? ha.found)))
    · rcases mem_set_cases ha.found hy with rfl | hy
      · exact ⟨hf.kept hk, hf.pending hp hio hsome⟩
      · exact hpend y hy

theorem sweep_status_failed (sweep : Sweep) : ¬ ntSuccess sweep.status = true := by
  cases sweep <;> decide +revert

/-- **A reset completes no request with success.** -/
theorem Inv.sweepWrites (h : Inv dataBuffer s) (sweep : Sweep) :
    Inv dataBuffer (s.sweepWrites sweep) := by
  refine { h with
    keys := h.keys.of_perm (List.perm_iff_count.mpr fun y => ?_) rfl rfl
    slots := ⟨rfl, rfl, dvd_zero _, nofun⟩
    arriving := h.arriving
    pending := nofun
    finished := fun y hy => ?_ }
  · have hmap : (s.queue.pendingWrites.map fun request =>
        { request with finalStatus := sweep.status }).map key = s.queue.pendingWrites.map key := by
      rw [List.map_map]
      rfl
    simp only [requests, WriteTarget.sweepWrites, QueueState.sweepWrites, List.map_append, hmap,
      List.count_append, List.map_nil, List.count_nil]
    omega
  · have hmem : y ∈ s.deferred ++ s.completed ∨ ∃ request ∈ s.queue.pendingWrites,
        y = { request with finalStatus := sweep.status } := by
      simp only [WriteTarget.sweepWrites, QueueState.sweepWrites, List.mem_append,
        List.mem_map] at hy ⊢
      rcases hy with (hy | ⟨request, hr, rfl⟩) | hy
      · exact .inl (.inl hy)
      · exact .inr ⟨request, hr, rfl⟩
      · exact .inl (.inr hy)
    rcases hmem with hy | ⟨request, hr, rfl⟩
    · exact h.finished y hy
    · obtain ⟨hk, hp⟩ := h.pending request hr
      refine ⟨⟨{ hk.wellFormed with }, hk.recorded.slots, hk.recorded.all, hk.recorded.once⟩, ?_⟩
      exact ⟨fun hs => absurd hs (sweep_status_failed sweep),
        fun hall => absurd hall (hp.not_acked hk)⟩

theorem Inv.complete (h : Inv dataBuffer s) {i : Nat} {s' : WriteTarget}
    (hs : s.complete i = some s') : Inv dataBuffer s' := by
  obtain ⟨request, hr, rfl⟩ := Option.map_eq_some_iff.mp hs
  have hperm : (s.deferred.eraseIdx i ++ (s.completed ++ [request])).Perm
      (s.deferred ++ s.completed) := by
    refine List.perm_iff_count.mpr fun y => ?_
    have hcount := (cons_eraseIdx_perm hr).count_eq y
    simp only [List.count_cons, List.count_append, List.count_nil] at hcount ⊢
    omega
  refine { h with
    keys := h.keys.of_perm (.map key ?_) rfl rfl
    finished := fun y hy => h.finished y (hperm.subset hy) }
  simp only [requests, List.append_assoc]
  exact (hperm.append_left _).append_left _

/-! ## Runs -/

/-- **One step.** -/
theorem step_inv {a : Action} {s' : WriteTarget} (h : Inv dataBuffer s)
    (hs : s.step dataBuffer a = some s') : Inv dataBuffer s' := by
  cases a with
  | queueWrite lba blockCount dataLength => cases hs; exact h.queueWriteSrb lba blockCount dataLength
  | nextEvent =>
    cases hs
    have hnext : ∀ n, n ≤ s.nextEventId → n ≤ s.nextEventId + 1 := fun n => Nat.le_succ_of_le
    exact { h with
      keys := ⟨h.keys.events, h.keys.srbs, fun request hr =>
        ⟨hnext _ (h.keys.old request hr).1, (h.keys.old request hr).2⟩⟩
      oldIssued := fun x hx => hnext _ (h.oldIssued x hx)
      oldAcked := fun x hx => hnext _ (h.oldAcked x hx) }
  | insert i => exact h.insert hs
  | submitSlot srb slotId kernelVa capacity => cases hs; exact h.submitSlot srb slotId kernelVa capacity
  | cancelSlot slotId => cases hs; exact h.cancelSlot slotId
  | drain => cases hs; exact h.drain
  | ackRange range => cases hs; exact h.ackRange range
  | sweep sweep => cases hs; exact h.sweepWrites sweep
  | complete i => exact h.complete hs

theorem inv_init (dataBuffer : Nat → Bytes) (sectorSize : Nat) :
    Inv dataBuffer (init sectorSize) where
  keys := ⟨.nil, .nil, nofun⟩
  slots := ⟨rfl, rfl, dvd_zero _, nofun⟩
  oldIssued := nofun
  oldAcked := nofun
  arriving := nofun
  pending := nofun
  finished := nofun

theorem rejectedSafe (s : WriteTarget) (range : WriteAckRange) : s.RejectedSafe range := by
  intro hstatus
  have hout := ackRange_outcome s.queue range
  unfold WriteTarget.ackRange
  generalize s.queue.ackRange range = out at hout hstatus
  cases hout with
  | rejected requests status hrejected hinit => exact ⟨requests, if_neg hstatus, hinit⟩
  | _ => exact absurd rfl hstatus

theorem completion_status (request : WriteRequest) :
    ntSuccess request.completion.status = ntSuccess request.finalStatus := by
  unfold WriteRequest.completion
  split
  · next hs => exact hs.symm
  · rfl

theorem Inv.kept (h : Inv dataBuffer s) (hr : request ∈ s.requests) :
    Kept s.sectorSize dataBuffer s.issued s.acked request := by
  simp only [requests, List.append_assoc] at hr
  rcases List.mem_append.mp hr with hr | hr
  · exact (h.arriving request hr).1
  · rcases List.mem_append.mp hr with hr | hr
    · exact (h.pending request hr).1
    · exact (h.finished request hr).1

theorem Inv.safe (h : Inv dataBuffer s) : Safe dataBuffer s where
  events := h.keys.events
  srbs := h.keys.srbs
  accounted request hr := (h.kept hr).wellFormed.accounted (h.kept hr).recorded
  fragmented request hr := (h.kept hr).wellFormed.fragmented (h.kept hr).recorded
  rejected := rejectedSafe s
  pending request hr hacked := by
    rcases List.mem_append.mp hr with hr | hr
    · obtain ⟨hk, harr⟩ := h.arriving request hr
      exact harr.not_acked hk.wellFormed hacked.1
    · obtain ⟨hk, hp⟩ := h.pending request hr
      exact hp.not_acked hk hacked
  completed request hr := by
    rw [completion_status]
    exact (h.finished request hr).2

/-- **Fragmented writes are completed as they are acked**, in every state of every run. -/
theorem fragmented_write {as : List Action}
    (h : Lib.runFrom (step dataBuffer) (init sectorSize) as = some s) : Safe dataBuffer s :=
  Lib.run_inv (fun _ _ _ h hs => step_inv h hs) (inv_init dataBuffer sectorSize) h |>.safe

/-- Two writes wait for a slot, and the first gets it. -/
def rejectedRun : List Action :=
  [.queueWrite 0 2 1024, .insert 0, .queueWrite 8 1 512, .insert 0, .submitSlot 0 1 4096 560,
    .drain]

/-- A range of the second one is rejected, but initializes it. -/
def rejectedRange : WriteAckRange := { eventId := 2, seqBase := 0, seqCount := 1, ioStatus := 0 }

theorem rejected_initializes :
    ∃ s, Lib.runFrom (step fun _ => []) (init 512) rejectedRun = some s ∧
      ¬ ntSuccess (s.queue.ackRange rejectedRange).2.1 = true ∧
      (s.ackRange rejectedRange).queue ≠ s.queue := by
  obtain ⟨s, hs, hp⟩ := Lib.exists_run (step fun _ => []) (init 512) rejectedRun
    (fun s => decide (¬ ntSuccess (s.queue.ackRange rejectedRange).2.1 = true ∧
      (s.ackRange rejectedRange).queue ≠ s.queue)) (by decide)
  exact ⟨s, hs, of_decide_eq_true hp⟩

/-- The first write is drained in two fragments and acked in the other order; the second fails. -/
def ackedRun : List Action :=
  rejectedRun ++ [.submitSlot 1 2 4096 560, .drain, .ackRange rejectedRange,
    .ackRange { eventId := 1, seqBase := 1, seqCount := 1, ioStatus := 0 },
    .submitSlot 2 3 4096 560, .drain,
    .ackRange { eventId := 1, seqBase := 0, seqCount := 1, ioStatus := 0 },
    .ackRange { eventId := 2, seqBase := 0, seqCount := 1, ioStatus := -1 },
    .complete 0, .complete 0]

theorem ackedRun_safe :
    ∃ s, Lib.runFrom (step fun _ => []) (init 512) ackedRun = some s ∧ Safe (fun _ => []) s ∧
      s.completed.map WriteRequest.completion = [⟨0, statusSuccess, 1024⟩, ⟨1, -1, 0⟩] := by
  obtain ⟨s, hs, hp⟩ := Lib.exists_run (step fun _ => []) (init 512) ackedRun
    (fun s => decide (s.completed.map WriteRequest.completion =
      [⟨0, statusSuccess, 1024⟩, ⟨1, -1, 0⟩])) (by decide)
  exact ⟨s, hs, fragmented_write hs, of_decide_eq_true hp⟩

end WriteTarget

end YumeDisk.Miniport
