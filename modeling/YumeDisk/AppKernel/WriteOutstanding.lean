import YumeDisk.AppKernel.WritePlaces
import YumeDisk.AppKernel.WriteAgreement

/-!
# What may still arrive of a write

A fragment of a write is to be issued, or in a slot, or with a worker; its ack is queued, or in the
hands of the flusher.  Once a write was announced, nothing more of it becomes outstanding.

* `Outstanding`: a fragment or an ack of the write may still arrive.
* `step_unissued`, `step_issued_new`: the driver.
* `step_outstanding`: one step.
-/

namespace YumeDisk.AppKernel

open Lib (Bytes)
open Miniport

namespace WritePlane

/-! ## What may still arrive -/

/-- The driver may still issue a fragment of the write. -/
def Unissued (target : WriteTarget) (eventId : Nat) : Prop :=
  ∃ request ∈ target.arriving ++ target.queue.pendingWrites,
    request.eventId = eventId ∧ request.nextIssueSeq < request.totalSeq

instance (target : WriteTarget) (eventId : Nat) : Decidable (Unissued target eventId) :=
  inferInstanceAs (Decidable (∃ request ∈ _, _))

/-- A fragment of the write is in a slot that has not reached a worker. -/
def InSlot (s : WritePlane) (eventId : Nat) : Prop :=
  ∃ i < s.target.issued.length, i ∉ s.taken ∧
    (s.target.issued[i]?).map IssuedSlot.eventId = some eventId

instance (s : WritePlane) (eventId : Nat) : Decidable (s.InSlot eventId) :=
  inferInstanceAs (Decidable (∃ i < _, _))

/-- A worker has a fragment of the write. -/
def InHand (s : WritePlane) (eventId : Nat) : Prop :=
  ∃ slot ∈ s.staging, slot.header.eventId = eventId

instance (s : WritePlane) (eventId : Nat) : Decidable (s.InHand eventId) :=
  inferInstanceAs (Decidable (∃ slot ∈ _, _))

/-- An ack of the write was not applied. -/
def Acking (s : WritePlane) (eventId : Nat) : Prop :=
  ∃ range ∈ s.writeAcks ++ s.flush.payload, range.eventId = eventId

instance (s : WritePlane) (eventId : Nat) : Decidable (s.Acking eventId) :=
  inferInstanceAs (Decidable (∃ range ∈ _, _))

/-- A fragment of the write may still be delivered, or is being staged. -/
def Unstaged (s : WritePlane) (eventId : Nat) : Prop :=
  Unissued s.target eventId ∨ s.InSlot eventId ∨ s.InHand eventId

instance (s : WritePlane) (eventId : Nat) : Decidable (s.Unstaged eventId) :=
  inferInstanceAs (Decidable (_ ∨ _))

/-- **A fragment or an ack of the write may still arrive.** -/
def Outstanding (s : WritePlane) (eventId : Nat) : Prop :=
  s.Unstaged eventId ∨ s.Acking eventId

instance (s : WritePlane) (eventId : Nat) : Decidable (s.Outstanding eventId) :=
  inferInstanceAs (Decidable (_ ∨ _))

variable {dataBuffer : Nat → Bytes} {s s' : WritePlane} {eventId : Nat}

/-! ## The driver -/

/-- What is issued is of a request on the queue. -/
theorem drain_issued {target : WriteTarget} {x : IssuedSlot}
    (hx : x ∈ (target.drain dataBuffer).issued) :
    x ∈ target.issued ∨ ∃ request ∈ target.queue.pendingWrites, request.eventId = x.eventId := by
  have hout := QueueState.reserveWrite_outcome target.queue
  unfold WriteTarget.drain at hx
  generalize target.queue.reserveWrite = out at hout hx
  cases hout with
  | idle requests hinit => exact .inl hx
  | reserved requests hinit i request slot slots hrequest hseq hslots =>
    rcases List.mem_append.mp hx with hx | hx
    · exact .inl hx
    · obtain rfl := List.mem_singleton.mp hx
      have hmem : request.eventId ∈ requests.map WriteRequest.eventId :=
        List.mem_map_of_mem (List.mem_of_getElem? hrequest)
      rw [WriteTarget.eventIds_of_init hinit] at hmem
      exact .inr (List.mem_map.mp hmem)

/-- **A fragment that was not issued can be**, if its request is still on the queue. -/
theorem unissued_of_missing {target : WriteTarget} (hinv : WriteTarget.Inv dataBuffer target)
    {request : WriteRequest} (hr : request ∈ target.arriving ++ target.queue.pendingWrites)
    {seq : Nat} (hseq : seq < request.totalSeq)
    (hmissing : ∀ x ∈ target.issued, x.eventId = request.eventId → x.seq ≠ seq) :
    Unissued target request.eventId := by
  refine ⟨request, hr, rfl, ?_⟩
  have hmem : request ∈ target.requests := by
    simp only [WriteTarget.requests, List.append_assoc, List.mem_append] at hr ⊢
    exact hr.imp_right .inl
  by_contra hall
  obtain ⟨x, hx, he, hxs⟩ := (hinv.kept hmem).recorded.all seq (by omega)
  exact hmissing x hx he hxs

/-- A request that is on the queue after a step was there before it, or is new. -/
theorem on_queue {target target' : WriteTarget} (hinv : WriteTarget.Inv dataBuffer target')
    (ha : WriteTarget.Advances target target') {request : WriteRequest}
    (hr : request ∈ target'.arriving ++ target'.queue.pendingWrites)
    (hown : target.Owns request.eventId) :
    ∃ old ∈ target.arriving ++ target.queue.pendingWrites, old.eventId = request.eventId := by
  obtain ⟨old, hold, he⟩ := hown
  simp only [WriteTarget.requests, List.append_assoc] at hold
  rw [← List.append_assoc] at hold
  rcases List.mem_append.mp hold with hold | hold
  · exact ⟨old, hold, he⟩
  · exfalso
    have hnodup := hinv.keys.events
    simp only [WriteTarget.requests, List.append_assoc] at hnodup
    rw [← List.append_assoc, List.map_append, List.nodup_append] at hnodup
    exact hnodup.2.2 _ (List.mem_map_of_mem hr) _ (List.mem_map_of_mem (ha.off hold)) he.symm

section Driver

variable {target target' : WriteTarget} {a : WriteTarget.Action} {totalSeq : Nat}

/-- **The driver issues nothing that it could not have issued before**, of a write that it has
announced. -/
theorem step_unissued (hinv : WriteTarget.Inv dataBuffer target)
    (hissues : WriteTarget.Issues target) (hs : target.step dataBuffer a = some target')
    (hann : Announced target eventId totalSeq) (h : Unissued target' eventId) :
    Unissued target eventId := by
  have ha := WriteTarget.step_advances hs
  have hinv' := WriteTarget.step_inv hinv hs
  obtain ⟨request, hr, rfl, hlt⟩ := h
  have hmem : request ∈ target'.requests := by
    simp only [WriteTarget.requests, List.append_assoc, List.mem_append] at hr ⊢
    exact hr.imp_right .inl
  have hown : target.Owns request.eventId := by
    obtain ⟨x, hx, he, -⟩ := hann
    exact he ▸ hissues.owned x hx
  obtain ⟨old, hold, he⟩ := on_queue hinv' ha hr hown
  have holdmem : old ∈ target.requests := by
    simp only [WriteTarget.requests, List.append_assoc, List.mem_append] at hold ⊢
    exact hold.imp_right .inl
  have htotal := (hann.advances ha).request hinv' hmem rfl
  have holdTotal := hann.request hinv holdmem he
  rw [← he]
  have hseq : request.nextIssueSeq < old.totalSeq := by omega
  refine unissued_of_missing hinv hold hseq fun x hx hxe hxs => ?_
  have hbelow := ((hinv'.kept hmem).recorded.slots x (ha.issued.subset hx) (hxe.trans he)).1
  omega

theorem step_issued_new (hinv : WriteTarget.Inv dataBuffer target)
    (hissues : WriteTarget.Issues target) (hs : target.step dataBuffer a = some target')
    (hann : Announced target eventId totalSeq) {i : Nat} {x : IssuedSlot}
    (hx : target'.issued[i]? = some x) (he : x.eventId = eventId)
    (hnew : target.issued.length ≤ i) : Unissued target eventId := by
  have ha := WriteTarget.step_advances hs
  have hinv' := WriteTarget.step_inv hinv hs
  have hissues' := WriteTarget.step_issues hinv hissues hs
  by_cases hdrain : a = .drain
  · subst hdrain
    cases hs
    have hmem := List.mem_of_getElem? hx
    -- it is not among those that were issued, as no fragment is issued twice
    have hmissing : ∀ y ∈ target.issued, (y.eventId, y.seq) ≠ (x.eventId, x.seq) := by
      intro y hy heq
      obtain ⟨j, hj, hyj⟩ := List.getElem_of_mem hy
      obtain ⟨more, hmore⟩ := ha.issued
      have hyj' : (target.drain dataBuffer).issued[j]? = some y := by
        rw [← hmore, List.getElem?_append_left hj, List.getElem?_eq_getElem hj, hyj]
      have hlt := (List.getElem?_eq_some_iff.mp hx).1
      have hmapx : ((target.drain dataBuffer).issued.map fun x => (x.eventId, x.seq))[i]? =
          some (x.eventId, x.seq) := by
        rw [List.getElem?_map, hx]
        rfl
      have hmapy : ((target.drain dataBuffer).issued.map fun x => (x.eventId, x.seq))[j]? =
          some (x.eventId, x.seq) := by
        rw [List.getElem?_map, hyj']
        exact congrArg some heq
      have hij : i = j := (List.getElem?_inj (by rw [List.length_map]; exact hlt)
        hissues'.once).mp (hmapx.trans hmapy.symm)
      omega
    rcases drain_issued hmem with hold | ⟨request, hr, hre⟩
    · exact absurd rfl (hmissing x hold)
    · have hr' : request ∈ target.arriving ++ target.queue.pendingWrites :=
        List.mem_append_right _ hr
      have hreq : request ∈ target.requests := by
        simp only [WriteTarget.requests, List.append_assoc, List.mem_append]
        exact .inr (.inl hr)
      have hre' := hre.trans he
      have hseq := (hann.advances ha).lt hinv' hissues' hmem (Prod.ext he rfl)
      have htotal := hann.request hinv hreq hre'
      rw [← hre']
      refine unissued_of_missing hinv hr' (hseq.trans_eq htotal.symm) fun y hy hye hys => ?_
      exact hmissing y hy (Prod.ext (hye.trans hre) hys)
  · rw [(WriteTarget.step_kept hs).2.1 hdrain] at hx
    have hlt := (List.getElem?_eq_some_iff.mp hx).1
    omega

end Driver

/-! ## What a step leaves outstanding -/

theorem Outstanding.shutDown (h : s.shutDown.Outstanding eventId) : s.Unstaged eventId := by
  rcases h with h | ⟨range, hr, -⟩
  · exact h
  · cases hr

/-- Nothing is delivered, and what the workers and the flusher have does not grow. -/
theorem Outstanding.of_subset (h : s'.Outstanding eventId) (htarget : s'.target = s.target)
    (htaken : s'.taken = s.taken) (hstaging : s'.staging ⊆ s.staging)
    (hacks : ∀ range ∈ s'.writeAcks ++ s'.flush.payload,
      range ∈ s.writeAcks ++ s.flush.payload ∨ s.InHand range.eventId) :
    s.Outstanding eventId := by
  rcases h with (h | ⟨i, hi, hnot, he⟩ | ⟨slot, hslot, he⟩) | ⟨range, hr, he⟩
  · exact .inl (.inl (htarget ▸ h))
  · rw [htarget] at hi he
    rw [htaken] at hnot
    exact .inl (.inr (.inl ⟨i, hi, hnot, he⟩))
  · exact .inl (.inr (.inr ⟨slot, hstaging hslot, he⟩))
  · rcases hacks range hr with hr | hhand
    · exact .inr ⟨range, hr, he⟩
    · exact .inl (.inr (.inr (he ▸ hhand)))

/-- The driver takes a step, and no ack moves. -/
theorem Outstanding.of_driver {target : WriteTarget} {flush : WriteAckFlush}
    (h : ({ s with target, flush } : WritePlane).Outstanding eventId)
    (hplaced : Placed dataBuffer s) {a : WriteTarget.Action}
    (hs : s.target.step dataBuffer a = some target) {totalSeq : Nat}
    (hann : Announced s.target eventId totalSeq) (hpayload : flush.payload = s.flush.payload) :
    s.Outstanding eventId := by
  rcases h with (h | ⟨i, hi, hnot, he⟩ | h) | ⟨range, hr, he⟩
  · exact .inl (.inl (step_unissued hplaced.target hplaced.issues hs hann h))
  · obtain ⟨x, hx, hxe⟩ := Option.map_eq_some_iff.mp he
    by_cases hold : i < s.target.issued.length
    · obtain ⟨more, hmore⟩ := (WriteTarget.step_advances hs).issued
      refine .inl (.inr (.inl ⟨i, hold, hnot, ?_⟩))
      change target.issued[i]? = some x at hx
      rw [← hmore, List.getElem?_append_left hold] at hx
      rw [hx]
      exact congrArg some hxe
    · exact .inl (.inl (step_issued_new hplaced.target hplaced.issues hs hann hx hxe (by omega)))
  · exact .inl (.inr (.inr h))
  · exact .inr ⟨range, hpayload ▸ hr, he⟩

/-- **A slot reaches a worker.** -/
theorem Outstanding.deliver (h : s'.Outstanding eventId) (hplaced : Placed dataBuffer s) {i : Nat}
    {allocated : Bool} (hs : s.deliver i allocated = some s') : s.Outstanding eventId := by
  obtain ⟨x, header, hissued, hpayload, htaken, hcases⟩ := deliver_cases hs
  have hslots : (∃ j < s.target.issued.length, j ∉ i :: s.taken ∧
      (s.target.issued[j]?).map IssuedSlot.eventId = some eventId) → s.InSlot eventId := by
    rintro ⟨j, hj, hnot, he⟩
    exact ⟨j, hj, fun hin => hnot (List.mem_cons_of_mem _ hin), he⟩
  rcases hcases with rfl | ⟨-, rfl⟩
  · rcases h with (h | h | h) | h
    · exact .inl (.inl h)
    · exact .inl (.inr (.inl (hslots h)))
    · exact .inl (.inr (.inr h))
    · exact .inr h
  · rcases h with (h | h | ⟨slot, hslot, he⟩) | h
    · exact .inl (.inl h)
    · exact .inl (.inr (.inl (hslots h)))
    · rcases List.mem_append.mp hslot with hslot | hslot
      · exact .inl (.inr (.inr ⟨slot, hslot, he⟩))
      · obtain rfl := List.mem_singleton.mp hslot
        refine .inl (.inr (.inl ⟨i, (List.getElem?_eq_some_iff.mp hissued).1, htaken, ?_⟩))
        rw [hissued]
        exact congrArg some ((Prod.mk.inj (hplaced.header_eq hissued hpayload)).1.symm.trans he)
    · exact .inr h

/-- **A step leaves nothing outstanding that was not**, of a write that was announced. -/
theorem step_outstanding {a : Action} (hplaced : Placed dataBuffer s)
    (hs : s.step dataBuffer a = some s') {totalSeq : Nat}
    (hann : Announced s.target eventId totalSeq) (h : s'.Outstanding eventId) :
    s.Outstanding eventId := by
  cases a with
  | driver a =>
    obtain ⟨-, target, htarget, rfl⟩ := driver_cases hs
    exact h.of_driver hplaced htarget hann rfl
  | deliver i allocated => exact h.deliver hplaced hs
  | stage k status enqueued =>
    obtain ⟨slot, hslot, rfl⟩ := Option.map_eq_some_iff.mp hs
    refine h.of_subset rfl rfl (List.eraseIdx_sublist _ _).subset fun range hr => ?_
    rcases List.mem_append.mp hr with hr | hr
    · cases enqueued with
      | false => exact .inl (List.mem_append_left _ hr)
      | true =>
        rcases List.mem_append.mp hr with hr | hr
        · exact .inl (List.mem_append_left _ hr)
        · obtain rfl := List.mem_singleton.mp hr
          exact .inr ⟨slot, List.mem_of_getElem? hslot, rfl⟩
    · exact .inl (List.mem_append_right _ hr)
  | steal =>
    obtain ⟨-, -, rfl⟩ := steal_cases hs
    refine h.of_subset rfl rfl (fun _ => id) fun range hr => .inl ?_
    rcases List.mem_append.mp hr with hr | hr
    · exact List.mem_append_left _ (List.mem_of_mem_drop hr)
    · exact List.mem_append_left _ (List.mem_of_mem_take hr)
  | send =>
    obtain ⟨ranges, hflush, rfl⟩ := send_cases hs
    refine h.of_subset rfl rfl (fun _ => id) fun range hr => .inl ?_
    rw [hflush]
    exact hr
  | handle =>
    obtain ⟨ranges, index, failures, range, hflush, -, rfl⟩ := handle_cases hs
    exact h.of_driver hplaced (a := .ackRange range) rfl hann (by rw [hflush]; rfl)
  | reply =>
    obtain ⟨ranges, failures, hflush, rfl⟩ := reply_cases hs
    refine h.of_subset rfl rfl (fun _ => id) fun range hr => .inl ?_
    rw [hflush]
    exact hr
  | fail status =>
    rcases fail_cases hs with ⟨-, rfl⟩ | ⟨-, rfl⟩
    · exact .inl h.shutDown
    · exact h.of_subset rfl rfl (fun _ => id) fun range hr => .inl hr
  | apply push allocated =>
    obtain ⟨ranges, failures, index, hflush, ⟨-, rfl⟩ | ⟨range, -, ⟨-, rfl⟩ | ⟨-, rfl⟩⟩⟩ :=
      apply_cases hs
    · refine h.of_subset rfl rfl (fun _ => id) fun range hr => .inl ?_
      exact List.mem_append_left _ ((List.append_nil s.writeAcks).symm ▸ hr)
    · refine h.of_subset rfl rfl (fun _ => id) fun r hr => .inl ?_
      rcases List.mem_append.mp hr with hr | hr
      · exact List.mem_append_left _ hr
      · rw [hflush]
        refine List.mem_append_right _ ?_
        exact (List.drop_sublist_drop_left ranges (Nat.le_succ index)).subset hr
    · exact .inl h.shutDown
  | requestStop =>
    cases hs
    exact h
  | noticeStop =>
    rcases noticeStop_cases hs with ⟨-, rfl⟩ | rfl
    · exact .inl h.shutDown
    · exact h.of_subset rfl rfl (fun _ => id) fun range hr =>
        .inl (List.mem_append_right _ hr)

end WritePlane

end YumeDisk.AppKernel
