import YumeDisk.Lib.Ownership
import YumeDisk.AppKernel.WriteAcks

/-!
# Where the ack of a fragment is

A fragment reaches one worker, and its ack is in one place at a time: with the worker, queued, in
the hands of the flusher, or applied.  This holds however the driver answers and whatever batch is
sent again.

* `AckPlace`, `WritePlane.held`: the places.
* `WritePlane.Placed`: the invariant.
* `step_placed`, `step_frame`: one step.
-/

namespace YumeDisk.AppKernel

open Lib (Bytes)
open Miniport

def fragKey (x : AckedSeq) : Nat × Nat := (x.eventId, x.seq)

def rangeKey (range : WriteAckRange) : Nat × Nat := (range.eventId, range.seqBase)

def slotKey (slot : StagingSlot) : Nat × Nat := (slot.header.eventId, slot.header.seq)

/-- Where the ack of a fragment is. -/
inductive AckPlace
  | staging
  | queued
  | payload
  | applied
deriving DecidableEq

theorem mem_map_concat {α β : Type} {f : α → β} {xs : List α} {x : α} {y : β}
    (h : y ∈ (xs ++ [x]).map f) : y ∈ xs.map f ∨ y = f x := by
  rw [List.map_append] at h
  exact (List.mem_append.mp h).imp_right List.mem_singleton.mp

namespace WritePlane

def held (s : WritePlane) : AckPlace → List (Nat × Nat)
  | .staging => s.staging.map slotKey
  | .queued => s.writeAcks.map rangeKey
  | .payload => s.flush.payload.map rangeKey
  | .applied => s.applied.map fragKey

/-- The fragment has reached a worker. -/
def Delivered (s : WritePlane) (key : Nat × Nat) : Prop :=
  ∃ i ∈ s.taken, ∃ x, s.target.issued[i]? = some x ∧ (x.eventId, x.seq) = key

/-- A slot that was issued has the header. -/
def Carried (target : WriteTarget) (header : WriteSlotPayload) : Prop :=
  ∃ x ∈ target.issued, x.payload = .ok header ∧ (x.eventId, x.seq) = (header.eventId, header.seq)

structure Placed (dataBuffer : Nat → Bytes) (s : WritePlane) : Prop where
  target : WriteTarget.Inv dataBuffer s.target
  issues : WriteTarget.Issues s.target
  places : Lib.Partition s.held
  delivered : ∀ p, ∀ key ∈ s.held p, s.Delivered key
  headers : ∀ slot ∈ s.staging, slot.header.eventId ≠ 0 ∧ Carried s.target slot.header

variable {dataBuffer : Nat → Bytes} {s s' : WritePlane}

theorem Delivered.advances {key : Nat × Nat} (h : s.Delivered key)
    (ha : WriteTarget.Advances s.target s'.target) (htaken : s.taken ⊆ s'.taken) :
    s'.Delivered key := by
  obtain ⟨i, hi, x, hx, hkey⟩ := h
  obtain ⟨new, hnew⟩ := ha.issued
  refine ⟨i, htaken hi, x, ?_, hkey⟩
  rw [← hnew, List.getElem?_append_left (List.getElem?_eq_some_iff.mp hx).1]
  exact hx

theorem Carried.advances {target target' : WriteTarget} {header : WriteSlotPayload}
    (h : Carried target header) (ha : WriteTarget.Advances target target') :
    Carried target' header := by
  obtain ⟨x, hx, hrest⟩ := h
  exact ⟨x, ha.issued.subset hx, hrest⟩

namespace Placed

/-- The fragment of a place was issued. -/
theorem issued (h : Placed dataBuffer s) {p : AckPlace} {key : Nat × Nat} (hkey : key ∈ s.held p) :
    ∃ x ∈ s.target.issued, (x.eventId, x.seq) = key := by
  obtain ⟨i, -, x, hx, heq⟩ := h.delivered p key hkey
  exact ⟨x, List.mem_of_getElem? hx, heq⟩

/-- A fragment that has not reached a worker is at no place. -/
theorem fresh (h : Placed dataBuffer s) {i : Nat} {x : IssuedSlot}
    (hx : s.target.issued[i]? = some x) (hi : i ∉ s.taken) (p : AckPlace) :
    (x.eventId, x.seq) ∉ s.held p := by
  intro hmem
  obtain ⟨j, hj, y, hy, hkey⟩ := h.delivered p _ hmem
  have hlt := (List.getElem?_eq_some_iff.mp hx).1
  have hmapx : (s.target.issued.map fun x => (x.eventId, x.seq))[i]? = some (x.eventId, x.seq) := by
    rw [List.getElem?_map, hx]
    rfl
  have hmapy : (s.target.issued.map fun x => (x.eventId, x.seq))[j]? = some (x.eventId, x.seq) := by
    rw [List.getElem?_map, hy]
    exact congrArg some hkey
  have hij : i = j := (List.getElem?_inj (by rw [List.length_map]; exact hlt) h.issues.once).mp
    (hmapx.trans hmapy.symm)
  exact hi (hij ▸ hj)

/-- What a slot carries is the fragment of a request. -/
theorem fragment (h : Placed dataBuffer s) {header : WriteSlotPayload}
    (hc : Carried s.target header) : ∃ request ∈ s.target.requests,
      request.eventId = header.eventId ∧ header.seq < request.totalSeq ∧
      header = WriteTarget.fragment s.target.sectorSize dataBuffer request header.seq := by
  obtain ⟨x, hx, hpayload, hkey⟩ := hc
  obtain ⟨he, hseq⟩ := Prod.mk.inj hkey
  obtain ⟨request, hr, hre⟩ := h.issues.owned x hx
  have hissued := (h.target.safe.fragmented request hr).issued x hx hre.symm
  rw [hpayload] at hissued
  exact ⟨request, hr, hre.trans he, hseq ▸ hissued.1, hseq ▸ Except.ok.inj hissued.2⟩

/-! ## The sections -/

/-- The driver takes a step; no ack moves. -/
theorem advance (h : Placed dataBuffer s) (ha : WriteTarget.Advances s.target s'.target)
    (hinv : WriteTarget.Inv dataBuffer s'.target) (hissues : WriteTarget.Issues s'.target)
    (hheld : s'.held = s.held) (hstaging : s'.staging = s.staging) (htaken : s.taken ⊆ s'.taken) :
    Placed dataBuffer s' where
  target := hinv
  issues := hissues
  places := hheld ▸ h.places
  delivered p key hkey := (h.delivered p key (hheld ▸ hkey)).advances ha htaken
  headers slot hslot := by
    rw [hstaging] at hslot
    exact ⟨(h.headers slot hslot).1, (h.headers slot hslot).2.advances ha⟩

/-- Acks move; the driver takes no step. -/
theorem moves (h : Placed dataBuffer s) (htarget : s'.target = s.target)
    (htaken : s'.taken = s.taken) (hsub : s'.staging ⊆ s.staging)
    (hm : Lib.Moves s.held s'.held) : Placed dataBuffer s' where
  target := htarget ▸ h.target
  issues := htarget ▸ h.issues
  places := h.places.moves hm
  delivered p key hkey := by
    obtain ⟨q, hq⟩ := (hm.mem_iff key).mp ⟨p, hkey⟩
    refine (h.delivered q key hq).advances ?_ (htaken ▸ fun _ => id)
    rw [htarget]
    exact .refl _
  headers slot hslot := htarget ▸ h.headers slot (hsub hslot)

/-- Acks are dropped. -/
theorem drop (h : Placed dataBuffer s) (htarget : s'.target = s.target)
    (htaken : s'.taken = s.taken) (hsub : s'.staging ⊆ s.staging)
    (hheld : ∀ p, (s'.held p).Sublist (s.held p)) : Placed dataBuffer s' where
  target := htarget ▸ h.target
  issues := htarget ▸ h.issues
  places := h.places.drop hheld
  delivered p key hkey := by
    refine (h.delivered p key ((hheld p).subset hkey)).advances ?_ (htaken ▸ fun _ => id)
    rw [htarget]
    exact .refl _
  headers slot hslot := htarget ▸ h.headers slot (hsub hslot)

theorem driver (h : Placed dataBuffer s) {a : WriteTarget.Action} {target : WriteTarget}
    (hs : s.target.step dataBuffer a = some target) : Placed dataBuffer { s with target } :=
  h.advance (WriteTarget.step_advances hs) (WriteTarget.step_inv h.target hs)
    (WriteTarget.step_issues h.target h.issues hs) (funext fun p => by cases p <;> rfl) rfl
    fun _ => id

/-- The header of a slot names the fragment for which the slot was issued. -/
theorem header_eq (h : Placed dataBuffer s) {i : Nat} {x : IssuedSlot} {header : WriteSlotPayload}
    (hx : s.target.issued[i]? = some x) (hpayload : x.payload = .ok header) :
    (header.eventId, header.seq) = (x.eventId, x.seq) := by
  have hmem := List.mem_of_getElem? hx
  obtain ⟨request, hr, he⟩ := h.issues.owned _ hmem
  have hissued := ((h.target.safe.fragmented request hr).issued _ hmem he.symm).2
  rw [Except.ok.inj (hpayload.symm.trans hissued)]
  exact Prod.ext he rfl

/-- **A slot reaches a worker.** -/
theorem deliver (h : Placed dataBuffer s) {i : Nat} {allocated : Bool}
    (hs : s.deliver i allocated = some s') : Placed dataBuffer s' := by
  obtain ⟨x, header, hissued, hpayload, htaken, rfl | ⟨hvalid, rfl⟩⟩ := deliver_cases hs
  · exact h.advance (WriteTarget.Advances.refl _) h.target h.issues
      (funext fun p => by cases p <;> rfl) rfl fun _ => List.mem_cons_of_mem _
  have hmem := List.mem_of_getElem? hissued
  have hkey := h.header_eq hissued hpayload
  have hid : header.eventId ≠ 0 := by
    unfold WriteParams.validateWriteSlotHeader at hvalid
    simp only [Bool.and_eq_true, decide_eq_true_eq] at hvalid
    exact hvalid.1.1.1.1.1
  refine { h with places := ?_, delivered := fun p key hk => ?_, headers := fun slot hs => ?_ }
  · have hmint : Lib.Partition (Function.update s.held .staging
        ((x.eventId, x.seq) :: s.held .staging)) :=
      h.places.mint (h.fresh hissued htaken) (Function.update_self _ _ _)
        fun r hr => Function.update_of_ne hr _ _
    refine hmint.moves (.inl fun r => ?_)
    cases r with
    | staging =>
      rw [Function.update_self]
      show ((s.staging ++ [({ header, decided := _ } : StagingSlot)]).map slotKey).Perm _
      rw [List.map_append]
      refine List.perm_append_comm.trans (.of_eq ?_)
      exact congrArg (· :: s.staging.map slotKey) hkey
    | _ => exact .refl _
  · have hold : ∀ key ∈ s.held p, WritePlane.Delivered { s with
        taken := i :: s.taken
        track := (beginStage s.track header allocated).1
        staging := s.staging ++ [{
          header, decided := (beginStage s.track header allocated).2 }] } key := fun key hk =>
      (h.delivered p key hk).advances (WriteTarget.Advances.refl _)
        fun _ => List.mem_cons_of_mem _
    cases p with
    | staging =>
      rcases mem_map_concat hk with hk | rfl
      · exact hold key hk
      · exact ⟨i, List.mem_cons_self, _, hissued, hkey.symm⟩
    | _ => exact hold key hk
  · rcases List.mem_append.mp hs with hs | hs
    · exact h.headers slot hs
    · obtain rfl := List.mem_singleton.mp hs
      exact ⟨hid, _, hmem, hpayload, hkey.symm⟩

/-- **A fragment was staged.** -/
theorem stage (h : Placed dataBuffer s) {k : Nat} {status : NtStatus} {enqueued : Bool}
    (hs : s.stage k status enqueued = some s') : Placed dataBuffer s' := by
  obtain ⟨slot, hslot, rfl⟩ := Option.map_eq_some_iff.mp hs
  have hsub : s.staging.eraseIdx k ⊆ s.staging := (List.eraseIdx_sublist _ _).subset
  cases enqueued with
  | false =>
    refine h.drop rfl rfl hsub fun p => ?_
    cases p with
    | staging => exact (List.eraseIdx_sublist _ _).map _
    | _ => exact .refl _
  | true =>
    refine h.moves rfl rfl hsub (.inr ⟨.staging, .queued, nofun, ?_, fun r h1 h2 => ?_⟩)
    · show ((s.staging.eraseIdx k).map slotKey ++ (s.writeAcks ++ [_]).map rangeKey).Perm
        (s.staging.map slotKey ++ s.writeAcks.map rangeKey)
      have hcount := (QueueState.cons_eraseIdx_perm hslot).map slotKey
      refine List.perm_iff_count.mpr fun key => ?_
      have hkey := hcount.count_eq key
      simp only [List.map_append, List.map_cons, List.map_nil, List.count_append, List.count_cons,
        List.count_nil, rangeKey, slotKey] at hkey ⊢
      omega
    · cases r with
      | staging => exact absurd rfl h1
      | queued => exact absurd rfl h2
      | _ => rfl

/-- `stage_write` has returned. -/
theorem setDecided (h : Placed dataBuffer s) {k : Nat} {slot slot' : StagingSlot}
    (hslot : s.staging[k]? = some slot) (hheader : slot'.header = slot.header) :
    Placed dataBuffer { s with staging := s.staging.set k slot' } := by
  have hkeys : (s.staging.set k slot').map slotKey = s.staging.map slotKey :=
    QueueState.map_set_eq hslot (by unfold slotKey; rw [hheader])
  have hheld : ({ s with staging := s.staging.set k slot' } : WritePlane).held = s.held := by
    funext p
    cases p with
    | staging => exact hkeys
    | _ => rfl
  refine { h with
    places := hheld ▸ h.places
    delivered := fun p key hkey => h.delivered p key (hheld ▸ hkey)
    headers := fun x hx => ?_ }
  rcases List.mem_or_eq_of_mem_set hx with hx | rfl
  · exact h.headers x hx
  · rw [hheader]
    exact h.headers slot (List.mem_of_getElem? hslot)

/-- The flusher drops what it holds. -/
theorem shutDown (h : Placed dataBuffer s) : Placed dataBuffer s.shutDown := by
  refine h.drop rfl rfl (fun _ => id) fun p => ?_
  cases p with
  | queued => exact List.nil_sublist _
  | payload => exact List.nil_sublist _
  | _ => exact .refl _

/-- The ranges are where they were. -/
theorem setFlush (h : Placed dataBuffer s) {flush : WriteAckFlush}
    (hpayload : flush.payload = s.flush.payload) : Placed dataBuffer { s with flush } := by
  refine h.moves rfl rfl (fun _ => id) (.inl fun p => ?_)
  cases p with
  | payload => exact .of_eq (congrArg (List.map rangeKey) hpayload)
  | _ => exact .refl _

theorem steal (h : Placed dataBuffer s) (hs : s.steal = some s') : Placed dataBuffer s' := by
  obtain ⟨-, hflush, rfl⟩ := steal_cases hs
  have hnone : s.held .payload = [] := by
    show s.flush.payload.map rangeKey = []
    rw [hflush]
    rfl
  refine h.moves rfl rfl (fun _ => id) (.inr ⟨.queued, .payload, nofun, ?_, fun r h1 h2 => ?_⟩)
  · rw [hnone, List.append_nil]
    show ((s.writeAcks.drop s.params.ackBatchMaxRanges).map rangeKey ++
      (s.writeAcks.take s.params.ackBatchMaxRanges).map rangeKey).Perm
        (s.writeAcks.map rangeKey)
    refine List.perm_append_comm.trans (.of_eq ?_)
    rw [← List.map_append, List.take_append_drop]
  · cases r with
    | queued => exact absurd rfl h1
    | payload => exact absurd rfl h2
    | _ => rfl

theorem send (h : Placed dataBuffer s) (hs : s.send = some s') : Placed dataBuffer s' := by
  obtain ⟨ranges, hflush, rfl⟩ := send_cases hs
  exact h.setFlush (by rw [hflush]; rfl)

theorem reply (h : Placed dataBuffer s) (hs : s.reply = some s') : Placed dataBuffer s' := by
  obtain ⟨ranges, failures, hflush, rfl⟩ := reply_cases hs
  exact h.setFlush (by rw [hflush]; rfl)

theorem handle (h : Placed dataBuffer s) (hs : s.handle = some s') : Placed dataBuffer s' := by
  obtain ⟨ranges, index, failures, range, hflush, -, rfl⟩ := handle_cases hs
  refine h.advance (WriteTarget.ackRange_advances _ _) (h.target.ackRange range)
    (WriteTarget.step_issues h.target h.issues (a := .ackRange range) rfl) (funext fun p => ?_) rfl
    fun _ => id
  cases p with
  | payload =>
    show ranges.map rangeKey = s.flush.payload.map rangeKey
    rw [hflush]
    rfl
  | _ => rfl

/-- **A batch may have to be sent again.** -/
theorem fail (h : Placed dataBuffer s) {status : NtStatus} (hs : s.fail status = some s') :
    Placed dataBuffer s' := by
  rcases fail_cases hs with ⟨-, rfl⟩ | ⟨-, rfl⟩
  · exact h.shutDown
  · exact h.setFlush rfl

/-- The result of the next range is applied. -/
theorem applied_one (h : Placed dataBuffer s) {ranges : List WriteAckRange}
    {failures : List WriteAckFailure} {index : Nat} {range : WriteAckRange}
    (hflush : s.flush = .applying ranges failures index) (hr : ranges[index]? = some range)
    (track : WriteTrack) (success shuttingDown : Bool) : Placed dataBuffer { s with
      track
      applied := s.applied ++ [{ eventId := range.eventId, seq := range.seqBase, success }]
      flush := .applying ranges failures (index + 1)
      shuttingDown } := by
  have hpayload := payload_applying hflush hr
  refine h.moves rfl rfl (fun _ => id) (.inr ⟨.payload, .applied, nofun, ?_, fun r h1 h2 => ?_⟩)
  · show ((ranges.drop (index + 1)).map rangeKey ++ (s.applied ++ [_]).map fragKey).Perm
      (s.flush.payload.map rangeKey ++ s.applied.map fragKey)
    rw [hpayload]
    refine List.perm_iff_count.mpr fun key => ?_
    simp only [List.map_append, List.map_cons, List.map_nil, List.count_append, List.count_cons,
      List.count_nil, fragKey, rangeKey]
    omega
  · cases r with
    | payload => exact absurd rfl h1
    | applied => exact absurd rfl h2
    | _ => rfl

theorem apply (h : Placed dataBuffer s) {push : NtStatus} {allocated : Bool}
    (hs : s.apply push allocated = some s') : Placed dataBuffer s' := by
  obtain ⟨ranges, failures, index, hflush, ⟨hnone, rfl⟩ | ⟨range, hr, ⟨-, rfl⟩ | ⟨-, rfl⟩⟩⟩ :=
    apply_cases hs
  · exact h.setFlush (payload_applied hflush hnone).symm
  · exact h.applied_one hflush hr _ _ _
  · exact (h.applied_one hflush hr _ _ true).shutDown

theorem noticeStop (h : Placed dataBuffer s) (hs : s.noticeStop = some s') :
    Placed dataBuffer s' := by
  rcases noticeStop_cases hs with ⟨-, rfl⟩ | rfl
  · exact h.shutDown
  · refine h.drop rfl rfl (fun _ => id) fun p => ?_
    cases p with
    | queued => exact List.nil_sublist _
    | _ => exact .refl _

end Placed

/-! ## Runs -/

/-- **One step.** -/
theorem step_placed {a : Action} (h : Placed dataBuffer s) (hs : s.step dataBuffer a = some s') :
    Placed dataBuffer s' := by
  cases a with
  | driver a =>
    obtain ⟨-, target, htarget, rfl⟩ := driver_cases hs
    exact h.driver htarget
  | deliver i allocated => exact h.deliver hs
  | stage k status enqueued => exact h.stage hs
  | steal => exact h.steal hs
  | send => exact h.send hs
  | handle => exact h.handle hs
  | reply => exact h.reply hs
  | fail status => exact h.fail hs
  | apply push allocated => exact h.apply hs
  | requestStop =>
    cases hs
    exact { h with }
  | noticeStop => exact h.noticeStop hs

/-- What a step does to the driver and to the records. -/
structure Frame (dataBuffer : Nat → Bytes) (s : WritePlane) (a : Action) (s' : WritePlane) :
    Prop where
  /-- The driver takes at most one step, and a WRITE is admitted as one. -/
  target : s'.target = s.target ∨ ∃ b, s.target.step dataBuffer b = some s'.target ∧
    ∀ lba blockCount dataLength, b = .queueWrite lba blockCount dataLength → a = .driver b
  track : s'.track = s.track ∨
    (∃ header allocated, s'.track = (beginStage s.track header allocated).1) ∨
    ∃ range status push allocated,
      s'.track = (s.track.applyWriteAckResult range status push allocated).1

/-- The sections that are neither the driver's nor about the records. -/
theorem Frame.same {a : Action} (h : s'.target = s.target ∧ s'.track = s.track) :
    Frame dataBuffer s a s' := ⟨.inl h.1, .inl h.2⟩

/-- **One step.** -/
theorem step_frame {a : Action} (hs : s.step dataBuffer a = some s') : Frame dataBuffer s a s' := by
  cases a with
  | driver a =>
    obtain ⟨-, target, htarget, rfl⟩ := driver_cases hs
    exact ⟨.inr ⟨a, htarget, fun _ _ _ _ => rfl⟩, .inl rfl⟩
  | deliver i allocated =>
    obtain ⟨_, header, -, -, -, rfl | ⟨-, rfl⟩⟩ := deliver_cases hs
    · exact .same ⟨rfl, rfl⟩
    · exact ⟨.inl rfl, .inr (.inl ⟨header, allocated, rfl⟩)⟩
  | stage k status enqueued =>
    obtain ⟨slot, -, rfl⟩ := Option.map_eq_some_iff.mp hs
    exact .same ⟨rfl, rfl⟩
  | steal =>
    obtain ⟨-, -, rfl⟩ := steal_cases hs
    exact .same ⟨rfl, rfl⟩
  | send =>
    obtain ⟨_, -, rfl⟩ := send_cases hs
    exact .same ⟨rfl, rfl⟩
  | handle =>
    obtain ⟨_, _, _, range, -, -, rfl⟩ := handle_cases hs
    exact ⟨.inr ⟨.ackRange range, rfl, nofun⟩, .inl rfl⟩
  | reply =>
    obtain ⟨_, _, -, rfl⟩ := reply_cases hs
    exact .same ⟨rfl, rfl⟩
  | fail status =>
    rcases fail_cases hs with ⟨-, rfl⟩ | ⟨-, rfl⟩
    · exact .same ⟨rfl, rfl⟩
    · exact .same ⟨rfl, rfl⟩
  | apply push allocated =>
    obtain ⟨_, _, _, -, ⟨-, rfl⟩ | ⟨range, -, ⟨-, rfl⟩ | ⟨-, rfl⟩⟩⟩ := apply_cases hs
    · exact .same ⟨rfl, rfl⟩
    · exact ⟨.inl rfl, .inr (.inr ⟨range, _, push, allocated, rfl⟩)⟩
    · exact ⟨.inl rfl, .inr (.inr ⟨range, _, push, allocated, rfl⟩)⟩
  | requestStop =>
    cases hs
    exact .same ⟨rfl, rfl⟩
  | noticeStop =>
    rcases noticeStop_cases hs with ⟨-, rfl⟩ | rfl
    · exact .same ⟨rfl, rfl⟩
    · exact .same ⟨rfl, rfl⟩

theorem placed_init (dataBuffer : Nat → Bytes) (params : WriteParams) (queueDepth : Nat) :
    Placed dataBuffer (init params queueDepth) where
  target := WriteTarget.inv_init dataBuffer params.sectorSize
  issues := WriteTarget.issues_init params.sectorSize
  places := ⟨fun p => by cases p <;> exact .nil, fun p q x hx => by cases p <;> cases hx⟩
  delivered := fun p key hkey => by cases p <;> cases hkey
  headers := nofun

end WritePlane

end YumeDisk.AppKernel
