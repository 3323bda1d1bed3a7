import YumeDisk.Miniport.WriteHistory

/-!
# The shape of the queues of a target (`queue/queue.c`, `queue/read/read.c`, `queue/slot/slot.c`)

* `ReadTarget`: the reads of a target, with the counters that the code keeps of its lists.
* `TargetQueue`: the reads and the writes, which have a lock each.
* `QueueShape`, `queue_shape`: **the result**: the sizes and the counters agree with the lists in every
  state of every run, and every sequence number that is reserved is written into its slot.
-/

namespace YumeDisk.Miniport

open Lib (Bytes)

/-! ## Reads -/

structure ReadTarget where
  queue : QueueState := {}
  postedReadSlotCount : Nat := 0
  pendingReadCount : Nat := 0
  pendingReadIssuedCount : Nat := 0

namespace ReadTarget

/-- The section of `DiskQueueReadSrb`. -/
def queueReadSrb (s : ReadTarget) (srb eventId lba blockCount dataLength : Nat) : ReadTarget :=
  { s with
    queue := s.queue.insertRead (allocReadRequest srb eventId lba blockCount dataLength)
    pendingReadCount := s.pendingReadCount + 1 }

/-- The section of `DiskHandleSubmitSlotIoctl` for a read slot. -/
def submitSlot (s : ReadTarget) (slot : PostedSlot) : ReadTarget :=
  { s with
    queue := s.queue.insertReadSlot slot
    postedReadSlotCount := s.postedReadSlotCount + 1 }

/-- One turn of `DiskDrainReadSlots`. -/
def drain (s : ReadTarget) : ReadTarget :=
  match s.queue.reserveRead with
  | none => s
  | some (queue, _, _) =>
    { s with
      queue
      postedReadSlotCount := s.postedReadSlotCount - 1
      pendingReadIssuedCount := s.pendingReadIssuedCount + 1 }

/-- The section of `DiskHandleReadAckIoctl`. -/
def readAck (s : ReadTarget) (eventId : Nat) : ReadTarget :=
  match s.queue.takeRead eventId with
  | none => s
  | some (queue, request) =>
    { s with
      queue
      pendingReadCount := s.pendingReadCount - 1
      pendingReadIssuedCount :=
        if request.slotIssued ∧ s.pendingReadIssuedCount ≠ 0 then
          s.pendingReadIssuedCount - 1
        else
          s.pendingReadIssuedCount }

/-- The section of `DiskHandleCancelSlotIoctl` for a read slot. -/
def cancelSlot (s : ReadTarget) (slotId : Nat) : ReadTarget :=
  match QueueState.removePostedSlotById s.queue.postedReadSlots slotId with
  | none => s
  | some _ =>
    { s with
      queue := s.queue.cancelReadSlot slotId
      postedReadSlotCount := s.postedReadSlotCount - 1 }

/-- The first section of `DiskCompleteTargetPendingInternal`. -/
def sweepReads (s : ReadTarget) : ReadTarget := { queue := s.queue.sweepReads.1 }

inductive Action
  | queueRead (srb eventId lba blockCount dataLength : Nat)
  | submitSlot (slot : PostedSlot)
  | drain
  | readAck (eventId : Nat)
  | cancelSlot (slotId : Nat)
  | sweep

def step (s : ReadTarget) : Action → ReadTarget
  | .queueRead srb eventId lba blockCount dataLength =>
    s.queueReadSrb srb eventId lba blockCount dataLength
  | .submitSlot slot => s.submitSlot slot
  | .drain => s.drain
  | .readAck eventId => s.readAck eventId
  | .cancelSlot slotId => s.cancelSlot slotId
  | .sweep => s.sweepReads

/-- The counters are those of the lists. -/
structure Counted (s : ReadTarget) : Prop where
  slots : s.postedReadSlotCount = s.queue.postedReadSlots.length
  pending : s.pendingReadCount = s.queue.pendingReads.length
  issued : s.pendingReadIssuedCount = s.queue.pendingReads.countP ReadRequest.slotIssued

end ReadTarget

/-! ## The queues of a target -/

structure TargetQueue where
  reads : ReadTarget := {}
  writes : WriteTarget

namespace TargetQueue

inductive Action
  | read (a : ReadTarget.Action)
  | write (a : WriteTarget.Action)
  /-- `DiskResetQueueTargetState`: the lists are emptied, and nothing is completed. -/
  | resetQueueTargetState

/-- One section. -/
def step (dataBuffer : Nat → Bytes) (s : TargetQueue) : Action → Option TargetQueue
  | .read a => some { s with reads := s.reads.step a }
  | .write a => (s.writes.step dataBuffer a).map fun writes => { s with writes }
  | .resetQueueTargetState => some { reads := {}, writes := { s.writes with queue := {} } }

/-- A target just created. -/
def init (sectorSize : Nat) : TargetQueue := { writes := .init sectorSize }

/-- What is promised of the queues. -/
structure QueueShape (s : TargetQueue) : Prop where
  reads : s.reads.Counted
  slotCount : s.writes.queue.postedWriteSlotCount = s.writes.queue.postedWriteSlots.length
  writeCount : s.writes.queue.pendingWriteCount = s.writes.queue.pendingWrites.length
  slots : ∀ slot ∈ s.writes.queue.postedWriteSlots,
    computeWritePayloadBytes s.writes.sectorSize slot.capacity =
      s.writes.queue.writeSlotPayloadBytes
  /-- A request is not fragmented before it is looked at with a shape. -/
  requests : ∀ request ∈ s.writes.queue.pendingWrites, request.payloadBytes ≠ 0 →
    request.payloadBytes = s.writes.queue.writeSlotPayloadBytes
  /-- No payload write has failed. -/
  written : ∀ x ∈ s.writes.issued, ∃ payload, x.payload = .ok payload
  /-- What is reserved of a request is in a slot. -/
  reserved : ∀ request ∈ s.writes.queue.pendingWrites, ∀ seq < request.nextIssueSeq,
    ∃ x ∈ s.writes.issued, x.eventId = request.eventId ∧ x.seq = seq ∧
      ∃ payload, x.payload = .ok payload

end TargetQueue

/-! ## The counters of the reads -/

namespace ReadTarget

variable {s : ReadTarget}

theorem length_removePostedSlotById {slots rest : List PostedSlot} {slotId : Nat}
    (h : QueueState.removePostedSlotById slots slotId = some rest) :
    rest.length = slots.length - 1 := by
  obtain ⟨i, hfind, rfl⟩ := Option.map_eq_some_iff.mp h
  obtain ⟨hlt, -⟩ := List.findIdx?_eq_some_iff_getElem.mp hfind
  exact List.length_eraseIdx_of_lt hlt

/-- A turn of the drain takes the first slot. -/
theorem reserveRead_slots {q q' : QueueState} {request : ReadRequest} {slot : PostedSlot}
    (h : q.reserveRead = some (q', request, slot)) :
    q.postedReadSlots = slot :: q'.postedReadSlots := by
  unfold QueueState.reserveRead at h
  split at h
  · next i slot' slots hfind hslots =>
    obtain ⟨r, hr, h⟩ := Option.map_eq_some_iff.mp h
    cases h
    exact hslots
  · cases h

theorem takeRead_slots {q q' : QueueState} {eventId : Nat} {request : ReadRequest}
    (h : q.takeRead eventId = some (q', request)) : q'.postedReadSlots = q.postedReadSlots := by
  obtain ⟨i, -, h⟩ := Option.bind_eq_some_iff.mp h
  obtain ⟨r, hr, h⟩ := Option.map_eq_some_iff.mp h
  cases h
  rfl

theorem Counted.drain (h : Counted s) : Counted s.drain := by
  rw [ReadTarget.drain]
  cases hres : s.queue.reserveRead with
  | none => exact h
  | some r =>
    obtain ⟨queue, request, slot⟩ := r
    obtain ⟨i, hi, hissued, hpending⟩ := QueueState.reserveRead_spec hres
    refine ⟨?_, ?_, ?_⟩
    · show s.postedReadSlotCount - 1 = queue.postedReadSlots.length
      rw [h.slots, reserveRead_slots hres]
      rfl
    · show s.pendingReadCount = queue.pendingReads.length
      rw [h.pending, hpending, List.length_set]
    · show s.pendingReadIssuedCount + 1 = queue.pendingReads.countP ReadRequest.slotIssued
      obtain ⟨hlt, hget⟩ := List.getElem?_eq_some_iff.mp hi
      rw [h.issued, hpending, List.countP_set hlt, hget, hissued]
      rfl

theorem Counted.readAck (h : Counted s) (eventId : Nat) : Counted (s.readAck eventId) := by
  rw [ReadTarget.readAck]
  cases htake : s.queue.takeRead eventId with
  | none => exact h
  | some r =>
    obtain ⟨queue, request⟩ := r
    obtain ⟨i, hi, -, hpending⟩ := QueueState.takeRead_spec htake
    obtain ⟨hlt, -⟩ := List.getElem?_eq_some_iff.mp hi
    have hcount : s.queue.pendingReads.countP ReadRequest.slotIssued =
        queue.pendingReads.countP ReadRequest.slotIssued + request.slotIssued.toNat := by
      have hperm := QueueState.cons_eraseIdx_perm hi
      rw [← hperm.countP_eq, List.countP_cons, hpending]
      cases request.slotIssued <;> rfl
    refine ⟨?_, ?_, ?_⟩
    · show s.postedReadSlotCount = queue.postedReadSlots.length
      rw [h.slots, takeRead_slots htake]
    · show s.pendingReadCount - 1 = queue.pendingReads.length
      rw [h.pending, hpending, List.length_eraseIdx_of_lt hlt]
    · show (if request.slotIssued = true ∧ s.pendingReadIssuedCount ≠ 0 then _ else _) = _
      rw [← h.issued] at hcount
      cases hissued : request.slotIssued with
      | false =>
        rw [hissued] at hcount
        rw [if_neg (by simp)]
        exact hcount
      | true =>
        rw [hissued] at hcount
        rw [if_pos ⟨rfl, by simp [hcount]⟩, hcount]
        rfl

theorem Counted.cancelSlot (h : Counted s) (slotId : Nat) : Counted (s.cancelSlot slotId) := by
  rw [ReadTarget.cancelSlot]
  cases hremove : QueueState.removePostedSlotById s.queue.postedReadSlots slotId with
  | none => exact h
  | some slots =>
    have hcancel : s.queue.cancelReadSlot slotId = { s.queue with postedReadSlots := slots } := by
      rw [QueueState.cancelReadSlot, hremove]
    refine ⟨?_, ?_, ?_⟩
    · show s.postedReadSlotCount - 1 = (s.queue.cancelReadSlot slotId).postedReadSlots.length
      rw [hcancel, h.slots]
      exact (length_removePostedSlotById hremove).symm
    · show s.pendingReadCount = (s.queue.cancelReadSlot slotId).pendingReads.length
      rw [hcancel]
      exact h.pending
    · show s.pendingReadIssuedCount = (s.queue.cancelReadSlot slotId).pendingReads.countP _
      rw [hcancel]
      exact h.issued

/-- **The counters** stay those of the lists. -/
theorem step_counted (h : Counted s) (a : Action) : Counted (s.step a) := by
  cases a with
  | queueRead srb eventId lba blockCount dataLength =>
    refine ⟨h.slots, ?_, ?_⟩
    · show s.pendingReadCount + 1 = (s.queue.pendingReads ++ [_]).length
      rw [h.pending, List.length_append]
      rfl
    · show s.pendingReadIssuedCount = (s.queue.pendingReads ++ [_]).countP _
      rw [h.issued, List.countP_append]
      rfl
  | submitSlot slot =>
    refine ⟨?_, h.pending, h.issued⟩
    show s.postedReadSlotCount + 1 = (s.queue.postedReadSlots ++ [slot]).length
    rw [h.slots, List.length_append]
    rfl
  | drain => exact h.drain
  | readAck eventId => exact h.readAck eventId
  | cancelSlot slotId => exact h.cancelSlot slotId
  | sweep => exact ⟨rfl, rfl, rfl⟩

end ReadTarget

/-! ## Runs -/

namespace TargetQueue

variable {dataBuffer : Nat → Bytes} {sectorSize : Nat} {s s' : TargetQueue}

/-- The invariant of the sections. -/
structure Inv (dataBuffer : Nat → Bytes) (s : TargetQueue) : Prop where
  reads : s.reads.Counted
  writes : s.writes.Inv dataBuffer
  written : ∀ x ∈ s.writes.issued, ∃ payload, x.payload = .ok payload

/-- A slot that is filled for a request of the target has its fragment. -/
theorem written_of_owns {w : WriteTarget} (h : w.Inv dataBuffer) {x : IssuedSlot}
    (hx : x ∈ w.issued) (howns : w.Owns x.eventId) : ∃ payload, x.payload = .ok payload := by
  obtain ⟨request, hr, hid⟩ := howns
  exact ⟨_, ((h.kept hr).recorded.slots x hx hid.symm).2⟩

theorem drain_owns {w : WriteTarget} {x : IssuedSlot} (hx : x ∈ (w.drain dataBuffer).issued) :
    x ∈ w.issued ∨ (w.drain dataBuffer).Owns x.eventId := by
  have hout := QueueState.reserveWrite_outcome w.queue
  revert hx
  unfold WriteTarget.drain
  generalize w.queue.reserveWrite = out at hout
  cases hout with
  | idle requests hinit => exact .inl
  | reserved requests hinit i request slot slots hrequest hseq hslots =>
    intro hx
    rcases List.mem_append.mp hx with hx | hx
    · exact .inl hx
    · obtain rfl := List.mem_singleton.mp hx
      refine .inr ⟨{ request with nextIssueSeq := request.nextIssueSeq + 1 }, ?_, rfl⟩
      simp only [WriteTarget.requests, List.mem_append]
      have hi := (List.getElem?_eq_some_iff.mp hrequest).1
      exact .inl (.inl (.inr (List.mem_set hi _)))

/-- The queue of the writes is emptied. -/
theorem resetQueue_inv {w : WriteTarget} (h : w.Inv dataBuffer) :
    WriteTarget.Inv dataBuffer { w with queue := {} } := by
  have hsub : List.Sublist (WriteTarget.requests { w with queue := {} }) w.requests := by
    simp only [WriteTarget.requests, List.append_assoc]
    exact (List.Sublist.refl _).append ((List.nil_sublist _).append (List.Sublist.refl _))
  refine ⟨⟨?_, ?_, fun request hr => h.keys.old request (hsub.subset hr)⟩,
    ⟨rfl, rfl, ?_, fun _ he => absurd he List.not_mem_nil⟩, h.oldIssued, h.oldAcked, h.arriving,
    fun _ he => absurd he List.not_mem_nil, h.finished⟩
  · exact h.keys.events.sublist (hsub.map _)
  · exact h.keys.srbs.sublist (hsub.map _)
  · exact Nat.dvd_zero _ |>.trans dvd_rfl

theorem step_inv {a : Action} (h : Inv dataBuffer s) (hs : s.step dataBuffer a = some s') :
    Inv dataBuffer s' := by
  cases a with
  | read a =>
    cases hs
    exact ⟨ReadTarget.step_counted h.reads a, h.writes, h.written⟩
  | write a =>
    obtain ⟨w, hw, rfl⟩ := Option.map_eq_some_iff.mp hs
    have hinv := WriteTarget.step_inv h.writes hw
    refine ⟨h.reads, hinv, fun x hx => ?_⟩
    by_cases ha : a = .drain
    · subst ha
      cases hw
      rcases drain_owns hx with hold | howns
      · exact h.written x hold
      · exact written_of_owns hinv hx howns
    · exact h.written x (((WriteTarget.step_kept hw).2.1 ha) ▸ hx)
  | resetQueueTargetState =>
    cases hs
    exact ⟨⟨rfl, rfl, rfl⟩, resetQueue_inv h.writes, h.written⟩

theorem Inv.queueShape (h : Inv dataBuffer s) : QueueShape s where
  reads := h.reads
  slotCount := h.writes.slots.slotCount
  writeCount := h.writes.slots.writeCount
  slots slot hslot := (h.writes.slots.slots slot hslot).2.2.2
  requests request hr := (h.writes.pending request hr).2.shape
  written := h.written
  reserved request hr seq hseq := by
    obtain ⟨x, hx, hid, hxseq⟩ := (h.writes.pending request hr).1.recorded.all seq hseq
    exact ⟨x, hx, hid, hxseq, h.written x hx⟩

/-- **The sizes and the counters of a target's queues** agree with its lists in every state of every
run, no payload write fails, and no sequence number that is reserved is lost. -/
theorem queue_shape {as : List Action}
    (h : Lib.runFrom (step dataBuffer) (init sectorSize) as = some s) : QueueShape s := by
  have hinit : Inv dataBuffer (init sectorSize) :=
    ⟨⟨rfl, rfl, rfl⟩, WriteTarget.inv_init dataBuffer sectorSize, nofun⟩
  exact (Lib.run_inv (fun _ _ _ h hs => step_inv h hs) hinit h).queueShape

/-- A read is issued, two writes wait, the first gets a slot, and a slot of another shape is
refused. -/
def twoShapes : List Action :=
  [.read (.queueRead 9 1 0 1 512), .read (.submitSlot ⟨8, 1, 4096, 32⟩), .read .drain,
    .write (.queueWrite 0 2 1024), .write (.insert 0), .write (.queueWrite 8 1 512),
    .write (.insert 0), .write (.submitSlot 0 1 4096 560), .write .drain,
    .write (.submitSlot 1 2 4096 1072), .write (.submitSlot 2 3 4096 600)]

theorem twoShapes_shape :
    ∃ s, Lib.runFrom (step fun _ => []) (init 512) twoShapes = some s ∧ QueueShape s ∧
      s.writes.queue.postedWriteSlots.length = 1 ∧ s.writes.queue.writeSlotPayloadBytes = 512 := by
  obtain ⟨s, hs, hp⟩ := Lib.exists_run (step fun _ => []) (init 512) twoShapes
    (fun s => decide (s.writes.queue.postedWriteSlots.length = 1 ∧
      s.writes.queue.writeSlotPayloadBytes = 512)) (by decide)
  exact ⟨s, hs, queue_shape hs, of_decide_eq_true hp⟩

end TargetQueue

end YumeDisk.Miniport
