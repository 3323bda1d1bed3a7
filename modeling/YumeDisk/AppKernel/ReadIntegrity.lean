import YumeDisk.AppKernel.ReadPlane
import YumeDisk.Lib.Run
import YumeDisk.Lib.Update

/-!
# The driver copies what `read_bytes` returned

* `ReadIntegrity`: what is promised of the copied bytes.
* `Unshared`: the condition on a step: no buffer is read into while an ack whose read the driver is
  still to copy refers to it.
* `WorkerInv`, `Inv`: what holds of the buffers of a worker, and of the events.
* `Keeps`: a worker leaves the acks alone that the driver has.
-/

namespace YumeDisk.AppKernel

open Miniport

/-! ## Statement -/

/-- **Read integrity**: for each event there is one result of `read_bytes` at most, and what the
driver copied for it are those bytes. -/
def ReadIntegrity (p : ReadPlane) : Prop :=
  (p.returned.map Prod.fst).Nodup ∧
    ∀ eventId content, (eventId, content) ∈ p.copied →
      ∃ bytes, content = some bytes ∧ (eventId, bytes) ∈ p.returned

namespace ReadAckContext

/-- The ack has bytes for the driver to copy. -/
def hasData (ack : ReadAckContext) : Bool :=
  ack.hasPayload && ntSuccess ack.ioStatus && ack.dataLength ≠ 0

end ReadAckContext

namespace ReadSlot

def hasData (slot : ReadSlot) : Bool :=
  slot.ackPending && ntSuccess slot.ioStatus && slot.dataLength ≠ 0

end ReadSlot

namespace ReadWorker

/-- The buffer of slot `i` is written when it is filled with `event`. -/
def writes (w : ReadWorker) (sectorSize i : Nat) (event : ReadSlotEvent) (allocated : Bool) : Bool :=
  validateReadSlotEvent sectorSize event && event.dataLength ≠ 0 &&
    (event.dataLength ≤ (w.slots i).readDataCapacity || allocated)

/-- An ack of a read in `pending` refers to the buffer of slot `i`. -/
def shares (w : ReadWorker) (pending : List Nat) (i : Nat) : Bool :=
  (List.range w.slotCount).any fun k =>
    (w.acks k).hasData && (w.acks k).dataBuffer == some (w.slots i).readDataBuffer &&
      pending.contains (w.acks k).eventId

end ReadWorker

/-- The condition on a step: a slot is not filled while an ack refers to its buffer whose read is
still pending in the driver, or taken off the queue and not yet copied. -/
def Unshared (sectorSize : Nat) (p : ReadPlane) : ReadAction → Prop
  | .slotDone n i _ allocated _ =>
    ∀ event, p.slotReply ((p.workers n).slots i).slotId = some (.ok event) →
      (p.workers n).writes sectorSize i event allocated = true →
      (p.workers n).shares p.unread i = false
  | _ => True

/-! ## The buffers of a worker -/

namespace ReadWorker

/-- The buffer holds the bytes. -/
def Holds (w : ReadWorker) (address : Nat) (bytes : List UInt8) : Prop :=
  ∃ content, w.memory address = some content ∧ content.take bytes.length = bytes

/-- The payload `(eventId, length)` at a buffer: `read_bytes` returned bytes of that length, and the
buffer holds them as long as the read is pending. -/
def Payload (w : ReadWorker) (returned : List (Nat × List UInt8)) (pending : List Nat)
    (eventId length address : Nat) : Prop :=
  ∃ bytes, (eventId, bytes) ∈ returned ∧ bytes.length = length ∧
    (eventId ∈ pending → w.pc ≠ .closed → w.Holds address bytes)

end ReadWorker

/-- An ack context of the worker `w`. -/
structure AckInv (returned : List (Nat × List UInt8)) (pending : List Nat) (w : ReadWorker) (k : Nat)
    (ack : ReadAckContext) : Prop where
  carried : ack.active = true → ack.hasPayload = true
  used : ack.hasPayload = true → k < w.slotCount
  below : ∀ a, ack.dataBuffer = some a → a < w.nextAddress
  data : ack.hasData = true →
    ∃ a, ack.dataBuffer = some a ∧ w.Payload returned pending ack.eventId ack.dataLength a
  closed : w.pc = .closed → ack.active = false

/-- A slot of the worker `w`. -/
structure SlotInv (returned : List (Nat × List UInt8)) (pending : List Nat) (w : ReadWorker) (i : Nat)
    (slot : ReadSlot) : Prop where
  used : slot.active = true ∨ slot.ackPending = true → i < w.slotCount
  exclusive : slot.active = true → slot.ackPending = false
  below : i < w.slotCount → slot.readDataBuffer < w.nextAddress
  data : slot.hasData = true →
    w.Payload returned pending slot.event.eventId slot.dataLength slot.readDataBuffer

theorem SlotInv.lt_of_hasData {i : Nat} {slot : ReadSlot} {returned : List (Nat × List UInt8)}
    {pending : List Nat} {w : ReadWorker} (h : SlotInv returned pending w i slot)
    (hd : slot.hasData = true) : i < w.slotCount := by
  simp only [ReadSlot.hasData, Bool.and_eq_true] at hd
  exact h.used (.inr hd.1.1)

/-- The buffers of the slots differ, and each context with data has what `read_bytes` returned. -/
structure WorkerInv (returned : List (Nat × List UInt8)) (pending : List Nat) (w : ReadWorker) :
    Prop where
  distinct : ∀ i j, i < w.slotCount → j < w.slotCount →
    (w.slots i).readDataBuffer = (w.slots j).readDataBuffer → i = j
  live : w.pc ≠ .closed → ∀ i, i < w.slotCount →
    (w.memory (w.slots i).readDataBuffer).isSome = true
  slots : ∀ i, SlotInv returned pending w i (w.slots i)
  acks : ∀ k, AckInv returned pending w k (w.acks k)

open ReadWorker

variable {returned returned' : List (Nat × List UInt8)} {pending pending' : List Nat}
  {w w' : ReadWorker}

theorem payload_carry {id length a : Nat} (h : w.Payload returned pending id length a)
    (hr : returned ⊆ returned')
    (hp : ∀ bytes, (id, bytes) ∈ returned → id ∈ pending' → w'.pc ≠ .closed →
      id ∈ pending ∧ w.pc ≠ .closed ∧ w'.memory a = w.memory a) :
    w'.Payload returned' pending' id length a := by
  obtain ⟨bytes, hmem, hlen, hhold⟩ := h
  refine ⟨bytes, hr hmem, hlen, fun hid hpc => ?_⟩
  obtain ⟨hid, hpc, hmemory⟩ := hp bytes hmem hid hpc
  obtain ⟨content, hcontent, htake⟩ := hhold hid hpc
  exact ⟨content, hmemory.trans hcontent, htake⟩

theorem AckInv.carry {k : Nat} {ack : ReadAckContext} (h : AckInv returned pending w k ack)
    (hr : returned ⊆ returned') (hcount : w'.slotCount = w.slotCount)
    (haddr : w.nextAddress ≤ w'.nextAddress)
    (hp : ack.hasData = true → ∀ a, ack.dataBuffer = some a → ∀ bytes,
      (ack.eventId, bytes) ∈ returned → ack.eventId ∈ pending' → w'.pc ≠ .closed →
        ack.eventId ∈ pending ∧ w.pc ≠ .closed ∧ w'.memory a = w.memory a)
    (hclosed : w'.pc = .closed → ack.active = false) : AckInv returned' pending' w' k ack where
  carried := h.carried
  used hk := hcount ▸ h.used hk
  below a ha := Nat.lt_of_lt_of_le (h.below a ha) haddr
  data hd := by
    obtain ⟨a, ha, hpay⟩ := h.data hd
    exact ⟨a, ha, payload_carry hpay hr (hp hd a ha)⟩
  closed := hclosed

theorem SlotInv.carry {i : Nat} {slot : ReadSlot} (h : SlotInv returned pending w i slot)
    (hr : returned ⊆ returned') (hcount : w'.slotCount = w.slotCount)
    (haddr : w.nextAddress ≤ w'.nextAddress)
    (hp : slot.hasData = true → ∀ bytes, (slot.event.eventId, bytes) ∈ returned →
      slot.event.eventId ∈ pending' → w'.pc ≠ .closed → slot.event.eventId ∈ pending ∧
        w.pc ≠ .closed ∧ w'.memory slot.readDataBuffer = w.memory slot.readDataBuffer) :
    SlotInv returned' pending' w' i slot where
  used hi := hcount ▸ h.used hi
  exclusive := h.exclusive
  below hi := Nat.lt_of_lt_of_le (h.below (hcount ▸ hi)) haddr
  data hd := payload_carry (h.data hd) hr (hp hd)

/-- The buffers are the same, and none has been freed. -/
structure SameBuffers (w w' : ReadWorker) : Prop where
  slotCount : w'.slotCount = w.slotCount
  nextAddress : w'.nextAddress = w.nextAddress
  memory : w'.memory = w.memory
  pc : w'.pc = .closed ↔ w.pc = .closed

namespace SameBuffers

theorem ack (hs : SameBuffers w w') {k : Nat} {ack : ReadAckContext}
    (h : AckInv returned pending w k ack) : AckInv returned pending w' k ack :=
  h.carry (List.Subset.refl _) hs.slotCount (Nat.le_of_eq hs.nextAddress.symm)
    (fun _ a _ _ _ hid hpc => ⟨hid, fun hc => hpc (hs.pc.mpr hc), congrFun hs.memory a⟩)
    fun hc => h.closed (hs.pc.mp hc)

theorem slot (hs : SameBuffers w w') {i : Nat} {slot : ReadSlot}
    (h : SlotInv returned pending w i slot) : SlotInv returned pending w' i slot :=
  h.carry (List.Subset.refl _) hs.slotCount (Nat.le_of_eq hs.nextAddress.symm)
    fun _ _ _ hid hpc => ⟨hid, fun hc => hpc (hs.pc.mpr hc), congrFun hs.memory _⟩

end SameBuffers

namespace WorkerInv

/-- More has been returned, and less is pending. -/
theorem mono (h : WorkerInv returned pending w) (hr : returned ⊆ returned')
    (hp : ∀ x bytes, (x, bytes) ∈ returned → x ∈ pending' → x ∈ pending) :
    WorkerInv returned' pending' w :=
  ⟨h.distinct, h.live,
    fun i => (h.slots i).carry hr rfl (Nat.le_refl _)
      fun _ bytes hb hid hpc => ⟨hp _ bytes hb hid, hpc, rfl⟩,
    fun k => (h.acks k).carry hr rfl (Nat.le_refl _)
      (fun _ _ _ bytes hb hid hpc => ⟨hp _ bytes hb hid, hpc, rfl⟩) (h.acks k).closed⟩

theorem start (slotCount slotBytes : Nat) :
    WorkerInv returned pending (ReadWorker.start slotCount slotBytes) where
  distinct i j _ _ hij := hij
  live _ i hi := by simp only [ReadWorker.start] at hi ⊢; rw [if_pos hi]; rfl
  slots i :=
    { used := by simp [ReadWorker.start], exclusive := fun _ => rfl, below := fun hi => hi
      data := by simp [ReadWorker.start, ReadSlot.hasData] }
  acks k :=
    { carried := nofun, used := nofun, below := by simp [ReadWorker.start]
      data := by simp [ReadWorker.start, ReadAckContext.hasData]
      closed := by simp [ReadWorker.start] }

/-- The contexts change, at the same buffers. -/
theorem contexts (h : WorkerInv returned pending w) (hs : SameBuffers w w')
    (hbuffer : ∀ i, (w'.slots i).readDataBuffer = (w.slots i).readDataBuffer)
    (hslots : ∀ i, SlotInv returned pending w i (w'.slots i))
    (hacks : ∀ k, AckInv returned pending w k (w'.acks k)) : WorkerInv returned pending w' where
  distinct i j hi hj he := by
    rw [hbuffer, hbuffer] at he
    exact h.distinct i j (hs.slotCount ▸ hi) (hs.slotCount ▸ hj) he
  live hpc i hi := by
    rw [hs.memory, hbuffer]
    exact h.live (fun hc => hpc (hs.pc.mpr hc)) i (hs.slotCount ▸ hi)
  slots i := hs.slot (hslots i)
  acks k := hs.ack (hacks k)

theorem setAck (h : WorkerInv returned pending w) {k : Nat} {ack : ReadAckContext}
    (hack : AckInv returned pending w k ack) : WorkerInv returned pending (w.setAck k ack) :=
  h.contexts ⟨rfl, rfl, rfl, .rfl⟩ (fun _ => rfl) h.slots
    ((Function.forall_update_iff w.acks fun l ack => AckInv returned pending w l ack).mpr
      ⟨hack, fun l _ => h.acks l⟩)

theorem setSlot (h : WorkerInv returned pending w) (i : Nat) (slot : ReadSlot)
    (hslot : SlotInv returned pending w i slot)
    (hbuffer : slot.readDataBuffer = (w.slots i).readDataBuffer) :
    WorkerInv returned pending (w.setSlot i slot) := by
  refine h.contexts ⟨rfl, rfl, rfl, .rfl⟩ (fun j => ?_)
    ((Function.forall_update_iff w.slots fun l slot => SlotInv returned pending w l slot).mpr
      ⟨hslot, fun l _ => h.slots l⟩) h.acks
  by_cases hj : j = i
  · subst hj
    simp [ReadWorker.setSlot, hbuffer]
  · simp [ReadWorker.setSlot, Function.update_of_ne hj]

/-- The loop goes on. -/
theorem setPc (h : WorkerInv returned pending w) (pc : ReadPc) (shuttingDown : Bool)
    (hpc : pc = .closed ↔ w.pc = .closed) :
    WorkerInv returned pending { w with pc, shuttingDown } :=
  h.contexts ⟨rfl, rfl, rfl, hpc⟩ (fun _ => rfl) h.slots h.acks

end WorkerInv

/-- A context without data. -/
theorem ackInv_of_reset {k : Nat} {ack' : ReadAckContext} (hactive : ack'.active = false)
    (hpayload : ack'.hasPayload = false)
    (hbuffer : ack'.dataBuffer = none) : AckInv returned pending w k ack' where
  carried ha := by rw [hactive] at ha; cases ha
  used hk := by rw [hpayload] at hk; cases hk
  below a ha := by rw [hbuffer] at ha; cases ha
  data hd := by simp [ReadAckContext.hasData, hpayload] at hd
  closed _ := hactive

theorem slotInv_of_not_pending {i : Nat} {slot slot' : ReadSlot}
    (h : SlotInv returned pending w i slot) (hused : slot'.active = true → i < w.slotCount)
    (hbuffer : slot'.readDataBuffer = slot.readDataBuffer) (hpending : slot'.ackPending = false) :
    SlotInv returned pending w i slot' where
  used hi := by
    rcases hi with hi | hi
    · exact hused hi
    · rw [hpending] at hi
      cases hi
  exclusive _ := hpending
  below hi := hbuffer ▸ h.below hi
  data hd := by simp [ReadSlot.hasData, hpending] at hd

/-! ## One step of a worker -/

theorem inv_handOver (h : WorkerInv returned pending w) {i k : Nat}
    (hi : (w.slots i).ackPending = true) (hk : k < w.slotCount) (hpc : w.pc ≠ .closed) :
    WorkerInv returned pending (w.handOver i k) := by
  have hslot := h.slots i
  have hack : AckInv returned pending w k { w.acks k with
      eventId := (w.slots i).event.eventId
      ioStatus := (w.slots i).ioStatus
      dataLength := (w.slots i).dataLength
      dataBuffer := some (w.slots i).readDataBuffer
      hasPayload := true } := by
    refine ⟨fun _ => rfl, fun _ => hk, fun a ha => ?_, fun hd => ⟨_, rfl, hslot.data ?_⟩,
      fun hc => absurd hc hpc⟩
    · cases ha
      exact hslot.below (hslot.used (.inr hi))
    · simpa [ReadAckContext.hasData, ReadSlot.hasData, hi] using hd
  exact (h.setAck hack).setSlot _ _
    (slotInv_of_not_pending ((h.setAck hack).slots i) (fun ha => hslot.used (.inl ha)) rfl rfl) rfl

theorem freeAck_lt {k : Nat} (h : w.freeAck = some k) : k < w.slotCount :=
  List.mem_range.mp (List.mem_of_find?_eq_some h)

theorem assignAcks_pc (w : ReadWorker) (slots : List Nat) : (w.assignAcks slots).1.pc = w.pc := by
  induction slots generalizing w with
  | nil => rfl
  | cons i slots ih =>
    unfold assignAcks
    split
    · exact ih w
    · split
      · rfl
      · exact ih _

theorem inv_assignAcks (h : WorkerInv returned pending w) (hpc : w.pc ≠ .closed) (slots : List Nat) :
    WorkerInv returned pending (w.assignAcks slots).1 := by
  induction slots generalizing w with
  | nil => exact h
  | cons i slots ih =>
    unfold assignAcks
    split
    · exact ih h hpc
    · next hi =>
      split
      · exact h
      · next k hk => exact ih (inv_handOver h (by simpa using hi) (freeAck_lt hk) hpc) hpc

theorem inv_turn (h : WorkerInv returned pending w) (hpc : w.pc ≠ .closed) (stop : Bool) :
    WorkerInv returned pending (w.turn stop) := by
  unfold turn
  split
  · have ha := inv_assignAcks h hpc (List.range w.slotCount)
    have hp := assignAcks_pc w (List.range w.slotCount)
    refine ha.setPc _ _ ?_
    rw [hp]
    split <;> simp [hpc]
  · refine h.contexts ⟨rfl, rfl, rfl, by simp [hpc]⟩ (fun i => ?_) (fun i => ?_) fun k => ?_
    · dsimp only
      split <;> rfl
    · dsimp only
      split
      · exact h.slots i
      · next hi => exact slotInv_of_not_pending (h.slots i) (fun ha => absurd ha hi) rfl rfl
    · dsimp only
      split
      · exact h.acks k
      · next hk => exact ackInv_of_reset (Bool.not_eq_true _ ▸ hk) rfl rfl

theorem inv_fail (h : WorkerInv returned pending w) (hpc : w.pc ≠ .closed) :
    WorkerInv returned pending w.fail :=
  h.setPc _ _ (by simp [hpc])

theorem inv_beginAck (h : WorkerInv returned pending w) (hpc : w.pc ≠ .closed) (k : Nat)
    (outcome : BeginOutcome) : WorkerInv returned pending (w.beginAck k outcome) := by
  have hnext : WorkerInv returned pending { w with pc := .begin (k + 1) } :=
    h.setPc _ _ (by simp [hpc])
  unfold beginAck
  split
  · exact h.setPc _ _ (by simp [hpc])
  · split
    · exact hnext
    · next hpayload =>
      cases outcome with
      | notReady => exact hnext
      | sent =>
        have hk := hnext.acks k
        refine hnext.setAck ⟨fun _ => ?_, hk.used, hk.below, hk.data, nofun⟩
        simp only [Bool.or_eq_true, Bool.not_eq_true', not_or, Bool.not_eq_false] at hpayload
        exact hpayload.1
      | failed status =>
        dsimp only
        split
        · exact hnext
        · exact inv_fail h hpc

theorem inv_ackDone (h : WorkerInv returned pending w) {k : Nat} {stop : Bool}
    (hd : w.ackDone k stop = some w') : WorkerInv returned pending w' := by
  have hk := h.acks k
  have hkeep : WorkerInv returned pending
      (w.setAck k { w.acks k with active := false, reply := none }) :=
    h.setAck ⟨nofun, hk.used, hk.below, hk.data, fun _ => rfl⟩
  have hreset : WorkerInv returned pending
      (w.setAck k { w.acks k with active := false, reply := none }.resetPayload) :=
    h.setAck (ackInv_of_reset rfl rfl rfl)
  unfold ackDone at hd
  split at hd
  · dsimp only at hd
    split_ifs at hd <;> cases hd
    · exact hreset
    · exact hkeep
    · exact hkeep.setPc _ _ .rfl
    · exact hkeep
    · exact hreset
  · cases hd

theorem inv_slotFailed (h : WorkerInv returned pending w) {i : Nat} (status : NtStatus) (stop : Bool)
    (hi : (w.slots i).active = true) : WorkerInv returned pending (w.slotFailed i status stop) := by
  have hslot := h.slots i
  have hkeep : WorkerInv returned pending
      (w.setSlot i { w.slots i with active := false, slotId := 0 }) :=
    h.setSlot _ _ (slotInv_of_not_pending hslot nofun rfl (hslot.exclusive hi)) rfl
  unfold slotFailed
  dsimp only
  split_ifs
  · exact h.setSlot _ _ (slotInv_of_not_pending hslot nofun rfl rfl) rfl
  · exact hkeep
  · exact hkeep.setPc _ _ .rfl

/-- No ack of a pending read refers to the buffer of slot `i`. -/
def Alone (w : ReadWorker) (pending : List Nat) (i : Nat) : Prop :=
  ∀ k, (w.acks k).hasData = true → (w.acks k).dataBuffer = some (w.slots i).readDataBuffer →
    (w.acks k).eventId ∉ pending

theorem alone_of_not_shares (h : WorkerInv returned pending w) {i : Nat}
    (hs : w.shares pending i = false) : Alone w pending i := by
  intro k hd hb hmem
  have hk : k < w.slotCount := (h.acks k).used (by
    simp only [ReadAckContext.hasData, Bool.and_eq_true] at hd
    exact hd.1.1)
  simp only [shares, List.any_eq_false, List.mem_range, Bool.and_eq_true, beq_iff_eq,
    List.contains_iff_mem, not_and] at hs
  exact hs k hk ⟨hd, hb⟩ hmem

/-- The buffer of a slot that is being filled is written, or replaced by a larger one. -/
theorem inv_ensureReadBufferCapacity (h : WorkerInv returned pending w) {i required : Nat}
    {allocated : Bool} (hpc : w.pc ≠ .closed) (hi : i < w.slotCount)
    (hpending : (w.slots i).ackPending = false)
    (halone : required ≤ (w.slots i).readDataCapacity ∨ Alone w pending i)
    (he : w.ensureReadBufferCapacity i required allocated = some w') :
    WorkerInv returned pending w' ∧ w'.pc ≠ .closed ∧ w'.slotCount = w.slotCount ∧
      (w'.slots i).ackPending = false ∧ (w'.slots i).active = (w.slots i).active ∧
      (w'.slots i).event = (w.slots i).event ∧ (Alone w pending i → Alone w' pending i) := by
  unfold ensureReadBufferCapacity at he
  dsimp only at he
  split_ifs at he with hcap halloc
  · cases he
    exact ⟨h, hpc, rfl, hpending, rfl, rfl, id⟩
  · cases he
    have halone := halone.resolve_left hcap
    have hfresh : ∀ a, a < w.nextAddress → a ≠ (w.slots i).readDataBuffer →
        Function.update (Function.update w.memory (w.slots i).readDataBuffer none) w.nextAddress
          (some (List.replicate required 0)) a = w.memory a := by
      intro a ha hne
      rw [Function.update_of_ne (Nat.ne_of_lt ha), Function.update_of_ne hne]
    have hself : ((w.setSlot i { w.slots i with
        readDataBuffer := w.nextAddress, readDataCapacity := required }).slots i).readDataBuffer =
          w.nextAddress := by simp [ReadWorker.setSlot]
    have hother : ∀ j, j ≠ i → (w.setSlot i { w.slots i with
        readDataBuffer := w.nextAddress, readDataCapacity := required }).slots j = w.slots j :=
      fun j hj => by simp [ReadWorker.setSlot, Function.update_of_ne hj]
    refine ⟨⟨fun j l hj hl hb => ?_, fun _ j hj => ?_, fun j => ?_, fun k => ?_⟩, hpc, rfl, ?_, ?_,
      ?_, fun _ k hd hb => ?_⟩
    · change ((w.setSlot i _).slots j).readDataBuffer = ((w.setSlot i _).slots l).readDataBuffer at hb
      by_cases hji : j = i
      · by_cases hli : l = i
        · rw [hji, hli]
        · rw [hji, hself, hother l hli] at hb
          exact absurd hb (Nat.ne_of_gt ((h.slots l).below hl))
      · by_cases hli : l = i
        · rw [hli, hself, hother j hji] at hb
          exact absurd hb (Nat.ne_of_lt ((h.slots j).below hj))
        · rw [hother j hji, hother l hli] at hb
          exact h.distinct j l hj hl hb
    · by_cases hji : j = i
      · show Option.isSome (Function.update (Function.update w.memory _ none) w.nextAddress _
          ((w.setSlot i _).slots j).readDataBuffer) = true
        rw [hji, hself, Function.update_self]
        rfl
      · show Option.isSome (Function.update (Function.update w.memory _ none) w.nextAddress _
          ((w.setSlot i _).slots j).readDataBuffer) = true
        rw [hother j hji, hfresh _ ((h.slots j).below hj) fun hb => hji (h.distinct j i hj hi hb)]
        exact h.live hpc j hj
    · show SlotInv _ _ _ j ((w.setSlot i _).slots j)
      by_cases hji : j = i
      · subst hji
        have hslot : ((w.setSlot j { w.slots j with
            readDataBuffer := w.nextAddress, readDataCapacity := required }).slots j) =
            { w.slots j with readDataBuffer := w.nextAddress, readDataCapacity := required } := by
          simp [ReadWorker.setSlot]
        rw [hslot]
        refine ⟨(h.slots j).used, (h.slots j).exclusive, fun _ => Nat.lt_succ_self _, fun hd => ?_⟩
        simp [ReadSlot.hasData, hpending] at hd
      · rw [hother j hji]
        refine (h.slots j).carry (List.Subset.refl _) rfl (Nat.le_succ _) fun hd _ _ hid hpc' =>
          ⟨hid, hpc, hfresh _ ((h.slots j).below ((h.slots j).lt_of_hasData hd)) fun hb => hji ?_⟩
        exact h.distinct j i ((h.slots j).lt_of_hasData hd) hi hb
    · refine (h.acks k).carry (List.Subset.refl _) rfl (Nat.le_succ _) (fun hd a ha _ _ hid _ =>
        ⟨hid, hpc, hfresh a ((h.acks k).below a ha) fun hb => ?_⟩) (fun hc => absurd hc hpc)
      exact halone k hd (hb ▸ ha) hid
    · show ((w.setSlot i _).slots i).ackPending = false
      simp [ReadWorker.setSlot, hpending]
    · show ((w.setSlot i _).slots i).active = _
      simp [ReadWorker.setSlot]
    · show ((w.setSlot i _).slots i).event = _
      simp [ReadWorker.setSlot]
    · change (w.acks k).dataBuffer = some ((w.setSlot i _).slots i).readDataBuffer at hb
      rw [hself] at hb
      exact absurd ((h.acks k).below _ hb) (Nat.lt_irrefl _)

theorem inv_writeBuffer (h : WorkerInv returned pending w) {i : Nat} {bytes : List UInt8}
    (hpc : w.pc ≠ .closed) (hi : i < w.slotCount) (hpending : (w.slots i).ackPending = false)
    (halone : bytes = [] ∨ Alone w pending i) :
    WorkerInv returned pending (w.writeBuffer (w.slots i).readDataBuffer bytes) := by
  have hother : ∀ a, (bytes ≠ [] → a ≠ (w.slots i).readDataBuffer) →
      (w.writeBuffer (w.slots i).readDataBuffer bytes).memory a = w.memory a := by
    intro a ha
    unfold writeBuffer
    by_cases hb : a = (w.slots i).readDataBuffer
    · subst hb
      have hnil : bytes = [] := not_not.mp fun hne => ha hne rfl
      subst hnil
      simp
    · exact Function.update_of_ne hb _ _
  refine ⟨h.distinct, fun hc j hj => ?_, fun j => ?_, fun k => ?_⟩
  · show Option.isSome (Function.update w.memory _ _ (w.slots j).readDataBuffer) = true
    by_cases hji : j = i
    · rw [hji, Function.update_self, Option.isSome_map]
      exact h.live hpc i hi
    · rw [Function.update_of_ne fun hb => hji (h.distinct j i hj hi hb)]
      exact h.live hpc j hj
  · refine (h.slots j).carry (List.Subset.refl _) rfl (Nat.le_refl _) fun hd _ _ hid _ =>
      ⟨hid, hpc, hother _ fun _ hb => ?_⟩
    obtain rfl := h.distinct j i ((h.slots j).lt_of_hasData hd) hi hb
    simp [ReadSlot.hasData, hpending] at hd
  · refine (h.acks k).carry (List.Subset.refl _) rfl (Nat.le_refl _) (fun hd a ha _ _ hid _ =>
      ⟨hid, hpc, hother a fun hne hb => ?_⟩) fun hc => absurd hc hpc
    exact halone.resolve_left hne k hd (hb ▸ ha) hid

/-- **A slot is filled**: what `read_bytes` returned is in its buffer. -/
theorem inv_slotFilled (h : WorkerInv returned pending w) (sectorSize : Nat) {i : Nat}
    {event : ReadSlotEvent} {allocated : Bool} {result : ReadResult} (hpc : w.pc ≠ .closed)
    (hactive : (w.slots i).active = true) (hlength : result.bytes.length = event.dataLength)
    (hguard : w.writes sectorSize i event allocated = true → w.shares pending i = false) :
    WorkerInv (returned ++ (w.slotFilled sectorSize i event allocated result).2.toList) pending
      (w.slotFilled sectorSize i event allocated result).1 := by
  have hslot := h.slots i
  have hi := hslot.used (.inl hactive)
  have hpending := hslot.exclusive hactive
  set slot : ReadSlot := { w.slots i with active := false, slotId := 0, event } with hslotdef
  have hset : ∀ slot' : ReadSlot, slot'.readDataBuffer = (w.slots i).readDataBuffer →
      slot'.active = false → slot'.hasData = false →
      WorkerInv returned pending ((w.setSlot i slot).setSlot i slot') := by
    intro slot' hb ha hd
    refine (h.setSlot _ slot (slotInv_of_not_pending hslot nofun rfl hpending) rfl).setSlot _ _
      ⟨fun _ => hi, fun ht => ?_, fun _ => hb ▸ hslot.below hi, fun ht => ?_⟩ ?_
    · rw [ha] at ht
      cases ht
    · rw [hd] at ht
      cases ht
    · simp [ReadWorker.setSlot, hb, hslotdef]
  have h0 : WorkerInv returned pending (w.setSlot i slot) :=
    h.setSlot _ _ (slotInv_of_not_pending hslot nofun rfl hpending) rfl
  have hself : (w.setSlot i slot).slots i = slot := by simp [ReadWorker.setSlot]
  unfold slotFilled
  dsimp only
  rw [← hslotdef]
  split
  · rw [Option.toList_none, List.append_nil]
    exact hset _ rfl rfl rfl
  · next hvalid =>
    have hvalid' : validateReadSlotEvent sectorSize event = true := by simpa using hvalid
    have halone : (event.dataLength = 0 ∨
        (event.dataLength > (w.slots i).readDataCapacity ∧ allocated = false)) ∨
        Alone (w.setSlot i slot) pending i := by
      by_cases hw : w.writes sectorSize i event allocated = true
      · right
        intro k hk hb
        rw [hself] at hb
        exact alone_of_not_shares h (hguard hw) k hk hb
      · left
        simp only [writes, hvalid', Bool.true_and, Bool.and_eq_true, decide_eq_true_eq,
          Bool.or_eq_true, not_and, not_or] at hw
        by_cases hzero : event.dataLength = 0
        · exact .inl hzero
        · obtain ⟨hcap, halloc⟩ := hw hzero
          exact .inr ⟨Nat.lt_of_not_le hcap, by simpa using halloc⟩
    split
    · rw [Option.toList_none, List.append_nil]
      exact hset _ rfl rfl (by simp [ReadSlot.hasData])
    · next w1 hw1 =>
      have hcap : event.dataLength ≤ ((w.setSlot i slot).slots i).readDataCapacity ∨
          Alone (w.setSlot i slot) pending i := by
        rw [hself]
        rcases halone with (hzero | ⟨hlt, halloc⟩) | halone
        · exact .inl (hzero ▸ Nat.zero_le _)
        · unfold ensureReadBufferCapacity at hw1
          simp only [hself, halloc, Bool.not_false, if_true] at hw1
          rw [if_neg (Nat.not_le_of_lt hlt)] at hw1
          cases hw1
        · exact .inr halone
      obtain ⟨h1, hpc1, hcount, hpending1, hactive1, hevent, hal⟩ :=
        inv_ensureReadBufferCapacity h0 hpc hi (by rw [hself]; exact hpending) hcap hw1
      rw [hself] at hactive1 hevent
      have hi1 : i < w1.slotCount := hcount ▸ hi
      have hnil : result.bytes = [] ∨ Alone w1 pending i := by
        rcases halone with (hzero | ⟨hlt, halloc⟩) | halone
        · exact .inl (List.length_eq_zero_iff.mp (hlength.trans hzero))
        · rcases hcap with hcap | halone
          · rw [hself] at hcap
            exact absurd hcap (Nat.not_le_of_lt hlt)
          · exact .inr (hal halone)
        · exact .inr (hal halone)
      have h2 := inv_writeBuffer h1 hpc1 hi1 hpending1 hnil
      have hgrow : returned ⊆ returned ++
          (if (result.copyStatus event).1 = statusSuccess then some (event.eventId, result.bytes)
            else none).toList := List.subset_append_left _ _
      refine (h2.mono hgrow fun _ _ _ => id).setSlot _ _ ?_ rfl
      refine ⟨fun _ => hi1, fun ha => ?_, fun _ => (h1.slots i).below hi1, fun hd => ?_⟩
      · rw [show (w1.slots i).active = false from hactive1] at ha
        cases ha
      · have hstatus : (result.copyStatus event).1 = statusSuccess ∧
            (result.copyStatus event).2 = event.dataLength := by
          simp only [ReadSlot.hasData, Bool.and_eq_true, decide_eq_true_eq] at hd
          unfold ReadResult.copyStatus at hd ⊢
          split_ifs with hbad hfail
          · simp [if_pos hbad] at hd
          · simp [if_neg hbad, if_pos hfail] at hd
          · refine ⟨not_not.mp hfail, ?_⟩
            by_contra hne
            exact hbad ⟨not_not.mp hfail, hne⟩
        refine ⟨result.bytes, ?_, ?_, fun _ _ => ?_⟩
        · rw [if_pos hstatus.1, hevent]
          exact List.mem_append_right _ List.mem_cons_self
        · rw [hlength, hstatus.2]
        · obtain ⟨old, hold⟩ := Option.isSome_iff_exists.mp (h1.live hpc1 i hi1)
          refine ⟨result.bytes ++ old.drop result.bytes.length, ?_, List.take_left' rfl⟩
          show Function.update w1.memory _ _ _ = _
          rw [Function.update_self, hold]
          rfl

theorem inv_leaveDrain (h : WorkerInv returned pending w) (hpc : w.pc ≠ .closed) :
    WorkerInv returned pending w.leaveDrain := by
  unfold leaveDrain
  split
  · next hidle =>
    simp only [Bool.and_eq_true, Bool.not_eq_true', anyActive, List.any_eq_false, List.mem_range,
      Bool.or_eq_true, not_or, Bool.not_eq_true] at hidle
    refine ⟨h.distinct, fun hc => absurd rfl hc, fun j => ?_, fun k => ?_⟩
    · exact (h.slots j).carry (List.Subset.refl _) rfl (Nat.le_refl _)
        fun _ _ _ _ hc => absurd rfl hc
    · refine (h.acks k).carry (List.Subset.refl _) rfl (Nat.le_refl _)
        (fun _ _ _ _ _ _ hc => absurd rfl hc) fun _ => ?_
      by_contra hactive
      have hactive : (w.acks k).active = true := by simpa using hactive
      rw [(hidle.2 k ((h.acks k).used ((h.acks k).carried hactive))).2] at hactive
      cases hactive
  · exact h.setPc _ _ (by simp [hpc])

/-! ## The acks that the driver has -/

namespace ReadAckContext

/-- The driver has the ack of this event. -/
structure UnderWay (ack : ReadAckContext) (eventId : Nat) : Prop where
  active : ack.active = true
  reply : ack.reply = none
  eventId : ack.eventId = eventId

end ReadAckContext

/-- The acks that the driver has stay as they are. -/
def Keeps (w w' : ReadWorker) : Prop :=
  ∀ k eventId, (w.acks k).UnderWay eventId → w'.acks k = w.acks k

theorem Keeps.of_acks (h : w'.acks = w.acks) : Keeps w w' := fun k _ _ => congrFun h k

theorem Keeps.trans {w'' : ReadWorker} (h : Keeps w w') (h' : Keeps w' w'') : Keeps w w'' := by
  intro k eventId hk
  have hfirst := h k eventId hk
  exact (h' k eventId (hfirst ▸ hk)).trans hfirst

/-- Another ack changes. -/
theorem Keeps.setAck {k : Nat} (hk : ∀ eventId, ¬ (w.acks k).UnderWay eventId)
    (ack : ReadAckContext) : Keeps w (w.setAck k ack) := by
  intro l eventId hl
  refine Function.update_of_ne ?_ _ _
  rintro rfl
  exact hk eventId hl

theorem freeAck_inactive {k : Nat} (h : w.freeAck = some k) : (w.acks k).active = false := by
  have hfree := List.find?_some h
  rw [Bool.and_eq_true, Bool.not_eq_true', Bool.not_eq_true'] at hfree
  exact hfree.2

theorem keeps_assignAcks (w : ReadWorker) (slots : List Nat) : Keeps w (w.assignAcks slots).1 := by
  induction slots generalizing w with
  | nil => exact .of_acks rfl
  | cons i slots ih =>
    unfold assignAcks
    split
    · exact ih w
    · split
      · exact .of_acks rfl
      · next k hk =>
        have hover : Keeps w (w.handOver i k) :=
          Keeps.setAck (fun _ hack => by cases (freeAck_inactive hk).symm.trans hack.active) _
        exact hover.trans (ih _)

theorem keeps_turn (w : ReadWorker) (stop : Bool) : Keeps w (w.turn stop) := by
  unfold turn
  split
  · exact keeps_assignAcks w _
  · exact fun k eventId hk => if_pos hk.active

theorem keeps_beginAck (w : ReadWorker) (k : Nat) (outcome : BeginOutcome) :
    Keeps w (w.beginAck k outcome) := by
  unfold beginAck
  split
  · exact .of_acks rfl
  · split
    · exact .of_acks rfl
    · next hidle =>
      cases outcome with
      | notReady => exact .of_acks rfl
      | sent =>
        simp only [Bool.or_eq_true, not_or, Bool.not_eq_true] at hidle
        exact Keeps.setAck (fun _ hack => by cases hidle.2.symm.trans hack.active) _
      | failed status =>
        dsimp only
        split
        · exact .of_acks rfl
        · exact .of_acks rfl

/-- The worker takes an ack back when its I/O is over. -/
theorem keeps_ackDone {k : Nat} {stop : Bool} (hd : w.ackDone k stop = some w') : Keeps w w' := by
  unfold ackDone at hd
  split at hd
  · next reply _ hreply =>
    have hother : ∀ ack, Keeps w (w.setAck k ack) :=
      Keeps.setAck fun _ hack => by cases hreply.symm.trans hack.reply
    dsimp only at hd
    split_ifs at hd <;> cases hd <;> exact hother _
  · cases hd

theorem slotFilled_acks (w : ReadWorker) (sectorSize i : Nat) (event : ReadSlotEvent)
    (allocated : Bool) (result : ReadResult) :
    (w.slotFilled sectorSize i event allocated result).1.acks = w.acks := by
  unfold slotFilled
  dsimp only
  split
  · rfl
  · split
    · rfl
    · next w₁ hensure =>
      unfold ensureReadBufferCapacity at hensure
      dsimp only at hensure
      split_ifs at hensure
      · cases hensure
        rfl
      · cases hensure
        rfl

theorem slotFailed_acks (w : ReadWorker) (i : Nat) (status : NtStatus) (stop : Bool) :
    (w.slotFailed i status stop).acks = w.acks := by
  unfold slotFailed
  dsimp only
  split_ifs <;> rfl

theorem leaveDrain_acks (w : ReadWorker) : w.leaveDrain.acks = w.acks := by
  unfold leaveDrain
  split_ifs <;> rfl

/-! ## One step -/

/-- An event is read once, and the driver has copied what was returned for it. -/
structure Inv (p : ReadPlane) : Prop where
  unreadNodup : p.unread.Nodup
  unreadBound : ∀ id ∈ p.unread, id ≤ p.nextEventId
  returnedNodup : (p.returned.map Prod.fst).Nodup
  returnedBound : ∀ id ∈ p.returned.map Prod.fst, id ≤ p.nextEventId
  unissued : ∀ request ∈ p.queue.pendingReads, request.slotIssued = false →
    request.eventId ∉ p.returned.map Prod.fst ∧
      ∀ s event, p.slotReply s = some (.ok event) → event.eventId ≠ request.eventId
  replied : ∀ s event, p.slotReply s = some (.ok event) →
    event.eventId ∉ p.returned.map Prod.fst ∧ event.eventId ≤ p.nextEventId
  repliedOnce : ∀ s s' event event', p.slotReply s = some (.ok event) →
    p.slotReply s' = some (.ok event') → event.eventId = event'.eventId → s = s'
  workers : ∀ n, WorkerInv p.returned p.unread (p.workers n)
  taken : ∀ r ∈ p.taken, ((p.workers r.worker).acks r.ackIndex).UnderWay r.request.eventId
  copied : ∀ id content, (id, content) ∈ p.copied →
    ∃ bytes, content = some bytes ∧ (id, bytes) ∈ p.returned

namespace Inv

variable {p p' : ReadPlane}

theorem readIntegrity (h : Inv p) : ReadIntegrity p := ⟨h.returnedNodup, h.copied⟩

theorem pendingNodup (h : Inv p) : p.queue.readIds.Nodup :=
  (List.nodup_append.mp h.unreadNodup).2.1

theorem pendingBound (h : Inv p) {id : Nat} (hid : id ∈ p.queue.readIds) : id ≤ p.nextEventId :=
  h.unreadBound id (List.mem_append_right _ hid)

/-- A worker changes, and each ack that a handler is about stays as it is. -/
theorem setWorker_of_taken (h : Inv p) {n : Nat} {w : ReadWorker}
    (hw : WorkerInv p.returned p.unread w)
    (htaken : ∀ r ∈ p.taken, r.worker = n → (w.acks r.ackIndex).UnderWay r.request.eventId) :
    Inv (p.setWorker n w) :=
  { h with
    workers := (Function.forall_update_iff p.workers fun _ w => WorkerInv p.returned p.unread w).mpr
      ⟨hw, fun m _ => h.workers m⟩
    taken := fun r hr => by
      show ((Function.update p.workers n w r.worker).acks r.ackIndex).UnderWay _
      by_cases hn : r.worker = n
      · rw [hn, Function.update_self]
        exact htaken r hr hn
      · rw [Function.update_of_ne hn]
        exact h.taken r hr }

theorem setWorker (h : Inv p) {n : Nat} {w : ReadWorker} (hw : WorkerInv p.returned p.unread w)
    (hkeeps : Keeps (p.workers n) w) : Inv (p.setWorker n w) :=
  h.setWorker_of_taken hw fun r hr hn => by
    have hack := h.taken r hr
    rw [hn] at hack
    rwa [hkeeps r.ackIndex _ hack]

/-- The I/O of an ack is over that no handler is about any more. -/
theorem replyAck (h : Inv p) {n k : Nat} (finish : NtStatus)
    (hfree : ∀ r ∈ p.taken, ¬ (r.worker = n ∧ r.ackIndex = k)) : Inv (p.replyAck n k finish) := by
  have hk := (h.workers n).acks k
  refine h.setWorker_of_taken
    ((h.workers n).setAck ⟨hk.carried, hk.used, hk.below, hk.data, hk.closed⟩) fun r hr hn => ?_
  show (Function.update (p.workers n).acks k _ r.ackIndex).UnderWay _
  rw [Function.update_of_ne fun hack => hfree r hr ⟨hn, hack⟩, ← hn]
  exact h.taken r hr

/-- Requests leave the driver. -/
theorem dequeue (h : Inv p) {queue : QueueState}
    (hsub : queue.pendingReads.Sublist p.queue.pendingReads) : Inv { p with queue } := by
  have hids : ReadPlane.unread { p with queue } |>.Sublist p.unread :=
    (List.Sublist.refl _).append (hsub.map _)
  exact { h with
    unreadNodup := hids.nodup h.unreadNodup
    unreadBound := fun id hid => h.unreadBound id (hids.subset hid)
    unissued := fun request hr => h.unissued request (hsub.subset hr)
    workers := fun n => (h.workers n).mono (List.Subset.refl _) fun _ _ _ hx => hids.subset hx }

/-- The replies of slots are dropped or replaced by failures. -/
theorem setReplies (h : Inv p) (slotReply : Nat → Option SlotReply)
    (hsub : ∀ s event, slotReply s = some (.ok event) → p.slotReply s = some (.ok event)) :
    Inv { p with slotReply } :=
  { h with
    unissued := fun request hr hi => by
      obtain ⟨hreturned, hreplied⟩ := h.unissued request hr hi
      exact ⟨hreturned, fun s event hs => hreplied s event (hsub s event hs)⟩
    replied := fun s event hs => h.replied s event (hsub s event hs)
    repliedOnce := fun s s' event event' hs hs' =>
      h.repliedOnce s s' event event' (hsub s event hs) (hsub s' event' hs') }

theorem failSlots (h : Inv p) (slots : List PostedSlot) (status : NtStatus) :
    Inv (p.failSlots slots status) := by
  refine h.setReplies _ ?_
  induction slots generalizing p with
  | nil => exact fun s event hs => hs
  | cons slot slots ih =>
    intro s event hs
    have hold : ∀ s event, Function.update p.slotReply slot.slotId (some (.error status)) s =
        some (.ok event) → p.slotReply s = some (.ok event) := by
      intro s event hs
      rcases Lib.update_some hs with ⟨-, heq⟩ | ⟨-, hs⟩
      · cases heq
      · exact hs
    exact hold s event (ih (p := { p with
      slotReply := Function.update p.slotReply slot.slotId (some (.error status)) })
      (h.setReplies _ hold) s event hs)

theorem queueRead (h : Inv p) (srb lba blockCount dataLength : Nat) :
    Inv { p with
      nextEventId := p.nextEventId + 1
      queue := p.queue.insertRead
        (allocReadRequest srb (p.nextEventId + 1) lba blockCount dataLength) } := by
  have hids : ReadPlane.unread { p with
      nextEventId := p.nextEventId + 1
      queue := p.queue.insertRead
        (allocReadRequest srb (p.nextEventId + 1) lba blockCount dataLength) } =
        p.unread ++ [p.nextEventId + 1] := by
    simp [ReadPlane.unread, QueueState.readIds, QueueState.insertRead, allocReadRequest]
  have hle : ∀ {id : Nat}, id ≤ p.nextEventId → id ≤ p.nextEventId + 1 := Nat.le_succ_of_le
  refine ⟨?_, ?_, h.returnedNodup, fun id hid => hle (h.returnedBound id hid), ?_,
    fun s event hs => ⟨(h.replied s event hs).1, hle (h.replied s event hs).2⟩, h.repliedOnce,
    fun n => ?_, h.taken, h.copied⟩
  · rw [hids, List.nodup_append]
    refine ⟨h.unreadNodup, List.pairwise_singleton _ _, ?_⟩
    rintro id hid _ hmem rfl
    have := h.unreadBound id hid
    rw [List.mem_singleton.mp hmem] at this
    omega
  · intro id hid
    rw [hids, List.mem_append, List.mem_singleton] at hid
    rcases hid with hid | rfl
    · exact hle (h.unreadBound id hid)
    · exact Nat.le_refl _
  · intro request hr hi
    rcases List.mem_append.mp hr with hr | hr
    · exact h.unissued request hr hi
    · rw [List.mem_singleton.mp hr]
      refine ⟨fun hmem => ?_, fun s event hs he => ?_⟩
      · have := h.returnedBound _ hmem
        simp only [allocReadRequest] at this
        omega
      · have := (h.replied s event hs).2
        simp only [allocReadRequest] at he
        omega
  · show WorkerInv p.returned _ (p.workers n)
    rw [hids]
    refine (h.workers n).mono (List.Subset.refl _) fun id bytes hid hmem => ?_
    rcases List.mem_append.mp hmem with hmem | hmem
    · exact hmem
    · have := h.returnedBound id (List.mem_map.mpr ⟨_, hid, rfl⟩)
      rw [List.mem_singleton.mp hmem] at this
      omega

/-- A slot is filled: the request is issued, once. -/
theorem fillSlot (h : Inv p) {queue : QueueState} {request : ReadRequest} {slot : PostedSlot}
    (hq : p.queue.reserveRead = some (queue, request, slot)) :
    Inv { p with
      queue
      slotReply := Function.update p.slotReply slot.slotId
        (some (.ok (ReadPlane.slotEvent request))) } := by
  obtain ⟨i, hi, hissued, hpending⟩ := QueueState.reserveRead_spec hq
  have hids : queue.readIds = p.queue.readIds := by
    show queue.pendingReads.map _ = _
    rw [hpending]
    exact QueueState.map_set_eq hi rfl
  have hmem : request ∈ p.queue.pendingReads := List.mem_of_getElem? hi
  obtain ⟨hnotReturned, hnotReplied⟩ := h.unissued request hmem hissued
  -- the requests that are still unissued are others, with other events
  have hother : ∀ r ∈ queue.pendingReads, r.slotIssued = false →
      r ∈ p.queue.pendingReads ∧ r.eventId ≠ request.eventId := by
    intro r hr hr'
    rw [hpending] at hr
    obtain ⟨j, hj⟩ := List.mem_iff_getElem?.mp hr
    have hji : j ≠ i := by
      rintro rfl
      rw [List.getElem?_set_self (List.getElem?_eq_some_iff.mp hi).1] at hj
      cases hj
      cases hr'
    rw [List.getElem?_set_ne (Ne.symm hji)] at hj
    refine ⟨List.mem_of_getElem? hj, fun he => hji ?_⟩
    have hnd := h.pendingNodup
    have hlen : j < p.queue.readIds.length := by
      rw [QueueState.readIds, List.length_map]
      exact (List.getElem?_eq_some_iff.mp hj).1
    refine (List.getElem?_inj hlen hnd).mp ?_
    rw [QueueState.readIds, List.getElem?_map, List.getElem?_map, hj, hi]
    exact congrArg some he
  have hreply : ∀ s event, Function.update p.slotReply slot.slotId
      (some (.ok (ReadPlane.slotEvent request))) s = some (.ok event) →
      (s = slot.slotId ∧ event = ReadPlane.slotEvent request) ∨
        (s ≠ slot.slotId ∧ p.slotReply s = some (.ok event)) := by
    intro s event hs
    refine (Lib.update_some hs).imp_left fun h => ⟨h.1, ?_⟩
    cases h.2
    rfl
  have hunread : ReadPlane.unread { p with
      queue
      slotReply := Function.update p.slotReply slot.slotId
        (some (.ok (ReadPlane.slotEvent request))) } = p.unread :=
    congrArg (p.taken.map (fun r => r.request.eventId) ++ ·) hids
  refine ⟨hunread ▸ h.unreadNodup, hunread ▸ h.unreadBound, h.returnedNodup, h.returnedBound, ?_,
    ?_, ?_, fun n => ?_, h.taken, h.copied⟩
  · intro r hr hr'
    obtain ⟨hmem', hne⟩ := hother r hr hr'
    obtain ⟨hret, hrep⟩ := h.unissued r hmem' hr'
    refine ⟨hret, fun s event hs => ?_⟩
    rcases hreply s event hs with ⟨-, rfl⟩ | ⟨-, hs⟩
    · exact Ne.symm hne
    · exact hrep s event hs
  · intro s event hs
    rcases hreply s event hs with ⟨-, rfl⟩ | ⟨-, hs⟩
    · exact ⟨hnotReturned, h.pendingBound (List.mem_map.mpr ⟨request, hmem, rfl⟩)⟩
    · exact h.replied s event hs
  · intro s s' event event' hs hs' hee
    rcases hreply s event hs with ⟨he, rfl⟩ | ⟨he, hs⟩ <;>
      rcases hreply s' event' hs' with ⟨he', rfl⟩ | ⟨he', hs'⟩
    · rw [he, he']
    · exact absurd hee.symm (hnotReplied s' event' hs')
    · exact absurd hee (hnotReplied s event hs)
    · exact h.repliedOnce s s' event event' hs hs' hee
  · show WorkerInv p.returned (ReadPlane.unread _) (p.workers n)
    rw [hunread]
    exact h.workers n

/-- The reply of a slot is taken, and the bytes of its event are returned. -/
theorem takeReply (h : Inv p) {s : Nat} {event : ReadSlotEvent} {read : Option (Nat × List UInt8)}
    (hs : p.slotReply s = some (.ok event))
    (hread : ∀ r ∈ read, r.1 = event.eventId) :
    Inv { p with
      slotReply := Function.update p.slotReply s none
      returned := p.returned ++ read.toList } := by
  have hreply : ∀ s' event', Function.update p.slotReply s none s' = some (.ok event') →
      s' ≠ s ∧ p.slotReply s' = some (.ok event') :=
    fun s' event' hs' => Lib.update_none hs'
  have hmem : ∀ id, id ∈ (p.returned ++ read.toList).map Prod.fst →
      id ∈ p.returned.map Prod.fst ∨ id = event.eventId := by
    intro id hid
    rw [List.map_append, List.mem_append] at hid
    refine hid.imp_right fun hid => ?_
    obtain ⟨r, hr, rfl⟩ := List.mem_map.mp hid
    exact hread r (Option.mem_toList.mp hr)
  obtain ⟨hnew, hbound⟩ := h.replied s event hs
  refine ⟨h.unreadNodup, h.unreadBound, ?_, fun id hid => ?_, fun request hr hi => ?_,
    fun s' event' hs' => ?_, fun s₁ s₂ event₁ event₂ h₁ h₂ he => ?_, fun n => ?_, h.taken,
    fun id content hc => ?_⟩
  · cases read with
    | none => simpa using h.returnedNodup
    | some r =>
      rw [Option.toList_some, List.map_append, List.nodup_append]
      refine ⟨h.returnedNodup, List.pairwise_singleton _ _, ?_⟩
      rintro id hid _ hmem' rfl
      rw [List.map_singleton, List.mem_singleton, hread r rfl] at hmem'
      exact hnew (hmem' ▸ hid)
  · rcases hmem id hid with hid | rfl
    · exact h.returnedBound id hid
    · exact hbound
  · obtain ⟨hret, hrep⟩ := h.unissued request hr hi
    refine ⟨fun hid => ?_, fun s' event' hs' => hrep s' event' (hreply s' event' hs').2⟩
    rcases hmem _ hid with hid | he
    · exact hret hid
    · exact hrep s event hs he.symm
  · obtain ⟨hne, hs'⟩ := hreply s' event' hs'
    obtain ⟨hret, hb⟩ := h.replied s' event' hs'
    refine ⟨fun hid => ?_, hb⟩
    rcases hmem _ hid with hid | he
    · exact hret hid
    · exact hne (h.repliedOnce s' s event' event hs' hs he)
  · exact h.repliedOnce s₁ s₂ event₁ event₂ (hreply s₁ event₁ h₁).2 (hreply s₂ event₂ h₂).2 he
  · exact (h.workers n).mono (List.subset_append_left _ _) fun _ _ _ => id
  · obtain ⟨bytes, hc, hb⟩ := h.copied id content hc
    exact ⟨bytes, hc, List.mem_append_left _ hb⟩

/-- **The driver takes the read of an ack**: it is still to be copied. -/
theorem takeAck (h : Inv p) {n k : Nat} {lost : Option NtStatus}
    (hs : p.takeAck n k lost = some p') : Inv p' := by
  unfold ReadPlane.takeAck at hs
  dsimp only at hs
  split_ifs at hs with hack
  obtain ⟨hactive, hreply, hfree⟩ := hack
  split at hs
  · cases hs
    refine h.replyAck _ fun r hr => ?_
    simpa using List.find?_eq_none.mp hfree r hr
  · next queue request hq =>
    cases hs
    obtain ⟨i, hi, hid, hpending⟩ := QueueState.takeRead_spec hq
    have hperm : (ReadPlane.unread { p with queue, taken := ⟨n, k, request⟩ :: p.taken }).Perm
        p.unread := by
      refine List.perm_middle.symm.trans (List.Perm.append_left _ ?_)
      show (request.eventId :: queue.pendingReads.map ReadRequest.eventId).Perm _
      rw [hpending]
      exact (QueueState.cons_eraseIdx_perm hi).map ReadRequest.eventId
    have hsub : queue.pendingReads.Sublist p.queue.pendingReads :=
      hpending ▸ List.eraseIdx_sublist _ _
    refine { h with
      unreadNodup := hperm.nodup_iff.mpr h.unreadNodup
      unreadBound := fun id hid => h.unreadBound id (hperm.mem_iff.mp hid)
      unissued := fun request hr => h.unissued request (hsub.subset hr)
      workers := fun m =>
        (h.workers m).mono (List.Subset.refl _) fun _ _ _ hx => hperm.mem_iff.mp hx
      taken := fun r hr => ?_ }
    rcases List.mem_cons.mp hr with rfl | hr
    · exact ⟨hactive, hreply, hid.symm⟩
    · exact h.taken r hr

/-- A handler is done with its read. -/
theorem release (h : Inv p) (f : TakenRead → Bool) : Inv { p with taken := p.taken.filter f } := by
  have hids : (ReadPlane.unread { p with taken := p.taken.filter f }).Sublist p.unread :=
    (List.filter_sublist.map _).append (List.Sublist.refl _)
  exact { h with
    unreadNodup := hids.nodup h.unreadNodup
    unreadBound := fun id hid => h.unreadBound id (hids.subset hid)
    workers := fun n => (h.workers n).mono (List.Subset.refl _) fun _ _ _ hx => hids.subset hx
    taken := fun r hr => h.taken r (List.mem_of_mem_filter hr) }

/-- **The driver copies** what `read_bytes` returned. -/
theorem copyAck (h : Inv p) {n k : Nat} {lost : Option NtStatus}
    (hs : p.copyAck n k lost = some p') : Inv p' := by
  obtain ⟨r, hr, rfl⟩ := Option.map_eq_some_iff.mp hs
  obtain ⟨hmem, hof⟩ : r ∈ p.taken ∧ (r.worker = n ∧ r.ackIndex = k) :=
    ⟨List.mem_of_find?_eq_some hr, by simpa using List.find?_some hr⟩
  obtain ⟨rfl, rfl⟩ := hof
  have hack := h.taken r hmem
  have hk := (h.workers r.worker).acks r.ackIndex
  set f : TakenRead → Bool :=
    fun r' => decide ¬ (r'.worker = r.worker ∧ r'.ackIndex = r.ackIndex)
  -- no other read has been taken for this ack
  have hreplied : ∀ {q : ReadPlane}, Inv q → q.taken = p.taken.filter f → ∀ finish,
      Inv (q.replyAck r.worker r.ackIndex finish) := by
    intro q hq htaken finish
    refine hq.replyAck finish fun r' hr' => ?_
    rw [htaken] at hr'
    exact of_decide_eq_true (List.mem_filter.mp hr').2
  have hrelease := h.release f
  dsimp only
  split
  · next hsuccess =>
    split
    · next a ha =>
      split
      · exact hreplied hrelease rfl _
      · next hlength =>
        refine hreplied (q := { p with taken := p.taken.filter f, copied := _ }) ?_ rfl _
        refine { hrelease with copied := fun id content hc => ?_ }
        rcases List.mem_append.mp hc with hc | hc
        · exact h.copied id content hc
        · cases List.mem_singleton.mp hc
          rw [not_or] at hlength
          have hdata : ((p.workers r.worker).acks r.ackIndex).hasData = true := by
            simp [ReadAckContext.hasData, hk.carried hack.active, hsuccess, hlength.2]
          obtain ⟨a', ha', bytes, hreturned, hlen, hhold⟩ := hk.data hdata
          obtain rfl : a = a' := Option.some.inj (ha.symm.trans ha')
          have hunread : ((p.workers r.worker).acks r.ackIndex).eventId ∈ p.unread :=
            List.mem_append_left _ (List.mem_map.mpr ⟨r, hmem, hack.eventId.symm⟩)
          have hopen : (p.workers r.worker).pc ≠ .closed := fun hc => by
            cases (hk.closed hc).symm.trans hack.active
          obtain ⟨content, hcontent, htake⟩ := hhold hunread hopen
          refine ⟨bytes, ?_, hack.eventId ▸ hreturned⟩
          rw [hcontent, Option.map_some, ← hlen, htake]
    · exact hreplied hrelease rfl _
  · exact hreplied hrelease rfl _

theorem slotFilled_read {w : ReadWorker} {sectorSize i : Nat} {event : ReadSlotEvent}
    {allocated : Bool} {result : ReadResult} :
    ∀ r ∈ (w.slotFilled sectorSize i event allocated result).2, r.1 = event.eventId := by
  intro r hr
  unfold slotFilled at hr
  dsimp only at hr
  split at hr
  · cases hr
  · split at hr
    · cases hr
    · split at hr <;> cases hr
      rfl

/-- **A worker handles a slot**, if no ack of a pending read shares its buffer. -/
theorem slotDone (h : Inv p) {sectorSize n i : Nat} {stop allocated : Bool} {result : ReadResult}
    (hG : Unshared sectorSize p (.slotDone n i stop allocated result))
    (hpc : (p.workers n).pc ≠ .closed)
    (hs : p.slotDone sectorSize n i stop allocated result = some p') : Inv p' := by
  unfold ReadPlane.slotDone at hs
  dsimp only at hs
  split at hs
  · next status hactive hreply =>
    cases hs
    have hd := h.setReplies (Function.update p.slotReply
      ((p.workers n).slots i).slotId none) fun s event hs => by
        exact (Lib.update_none hs).2
    exact hd.setWorker (inv_slotFailed (h.workers n) status stop hactive)
      (.of_acks (slotFailed_acks ..))
  · next event hactive hreply =>
    split at hs
    · next hlength =>
      cases hs
      exact (h.takeReply hreply slotFilled_read).setWorker
        (inv_slotFilled (h.workers n) sectorSize hpc hactive hlength fun hw => hG event hreply hw)
        (.of_acks (slotFilled_acks ..))
    · cases hs
  · cases hs

theorem postSlot (h : Inv p) {n i : Nat} {outcome : BeginOutcome}
    (hpc : (p.workers n).pc ≠ .closed) : Inv (p.postSlot n i outcome) := by
  have hw := h.workers n
  have hnext : WorkerInv p.returned p.unread { p.workers n with pc := .post (i + 1) } :=
    hw.setPc _ _ (by simp [hpc])
  unfold ReadPlane.postSlot
  dsimp only
  split
  · exact h.setWorker (hw.setPc _ _ (by simp [hpc])) (.of_acks rfl)
  · next hi =>
    split
    · exact h.setWorker hnext (.of_acks rfl)
    · next hidle =>
      simp only [Bool.or_eq_true, not_or, Bool.not_eq_true] at hidle
      cases outcome with
      | notReady => exact h.setWorker hnext (.of_acks rfl)
      | sent =>
        have hset := h.setWorker (n := n) (hnext.setSlot i { (p.workers n).slots i with
          slotId := p.nextTxId, event := {}, active := true }
          (slotInv_of_not_pending (hnext.slots i) (fun _ => Nat.lt_of_not_le hi) rfl hidle.2) rfl)
          (.of_acks rfl)
        exact { hset with }
      | failed status =>
        have hset := hnext.setSlot i { (p.workers n).slots i with
          slotId := 0, event := {} } (slotInv_of_not_pending (hnext.slots i)
            (fun ha => absurd (hidle.1 ▸ ha) nofun) rfl hidle.2) rfl
        have hfail := h.setWorker (n := n) (inv_fail hset nofun) (.of_acks rfl)
        have hretry := h.setWorker (n := n) hset (.of_acks rfl)
        dsimp only
        split
        · exact { hretry with }
        · exact { hfail with }

/-- **One step** in any order of workers, driver and I/O. -/
theorem step {sectorSize : Nat} (h : Inv p) (a : ReadAction) (hG : Unshared sectorSize p a)
    (hs : p.step sectorSize a = some p') : Inv p' := by
  cases a with
  | queueRead srb lba blockCount dataLength =>
    cases hs
    exact h.queueRead srb lba blockCount dataLength
  | fillSlot =>
    obtain ⟨⟨queue, request, slot⟩, hq, rfl⟩ := Option.map_eq_some_iff.mp hs
    exact h.fillSlot hq
  | sweep status =>
    cases hs
    exact (h.dequeue (List.nil_sublist _)).failSlots _ _
  | slotFails slotId status =>
    cases hs
    have hsame : (p.queue.cancelReadSlot slotId).pendingReads = p.queue.pendingReads := by
      unfold QueueState.cancelReadSlot
      split <;> rfl
    exact (h.dequeue (hsame ▸ List.Sublist.refl _)).failSlots _ _
  | takeAck n k lost => exact h.takeAck hs
  | copyAck n k lost => exact h.copyAck hs
  | ackFails n k status =>
    simp only [ReadPlane.step] at hs
    split_ifs at hs with hack
    cases hs
    refine h.replyAck status fun r hr => ?_
    simpa using List.find?_eq_none.mp hack.2.2.1 r hr
  | turn n stop =>
    simp only [ReadPlane.step] at hs
    split at hs
    · next hpc =>
      cases hs
      exact h.setWorker (inv_turn (h.workers n) (by simp [hpc]) stop) (keeps_turn _ stop)
    · cases hs
  | beginAck n outcome =>
    simp only [ReadPlane.step] at hs
    split at hs
    · next k hpc =>
      cases hs
      exact h.setWorker (inv_beginAck (h.workers n) (by simp [hpc]) k outcome)
        (keeps_beginAck _ k outcome)
    · cases hs
  | postSlot n outcome =>
    simp only [ReadPlane.step] at hs
    split at hs
    · next i hpc =>
      cases hs
      exact h.postSlot (by simp [hpc])
    · cases hs
  | ackDone n k stop =>
    simp only [ReadPlane.step] at hs
    split at hs
    · obtain ⟨w, hw, rfl⟩ := Option.map_eq_some_iff.mp hs
      exact h.setWorker (inv_ackDone (h.workers n) hw) (keeps_ackDone hw)
    · cases hs
  | slotDone n i stop allocated result =>
    simp only [ReadPlane.step] at hs
    split at hs
    · next hpc => exact h.slotDone hG (by simp [hpc]) hs
    · cases hs
  | leaveDrain n =>
    simp only [ReadPlane.step] at hs
    split at hs
    · next hpc =>
      cases hs
      exact h.setWorker (inv_leaveDrain (h.workers n) (by simp [hpc]))
        (.of_acks (leaveDrain_acks _))
    · cases hs

end Inv

/-! ## Runs -/

/-- A disk whose workers have just been started. -/
def ReadPlane.start (slotCounts : Nat → Nat) (slotBytes : Nat) : ReadPlane where
  workers n := .start (slotCounts n) slotBytes

theorem inv_start (slotCounts : Nat → Nat) (slotBytes : Nat) :
    Inv (.start slotCounts slotBytes) where
  unreadNodup := List.nodup_nil
  unreadBound := nofun
  returnedNodup := List.nodup_nil
  returnedBound := nofun
  unissued := nofun
  replied := nofun
  repliedOnce := nofun
  workers _ := .start _ _
  taken _ hr := by cases hr
  copied := nofun

/-- **The driver copies what `read_bytes` returned**, in every run in which no buffer is filled
while an ack refers to it whose read is still to be copied. -/
theorem unshared_readIntegrity (sectorSize slotBytes : Nat) (slotCounts : Nat → Nat)
    (as : List ReadAction) (p : ReadPlane)
    (hG : Lib.StepsMeet (ReadPlane.step sectorSize) (Unshared sectorSize)
      (.start slotCounts slotBytes) as)
    (h : Lib.runFrom (ReadPlane.step sectorSize) (.start slotCounts slotBytes) as = some p) :
    ReadIntegrity p :=
  (Lib.run_inv_of_guard (fun _ a _ hi hG hs => Inv.step hi a hG hs) as _ p
    (inv_start slotCounts slotBytes) hG h).readIntegrity

instance decidableUnshared (sectorSize : Nat) (p : ReadPlane) :
    ∀ a, Decidable (Unshared sectorSize p a)
  | .slotDone n i _ allocated _ =>
    match hr : p.slotReply ((p.workers n).slots i).slotId with
    | some (.ok event) =>
      decidable_of_iff ((p.workers n).writes sectorSize i event allocated = true →
          (p.workers n).shares p.unread i = false)
        ⟨fun h e he => by cases hr.symm.trans he; exact h, fun h => h event hr⟩
    | some (.error _) => isTrue fun _ he => nomatch hr.symm.trans he
    | none => isTrue fun _ he => nomatch hr.symm.trans he
  | .queueRead .. | .fillSlot | .sweep _ | .slotFails .. | .takeAck .. | .copyAck ..
  | .ackFails .. | .turn .. | .beginAck .. | .postSlot .. | .ackDone ..
  | .leaveDrain _ => isTrue trivial

/-- One worker with two slots. -/
def oneWorker : ReadPlane := .start (fun n => if n = 0 then 2 else 0) 512

/-- A turn of the loop: the pending slots are handed over, the acks begin with `first` and `second`,
slot 0 is posted with `post`. -/
def loopTurn (first second post : BeginOutcome) : List ReadAction :=
  [.turn 0 false, .beginAck 0 first, .beginAck 0 second, .beginAck 0 .notReady,
    .postSlot 0 post, .postSlot 0 .notReady, .postSlot 0 .notReady]

/-- A read of one sector that `read_bytes` fills with `byte`. -/
def sectorRead (lba : Nat) (byte : UInt8) : List ReadAction :=
  [.queueRead lba lba 1 512, .fillSlot,
    .slotDone 0 0 false true ⟨List.replicate 512 byte, statusSuccess, 512⟩, .leaveDrain 0]

/-- The driver handles an ack. -/
def handled (k : Nat) : List ReadAction := [.takeAck 0 k none, .copyAck 0 k none]

/-- The ack of the first read is to be retried when the slot is posted again and filled for the
second read. -/
def retriedAckRun : List ReadAction :=
  loopTurn .notReady .notReady .sent ++ sectorRead 0 1 ++
    loopTurn (.failed statusDeviceNotReady) .notReady .sent ++ sectorRead 8 2 ++
    loopTurn .sent .notReady .notReady ++ handled 0

theorem retried_ack_copies_other_read :
    ∃ p, Lib.runFrom (ReadPlane.step 512) oneWorker retriedAckRun = some p ∧ ¬ ReadIntegrity p := by
  obtain ⟨p, hp, hq⟩ := Lib.exists_run (ReadPlane.step 512) oneWorker retriedAckRun
    (fun p => decide ((1, some (List.replicate 512 2)) ∈ p.copied ∧
      p.returned = [(1, List.replicate 512 1), (2, List.replicate 512 2)])) (by decide +kernel)
  obtain ⟨hcopied, hreturned⟩ := of_decide_eq_true hq
  refine ⟨p, hp, fun h => ?_⟩
  obtain ⟨bytes, hb, hmem⟩ := h.2 _ _ hcopied
  rw [hreturned, ← Option.some.inj hb] at hmem
  revert hmem
  decide

/-- The ack of the first read is retried, and handled, before the slot is filled again. -/
def retriedInTimeRun : List ReadAction :=
  loopTurn .notReady .notReady .sent ++ sectorRead 0 1 ++
    loopTurn (.failed statusDeviceNotReady) .notReady .sent ++ [.leaveDrain 0] ++
    loopTurn .sent .notReady .notReady ++
    handled 0 ++ [.ackDone 0 0 false] ++ sectorRead 8 2 ++
    loopTurn .sent .notReady .notReady ++ handled 0

theorem retriedInTimeRun_readIntegrity :
    ∃ p, Lib.runFrom (ReadPlane.step 512) oneWorker retriedInTimeRun = some p ∧
      ReadIntegrity p ∧ p.copied.length = 2 := by
  obtain ⟨p, hp, hq⟩ := Lib.exists_run (ReadPlane.step 512) oneWorker retriedInTimeRun
    (fun p => decide (p.copied.length = 2)) (by decide +kernel)
  exact ⟨p, hp, unshared_readIntegrity 512 512 _ retriedInTimeRun p (by decide +kernel) hp,
    of_decide_eq_true hq⟩

end YumeDisk.AppKernel
