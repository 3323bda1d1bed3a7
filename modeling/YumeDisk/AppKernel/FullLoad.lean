import YumeDisk.AppKernel.ReadIntegrity
import YumeDisk.Lib.Reach

/-!
# A read worker under full load

A read worker waits for every I/O that it has under way.  A slot is free again as soon as its bytes
are in the hands of an ack, so a slot and an ack can be under way for each slot that it has.

* `waitHandles`: what the worker passes to `WaitForMultipleObjects`.
* `waitHandles_le`: at most two for a slot, in every run.
* `reaches_fullLoad`: **two for a slot, in some run.**
-/

namespace YumeDisk.AppKernel

open Lib Miniport

namespace ReadWorker

/-- The handles that a worker waits for when it leaves the drain: one for each active slot and for
each active ack. -/
def waitHandles (w : ReadWorker) : Nat :=
  (List.range w.slotCount).countP (fun i => (w.slots i).active) +
    (List.range w.slotCount).countP fun k => (w.acks k).active

theorem waitHandles_le_two (w : ReadWorker) : w.waitHandles ≤ 2 * w.slotCount := by
  have hslots := (List.range w.slotCount).countP_le_length (p := fun i => (w.slots i).active)
  have hacks := (List.range w.slotCount).countP_le_length (p := fun k => (w.acks k).active)
  rw [List.length_range] at hslots hacks
  unfold waitHandles
  omega

/-! ## The number of slots stays -/

@[simp] theorem slotCount_setSlot (w : ReadWorker) (i : Nat) (slot : ReadSlot) :
    (w.setSlot i slot).slotCount = w.slotCount := rfl

theorem slotCount_assignAcks (l : List Nat) (w : ReadWorker) :
    (w.assignAcks l).1.slotCount = w.slotCount := by
  induction l generalizing w with
  | nil => rfl
  | cons i l ih =>
    unfold assignAcks
    split
    · exact ih w
    · split
      · rfl
      · exact ih _

theorem slotCount_turn (w : ReadWorker) (stop : Bool) : (w.turn stop).slotCount = w.slotCount := by
  unfold turn
  split
  · exact slotCount_assignAcks _ w
  · rfl

theorem slotCount_beginAck (w : ReadWorker) (k : Nat) (outcome : BeginOutcome) :
    (w.beginAck k outcome).slotCount = w.slotCount := by
  unfold beginAck
  dsimp only
  split_ifs
  · rfl
  · rfl
  · cases outcome with
    | notReady => rfl
    | sent => rfl
    | failed status =>
      dsimp only
      split_ifs
      · rfl
      · rfl

theorem slotCount_ackDone {w w' : ReadWorker} {k : Nat} {stop : Bool}
    (h : w.ackDone k stop = some w') : w'.slotCount = w.slotCount := by
  unfold ackDone at h
  split at h
  · dsimp only at h
    split_ifs at h <;> cases h <;> rfl
  · cases h

theorem slotCount_ensureReadBufferCapacity {w w' : ReadWorker} {i required : Nat}
    {allocated : Bool} (h : w.ensureReadBufferCapacity i required allocated = some w') :
    w'.slotCount = w.slotCount := by
  unfold ensureReadBufferCapacity at h
  dsimp only at h
  split_ifs at h <;> cases h <;> rfl

theorem slotCount_slotFilled (w : ReadWorker) (sectorSize i : Nat) (event : ReadSlotEvent)
    (allocated : Bool) (result : ReadResult) :
    (w.slotFilled sectorSize i event allocated result).1.slotCount = w.slotCount := by
  unfold slotFilled
  dsimp only
  split
  · rfl
  · split
    · rfl
    · next hensure =>
      have hcount := slotCount_ensureReadBufferCapacity hensure
      rw [slotCount_setSlot] at hcount
      exact hcount

theorem slotCount_slotFailed (w : ReadWorker) (i : Nat) (status : NtStatus) (stop : Bool) :
    (w.slotFailed i status stop).slotCount = w.slotCount := by
  unfold slotFailed
  dsimp only
  split_ifs <;> rfl

theorem slotCount_leaveDrain (w : ReadWorker) : w.leaveDrain.slotCount = w.slotCount := by
  unfold leaveDrain
  split_ifs <;> rfl

end ReadWorker

namespace ReadPlane

/-- The workers have so many slots. -/
def HasSlots (slotCounts : Nat → Nat) (p : ReadPlane) : Prop :=
  ∀ n, (p.workers n).slotCount = slotCounts n

variable {slotCounts : Nat → Nat} {p p' : ReadPlane}

theorem HasSlots.setWorker (h : p.HasSlots slotCounts) {n : Nat} {w : ReadWorker}
    (hw : w.slotCount = (p.workers n).slotCount) : (p.setWorker n w).HasSlots slotCounts := by
  intro m
  show (Function.update p.workers n w m).slotCount = _
  by_cases hm : m = n
  · subst hm
    rw [Function.update_self, hw]
    exact h m
  · rw [Function.update_of_ne hm]
    exact h m

theorem HasSlots.postSlot (h : p.HasSlots slotCounts) (n i : Nat) (outcome : BeginOutcome) :
    (p.postSlot n i outcome).HasSlots slotCounts := by
  unfold ReadPlane.postSlot
  dsimp only
  split_ifs
  · exact h.setWorker rfl
  · exact h.setWorker rfl
  · cases outcome with
    | notReady => exact h.setWorker rfl
    | sent => exact h.setWorker rfl
    | failed status =>
      dsimp only
      split_ifs
      · exact h.setWorker rfl
      · exact h.setWorker rfl

theorem HasSlots.replyAck (h : p.HasSlots slotCounts) (n k : Nat) (finish : NtStatus) :
    (p.replyAck n k finish).HasSlots slotCounts :=
  h.setWorker rfl

theorem HasSlots.takeAck (h : p.HasSlots slotCounts) {n k : Nat} {lost : Option NtStatus}
    (hs : p.takeAck n k lost = some p') : p'.HasSlots slotCounts := by
  unfold ReadPlane.takeAck at hs
  dsimp only at hs
  split_ifs at hs
  split at hs
  · cases hs
    exact h.replyAck n k _
  · cases hs
    exact h

theorem HasSlots.copyAck (h : p.HasSlots slotCounts) {n k : Nat} {lost : Option NtStatus}
    (hs : p.copyAck n k lost = some p') : p'.HasSlots slotCounts := by
  obtain ⟨r, -, rfl⟩ := Option.map_eq_some_iff.1 hs
  dsimp only
  split
  · split
    · split
      · exact HasSlots.replyAck h n k _
      · exact HasSlots.replyAck h n k _
    · exact HasSlots.replyAck h n k _
  · exact HasSlots.replyAck h n k _

theorem HasSlots.slotDone (h : p.HasSlots slotCounts) {sectorSize n i : Nat}
    {stop allocated : Bool} {result : ReadResult}
    (hs : p.slotDone sectorSize n i stop allocated result = some p') :
    p'.HasSlots slotCounts := by
  unfold ReadPlane.slotDone at hs
  dsimp only at hs
  split at hs
  · cases hs
    exact h.setWorker (ReadWorker.slotCount_slotFailed ..)
  · split at hs
    · cases hs
      exact h.setWorker (ReadWorker.slotCount_slotFilled ..)
    · cases hs
  · cases hs

theorem HasSlots.step {sectorSize : Nat} {a : ReadAction} (h : p.HasSlots slotCounts)
    (hs : p.step sectorSize a = some p') : p'.HasSlots slotCounts := by
  cases a with
  | queueRead srb lba blockCount dataLength =>
    cases hs
    exact h
  | fillSlot =>
    obtain ⟨-, -, rfl⟩ := Option.map_eq_some_iff.1 hs
    exact h
  | sweep status =>
    cases hs
    exact h
  | slotFails slotId status =>
    cases hs
    exact h
  | takeAck n k lost => exact h.takeAck hs
  | copyAck n k lost => exact h.copyAck hs
  | ackFails n k status =>
    simp only [ReadPlane.step] at hs
    split_ifs at hs
    cases hs
    exact h.replyAck n k status
  | turn n stop =>
    simp only [ReadPlane.step] at hs
    split_ifs at hs
    cases hs
    exact h.setWorker (ReadWorker.slotCount_turn _ _)
  | beginAck n outcome =>
    simp only [ReadPlane.step] at hs
    split at hs
    · cases hs
      exact h.setWorker (ReadWorker.slotCount_beginAck ..)
    · cases hs
  | postSlot n outcome =>
    simp only [ReadPlane.step] at hs
    split at hs
    · cases hs
      exact HasSlots.postSlot h _ _ _
    · cases hs
  | ackDone n k stop =>
    simp only [ReadPlane.step] at hs
    split_ifs at hs
    obtain ⟨w, hw, rfl⟩ := Option.map_eq_some_iff.1 hs
    exact h.setWorker (ReadWorker.slotCount_ackDone hw)
  | slotDone n i stop allocated result =>
    simp only [ReadPlane.step] at hs
    split_ifs at hs
    exact h.slotDone hs
  | leaveDrain n =>
    simp only [ReadPlane.step] at hs
    split_ifs at hs
    cases hs
    exact h.setWorker (ReadWorker.slotCount_leaveDrain _)

/-- At most two handles for a slot, in every run. -/
theorem waitHandles_le {sectorSize slotBytes : Nat} {as : List ReadAction}
    (h : runFrom (step sectorSize) (.start slotCounts slotBytes) as = some p) (n : Nat) :
    (p.workers n).waitHandles ≤ 2 * slotCounts n := by
  have hslots : p.HasSlots slotCounts :=
    run_inv (fun _ _ _ hi hs => HasSlots.step hi hs) (fun _ => rfl) h
  rw [← hslots n]
  exact (p.workers n).waitHandles_le_two

end ReadPlane

/-! ## Full load -/

/-- What of a worker decides how its loop goes on. -/
structure Load where
  pc : ReadPc
  active : Nat → Bool
  pending : Nat → Bool
  ackActive : Nat → Bool
  ackPayload : Nat → Bool

namespace ReadWorker

def load (w : ReadWorker) : Load where
  pc := w.pc
  active i := (w.slots i).active
  pending i := (w.slots i).ackPending
  ackActive k := (w.acks k).active
  ackPayload k := (w.acks k).hasPayload

theorem load_pc (w : ReadWorker) (pc : ReadPc) :
    ({ w with pc } : ReadWorker).load = { w.load with pc } := rfl

theorem load_setSlot (w : ReadWorker) (i : Nat) (slot : ReadSlot) :
    (w.setSlot i slot).load = { w.load with
      active := Function.update w.load.active i slot.active
      pending := Function.update w.load.pending i slot.ackPending } := by
  have hactive : (fun j => (Function.update w.slots i slot j).active) =
      Function.update w.load.active i slot.active :=
    funext fun j => Function.apply_update (fun _ => ReadSlot.active) w.slots i slot j
  have hpending : (fun j => (Function.update w.slots i slot j).ackPending) =
      Function.update w.load.pending i slot.ackPending :=
    funext fun j => Function.apply_update (fun _ => ReadSlot.ackPending) w.slots i slot j
  rw [← hactive, ← hpending]
  rfl

theorem load_setAck (w : ReadWorker) (k : Nat) (ack : ReadAckContext) :
    (w.setAck k ack).load = { w.load with
      ackActive := Function.update w.load.ackActive k ack.active
      ackPayload := Function.update w.load.ackPayload k ack.hasPayload } := by
  have hactive : (fun j => (Function.update w.acks k ack j).active) =
      Function.update w.load.ackActive k ack.active :=
    funext fun j => Function.apply_update (fun _ => ReadAckContext.active) w.acks k ack j
  have hpayload : (fun j => (Function.update w.acks k ack j).hasPayload) =
      Function.update w.load.ackPayload k ack.hasPayload :=
    funext fun j => Function.apply_update (fun _ => ReadAckContext.hasPayload) w.acks k ack j
  rw [← hactive, ← hpayload]
  rfl

theorem load_ensureReadBufferCapacity {w w' : ReadWorker} {i required : Nat} {allocated : Bool}
    (h : w.ensureReadBufferCapacity i required allocated = some w') :
    w'.load = w.load ∧ w'.shuttingDown = w.shuttingDown := by
  unfold ensureReadBufferCapacity at h
  dsimp only at h
  split_ifs at h
  · cases h
    exact ⟨rfl, rfl⟩
  · cases h
    refine ⟨?_, rfl⟩
    show (w.setSlot i _).load = _
    rw [load_setSlot]
    show Load.mk _ (Function.update w.load.active i (w.load.active i))
      (Function.update w.load.pending i (w.load.pending i)) _ _ = _
    rw [Function.update_eq_self, Function.update_eq_self]

/-- A slot that was filled is to be acked, if there is memory. -/
theorem load_slotFilled {w : ReadWorker} {sectorSize i : Nat} {event : ReadSlotEvent}
    (hvalid : validateReadSlotEvent sectorSize event = true) (result : ReadResult) :
    (w.slotFilled sectorSize i event true result).1.load = { w.load with
        active := Function.update w.load.active i false
        pending := Function.update w.load.pending i true } ∧
      (w.slotFilled sectorSize i event true result).1.shuttingDown = w.shuttingDown := by
  let slot : ReadSlot := { w.slots i with active := false, slotId := 0, event }
  obtain ⟨w', hw'⟩ : ∃ w',
      (w.setSlot i slot).ensureReadBufferCapacity i event.dataLength true = some w' := by
    unfold ensureReadBufferCapacity
    dsimp only
    rw [if_neg (show ¬(!true) = true by decide)]
    split_ifs
    · exact ⟨_, rfl⟩
    · exact ⟨_, rfl⟩
  obtain ⟨hload, hdown⟩ := load_ensureReadBufferCapacity hw'
  have hactive : (w'.slots i).active = false := by
    have heq := congrFun (congrArg Load.active hload) i
    rw [load_setSlot] at heq
    exact heq.trans (Function.update_self ..)
  unfold slotFilled
  dsimp only
  rw [hvalid, if_neg (by decide), hw']
  dsimp only
  refine ⟨?_, hdown⟩
  rw [load_setSlot]
  show Load.mk w'.load.pc (Function.update w'.load.active i (w'.slots i).active)
    (Function.update w'.load.pending i true) w'.load.ackActive w'.load.ackPayload = _
  rw [hactive, hload, load_setSlot, Function.update_idem, Function.update_idem]

theorem assignAcks_none {l : List Nat} {w : ReadWorker}
    (h : ∀ i ∈ l, (w.slots i).ackPending = false) : w.assignAcks l = (w, true) := by
  induction l with
  | nil => rfl
  | cons i l ih =>
    rw [assignAcks, if_pos (by rw [h i List.mem_cons_self]; rfl)]
    exact ih fun j hj => h j (List.mem_cons_of_mem _ hj)

/-- The first `k` acks are taken. -/
theorem freeAck_eq {w : ReadWorker} {k : Nat} (hk : k < w.slotCount)
    (hpayload : ∀ j, (w.acks j).hasPayload = decide (j < k))
    (hactive : ∀ j, (w.acks j).active = decide (j < k)) : w.freeAck = some k := by
  rw [freeAck, List.find?_range_eq_some]
  refine ⟨?_, List.mem_range.2 hk, ?_⟩
  · simp [hpayload, hactive]
  · intro j hj
    simp [hpayload, hactive, hj]

end ReadWorker

/-- One more of the first `k`. -/
theorem update_lt (k : Nat) :
    Function.update (fun j => decide (j < k)) k true = fun j => decide (j < k + 1) := by
  funext j
  by_cases hj : j = k
  · subst hj
    simp
  · rw [Function.update_of_ne hj]
    simp only [decide_eq_decide]
    omega

namespace ReadPlane

variable {sectorSize s : Nat} {l : Load} {posted : List PostedSlot} {p : ReadPlane}

@[simp] theorem workers_setWorker_self (p : ReadPlane) (n : Nat) (w : ReadWorker) :
    (p.setWorker n w).workers n = w := Function.update_self ..

/-- The first worker, with `s` slots, is at a place of its loop; `posted` waits in the driver, and
every read of the driver has its slot. -/
structure Running (s : Nat) (l : Load) (posted : List PostedSlot) (p : ReadPlane) : Prop where
  slotCount : (p.workers 0).slotCount = s
  up : (p.workers 0).shuttingDown = false
  load : (p.workers 0).load = l
  posted : p.queue.postedReadSlots = posted
  issued : ∀ request ∈ p.queue.pendingReads, request.slotIssued = true

namespace Running

theorem pc (h : Running s l posted p) : (p.workers 0).pc = l.pc := congrArg Load.pc h.load

theorem active (h : Running s l posted p) (i : Nat) : ((p.workers 0).slots i).active = l.active i :=
  congrFun (congrArg Load.active h.load) i

theorem pending (h : Running s l posted p) (i : Nat) :
    ((p.workers 0).slots i).ackPending = l.pending i :=
  congrFun (congrArg Load.pending h.load) i

theorem ackActive (h : Running s l posted p) (k : Nat) :
    ((p.workers 0).acks k).active = l.ackActive k :=
  congrFun (congrArg Load.ackActive h.load) k

theorem ackPayload (h : Running s l posted p) (k : Nat) :
    ((p.workers 0).acks k).hasPayload = l.ackPayload k :=
  congrFun (congrArg Load.ackPayload h.load) k

/-- Only the worker changes. -/
theorem setWorker {w : ReadWorker} {l' : Load} (h : Running s l posted p) (hslots : w.slotCount = s)
    (hup : w.shuttingDown = false) (hload : w.load = l') :
    Running s l' posted (p.setWorker 0 w) where
  slotCount := by rw [workers_setWorker_self, hslots]
  up := by rw [workers_setWorker_self, hup]
  load := by rw [workers_setWorker_self, hload]
  posted := h.posted
  issued := h.issued

/-! ### The steps of the loop -/

/-- The top of the loop when nothing is to be acked. -/
theorem turn (h : Running s l posted p) (hpc : l.pc = .turn) (hpending : ∀ i, l.pending i = false) :
    Reaches (step sectorSize) p (Running s { l with pc := .begin 0 } posted) := by
  have hassign : (p.workers 0).assignAcks (List.range (p.workers 0).slotCount) =
      (p.workers 0, true) :=
    ReadWorker.assignAcks_none fun i _ => (h.pending i).trans (hpending i)
  have hturn : (p.workers 0).turn false = { p.workers 0 with pc := .begin 0 } := by
    rw [ReadWorker.turn, h.up, if_pos (by decide), hassign]
    rfl
  have hs : step sectorSize p (.turn 0 false) =
      some (p.setWorker 0 { p.workers 0 with pc := .begin 0 }) := by
    simp only [step]
    rw [if_pos (h.pc.trans hpc), hturn]
  refine .after hs (.here (h.setWorker h.slotCount h.up ?_))
  rw [ReadWorker.load_pc, h.load]

/-- An ack that is not begun. -/
theorem skipAck {k : Nat} (h : Running s { l with pc := .begin k } posted p) (hk : k < s) :
    Reaches (step sectorSize) p (Running s { l with pc := .begin (k + 1) } posted) := by
  have hbegin : (p.workers 0).beginAck k .notReady = { p.workers 0 with pc := .begin (k + 1) } := by
    unfold ReadWorker.beginAck
    dsimp only
    rw [if_neg (by rw [h.slotCount]; omega)]
    split_ifs <;> rfl
  have hs : step sectorSize p (.beginAck 0 .notReady) =
      some (p.setWorker 0 { p.workers 0 with pc := .begin (k + 1) }) := by
    simp only [step]
    rw [h.pc]
    dsimp only
    rw [hbegin]
  refine .after hs (.here (h.setWorker h.slotCount h.up ?_))
  rw [ReadWorker.load_pc, h.load]

/-- The acks from `k` to `m` are not begun. -/
theorem skipAcks {k m : Nat} (h : Running s { l with pc := .begin k } posted p) (hm : k + m ≤ s) :
    Reaches (step sectorSize) p (Running s { l with pc := .begin (k + m) } posted) :=
  Reaches.loop (P := fun m => Running s { l with pc := .begin (k + m) } posted) h
    fun j hj _ ht => skipAck ht (show k + j < s by omega)

/-- An ack is begun. -/
theorem sendAck {k : Nat} (h : Running s { l with pc := .begin k } posted p) (hk : k < s)
    (hpayload : l.ackPayload k = true) (hactive : l.ackActive k = false) :
    Reaches (step sectorSize) p (Running s
      { l with pc := .begin (k + 1), ackActive := Function.update l.ackActive k true } posted) := by
  have hp : ((p.workers 0).acks k).hasPayload = true := (h.ackPayload k).trans hpayload
  have ha : ((p.workers 0).acks k).active = false := (h.ackActive k).trans hactive
  let w : ReadWorker := { p.workers 0 with pc := .begin (k + 1) }
  let ack : ReadAckContext := { (p.workers 0).acks k with active := true, reply := none }
  have hbegin : (p.workers 0).beginAck k .sent = w.setAck k ack := by
    unfold ReadWorker.beginAck
    dsimp only
    rw [if_neg (by rw [h.slotCount]; omega), if_neg (by rw [hp, ha]; decide)]
  have hs : step sectorSize p (.beginAck 0 .sent) = some (p.setWorker 0 (w.setAck k ack)) := by
    simp only [step]
    rw [h.pc]
    dsimp only
    rw [hbegin]
  refine .after hs (.here (h.setWorker h.slotCount h.up ?_))
  have hstays : Function.update l.ackPayload k true = l.ackPayload := by
    rw [← hpayload, Function.update_eq_self]
  rw [ReadWorker.load_setAck, ReadWorker.load_pc, h.load]
  show Load.mk _ _ _ (Function.update l.ackActive k true)
    (Function.update l.ackPayload k ((p.workers 0).acks k).hasPayload) = _
  rw [hp, hstays]

/-- The acks are all looked at. -/
theorem endAcks (h : Running s { l with pc := .begin s } posted p) :
    Reaches (step sectorSize) p (Running s { l with pc := .post 0 } posted) := by
  have hbegin : (p.workers 0).beginAck s .notReady = { p.workers 0 with pc := .post 0 } := by
    unfold ReadWorker.beginAck
    dsimp only
    rw [if_pos (Nat.le_of_eq h.slotCount)]
  have hs : step sectorSize p (.beginAck 0 .notReady) =
      some (p.setWorker 0 { p.workers 0 with pc := .post 0 }) := by
    simp only [step]
    rw [h.pc]
    dsimp only
    rw [hbegin]
  refine .after hs (.here (h.setWorker h.slotCount h.up ?_))
  rw [ReadWorker.load_pc, h.load]

/-- No ack is begun in this turn. -/
theorem noAcks (h : Running s { l with pc := .begin 0 } posted p) :
    Reaches (step sectorSize) p (Running s { l with pc := .post 0 } posted) := by
  have hskip : Reaches (step sectorSize) p (Running s { l with pc := .begin (0 + s) } posted) :=
    skipAcks h (by omega)
  rw [Nat.zero_add] at hskip
  exact hskip.bind fun _ ht => endAcks ht

/-- A slot that is not posted. -/
theorem skipSlot {i : Nat} (h : Running s { l with pc := .post i } posted p) (hi : i < s) :
    Reaches (step sectorSize) p fun p' =>
      Running s { l with pc := .post (i + 1) } posted p' ∧
        (p'.workers 0).slots = (p.workers 0).slots := by
  have hpost : p.postSlot 0 i .notReady =
      p.setWorker 0 { p.workers 0 with pc := .post (i + 1) } := by
    unfold postSlot
    dsimp only
    rw [if_neg (by rw [h.slotCount]; omega)]
    split_ifs <;> rfl
  have hs : step sectorSize p (.postSlot 0 .notReady) =
      some (p.setWorker 0 { p.workers 0 with pc := .post (i + 1) }) := by
    simp only [step]
    rw [h.pc]
    dsimp only
    rw [hpost]
  refine .after hs (.here ⟨h.setWorker h.slotCount h.up ?_, ?_⟩)
  · rw [ReadWorker.load_pc, h.load]
  · rw [workers_setWorker_self]

theorem endSlots (h : Running s { l with pc := .post s } posted p) :
    Reaches (step sectorSize) p fun p' =>
      Running s { l with pc := .drain } posted p' ∧
        (p'.workers 0).slots = (p.workers 0).slots := by
  have hpost : p.postSlot 0 s .notReady = p.setWorker 0 { p.workers 0 with pc := .drain } := by
    unfold postSlot
    dsimp only
    rw [if_pos (Nat.le_of_eq h.slotCount)]
  have hs : step sectorSize p (.postSlot 0 .notReady) =
      some (p.setWorker 0 { p.workers 0 with pc := .drain }) := by
    simp only [step]
    rw [h.pc]
    dsimp only
    rw [hpost]
  refine .after hs (.here ⟨h.setWorker h.slotCount h.up ?_, ?_⟩)
  · rw [ReadWorker.load_pc, h.load]
  · rw [workers_setWorker_self]

/-- The slots from `i` on are not posted in this turn. -/
theorem restSlots {i : Nat} (h : Running s { l with pc := .post i } posted p) (hi : i ≤ s) :
    Reaches (step sectorSize) p fun p' =>
      Running s { l with pc := .drain } posted p' ∧
        (p'.workers 0).slots = (p.workers 0).slots := by
  have hskip : Reaches (step sectorSize) p fun p' =>
      Running s { l with pc := .post (i + (s - i)) } posted p' ∧
        (p'.workers 0).slots = (p.workers 0).slots :=
    Reaches.loop (P := fun m p' => Running s { l with pc := .post (i + m) } posted p' ∧
      (p'.workers 0).slots = (p.workers 0).slots) ⟨h, rfl⟩ fun m hm q hq =>
    (skipSlot hq.1 (show i + m < s by omega)).bind fun _ ht => .here ⟨ht.1, ht.2.trans hq.2⟩
  rw [show i + (s - i) = s by omega] at hskip
  exact hskip.bind fun q hq => (endSlots hq.1).bind fun _ ht => .here ⟨ht.1, ht.2.trans hq.2⟩

/-- A slot is posted. -/
theorem sendSlot {i : Nat} (h : Running s { l with pc := .post i } posted p) (hi : i < s)
    (hactive : l.active i = false) (hpending : l.pending i = false) :
    Reaches (step sectorSize) p fun p' =>
      Running s { l with pc := .post (i + 1), active := Function.update l.active i true }
        (posted ++ [⟨p.nextTxId, p.nextTxId, 1, 32⟩]) p' ∧
      ((p'.workers 0).slots i).slotId = p.nextTxId := by
  let w : ReadWorker := { p.workers 0 with pc := .post (i + 1) }
  let slot : ReadSlot :=
    { (p.workers 0).slots i with slotId := p.nextTxId, event := {}, active := true }
  let queue := p.queue.insertReadSlot ⟨p.nextTxId, p.nextTxId, 1, 32⟩
  have ha : ((p.workers 0).slots i).active = false := (h.active i).trans hactive
  have hp : ((p.workers 0).slots i).ackPending = false := (h.pending i).trans hpending
  have hpost : p.postSlot 0 i .sent =
      { p.setWorker 0 (w.setSlot i slot) with nextTxId := p.nextTxId + 1, queue } := by
    unfold postSlot
    dsimp only
    rw [if_neg (by rw [h.slotCount]; omega), if_neg (by rw [ha, hp]; decide)]
  have hs : step sectorSize p (.postSlot 0 .sent) =
      some { p.setWorker 0 (w.setSlot i slot) with nextTxId := p.nextTxId + 1, queue } := by
    simp only [step]
    rw [h.pc]
    dsimp only
    rw [hpost]
  have hworker : ({ p.setWorker 0 (w.setSlot i slot) with
      nextTxId := p.nextTxId + 1, queue } : ReadPlane).workers 0 = w.setSlot i slot :=
    workers_setWorker_self p 0 _
  have hstays : Function.update l.pending i false = l.pending := by
    rw [← hpending, Function.update_eq_self]
  refine .after hs (.here ⟨⟨?_, ?_, ?_, ?_, h.issued⟩, ?_⟩)
  · rw [hworker]
    exact h.slotCount
  · rw [hworker]
    exact h.up
  · rw [hworker, ReadWorker.load_setSlot, ReadWorker.load_pc, h.load]
    show Load.mk _ (Function.update l.active i true)
      (Function.update l.pending i ((p.workers 0).slots i).ackPending) _ _ = _
    rw [hp, hstays]
  · show p.queue.postedReadSlots ++ _ = _
    rw [h.posted]
  · rw [hworker]
    show (Function.update (p.workers 0).slots i slot i).slotId = _
    rw [Function.update_self]

/-- Nothing has ended: the worker waits, and goes on. -/
theorem leaveDrain (h : Running s { l with pc := .drain } posted p) :
    Reaches (step sectorSize) p (Running s { l with pc := .turn } posted) := by
  have hleave : (p.workers 0).leaveDrain = { p.workers 0 with pc := .turn } := by
    rw [ReadWorker.leaveDrain, if_neg (by simp [h.up])]
  have hs : step sectorSize p (.leaveDrain 0) =
      some (p.setWorker 0 { p.workers 0 with pc := .turn }) := by
    simp only [step]
    rw [if_pos h.pc, hleave]
  refine .after hs (.here (h.setWorker h.slotCount h.up ?_))
  rw [ReadWorker.load_pc, h.load]

/-! ### A read -/

/-- A read comes and takes the slot that is posted. -/
theorem readComes {id : Nat} (h : Running s l [⟨id, id, 1, 32⟩] p) :
    Reaches (step sectorSize) p fun p' =>
      Running s l [] p' ∧ p'.workers = p.workers ∧
        ∃ eventId, p'.slotReply id = some (.ok ⟨eventId + 1, 0, 1, sectorSize⟩) := by
  let request := allocReadRequest 0 (p.nextEventId + 1) 0 1 sectorSize
  let p₁ : ReadPlane := { p with
    nextEventId := p.nextEventId + 1, queue := p.queue.insertRead request }
  have hqueue : step sectorSize p (.queueRead 0 0 1 sectorSize) = some p₁ := rfl
  have hold : p.queue.pendingReads.findIdx? (fun request => !request.slotIssued) = none := by
    rw [List.findIdx?_eq_none_iff]
    intro r hr
    rw [h.issued r hr]
    rfl
  have hfind : p₁.queue.pendingReads.findIdx? (fun request => !request.slotIssued) =
      some p.queue.pendingReads.length := by
    show (p.queue.pendingReads ++ [request]).findIdx? _ = _
    rw [List.findIdx?_append, hold]
    simp [request, allocReadRequest]
  have hget : p₁.queue.pendingReads[p.queue.pendingReads.length]? = some request :=
    List.getElem?_concat_length
  let pendingReads := p.queue.pendingReads ++ [{ request with slotIssued := true }]
  have hset : p₁.queue.pendingReads.set p.queue.pendingReads.length
      { request with slotIssued := true } = pendingReads := by
    show (p.queue.pendingReads ++ [request]).set _ _ = _
    rw [List.set_append_right _ _ (Nat.le_refl _), Nat.sub_self]
    rfl
  let queue : QueueState := { p₁.queue with postedReadSlots := [], pendingReads }
  have hreserve : p₁.queue.reserveRead = some (queue, request, ⟨id, id, 1, 32⟩) := by
    unfold QueueState.reserveRead
    rw [hfind, show p₁.queue.postedReadSlots = [⟨id, id, 1, 32⟩] from h.posted]
    dsimp only
    rw [hget, Option.map_some, hset]
  let reply : SlotReply := .ok (slotEvent request)
  have hfill : step sectorSize p₁ .fillSlot =
      some { p₁ with queue, slotReply := Function.update p₁.slotReply id (some reply) } := by
    simp only [step]
    rw [hreserve]
    rfl
  have hissued : ∀ r ∈ pendingReads, r.slotIssued = true := by
    intro r hr
    rcases List.mem_append.1 hr with hr | hr
    · exact h.issued r hr
    · rw [List.mem_singleton.1 hr]
  exact .after hqueue (.after hfill (.here ⟨⟨h.slotCount, h.up, h.load, rfl, hissued⟩, rfl,
    p.nextEventId, Function.update_self ..⟩))

/-- The worker has read the bytes: the slot is to be acked. -/
theorem readDone {i id eventId : Nat} (h : Running s { l with pc := .drain } posted p)
    (hactive : l.active i = true) (hid : ((p.workers 0).slots i).slotId = id)
    (hreply : p.slotReply id = some (.ok ⟨eventId + 1, 0, 1, sectorSize⟩)) :
    Reaches (step sectorSize) p (Running s { l with
      pc := .drain
      active := Function.update l.active i false
      pending := Function.update l.pending i true } posted) := by
  let event : ReadSlotEvent := ⟨eventId + 1, 0, 1, sectorSize⟩
  let result : ReadResult := ⟨List.replicate sectorSize 0, statusSuccess, sectorSize⟩
  have hvalid : validateReadSlotEvent sectorSize event = true := by
    simp [validateReadSlotEvent, event]
  obtain ⟨hload, hdown⟩ := ReadWorker.load_slotFilled (w := p.workers 0) (i := i) hvalid result
  have hcount := ReadWorker.slotCount_slotFilled (p.workers 0) sectorSize i event true result
  generalize hfilled : (p.workers 0).slotFilled sectorSize i event true result = filled at *
  obtain ⟨w, read⟩ := filled
  have ha : ((p.workers 0).slots i).active = true := (h.active i).trans hactive
  let finished : ReadPlane := { p with slotReply := Function.update p.slotReply id none }
  have hs : step sectorSize p (.slotDone 0 i false true result) =
      some { finished.setWorker 0 w with returned := p.returned ++ read.toList } := by
    simp only [step]
    rw [if_pos h.pc]
    unfold slotDone
    dsimp only
    rw [hid, ha, hreply]
    dsimp only
    rw [if_pos List.length_replicate, hfilled]
  have hworker : ({ finished.setWorker 0 w with
      returned := p.returned ++ read.toList } : ReadPlane).workers 0 = w :=
    workers_setWorker_self finished 0 w
  refine .after hs (.here ⟨?_, ?_, ?_, h.posted, h.issued⟩)
  · rw [hworker]
    exact hcount.trans h.slotCount
  · rw [hworker]
    exact hdown.trans h.up
  · rw [hworker]
    refine hload.trans ?_
    rw [h.load]

/-- The top of the loop when the first slot is to be acked: it goes to the first free ack. -/
theorem turnPending {k : Nat} (h : Running s { l with pc := .turn } posted p) (hk : k < s)
    (hpending : l.pending = Function.update (fun _ => false) 0 true)
    (hactive : l.ackActive = fun j => decide (j < k))
    (hpayload : l.ackPayload = fun j => decide (j < k)) :
    Reaches (step sectorSize) p (Running s { l with
      pc := .begin 0
      pending := fun _ => false
      ackPayload := fun j => decide (j < k + 1) } posted) := by
  have hfree : (p.workers 0).freeAck = some k :=
    ReadWorker.freeAck_eq (h.slotCount ▸ hk)
      (fun j => (h.ackPayload j).trans (congrFun hpayload j))
      fun j => (h.ackActive j).trans (congrFun hactive j)
  have hfirst : ((p.workers 0).slots 0).ackPending = true := by
    rw [h.pending, hpending, Function.update_self]
  let w := (p.workers 0).handOver 0 k
  have hload : w.load = { l with
      pc := .turn, pending := fun _ => false, ackPayload := fun j => decide (j < k + 1) } := by
    show (((p.workers 0).setAck k _).setSlot 0 _).load = _
    rw [ReadWorker.load_setSlot, ReadWorker.load_setAck, h.load]
    show Load.mk _ (Function.update l.active 0 ((p.workers 0).slots 0).active)
      (Function.update l.pending 0 false) (Function.update l.ackActive k ((p.workers 0).acks k).active)
      (Function.update l.ackPayload k true) = _
    rw [h.active, h.ackActive, Function.update_eq_self, Function.update_eq_self, hpending,
      Function.update_idem, hpayload, update_lt]
    rw [Function.update_eq_self]
  have hassign : (p.workers 0).assignAcks (List.range (p.workers 0).slotCount) = (w, true) := by
    obtain ⟨m, rfl⟩ : ∃ m, s = m + 1 := ⟨s - 1, by omega⟩
    rw [h.slotCount, List.range_succ_eq_map, ReadWorker.assignAcks, if_neg (by simp [hfirst]),
      hfree]
    refine ReadWorker.assignAcks_none fun i _ => ?_
    exact congrFun (congrArg Load.pending hload) i
  have hturn : (p.workers 0).turn false = { w with pc := .begin 0 } := by
    rw [ReadWorker.turn, h.up, if_pos (by decide), hassign]
    rfl
  have hs : step sectorSize p (.turn 0 false) = some (p.setWorker 0 { w with pc := .begin 0 }) := by
    simp only [step]
    rw [if_pos h.pc, hturn]
  refine .after hs (.here (h.setWorker h.slotCount h.up ?_))
  rw [ReadWorker.load_pc, hload]

/-- `k` acks are under way, and no slot. -/
def loaded (k : Nat) : Load where
  pc := .turn
  active _ := false
  pending _ := false
  ackActive j := decide (j < k)
  ackPayload j := decide (j < k)

/-- **One more ack**: a slot is posted and filled, and handed over. -/
theorem oneMore {k : Nat} (h : Running s (loaded k) [] p) (hk : k < s) :
    Reaches (step sectorSize) p (Running s (loaded (k + 1)) []) := by
  -- the first slot is posted, and filled
  refine (turn h rfl fun _ => rfl).bind fun _ h => (noAcks h).bind fun p₁ h => ?_
  refine (sendSlot h (by omega) rfl rfl).bind fun _ h => ?_
  let posting : Load := { loaded k with active := Function.update (loaded k).active 0 true }
  refine (restSlots (l := posting) h.1 (show 0 + 1 ≤ s by omega)).bind fun _ h' => ?_
  have hid := (congrArg ReadSlot.slotId (congrFun h'.2 0)).trans h.2
  refine (readComes h'.1).bind fun _ h => ?_
  obtain ⟨h, hworkers, eventId, hreply⟩ := h
  rw [← hworkers] at hid
  refine (readDone h (Function.update_self ..) hid hreply).bind fun _ h => ?_
  -- its bytes go to the next ack
  let filled : Load := { loaded k with
    active := Function.update posting.active 0 false
    pending := Function.update (loaded k).pending 0 true }
  refine (leaveDrain (l := filled) h).bind fun _ h => ?_
  refine (turnPending (l := filled) h hk rfl rfl rfl).bind fun _ h => ?_
  let handed : Load := { filled with
    pending := fun _ => false
    ackPayload := fun j => decide (j < k + 1) }
  have hpayload : handed.ackPayload k = true := decide_eq_true (Nat.lt_succ_self k)
  have hfree : handed.ackActive k = false := decide_eq_false (Nat.lt_irrefl k)
  refine (skipAcks (l := handed) h (show 0 + k ≤ s by omega)).bind fun _ h => ?_
  rw [Nat.zero_add] at h
  refine (sendAck (l := handed) h hk hpayload hfree).bind fun _ h => ?_
  let sent : Load := { handed with ackActive := Function.update handed.ackActive k true }
  refine (skipAcks (l := sent) h (show k + 1 + (s - (k + 1)) ≤ s by omega)).bind fun _ h => ?_
  rw [show k + 1 + (s - (k + 1)) = s by omega] at h
  refine (endAcks (l := sent) h).bind fun _ h => ?_
  refine (restSlots (l := sent) h (Nat.zero_le s)).bind fun _ h => ?_
  refine (leaveDrain (l := sent) h.1).bind fun _ h => .here ?_
  have hload : loaded (k + 1) = { loaded k with
      active := Function.update (Function.update (loaded k).active 0 true) 0 false
      ackActive := Function.update (loaded k).ackActive k true
      ackPayload := fun j => decide (j < k + 1) } := by
    rw [Function.update_idem]
    show _ = Load.mk _ (Function.update (fun _ => false) 0 false) _
      (Function.update (fun j => decide (j < k)) k true) _
    rw [update_lt, Function.update_eq_self]
    rfl
  rw [hload]
  exact h

/-- **Every ack, then every slot.** -/
theorem fullLoad (h : Running s (loaded s) [] p) :
    Reaches (step sectorSize) p fun p' =>
      (p'.workers 0).pc = .drain ∧ (p'.workers 0).waitHandles = 2 * s := by
  refine (turn h rfl fun _ => rfl).bind fun _ h => (noAcks h).bind fun p h => ?_
  have hpost : Reaches (step sectorSize) p fun p' => ∃ posted,
      Running s { loaded s with pc := .post s, active := fun j => decide (j < s) } posted p' :=
    Reaches.loop (P := fun i p' => ∃ posted,
      Running s { loaded s with pc := .post i, active := fun j => decide (j < i) } posted p')
    ⟨[], h⟩ fun i hi q hq => by
      obtain ⟨posted, hq⟩ := hq
      let before : Load := { loaded s with active := fun j => decide (j < i) }
      have hfree : before.active i = false := decide_eq_false (Nat.lt_irrefl i)
      refine (sendSlot (l := before) hq hi hfree rfl).bind fun _ ht => .here ?_
      refine ⟨posted ++ [⟨q.nextTxId, q.nextTxId, 1, 32⟩], ?_⟩
      rw [← update_lt]
      exact ht.1
  refine hpost.bind fun _ h => ?_
  obtain ⟨posted, h⟩ := h
  let every : Load := { loaded s with active := fun j => decide (j < s) }
  refine (restSlots (l := every) h (Nat.le_refl s)).bind fun q h => .here ⟨h.1.pc, ?_⟩
  have hactive : ∀ i, ((q.workers 0).slots i).active = decide (i < s) := h.1.active
  have hacks : ∀ k, ((q.workers 0).acks k).active = decide (k < s) := h.1.ackActive
  have hall : (List.range s).countP (fun i => decide (i < s)) = s := by
    rw [List.countP_eq_length.2, List.length_range]
    intro i hi
    exact decide_eq_true (List.mem_range.1 hi)
  rw [ReadWorker.waitHandles, h.1.slotCount]
  simp only [hactive, hacks, hall]
  omega

end Running

/-- **Two handles for a slot, in some run.** -/
theorem reaches_fullLoad (sectorSize slotBytes : Nat) (slotCounts : Nat → Nat) :
    Reaches (step sectorSize) (.start slotCounts slotBytes) fun p =>
      (p.workers 0).pc = .drain ∧ (p.workers 0).waitHandles = 2 * slotCounts 0 := by
  have hstart : Running (slotCounts 0) (Running.loaded 0) [] (.start slotCounts slotBytes) :=
    ⟨rfl, rfl, by simp [ReadWorker.load, start, ReadWorker.start, Running.loaded], rfl, nofun⟩
  have hacks : Reaches (step sectorSize) (.start slotCounts slotBytes)
      (Running (slotCounts 0) (Running.loaded (slotCounts 0)) []) :=
    Reaches.loop (P := fun k => Running (slotCounts 0) (Running.loaded k) []) hstart
      fun k hk _ ht => Running.oneMore ht hk
  exact hacks.bind fun _ ht => ht.fullLoad

end ReadPlane

end YumeDisk.AppKernel
