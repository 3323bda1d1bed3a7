import Mathlib.Algebra.BigOperators.Ring.Finset
import YumeDisk.AppKernel.FullLoad

/-!
# The sizes of the workers of a disk (`AppKernel/src/disk/ak_disk.c`)

The queue depth of a disk is split among its read workers and among its write workers.  A worker
waits for the I/O of its slots, a read worker also for the I/O of its acks.

* `sum_workerSlotCount`: the slots of the workers are the queue depth.
* `WriteWorker.step`: the loop of a write worker, as far as its slots go.
* `Sized`: no worker waits for more than the system allows, and no size wraps.
* `sized_iff`: **the parameters with which that is so.**
-/

namespace YumeDisk.AppKernel

open Lib Miniport

/-! ## Parameters -/

def maxUsableTargetId : UInt32 := 254

/-- `AK_DISK_PARAMS`. -/
structure DiskParams where
  targetId : UInt32
  sectorSize : UInt32
  diskSizeBytes : UInt64
  queueDepth : UInt32
  writeSlotBytes : UInt32
  readWorkerCount : UInt16
  writeWorkerCount : UInt16
  ackBatchMaxRanges : UInt32
  readOnly : UInt32
deriving DecidableEq, Repr

/-- Which callbacks of `AK_DISK_OPS` there are. -/
structure DiskOps where
  readBytes : Bool
  stageWrite : Bool
  onEvent : Bool
deriving DecidableEq, Repr

/-- `AkDiskValidateParams`; `none` is a null pointer. -/
def validateParams (params : Option DiskParams) (diskOps : Option DiskOps) : NtStatus :=
  match params, diskOps with
  | some params, some diskOps =>
    if params.sectorSize = 0 ∨ params.diskSizeBytes = 0 ∨
        params.diskSizeBytes % params.sectorSize.toUInt64 ≠ 0 then
      statusInvalidParameter
    else if params.queueDepth = 0 then statusInvalidParameter
    else if params.writeSlotBytes = 0 then statusInvalidParameter
    else if params.readWorkerCount = 0 ∨ params.writeWorkerCount = 0 then statusInvalidParameter
    else if params.ackBatchMaxRanges = 0 then statusInvalidParameter
    else if params.targetId > maxUsableTargetId then statusInvalidParameter
    else if !diskOps.readBytes || !diskOps.stageWrite || !diskOps.onEvent then
      statusInvalidParameter
    else statusSuccess
  | _, _ => statusInvalidParameter

/-- The part of worker `index` in a queue depth. -/
def workerSlotCount (queueDepth : UInt32) (workerCount : UInt16) (index : UInt32) : UInt32 :=
  let workerCount := workerCount.toUInt32
  if workerCount = 0 then 0
  else
    let baseCount := queueDepth / workerCount
    let remainder := queueDepth % workerCount
    if index < remainder then baseCount + 1 else baseCount

/-- `AkDiskComputeReadWorkerSlotCount`. -/
def computeReadWorkerSlotCount (params : DiskParams) (index : UInt32) : UInt32 :=
  workerSlotCount params.queueDepth params.readWorkerCount index

/-- `AkDiskComputeWriteWorkerSlotCount`. -/
def computeWriteWorkerSlotCount (params : DiskParams) (index : UInt32) : UInt32 :=
  workerSlotCount params.queueDepth params.writeWorkerCount index

/-- `YUMEDISK_WRITE_SLOT_HEADER_BASE_SIZE`. -/
def writeSlotHeaderBaseSize : UInt32 := 48

/-- `slot_capacity` of a write worker. -/
def slotCapacity (params : DiskParams) : UInt32 := writeSlotHeaderBaseSize + params.writeSlotBytes

/-- The number of wait handles that a read worker allocates. -/
def readWaitCapacity (params : DiskParams) (index : UInt32) : UInt32 :=
  computeReadWorkerSlotCount params index * 2

/-! ## The split -/

theorem toUInt32_ne_zero {n : UInt16} (h : n ≠ 0) : n.toUInt32 ≠ 0 := fun hzero =>
  h (UInt16.toNat_inj.1 (by simpa using congrArg UInt32.toNat hzero))

theorem workerSlotCount_toNat (queueDepth : UInt32) {workerCount : UInt16} {index : Nat}
    (hcount : workerCount ≠ 0) (hindex : index < workerCount.toNat) :
    (workerSlotCount queueDepth workerCount (UInt32.ofNat index)).toNat =
      queueDepth.toNat / workerCount.toNat +
        if index < queueDepth.toNat % workerCount.toNat then 1 else 0 := by
  have hdepth : queueDepth.toNat < 2 ^ 32 := queueDepth.toNat_lt
  have hworkers : workerCount.toNat < 2 ^ 16 := workerCount.toNat_lt
  have hless : (UInt32.ofNat index < queueDepth % workerCount.toUInt32) ↔
      index < queueDepth.toNat % workerCount.toNat := by
    rw [UInt32.lt_iff_toNat_lt, UInt32.toNat_mod, UInt16.toNat_toUInt32, UInt32.toNat_ofNat',
      Nat.mod_eq_of_lt (by omega)]
  unfold workerSlotCount
  dsimp only
  rw [if_neg (toUInt32_ne_zero hcount)]
  by_cases hrem : index < queueDepth.toNat % workerCount.toNat
  · rw [if_pos (hless.2 hrem), if_pos hrem, UInt32.toNat_add, UInt32.toNat_div,
      UInt16.toNat_toUInt32]
    -- there is a remainder only if there are two workers
    have htwo : 2 ≤ workerCount.toNat := by
      by_contra hone
      have hmod : queueDepth.toNat % 1 = 0 := Nat.mod_one _
      rw [show workerCount.toNat = 1 by omega] at hrem
      omega
    have hhalf : queueDepth.toNat / workerCount.toNat ≤ queueDepth.toNat / 2 :=
      Nat.div_le_div_left htwo (by decide)
    exact Nat.mod_eq_of_lt (by simp only [UInt32.toNat_one]; omega)
  · rw [if_neg (mt hless.1 hrem), if_neg hrem, UInt32.toNat_div, UInt16.toNat_toUInt32,
      Nat.add_zero]

/-- **The slots of the workers are the queue depth.** -/
theorem sum_workerSlotCount (queueDepth : UInt32) {workerCount : UInt16}
    (hcount : workerCount ≠ 0) :
    ∑ i ∈ Finset.range workerCount.toNat,
      (workerSlotCount queueDepth workerCount (UInt32.ofNat i)).toNat = queueDepth.toNat := by
  have hpos : 0 < workerCount.toNat := by
    have hne : workerCount.toNat ≠ 0 := fun hzero => hcount (UInt16.toNat_inj.1 hzero)
    omega
  have hmod : queueDepth.toNat % workerCount.toNat < workerCount.toNat := Nat.mod_lt _ hpos
  have hfilter : (Finset.range workerCount.toNat).filter
      (· < queueDepth.toNat % workerCount.toNat) =
        Finset.range (queueDepth.toNat % workerCount.toNat) := by
    ext i
    simp only [Finset.mem_filter, Finset.mem_range]
    omega
  rw [Finset.sum_congr rfl fun i hi =>
    workerSlotCount_toNat queueDepth hcount (Finset.mem_range.1 hi), Finset.sum_add_distrib,
    Finset.sum_const_nat fun _ _ => rfl, Finset.card_range, ← Finset.card_filter, hfilter,
    Finset.card_range]
  exact Nat.div_add_mod _ _

/-- No worker has more than its part, rounded up. -/
theorem workerSlotCount_le {queueDepth : UInt32} {workerCount : UInt16} {index bound : Nat}
    (hcount : workerCount ≠ 0) (hindex : index < workerCount.toNat)
    (h : queueDepth.toNat ≤ bound * workerCount.toNat) :
    (workerSlotCount queueDepth workerCount (UInt32.ofNat index)).toNat ≤ bound := by
  have hpos : 0 < workerCount.toNat := by omega
  have hdiv : queueDepth.toNat / workerCount.toNat ≤ bound := Nat.div_le_of_le_mul (by
    rw [Nat.mul_comm]
    exact h)
  rw [workerSlotCount_toNat queueDepth hcount hindex]
  by_cases hrem : index < queueDepth.toNat % workerCount.toNat
  · rw [if_pos hrem]
    have hlt : queueDepth.toNat / workerCount.toNat < bound := by
      refine lt_of_le_of_ne hdiv fun heq => ?_
      have hsplit := Nat.div_add_mod queueDepth.toNat workerCount.toNat
      rw [heq, Nat.mul_comm] at hsplit
      omega
    omega
  · rw [if_neg hrem]
    omega

/-- The first worker has its part, rounded up. -/
theorem lt_workerSlotCount {queueDepth : UInt32} {workerCount : UInt16} {bound : Nat}
    (hcount : workerCount ≠ 0) (h : bound * workerCount.toNat < queueDepth.toNat) :
    bound < (workerSlotCount queueDepth workerCount 0).toNat := by
  have hpos : 0 < workerCount.toNat := by
    have hne : workerCount.toNat ≠ 0 := fun hzero => hcount (UInt16.toNat_inj.1 hzero)
    omega
  have hcountNat := workerSlotCount_toNat queueDepth hcount hpos
  have hsplit := Nat.div_add_mod queueDepth.toNat workerCount.toNat
  have hge : bound ≤ queueDepth.toNat / workerCount.toNat :=
    (Nat.le_div_iff_mul_le hpos).2 (Nat.le_of_lt h)
  rw [show (0 : UInt32) = UInt32.ofNat 0 from rfl, hcountNat]
  split_ifs with hrem
  · omega
  · rw [Nat.add_zero]
    refine lt_of_le_of_ne hge fun heq => ?_
    rw [← heq, Nat.mul_comm] at hsplit
    omega

/-! ## Write workers -/

/-- `MAXIMUM_WAIT_OBJECTS`. -/
def maximumWaitObjects : Nat := 64

/-- Where the loop of a write worker is. -/
inductive WritePc
  | turn
  | post (slotIndex : Nat)
  | drain
  | closed
deriving DecidableEq, Repr

/-- The slots of a write worker, as far as its loop goes. -/
structure WriteWorker where
  slotCount : Nat
  active : Nat → Bool := fun _ => false
  shuttingDown : Bool := false
  cancelIssued : Bool := false
  pc : WritePc := .turn

namespace WriteWorker

/-- The handles that the worker waits for. -/
def waitHandles (w : WriteWorker) : Nat := (List.range w.slotCount).countP w.active

inductive Action
  | turn (stop : Bool)
  | post (outcome : BeginOutcome)
  /-- `AkDiskHandleWriteSlotCompletion`, and whether it returns success. -/
  | slotDone (slotIndex : Nat) (success : Bool)
  | leaveDrain
deriving DecidableEq, Repr

/-- One turn of the loop that posts the slots, with `AkDiskPostWriteSlotAsync`. -/
def postSlot (w : WriteWorker) (i : Nat) (outcome : BeginOutcome) : WriteWorker :=
  let next := { w with pc := .post (i + 1) }
  if i ≥ w.slotCount then { w with pc := .drain }
  else if w.active i then next
  else
    match outcome with
    | .notReady => next
    | .sent => { next with active := Function.update w.active i true }
    | .failed status =>
      if isRecoverableSlotStatus status then next
      else { w with shuttingDown := true, pc := .drain }

/-- The end of the loop: the wait fails if it has too many handles. -/
def leave (w : WriteWorker) : WriteWorker :=
  if w.shuttingDown && w.waitHandles = 0 then { w with pc := .closed }
  else
    { w with shuttingDown := w.shuttingDown || maximumWaitObjects < w.waitHandles, pc := .turn }

def step (w : WriteWorker) : Action → Option WriteWorker
  | .turn stop =>
    if w.pc = .turn then
      if !w.shuttingDown && !stop then some { w with pc := .post 0 }
      else some { w with shuttingDown := true, cancelIssued := true, pc := .drain }
    else none
  | .post outcome =>
    match w.pc with
    | .post i => some (w.postSlot i outcome)
    | _ => none
  | .slotDone i success =>
    if w.pc = .drain ∧ w.active i then
      some { w with
        active := Function.update w.active i false
        shuttingDown := w.shuttingDown || !success }
    else none
  | .leaveDrain => if w.pc = .drain then some w.leave else none

theorem slotCount_step {w w' : WriteWorker} {a : Action} (hs : w.step a = some w') :
    w'.slotCount = w.slotCount := by
  cases a with
  | turn stop =>
    simp only [step] at hs
    split_ifs at hs <;> cases hs <;> rfl
  | post outcome =>
    simp only [step] at hs
    split at hs
    · cases hs
      unfold postSlot
      dsimp only
      split_ifs
      · rfl
      · rfl
      · cases outcome with
        | notReady => rfl
        | sent => rfl
        | failed status =>
          dsimp only
          split_ifs <;> rfl
    · cases hs
  | slotDone i success =>
    simp only [step] at hs
    split_ifs at hs
    cases hs
    rfl
  | leaveDrain =>
    simp only [step] at hs
    split_ifs at hs
    cases hs
    unfold leave
    split_ifs <;> rfl

theorem waitHandles_le {s : Nat} {as : List Action} {w : WriteWorker}
    (h : runFrom step { slotCount := s } as = some w) : w.waitHandles ≤ s := by
  have hcount : w.slotCount = s :=
    run_inv (fun _ _ _ hi hs => (slotCount_step hs).trans hi) rfl h
  have hle := (List.range w.slotCount).countP_le_length (p := w.active)
  rw [List.length_range] at hle
  exact hle.trans_eq hcount

/-- Every slot is posted. -/
theorem reaches_fullLoad (s : Nat) :
    Reaches step { slotCount := s } fun w => w.pc = .drain ∧ w.waitHandles = s := by
  let posting (i : Nat) : WriteWorker :=
    { slotCount := s, active := fun j => decide (j < i), pc := .post i }
  have hturn : step { slotCount := s } (.turn false) = some (posting 0) := rfl
  have hpost : Reaches step (posting 0) (· = posting s) :=
    Reaches.loop (P := fun i w => w = posting i) rfl fun i hi w hw => by
      subst hw
      refine .after (a := .post .sent) rfl (.here ?_)
      show (posting i).postSlot i .sent = posting (i + 1)
      rw [postSlot, if_neg (show ¬s ≤ i by omega), if_neg (by simp [posting])]
      simp only [posting, ← update_lt]
  refine .after hturn (hpost.bind fun w hw => ?_)
  subst hw
  refine .after (a := .post .notReady) rfl (.here ?_)
  show ((posting s).postSlot s .notReady).pc = .drain ∧ _
  rw [postSlot, if_pos (Nat.le_refl s)]
  refine ⟨rfl, ?_⟩
  show (List.range s).countP (fun j => decide (j < s)) = s
  rw [List.countP_eq_length.2, List.length_range]
  exact fun i hi => decide_eq_true (List.mem_range.1 hi)

end WriteWorker

/-! ## The sizes of a disk -/

/-- The slots that are handed to the read workers. -/
def readSlotCounts (params : DiskParams) (n : Nat) : Nat :=
  if n < params.readWorkerCount.toNat then
    (computeReadWorkerSlotCount params (UInt32.ofNat n)).toNat
  else 0

/-- The slots that are handed to the write workers. -/
def writeSlotCounts (params : DiskParams) (n : Nat) : Nat :=
  if n < params.writeWorkerCount.toNat then
    (computeWriteWorkerSlotCount params (UInt32.ofNat n)).toNat
  else 0

/-- The workers of a disk have the right sizes. -/
structure Sized (params : DiskParams) : Prop where
  readSum : ∑ n ∈ Finset.range params.readWorkerCount.toNat, readSlotCounts params n =
    params.queueDepth.toNat
  writeSum : ∑ n ∈ Finset.range params.writeWorkerCount.toNat, writeSlotCounts params n =
    params.queueDepth.toNat
  readWaits : ∀ (as : List ReadAction) (p : ReadPlane) (n : Nat),
    runFrom (ReadPlane.step params.sectorSize.toNat)
      (.start (readSlotCounts params) params.writeSlotBytes.toNat) as = some p →
    (p.workers n).pc = .drain → (p.workers n).waitHandles ≤ maximumWaitObjects
  writeWaits : ∀ (n : Nat) (as : List WriteWorker.Action) (w : WriteWorker),
    runFrom WriteWorker.step { slotCount := writeSlotCounts params n } as = some w →
    w.pc = .drain → w.waitHandles ≤ maximumWaitObjects
  slotCapacity : (slotCapacity params).toNat =
    writeSlotHeaderBaseSize.toNat + params.writeSlotBytes.toNat
  waitCapacity : ∀ n < params.readWorkerCount.toNat,
    (readWaitCapacity params (UInt32.ofNat n)).toNat = 2 * readSlotCounts params n

/-- The parameters are small enough for the workers. -/
structure Fits (params : DiskParams) : Prop where
  reads : params.queueDepth.toNat ≤ 32 * params.readWorkerCount.toNat
  writes : params.queueDepth.toNat ≤ 64 * params.writeWorkerCount.toNat
  slotBytes : params.writeSlotBytes.toNat + 48 < 2 ^ 32

variable {params : DiskParams} {diskOps : DiskOps}

theorem workerCounts_ne_zero (h : validateParams (some params) (some diskOps) = statusSuccess) :
    params.readWorkerCount ≠ 0 ∧ params.writeWorkerCount ≠ 0 := by
  have hne : statusInvalidParameter ≠ statusSuccess := by decide
  simp only [validateParams] at h
  by_cases hcounts : params.readWorkerCount = 0 ∨ params.writeWorkerCount = 0
  · rw [if_pos hcounts] at h
    split_ifs at h <;> exact absurd h hne
  · exact not_or.1 hcounts

theorem readSlotCounts_le (hcount : params.readWorkerCount ≠ 0)
    (h : params.queueDepth.toNat ≤ 32 * params.readWorkerCount.toNat) (n : Nat) :
    readSlotCounts params n ≤ 32 := by
  unfold readSlotCounts
  split_ifs with hn
  · exact workerSlotCount_le hcount hn h
  · omega

theorem writeSlotCounts_le (hcount : params.writeWorkerCount ≠ 0)
    (h : params.queueDepth.toNat ≤ 64 * params.writeWorkerCount.toNat) (n : Nat) :
    writeSlotCounts params n ≤ 64 := by
  unfold writeSlotCounts
  split_ifs with hn
  · exact workerSlotCount_le hcount hn h
  · omega

theorem sum_readSlotCounts (hcount : params.readWorkerCount ≠ 0) :
    ∑ n ∈ Finset.range params.readWorkerCount.toNat, readSlotCounts params n =
      params.queueDepth.toNat := by
  rw [← sum_workerSlotCount params.queueDepth hcount]
  refine Finset.sum_congr rfl fun n hn => ?_
  rw [readSlotCounts, if_pos (Finset.mem_range.1 hn)]
  rfl

theorem sum_writeSlotCounts (hcount : params.writeWorkerCount ≠ 0) :
    ∑ n ∈ Finset.range params.writeWorkerCount.toNat, writeSlotCounts params n =
      params.queueDepth.toNat := by
  rw [← sum_workerSlotCount params.queueDepth hcount]
  refine Finset.sum_congr rfl fun n hn => ?_
  rw [writeSlotCounts, if_pos (Finset.mem_range.1 hn)]
  rfl

theorem Fits.sized (h : Fits params) (hread : params.readWorkerCount ≠ 0)
    (hwrite : params.writeWorkerCount ≠ 0) : Sized params where
  readSum := sum_readSlotCounts hread
  writeSum := sum_writeSlotCounts hwrite
  readWaits as p n hrun _ := by
    have hle := ReadPlane.waitHandles_le hrun n
    have hcount := readSlotCounts_le hread h.reads n
    unfold maximumWaitObjects
    omega
  writeWaits n as w hrun _ :=
    (WriteWorker.waitHandles_le hrun).trans (writeSlotCounts_le hwrite h.writes n)
  slotCapacity := by
    have hbytes := h.slotBytes
    rw [slotCapacity, UInt32.toNat_add]
    exact Nat.mod_eq_of_lt (by rw [show writeSlotHeaderBaseSize.toNat = 48 from rfl]; omega)
  waitCapacity n hn := by
    have hcount := readSlotCounts_le hread h.reads n
    rw [readSlotCounts, if_pos hn] at hcount ⊢
    rw [readWaitCapacity, UInt32.toNat_mul, show (2 : UInt32).toNat = 2 from rfl]
    omega

/-- With too deep a queue some worker waits for too much. -/
theorem Sized.fits (h : Sized params) (hread : params.readWorkerCount ≠ 0)
    (hwrite : params.writeWorkerCount ≠ 0) : Fits params where
  reads := by
    by_contra hdeep
    have hmore : 32 < readSlotCounts params 0 := by
      have hpos : params.readWorkerCount.toNat ≠ 0 := fun hzero =>
        hread (UInt16.toNat_inj.1 hzero)
      rw [readSlotCounts, if_pos (by omega)]
      exact lt_workerSlotCount hread (by omega)
    obtain ⟨as, p, hrun, hpc, hwaits⟩ := ReadPlane.reaches_fullLoad params.sectorSize.toNat
      params.writeSlotBytes.toNat (readSlotCounts params)
    have hle := h.readWaits as p 0 hrun hpc
    rw [hwaits] at hle
    unfold maximumWaitObjects at hle
    omega
  writes := by
    by_contra hdeep
    have hmore : 64 < writeSlotCounts params 0 := by
      have hpos : params.writeWorkerCount.toNat ≠ 0 := fun hzero =>
        hwrite (UInt16.toNat_inj.1 hzero)
      rw [writeSlotCounts, if_pos (by omega)]
      exact lt_workerSlotCount hwrite (by omega)
    obtain ⟨as, w, hrun, hpc, hwaits⟩ := WriteWorker.reaches_fullLoad (writeSlotCounts params 0)
    have hle := h.writeWaits 0 as w hrun hpc
    rw [hwaits] at hle
    unfold maximumWaitObjects at hle
    omega
  slotBytes := by
    have heq := h.slotCapacity
    have hlt : (AppKernel.slotCapacity params).toNat < 2 ^ 32 := UInt32.toNat_lt _
    rw [heq, show writeSlotHeaderBaseSize.toNat = 48 from rfl] at hlt
    omega

/-- **The parameters with which the sizes are right**: 32 slots for a read worker, 64 for a write
worker, and a slot whose header still fits. -/
theorem sized_iff (params : DiskParams) (diskOps : DiskOps)
    (h : validateParams (some params) (some diskOps) = statusSuccess) :
    Sized params ↔ params.queueDepth.toNat ≤ 32 * params.readWorkerCount.toNat ∧
      params.queueDepth.toNat ≤ 64 * params.writeWorkerCount.toNat ∧
      params.writeSlotBytes.toNat + 48 < 2 ^ 32 := by
  obtain ⟨hread, hwrite⟩ := workerCounts_ne_zero h
  constructor
  · intro hsized
    obtain ⟨hreads, hwrites, hbytes⟩ := hsized.fits hread hwrite
    exact ⟨hreads, hwrites, hbytes⟩
  · rintro ⟨hreads, hwrites, hbytes⟩
    exact Fits.sized ⟨hreads, hwrites, hbytes⟩ hread hwrite

/-- The callbacks of a backend. -/
def allOps : DiskOps := ⟨true, true, true⟩

/-- The parameters that the clients use. -/
def usualParams : DiskParams := ⟨0, 512, 67108864, 96, 1048576, 12, 12, 96, 0⟩

theorem sized_iff_usual : Sized usualParams :=
  (sized_iff usualParams allOps (by decide)).2 (by decide)

/-- One read worker for 33 slots. -/
def oneReadWorker : DiskParams := { usualParams with queueDepth := 33, readWorkerCount := 1 }

/-- It is accepted, and waits for 66 handles. -/
theorem deep_queue_not_sized :
    ¬∀ params diskOps, validateParams (some params) (some diskOps) = statusSuccess →
      Sized params := by
  intro hall
  have hsized := hall oneReadWorker allOps (by decide)
  have hfits := (hsized.fits (by decide) (by decide)).reads
  revert hfits
  decide

end YumeDisk.AppKernel
