import Mathlib.Data.List.Perm.Basic
import Mathlib.Tactic.Set
import Mathlib.Tactic.SplitIfs

/-!
# The queues of a target (`queue/read/read.c`, `queue/write/write.c`, `queue/slot/slot.c`)

A target keeps, under a spin lock each, its pending reads with the posted read slots, and its
pending writes with the posted write slots.  Each definition here is one section under such a lock;
the lemmas say where the requests go: a section takes a request off its list and hands it to its
caller, or leaves the list with the same requests.

`NTSTATUS` is an `Int`, negative for an error.  A request is known by its SRB.
-/

namespace YumeDisk.Miniport

/-! ## Status codes -/

abbrev NtStatus := Int

def ntSuccess (status : NtStatus) : Bool := 0 ≤ status

def statusSuccess : NtStatus := 0
def statusInvalidParameter : NtStatus := -1073741811
def statusNotFound : NtStatus := -1073741275
def statusCancelled : NtStatus := -1073741536
def statusDeviceNotConnected : NtStatus := -1073741667

def maxUlong : Nat := 4294967295

/-! ## Requests and slots -/

structure ReadRequest where
  srb : Nat
  eventId : Nat
  lba : Nat
  blockCount : Nat
  dataLength : Nat
  slotIssued : Bool := false
deriving DecidableEq, Repr

structure WriteRequest where
  srb : Nat
  eventId : Nat
  baseLba : Nat
  blockCount : Nat
  totalBytes : Nat
  maxSeq : Nat
  totalSeq : Nat := 0
  payloadBytes : Nat := 0
  nextIssueSeq : Nat := 0
  ackedCount : Nat := 0
  finalStatus : NtStatus := statusSuccess
  ackedBitmap : List Bool := []
deriving DecidableEq, Repr

structure PostedSlot where
  srb : Nat
  slotId : Nat
  kernelVa : Nat
  capacity : Nat
deriving DecidableEq, Repr

structure QueueState where
  postedReadSlots : List PostedSlot := []
  pendingReads : List ReadRequest := []
  postedWriteSlots : List PostedSlot := []
  pendingWrites : List WriteRequest := []
  postedWriteSlotCount : Nat := 0
  pendingWriteCount : Nat := 0
  writeSlotPayloadBytes : Nat := 0
deriving DecidableEq, Repr

/-- `DiskAllocReadRequest`. -/
def allocReadRequest (srb eventId lba blockCount dataLength : Nat) : ReadRequest :=
  { srb, eventId, lba, blockCount, dataLength }

/-- `DiskAllocWriteRequest`; `none` is `NULL`. -/
def allocWriteRequest (srb eventId lba blockCount dataLength sectorSize : Nat) :
    Option WriteRequest :=
  if sectorSize = 0 ∨ dataLength = 0 ∨ dataLength % sectorSize ≠ 0 then
    none
  else
    let maxSeq := dataLength / sectorSize
    some { srb, eventId, baseLba := lba, blockCount, totalBytes := dataLength, maxSeq
           ackedBitmap := List.replicate maxSeq false }

/-- `YUMEDISK_WRITE_SLOT_HEADER_BASE_SIZE`. -/
def writeSlotHeaderBaseSize : Nat := 48

def computeWritePayloadBytes (sectorSize slotCapacity : Nat) : Nat :=
  if sectorSize = 0 ∨ slotCapacity ≤ writeSlotHeaderBaseSize then
    0
  else
    let payloadBytes := slotCapacity - writeSlotHeaderBaseSize
    payloadBytes - payloadBytes % sectorSize

/-- `DiskInitializeWriteRequestLocked`. -/
def initializeWriteRequest (request : WriteRequest) (payloadBytes : Nat) :
    WriteRequest × NtStatus :=
  if request.payloadBytes ≠ 0 then
    (request, statusSuccess)
  else if payloadBytes = 0 then
    (request, statusInvalidParameter)
  else
    let totalSeq := (request.totalBytes + payloadBytes - 1) / payloadBytes
    if totalSeq = 0 ∨ totalSeq > request.maxSeq then
      (request, statusInvalidParameter)
    else
      ({ request with payloadBytes, totalSeq }, statusSuccess)

namespace QueueState

/-- `DiskResetWriteSlotShapeLocked`. -/
def resetWriteSlotShape (q : QueueState) : QueueState :=
  if q.postedWriteSlotCount = 0 ∧ q.pendingWriteCount = 0 then
    { q with writeSlotPayloadBytes := 0 }
  else
    q

/-! ## The read queue -/

def insertRead (q : QueueState) (request : ReadRequest) : QueueState :=
  { q with pendingReads := q.pendingReads ++ [request] }

def insertReadSlot (q : QueueState) (slot : PostedSlot) : QueueState :=
  { q with postedReadSlots := q.postedReadSlots ++ [slot] }

/-- The section of `DiskDrainReadSlots`: a request without a slot gets the first posted one. -/
def reserveRead (q : QueueState) : Option (QueueState × ReadRequest × PostedSlot) :=
  match q.pendingReads.findIdx? fun request => !request.slotIssued, q.postedReadSlots with
  | some i, slot :: slots =>
    (q.pendingReads[i]?).map fun request =>
      ({ q with
        postedReadSlots := slots
        pendingReads := q.pendingReads.set i { request with slotIssued := true } }, request, slot)
  | _, _ => none

/-- The section of `DiskHandleReadAckIoctl`. -/
def takeRead (q : QueueState) (eventId : Nat) : Option (QueueState × ReadRequest) :=
  (q.pendingReads.findIdx? fun request => request.eventId = eventId).bind fun i =>
    (q.pendingReads[i]?).map fun request =>
      ({ q with pendingReads := q.pendingReads.eraseIdx i }, request)

/-- The first section of `DiskCompleteTargetPendingInternal`. -/
def sweepReads (q : QueueState) : QueueState × List ReadRequest × List PostedSlot :=
  ({ q with pendingReads := [], postedReadSlots := [] }, q.pendingReads, q.postedReadSlots)

/-! ## The write queue -/

def insertWrite (q : QueueState) (request : WriteRequest) : QueueState :=
  { q with
    pendingWrites := q.pendingWrites ++ [request]
    pendingWriteCount := q.pendingWriteCount + 1 }

/-- The section of `DiskHandleSubmitSlotIoctl` for a write slot. -/
def insertWriteSlot (q : QueueState) (slot : PostedSlot) (payloadBytes : Nat) :
    Except NtStatus QueueState :=
  if q.writeSlotPayloadBytes ≠ 0 ∧ q.writeSlotPayloadBytes ≠ payloadBytes then
    throw statusInvalidParameter
  else
    return { q with
      writeSlotPayloadBytes := payloadBytes
      postedWriteSlots := q.postedWriteSlots ++ [slot]
      postedWriteSlotCount := q.postedWriteSlotCount + 1 }

/-- `DiskFindNextWritableRequestLocked`: it initializes the requests it passes, and the index of
the one it stops at. -/
def findNextWritable (payloadBytes : Nat) : List WriteRequest → List WriteRequest × Option Nat
  | [] => ([], none)
  | request :: rest =>
    let (request, status) := initializeWriteRequest request payloadBytes
    if ntSuccess status ∧ request.nextIssueSeq < request.totalSeq then
      (request :: rest, some 0)
    else
      let (rest, found) := findNextWritable payloadBytes rest
      (request :: rest, found.map (· + 1))

/-- The section of `DiskDrainWriteSlots`: the next sequence number of a request gets the first
posted slot. -/
def reserveWrite (q : QueueState) : QueueState × Option (WriteRequest × Nat × PostedSlot) :=
  let (pendingWrites, found) := findNextWritable q.writeSlotPayloadBytes q.pendingWrites
  let q := { q with pendingWrites }
  match found, q.postedWriteSlots with
  | some i, slot :: slots =>
    match pendingWrites[i]? with
    | some request =>
      ({ q with
        postedWriteSlots := slots
        postedWriteSlotCount := q.postedWriteSlotCount - 1
        pendingWrites :=
          pendingWrites.set i { request with nextIssueSeq := request.nextIssueSeq + 1 } },
        some (request, request.nextIssueSeq, slot))
    | none => (q, none)
  | _, _ => (q, none)

end QueueState

structure WriteAckRange where
  eventId : Nat
  seqBase : Nat
  seqCount : Nat
  ioStatus : NtStatus
deriving DecidableEq, Repr

namespace WriteAckRange

def endSeq (range : WriteAckRange) : Nat := range.seqBase + range.seqCount

/-- The sequence numbers of the range. -/
def seqs (range : WriteAckRange) : List Nat := (List.range range.seqCount).map (range.seqBase + ·)

end WriteAckRange

/-- The bits of a range that is acked. -/
def WriteRequest.setAcked (request : WriteRequest) (range : WriteAckRange) : WriteRequest :=
  { request with
    ackedBitmap := range.seqs.foldl (fun bits seq => bits.set seq true) request.ackedBitmap
    ackedCount := request.ackedCount + range.seqCount }

namespace QueueState

/-- One range of `DiskHandleWriteAckBatchIoctl`: its status, and the request that it finished. -/
def ackRange (q : QueueState) (range : WriteAckRange) :
    QueueState × NtStatus × Option WriteRequest :=
  if range.eventId = 0 ∨ range.seqCount = 0 ∨ range.endSeq > maxUlong then
    (q, statusInvalidParameter, none)
  else
    match q.pendingWrites.findIdx? fun request => request.eventId = range.eventId with
    | none => (q, statusNotFound, none)
    | some i =>
      match q.pendingWrites[i]? with
      | none => (q, statusNotFound, none)
      | some request =>
        let (request, status) := initializeWriteRequest request q.writeSlotPayloadBytes
        let q := { q with pendingWrites := q.pendingWrites.set i request }
        if !ntSuccess status then
          (q, statusInvalidParameter, none)
        else if range.endSeq > request.totalSeq ∨ range.endSeq > request.nextIssueSeq then
          (q, statusInvalidParameter, none)
        else if range.seqs.any fun seq => request.ackedBitmap.getD seq false then
          (q, statusInvalidParameter, none)
        else
          let request := request.setAcked range
          let removed : QueueState :=
            { q with
              pendingWrites := q.pendingWrites.eraseIdx i
              pendingWriteCount := q.pendingWriteCount - 1 }
          if !ntSuccess range.ioStatus then
            (removed.resetWriteSlotShape, statusSuccess,
              some { request with finalStatus := range.ioStatus })
          else if request.ackedCount = request.totalSeq then
            (removed.resetWriteSlotShape, statusSuccess, some request)
          else
            ({ q with pendingWrites := q.pendingWrites.set i request }, statusSuccess, none)

/-- The second section of `DiskCompleteTargetPendingInternal`. -/
def sweepWrites (q : QueueState) : QueueState × List WriteRequest × List PostedSlot :=
  ({ q with
    pendingWrites := []
    postedWriteSlots := []
    pendingWriteCount := 0
    postedWriteSlotCount := 0
    writeSlotPayloadBytes := 0 }, q.pendingWrites, q.postedWriteSlots)

/-! ## Cancelled slots -/

/-- `DiskRemovePostedSlotByIdLocked`. -/
def removePostedSlotById (slots : List PostedSlot) (slotId : Nat) : Option (List PostedSlot) :=
  (slots.findIdx? fun slot => slot.slotId = slotId).map slots.eraseIdx

/-- The sections of `DiskHandleCancelSlotIoctl`. -/
def cancelReadSlot (q : QueueState) (slotId : Nat) : QueueState :=
  match removePostedSlotById q.postedReadSlots slotId with
  | none => q
  | some slots => { q with postedReadSlots := slots }

def cancelWriteSlot (q : QueueState) (slotId : Nat) : QueueState :=
  match removePostedSlotById q.postedWriteSlots slotId with
  | none => q
  | some slots =>
    { q with
      postedWriteSlots := slots
      postedWriteSlotCount := q.postedWriteSlotCount - 1 }.resetWriteSlotShape

/-! ## Where the requests go -/

def readSrbs (q : QueueState) : List Nat := q.pendingReads.map ReadRequest.srb

/-- The events of the pending reads. -/
def readIds (q : QueueState) : List Nat := q.pendingReads.map ReadRequest.eventId

def writeSrbs (q : QueueState) : List Nat := q.pendingWrites.map WriteRequest.srb

@[simp] theorem resetWriteSlotShape_reads (q : QueueState) :
    q.resetWriteSlotShape.pendingReads = q.pendingReads := by
  unfold resetWriteSlotShape
  split <;> rfl

@[simp] theorem resetWriteSlotShape_writes (q : QueueState) :
    q.resetWriteSlotShape.pendingWrites = q.pendingWrites := by
  unfold resetWriteSlotShape
  split <;> rfl

section Lists

variable {α β : Type} {f : α → β} {xs : List α} {i : Nat} {x y : α}

/-- An element that is changed in place keeps its key. -/
theorem map_set_eq (h : xs[i]? = some x) (hf : f y = f x) : (xs.set i y).map f = xs.map f := by
  rw [List.map_set, hf]
  apply List.ext_getElem?
  intro j
  rw [List.getElem?_set, List.getElem?_map]
  obtain ⟨hi, hx⟩ := List.getElem?_eq_some_iff.mp h
  by_cases hij : i = j
  · subst hij
    simp [hi, hx]
  · simp [hij]

/-- An element that is taken out leaves the others. -/
theorem cons_eraseIdx_perm (h : xs[i]? = some x) : (x :: xs.eraseIdx i).Perm xs := by
  obtain ⟨hi, rfl⟩ := List.getElem?_eq_some_iff.mp h
  exact List.getElem_cons_eraseIdx_perm hi

theorem map_eq_of_forall₂ {R : α → α → Prop} (hR : ∀ x y, R x y → f y = f x) {ys : List α}
    (h : List.Forall₂ R xs ys) : ys.map f = xs.map f := by
  induction h with
  | nil => rfl
  | cons hxy _ ih => rw [List.map_cons, List.map_cons, hR _ _ hxy, ih]

theorem forall₂_self {R : α → α → Prop} (hR : ∀ x, R x x) (xs : List α) :
    List.Forall₂ R xs xs :=
  List.forall₂_same.mpr fun x _ => hR x

theorem forall₂_set {R : α → α → Prop} (hR : ∀ x, R x x) (h : xs[i]? = some x) (hxy : R x y) :
    List.Forall₂ R xs (xs.set i y) := by
  induction xs generalizing i with
  | nil => cases h
  | cons z xs ih =>
    cases i with
    | zero =>
      cases h
      exact .cons hxy (forall₂_self hR xs)
    | succ i => exact .cons (hR z) (ih h)

end Lists

theorem insertWriteSlot_srbs {q q' : QueueState} {slot : PostedSlot} {payloadBytes : Nat}
    (h : q.insertWriteSlot slot payloadBytes = .ok q') :
    q'.readSrbs = q.readSrbs ∧ q'.writeSrbs = q.writeSrbs := by
  unfold insertWriteSlot at h
  split at h
  · cases h
  · cases h
    exact ⟨rfl, rfl⟩

theorem cancelReadSlot_srbs (q : QueueState) (slotId : Nat) :
    (q.cancelReadSlot slotId).readSrbs = q.readSrbs ∧
      (q.cancelReadSlot slotId).writeSrbs = q.writeSrbs := by
  unfold cancelReadSlot
  split <;> exact ⟨rfl, rfl⟩

theorem cancelWriteSlot_srbs (q : QueueState) (slotId : Nat) :
    (q.cancelWriteSlot slotId).readSrbs = q.readSrbs ∧
      (q.cancelWriteSlot slotId).writeSrbs = q.writeSrbs := by
  unfold cancelWriteSlot
  split
  · exact ⟨rfl, rfl⟩
  · simp [readSrbs, writeSrbs]

/-- The request that gets a slot had none. -/
theorem reserveRead_spec {q q' : QueueState} {request : ReadRequest} {slot : PostedSlot}
    (h : q.reserveRead = some (q', request, slot)) :
    ∃ i, q.pendingReads[i]? = some request ∧ request.slotIssued = false ∧
      q'.pendingReads = q.pendingReads.set i { request with slotIssued := true } := by
  unfold reserveRead at h
  split at h
  · next i slot' slots hfind hslots =>
    obtain ⟨r, hr, h⟩ := Option.map_eq_some_iff.mp h
    obtain ⟨hlt, hissued, -⟩ := List.findIdx?_eq_some_iff_getElem.mp hfind
    obtain ⟨hi, rfl⟩ := List.getElem?_eq_some_iff.mp hr
    cases h
    exact ⟨i, hr, by simpa using hissued, rfl⟩
  · cases h

/-- The request that is acked is one with the event. -/
theorem takeRead_spec {q q' : QueueState} {eventId : Nat} {request : ReadRequest}
    (h : q.takeRead eventId = some (q', request)) :
    ∃ i, q.pendingReads[i]? = some request ∧ request.eventId = eventId ∧
      q'.pendingReads = q.pendingReads.eraseIdx i := by
  obtain ⟨i, hfind, h⟩ := Option.bind_eq_some_iff.mp h
  obtain ⟨r, hr, h⟩ := Option.map_eq_some_iff.mp h
  obtain ⟨hlt, hid, -⟩ := List.findIdx?_eq_some_iff_getElem.mp hfind
  obtain ⟨hi, rfl⟩ := List.getElem?_eq_some_iff.mp hr
  cases h
  exact ⟨i, hr, by simpa using hid, rfl⟩

theorem reserveRead_srbs {q q' : QueueState} {request : ReadRequest} {slot : PostedSlot}
    (h : q.reserveRead = some (q', request, slot)) :
    q'.readSrbs = q.readSrbs ∧ q'.writeSrbs = q.writeSrbs := by
  unfold reserveRead at h
  split at h
  · obtain ⟨r, hr, h⟩ := Option.map_eq_some_iff.mp h
    cases h
    exact ⟨map_set_eq hr rfl, rfl⟩
  · cases h

/-- **An acked read leaves the queue**, and no other request does. -/
theorem takeRead_srbs {q q' : QueueState} {eventId : Nat} {request : ReadRequest}
    (h : q.takeRead eventId = some (q', request)) :
    (request.srb :: q'.readSrbs).Perm q.readSrbs ∧ q'.writeSrbs = q.writeSrbs := by
  obtain ⟨i, -, h⟩ := Option.bind_eq_some_iff.mp h
  obtain ⟨r, hr, h⟩ := Option.map_eq_some_iff.mp h
  cases h
  exact ⟨(cons_eraseIdx_perm hr).map ReadRequest.srb, rfl⟩

@[simp] theorem initializeWriteRequest_srb (request : WriteRequest) (payloadBytes : Nat) :
    (initializeWriteRequest request payloadBytes).1.srb = request.srb := by
  unfold initializeWriteRequest
  dsimp only
  split_ifs <;> rfl

theorem findNextWritable_srbs (payloadBytes : Nat) (requests : List WriteRequest) :
    (findNextWritable payloadBytes requests).1.map WriteRequest.srb =
      requests.map WriteRequest.srb := by
  induction requests with
  | nil => rfl
  | cons request rest ih =>
    unfold findNextWritable
    dsimp only
    split
    · simp
    · simp [ih]

theorem reserveWrite_srbs (q : QueueState) :
    q.reserveWrite.1.readSrbs = q.readSrbs ∧ q.reserveWrite.1.writeSrbs = q.writeSrbs := by
  have hfind := findNextWritable_srbs q.writeSlotPayloadBytes q.pendingWrites
  unfold reserveWrite
  dsimp only
  split
  · split
    · next hr =>
      refine ⟨rfl, Eq.trans ?_ hfind⟩
      exact map_set_eq (f := WriteRequest.srb) hr rfl
    · exact ⟨rfl, hfind⟩
  · exact ⟨rfl, hfind⟩

/-! ## What an acked range does -/

/-- A request that is done with leaves the queue. -/
def dropWrite (q : QueueState) (i : Nat) : QueueState :=
  { q with
    pendingWrites := q.pendingWrites.eraseIdx i
    pendingWriteCount := q.pendingWriteCount - 1 }.resetWriteSlotShape

/-- The range is accepted for the request at `i`, which is then `request`. -/
structure Accepts (q : QueueState) (range : WriteAckRange) (i : Nat) (old request : WriteRequest) :
    Prop where
  first : (q.pendingWrites.findIdx? fun request => request.eventId = range.eventId) = some i
  found : q.pendingWrites[i]? = some old
  event : old.eventId = range.eventId
  initialized : request = (initializeWriteRequest old q.writeSlotPayloadBytes).1
  seqCount : range.seqCount ≠ 0
  total : range.endSeq ≤ request.totalSeq
  issued : range.endSeq ≤ request.nextIssueSeq
  clear : ∀ seq ∈ range.seqs, request.ackedBitmap.getD seq false = false

/-- The request of the range may have been initialized. -/
def InitializedBy (q : QueueState) (range : WriteAckRange) (old request : WriteRequest) : Prop :=
  request = old ∨
    old.eventId = range.eventId ∧
      request = (initializeWriteRequest old q.writeSlotPayloadBytes).1

inductive AckOutcome (q : QueueState) (range : WriteAckRange) :
    QueueState × NtStatus × Option WriteRequest → Prop
  | rejected (requests : List WriteRequest) (status : NtStatus)
      (hstatus : ¬ ntSuccess status = true)
      (hinit : List.Forall₂ (q.InitializedBy range) q.pendingWrites requests) :
      AckOutcome q range ({ q with pendingWrites := requests }, status, none)
  | failed (i : Nat) (old request : WriteRequest) (h : q.Accepts range i old request)
      (hio : ¬ ntSuccess range.ioStatus = true) :
      AckOutcome q range (q.dropWrite i, statusSuccess,
        some { request.setAcked range with finalStatus := range.ioStatus })
  | finished (i : Nat) (old request : WriteRequest) (h : q.Accepts range i old request)
      (hio : ntSuccess range.ioStatus = true)
      (hall : (request.setAcked range).ackedCount = request.totalSeq) :
      AckOutcome q range (q.dropWrite i, statusSuccess, some (request.setAcked range))
  | kept (i : Nat) (old request : WriteRequest) (h : q.Accepts range i old request)
      (hio : ntSuccess range.ioStatus = true)
      (hsome : (request.setAcked range).ackedCount ≠ request.totalSeq) :
      AckOutcome q range
        ({ q with pendingWrites := q.pendingWrites.set i (request.setAcked range) },
          statusSuccess, none)

/-- **A range is rejected, or it acks one request.** -/
theorem ackRange_outcome (q : QueueState) (range : WriteAckRange) :
    AckOutcome q range (q.ackRange range) := by
  have hsame : List.Forall₂ (q.InitializedBy range) q.pendingWrites q.pendingWrites :=
    forall₂_self (fun _ => .inl rfl) _
  have hinvalid : ¬ ntSuccess statusInvalidParameter = true := by decide
  unfold ackRange
  split
  · exact .rejected _ _ hinvalid hsame
  · next hrange =>
    have hcount : range.seqCount ≠ 0 := fun h => hrange (.inr (.inl h))
    split
    · exact .rejected _ _ (by decide) hsame
    · next i hfind =>
      split
      · exact .rejected _ _ (by decide) hsame
      · next old hold =>
        obtain ⟨hlt, hevent, -⟩ := List.findIdx?_eq_some_iff_getElem.mp hfind
        obtain ⟨hi, rfl⟩ := List.getElem?_eq_some_iff.mp hold
        have hevent : q.pendingWrites[i].eventId = range.eventId := by simpa using hevent
        set request := (initializeWriteRequest q.pendingWrites[i] q.writeSlotPayloadBytes).1
          with hrequest
        have hinit : List.Forall₂ (q.InitializedBy range) q.pendingWrites
            (q.pendingWrites.set i request) :=
          forall₂_set (fun _ => .inl rfl) hold (.inr ⟨hevent, hrequest⟩)
        dsimp only
        split
        · exact .rejected _ _ hinvalid hinit
        · split
          · exact .rejected _ _ hinvalid hinit
          · next hend =>
            split
            · exact .rejected _ _ hinvalid hinit
            · next hbits =>
              have h : q.Accepts range i q.pendingWrites[i] request := {
                first := hfind
                found := hold
                event := hevent
                initialized := hrequest
                seqCount := hcount
                total := Nat.le_of_not_lt fun h => hend (.inl h)
                issued := Nat.le_of_not_lt fun h => hend (.inr h)
                clear := by simpa using hbits }
              rw [List.eraseIdx_set_eq, List.set_set]
              split
              · next hio => exact .failed i _ _ h (by simpa using hio)
              · next hio =>
                have hio : ntSuccess range.ioStatus = true := by simpa using hio
                split
                · next hall => exact .finished i _ _ h hio hall
                · next hsome => exact .kept i _ _ h hio hsome

theorem dropWrite_srbs (q : QueueState) (i : Nat) :
    (q.dropWrite i).readSrbs = q.readSrbs ∧
      (q.dropWrite i).pendingWrites = q.pendingWrites.eraseIdx i := by
  unfold dropWrite readSrbs
  rw [resetWriteSlotShape_reads, resetWriteSlotShape_writes]
  exact ⟨rfl, rfl⟩

theorem Accepts.srb {q : QueueState} {range : WriteAckRange} {i : Nat} {old request : WriteRequest}
    (h : q.Accepts range i old request) : request.srb = old.srb := by
  rw [h.initialized, initializeWriteRequest_srb]

/-- **An acked range takes at most one request off the queue**, the one that it finishes. -/
theorem ackRange_srbs (q : QueueState) (range : WriteAckRange) :
    (q.ackRange range).1.readSrbs = q.readSrbs ∧
      ((q.ackRange range).2.2.toList.map WriteRequest.srb ++ (q.ackRange range).1.writeSrbs).Perm
        q.writeSrbs := by
  have hdrop : ∀ i old request, q.Accepts range i old request →
      (request.srb :: (q.dropWrite i).writeSrbs).Perm q.writeSrbs := by
    intro i old request h
    rw [writeSrbs, (dropWrite_srbs q i).2, h.srb]
    exact (cons_eraseIdx_perm h.found).map WriteRequest.srb
  have hout := ackRange_outcome q range
  generalize q.ackRange range = out at hout
  cases hout with
  | rejected requests status hstatus hinit =>
    refine ⟨rfl, .of_eq ?_⟩
    show requests.map WriteRequest.srb = q.pendingWrites.map WriteRequest.srb
    refine map_eq_of_forall₂ (fun old request h => ?_) hinit
    rcases h with rfl | ⟨-, rfl⟩
    · rfl
    · exact initializeWriteRequest_srb _ _
  | failed i old request h hio => exact ⟨(dropWrite_srbs q i).1, hdrop i old request h⟩
  | finished i old request h hio hall => exact ⟨(dropWrite_srbs q i).1, hdrop i old request h⟩
  | kept i old request h hio hsome => exact ⟨rfl, .of_eq (map_set_eq h.found h.srb)⟩

/-- A range that is refused finishes no request. -/
theorem ackRange_failed (q : QueueState) (range : WriteAckRange)
    (h : ¬ ntSuccess (q.ackRange range).2.1 = true) : (q.ackRange range).2.2 = none := by
  have hout := ackRange_outcome q range
  generalize q.ackRange range = out at hout h
  cases hout with
  | rejected requests status hstatus hinit => rfl
  | _ => exact absurd rfl h

/-! ## What a drain does -/

/-- The request may have been initialized. -/
def MayInitialize (q : QueueState) (old request : WriteRequest) : Prop :=
  request = old ∨ request = (initializeWriteRequest old q.writeSlotPayloadBytes).1

theorem InitializedBy.mayInitialize {q : QueueState} {range : WriteAckRange}
    {old request : WriteRequest} (h : q.InitializedBy range old request) :
    q.MayInitialize old request :=
  h.imp id And.right

theorem findNextWritable_spec {q : QueueState} (pendingWrites : List WriteRequest) :
    List.Forall₂ q.MayInitialize pendingWrites
        (findNextWritable q.writeSlotPayloadBytes pendingWrites).1 ∧
      ∀ i, (findNextWritable q.writeSlotPayloadBytes pendingWrites).2 = some i →
        ∃ request, (findNextWritable q.writeSlotPayloadBytes pendingWrites).1[i]? = some request ∧
          request.nextIssueSeq < request.totalSeq := by
  induction pendingWrites with
  | nil => exact ⟨.nil, nofun⟩
  | cons old rest ih =>
    unfold findNextWritable
    dsimp only
    split
    · next hfound =>
      refine ⟨.cons (.inr rfl) (forall₂_self (fun _ => .inl rfl) _), ?_⟩
      rintro i hi
      cases hi
      exact ⟨_, rfl, hfound.2⟩
    · refine ⟨.cons (.inr rfl) ih.1, ?_⟩
      rintro i hi
      obtain ⟨j, hj, rfl⟩ := Option.map_eq_some_iff.mp hi
      exact ih.2 j hj

inductive DrainOutcome (q : QueueState) :
    QueueState × Option (WriteRequest × Nat × PostedSlot) → Prop
  | idle (requests : List WriteRequest)
      (hinit : List.Forall₂ q.MayInitialize q.pendingWrites requests) :
      DrainOutcome q ({ q with pendingWrites := requests }, none)
  | reserved (requests : List WriteRequest)
      (hinit : List.Forall₂ q.MayInitialize q.pendingWrites requests)
      (i : Nat) (request : WriteRequest) (slot : PostedSlot) (slots : List PostedSlot)
      (hrequest : requests[i]? = some request) (hseq : request.nextIssueSeq < request.totalSeq)
      (hslots : q.postedWriteSlots = slot :: slots) :
      DrainOutcome q
        ({ q with
          postedWriteSlots := slots
          postedWriteSlotCount := q.postedWriteSlotCount - 1
          pendingWrites :=
            requests.set i { request with nextIssueSeq := request.nextIssueSeq + 1 } },
          some (request, request.nextIssueSeq, slot))

theorem reserveWrite_outcome (q : QueueState) : DrainOutcome q q.reserveWrite := by
  obtain ⟨hinit, hfound⟩ := findNextWritable_spec (q := q) q.pendingWrites
  unfold reserveWrite
  dsimp only
  split
  · next i slot slots hi hslots =>
    obtain ⟨request, hrequest, hseq⟩ := hfound i hi
    rw [hrequest]
    exact .reserved _ hinit i request slot slots hrequest hseq hslots
  · exact .idle _ hinit

end QueueState

end YumeDisk.Miniport
