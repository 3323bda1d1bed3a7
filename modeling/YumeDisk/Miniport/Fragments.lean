import Mathlib.Data.List.Nodup
import YumeDisk.Miniport.WriteQueue

/-!
# The fragments of a write and its acks

* `Safe`: what is promised of the requests that were admitted.
* `Kept`, `Arriving`, `Pending`, `Finished`: the invariant for one request, by where it is.
* `WellFormed.payload_eq`: a slot gets the fragment that it is for.
* `Kept.init`, `Kept.append`, `Fits.kept`: what the sections do to a request.
-/

namespace YumeDisk.Miniport

open Lib (Bytes Tiles pieceCount pieceLength slice setAll)

namespace WriteTarget

/-! ## What is promised -/

/-- The fragment with a sequence number. -/
def fragment (sectorSize : Nat) (dataBuffer : Nat → Bytes) (request : WriteRequest) (seq : Nat) :
    WriteSlotPayload where
  eventId := request.eventId
  seq := seq
  totalSeq := request.totalSeq
  lba := (request.baseLba + seq * request.payloadBytes / sectorSize) % 2 ^ 64
  byteOffsetInWrite := seq * request.payloadBytes
  dataLength := pieceLength request.totalBytes request.payloadBytes seq
  data := slice (dataBuffer request.srb) (seq * request.payloadBytes)
    (pieceLength request.totalBytes request.payloadBytes seq)

/-- The bitmap and the counters of a request. -/
structure Accounted (s : WriteTarget) (request : WriteRequest) : Prop where
  issued : ∀ seq, request.ackedBitmap.getD seq false = true →
    ∃ x ∈ s.issued, x.eventId = request.eventId ∧ x.seq = seq
  count : request.ackedCount = request.ackedBitmap.count true
  acked_le : request.ackedCount ≤ request.nextIssueSeq
  issue_le : request.nextIssueSeq ≤ request.totalSeq
  /-- A bit is a sequence number that was accepted, once. -/
  once : ∀ seq, s.acked.count ⟨request.eventId, seq, true⟩ +
    s.acked.count ⟨request.eventId, seq, false⟩ = (request.ackedBitmap.getD seq false).toNat

/-- The fragments of a request. -/
structure Fragmented (dataBuffer : Nat → Bytes) (s : WriteTarget) (request : WriteRequest) :
    Prop where
  tiles : 0 < request.totalSeq → Tiles request.totalBytes request.totalSeq
    (fun seq => (fragment s.sectorSize dataBuffer request seq).byteOffsetInWrite)
    (fun seq => (fragment s.sectorSize dataBuffer request seq).dataLength)
  /-- An offset is a whole number of sectors, so the LBA is that of the bytes. -/
  sectors : ∀ seq, s.sectorSize ∣ (fragment s.sectorSize dataBuffer request seq).byteOffsetInWrite
  ulong : request.totalBytes ≤ maxUlong ∧ request.totalSeq ≤ maxUlong
  /-- What was put in the slots, where a `ULONG` wraps around. -/
  issued : ∀ x ∈ s.issued, x.eventId = request.eventId →
    x.seq < request.totalSeq ∧ x.payload = .ok (fragment s.sectorSize dataBuffer request x.seq)
  data : 0 < request.totalSeq → (dataBuffer request.srb).length = request.totalBytes →
    (List.range request.totalSeq).flatMap
        (fun seq => (fragment s.sectorSize dataBuffer request seq).data) =
      dataBuffer request.srb

/-- Every sequence number was acked with success exactly once. -/
def AckedOnce (s : WriteTarget) (request : WriteRequest) : Prop :=
  0 < request.totalSeq ∧
    ∀ seq < request.totalSeq, s.acked.count ⟨request.eventId, seq, true⟩ = 1

/-- A range that is rejected leaves the target as it is, but that the request it names may have been
initialized as the next drain would. -/
def RejectedSafe (s : WriteTarget) (range : WriteAckRange) : Prop :=
  ¬ ntSuccess (s.queue.ackRange range).2.1 = true →
    ∃ pendingWrites,
      s.ackRange range = { s with queue := { s.queue with pendingWrites } } ∧
      List.Forall₂ (s.queue.InitializedBy range) s.queue.pendingWrites pendingWrites

structure Safe (dataBuffer : Nat → Bytes) (s : WriteTarget) : Prop where
  events : (s.requests.map WriteRequest.eventId).Nodup
  srbs : (s.requests.map WriteRequest.srb).Nodup
  accounted : ∀ request ∈ s.requests, s.Accounted request
  fragmented : ∀ request ∈ s.requests, s.Fragmented dataBuffer request
  rejected : ∀ range, s.RejectedSafe range
  /-- A request that is acked is off the queue, -/
  pending : ∀ request ∈ s.arriving ++ s.queue.pendingWrites, ¬ s.AckedOnce request
  /-- and is completed with success; no other is. -/
  completed : ∀ request ∈ s.deferred ++ s.completed,
    ntSuccess request.completion.status = true ↔ s.AckedOnce request

/-! ## The invariant -/

/-- The fields of a request agree. -/
structure WellFormed (sectorSize : Nat) (request : WriteRequest) : Prop where
  sector_pos : 0 < sectorSize
  bytes_pos : 0 < request.totalBytes
  bytes_le : request.totalBytes ≤ maxUlong
  sectors : sectorSize ∣ request.totalBytes
  maxSeq : request.maxSeq = request.totalBytes / sectorSize
  bitmap : request.ackedBitmap.length = request.maxSeq
  shape : (request.payloadBytes = 0 ∧ request.totalSeq = 0) ∨
    (0 < request.payloadBytes ∧ sectorSize ∣ request.payloadBytes ∧
      request.totalSeq = pieceCount request.totalBytes request.payloadBytes)
  issue_le : request.nextIssueSeq ≤ request.totalSeq
  bits : ∀ seq, request.ackedBitmap.getD seq false = true → seq < request.nextIssueSeq
  count : request.ackedCount = request.ackedBitmap.count true

/-- The history has what the fields say. -/
structure Recorded (sectorSize : Nat) (dataBuffer : Nat → Bytes) (issued : List IssuedSlot)
    (acked : List AckedSeq) (request : WriteRequest) : Prop where
  slots : ∀ x ∈ issued, x.eventId = request.eventId → x.seq < request.nextIssueSeq ∧
    x.payload = .ok (fragment sectorSize dataBuffer request x.seq)
  all : ∀ seq < request.nextIssueSeq, ∃ x ∈ issued, x.eventId = request.eventId ∧ x.seq = seq
  once : ∀ seq, acked.count ⟨request.eventId, seq, true⟩ +
    acked.count ⟨request.eventId, seq, false⟩ = (request.ackedBitmap.getD seq false).toNat

/-- What holds of a request wherever it is. -/
structure Kept (sectorSize : Nat) (dataBuffer : Nat → Bytes) (issued : List IssuedSlot)
    (acked : List AckedSeq) (request : WriteRequest) : Prop where
  wellFormed : WellFormed sectorSize request
  recorded : Recorded sectorSize dataBuffer issued acked request

/-- A request that is not on the queue yet. -/
structure Arriving (request : WriteRequest) : Prop where
  payloadBytes : request.payloadBytes = 0
  status : request.finalStatus = statusSuccess

/-- A request that is on the queue, where slots have this shape. -/
structure Pending (acked : List AckedSeq) (shape : Nat) (request : WriteRequest) : Prop where
  status : request.finalStatus = statusSuccess
  noFailure : ∀ seq, acked.count ⟨request.eventId, seq, false⟩ = 0
  unfinished : request.ackedCount = request.totalSeq → request.totalSeq = 0
  shape : request.payloadBytes ≠ 0 → request.payloadBytes = shape

/-- A request that is off the queue. -/
def Finished (acked : List AckedSeq) (request : WriteRequest) : Prop :=
  ntSuccess request.finalStatus = true ↔
    0 < request.totalSeq ∧
      ∀ seq < request.totalSeq, acked.count ⟨request.eventId, seq, true⟩ = 1

/-- What names a request. -/
def key (request : WriteRequest) : Nat × Nat := (request.eventId, request.srb)

variable {dataBuffer : Nat → Bytes} {sectorSize shape : Nat} {request : WriteRequest}
  {issued issued' : List IssuedSlot} {acked acked' : List AckedSeq} {s : WriteTarget}

/-! ## One request -/

theorem WellFormed.totalSeq_le (h : WellFormed sectorSize request) :
    request.totalSeq ≤ request.maxSeq := by
  rw [h.maxSeq]
  rcases h.shape with ⟨-, htotal⟩ | ⟨hpos, hdvd, htotal⟩
  · rw [htotal]
    exact Nat.zero_le _
  · rw [htotal]
    exact Lib.pieceCount_le_div hdvd hpos h.sectors

theorem WellFormed.ackedCount_le (h : WellFormed sectorSize request) :
    request.ackedCount ≤ request.nextIssueSeq :=
  h.count ▸ Lib.count_le_of_bits h.bits

/-- A request that has a sequence number has a shape. -/
theorem WellFormed.payload_pos (h : WellFormed sectorSize request) (hseq : 0 < request.totalSeq) :
    0 < request.payloadBytes ∧ sectorSize ∣ request.payloadBytes ∧
      request.totalSeq = pieceCount request.totalBytes request.payloadBytes := by
  rcases h.shape with ⟨-, htotal⟩ | hshape
  · omega
  · exact hshape

theorem WellFormed.accounted (h : WellFormed s.sectorSize request)
    (hr : Recorded s.sectorSize dataBuffer s.issued s.acked request) : s.Accounted request where
  issued seq hseq := hr.all seq (h.bits seq hseq)
  count := h.count
  acked_le := h.ackedCount_le
  issue_le := h.issue_le
  once := hr.once

theorem WellFormed.fragmented (h : WellFormed s.sectorSize request)
    (hr : Recorded s.sectorSize dataBuffer s.issued s.acked request) :
    s.Fragmented dataBuffer request := by
  have htiles : 0 < request.totalSeq → Tiles request.totalBytes request.totalSeq
      (fun seq => seq * request.payloadBytes)
      (pieceLength request.totalBytes request.payloadBytes) := by
    intro hseq
    obtain ⟨hpos, -, htotal⟩ := h.payload_pos hseq
    rw [htotal]
    exact Lib.tiles_pieces hpos
  refine ⟨htiles, fun seq => ?_, ⟨h.bytes_le, ?_⟩, fun x hx hxe => ?_, fun hseq hlen => ?_⟩
  · show s.sectorSize ∣ seq * request.payloadBytes
    rcases h.shape with ⟨hzero, -⟩ | ⟨-, hdvd, -⟩
    · rw [hzero]
      exact dvd_zero _
    · exact hdvd.mul_left seq
  · calc request.totalSeq ≤ request.maxSeq := h.totalSeq_le
      _ = request.totalBytes / s.sectorSize := h.maxSeq
      _ ≤ request.totalBytes := Nat.div_le_self ..
      _ ≤ maxUlong := h.bytes_le
  · obtain ⟨hlt, hpayload⟩ := hr.slots x hx hxe
    exact ⟨Nat.lt_of_lt_of_le hlt h.issue_le, hpayload⟩
  · exact (htiles hseq).flatMap_slice hseq hlen

/-- **No `ULONG` wraps around, and the slot is large enough**: the slot gets the fragment. -/
theorem WellFormed.payload_eq (h : WellFormed sectorSize request) {seq : Nat}
    (hseq : seq < request.totalSeq) {slot : PostedSlot} (hva : slot.kernelVa ≠ 0)
    (hcap : slot.capacity ≤ maxUlong)
    (hfit : computeWritePayloadBytes sectorSize slot.capacity = request.payloadBytes) :
    writeWriteSlotPayload (dataBuffer request.srb) request.eventId request.baseLba
        request.totalBytes request.payloadBytes request.totalSeq seq sectorSize slot =
      .ok (fragment sectorSize dataBuffer request seq) := by
  obtain ⟨hpos, -, htotal⟩ := h.payload_pos (Nat.zero_lt_of_lt hseq)
  have hoff : seq * request.payloadBytes < request.totalBytes :=
    (Lib.lt_pieceCount_iff hpos).mp (htotal ▸ hseq)
  have hbytes : request.totalBytes ≤ 4294967295 := h.bytes_le
  have hsector := h.sector_pos
  have hmodulus : ulongModulus = 4294967296 := rfl
  replace hcap : slot.capacity ≤ 4294967295 := hcap
  have hmod : seq * request.payloadBytes % ulongModulus = seq * request.payloadBytes := by
    refine Nat.mod_eq_of_lt ?_
    omega
  have hrem : (request.totalBytes + ulongModulus - seq * request.payloadBytes) % ulongModulus =
      request.totalBytes - seq * request.payloadBytes := by
    rw [hmodulus]
    omega
  have hcapacity : writeSlotHeaderBaseSize + request.payloadBytes ≤ slot.capacity := by
    unfold computeWritePayloadBytes at hfit
    dsimp only at hfit
    split at hfit <;> omega
  have hlen : pieceLength request.totalBytes request.payloadBytes seq ≤ request.payloadBytes := by
    unfold pieceLength
    split <;> omega
  have hfits : ¬ slot.capacity < (writeSlotHeaderBaseSize +
      pieceLength request.totalBytes request.payloadBytes seq) % ulongModulus := by
    rw [hmodulus]
    omega
  unfold writeWriteSlotPayload
  rw [if_neg (by omega)]
  dsimp only
  rw [hmod, hrem]
  exact if_neg hfits

/-- Before a request has a shape, nothing of it is issued. -/
theorem WellFormed.nextIssueSeq_eq (h : WellFormed sectorSize request)
    (hzero : request.payloadBytes = 0) : request.totalSeq = 0 ∧ request.nextIssueSeq = 0 := by
  have hissue := h.issue_le
  rcases h.shape with ⟨-, htotal⟩ | ⟨hpos, -, -⟩
  · exact ⟨htotal, by omega⟩
  · omega

theorem initialize_cases (request : WriteRequest) (shape : Nat) :
    (initializeWriteRequest request shape).1 = request ∨
      request.payloadBytes = 0 ∧ shape ≠ 0 ∧
        (initializeWriteRequest request shape).1 =
          { request with
            payloadBytes := shape
            totalSeq := pieceCount request.totalBytes shape } := by
  unfold initializeWriteRequest
  split_ifs with hdone hshape
  · exact .inl rfl
  · exact .inl rfl
  · dsimp only
    split_ifs
    · exact .inl rfl
    · exact .inr ⟨not_not.mp hdone, hshape, rfl⟩

theorem initialize_key (request : WriteRequest) (shape : Nat) :
    key (initializeWriteRequest request shape).1 = key request := by
  rcases initialize_cases request shape with h | ⟨-, -, h⟩ <;> rw [h]
  rfl

theorem Kept.init (h : Kept sectorSize dataBuffer issued acked request)
    (hshape : sectorSize ∣ shape) :
    Kept sectorSize dataBuffer issued acked (initializeWriteRequest request shape).1 := by
  rcases initialize_cases request shape with heq | ⟨hzero, hne, heq⟩
  · rw [heq]
    exact h
  · obtain ⟨-, hissue⟩ := h.wellFormed.nextIssueSeq_eq hzero
    rw [heq]
    constructor
    · exact {
        h.wellFormed with
        shape := .inr ⟨Nat.pos_of_ne_zero hne, hshape, rfl⟩
        issue_le := hissue ▸ Nat.zero_le _ }
    · refine ⟨fun x hx hxe => ?_, h.recorded.all, h.recorded.once⟩
      obtain ⟨hlt, -⟩ := h.recorded.slots x hx hxe
      rw [hissue] at hlt
      exact absurd hlt (Nat.not_lt_zero _)

theorem Pending.init (h : Pending acked shape request)
    (hw : WellFormed sectorSize request) :
    Pending acked shape (initializeWriteRequest request shape).1 := by
  rcases initialize_cases request shape with heq | ⟨hzero, -, heq⟩
  · rw [heq]
    exact h
  · obtain ⟨-, hissue⟩ := hw.nextIssueSeq_eq hzero
    have hacked := hw.ackedCount_le
    rw [heq]
    refine ⟨h.status, h.noFailure, fun hall => ?_, fun _ => rfl⟩
    change request.ackedCount = pieceCount request.totalBytes shape at hall
    show pieceCount request.totalBytes shape = 0
    omega

/-- **A request on the queue is not acked.** -/
theorem Pending.not_acked (h : Pending acked shape request)
    (hk : Kept sectorSize dataBuffer issued acked request) :
    ¬ (0 < request.totalSeq ∧
      ∀ seq < request.totalSeq, acked.count ⟨request.eventId, seq, true⟩ = 1) := by
  rintro ⟨hpos, hall⟩
  have hbits : ∀ seq < request.totalSeq, request.ackedBitmap.getD seq false = true := by
    intro seq hseq
    have honce := hk.recorded.once seq
    rw [hall seq hseq] at honce
    by_contra hbit
    rw [Bool.not_eq_true] at hbit
    rw [hbit, Bool.toNat_false] at honce
    omega
  have hle := Lib.le_count_of_bits hbits
  have hacked := hk.wellFormed.ackedCount_le
  have hissue := hk.wellFormed.issue_le
  have hcount := hk.wellFormed.count
  have hzero := h.unfinished (by omega)
  omega

theorem Arriving.not_acked (h : Arriving request) (hw : WellFormed sectorSize request) :
    ¬ 0 < request.totalSeq := by
  rw [(hw.nextIssueSeq_eq h.payloadBytes).1]
  exact Nat.lt_irrefl 0

/-! ## What is recorded of other requests -/

theorem count_append_of_ne {eventId seq : Nat} {success : Bool}
    (h : ∀ x ∈ acked', x.eventId ≠ eventId) :
    (acked ++ acked').count ⟨eventId, seq, success⟩ = acked.count ⟨eventId, seq, success⟩ := by
  have hzero : acked'.count ⟨eventId, seq, success⟩ = 0 :=
    List.count_eq_zero.mpr fun hmem => h _ hmem rfl
  rw [List.count_append, hzero, Nat.add_zero]

theorem Kept.append (h : Kept sectorSize dataBuffer issued acked request)
    (hi : ∀ x ∈ issued', x.eventId ≠ request.eventId)
    (ha : ∀ x ∈ acked', x.eventId ≠ request.eventId) :
    Kept sectorSize dataBuffer (issued ++ issued') (acked ++ acked') request := by
  refine ⟨h.wellFormed, fun x hx hxe => ?_, fun seq hseq => ?_, fun seq => ?_⟩
  · rcases List.mem_append.mp hx with hx | hx
    · exact h.recorded.slots x hx hxe
    · exact absurd hxe (hi x hx)
  · obtain ⟨x, hx, hxs⟩ := h.recorded.all seq hseq
    exact ⟨x, List.mem_append_left _ hx, hxs⟩
  · rw [count_append_of_ne ha, count_append_of_ne ha]
    exact h.recorded.once seq

theorem Pending.append (h : Pending acked shape request)
    (ha : ∀ x ∈ acked', x.eventId ≠ request.eventId) :
    Pending (acked ++ acked') shape request := by
  refine ⟨h.status, fun seq => ?_, h.unfinished, h.shape⟩
  rw [count_append_of_ne ha]
  exact h.noFailure seq

theorem Finished.append (h : Finished acked request)
    (ha : ∀ x ∈ acked', x.eventId ≠ request.eventId) : Finished (acked ++ acked') request := by
  unfold Finished
  simp only [count_append_of_ne ha]
  exact h

/-! ## A range is acked -/

theorem mem_seqs {range : WriteAckRange} {seq : Nat} :
    seq ∈ range.seqs ↔ range.seqBase ≤ seq ∧ seq < range.endSeq := by
  unfold WriteAckRange.seqs WriteAckRange.endSeq
  rw [List.mem_map]
  constructor
  · rintro ⟨i, hi, rfl⟩
    rw [List.mem_range] at hi
    omega
  · rintro ⟨hle, hlt⟩
    exact ⟨seq - range.seqBase, List.mem_range.mpr (by omega), by omega⟩

theorem nodup_seqs (range : WriteAckRange) : range.seqs.Nodup :=
  List.Nodup.map (fun _ _ => Nat.add_left_cancel) List.nodup_range

/-- What an accepted range adds to the history. -/
def ackedSeqs (range : WriteAckRange) : List AckedSeq :=
  range.seqs.map fun seq =>
    { eventId := range.eventId, seq, success := ntSuccess range.ioStatus }

theorem eventId_of_mem_ackedSeqs {range : WriteAckRange} {x : AckedSeq}
    (hx : x ∈ ackedSeqs range) : x.eventId = range.eventId := by
  obtain ⟨seq, -, rfl⟩ := List.mem_map.mp hx
  rfl

theorem count_ackedSeqs (range : WriteAckRange) (seq : Nat) (success : Bool) :
    (ackedSeqs range).count ⟨range.eventId, seq, success⟩ =
      if success = ntSuccess range.ioStatus ∧ seq ∈ range.seqs then 1 else 0 := by
  have hinj : Function.Injective fun seq : Nat =>
      ({ eventId := range.eventId, seq, success := ntSuccess range.ioStatus } : AckedSeq) :=
    fun _ _ h => congrArg AckedSeq.seq h
  split
  · next h =>
    obtain ⟨rfl, hmem⟩ := h
    refine List.count_eq_one_of_mem (List.Nodup.map hinj (nodup_seqs range)) ?_
    exact List.mem_map.mpr ⟨seq, hmem, rfl⟩
  · next h =>
    refine List.count_eq_zero.mpr fun hmem => h ?_
    obtain ⟨seq', hseq', heq⟩ := List.mem_map.mp hmem
    cases heq
    exact ⟨rfl, hseq'⟩

section Accept

variable {range : WriteAckRange}

/-- The range is accepted for the request. -/
structure Fits (range : WriteAckRange) (request : WriteRequest) : Prop where
  event : request.eventId = range.eventId
  total : range.endSeq ≤ request.totalSeq
  issued : range.endSeq ≤ request.nextIssueSeq
  clear : ∀ seq ∈ range.seqs, request.ackedBitmap.getD seq false = false

theorem Fits.lt_length (h : Fits range request) (hw : WellFormed sectorSize request) :
    ∀ seq ∈ range.seqs, seq < request.ackedBitmap.length := by
  intro seq hseq
  have hlt := (mem_seqs.mp hseq).2
  have htotal := hw.totalSeq_le
  have hlen := hw.bitmap
  have hend := h.total
  omega

theorem Fits.getD_setAcked (h : Fits range request) (hw : WellFormed sectorSize request)
    (seq : Nat) : (request.setAcked range).ackedBitmap.getD seq false =
      (decide (seq ∈ range.seqs) || request.ackedBitmap.getD seq false) :=
  Lib.getD_setAll (h.lt_length hw) seq

theorem Fits.count_setAcked (h : Fits range request) (hw : WellFormed sectorSize request) :
    (request.setAcked range).ackedCount = (request.setAcked range).ackedBitmap.count true := by
  have hlen : range.seqs.length = range.seqCount := by
    rw [WriteAckRange.seqs, List.length_map, List.length_range]
  refine Eq.trans ?_ (Lib.count_setAll (nodup_seqs range) (h.lt_length hw) h.clear).symm
  rw [hlen, ← hw.count]
  rfl

/-- **The bits of the range are set, and recorded.** -/
theorem Fits.kept (h : Fits range request)
    (hk : Kept sectorSize dataBuffer issued acked request) :
    Kept sectorSize dataBuffer issued (acked ++ ackedSeqs range) (request.setAcked range) := by
  have hw := hk.wellFormed
  constructor
  · exact {
      hw with
      bitmap := Lib.length_setAll.trans hw.bitmap
      bits := by
        intro seq hseq
        rw [h.getD_setAcked hw, Bool.or_eq_true, decide_eq_true_iff] at hseq
        rcases hseq with hseq | hseq
        · exact Nat.lt_of_lt_of_le (mem_seqs.mp hseq).2 h.issued
        · exact hw.bits seq hseq
      count := h.count_setAcked hw }
  · refine ⟨hk.recorded.slots, hk.recorded.all, fun seq => ?_⟩
    have honce := hk.recorded.once seq
    rw [h.getD_setAcked hw]
    show (acked ++ ackedSeqs range).count ⟨request.eventId, seq, true⟩ +
      (acked ++ ackedSeqs range).count ⟨request.eventId, seq, false⟩ = _
    rw [h.event] at honce ⊢
    rw [List.count_append, List.count_append, count_ackedSeqs, count_ackedSeqs]
    by_cases hseq : seq ∈ range.seqs
    · rw [h.clear seq hseq, Bool.toNat_false] at honce
      cases ntSuccess range.ioStatus <;> simp [hseq] <;> omega
    · cases ntSuccess range.ioStatus <;> simpa [hseq] using honce

theorem Fits.pending (h : Fits range request) (hp : Pending acked shape request)
    (hio : ntSuccess range.ioStatus = true)
    (hsome : (request.setAcked range).ackedCount ≠ request.totalSeq) :
    Pending (acked ++ ackedSeqs range) shape (request.setAcked range) := by
  refine ⟨hp.status, fun seq => ?_, fun hall => absurd hall hsome, hp.shape⟩
  show (acked ++ ackedSeqs range).count ⟨request.eventId, seq, false⟩ = 0
  rw [List.count_append, hp.noFailure, h.event, count_ackedSeqs, hio]
  simp

/-- **The last range completes the request with success**, -/
theorem Fits.finished (h : Fits range request) (hp : Pending acked shape request)
    (hk : Kept sectorSize dataBuffer issued acked request)
    (hio : ntSuccess range.ioStatus = true) (hcount : range.seqCount ≠ 0)
    (hall : (request.setAcked range).ackedCount = request.totalSeq) :
    Finished (acked ++ ackedSeqs range) (request.setAcked range) := by
  have hk' := h.kept hk
  have hstatus : ntSuccess (request.setAcked range).finalStatus = true := by
    show ntSuccess request.finalStatus = true
    rw [hp.status]
    rfl
  have hnoFailure : ∀ seq,
      (acked ++ ackedSeqs range).count ⟨request.eventId, seq, false⟩ = 0 := by
    intro seq
    rw [List.count_append, hp.noFailure, h.event, count_ackedSeqs, hio]
    simp
  refine ⟨fun _ => ⟨?_, fun seq hseq => ?_⟩, fun _ => hstatus⟩
  · show 0 < request.totalSeq
    have htotal := h.total
    unfold WriteAckRange.endSeq at htotal
    omega
  · have hbits : ∀ i, (request.setAcked range).ackedBitmap.getD i false = true →
        i < request.totalSeq :=
      fun i hi => Nat.lt_of_lt_of_le (hk'.wellFormed.bits i hi) hk'.wellFormed.issue_le
    have hbit := Lib.getD_of_count_eq hbits (hk'.wellFormed.count.symm.trans hall) hseq
    have honce := hk'.recorded.once seq
    rw [hbit] at honce
    rw [show (acked ++ ackedSeqs range).count ⟨(request.setAcked range).eventId, seq, false⟩ = 0
      from hnoFailure seq] at honce
    exact honce

/-- and a range that failed does not. -/
theorem Fits.failed (h : Fits range request)
    (hk : Kept sectorSize dataBuffer issued acked request)
    (hio : ¬ ntSuccess range.ioStatus = true) (hcount : range.seqCount ≠ 0) :
    Finished (acked ++ ackedSeqs range)
      { request.setAcked range with finalStatus := range.ioStatus } := by
  refine ⟨fun hstatus => absurd hstatus hio, fun ⟨_, hall⟩ => ?_⟩
  have hbase : range.seqBase ∈ range.seqs := by
    rw [mem_seqs]
    unfold WriteAckRange.endSeq
    omega
  have hlt : range.seqBase < request.totalSeq :=
    Nat.lt_of_lt_of_le (mem_seqs.mp hbase).2 h.total
  have hone : (acked ++ ackedSeqs range).count ⟨request.eventId, range.seqBase, true⟩ = 1 :=
    hall range.seqBase hlt
  have honce := hk.recorded.once range.seqBase
  rw [h.clear _ hbase, Bool.toNat_false] at honce
  rw [List.count_append, h.event, count_ackedSeqs, if_neg fun hs => hio hs.1.symm, ← h.event]
    at hone
  omega

end Accept

end WriteTarget

end YumeDisk.Miniport
