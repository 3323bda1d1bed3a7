import YumeDisk.AppKernel.WritePlaces

/-!
# AppKernel and the driver agree on a write

* `Agreement`: what AppKernel finalises, and how the driver completes the SRB.
* `Guard`: no range is sent again, or given up, that the driver has accepted.
* `WritePlane.Inv`, `step_inv`: the invariant, and one step.
* `write_outcome_agreement`: every guarded run.
* `resent_batch_rejects`: a batch whose reply is lost, sent again.
-/

namespace YumeDisk.AppKernel

open Lib (Bytes)
open Miniport

/-! ## Agreement -/

/-- What AppKernel has finalised is how the driver completed the SRB, and a write that was completed
with success is finalised as committed, or the flusher has a result of it to apply. -/
structure Agreement (s : WritePlane) : Prop where
  final : ∀ x ∈ s.track.responses, s.target.CompletedAs x.eventId x.committed
  unique : ∀ eventId a b, s.target.CompletedAs eventId a → s.target.CompletedAs eventId b → a = b
  reported : ∀ eventId, s.target.CompletedAs eventId true →
    (∃ x ∈ s.track.responses, x.eventId = eventId ∧ x.committed = true) ∨
      ∃ range ∈ s.flush.payload, range.eventId = eventId

/-- The status is `AK_STATUS_SUCCESS` or an error. -/
def Clean (status : NtStatus) : Prop := status = statusSuccess ∨ ntSuccess status = false

instance (status : NtStatus) : Decidable (Clean status) := inferInstanceAs (Decidable (_ ∨ _))

/-- The driver has accepted none of the ranges with success. -/
def Unaccepted (target : WriteTarget) (ranges : List WriteAckRange) : Prop :=
  ∀ range ∈ ranges, ⟨range.eventId, range.seqBase, true⟩ ∉ target.acked

instance (target : WriteTarget) (ranges : List WriteAckRange) :
    Decidable (Unaccepted target ranges) :=
  List.decidableBAll _ ranges

namespace WriteAckFlush

/-- The range that the driver is at. -/
def handling : WriteAckFlush → Option WriteAckRange
  | sent ranges index _ => ranges[index]?
  | _ => none

/-- The range whose result is applied next. -/
def toApply : WriteAckFlush → Option WriteAckRange
  | applying ranges _ index => ranges[index]?
  | _ => none

/-- The ranges that are to be sent, or sent again. -/
def waiting : WriteAckFlush → List WriteAckRange
  | held ranges => ranges
  | _ => []

end WriteAckFlush

/-- The write is tracked, or its final status is remembered. -/
def WriteTrack.Knows (t : WriteTrack) (eventId : Nat) : Prop :=
  eventId ∈ (t.activeWriteEvents ++ t.finalizedWriteEvents).map WriteEventRecord.eventId

instance (t : WriteTrack) (eventId : Nat) : Decidable (t.Knows eventId) :=
  inferInstanceAs (Decidable (_ ∈ _))

/-- `stage_write` returned `AK_STATUS_SUCCESS` or an error; the driver has accepted no range that it
is sent now; and the flusher does not end while it holds a range that the driver has accepted: at a
stop it has no batch to send again, a failure that ends it comes before the driver has accepted
anything, and so does a result that it cannot apply. -/
def Guard (s : WritePlane) : WritePlane.Action → Prop
  | .stage k status _ => ∀ slot ∈ s.staging[k]?, slot.decided = none → Clean status
  | .handle => Unaccepted s.target s.flush.handling.toList
  | .fail status => s.shuttingDown = true ∨ isRecoverableWriteAckStatus status = false →
    Unaccepted s.target s.flush.payload
  | .apply push allocated => ∀ range ∈ s.flush.toApply,
    push = statusSuccess ∧ allocated = true ∧ s.track.Knows range.eventId ∨
      Unaccepted s.target s.flush.payload
  | .noticeStop => Unaccepted s.target s.flush.waiting
  | _ => True

instance (s : WritePlane) : ∀ a, Decidable (Guard s a)
  | .stage k status _ =>
    inferInstanceAs (Decidable (∀ slot ∈ s.staging[k]?, slot.decided = none → Clean status))
  | .handle => inferInstanceAs (Decidable (Unaccepted _ _))
  | .fail _ => inferInstanceAs (Decidable (_ → Unaccepted _ _))
  | .apply push allocated =>
    inferInstanceAs (Decidable (∀ range ∈ s.flush.toApply,
      push = statusSuccess ∧ allocated = true ∧ s.track.Knows range.eventId ∨
        Unaccepted s.target s.flush.payload))
  | .noticeStop => inferInstanceAs (Decidable (Unaccepted _ _))
  | .driver _ | .deliver .. | .steal | .send | .reply | .requestStop => isTrue trivial

/-! ## The invariant -/

/-- The number of fragments that a slot of the write carries. -/
def Announced (target : WriteTarget) (eventId totalSeq : Nat) : Prop :=
  ∃ x ∈ target.issued, x.eventId = eventId ∧
    ∃ payload, x.payload = .ok payload ∧ payload.totalSeq = totalSeq

/-- What the status of a range that was handled says. -/
def Told (target : WriteTarget) (range : WriteAckRange) (status : NtStatus) : Prop :=
  status = statusSuccess ∧ ⟨range.eventId, range.seqBase, true⟩ ∈ target.acked ∨
    ntSuccess status = false ∧ target.CompletedAs range.eventId false

/-- A range that the flusher may take. -/
structure RangeOk (range : WriteAckRange) : Prop where
  eventId : range.eventId ≠ 0
  seqCount : range.seqCount = 1
  clean : Clean range.ioStatus

/-- The fragments of a write whose result was applied. -/
def results (applied : List AckedSeq) (eventId : Nat) : List Nat :=
  (applied.filter fun x => x.eventId = eventId).map AckedSeq.seq

/-- The fragments of a write that were applied with success. -/
def successes (applied : List AckedSeq) (eventId : Nat) : List Nat :=
  (applied.filter fun x => x.eventId = eventId && x.success).map AckedSeq.seq

/-- A write with a final response. -/
def WriteTrack.Finalised (t : WriteTrack) (eventId : Nat) : Prop :=
  ∃ x ∈ t.responses, x.eventId = eventId

/-- A record of the active list. -/
structure RecordOk (target : WriteTarget) (applied : List AckedSeq) (record : WriteEventRecord) :
    Prop where
  unanswered : record.finalResponseQueued = false
  total : record.ackedSeqCount ≤ (results applied record.eventId).length
  count : record.finalFailed = false →
    record.ackedSeqCount ≤ (successes applied record.eventId).length
  failed : record.finalFailed = true →
    ntSuccess record.finalStatus = false ∧ target.CompletedAs record.eventId false
  announced : Announced target record.eventId record.totalSeq

/-- The records that are tracked, and what was made of them. -/
structure Tracked (target : WriteTarget) (applied : List AckedSeq) (t : WriteTrack) : Prop where
  nodup : (t.activeWriteEvents.map WriteEventRecord.eventId).Nodup
  active : ∀ record ∈ t.activeWriteEvents, RecordOk target applied record
  finalized : ∀ record ∈ t.finalizedWriteEvents,
    Clean record.finalStatus ∧ t.Finalised record.eventId
  responses : ∀ x ∈ t.responses, target.CompletedAs x.eventId x.committed

/-- The record of a write without a final response says what was applied. -/
def Unfinished (applied : List AckedSeq) (record : WriteEventRecord) : Prop :=
  record.finalFailed = false ∧
    record.ackedSeqCount = (successes applied record.eventId).length ∧
    record.ackedSeqCount < record.totalSeq

/-- Nothing that was applied is forgotten, but for the writes in `except`. -/
structure Counted (applied : List AckedSeq) (t : WriteTrack) (except : Nat → Prop) : Prop where
  pending : ∀ record ∈ t.activeWriteEvents, ¬ except record.eventId →
    ¬ t.Finalised record.eventId → Unfinished applied record
  known : ∀ x ∈ applied, ¬ except x.eventId → t.Finalised x.eventId ∨
    ∃ record ∈ t.activeWriteEvents, record.eventId = x.eventId

namespace WritePlane

/-- What the flusher has been told of its ranges. -/
def FlushTold (target : WriteTarget) : WriteAckFlush → Prop
  | .idle => True
  | .held _ => True
  | .sent ranges index failures =>
    (∀ failure ∈ failures, failure.rangeIndex < index ∧ ntSuccess failure.status = false) ∧
      ∀ k < index, ∀ range, ranges[k]? = some range →
        Told target range (rangeStatus ranges failures k)
  | .applying ranges failures _ =>
    ∀ k range, ranges[k]? = some range → Told target range (rangeStatus ranges failures k)

structure Inv (dataBuffer : Nat → Bytes) (s : WritePlane) : Prop
    extends Placed dataBuffer s where
  slots : ∀ slot ∈ s.staging, ∀ status, slot.decided = some status → Clean status
  queued : ∀ range ∈ s.writeAcks, RangeOk range
  payload : ∀ range ∈ s.flush.payload, RangeOk range
  told : FlushTold s.target s.flush
  applied : ∀ x ∈ s.applied, (x.success = true → x ∈ s.target.acked) ∧
    (x.success = false → s.target.CompletedAs x.eventId false)
  tracked : Tracked s.target s.applied s.track
  counted : Counted s.applied s.track fun eventId => s.target.CompletedAs eventId false
  /-- An ack that the driver accepted is applied or in the hands of the flusher. -/
  accepted : ∀ x ∈ s.target.acked, x.success = true →
    s.target.CompletedAs x.eventId false ∨ x ∈ s.applied ∨ fragKey x ∈ s.held .payload

end WritePlane

/-! ## What a step of the driver leaves -/

section Advance

variable {target target' : WriteTarget} {applied : List AckedSeq} {t : WriteTrack}

theorem Announced.advances {eventId totalSeq : Nat} (h : Announced target eventId totalSeq)
    (ha : WriteTarget.Advances target target') : Announced target' eventId totalSeq := by
  obtain ⟨x, hx, hrest⟩ := h
  exact ⟨x, ha.issued.subset hx, hrest⟩

theorem Told.advances {range : WriteAckRange} {status : NtStatus} (h : Told target range status)
    (ha : WriteTarget.Advances target target') : Told target' range status := by
  rcases h with ⟨hok, hacked⟩ | ⟨hbad, hfailed⟩
  · exact .inl ⟨hok, ha.acked hacked⟩
  · exact .inr ⟨hbad, hfailed.advances ha⟩

theorem RecordOk.advances {record : WriteEventRecord} (h : RecordOk target applied record)
    (ha : WriteTarget.Advances target target') : RecordOk target' applied record :=
  ⟨h.unanswered, h.total, h.count, fun hf => ⟨(h.failed hf).1, (h.failed hf).2.advances ha⟩,
    h.announced.advances ha⟩

theorem Tracked.advances (h : Tracked target applied t) (ha : WriteTarget.Advances target target') :
    Tracked target' applied t :=
  ⟨h.nodup, fun r hr => (h.active r hr).advances ha, h.finalized,
    fun x hx => (h.responses x hx).advances ha⟩

theorem WritePlane.FlushTold.advances {flush : WriteAckFlush} (h : WritePlane.FlushTold target flush)
    (ha : WriteTarget.Advances target target') : WritePlane.FlushTold target' flush := by
  cases flush with
  | idle => trivial
  | held ranges => trivial
  | sent ranges index failures =>
    exact ⟨h.1, fun k hk range hr => (h.2 k hk range hr).advances ha⟩
  | applying ranges failures index => exact fun k range hr => (h k range hr).advances ha

end Advance

/-! ## The fragments of a write -/

theorem mem_of_length_le {xs : List Nat} {n : Nat} (hnodup : xs.Nodup) (hlt : ∀ x ∈ xs, x < n)
    (hlen : n ≤ xs.length) : ∀ x < n, x ∈ xs := by
  intro x hx
  have hsub : xs ⊆ List.range n := fun y hy => List.mem_range.mpr (hlt y hy)
  have hperm := (List.subperm_of_subset hnodup hsub).perm_of_length_le
    (by rw [List.length_range]; exact hlen)
  exact hperm.mem_iff.mpr (List.mem_range.mpr hx)

theorem mem_successes {applied : List AckedSeq} {eventId seq : Nat} :
    seq ∈ successes applied eventId ↔ ⟨eventId, seq, true⟩ ∈ applied := by
  unfold successes
  rw [List.mem_map]
  constructor
  · rintro ⟨⟨e, q, b⟩, hx, rfl⟩
    simp only [List.mem_filter, Bool.and_eq_true, decide_eq_true_eq] at hx
    obtain ⟨hx, rfl, rfl⟩ := hx
    exact hx
  · intro hx
    refine ⟨_, List.mem_filter.mpr ⟨hx, ?_⟩, rfl⟩
    simp

/-- No fragment of a write was applied twice. -/
theorem seqs_nodup {applied : List AckedSeq} (h : (applied.map fragKey).Nodup)
    {p : AckedSeq → Bool} {eventId : Nat} (hp : ∀ x, p x = true → x.eventId = eventId) :
    ((applied.filter p).map AckedSeq.seq).Nodup := by
  have hfilter := (List.filter_sublist (p := p)).map fragKey |>.nodup h
  refine List.Nodup.map_on (fun x hx y hy hseq => ?_) (List.Nodup.of_map _ hfilter)
  refine List.inj_on_of_nodup_map hfilter hx hy (Prod.ext ?_ hseq)
  exact (hp x (List.mem_filter.mp hx).2).trans (hp y (List.mem_filter.mp hy).2).symm

theorem results_nodup {applied : List AckedSeq} (h : (applied.map fragKey).Nodup) (eventId : Nat) :
    (results applied eventId).Nodup :=
  seqs_nodup h fun _ hx => of_decide_eq_true hx

theorem successes_nodup {applied : List AckedSeq} (h : (applied.map fragKey).Nodup)
    (eventId : Nat) : (successes applied eventId).Nodup :=
  seqs_nodup h fun _ hx => of_decide_eq_true (Bool.and_eq_true_iff.mp hx).1

theorem results_concat (applied : List AckedSeq) (x : AckedSeq) (eventId : Nat) :
    (results (applied ++ [x]) eventId).length =
      (results applied eventId).length + if x.eventId = eventId then 1 else 0 := by
  unfold results
  rw [List.filter_append, List.map_append, List.length_append]
  congr 1
  by_cases h : x.eventId = eventId
  · rw [if_pos h, List.filter_singleton]
    simp [h]
  · rw [if_neg h, List.filter_singleton]
    simp [h]

theorem successes_concat (applied : List AckedSeq) (x : AckedSeq) (eventId : Nat) :
    (successes (applied ++ [x]) eventId).length = (successes applied eventId).length +
      if x.eventId = eventId ∧ x.success = true then 1 else 0 := by
  unfold successes
  rw [List.filter_append, List.map_append, List.length_append]
  congr 1
  by_cases h : x.eventId = eventId ∧ x.success = true
  · rw [if_pos h, List.filter_singleton]
    simp [h]
  · rw [if_neg h, List.filter_singleton]
    have hfalse : (decide (x.eventId = eventId) && x.success) = false := by
      rw [Bool.eq_false_iff]
      simpa using h
    rw [hfalse]
    rfl

section Count

variable {dataBuffer : Nat → Bytes} {target : WriteTarget} {applied : List AckedSeq}

/-- What is announced of a write is what its request says. -/
theorem Announced.request (hinv : WriteTarget.Inv dataBuffer target) {eventId totalSeq : Nat}
    (h : Announced target eventId totalSeq) {request : WriteRequest}
    (hr : request ∈ target.requests) (he : request.eventId = eventId) :
    request.totalSeq = totalSeq := by
  obtain ⟨x, hx, hxe, payload, hpayload, rfl⟩ := h
  have hslot := ((hinv.kept hr).recorded.slots x hx (hxe.trans he.symm)).2
  rw [hpayload] at hslot
  exact (congrArg WriteSlotPayload.totalSeq (Except.ok.inj hslot)).symm

/-- A fragment that was issued is one of those announced. -/
theorem Announced.lt (hinv : WriteTarget.Inv dataBuffer target)
    (hissues : WriteTarget.Issues target) {eventId totalSeq seq : Nat}
    (h : Announced target eventId totalSeq) {y : IssuedSlot} (hy : y ∈ target.issued)
    (hkey : (y.eventId, y.seq) = (eventId, seq)) : seq < totalSeq := by
  obtain ⟨hye, hys⟩ := Prod.mk.inj hkey
  obtain ⟨request, hr, he⟩ := hissues.owned y hy
  have hk := hinv.kept hr
  have hnext := (hk.recorded.slots y hy he.symm).1
  have hissue := hk.wellFormed.issue_le
  have htotal := h.request hinv hr (he.trans hye)
  omega

/-- **As many successes as a write has fragments are all of its fragments.** -/
theorem mem_successes_of_count (hinv : WriteTarget.Inv dataBuffer target)
    (hissues : WriteTarget.Issues target) (hnodup : (applied.map fragKey).Nodup)
    (hissued : ∀ x ∈ applied, ∃ y ∈ target.issued, (y.eventId, y.seq) = fragKey x)
    {eventId totalSeq : Nat} (hann : Announced target eventId totalSeq)
    (hcount : totalSeq ≤ (successes applied eventId).length) :
    ∀ seq < totalSeq, seq ∈ successes applied eventId := by
  refine mem_of_length_le (successes_nodup hnodup eventId) (fun seq hseq => ?_) hcount
  obtain ⟨y, hy, hkey⟩ := hissued _ (mem_successes.mp hseq)
  exact hann.lt hinv hissues hy hkey

/-- The driver has accepted them, so it has completed the write. -/
theorem completed_of_count (hinv : WriteTarget.Inv dataBuffer target)
    (hissues : WriteTarget.Issues target) (hnodup : (applied.map fragKey).Nodup)
    (hissued : ∀ x ∈ applied, ∃ y ∈ target.issued, (y.eventId, y.seq) = fragKey x)
    (hacked : ∀ x ∈ applied, x.success = true → x ∈ target.acked) {eventId totalSeq : Nat}
    (hann : Announced target eventId totalSeq)
    (hcount : totalSeq ≤ (successes applied eventId).length) :
    target.CompletedAs eventId true := by
  have hall := mem_successes_of_count hinv hissues hnodup hissued hann hcount
  obtain ⟨x, hx, rfl, payload, hpayload, rfl⟩ := hann
  exact hinv.completedAs_true hissues hx hpayload fun seq hseq =>
    hacked _ (mem_successes.mp (hall seq hseq)) rfl

end Count

/-! ## The records of a disk -/

section Track

variable {target : WriteTarget} {applied : List AckedSeq} {t : WriteTrack}
  {record : WriteEventRecord} {except : Nat → Prop}

theorem RecordOk.concat (h : RecordOk target applied record) (x : AckedSeq) :
    RecordOk target (applied ++ [x]) record := by
  refine ⟨h.unanswered, ?_, fun hf => ?_, h.failed, h.announced⟩
  · have htotal := h.total
    rw [results_concat]
    omega
  · have hcount := h.count hf
    rw [successes_concat]
    omega

theorem Tracked.concat (h : Tracked target applied t) (x : AckedSeq) :
    Tracked target (applied ++ [x]) t :=
  ⟨h.nodup, fun r hr => (h.active r hr).concat x, h.finalized, h.responses⟩

theorem WriteTrack.find_some {eventId : Nat} (h : t.findActiveWriteEvent eventId = some record) :
    record ∈ t.activeWriteEvents ∧ record.eventId = eventId :=
  ⟨List.mem_of_find?_eq_some h, by simpa using List.find?_some h⟩

theorem WriteTrack.find_none {eventId : Nat} (h : t.findActiveWriteEvent eventId = none) :
    ∀ r ∈ t.activeWriteEvents, r.eventId ≠ eventId := by
  intro r hr
  simpa using List.find?_eq_none.mp h r hr

/-- A record in place of the one of its event. -/
theorem WriteTrack.mem_setActive {r : WriteEventRecord}
    (h : r ∈ (t.setActive record).activeWriteEvents) :
    r = record ∨ r ∈ t.activeWriteEvents ∧ r.eventId ≠ record.eventId := by
  obtain ⟨old, hold, rfl⟩ := List.mem_map.mp h
  by_cases he : old.eventId = record.eventId
  · rw [if_pos he]
    exact .inl rfl
  · rw [if_neg he]
    exact .inr ⟨hold, he⟩

theorem WriteTrack.setActive_ids (t : WriteTrack) (record : WriteEventRecord) :
    (t.setActive record).activeWriteEvents.map WriteEventRecord.eventId =
      t.activeWriteEvents.map WriteEventRecord.eventId := by
  unfold setActive
  rw [List.map_map]
  refine List.map_congr_left fun r _ => ?_
  show (if r.eventId = record.eventId then record else r).eventId = r.eventId
  by_cases he : r.eventId = record.eventId
  · rw [if_pos he, he]
  · rw [if_neg he]

theorem Tracked.setActive (h : Tracked target applied t) (hr : RecordOk target applied record) :
    Tracked target applied (t.setActive record) := by
  refine ⟨t.setActive_ids record ▸ h.nodup, fun r hmem => ?_, h.finalized, h.responses⟩
  rcases WriteTrack.mem_setActive hmem with rfl | ⟨hmem, -⟩
  · exact hr
  · exact h.active r hmem

/-- With one record for each event, to take one out is to keep the others. -/
theorem eraseP_eq_filter {xs : List WriteEventRecord}
    (h : (xs.map WriteEventRecord.eventId).Nodup) (eventId : Nat) :
    (xs.eraseP fun r => r.eventId = eventId) = xs.filter fun r => r.eventId ≠ eventId := by
  induction xs with
  | nil => rfl
  | cons x xs ih =>
    rw [List.map_cons, List.nodup_cons] at h
    by_cases hx : x.eventId = eventId
    · rw [List.eraseP_cons_of_pos (by simpa using hx), List.filter_cons_of_neg (by simpa using hx)]
      refine (List.filter_eq_self.mpr fun r hr => ?_).symm
      have hne : r.eventId ≠ eventId := fun he =>
        h.1 (List.mem_map.mpr ⟨r, hr, he.trans hx.symm⟩)
      simpa using hne
    · rw [List.eraseP_cons_of_neg (by simpa using hx), List.filter_cons_of_pos (by simpa using hx),
        ih h.2]

theorem WriteTrack.filter_setActive (t : WriteTrack) (record : WriteEventRecord) :
    ((t.setActive record).activeWriteEvents.filter fun r => r.eventId ≠ record.eventId) =
      t.activeWriteEvents.filter fun r => r.eventId ≠ record.eventId := by
  unfold setActive
  dsimp only
  induction t.activeWriteEvents with
  | nil => rfl
  | cons x xs ih =>
    rw [List.map_cons]
    by_cases hx : x.eventId = record.eventId
    · rw [if_pos hx, List.filter_cons_of_neg (by simp), List.filter_cons_of_neg (by simpa using hx),
        ih]
    · rw [if_neg hx, List.filter_cons_of_pos (by simpa using hx),
        List.filter_cons_of_pos (by simpa using hx), ih]

theorem WriteTrack.remember_spec (t : WriteTrack) (eventId totalSeq : Nat) (finalStatus : NtStatus)
    (finalFailed allocated : Bool) :
    let t' := (t.rememberFinalizedWriteEvent eventId totalSeq finalStatus finalFailed allocated).1
    t'.activeWriteEvents = t.activeWriteEvents ∧ t'.responses = t.responses ∧
      ∀ r ∈ t'.finalizedWriteEvents,
        r ∈ t.finalizedWriteEvents ∨ r.eventId = eventId ∧ r.finalStatus = finalStatus := by
  unfold rememberFinalizedWriteEvent
  dsimp only
  split
  · next old hfind =>
    refine ⟨rfl, rfl, fun r hr => ?_⟩
    obtain ⟨r', hr', rfl⟩ := List.mem_map.mp hr
    by_cases he : r'.eventId = eventId
    · rw [if_pos he]
      have hold : old.eventId = eventId := by simpa using List.find?_some hfind
      exact .inr ⟨hold, rfl⟩
    · rw [if_neg he]
      exact .inl hr'
  · split
    · refine ⟨rfl, rfl, fun r hr => ?_⟩
      rcases List.mem_append.mp (List.mem_of_mem_drop hr) with hr | hr
      · exact .inl hr
      · obtain rfl := List.mem_singleton.mp hr
        exact .inr ⟨rfl, rfl⟩
    · exact ⟨rfl, rfl, fun r hr => .inl hr⟩

theorem WriteTrack.retire_spec (t : WriteTrack) (record : WriteEventRecord)
    (hnodup : (t.activeWriteEvents.map WriteEventRecord.eventId).Nodup) (finalStatus : NtStatus)
    (finalFailed allocated : Bool) :
    let t' := (t.retire record finalStatus finalFailed allocated).1
    t'.activeWriteEvents = t.activeWriteEvents.filter (fun r => r.eventId ≠ record.eventId) ∧
      t'.responses = t.responses ∧
      ∀ r ∈ t'.finalizedWriteEvents,
        r ∈ t.finalizedWriteEvents ∨ r.eventId = record.eventId ∧ r.finalStatus = finalStatus := by
  obtain ⟨hactive, hresponses, hfinal⟩ := WriteTrack.remember_spec
    { t with activeWriteEvents := t.activeWriteEvents.eraseP fun r => r.eventId = record.eventId }
    record.eventId record.totalSeq finalStatus finalFailed allocated
  exact ⟨hactive.trans (eraseP_eq_filter hnodup _), hresponses, hfinal⟩

/-- A final response is queued, or cannot be. -/
theorem WriteTrack.finalize_spec (t : WriteTrack)
    (hopen : record.finalResponseQueued = false) (finalStatus : NtStatus) (finalFailed : Bool)
    (push : NtStatus) :
    push ≠ statusSuccess ∧ t.finalizeWriteEvent record finalStatus finalFailed push =
        (t.setActive { record with finalFailed, finalStatus }, push) ∨
      ∃ t', t.finalizeWriteEvent record finalStatus finalFailed push = (t', statusSuccess) ∧
        t'.activeWriteEvents.map WriteEventRecord.eventId =
          t.activeWriteEvents.map WriteEventRecord.eventId ∧
        t'.activeWriteEvents.filter (fun r => r.eventId ≠ record.eventId) =
          t.activeWriteEvents.filter (fun r => r.eventId ≠ record.eventId) ∧
        t'.finalizedWriteEvents = t.finalizedWriteEvents ∧
        t'.responses = t.responses ++ [{
          committed := !finalFailed
          eventId := record.eventId
          totalSeq := record.totalSeq
          status := finalStatus }] := by
  unfold finalizeWriteEvent emitWriteFinalEvent
  dsimp only
  rw [if_neg (Bool.eq_false_iff.mp hopen)]
  by_cases hpush : push = statusSuccess
  · rw [if_neg (not_not.mpr hpush)]
    refine .inr ⟨_, if_neg (not_not.mpr rfl), ?_, ?_, rfl, rfl⟩
    · rw [WriteTrack.setActive_ids]
      exact t.setActive_ids { record with finalFailed, finalStatus }
    · refine (WriteTrack.filter_setActive _
        { record with finalFailed, finalStatus, finalResponseQueued := true }).trans ?_
      exact WriteTrack.filter_setActive t { record with finalFailed, finalStatus }
  · rw [if_pos hpush]
    dsimp only
    rw [if_pos hpush]
    exact .inl ⟨hpush, rfl⟩

/-- **A record is finalised**, or its response could not be queued. -/
theorem WriteTrack.finish_spec (hnodup : (t.activeWriteEvents.map WriteEventRecord.eventId).Nodup)
    (hopen : record.finalResponseQueued = false) (finalStatus : NtStatus) (finalFailed : Bool)
    (push : NtStatus) (allocated : Bool) :
    let out := t.finish record finalStatus finalFailed push allocated
    out.2 ≠ statusSuccess ∧ out.1 = t.setActive { record with finalFailed, finalStatus } ∨
      out.1.activeWriteEvents =
          t.activeWriteEvents.filter (fun r => r.eventId ≠ record.eventId) ∧
        out.1.responses = t.responses ++ [{
          committed := !finalFailed
          eventId := record.eventId
          totalSeq := record.totalSeq
          status := finalStatus }] ∧
        ∀ r ∈ out.1.finalizedWriteEvents,
          r ∈ t.finalizedWriteEvents ∨
            r.eventId = record.eventId ∧ r.finalStatus = finalStatus := by
  unfold finish
  rcases t.finalize_spec hopen finalStatus finalFailed push with
    ⟨hpush, heq⟩ | ⟨t', heq, hids, hfilter, hfinal, hresponses⟩
  · rw [heq]
    dsimp only
    rw [if_pos hpush]
    exact .inl ⟨hpush, rfl⟩
  · rw [heq]
    dsimp only
    rw [if_neg (not_not.mpr rfl)]
    have hnodup' : (t'.activeWriteEvents.map WriteEventRecord.eventId).Nodup := hids ▸ hnodup
    obtain ⟨hactive, hresp, hrem⟩ :=
      t'.retire_spec record hnodup' finalStatus finalFailed allocated
    exact .inr ⟨hactive.trans hfilter, hresp.trans hresponses, hfinal ▸ hrem⟩

/-- More writes are excused. -/
theorem Counted.mono {except' : Nat → Prop} (h : Counted applied t except)
    (hexcept : ∀ eventId, except eventId → except' eventId) : Counted applied t except' where
  pending r hr hne := h.pending r hr fun he => hne (hexcept _ he)
  known x hx hne := h.known x hx fun he => hne (hexcept _ he)

/-- The record of a write that is excused changes. -/
theorem Counted.excuse
    (h : Counted applied t fun eventId => except eventId ∨ eventId = record.eventId)
    (hexcept : except record.eventId) : Counted applied (t.setActive record) except := by
  refine ⟨fun r hr hne hnot => ?_, fun x hx hne => ?_⟩
  · rcases WriteTrack.mem_setActive hr with rfl | ⟨hr, hother⟩
    · exact absurd hexcept hne
    · exact h.pending r hr (not_or.mpr ⟨hne, hother⟩) hnot
  · have hother : x.eventId ≠ record.eventId := fun he => hne (he ▸ hexcept)
    rcases h.known x hx (not_or.mpr ⟨hne, hother⟩) with hf | ⟨r, hr, hre⟩
    · exact .inl hf
    · exact .inr ⟨r, List.mem_map.mpr ⟨r, hr, if_neg (hre ▸ hother)⟩, hre⟩

/-- A result of a write that has no record any more, or that is excused. -/
theorem Counted.concat (h : Counted applied t except) {x : AckedSeq}
    (hx : except x.eventId ∨
      t.Finalised x.eventId ∧ ∀ r ∈ t.activeWriteEvents, r.eventId ≠ x.eventId) :
    Counted (applied ++ [x]) t except := by
  refine ⟨fun r hr hne hnot => ?_, fun y hy hne => ?_⟩
  · obtain ⟨hfailed, hcount, hlt⟩ := h.pending r hr hne hnot
    refine ⟨hfailed, ?_, hlt⟩
    rw [successes_concat, if_neg, Nat.add_zero]
    · exact hcount
    · rintro ⟨he, -⟩
      rcases hx with hexcept | ⟨-, hother⟩
      · exact hne (he ▸ hexcept)
      · exact hother r hr he.symm
  · rcases List.mem_append.mp hy with hy | hy
    · exact h.known y hy hne
    · obtain rfl := List.mem_singleton.mp hy
      rcases hx with hexcept | ⟨hfinal, -⟩
      · exact absurd hexcept hne
      · exact .inl hfinal

/-- A write that is finalised as the driver completed it. -/
theorem Tracked.finish (h : Tracked target applied t) (hr : RecordOk target applied record)
    {finalStatus : NtStatus} {finalFailed : Bool} (hsame : record.finalFailed = finalFailed)
    (hdone : target.CompletedAs record.eventId (!finalFailed))
    (hstatus : finalFailed = true → ntSuccess finalStatus = false) (hclean : Clean finalStatus)
    (push : NtStatus) (allocated : Bool) :
    let out := t.finish record finalStatus finalFailed push allocated
    Tracked target applied out.1 ∧ ∀ except : Nat → Prop,
      (Counted applied t fun eventId => except eventId ∨ eventId = record.eventId) →
        out.2 = statusSuccess ∨ except record.eventId → Counted applied out.1 except := by
  have hspec := t.finish_spec h.nodup hr.unanswered finalStatus finalFailed push allocated
  dsimp only at hspec ⊢
  generalize t.finish record finalStatus finalFailed push allocated = out at hspec
  obtain ⟨t', result⟩ := out
  rcases hspec with ⟨hfail, heq⟩ | ⟨hactive, hresponses, hfinal⟩
  · rw [heq]
    refine ⟨?_, fun except hcounted hok =>
      Counted.excuse hcounted (hok.resolve_left hfail)⟩
    refine h.setActive ⟨hr.unanswered, hr.total, fun hf => ?_, fun hf => ?_, hr.announced⟩
    · exact hr.count (hsame.trans hf)
    · change finalFailed = true at hf
      rw [hf] at hdone
      exact ⟨hstatus hf, hdone⟩
  · have hmem : ∀ r ∈ t'.activeWriteEvents,
        r ∈ t.activeWriteEvents ∧ r.eventId ≠ record.eventId := by
      intro r hr
      rw [hactive] at hr
      obtain ⟨hr, hne⟩ := List.mem_filter.mp hr
      exact ⟨hr, by simpa using hne⟩
    have hgrow : ∀ eventId, t.Finalised eventId → t'.Finalised eventId := by
      rintro eventId ⟨x, hx, he⟩
      exact ⟨x, hresponses ▸ List.mem_append_left _ hx, he⟩
    have hself : t'.Finalised record.eventId :=
      ⟨_, hresponses ▸ List.mem_append_right _ (List.mem_singleton.mpr rfl), rfl⟩
    constructor
    · refine ⟨?_, fun r hr' => h.active r (hmem r hr').1, fun r hr' => ?_, fun x hx => ?_⟩
      · rw [hactive]
        exact (List.filter_sublist.map _).nodup h.nodup
      · rcases hfinal r hr' with hr' | ⟨he, hs⟩
        · exact ⟨(h.finalized r hr').1, hgrow _ (h.finalized r hr').2⟩
        · exact ⟨hs ▸ hclean, he ▸ hself⟩
      · rw [hresponses] at hx
        rcases List.mem_append.mp hx with hx | hx
        · exact h.responses x hx
        · obtain rfl := List.mem_singleton.mp hx
          exact hdone
    · refine fun except hcounted _ => ⟨fun r hr' hexcept hnot => ?_, fun x hx hexcept => ?_⟩
      · obtain ⟨hr', hne⟩ := hmem r hr'
        exact hcounted.pending r hr' (not_or.mpr ⟨hexcept, hne⟩) fun hf => hnot (hgrow _ hf)
      · by_cases he : x.eventId = record.eventId
        · exact .inl (he ▸ hself)
        · rcases hcounted.known x hx (not_or.mpr ⟨hexcept, he⟩) with hf | ⟨r, hr', hre⟩
          · exact .inl (hgrow _ hf)
          · refine .inr ⟨r, ?_, hre⟩
            rw [hactive]
            exact List.mem_filter.mpr ⟨hr', by simpa [hre] using he⟩

/-- One result more, and the record of its event. -/
theorem Counted.setActive (h : Counted applied t except) {x : AckedSeq}
    (he : record.eventId = x.eventId) :
    Counted (applied ++ [x]) (t.setActive record) fun eventId =>
      except eventId ∨ eventId = record.eventId := by
  refine ⟨fun r hr hne hnot => ?_, fun y hy hne => ?_⟩
  · obtain ⟨hexcept, hne⟩ := not_or.mp hne
    rcases WriteTrack.mem_setActive hr with rfl | ⟨hr, -⟩
    · exact absurd rfl hne
    · obtain ⟨hfailed, hcount, hlt⟩ := h.pending r hr hexcept hnot
      refine ⟨hfailed, ?_, hlt⟩
      rw [successes_concat, if_neg fun hx => hne (hx.1.symm.trans he.symm)]
      exact hcount
  · obtain ⟨hexcept, hne⟩ := not_or.mp hne
    rcases List.mem_append.mp hy with hy | hy
    · rcases h.known y hy hexcept with hf | ⟨r, hr, hre⟩
      · exact .inl hf
      · refine .inr ⟨r, List.mem_map.mpr ⟨r, hr, if_neg fun heq => ?_⟩, hre⟩
        exact hne (hre.symm.trans heq)
    · obtain rfl := List.mem_singleton.mp hy
      exact absurd he.symm hne

/-- A record that has not failed was told of a success. -/
theorem ack_count (old : WriteEventRecord) {range : WriteAckRange} {status : NtStatus}
    (h : (old.ack range status).finalFailed = false) :
    status = statusSuccess ∧
      (old.ack range status).ackedSeqCount = old.ackedSeqCount + range.seqCount := by
  unfold WriteEventRecord.ack at h ⊢
  dsimp only at h ⊢
  split at h
  · cases h
  · next hgood =>
    rw [if_neg hgood]
    exact ⟨not_not.mp hgood, rfl⟩

theorem ack_eventId (old : WriteEventRecord) (range : WriteAckRange) (status : NtStatus) :
    (old.ack range status).eventId = old.eventId := by
  unfold WriteEventRecord.ack
  dsimp only
  split <;> rfl

/-- The record with the range counted. -/
theorem RecordOk.ack {old : WriteEventRecord} (h : RecordOk target applied old)
    {range : WriteAckRange} {status : NtStatus} (hok : RangeOk range)
    (htold : Told target range status) (he : old.eventId = range.eventId) {x : AckedSeq}
    (hx : x = { eventId := range.eventId, seq := range.seqBase, success := status == statusSuccess }) :
    RecordOk target (applied ++ [x]) (old.ack range status) := by
  have hxe : x.eventId = old.eventId := hx ▸ he.symm
  have htotal : old.ackedSeqCount + range.seqCount ≤
      (results (applied ++ [x]) old.eventId).length := by
    have hle := h.total
    rw [results_concat, if_pos hxe, hok.seqCount]
    omega
  unfold WriteEventRecord.ack
  dsimp only
  split
  · next hbad =>
    rcases htold with ⟨hgood, -⟩ | ⟨hfail, hcompleted⟩
    · exact absurd hgood hbad
    · refine ⟨h.unanswered, htotal, fun hf => ?_, fun _ => ⟨hfail, he ▸ hcompleted⟩, h.announced⟩
      cases hf
  · next hgood =>
    refine ⟨h.unanswered, htotal, fun hf => ?_, h.failed, h.announced⟩
    have hcount := h.count hf
    have hsuccess : x.success = true := by
      rw [hx, not_not.mp hgood]
      rfl
    show old.ackedSeqCount + range.seqCount ≤ (successes (applied ++ [x]) old.eventId).length
    rw [successes_concat, if_pos ⟨hxe, hsuccess⟩, hok.seqCount]
    omega

/-- **A result is applied.** -/
theorem Tracked.apply (h : Tracked target applied t) {range : WriteAckRange} {status : NtStatus}
    (hok : RangeOk range) (htold : Told target range status) {x : AckedSeq}
    (hx : x = { eventId := range.eventId, seq := range.seqBase, success := status == statusSuccess })
    (hall : ∀ totalSeq, Announced target range.eventId totalSeq →
      totalSeq ≤ (successes (applied ++ [x]) range.eventId).length →
        target.CompletedAs range.eventId true)
    (push : NtStatus) (allocated : Bool) :
    let out := t.applyWriteAckResult range status push allocated
    Tracked target (applied ++ [x]) out.1 ∧ ∀ except : Nat → Prop, Counted applied t except →
      out.2 = statusSuccess ∨ except range.eventId → Counted (applied ++ [x]) out.1 except := by
  have hxe : x.eventId = range.eventId := hx ▸ rfl
  have hnotFound : statusNotFound ≠ statusSuccess := by decide
  have hinvalid : statusInvalidParameter ≠ statusSuccess := by decide
  unfold WriteTrack.applyWriteAckResult
  dsimp only
  have hfields : ¬ (range.eventId = 0 ∨ range.seqCount = 0) := by
    rintro (hz | hz)
    · exact hok.eventId hz
    · exact absurd (hok.seqCount.symm.trans hz) (by decide)
  rw [if_neg hfields]
  split
  · next hnone =>
    have hother : ∀ r ∈ t.activeWriteEvents, r.eventId ≠ x.eventId :=
      fun r hr => hxe ▸ WriteTrack.find_none hnone r hr
    split
    · next old hfind =>
      have hold : old.eventId = range.eventId := by simpa using List.find?_some hfind
      have hf := (h.finalized old (List.mem_of_find?_eq_some hfind)).2
      exact ⟨h.concat x, fun except hcounted _ =>
        hcounted.concat (.inr ⟨(hold.trans hxe.symm) ▸ hf, hother⟩)⟩
    · exact ⟨h.concat x, fun except hcounted hexcept =>
        hcounted.concat (.inl (hxe ▸ hexcept.resolve_left hnotFound))⟩
  · next old hfind =>
    obtain ⟨hold, he⟩ := WriteTrack.find_some hfind
    have hrec := h.active old hold
    split
    · exact ⟨h.concat x, fun except hcounted hexcept =>
        hcounted.concat (.inl (hxe ▸ hexcept.resolve_left hinvalid))⟩
    · rw [if_neg (Bool.eq_false_iff.mp hrec.unanswered)]
      have hrecord := hrec.ack hok htold he hx
      have hrecordId := (ack_eventId old range status).trans he
      have hset := (h.concat x).setActive hrecord
      have hcountedSet : ∀ except : Nat → Prop, Counted applied t except →
          Counted (applied ++ [x]) (t.setActive (old.ack range status)) fun eventId =>
            except eventId ∨ eventId = (old.ack range status).eventId :=
        fun except hcounted => hcounted.setActive (hrecordId.trans hxe.symm)
      -- a result of a write that is excused
      have hexcused : ∀ except : Nat → Prop, Counted applied t except → except range.eventId →
          Counted (applied ++ [x]) (t.setActive (old.ack range status)) except := by
        refine fun except hcounted hexcept => (hcountedSet except hcounted).mono fun eventId => ?_
        rintro (hid | rfl)
        · exact hid
        · exact hrecordId ▸ hexcept
      split
      · exact ⟨hset, fun except hcounted hexcept =>
          hexcused except hcounted (hexcept.resolve_left hinvalid)⟩
      · next hle =>
        split
        · next hf =>
          obtain ⟨hfail, hcompleted⟩ := hrecord.failed hf
          obtain ⟨htracked, hdone⟩ := hset.finish hrecord hf hcompleted (fun _ => hfail)
            (.inr hfail) push allocated
          exact ⟨htracked, fun except hcounted hexcept =>
            hdone except (hcountedSet except hcounted) (hrecordId ▸ hexcept)⟩
        · next hf =>
          rw [Bool.not_eq_true] at hf
          split
          · next heq =>
            have hcompleted : target.CompletedAs (old.ack range status).eventId true := by
              rw [hrecordId]
              refine hall _ (hrecordId ▸ hrecord.announced) ?_
              have hcount := hrecord.count hf
              rw [heq, hrecordId] at hcount
              exact hcount
            obtain ⟨htracked, hdone⟩ := hset.finish hrecord hf hcompleted (fun ht => by cases ht)
              (.inl rfl) push allocated
            exact ⟨htracked, fun except hcounted hexcept =>
              hdone except (hcountedSet except hcounted) (hrecordId ▸ hexcept)⟩
          · next hne =>
            refine ⟨hset, fun except hcounted _ => ?_⟩
            by_cases hexcept : except range.eventId
            · exact hexcused except hcounted hexcept
            have hbut := hcountedSet except hcounted
            refine ⟨fun r hr hother hnot => ?_, fun y hy hother => ?_⟩
            · rcases WriteTrack.mem_setActive hr with rfl | ⟨hr', hre⟩
              · refine ⟨hf, ?_, by omega⟩
                obtain ⟨-, hcount, -⟩ := hcounted.pending old hold (he ▸ hexcept) fun hfin =>
                  hnot (hrecordId.symm ▸ he ▸ hfin)
                obtain ⟨hgood, hacked⟩ := ack_count old hf
                have hsuccess : x.eventId = range.eventId ∧ x.success = true := by
                  refine ⟨hxe, ?_⟩
                  rw [hx, hgood]
                  rfl
                rw [hacked, hrecordId, successes_concat, if_pos hsuccess, hcount, he, hok.seqCount]
              · exact hbut.pending r hr (not_or.mpr ⟨hother, hre⟩) hnot
            · by_cases hye : y.eventId = (old.ack range status).eventId
              · refine .inr ⟨old.ack range status, List.mem_map.mpr ⟨old, hold, if_pos ?_⟩,
                  hye.symm⟩
                exact he.trans hrecordId.symm
              · exact hbut.known y hy (not_or.mpr ⟨hother, hye⟩)

end Track

/-! ## The status of a range -/

theorem rangeStatus_concat {ranges : List WriteAckRange} {failures : List WriteAckFailure}
    {failure : WriteAckFailure} {k : Nat} (hk : failure.rangeIndex ≠ k) :
    rangeStatus ranges (failures ++ [failure]) k = rangeStatus ranges failures k := by
  unfold rangeStatus
  rw [List.find?_append, List.find?_cons_of_neg (by simpa using hk), List.find?_nil, Option.or_none]

theorem rangeStatus_last {ranges : List WriteAckRange} {failures : List WriteAckFailure}
    {failure : WriteAckFailure} (hold : ∀ f ∈ failures, f.rangeIndex < failure.rangeIndex) :
    rangeStatus ranges (failures ++ [failure]) failure.rangeIndex = failure.status := by
  have hnone : (failures.find? fun f => f.rangeIndex = failure.rangeIndex) = none := by
    refine List.find?_eq_none.mpr fun f hf => ?_
    have hlt := hold f hf
    simp only [decide_eq_true_eq]
    omega
  unfold rangeStatus
  rw [List.find?_append, hnone, List.find?_cons_of_pos (by simp)]
  rfl

theorem rangeStatus_none {ranges : List WriteAckRange} {failures : List WriteAckFailure}
    {index : Nat} {range : WriteAckRange} (hold : ∀ f ∈ failures, f.rangeIndex < index)
    (hr : ranges[index]? = some range) : rangeStatus ranges failures index = range.ioStatus := by
  have hnone : (failures.find? fun f => f.rangeIndex = index) = none := by
    refine List.find?_eq_none.mpr fun f hf => ?_
    have hlt := hold f hf
    simp only [decide_eq_true_eq]
    omega
  unfold rangeStatus
  rw [hnone, hr]
  rfl

namespace WritePlane

variable {dataBuffer : Nat → Bytes} {s s' : WritePlane}

/-! ## The sections -/

/-- The driver takes a step; what it acks is in the hands of the flusher. -/
theorem Inv.advance (h : Inv dataBuffer s) {target : WriteTarget} {flush : WriteAckFlush}
    (ha : WriteTarget.Advances s.target target) (hinv : WriteTarget.Inv dataBuffer target)
    (hissues : WriteTarget.Issues target) (hpayload : flush.payload = s.flush.payload)
    (htold : FlushTold target flush)
    (hacked : ∀ x ∈ target.acked, x ∈ s.target.acked ∨ fragKey x ∈ s.held .payload) :
    Inv dataBuffer { s with target, flush } := by
  have hheld : ({ s with target, flush } : WritePlane).held = s.held := by
    funext p
    cases p with
    | payload => exact congrArg (List.map rangeKey) hpayload
    | _ => rfl
  exact {
    toPlaced := h.toPlaced.advance ha hinv hissues hheld rfl fun _ => id
    slots := h.slots
    queued := h.queued
    payload := fun range hr => h.payload range (hpayload ▸ hr)
    told := htold
    applied := fun x hx =>
      ⟨fun hs => ha.acked ((h.applied x hx).1 hs), fun hf => ((h.applied x hx).2 hf).advances ha⟩
    tracked := h.tracked.advances ha
    counted := h.counted.mono fun _ hf => hf.advances ha
    accepted := fun x hx hs => by
      rcases hacked x hx with hx | hx
      · rcases h.accepted x hx hs with hf | hx
        · exact .inl (hf.advances ha)
        · exact .inr (hheld ▸ hx)
      · exact .inr (.inr (hheld ▸ hx)) }

theorem Inv.driver (h : Inv dataBuffer s) {a : WriteTarget.Action} {target : WriteTarget}
    (hs : s.target.step dataBuffer a = some target) (hack : ∀ range, a ≠ .ackRange range) :
    Inv dataBuffer { s with target } := by
  have ha := WriteTarget.step_advances hs
  refine h.advance ha (WriteTarget.step_inv h.target hs)
    (WriteTarget.step_issues h.target h.issues hs) rfl (h.told.advances ha) fun x hx => ?_
  rw [(WriteTarget.step_kept hs).2.2 hack] at hx
  exact .inl hx

/-- **The driver handles a range**, and says what it made of it. -/
theorem Inv.handle (h : Inv dataBuffer s) (hg : Guard s .handle) (hs : s.handle = some s') :
    Inv dataBuffer s' := by
  obtain ⟨ranges, index, failures, range, hflush, hr, rfl⟩ := handle_cases hs
  have hmem : range ∈ s.flush.payload := by
    rw [hflush]
    exact List.mem_of_getElem? hr
  have hok := h.payload range hmem
  have hkey : rangeKey range ∈ s.held .payload := List.mem_map_of_mem hmem
  obtain ⟨x, hx, heq⟩ := h.issued hkey
  obtain ⟨hxe, hxs⟩ := Prod.mk.inj heq
  have hnot : ⟨range.eventId, range.seqBase, true⟩ ∉ s.target.acked := by
    refine hg range (Option.mem_toList.mpr ?_)
    rw [hflush]
    exact hr
  have ha := WriteTarget.ackRange_advances s.target range
  have htold := h.told
  rw [hflush] at htold
  obtain ⟨hfailures, hranges⟩ := htold
  have hnew := h.target.ackRange_told h.issues hx hxe.symm hxs.symm hok.seqCount hok.eventId hnot
  refine h.advance ha (h.target.ackRange range) ?_ (by rw [hflush]; rfl) ⟨?_, ?_⟩ fun y hy => ?_
  · exact WriteTarget.step_issues h.target h.issues (a := .ackRange range) rfl
  · intro failure hf
    split at hf
    · exact ⟨Nat.lt_succ_of_lt (hfailures failure hf).1, (hfailures failure hf).2⟩
    · next hbad =>
      rcases List.mem_append.mp hf with hf | hf
      · exact ⟨Nat.lt_succ_of_lt (hfailures failure hf).1, (hfailures failure hf).2⟩
      · obtain rfl := List.mem_singleton.mp hf
        exact ⟨Nat.lt_succ_self _, Bool.eq_false_iff.mpr hbad⟩
  · intro k hk range' hr'
    by_cases hkey : k = index
    · subst hkey
      obtain rfl : range = range' := Option.some.inj (hr.symm.trans hr')
      split
      · next hgood =>
        rw [rangeStatus_none (fun f hf => (hfailures f hf).1) hr]
        rcases hnew with ⟨-, hio, hacked⟩ | ⟨hbad, hfailed⟩
        · rcases hok.clean with hclean | hclean
          · exact .inl ⟨hclean, hacked⟩
          · exact absurd hio (Bool.eq_false_iff.mp hclean)
        · exact .inr ⟨Bool.eq_false_iff.mpr (hbad.resolve_left (not_not.mpr hgood)), hfailed⟩
      · next hbad =>
        rw [rangeStatus_last fun f hf => (hfailures f hf).1]
        rcases hnew with ⟨hsuccess, -⟩ | ⟨-, hfailed⟩
        · exact absurd (hsuccess ▸ rfl) hbad
        · exact .inr ⟨Bool.eq_false_iff.mpr hbad, hfailed⟩
    · have hlt : k < index := by omega
      have hold := (hranges k hlt range' hr').advances ha
      split
      · exact hold
      · rw [rangeStatus_concat (by dsimp only; omega)]
        exact hold
  · rcases WriteTarget.mem_acked_ackRange hy with hy | ⟨hye, hys⟩
    · exact .inl hy
    · refine .inr ?_
      have hseq : y.seq = range.seqBase := by
        have hbounds := WriteTarget.mem_seqs.mp hys
        have hone := hok.seqCount
        unfold WriteAckRange.endSeq at hbounds
        omega
      have hfrag : fragKey y = rangeKey range := Prod.ext hye hseq
      rw [hfrag]
      exact hkey

/-- **A write is tracked.** -/
theorem Tracked.ensure {target : WriteTarget} {applied : List AckedSeq} {t : WriteTrack}
    (h : Tracked target applied t) {header : WriteSlotPayload}
    (hann : Announced target header.eventId header.totalSeq) (allocated : Bool) :
    let out := beginStage t header allocated
    Tracked target applied out.1 ∧ (∀ status, out.2 = some status → Clean status) ∧
      ∀ except : Nat → Prop, Counted applied t except → Counted applied out.1 except := by
  unfold beginStage WriteTrack.ensureWriteEventTracked
  have hsame : ∀ status, Clean status →
      Tracked target applied t ∧ (∀ status', some status = some status' → Clean status') ∧
        ∀ except : Nat → Prop, Counted applied t except → Counted applied t except :=
    fun status hclean => ⟨h, fun _ heq => Option.some.inj heq ▸ hclean, fun _ => id⟩
  have hinvalid : Clean statusInvalidParameter := .inr (by decide)
  by_cases hfields : header.eventId = 0 ∨ header.totalSeq = 0
  · rw [if_pos hfields]
    exact hsame _ hinvalid
  · rw [if_neg hfields]
    cases hfinal : t.findFinalizedWriteEvent header.eventId with
    | some old =>
      have hclean := (h.finalized old (List.mem_of_find?_eq_some hfinal)).1
      refine hsame _ ?_
      split
      · exact .inr (by decide)
      · exact hclean
    | none =>
      cases hactive : t.findActiveWriteEvent header.eventId with
      | some old =>
        dsimp only
        by_cases htotal : old.totalSeq ≠ header.totalSeq
        · rw [if_pos htotal]
          exact hsame _ hinvalid
        · rw [if_neg htotal]
          exact ⟨h, nofun, fun _ => id⟩
      | none =>
        have hother := WriteTrack.find_none hactive
        cases allocated with
        | false => exact hsame _ (.inr (by decide))
        | true =>
          refine ⟨⟨?_, fun r hr => ?_, h.finalized, h.responses⟩, nofun, fun except hcounted =>
            ⟨fun r hr hexcept hnot => ?_, fun x hx hexcept => ?_⟩⟩
          · refine List.nodup_cons.mpr ⟨fun hmem => ?_, h.nodup⟩
            obtain ⟨r, hr, he⟩ := List.mem_map.mp hmem
            exact hother r hr he
          · rcases List.mem_cons.mp hr with rfl | hr
            · exact ⟨rfl, Nat.zero_le _, fun _ => Nat.zero_le _, nofun, hann⟩
            · exact h.active r hr
          · rcases List.mem_cons.mp hr with rfl | hr
            · -- nothing of the write was applied, or it would be known
              have hnone : successes applied header.eventId = [] := by
                refine List.eq_nil_iff_forall_not_mem.mpr fun seq hseq => ?_
                rcases hcounted.known _ (mem_successes.mp hseq) hexcept with hf | ⟨r, hr, he⟩
                · exact hnot hf
                · exact hother r hr he
              refine ⟨rfl, ?_, Nat.pos_of_ne_zero fun hzero => hfields (.inr hzero)⟩
              show 0 = (successes applied header.eventId).length
              rw [hnone]
              rfl
            · exact hcounted.pending r hr hexcept hnot
          · rcases hcounted.known x hx hexcept with hf | ⟨r, hr, he⟩
            · exact .inl hf
            · exact .inr ⟨r, List.mem_cons_of_mem _ hr, he⟩

/-- **A slot reaches a worker.** -/
theorem Inv.deliver (h : Inv dataBuffer s) {i : Nat} {allocated : Bool}
    (hs : s.deliver i allocated = some s') : Inv dataBuffer s' := by
  have hplaced := h.toPlaced.deliver hs
  obtain ⟨x, header, hissued, hpayload, -, rfl | ⟨-, rfl⟩⟩ := deliver_cases hs
  · exact { h with toPlaced := hplaced }
  have hann : Announced s.target header.eventId header.totalSeq :=
    ⟨x, List.mem_of_getElem? hissued, (Prod.mk.inj (h.header_eq hissued hpayload)).1.symm, header,
      hpayload, rfl⟩
  obtain ⟨htracked, hclean, hcounted⟩ := Tracked.ensure h.tracked hann allocated
  refine { h with
    toPlaced := hplaced
    slots := fun slot hslot => ?_
    tracked := htracked
    counted := hcounted _ h.counted }
  rcases List.mem_append.mp hslot with hslot | hslot
  · exact h.slots slot hslot
  · obtain rfl := List.mem_singleton.mp hslot
    exact hclean

/-- **A fragment was staged.** -/
theorem Inv.stage (h : Inv dataBuffer s) {k : Nat} {status : NtStatus} {enqueued : Bool}
    (hg : Guard s (.stage k status enqueued)) (hs : s.stage k status enqueued = some s') :
    Inv dataBuffer s' := by
  have hplaced := h.toPlaced.stage hs
  obtain ⟨slot, hslot, rfl⟩ := Option.map_eq_some_iff.mp hs
  have hmem := List.mem_of_getElem? hslot
  have hclean : Clean (slot.decided.getD status) := by
    have hdecided := h.slots slot hmem
    cases hnone : slot.decided with
    | none => exact hg slot hslot hnone
    | some status' => exact hdecided status' hnone
  refine { h with
    toPlaced := hplaced
    slots := fun slot' hslot' => h.slots slot' (List.mem_of_mem_eraseIdx hslot')
    queued := fun r hr => ?_ }
  cases enqueued with
  | false => exact h.queued r hr
  | true =>
    rcases List.mem_append.mp hr with hr | hr
    · exact h.queued r hr
    · obtain rfl := List.mem_singleton.mp hr
      exact ⟨(h.headers slot hmem).1, rfl, hclean⟩

/-- What the driver has accepted and the flusher does not hold is applied, or of a write that has
failed. -/
theorem Inv.accepted_of_unaccepted (h : Inv dataBuffer s)
    (hlost : Unaccepted s.target s.flush.payload) {x : AckedSeq} (hx : x ∈ s.target.acked)
    (hsuccess : x.success = true) : s.target.CompletedAs x.eventId false ∨ x ∈ s.applied := by
  rcases h.accepted x hx hsuccess with hf | hx' | hkey
  · exact .inl hf
  · exact .inr hx'
  · obtain ⟨range, hr, heq⟩ := List.mem_map.mp hkey
    obtain ⟨he, hseq⟩ := Prod.mk.inj heq
    have hmem : ⟨range.eventId, range.seqBase, true⟩ ∈ s.target.acked := by
      rw [he, hseq, ← hsuccess]
      exact hx
    exact absurd hmem (hlost range hr)

/-- The flusher drops what it holds; the driver has accepted nothing of it. -/
theorem Inv.shutDown (h : Inv dataBuffer s) (hlost : Unaccepted s.target s.flush.payload) :
    Inv dataBuffer s.shutDown :=
  { h with
    toPlaced := h.toPlaced.shutDown
    queued := nofun
    payload := nofun
    told := trivial
    accepted := fun _ hx hsuccess => (h.accepted_of_unaccepted hlost hx hsuccess).imp_right .inl }

/-- The ranges are where they were. -/
theorem Inv.setFlush (h : Inv dataBuffer s) {flush : WriteAckFlush}
    (hpayload : flush.payload = s.flush.payload) (htold : FlushTold s.target flush) :
    Inv dataBuffer { s with flush } :=
  h.advance (WriteTarget.Advances.refl _) h.target h.issues hpayload htold fun _ => .inl

theorem Inv.steal (h : Inv dataBuffer s) (hs : s.steal = some s') : Inv dataBuffer s' := by
  have hplaced := h.toPlaced.steal hs
  obtain ⟨-, hflush, rfl⟩ := steal_cases hs
  have hnone : s.held .payload = [] := by
    show s.flush.payload.map rangeKey = []
    rw [hflush]
    rfl
  refine { h with
    toPlaced := hplaced
    queued := fun range hr => h.queued range (List.mem_of_mem_drop hr)
    payload := fun range hr => h.queued range (List.mem_of_mem_take hr)
    told := trivial
    accepted := fun x hx hsuccess => ?_ }
  rcases h.accepted x hx hsuccess with hf | hx | hx
  · exact .inl hf
  · exact .inr (.inl hx)
  · rw [hnone] at hx
    cases hx

theorem Inv.send (h : Inv dataBuffer s) (hs : s.send = some s') : Inv dataBuffer s' := by
  obtain ⟨ranges, hflush, rfl⟩ := send_cases hs
  exact h.setFlush (by rw [hflush]; rfl) ⟨nofun, fun k hk => absurd hk (Nat.not_lt_zero k)⟩

theorem Inv.reply (h : Inv dataBuffer s) (hs : s.reply = some s') : Inv dataBuffer s' := by
  obtain ⟨ranges, failures, hflush, rfl⟩ := reply_cases hs
  have htold := h.told
  rw [hflush] at htold
  refine h.setFlush (by rw [hflush]; rfl) fun k range hr => ?_
  exact htold.2 k (List.getElem?_eq_some_iff.mp hr).1 range hr

/-- **A batch may have to be sent again.** -/
theorem Inv.fail (h : Inv dataBuffer s) {status : NtStatus} (hg : Guard s (.fail status))
    (hs : s.fail status = some s') : Inv dataBuffer s' := by
  rcases fail_cases hs with ⟨hends, rfl⟩ | ⟨-, rfl⟩
  · exact h.shutDown (hg hends)
  · exact h.setFlush rfl trivial

theorem Inv.told_applying (h : Inv dataBuffer s) {ranges : List WriteAckRange}
    {failures : List WriteAckFailure} {index : Nat} {range : WriteAckRange}
    (hflush : s.flush = .applying ranges failures index) (hr : ranges[index]? = some range) :
    Told s.target range (rangeStatus ranges failures index) := by
  have htold := h.told
  rw [hflush] at htold
  exact htold index range hr

/-- A write has more fragments than were applied before the next one. -/
theorem Inv.results_lt (h : Inv dataBuffer s) {ranges : List WriteAckRange}
    {failures : List WriteAckFailure} {index : Nat} {range : WriteAckRange}
    (hflush : s.flush = .applying ranges failures index) (hr : ranges[index]? = some range)
    {totalSeq : Nat} (hann : Announced s.target range.eventId totalSeq) :
    (results s.applied range.eventId).length < totalSeq := by
  have hplaced := h.toPlaced.applied_one hflush hr s.track true s.shuttingDown
  have hnodup := results_nodup (hplaced.places.nodup .applied) range.eventId
  have hlt : results (s.applied ++ [⟨range.eventId, range.seqBase, true⟩]) range.eventId ⊆
      List.range totalSeq := by
    intro seq hseq
    obtain ⟨x, hx, rfl⟩ := List.mem_map.mp hseq
    obtain ⟨hx, he⟩ := List.mem_filter.mp hx
    obtain ⟨y, hy, hkey⟩ := hplaced.issued (p := .applied) (List.mem_map_of_mem hx)
    rw [fragKey, of_decide_eq_true he] at hkey
    exact List.mem_range.mpr (hann.lt h.target h.issues hy hkey)
  have hle := (List.subperm_of_subset hnodup hlt).length_le
  rw [List.length_range, results_concat, if_pos rfl] at hle
  exact hle

/-- A final response that is queued is all that it takes. -/
theorem finish_ok (t : WriteTrack) {record : WriteEventRecord}
    (hopen : record.finalResponseQueued = false) (finalStatus : NtStatus) (finalFailed : Bool) :
    (t.finish record finalStatus finalFailed statusSuccess true).2 = statusSuccess := by
  unfold WriteTrack.finish
  rcases t.finalize_spec hopen finalStatus finalFailed statusSuccess with
    ⟨hpush, -⟩ | ⟨t', heq, -⟩
  · exact absurd rfl hpush
  · rw [heq]
    dsimp only
    rw [if_neg (not_not.mpr rfl)]
    unfold WriteTrack.retire WriteTrack.rememberFinalizedWriteEvent
    split
    · rfl
    · rfl

/-- **A result can be applied** while its write is known, if there is room for the response and
memory for the record. -/
theorem Inv.apply_ok (h : Inv dataBuffer s) {ranges : List WriteAckRange}
    {failures : List WriteAckFailure} {index : Nat} {range : WriteAckRange}
    (hflush : s.flush = .applying ranges failures index) (hr : ranges[index]? = some range)
    (hknows : s.track.Knows range.eventId) (status : NtStatus) :
    (s.track.applyWriteAckResult range status statusSuccess true).2 = statusSuccess := by
  have hmem : range ∈ s.flush.payload := payload_applying hflush hr ▸ List.mem_cons_self
  have hok := h.payload range hmem
  have hfields : ¬ (range.eventId = 0 ∨ range.seqCount = 0) := by
    rintro (hz | hz)
    · exact hok.eventId hz
    · exact absurd (hok.seqCount.symm.trans hz) (by decide)
  unfold WriteTrack.applyWriteAckResult
  rw [if_neg hfields]
  split
  · next hnone =>
    split
    · rfl
    · next hforgotten =>
      obtain ⟨record, hrecord, he⟩ := List.mem_map.mp hknows
      rcases List.mem_append.mp hrecord with hrecord | hrecord
      · exact absurd he (WriteTrack.find_none hnone record hrecord)
      · exact absurd he (by simpa using List.find?_eq_none.mp hforgotten record hrecord)
  · next old hfind =>
    obtain ⟨hold, he⟩ := WriteTrack.find_some hfind
    have hrec := h.tracked.active old hold
    have hann : Announced s.target range.eventId old.totalSeq := he ▸ hrec.announced
    obtain ⟨y, hy, hkey⟩ := h.issued (p := .payload) (List.mem_map_of_mem hmem)
    have hend : ¬ range.endSeq > old.totalSeq := by
      have hlt := hann.lt h.target h.issues hy hkey
      have hone := hok.seqCount
      unfold WriteAckRange.endSeq
      omega
    have hcount : ¬ (old.ack range status).ackedSeqCount > (old.ack range status).totalSeq := by
      have hlt := h.results_lt hflush hr hann
      have htotal := hrec.total
      rw [he] at htotal
      have hone := hok.seqCount
      have hack : (old.ack range status).ackedSeqCount = old.ackedSeqCount + range.seqCount ∧
          (old.ack range status).totalSeq = old.totalSeq := by
        unfold WriteEventRecord.ack
        dsimp only
        split <;> exact ⟨rfl, rfl⟩
      rw [hack.1, hack.2]
      omega
    have hopen : (old.ack range status).finalResponseQueued = false := by
      refine Eq.trans ?_ hrec.unanswered
      unfold WriteEventRecord.ack
      dsimp only
      split <;> rfl
    rw [if_neg hend, if_neg (Bool.eq_false_iff.mp hrec.unanswered)]
    dsimp only
    rw [if_neg hcount]
    split_ifs
    · exact finish_ok _ hopen _ true
    · exact finish_ok _ hopen _ false
    · rfl

/-- The result of the next range is applied. -/
theorem Inv.applied_one (h : Inv dataBuffer s) {ranges : List WriteAckRange}
    {failures : List WriteAckFailure} {index : Nat} {range : WriteAckRange}
    (hflush : s.flush = .applying ranges failures index) (hr : ranges[index]? = some range)
    (push : NtStatus) (allocated : Bool)
    (hdone : (s.track.applyWriteAckResult range (rangeStatus ranges failures index) push
      allocated).2 = statusSuccess ∨ s.target.CompletedAs range.eventId false) :
    Inv dataBuffer { s with
      track := (s.track.applyWriteAckResult range (rangeStatus ranges failures index) push
        allocated).1
      applied := s.applied ++ [{
        eventId := range.eventId
        seq := range.seqBase
        success := rangeStatus ranges failures index == statusSuccess }]
      flush := .applying ranges failures (index + 1) } := by
  set status := rangeStatus ranges failures index with hstatus
  set x : AckedSeq := {
    eventId := range.eventId
    seq := range.seqBase
    success := status == statusSuccess } with hx
  have hpayload := payload_applying hflush hr
  have htold : Told s.target range status := h.told_applying hflush hr
  have hok := h.payload range (hpayload ▸ List.mem_cons_self)
  have hkey : fragKey x ∈ s.held .payload :=
    List.mem_map.mpr ⟨range, hpayload ▸ List.mem_cons_self, rfl⟩
  have hresult : (x.success = true → x ∈ s.target.acked) ∧
      (x.success = false → s.target.CompletedAs x.eventId false) := by
    rcases htold with ⟨hgood, hacked⟩ | ⟨hbad, hfailed⟩
    · have hsuccess : x.success = true := by
        rw [hx, hgood]
        rfl
      have hxeq : x = ⟨range.eventId, range.seqBase, true⟩ := by rw [hx, hgood]; rfl
      exact ⟨fun _ => hxeq ▸ hacked, fun hf => absurd (hsuccess.symm.trans hf) (by decide)⟩
    · have hsuccess : x.success = false := by
        rw [hx]
        refine beq_eq_false_iff_ne.mpr fun heq => ?_
        rw [heq] at hbad
        exact absurd hbad (by decide)
      exact ⟨fun ht => absurd (hsuccess.symm.trans ht) (by decide), fun _ => hfailed⟩
  have happlied : ∀ y ∈ s.applied ++ [x], (y.success = true → y ∈ s.target.acked) ∧
      (y.success = false → s.target.CompletedAs y.eventId false) := by
    intro y hy
    rcases List.mem_append.mp hy with hy | hy
    · exact h.applied y hy
    · obtain rfl := List.mem_singleton.mp hy
      exact hresult
  have hplaced := h.toPlaced.applied_one hflush hr
    (s.track.applyWriteAckResult range status push allocated).1 (status == statusSuccess)
    s.shuttingDown
  have hdelivered : ∀ y ∈ s.applied ++ [x], ∃ z ∈ s.target.issued,
      (z.eventId, z.seq) = fragKey y := by
    intro y hy
    rcases List.mem_append.mp hy with hy | hy
    · exact h.issued (p := .applied) (List.mem_map_of_mem hy)
    · obtain rfl := List.mem_singleton.mp hy
      exact h.issued hkey
  obtain ⟨htracked, hcounted⟩ := h.tracked.apply hok htold hx
    (fun totalSeq hann hcount => completed_of_count h.target h.issues (hplaced.places.nodup .applied)
      hdelivered (fun y hy => (happlied y hy).1) hann hcount) push allocated
  have hsub : ∀ r ∈ ranges.drop (index + 1), r ∈ s.flush.payload :=
    fun r hr => hpayload ▸ List.mem_cons_of_mem _ hr
  refine { h with
    toPlaced := hplaced
    payload := fun r hr => h.payload r (hsub r hr)
    told := fun k r hk => ?_
    applied := happlied
    tracked := htracked
    counted := hcounted _ h.counted hdone
    accepted := fun y hy hsuccess => ?_ }
  · have htold := h.told
    rw [hflush] at htold
    exact htold k r hk
  · rcases h.accepted y hy hsuccess with hf | hy' | hy'
    · exact .inl hf
    · exact .inr (.inl (List.mem_append_left _ hy'))
    · obtain ⟨r, hr', hre⟩ := List.mem_map.mp hy'
      rw [hpayload] at hr'
      rcases List.mem_cons.mp hr' with rfl | hr'
      · -- this is the fragment: it was accepted, so its result is a success
        rcases htold with ⟨hgood, -⟩ | ⟨-, hfailed⟩
        · refine .inr (.inl (List.mem_append_right _ (List.mem_singleton.mpr ?_)))
          obtain ⟨ye, ys, yb⟩ := y
          obtain ⟨he, hs⟩ := Prod.mk.inj hre
          change yb = true at hsuccess
          subst hsuccess
          rw [hx, hgood]
          exact congrArg₂ (fun e q => AckedSeq.mk e q true) he.symm hs.symm
        · obtain ⟨he, -⟩ := Prod.mk.inj hre
          exact .inl (he ▸ hfailed)
      · exact .inr (.inr (List.mem_map.mpr ⟨r, hr', hre⟩))

theorem Inv.apply (h : Inv dataBuffer s) {push : NtStatus} {allocated : Bool}
    (hg : Guard s (.apply push allocated)) (hs : s.apply push allocated = some s') :
    Inv dataBuffer s' := by
  obtain ⟨ranges, failures, index, hflush, ⟨hnone, rfl⟩ | ⟨range, hr, hnext⟩⟩ := apply_cases hs
  · exact h.setFlush (payload_applied hflush hnone).symm trivial
  have hguard := hg range (by rw [hflush]; exact hr)
  have hpayload := payload_applying hflush hr
  rcases hnext with ⟨hgood, rfl⟩ | ⟨hbad, rfl⟩
  · exact h.applied_one hflush hr push allocated (.inl hgood)
  · -- what is not applied is not lost: the driver has accepted none of it
    have hlost : Unaccepted s.target s.flush.payload := by
      rcases hguard with ⟨rfl, rfl, hknows⟩ | hlost
      · exact absurd (h.apply_ok hflush hr hknows _) hbad
      · exact hlost
    have hfailed : s.target.CompletedAs range.eventId false := by
      rcases h.told_applying hflush hr with ⟨-, hacked⟩ | ⟨-, hfailed⟩
      · exact absurd hacked (hlost range (hpayload ▸ List.mem_cons_self))
      · exact hfailed
    have hone := h.applied_one hflush hr push allocated (.inr hfailed)
    exact hone.shutDown fun r hr' => hlost r (hpayload ▸ List.mem_cons_of_mem _ hr')

theorem Inv.noticeStop (h : Inv dataBuffer s) (hg : Guard s .noticeStop)
    (hs : s.noticeStop = some s') : Inv dataBuffer s' := by
  have hplaced := h.toPlaced.noticeStop hs
  rcases noticeStop_cases hs with ⟨hflush, rfl⟩ | rfl
  · refine h.shutDown ?_
    rcases hflush with hflush | ⟨ranges, hflush⟩
    · intro range hr
      rw [hflush] at hr
      cases hr
    · have hwaiting : Unaccepted s.target s.flush.waiting := hg
      rw [hflush] at hwaiting ⊢
      exact hwaiting
  · exact { h with
      toPlaced := hplaced
      queued := nofun }

/-! ## Runs -/

/-- **One step.** -/
theorem step_inv {a : Action} (h : Inv dataBuffer s) (hg : Guard s a)
    (hs : s.step dataBuffer a = some s') : Inv dataBuffer s' := by
  cases a with
  | driver a =>
    obtain ⟨hack, target, htarget, rfl⟩ := driver_cases hs
    exact h.driver htarget hack
  | deliver i allocated => exact h.deliver hs
  | stage k status enqueued => exact h.stage hg hs
  | steal => exact h.steal hs
  | send => exact h.send hs
  | handle => exact h.handle hg hs
  | reply => exact h.reply hs
  | fail status => exact h.fail hg hs
  | apply push allocated => exact h.apply hg hs
  | requestStop =>
    cases hs
    exact { h with }
  | noticeStop => exact h.noticeStop hg hs

theorem inv_init (dataBuffer : Nat → Bytes) (params : WriteParams) (queueDepth : Nat) :
    Inv dataBuffer (init params queueDepth) where
  toPlaced := placed_init dataBuffer params queueDepth
  slots := nofun
  queued := nofun
  payload := nofun
  told := trivial
  applied := nofun
  tracked := ⟨.nil, nofun, nofun, nofun⟩
  counted := ⟨nofun, nofun⟩
  accepted := nofun

theorem Inv.agreement (h : Inv dataBuffer s) : Agreement s where
  final := h.tracked.responses
  unique eventId a b ha hb := h.target.completedAs_unique ha hb
  reported eventId hdone := by
    obtain ⟨request, hr, he, hpos, hall⟩ := h.target.acked_of_completedAs hdone
    have hnotFailed : ¬ s.target.CompletedAs eventId false := fun hf =>
      absurd (h.target.completedAs_unique hdone hf) (by decide)
    by_cases hheld : ∃ range ∈ s.flush.payload, range.eventId = eventId
    · exact .inr hheld
    · -- every fragment was accepted, and its result was applied
      have happlied : ∀ seq < request.totalSeq, ⟨eventId, seq, true⟩ ∈ s.applied := by
        intro seq hseq
        rcases h.accepted _ (hall seq hseq) rfl with hf | hx | hx
        · exact absurd hf hnotFailed
        · exact hx
        · obtain ⟨range, hr, hkey⟩ := List.mem_map.mp hx
          exact absurd ⟨range, hr, (Prod.mk.inj hkey).1⟩ hheld
      have hlen : request.totalSeq ≤ (successes s.applied eventId).length := by
        have hsub : List.range request.totalSeq ⊆ successes s.applied eventId := fun seq hseq =>
          mem_successes.mpr (happlied seq (List.mem_range.mp hseq))
        have hle := (List.subperm_of_subset List.nodup_range hsub).length_le
        rwa [List.length_range] at hle
      by_cases hfinal : s.track.Finalised eventId
      · obtain ⟨x, hx, hxe⟩ := hfinal
        refine .inl ⟨x, hx, hxe, ?_⟩
        exact h.target.completedAs_unique (hxe ▸ h.tracked.responses x hx) hdone
      · rcases h.counted.known _ (happlied 0 hpos) hnotFailed with hf | ⟨record, hrec, hre⟩
        · exact absurd hf hfinal
        · have hre : record.eventId = eventId := hre
          obtain ⟨-, hcount, hlt⟩ := h.counted.pending record hrec (hre ▸ hnotFailed)
            (hre ▸ hfinal)
          have htotal := (h.tracked.active record hrec).announced.request h.target hr
            (he.trans hre.symm)
          rw [hre] at hcount
          omega

/-- **AppKernel and the driver agree**, in every state of every run in which no range that the
driver has accepted is sent again, or given up when the flusher ends. -/
theorem write_outcome_agreement {params : WriteParams} {queueDepth : Nat} {as : List Action}
    (hguard : Lib.StepsMeet (step dataBuffer) Guard (init params queueDepth) as)
    (h : Lib.runFrom (step dataBuffer) (init params queueDepth) as = some s) : Agreement s :=
  (Lib.run_inv_of_guard (fun _ _ _ h hg hs => step_inv h hg hs) as _ s
    (inv_init dataBuffer params queueDepth) hguard h).agreement

def exampleParams : WriteParams where
  sectorSize := 512
  writeSlotBytes := 512
  ackBatchMaxRanges := 4

/-- A write of one fragment is staged, and its ack is about to be sent. -/
def stagedRun : List Action :=
  [.driver (.queueWrite 0 1 512), .driver (.insert 0), .driver (.submitSlot 0 1 4096 560),
    .driver .drain, .deliver 0 true, .stage 0 statusSuccess true, .steal]

/-- The first request is cancelled before the driver has it; the flusher stops when the result is
applied. -/
def retriedRun : List Action :=
  stagedRun ++ [.send, .fail statusCancelled, .send, .handle, .reply, .apply statusSuccess true,
    .apply statusSuccess true, .requestStop, .noticeStop]

theorem retriedRun_agreement :
    ∃ s, Lib.runFrom (step fun _ => []) (init exampleParams 4) retriedRun = some s ∧ Agreement s ∧
      s.track.responses = [⟨true, 1, 1, statusSuccess⟩] ∧ s.shuttingDown = true := by
  obtain ⟨s, hs, hp⟩ := Lib.exists_run (step fun _ => []) (init exampleParams 4) retriedRun
    (fun s => decide (s.track.responses = [⟨true, 1, 1, statusSuccess⟩]) && s.shuttingDown)
    (by decide)
  rw [Bool.and_eq_true, decide_eq_true_eq] at hp
  exact ⟨s, hs, write_outcome_agreement (by decide) hs, hp⟩

/-- The driver handles the batch, the reply is lost, and the batch is sent again. -/
def resentRun : List Action :=
  stagedRun ++ [.send, .handle, .fail statusCancelled, .send, .handle, .reply,
    .apply statusSuccess true]

/-- The SRB is completed with success, and AppKernel rejects the write. -/
theorem resent_batch_rejects :
    ∃ s, Lib.runFrom (step fun _ => []) (init exampleParams 4) resentRun = some s ∧
      s.track.responses = [⟨false, 1, 1, statusNotFound⟩] ∧ s.target.CompletedAs 1 true ∧
      ¬ Agreement s := by
  obtain ⟨s, hs, hp⟩ := Lib.exists_run (step fun _ => []) (init exampleParams 4) resentRun
    (fun s => decide (s.track.responses = [⟨false, 1, 1, statusNotFound⟩]) &&
      (s.target.deferred ++ s.target.completed).any fun request =>
        request.eventId = 1 && ntSuccess request.completion.status) (by decide)
  rw [Bool.and_eq_true, decide_eq_true_eq, List.any_eq_true] at hp
  obtain ⟨hresponses, request, hr, hdone⟩ := hp
  rw [Bool.and_eq_true, decide_eq_true_eq] at hdone
  have hcompleted : s.target.CompletedAs 1 true := ⟨request, hr, hdone.1, hdone.2⟩
  refine ⟨s, hs, hresponses, hcompleted, fun h => ?_⟩
  have hfinal := h.final ⟨false, 1, 1, statusNotFound⟩ (hresponses ▸ List.mem_singleton_self _)
  exact absurd (h.unique 1 true false hcompleted hfinal) (by decide)

end WritePlane

end YumeDisk.AppKernel
