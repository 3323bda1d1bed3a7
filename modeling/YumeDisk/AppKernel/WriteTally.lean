import YumeDisk.AppKernel.WriteAgreement

/-!
# What a final response says of the fragments

AppKernel commits a write when it has counted as many successes as the write has fragments, and no
fragment is counted twice; so each of them was staged.  This holds whatever the driver answers and
whatever batch is sent again.  `Good` is what is known of a fragment that was staged.

* `WritePlane.Tallied`: the invariant.
* `step_tallied`: one step.
* `Tallied.all_good`, `Tallied.final_once`: what a committed write is.
-/

namespace YumeDisk.AppKernel

open Lib (Bytes)
open Miniport

namespace WritePlane

/-- The range is that of a fragment, and a success is one that was staged. -/
structure Staged (Good : Nat × Nat → Prop) (range : WriteAckRange) : Prop where
  eventId : range.eventId ≠ 0
  seqCount : range.seqCount = 1
  good : range.ioStatus = statusSuccess → Good (rangeKey range)

/-- A failure of the reply is one. -/
def FailuresFail : WriteAckFlush → Prop
  | .sent _ _ failures => ∀ failure ∈ failures, failure.status ≠ statusSuccess
  | .applying _ failures _ => ∀ failure ∈ failures, failure.status ≠ statusSuccess
  | _ => True

/-- A fragment of the write has failed. -/
def Failed (applied : List AckedSeq) (eventId : Nat) : Prop :=
  ∃ x ∈ applied, x.eventId = eventId ∧ x.success = false

/-- A record without a final response. -/
structure Open (target : WriteTarget) (applied : List AckedSeq) (record : WriteEventRecord) :
    Prop where
  unanswered : record.finalResponseQueued = false
  count : record.finalFailed = false →
    record.ackedSeqCount ≤ (successes applied record.eventId).length
  failed : record.finalFailed = true → Failed applied record.eventId
  announced : Announced target record.eventId record.totalSeq

/-- A final response, and the results that were applied. -/
structure Answered (target : WriteTarget) (applied : List AckedSeq) (x : WriteFinal) : Prop where
  announced : Announced target x.eventId x.totalSeq
  all : x.committed = true → x.totalSeq ≤ (successes applied x.eventId).length
  failed : x.committed = false → Failed applied x.eventId

/-- The records and the responses. -/
structure Ledger (target : WriteTarget) (applied : List AckedSeq) (t : WriteTrack) : Prop where
  nodup : (t.activeWriteEvents.map WriteEventRecord.eventId).Nodup
  active : ∀ record ∈ t.activeWriteEvents, Open target applied record
  responses : ∀ x ∈ t.responses, Answered target applied x
  /-- A write that is committed is not tracked any more, and has no other response. -/
  closed : ∀ x ∈ t.responses, x.committed = true →
    ∀ record ∈ t.activeWriteEvents, record.eventId ≠ x.eventId
  once : ∀ x ∈ t.responses, x.committed = true →
    (t.responses.map WriteFinal.eventId).count x.eventId = 1

structure Tallied (Good : Nat × Nat → Prop) (s : WritePlane) : Prop where
  slots : ∀ slot ∈ s.staging, slot.decided = some statusSuccess → Good (slotKey slot)
  queued : ∀ range ∈ s.writeAcks, Staged Good range
  payload : ∀ range ∈ s.flush.payload, Staged Good range
  failures : FailuresFail s.flush
  applied : ∀ x ∈ s.applied, x.success = true → Good (fragKey x)
  ledger : Ledger s.target s.applied s.track

variable {Good : Nat × Nat → Prop} {dataBuffer : Nat → Bytes} {s s' : WritePlane}
  {target target' : WriteTarget} {applied : List AckedSeq} {t : WriteTrack}
  {record : WriteEventRecord}

/-! ## The records -/

theorem Failed.concat {eventId : Nat} (h : Failed applied eventId) (x : AckedSeq) :
    Failed (applied ++ [x]) eventId := by
  obtain ⟨y, hy, hrest⟩ := h
  exact ⟨y, List.mem_append_left _ hy, hrest⟩

theorem Open.concat (h : Open target applied record) (x : AckedSeq) :
    Open target (applied ++ [x]) record := by
  refine ⟨h.unanswered, fun hf => ?_, fun hf => (h.failed hf).concat x, h.announced⟩
  have hcount := h.count hf
  rw [successes_concat]
  omega

theorem Answered.concat {y : WriteFinal} (h : Answered target applied y) (x : AckedSeq) :
    Answered target (applied ++ [x]) y := by
  refine ⟨h.announced, fun hc => ?_, fun hf => (h.failed hf).concat x⟩
  have hall := h.all hc
  rw [successes_concat]
  omega

theorem Ledger.concat (h : Ledger target applied t) (x : AckedSeq) :
    Ledger target (applied ++ [x]) t :=
  ⟨h.nodup, fun r hr => (h.active r hr).concat x, fun y hy => (h.responses y hy).concat x,
    h.closed, h.once⟩

theorem Ledger.advances (h : Ledger target applied t) (ha : WriteTarget.Advances target target') :
    Ledger target' applied t := by
  refine ⟨h.nodup, fun r hr => ?_, fun x hx => ?_, h.closed, h.once⟩
  · obtain ⟨hopen, hcount, hfailed, hann⟩ := h.active r hr
    exact ⟨hopen, hcount, hfailed, hann.advances ha⟩
  · obtain ⟨hann, hall, hfailed⟩ := h.responses x hx
    exact ⟨hann.advances ha, hall, hfailed⟩

/-- A record in place of the one of its event. -/
theorem Ledger.setActive (h : Ledger target applied t) (hr : Open target applied record)
    (hmem : ∃ old ∈ t.activeWriteEvents, old.eventId = record.eventId) :
    Ledger target applied (t.setActive record) := by
  refine ⟨t.setActive_ids record ▸ h.nodup, fun r hmem => ?_, h.responses, fun x hx hc r hr' => ?_,
    h.once⟩
  · rcases WriteTrack.mem_setActive hmem with rfl | ⟨hmem, -⟩
    · exact hr
    · exact h.active r hmem
  · rcases WriteTrack.mem_setActive hr' with rfl | ⟨hr', -⟩
    · obtain ⟨old, hold, he⟩ := hmem
      exact he ▸ h.closed x hx hc old hold
    · exact h.closed x hx hc r hr'

/-- A write with a failed fragment is not one whose fragments have all succeeded. -/
theorem not_failed_of_all (hplaced : Placed dataBuffer s) {applied : List AckedSeq}
    (hnodup : (applied.map fragKey).Nodup)
    (hissued : ∀ x ∈ applied, ∃ y ∈ s.target.issued, (y.eventId, y.seq) = fragKey x)
    {eventId totalSeq : Nat} (hann : Announced s.target eventId totalSeq)
    (hall : totalSeq ≤ (successes applied eventId).length) : ¬ Failed applied eventId := by
  rintro ⟨x, hx, rfl, hfail⟩
  obtain ⟨y, hy, hkey⟩ := hissued x hx
  have hlt := hann.lt hplaced.target hplaced.issues hy hkey
  have hmem := mem_successes.mp (mem_successes_of_count hplaced.target hplaced.issues hnodup hissued
    hann hall x.seq hlt)
  have heq := List.inj_on_of_nodup_map hnodup hx hmem rfl
  rw [heq] at hfail
  cases hfail

/-- **A record is finalised.** -/
theorem Ledger.finish (h : Ledger target applied t) (hr : Open target applied record)
    (hmem : ∃ old ∈ t.activeWriteEvents, old.eventId = record.eventId)
    (hexcl : ∀ totalSeq, Announced target record.eventId totalSeq →
      totalSeq ≤ (successes applied record.eventId).length → ¬ Failed applied record.eventId)
    {finalStatus : NtStatus} {finalFailed : Bool} (hsame : record.finalFailed = finalFailed)
    (hall : finalFailed = false → record.totalSeq ≤ (successes applied record.eventId).length)
    (push : NtStatus) (allocated : Bool) :
    Ledger target applied (t.finish record finalStatus finalFailed push allocated).1 := by
  rcases t.finish_spec h.nodup hr.unanswered finalStatus finalFailed push allocated with
    ⟨-, heq⟩ | ⟨hactive, hresponses, -⟩
  · rw [heq]
    exact h.setActive ⟨hr.unanswered, fun hf => hr.count (hsame.trans hf),
      fun hf => hr.failed (hsame.trans hf), hr.announced⟩ hmem
  · -- the event had no committed response, as it was tracked
    obtain ⟨old, hold, he⟩ := hmem
    have hfresh : ∀ x ∈ t.responses, x.committed = true → x.eventId ≠ record.eventId :=
      fun x hx hc heq => h.closed x hx hc old hold (he.trans heq.symm)
    have hnew : Answered target applied {
        committed := !finalFailed
        eventId := record.eventId
        totalSeq := record.totalSeq
        status := finalStatus } := by
      refine ⟨hr.announced, fun hc => hall ?_, fun hf => hr.failed (hsame.trans ?_)⟩
      · simpa using hc
      · simpa using hf
    refine ⟨?_, fun r hmem => ?_, fun x hx => ?_, fun x hx hc r hmem => ?_, fun x hx hc => ?_⟩
    · rw [hactive]
      exact (List.filter_sublist.map _).nodup h.nodup
    · rw [hactive] at hmem
      exact h.active r (List.mem_filter.mp hmem).1
    · rw [hresponses] at hx
      rcases List.mem_append.mp hx with hx | hx
      · exact h.responses x hx
      · obtain rfl := List.mem_singleton.mp hx
        exact hnew
    · rw [hactive] at hmem
      obtain ⟨hmem, hne⟩ := List.mem_filter.mp hmem
      rw [hresponses] at hx
      rcases List.mem_append.mp hx with hx | hx
      · exact h.closed x hx hc r hmem
      · obtain rfl := List.mem_singleton.mp hx
        simpa using hne
    · rw [hresponses] at hx ⊢
      rw [List.map_append, List.map_singleton, List.count_append]
      rcases List.mem_append.mp hx with hx | hx
      · rw [h.once x hx hc, List.count_singleton, if_neg]
        simpa using (hfresh x hx hc).symm
      · obtain rfl := List.mem_singleton.mp hx
        have hc' : finalFailed = false := by simpa using hc
        have hnone : (t.responses.map WriteFinal.eventId).count record.eventId = 0 := by
          refine List.count_eq_zero.mpr fun hmem => ?_
          obtain ⟨y, hy, hye⟩ := List.mem_map.mp hmem
          have hans := h.responses y hy
          cases hyc : y.committed with
          | true => exact hfresh y hy hyc hye
          | false =>
            have hfailed := hye ▸ hans.failed hyc
            exact hexcl _ hr.announced (hall hc') hfailed
        dsimp only
        rw [hnone, List.count_singleton_self]

/-- A result more, and its range. -/
theorem Open.ack {old : WriteEventRecord} (h : Open target applied old) {range : WriteAckRange}
    (hone : range.seqCount = 1) (he : old.eventId = range.eventId) {status : NtStatus}
    {x : AckedSeq}
    (hx : x =
      { eventId := range.eventId, seq := range.seqBase, success := status == statusSuccess }) :
    Open target (applied ++ [x]) (old.ack range status) := by
  unfold WriteEventRecord.ack
  dsimp only
  split
  · next hbad =>
    refine ⟨h.unanswered, nofun, fun _ => ⟨x, List.mem_append_right _ List.mem_cons_self, ?_, ?_⟩,
      h.announced⟩
    · rw [hx]
      exact he.symm
    · rw [hx]
      exact beq_eq_false_iff_ne.mpr hbad
  · next hgood =>
    refine ⟨h.unanswered, fun hf => ?_, fun hf => (h.failed hf).concat x, h.announced⟩
    have hcount := h.count hf
    have hsuccess : x.eventId = old.eventId ∧ x.success = true := by
      rw [hx]
      exact ⟨he.symm, beq_iff_eq.mpr (not_not.mp hgood)⟩
    show old.ackedSeqCount + range.seqCount ≤ (successes (applied ++ [x]) old.eventId).length
    rw [successes_concat, if_pos hsuccess, hone]
    omega

/-- **A result is applied.** -/
theorem Ledger.apply (h : Ledger target applied t) {range : WriteAckRange}
    (hid : range.eventId ≠ 0) (hone : range.seqCount = 1) {status : NtStatus} {x : AckedSeq}
    (hx : x =
      { eventId := range.eventId, seq := range.seqBase, success := status == statusSuccess })
    (hexcl : ∀ totalSeq, Announced target range.eventId totalSeq →
      totalSeq ≤ (successes (applied ++ [x]) range.eventId).length →
        ¬ Failed (applied ++ [x]) range.eventId)
    (push : NtStatus) (allocated : Bool) :
    Ledger target (applied ++ [x]) (t.applyWriteAckResult range status push allocated).1 := by
  unfold WriteTrack.applyWriteAckResult
  dsimp only
  have hfields : ¬ (range.eventId = 0 ∨ range.seqCount = 0) := by
    rintro (hz | hz)
    · exact hid hz
    · exact absurd (hone.symm.trans hz) (by decide)
  rw [if_neg hfields]
  split
  · split <;> exact h.concat x
  · next old hfind =>
    obtain ⟨hold, he⟩ := WriteTrack.find_some hfind
    have hrec := h.active old hold
    split
    · exact h.concat x
    · rw [if_neg (Bool.eq_false_iff.mp hrec.unanswered)]
      have hrecord := hrec.ack hone he hx
      have hrecordId : (old.ack range status).eventId = range.eventId := by
        rw [← he]
        unfold WriteEventRecord.ack
        dsimp only
        split <;> rfl
      have hmem : ∃ old' ∈ t.activeWriteEvents, old'.eventId = (old.ack range status).eventId :=
        ⟨old, hold, he.trans hrecordId.symm⟩
      have hset := (h.concat x).setActive hrecord hmem
      have hmemSet : ∃ old' ∈ (t.setActive (old.ack range status)).activeWriteEvents,
          old'.eventId = (old.ack range status).eventId :=
        ⟨old.ack range status, List.mem_map.mpr ⟨old, hold, if_pos (he.trans hrecordId.symm)⟩, rfl⟩
      split
      · exact hset
      · split
        · next hf => exact hset.finish hrecord hmemSet (hrecordId ▸ hexcl) hf nofun push allocated
        · next hf =>
          rw [Bool.not_eq_true] at hf
          split
          · next heq =>
            exact hset.finish hrecord hmemSet (hrecordId ▸ hexcl) hf
              (fun _ => heq ▸ hrecord.count hf) push allocated
          · exact hset

/-- **A write is tracked.** -/
theorem Ledger.ensure (h : Ledger target applied t) {header : WriteSlotPayload}
    (hann : Announced target header.eventId header.totalSeq)
    (hopen : ∀ x ∈ t.responses, x.committed = true → header.eventId ≠ x.eventId)
    (allocated : Bool) : Ledger target applied (beginStage t header allocated).1 := by
  unfold beginStage WriteTrack.ensureWriteEventTracked
  by_cases hfields : header.eventId = 0 ∨ header.totalSeq = 0
  · rw [if_pos hfields]
    exact h
  · rw [if_neg hfields]
    cases t.findFinalizedWriteEvent header.eventId with
    | some old => exact h
    | none =>
      cases hactive : t.findActiveWriteEvent header.eventId with
      | some old =>
        dsimp only
        by_cases htotal : old.totalSeq ≠ header.totalSeq
        · rw [if_pos htotal]
          exact h
        · rw [if_neg htotal]
          exact h
      | none =>
        have hother := WriteTrack.find_none hactive
        cases allocated with
        | false => exact h
        | true =>
          refine ⟨List.nodup_cons.mpr ⟨fun hmem => ?_, h.nodup⟩, fun r hr => ?_, h.responses,
            fun x hx hc r hr => ?_, h.once⟩
          · obtain ⟨r, hr, he⟩ := List.mem_map.mp hmem
            exact hother r hr he
          · rcases List.mem_cons.mp hr with rfl | hr
            · exact ⟨rfl, fun _ => Nat.zero_le _, nofun, hann⟩
            · exact h.active r hr
          · rcases List.mem_cons.mp hr with rfl | hr
            · exact hopen x hx hc
            · exact h.closed x hx hc r hr

/-! ## The sections -/

/-- The status of a range is a success only if it was staged and the driver took it. -/
theorem ioStatus_of_rangeStatus {ranges : List WriteAckRange} {failures : List WriteAckFailure}
    {index : Nat} {range : WriteAckRange} (hfail : ∀ f ∈ failures, f.status ≠ statusSuccess)
    (hr : ranges[index]? = some range) (h : rangeStatus ranges failures index = statusSuccess) :
    range.ioStatus = statusSuccess := by
  unfold rangeStatus at h
  split at h
  · next failure hfind => exact absurd h (hfail failure (List.mem_of_find?_eq_some hfind))
  · rw [hr] at h
    exact h

/-- A slot that is decided without `stage_write` has failed. -/
theorem beginStage_decided (t : WriteTrack) (header : WriteSlotPayload) (allocated : Bool) :
    (beginStage t header allocated).2 ≠ some statusSuccess := by
  unfold beginStage
  generalize t.ensureWriteEventTracked header.eventId header.totalSeq allocated = out
  obtain ⟨t', status, existing⟩ := out
  dsimp only
  split
  · split
    · exact fun heq => absurd (Option.some.inj heq) (by decide)
    · next hne => exact fun heq => hne (Option.some.inj heq)
  · split
    · next hne => exact fun heq => hne (Option.some.inj heq)
    · nofun

/-- What is in a list once is at one index. -/
theorem index_of_count_one {α : Type} [DecidableEq α] {xs : List α} {x : α} {i j : Nat}
    (h : xs.count x = 1) (hi : xs[i]? = some x) (hj : xs[j]? = some x) : i = j := by
  by_contra hij
  have hcount := (QueueState.cons_eraseIdx_perm hj).count_eq x
  have hmem : x ∈ xs.eraseIdx j := List.mem_eraseIdx_iff_getElem?.mpr ⟨i, hij, hi⟩
  have hpos := List.count_pos_iff.mpr hmem
  rw [List.count_cons_self, h] at hcount
  omega

theorem beginStage_responses (t : WriteTrack) (header : WriteSlotPayload) (allocated : Bool) :
    (beginStage t header allocated).1.responses = t.responses := by
  unfold beginStage WriteTrack.ensureWriteEventTracked
  dsimp only
  split_ifs <;> (try rfl)
  all_goals (repeat' split) <;> rfl

namespace Tallied

/-- What is known of the fragments may grow, and the driver takes its steps. -/
theorem mono {Good' : Nat × Nat → Prop} (h : Tallied Good s) (hgood : ∀ key, Good key → Good' key) :
    Tallied Good' s where
  slots slot hslot hd := hgood _ (h.slots slot hslot hd)
  queued range hr := ⟨(h.queued range hr).eventId, (h.queued range hr).seqCount,
    fun hio => hgood _ ((h.queued range hr).good hio)⟩
  payload range hr := ⟨(h.payload range hr).eventId, (h.payload range hr).seqCount,
    fun hio => hgood _ ((h.payload range hr).good hio)⟩
  failures := h.failures
  applied x hx hs := hgood _ (h.applied x hx hs)
  ledger := h.ledger

theorem driver (h : Tallied Good s) {a : WriteTarget.Action} {target : WriteTarget}
    (hs : s.target.step dataBuffer a = some target) : Tallied Good { s with target } :=
  { h with ledger := h.ledger.advances (WriteTarget.step_advances hs) }

theorem setFlush (h : Tallied Good s) {flush : WriteAckFlush}
    (hpayload : ∀ range ∈ flush.payload, range ∈ s.flush.payload) (hfail : FailuresFail flush) :
    Tallied Good { s with flush } :=
  { h with payload := fun range hr => h.payload range (hpayload range hr), failures := hfail }

theorem shutDown (h : Tallied Good s) : Tallied Good s.shutDown :=
  { h with queued := nofun, payload := nofun, failures := trivial }

/-- **A slot reaches a worker.** -/
theorem deliver (h : Tallied Good s) (hplaced : Placed dataBuffer s) {i : Nat} {allocated : Bool}
    (hs : s.deliver i allocated = some s') : Tallied Good s' := by
  obtain ⟨slot, header, hissued, hpayload, htaken, rfl | ⟨-, rfl⟩⟩ := deliver_cases hs
  · exact { h with }
  have hmem := List.mem_of_getElem? hissued
  have hkey := hplaced.header_eq hissued hpayload
  obtain ⟨hid, hseq⟩ := Prod.mk.inj hkey
  have hann : Announced s.target header.eventId header.totalSeq :=
    ⟨slot, hmem, hid.symm, header, hpayload, rfl⟩
  -- all the fragments of a committed write have been delivered, and this one has not
  have hopen : ∀ x ∈ s.track.responses, x.committed = true → header.eventId ≠ x.eventId := by
    intro x hx hc heq
    have hans := h.ledger.responses x hx
    have hlt : header.seq < x.totalSeq := hans.announced.lt hplaced.target hplaced.issues hmem
      (hkey.symm.trans (congrArg (·, header.seq) heq))
    have hall := mem_successes_of_count hplaced.target hplaced.issues
      (hplaced.places.nodup .applied)
      (fun y hy => hplaced.issued (p := .applied) (List.mem_map_of_mem hy)) hans.announced
      (hans.all hc) header.seq hlt
    refine hplaced.fresh hissued htaken .applied ?_
    exact List.mem_map.mpr ⟨_, mem_successes.mp hall, Prod.ext (heq.symm.trans hid) hseq⟩
  have hdecided := beginStage_decided s.track header allocated
  refine { h with ledger := h.ledger.ensure hann hopen allocated, slots := fun slot hslot hd => ?_ }
  rcases List.mem_append.mp hslot with hslot | hslot
  · exact h.slots slot hslot hd
  · obtain rfl := List.mem_singleton.mp hslot
    exact absurd hd hdecided

/-- **A fragment was staged.** -/
theorem stage (h : Tallied Good s) (hplaced : Placed dataBuffer s) {k : Nat} {status : NtStatus}
    {enqueued : Bool}
    (hgood : ∀ slot, s.staging[k]? = some slot → slot.decided.getD status = statusSuccess →
      Good (slotKey slot))
    (hs : s.stage k status enqueued = some s') : Tallied Good s' := by
  obtain ⟨slot, hslot, rfl⟩ := Option.map_eq_some_iff.mp hs
  refine { h with
    slots := fun slot' hslot' => h.slots slot' (List.mem_of_mem_eraseIdx hslot')
    queued := fun r hr => ?_ }
  cases enqueued with
  | false => exact h.queued r hr
  | true =>
    rcases List.mem_append.mp hr with hr | hr
    · exact h.queued r hr
    · obtain rfl := List.mem_singleton.mp hr
      exact ⟨(hplaced.headers slot (List.mem_of_getElem? hslot)).1, rfl, hgood slot hslot⟩

/-- `stage_write` has returned. -/
theorem setDecided (h : Tallied Good s) {k : Nat} {slot' : StagingSlot}
    (hgood : slot'.decided = some statusSuccess → Good (slotKey slot')) :
    Tallied Good { s with staging := s.staging.set k slot' } := by
  refine { h with slots := fun x hx hd => ?_ }
  rcases List.mem_or_eq_of_mem_set hx with hx | rfl
  · exact h.slots x hx hd
  · exact hgood hd

theorem steal (h : Tallied Good s) (hs : s.steal = some s') : Tallied Good s' := by
  obtain ⟨-, -, rfl⟩ := steal_cases hs
  exact { h with
    queued := fun range hr => h.queued range (List.mem_of_mem_drop hr)
    payload := fun range hr => h.queued range (List.mem_of_mem_take hr)
    failures := trivial }

theorem send (h : Tallied Good s) (hs : s.send = some s') : Tallied Good s' := by
  obtain ⟨ranges, hflush, rfl⟩ := send_cases hs
  exact h.setFlush (fun range hr => hflush ▸ hr) nofun

theorem handle (h : Tallied Good s) (hs : s.handle = some s') : Tallied Good s' := by
  obtain ⟨ranges, index, failures, range, hflush, -, rfl⟩ := handle_cases hs
  have hfail := h.failures
  rw [hflush] at hfail
  refine { h with
    payload := fun range hr => h.payload range (hflush ▸ hr)
    failures := fun failure hf => ?_
    ledger := h.ledger.advances (WriteTarget.ackRange_advances _ _) }
  split at hf
  · exact hfail failure hf
  · next hbad =>
    rcases List.mem_append.mp hf with hf | hf
    · exact hfail failure hf
    · obtain rfl := List.mem_singleton.mp hf
      have hne : ∀ status : NtStatus, ¬ ntSuccess status = true → status ≠ statusSuccess :=
        fun _ hnot heq => hnot (heq ▸ rfl)
      exact hne _ hbad

theorem reply (h : Tallied Good s) (hs : s.reply = some s') : Tallied Good s' := by
  obtain ⟨ranges, failures, hflush, rfl⟩ := reply_cases hs
  have hfail := h.failures
  rw [hflush] at hfail
  exact h.setFlush (fun range hr => hflush ▸ hr) hfail

/-- **A batch may have to be sent again.** -/
theorem fail (h : Tallied Good s) {status : NtStatus} (hs : s.fail status = some s') :
    Tallied Good s' := by
  rcases fail_cases hs with ⟨-, rfl⟩ | ⟨-, rfl⟩
  · exact h.shutDown
  · exact h.setFlush (fun _ => id) trivial

/-- The result of the next range is applied. -/
theorem applied_one (h : Tallied Good s) (hplaced : Placed dataBuffer s)
    {ranges : List WriteAckRange} {failures : List WriteAckFailure} {index : Nat}
    {range : WriteAckRange} (hflush : s.flush = .applying ranges failures index)
    (hr : ranges[index]? = some range) (push : NtStatus) (allocated shuttingDown : Bool) :
    Tallied Good { s with
      track := (s.track.applyWriteAckResult range (rangeStatus ranges failures index) push
        allocated).1
      applied := s.applied ++ [{
        eventId := range.eventId
        seq := range.seqBase
        success := rangeStatus ranges failures index == statusSuccess }]
      flush := .applying ranges failures (index + 1)
      shuttingDown } := by
  have hpayload := payload_applying hflush hr
  have hstaged := h.payload range (hpayload ▸ List.mem_cons_self)
  have hfail := h.failures
  rw [hflush] at hfail
  have hnext := hplaced.applied_one hflush hr (s.track.applyWriteAckResult range
    (rangeStatus ranges failures index) push allocated).1
    (rangeStatus ranges failures index == statusSuccess) shuttingDown
  refine { h with
    payload := fun r hmem => h.payload r (hpayload ▸ List.mem_cons_of_mem _ hmem)
    failures := hfail
    applied := fun x hx hs => ?_
    ledger := h.ledger.apply hstaged.eventId hstaged.seqCount rfl
      (fun totalSeq hann hall => ?_) push
      allocated }
  · rcases List.mem_append.mp hx with hx | hx
    · exact h.applied x hx hs
    · obtain rfl := List.mem_singleton.mp hx
      exact hstaged.good (ioStatus_of_rangeStatus hfail hr (beq_iff_eq.mp hs))
  · exact not_failed_of_all hnext (hnext.places.nodup .applied)
      (fun y hy => hnext.issued (p := .applied) (List.mem_map_of_mem hy)) hann hall

theorem apply (h : Tallied Good s) (hplaced : Placed dataBuffer s) {push : NtStatus}
    {allocated : Bool} (hs : s.apply push allocated = some s') : Tallied Good s' := by
  obtain ⟨ranges, failures, index, hflush, ⟨-, rfl⟩ | ⟨range, hr, ⟨-, rfl⟩ | ⟨-, rfl⟩⟩⟩ :=
    apply_cases hs
  · exact h.setFlush nofun trivial
  · exact h.applied_one hplaced hflush hr push allocated s.shuttingDown
  · exact (h.applied_one hplaced hflush hr push allocated true).shutDown

theorem noticeStop (h : Tallied Good s) (hs : s.noticeStop = some s') : Tallied Good s' := by
  rcases noticeStop_cases hs with ⟨-, rfl⟩ | rfl
  · exact h.shutDown
  · exact { h with queued := nofun }

/-- **The fragments of a committed write were all staged.** -/
theorem all_good (h : Tallied Good s) (hplaced : Placed dataBuffer s) {x : WriteFinal}
    (hx : x ∈ s.track.responses) (hc : x.committed = true) {request : WriteRequest}
    (hr : request ∈ s.target.requests) (he : request.eventId = x.eventId) :
    ∀ seq < request.totalSeq, Good (x.eventId, seq) := by
  intro seq hseq
  have hans := h.ledger.responses x hx
  rw [hans.announced.request hplaced.target hr he] at hseq
  have hall := mem_successes_of_count hplaced.target hplaced.issues (hplaced.places.nodup .applied)
    (fun y hy => hplaced.issued (p := .applied) (List.mem_map_of_mem hy)) hans.announced
    (hans.all hc) seq hseq
  exact h.applied _ (mem_successes.mp hall) rfl

/-- **A committed write has no other response.** -/
theorem final_once (h : Tallied Good s) {i j : Nat} {x y : WriteFinal}
    (hi : s.track.responses[i]? = some x) (hj : s.track.responses[j]? = some y)
    (hc : x.committed = true) (he : y.eventId = x.eventId) : j = i := by
  have hcount := h.ledger.once x (List.mem_of_getElem? hi) hc
  have hmi : (s.track.responses.map WriteFinal.eventId)[i]? = some x.eventId := by
    rw [List.getElem?_map, hi]
    rfl
  have hmj : (s.track.responses.map WriteFinal.eventId)[j]? = some x.eventId := by
    rw [List.getElem?_map, hj]
    exact congrArg some he
  exact index_of_count_one hcount hmj hmi

end Tallied

/-! ## Runs -/

/-- **One step**; what `stage` is told is what is known of the fragment. -/
theorem step_tallied {a : Action} (h : Tallied Good s) (hplaced : Placed dataBuffer s)
    (hgood : ∀ k status enqueued, a = .stage k status enqueued → ∀ slot, s.staging[k]? = some slot →
      slot.decided.getD status = statusSuccess → Good (slotKey slot))
    (hs : s.step dataBuffer a = some s') : Tallied Good s' := by
  cases a with
  | driver a =>
    obtain ⟨-, target, htarget, rfl⟩ := driver_cases hs
    exact h.driver htarget
  | deliver i allocated => exact h.deliver hplaced hs
  | stage k status enqueued => exact h.stage hplaced (hgood k status enqueued rfl) hs
  | steal => exact h.steal hs
  | send => exact h.send hs
  | handle => exact h.handle hs
  | reply => exact h.reply hs
  | fail status => exact h.fail hs
  | apply push allocated => exact h.apply hplaced hs
  | requestStop =>
    cases hs
    exact { h with }
  | noticeStop => exact h.noticeStop hs

/-- **No final response is taken back.** -/
theorem finish_responses (t : WriteTrack) (record : WriteEventRecord) (finalStatus : NtStatus)
    (finalFailed : Bool) (push : NtStatus) (allocated : Bool) :
    t.responses <+: (t.finish record finalStatus finalFailed push allocated).1.responses := by
  have hfinal : t.responses <+:
      (t.finalizeWriteEvent record finalStatus finalFailed push).1.responses := by
    unfold WriteTrack.finalizeWriteEvent WriteTrack.emitWriteFinalEvent
    dsimp only
    split
    · exact List.prefix_refl _
    · by_cases hpush : push = statusSuccess
      · rw [if_neg (not_not.mpr hpush)]
        exact List.prefix_append _ _
      · rw [if_pos hpush]
        dsimp only
        rw [if_pos hpush]
        exact List.prefix_refl _
  unfold WriteTrack.finish
  generalize t.finalizeWriteEvent record finalStatus finalFailed push = out at hfinal
  obtain ⟨t', status⟩ := out
  dsimp only
  split
  · exact hfinal
  · have hkeep := (WriteTrack.remember_spec
      { t' with activeWriteEvents := t'.activeWriteEvents.eraseP fun r => r.eventId = record.eventId }
      record.eventId record.totalSeq finalStatus finalFailed allocated).2.1
    exact hkeep.symm ▸ hfinal

theorem applyWriteAckResult_responses (t : WriteTrack) (range : WriteAckRange)
    (status push : NtStatus) (allocated : Bool) :
    t.responses <+: (t.applyWriteAckResult range status push allocated).1.responses := by
  unfold WriteTrack.applyWriteAckResult
  dsimp only
  split
  · exact List.prefix_refl _
  · split
    · split <;> exact List.prefix_refl _
    · next record hfind =>
      split
      · exact List.prefix_refl _
      · split
        · have hkeep := (WriteTrack.remember_spec
            { t with activeWriteEvents := t.activeWriteEvents.eraseP fun r => r.eventId = record.eventId }
            record.eventId record.totalSeq record.finalStatus record.finalFailed allocated).2.1
          exact hkeep.symm ▸ List.prefix_refl _
        · split
          · exact List.prefix_refl _
          · split
            · exact finish_responses (t.setActive (record.ack range status)) ..
            · split
              · exact finish_responses (t.setActive (record.ack range status)) ..
              · exact List.prefix_refl _

theorem step_responses {a : Action} (hs : s.step dataBuffer a = some s') :
    s.track.responses <+: s'.track.responses := by
  rcases (step_frame hs).track with h | ⟨header, allocated, h⟩ | ⟨range, status, push, allocated, h⟩
  · exact h ▸ List.prefix_refl _
  · have heq : s'.track.responses = s.track.responses := h ▸ beginStage_responses ..
    exact heq ▸ List.prefix_refl _
  · rw [h]
    exact applyWriteAckResult_responses ..

theorem tallied_init (Good : Nat × Nat → Prop) (params : WriteParams) (queueDepth : Nat) :
    Tallied Good (init params queueDepth) where
  slots := nofun
  queued := nofun
  payload := nofun
  failures := trivial
  applied := nofun
  ledger := ⟨.nil, nofun, nofun, nofun, nofun⟩

end WritePlane

end YumeDisk.AppKernel
