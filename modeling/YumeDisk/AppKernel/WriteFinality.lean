import Mathlib.Data.List.DropRight
import YumeDisk.AppKernel.WriteOutstanding
import YumeDisk.AppKernel.WriteTally

/-!
# A write has one final response

The events that were finalised are remembered so that a late fragment is not taken for a new write.
The list holds as many as the queue is deep, and the oldest makes room; a fragment may stay in a
slot for as long as its worker likes.

* `WritePlane.Finality`: one final response, and none of it forgotten.
* `WritePlane.InWindow`: no event is pushed out while anything of it is outstanding.
* `WritePlane.Remembered`, `step_remembered`: the invariant, and one step.
* `write_finality`: every run whose steps meet the condition.
* `late_fragment_rejects_twice`: a fragment that comes after its event was pushed out.
-/

namespace YumeDisk.AppKernel

open Lib (Bytes)
open Miniport

namespace WritePlane

/-! ## Finality -/

/-- **Each write has at most one final response**, a committed one is of a write whose fragments
were all acked with success, and a write is not forgotten while anything of it may still arrive. -/
structure Finality (s : WritePlane) : Prop where
  once : (s.track.responses.map WriteFinal.eventId).Nodup
  committed : ∀ x ∈ s.track.responses, x.committed = true →
    0 < x.totalSeq ∧ (∃ request ∈ s.target.requests,
      request.eventId = x.eventId ∧ request.totalSeq = x.totalSeq) ∧
      ∀ seq < x.totalSeq, ⟨x.eventId, seq, true⟩ ∈ s.applied
  remembered : ∀ x ∈ s.track.responses, s.Outstanding x.eventId →
    x.eventId ∈ s.track.finalizedWriteEvents.map WriteEventRecord.eventId
  untracked : ∀ x ∈ s.track.responses,
    x.eventId ∉ s.track.activeWriteEvents.map WriteEventRecord.eventId

/-- The range is the last that its write waits for, and the final response finds room. -/
def finalises (t : WriteTrack) (range : WriteAckRange) (status push : NtStatus) : Bool :=
  push == statusSuccess && (t.findActiveWriteEvent range.eventId).any fun record =>
    (record.ack range status).finalFailed ||
      (record.ack range status).ackedSeqCount == record.totalSeq

/-- Where a write is finalised, and its record can be allocated, of those before it the ones with
anything outstanding had fewer final responses after them than the queue is deep; where the record
cannot be allocated, all the fragments of the write were staged. -/
def InWindow (s : WritePlane) : WritePlane.Action → Prop
  | .apply push allocated =>
    match s.flush with
    | .applying ranges failures index =>
      match ranges[index]? with
      | some range =>
        finalises s.track range (rangeStatus ranges failures index) push = true →
          if allocated then
            ∀ i, (h : i < s.track.responses.length) → s.Outstanding s.track.responses[i].eventId →
              s.track.responses.length - i < s.track.queueDepth
          else
            ¬ s.Unstaged range.eventId
      | none => True
    | _ => True
  | _ => True

instance (s : WritePlane) (a : WritePlane.Action) : Decidable (InWindow s a) := by
  unfold InWindow
  exact match a with
    | .apply push allocated =>
      match s.flush with
      | .applying ranges failures index => by
        dsimp only
        exact match ranges[index]? with
          | some range => inferInstance
          | none => instDecidableTrue
      | .idle | .held _ | .sent .. => instDecidableTrue
    | .driver _ | .deliver .. | .stage .. | .steal | .send | .handle | .reply | .fail _
    | .requestStop | .noticeStop => instDecidableTrue

variable {dataBuffer : Nat → Bytes} {s s' : WritePlane} {eventId : Nat}

/-! ## The records -/

section Track

variable {t : WriteTrack} {target : WriteTarget} {applied : List AckedSeq}

/-- An event that was not remembered is the newest, if its record can be allocated. -/
theorem remember_new (t : WriteTrack) (totalSeq : Nat) (finalStatus : NtStatus)
    (finalFailed allocated : Bool)
    (hnew : eventId ∉ t.finalizedWriteEvents.map WriteEventRecord.eventId) :
    let out := t.rememberFinalizedWriteEvent eventId totalSeq finalStatus finalFailed allocated
    if allocated then
      out.1.finalizedWriteEvents.map WriteEventRecord.eventId =
        (t.finalizedWriteEvents.map WriteEventRecord.eventId ++ [eventId]).rtake t.queueDepth
    else
      out.1.finalizedWriteEvents = t.finalizedWriteEvents ∧ out.2 ≠ statusSuccess := by
  have hnone : t.findFinalizedWriteEvent eventId = none := by
    refine List.find?_eq_none.mpr fun r hr he => hnew (List.mem_map.mpr ⟨r, hr, ?_⟩)
    simpa using he
  unfold WriteTrack.rememberFinalizedWriteEvent
  rw [hnone]
  dsimp only
  cases allocated with
  | false =>
    refine ⟨rfl, ?_⟩
    show statusInsufficientResources ≠ statusSuccess
    decide
  | true =>
    rw [if_pos rfl, if_pos rfl, List.map_drop, List.map_append]
    unfold List.rtake
    rw [List.length_append, List.length_append, List.length_map]
    rfl

theorem remember_depth (t : WriteTrack) (eventId totalSeq : Nat) (finalStatus : NtStatus)
    (finalFailed allocated : Bool) :
    (t.rememberFinalizedWriteEvent eventId totalSeq finalStatus finalFailed allocated).1.queueDepth =
      t.queueDepth := by
  unfold WriteTrack.rememberFinalizedWriteEvent
  dsimp only
  split
  · rfl
  · split <;> rfl

theorem finalize_depth (t : WriteTrack) (record : WriteEventRecord) (finalStatus : NtStatus)
    (finalFailed : Bool) (push : NtStatus) :
    (t.finalizeWriteEvent record finalStatus finalFailed push).1.queueDepth = t.queueDepth := by
  unfold WriteTrack.finalizeWriteEvent WriteTrack.emitWriteFinalEvent
  dsimp only
  split
  · rfl
  · by_cases hpush : push = statusSuccess
    · rw [if_neg (not_not.mpr hpush)]
      rfl
    · rw [if_pos hpush]
      dsimp only
      rw [if_pos hpush]
      rfl

theorem finish_depth (t : WriteTrack) (record : WriteEventRecord) (finalStatus : NtStatus)
    (finalFailed : Bool) (push : NtStatus) (allocated : Bool) :
    (t.finish record finalStatus finalFailed push allocated).1.queueDepth = t.queueDepth := by
  have hfinal := finalize_depth t record finalStatus finalFailed push
  unfold WriteTrack.finish
  generalize t.finalizeWriteEvent record finalStatus finalFailed push = out at hfinal
  obtain ⟨t', status⟩ := out
  dsimp only
  split
  · exact hfinal
  · exact (remember_depth _ _ _ _ _ _).trans hfinal

theorem map_filter_ids (records : List WriteEventRecord) (eventId : Nat) :
    (records.filter fun r => r.eventId ≠ eventId).map WriteEventRecord.eventId =
      (records.map WriteEventRecord.eventId).filter fun e => e ≠ eventId := by
  rw [List.filter_map]
  rfl

/-- What `applyWriteAckResult` leaves of the records when it finalises no write. -/
structure SameIds (t t' : WriteTrack) : Prop where
  responses : t'.responses = t.responses
  finalized : t'.finalizedWriteEvents = t.finalizedWriteEvents
  active : t'.activeWriteEvents.map WriteEventRecord.eventId =
    t.activeWriteEvents.map WriteEventRecord.eventId

/-- A write has its final response, and is remembered if that is possible. -/
structure FinalisesAs (t : WriteTrack) (eventId : Nat) (allocated : Bool)
    (out : WriteTrack × NtStatus) : Prop where
  active : out.1.activeWriteEvents.map WriteEventRecord.eventId =
    (t.activeWriteEvents.map WriteEventRecord.eventId).filter fun e => e ≠ eventId
  responses : ∃ x : WriteFinal, x.eventId = eventId ∧ out.1.responses = t.responses ++ [x]
  finalized : eventId ∉ t.finalizedWriteEvents.map WriteEventRecord.eventId →
    if allocated then
      out.1.finalizedWriteEvents.map WriteEventRecord.eventId =
        (t.finalizedWriteEvents.map WriteEventRecord.eventId ++ [eventId]).rtake t.queueDepth
    else
      out.1.finalizedWriteEvents = t.finalizedWriteEvents ∧ out.2 ≠ statusSuccess

/-- **A record is finalised**, or its response could not be queued. -/
theorem finish_ids {record : WriteEventRecord}
    (hnodup : (t.activeWriteEvents.map WriteEventRecord.eventId).Nodup)
    (hopen : record.finalResponseQueued = false) (finalStatus : NtStatus) (finalFailed : Bool)
    (push : NtStatus) (allocated : Bool) :
    SameIds t (t.finish record finalStatus finalFailed push allocated).1 ∨
      push = statusSuccess ∧ FinalisesAs t record.eventId allocated
        (t.finish record finalStatus finalFailed push allocated) := by
  have hdepth := finalize_depth t record finalStatus finalFailed push
  by_cases hpush : push = statusSuccess
  · rcases t.finalize_spec hopen finalStatus finalFailed push with
      ⟨hbad, -⟩ | ⟨t', heq, hids, hfilter, hfinal, hresponses⟩
    · exact absurd hpush hbad
    · refine .inr ⟨hpush, ?_⟩
      unfold WriteTrack.finish
      rw [heq] at hdepth ⊢
      dsimp only at hdepth ⊢
      rw [if_neg (not_not.mpr rfl)]
      have hnodup' : (t'.activeWriteEvents.map WriteEventRecord.eventId).Nodup := hids ▸ hnodup
      obtain ⟨hactive, hresp, -⟩ :=
        t'.retire_spec record hnodup' finalStatus finalFailed allocated
      refine ⟨?_, ⟨_, rfl, hresp.trans hresponses⟩, fun hnew => ?_⟩
      · rw [hactive, hfilter, map_filter_ids]
      · have hrem := remember_new { t' with
          activeWriteEvents := t'.activeWriteEvents.eraseP fun r => r.eventId = record.eventId }
          record.totalSeq finalStatus finalFailed allocated (hfinal.symm ▸ hnew)
        rw [← hfinal, ← hdepth]
        exact hrem
  · rcases t.finalize_spec hopen finalStatus finalFailed push with
      ⟨-, heq⟩ | ⟨t', heq, -⟩
    · refine .inl ?_
      unfold WriteTrack.finish
      rw [heq]
      dsimp only
      rw [if_pos hpush]
      exact ⟨rfl, rfl, t.setActive_ids { record with finalFailed, finalStatus }⟩
    · exfalso
      unfold WriteTrack.finalizeWriteEvent WriteTrack.emitWriteFinalEvent at heq
      dsimp only at heq
      rw [if_neg (Bool.eq_false_iff.mp hopen), if_pos hpush] at heq
      dsimp only at heq
      rw [if_pos hpush] at heq
      exact hpush (congrArg Prod.snd heq)

theorem SameIds.refl (t : WriteTrack) : SameIds t t := ⟨rfl, rfl, rfl⟩

theorem SameIds.trans {t' t'' : WriteTrack} (h : SameIds t t') (h' : SameIds t' t'') :
    SameIds t t'' :=
  ⟨h'.responses.trans h.responses, h'.finalized.trans h.finalized, h'.active.trans h.active⟩

theorem SameIds.setActive (t : WriteTrack) (record : WriteEventRecord) :
    SameIds t (t.setActive record) := ⟨rfl, rfl, t.setActive_ids record⟩

theorem FinalisesAs.of_same {t' : WriteTrack} {allocated : Bool} {out : WriteTrack × NtStatus}
    (h : FinalisesAs t' eventId allocated out) (hsame : SameIds t t')
    (hdepth : t'.queueDepth = t.queueDepth) : FinalisesAs t eventId allocated out := by
  obtain ⟨hactive, hresponses, hfinalized⟩ := h
  rw [hsame.active] at hactive
  rw [hsame.responses] at hresponses
  rw [hsame.finalized, hdepth] at hfinalized
  exact ⟨hactive, hresponses, hfinalized⟩

/-- **A result is applied**, and its write is finalised or not. -/
theorem apply_ids (h : Ledger target applied t) (range : WriteAckRange) (status push : NtStatus)
    (allocated : Bool) :
    SameIds t (t.applyWriteAckResult range status push allocated).1 ∨
      finalises t range status push = true ∧
        range.eventId ∈ t.activeWriteEvents.map WriteEventRecord.eventId ∧
        FinalisesAs t range.eventId allocated
          (t.applyWriteAckResult range status push allocated) := by
  unfold WriteTrack.applyWriteAckResult finalises
  dsimp only
  split
  · exact .inl (.refl t)
  · split
    · split <;> exact .inl (.refl t)
    · next old hfind =>
      obtain ⟨hold, he⟩ := WriteTrack.find_some hfind
      have hmem : range.eventId ∈ t.activeWriteEvents.map WriteEventRecord.eventId :=
        List.mem_map.mpr ⟨old, hold, he⟩
      have hopen := (h.active old hold).unanswered
      have hfields : (old.ack range status).eventId = range.eventId ∧
          (old.ack range status).totalSeq = old.totalSeq ∧
          (old.ack range status).finalResponseQueued = false := by
        rw [← he, ← hopen]
        unfold WriteEventRecord.ack
        dsimp only
        split <;> exact ⟨rfl, rfl, rfl⟩
      obtain ⟨hid, htotal, hnot⟩ := hfields
      have hset := SameIds.setActive t (old.ack range status)
      have hnodup : ((t.setActive (old.ack range status)).activeWriteEvents.map
          WriteEventRecord.eventId).Nodup := hset.active ▸ h.nodup
      -- the record is finalised, with whatever status
      have hfinish : ∀ finalStatus finalFailed,
          ((old.ack range status).finalFailed ||
            (old.ack range status).ackedSeqCount == old.totalSeq) = true →
          let out := (t.setActive (old.ack range status)).finish (old.ack range status) finalStatus
            finalFailed push allocated
          SameIds t out.1 ∨ (push == statusSuccess &&
            (t.findActiveWriteEvent range.eventId).any fun record =>
              (record.ack range status).finalFailed ||
                (record.ack range status).ackedSeqCount == record.totalSeq) = true ∧
            range.eventId ∈ t.activeWriteEvents.map WriteEventRecord.eventId ∧
            FinalisesAs t range.eventId allocated out := by
        intro finalStatus finalFailed hdone
        dsimp only
        rcases finish_ids hnodup hnot finalStatus finalFailed push allocated with
          hsame | ⟨hpush, hfinal⟩
        · exact .inl (hset.trans hsame)
        · refine .inr ⟨?_, hmem, (hid ▸ hfinal).of_same hset rfl⟩
          rw [hfind, hpush, Option.any_some, hdone]
          rfl
      split
      · exact .inl (.refl t)
      · rw [if_neg (Bool.eq_false_iff.mp hopen)]
        split
        · exact .inl hset
        · split
          · next hf => exact hfinish _ _ (by rw [hf, Bool.true_or])
          · split
            · next heq => exact hfinish _ _ (by rw [heq, htotal, beq_self_eq_true, Bool.or_true])
            · exact .inl hset

/-- **A write is tracked**, or it is already known. -/
theorem ensure_ids (t : WriteTrack) (header : WriteSlotPayload) (allocated : Bool) :
    (beginStage t header allocated).1 = t ∨
      header.eventId ∉ t.finalizedWriteEvents.map WriteEventRecord.eventId ∧
        ∃ record : WriteEventRecord, record.eventId = header.eventId ∧
          (beginStage t header allocated).1 =
            { t with activeWriteEvents := record :: t.activeWriteEvents } := by
  unfold beginStage WriteTrack.ensureWriteEventTracked
  by_cases hfields : header.eventId = 0 ∨ header.totalSeq = 0
  · rw [if_pos hfields]
    exact .inl rfl
  · rw [if_neg hfields]
    cases hfinal : t.findFinalizedWriteEvent header.eventId with
    | some old => exact .inl rfl
    | none =>
      cases t.findActiveWriteEvent header.eventId with
      | some old =>
        dsimp only
        by_cases htotal : old.totalSeq ≠ header.totalSeq
        · rw [if_pos htotal]
          exact .inl rfl
        · rw [if_neg htotal]
          exact .inl rfl
      | none =>
        cases allocated with
        | false => exact .inl rfl
        | true =>
          refine .inr ⟨fun hmem => ?_, _, ?_, rfl⟩
          · obtain ⟨r, hr, he⟩ := List.mem_map.mp hmem
            have hnot := List.find?_eq_none.mp hfinal r hr
            simp only [decide_eq_true_eq] at hnot
            exact hnot he
          · rfl

theorem apply_depth (t : WriteTrack) (range : WriteAckRange) (status push : NtStatus)
    (allocated : Bool) :
    (t.applyWriteAckResult range status push allocated).1.queueDepth = t.queueDepth := by
  unfold WriteTrack.applyWriteAckResult
  dsimp only
  split
  · rfl
  · split
    · split <;> rfl
    · next old hfind =>
      split
      · rfl
      · split
        · exact remember_depth _ _ _ _ _ _
        · split
          · rfl
          · split
            · exact finish_depth _ _ _ _ _ _
            · split
              · exact finish_depth _ _ _ _ _ _
              · rfl

end Track

/-! ## The invariant -/

/-- The flusher has ended. -/
def Down (s : WritePlane) : Prop := s.shuttingDown = true ∧ s.flush = .idle

/-- What is remembered of the writes with a final response; until the flusher has ended it is the
last of them. -/
structure Remembered (s : WritePlane) : Prop where
  depth : 0 < s.track.queueDepth
  once : (s.track.responses.map WriteFinal.eventId).Nodup
  untracked : ∀ x ∈ s.track.responses,
    x.eventId ∉ s.track.activeWriteEvents.map WriteEventRecord.eventId
  remembered : ∀ x ∈ s.track.responses, s.Outstanding x.eventId →
    x.eventId ∈ s.track.finalizedWriteEvents.map WriteEventRecord.eventId
  recent : s.Down ∨ s.track.finalizedWriteEvents.map WriteEventRecord.eventId =
    (s.track.responses.map WriteFinal.eventId).rtake s.track.queueDepth

/-- **The flusher does not come back.** -/
theorem step_down {a : Action} (h : s.Down) (hs : s.step dataBuffer a = some s') : s'.Down := by
  obtain ⟨hshutting, hidle⟩ := h
  cases a with
  | driver a =>
    obtain ⟨-, target, -, rfl⟩ := driver_cases hs
    exact ⟨hshutting, hidle⟩
  | deliver i allocated =>
    obtain ⟨_, _, -, -, -, rfl | ⟨-, rfl⟩⟩ := deliver_cases hs
    · exact ⟨hshutting, hidle⟩
    · exact ⟨hshutting, hidle⟩
  | stage k status enqueued =>
    obtain ⟨slot, -, rfl⟩ := Option.map_eq_some_iff.mp hs
    exact ⟨hshutting, hidle⟩
  | steal =>
    obtain ⟨hup, -⟩ := steal_cases hs
    cases hshutting.symm.trans hup
  | send =>
    obtain ⟨_, hflush, -⟩ := send_cases hs
    cases hidle.symm.trans hflush
  | handle =>
    obtain ⟨_, _, _, _, hflush, -⟩ := handle_cases hs
    cases hidle.symm.trans hflush
  | reply =>
    obtain ⟨_, _, hflush, -⟩ := reply_cases hs
    cases hidle.symm.trans hflush
  | fail status =>
    rcases fail_cases hs with ⟨-, rfl⟩ | ⟨hne, -⟩
    · exact ⟨rfl, rfl⟩
    · exact absurd hidle hne
  | apply push allocated =>
    obtain ⟨_, _, _, hflush, -⟩ := apply_cases hs
    cases hidle.symm.trans hflush
  | requestStop =>
    cases hs
    exact ⟨hshutting, hidle⟩
  | noticeStop =>
    rcases noticeStop_cases hs with ⟨-, rfl⟩ | rfl
    · exact ⟨rfl, rfl⟩
    · exact ⟨rfl, hidle⟩

/-- Only the delivery of a slot and the results change the records. -/
theorem step_track {a : Action} (hs : s.step dataBuffer a = some s')
    (hdeliver : ∀ i allocated, a ≠ .deliver i allocated)
    (happly : ∀ push allocated, a ≠ .apply push allocated) : s'.track = s.track := by
  cases a with
  | driver a =>
    obtain ⟨-, target, -, rfl⟩ := driver_cases hs
    rfl
  | deliver i allocated => exact absurd rfl (hdeliver i allocated)
  | stage k status enqueued =>
    obtain ⟨slot, -, rfl⟩ := Option.map_eq_some_iff.mp hs
    rfl
  | steal =>
    obtain ⟨-, -, rfl⟩ := steal_cases hs
    rfl
  | send =>
    obtain ⟨_, -, rfl⟩ := send_cases hs
    rfl
  | handle =>
    obtain ⟨_, _, _, _, -, -, rfl⟩ := handle_cases hs
    rfl
  | reply =>
    obtain ⟨_, _, -, rfl⟩ := reply_cases hs
    rfl
  | fail status => rcases fail_cases hs with ⟨-, rfl⟩ | ⟨-, rfl⟩ <;> rfl
  | apply push allocated => exact absurd rfl (happly push allocated)
  | requestStop =>
    cases hs
    rfl
  | noticeStop => rcases noticeStop_cases hs with ⟨-, rfl⟩ | rfl <;> rfl

/-- The writes with a final response stay, and nothing more of them is outstanding. -/
theorem Remembered.same (h : Remembered s) (hsame : SameIds s.track s'.track)
    (hdepth : s'.track.queueDepth = s.track.queueDepth)
    (hout : ∀ x ∈ s.track.responses, s'.Outstanding x.eventId → s.Outstanding x.eventId)
    (hdown : s.Down → s'.Down) : Remembered s' := by
  obtain ⟨hresponses, hfinalized, hactive⟩ := hsame
  refine ⟨hdepth ▸ h.depth, hresponses ▸ h.once, fun x hx => ?_, fun x hx ho => ?_, ?_⟩
  · rw [hresponses] at hx
    rw [hactive]
    exact h.untracked x hx
  · rw [hresponses] at hx
    rw [hfinalized]
    exact h.remembered x hx (hout x hx ho)
  · rw [hresponses, hfinalized, hdepth]
    exact h.recent.imp_left hdown

/-- **A slot reaches a worker**: a late fragment is of a write that is remembered. -/
theorem Remembered.deliver (h : Remembered s) (hplaced : Placed dataBuffer s) {i : Nat}
    {allocated : Bool} (hs : s.deliver i allocated = some s')
    (hout : ∀ x ∈ s.track.responses, s'.Outstanding x.eventId → s.Outstanding x.eventId)
    (hdown : s.Down → s'.Down) : Remembered s' := by
  obtain ⟨x, header, hissued, hpayload, htaken, rfl | ⟨-, rfl⟩⟩ := deliver_cases hs
  · exact h.same (.refl _) rfl hout hdown
  have hids := ensure_ids s.track header allocated
  generalize beginStage s.track header allocated = out at hout hdown hids ⊢
  obtain ⟨track, decided⟩ := out
  rcases hids with hsame | ⟨hnew, record, hrecord, htrack⟩
  · dsimp only at hsame
    subst hsame
    exact h.same (.refl _) rfl hout hdown
  · -- the write has no final response, as the slot is still outstanding
    have hslot : s.InSlot header.eventId := by
      refine ⟨i, (List.getElem?_eq_some_iff.mp hissued).1, htaken, ?_⟩
      rw [hissued, (Prod.mk.inj (hplaced.header_eq hissued hpayload)).1]
      rfl
    dsimp only at htrack
    subst htrack
    refine ⟨h.depth, h.once, fun x hx hin => ?_, fun x hx ho => ?_, h.recent.imp_left hdown⟩
    · rcases List.mem_cons.mp hin with he | hin
      · have he : x.eventId = header.eventId := he.trans hrecord
        refine hnew (he ▸ h.remembered x hx (.inl (.inr (.inl ?_))))
        rw [he]
        exact hslot
      · exact h.untracked x hx hin
    · exact h.remembered x hx (hout x hx ho)

/-! ## The results -/

/-- What is among the last of a list is not pushed out by one more. -/
theorem mem_rtake_of_index {xs : List Nat} {n i : Nat} (hi : i < xs.length)
    (hn : xs.length - i ≤ n) : xs[i] ∈ xs.rtake n := by
  unfold List.rtake
  refine List.mem_iff_getElem?.mpr ⟨i - (xs.length - n), ?_⟩
  rw [List.getElem?_drop, show xs.length - n + (i - (xs.length - n)) = i by omega,
    List.getElem?_eq_getElem hi]

theorem rtake_concat_rtake (xs : List Nat) (x n : Nat) :
    (xs.rtake n ++ [x]).rtake n = (xs ++ [x]).rtake n := by
  unfold List.rtake
  rw [List.length_append, List.length_append, List.length_drop, List.length_singleton]
  rcases Nat.eq_zero_or_pos n with rfl | hn
  · rw [List.drop_of_length_le (by simp), List.drop_of_length_le (by simp)]
  · rw [List.drop_append_of_le_length (by rw [List.length_drop]; omega),
      List.drop_append_of_le_length (by omega), List.drop_drop]
    congr 2
    omega

/-- **A write is finalised**: those that were pushed out had nothing outstanding. -/
theorem Remembered.finalise (h : Remembered s) {push : NtStatus} {allocated : Bool}
    {ranges : List WriteAckRange} {failures : List WriteAckFailure} {index : Nat}
    {range : WriteAckRange} (hflush : s.flush = .applying ranges failures index)
    (hrange : ranges[index]? = some range)
    (hdone : finalises s.track range (rangeStatus ranges failures index) push = true)
    (hactive : range.eventId ∈ s.track.activeWriteEvents.map WriteEventRecord.eventId)
    {out : WriteTrack × NtStatus} (hout : FinalisesAs s.track range.eventId allocated out)
    (hdepth : out.1.queueDepth = s.track.queueDepth)
    (hg : InWindow s (.apply push allocated)) (htrack : s'.track = out.1)
    (hleft : ∀ x ∈ s.track.responses, s'.Outstanding x.eventId → s.Outstanding x.eventId)
    (hbad : out.2 ≠ statusSuccess → s'.Down ∧ (s'.Outstanding range.eventId →
      s.Unstaged range.eventId)) : Remembered s' := by
  have hnot : range.eventId ∉ s.track.responses.map WriteFinal.eventId := by
    intro hmem
    obtain ⟨x, hx, he⟩ := List.mem_map.mp hmem
    exact h.untracked x hx (he ▸ hactive)
  have hrecent : s.track.finalizedWriteEvents.map WriteEventRecord.eventId =
      (s.track.responses.map WriteFinal.eventId).rtake s.track.queueDepth := by
    refine h.recent.resolve_left fun hdown => ?_
    rw [hdown.2] at hflush
    cases hflush
  have hnew : range.eventId ∉ s.track.finalizedWriteEvents.map WriteEventRecord.eventId := by
    rw [hrecent]
    exact fun hmem => hnot ((List.drop_sublist _ _).subset hmem)
  have hguard : if allocated then
        ∀ i, (h : i < s.track.responses.length) → s.Outstanding s.track.responses[i].eventId →
          s.track.responses.length - i < s.track.queueDepth
      else ¬ s.Unstaged range.eventId := by
    unfold InWindow at hg
    simp only [hflush, hrange] at hg
    exact hg hdone
  obtain ⟨x, hx, hresponses⟩ := hout.responses
  have hresponseIds : out.1.responses.map WriteFinal.eventId =
      s.track.responses.map WriteFinal.eventId ++ [range.eventId] := by
    rw [hresponses, List.map_append, ← hx]
    rfl
  refine ⟨?_, ?_, fun y hy hin => ?_, fun y hy ho => ?_, ?_⟩
  · rw [htrack, hdepth]
    exact h.depth
  · rw [htrack, hresponseIds, List.nodup_append]
    refine ⟨h.once, List.nodup_singleton _, ?_⟩
    rintro e he e' he' rfl
    exact hnot (List.mem_singleton.mp he' ▸ he)
  · rw [htrack, hout.active] at hin
    obtain ⟨hin, hne⟩ := List.mem_filter.mp hin
    rw [htrack, hresponses] at hy
    rcases List.mem_append.mp hy with hy | hy
    · exact h.untracked y hy hin
    · obtain rfl := List.mem_singleton.mp hy
      exact absurd hx (by simpa using hne)
  · have hfinal := hout.finalized hnew
    rw [htrack] at hy ⊢
    rw [hresponses] at hy
    cases allocated with
    | true =>
      simp only [if_true] at hfinal hguard
      rw [hfinal, hrecent, rtake_concat_rtake]
      rcases List.mem_append.mp hy with hy | hy
      · obtain ⟨i, hi, rfl⟩ := List.getElem_of_mem hy
        have hwindow := hguard i hi (hleft _ (List.getElem_mem hi) ho)
        have hlen : i < (s.track.responses.map WriteFinal.eventId ++ [range.eventId]).length := by
          rw [List.length_append, List.length_map]
          omega
        have hin := mem_rtake_of_index (n := s.track.queueDepth) hlen (by
          rw [List.length_append, List.length_map, List.length_singleton]
          omega)
        rw [List.getElem_append_left (by rw [List.length_map]; exact hi), List.getElem_map] at hin
        exact hin
      · obtain rfl := List.mem_singleton.mp hy
        rw [hx, ← Nat.succ_pred_eq_of_pos h.depth, List.rtake_concat_succ]
        exact List.mem_append_right _ List.mem_cons_self
    | false =>
      simp only [Bool.false_eq_true, if_false] at hfinal hguard
      rw [hfinal.1]
      rcases List.mem_append.mp hy with hy | hy
      · exact h.remembered y hy (hleft y hy ho)
      · obtain rfl := List.mem_singleton.mp hy
        exact absurd ((hbad hfinal.2).2 (hx ▸ ho)) hguard
  · have hfinal := hout.finalized hnew
    cases allocated with
    | true =>
      simp only [if_true] at hfinal
      rw [htrack, hfinal, hrecent, rtake_concat_rtake, hresponseIds, hdepth]
      exact .inr rfl
    | false =>
      simp only [Bool.false_eq_true, if_false] at hfinal
      exact .inl (hbad hfinal.2).1

/-- **The next result is applied.** -/
theorem Remembered.apply {Good : Nat × Nat → Prop} (h : Remembered s) (htallied : Tallied Good s)
    {push : NtStatus} {allocated : Bool} (hg : InWindow s (.apply push allocated))
    (hs : s.apply push allocated = some s')
    (hleft : ∀ x ∈ s.track.responses, s'.Outstanding x.eventId → s.Outstanding x.eventId)
    (hdown : s.Down → s'.Down) : Remembered s' := by
  obtain ⟨ranges, failures, index, hflush, ⟨-, rfl⟩ | ⟨range, hrange, hnext⟩⟩ := apply_cases hs
  · exact h.same (.refl _) rfl hleft hdown
  · have hids := apply_ids htallied.ledger range (rangeStatus ranges failures index) push allocated
    have hdepth := apply_depth s.track range (rangeStatus ranges failures index) push allocated
    have htrack : s'.track = (s.track.applyWriteAckResult range
        (rangeStatus ranges failures index) push allocated).1 := by
      rcases hnext with ⟨-, rfl⟩ | ⟨-, rfl⟩ <;> rfl
    rcases hids with hsame | ⟨hdone, hactive, hfinal⟩
    · exact h.same (htrack ▸ hsame) (htrack ▸ hdepth) hleft hdown
    · refine h.finalise hflush hrange hdone hactive hfinal hdepth hg htrack hleft fun hbad => ?_
      rcases hnext with ⟨hok, -⟩ | ⟨-, rfl⟩
      · exact absurd hok hbad
      · exact ⟨⟨rfl, rfl⟩, Outstanding.shutDown⟩

/-! ## Runs -/

/-- **One step.** -/
theorem step_remembered {Good : Nat × Nat → Prop} {a : Action} (h : Remembered s)
    (hplaced : Placed dataBuffer s) (htallied : Tallied Good s) (hg : InWindow s a)
    (hs : s.step dataBuffer a = some s') : Remembered s' := by
  have hleft : ∀ x ∈ s.track.responses, s'.Outstanding x.eventId → s.Outstanding x.eventId :=
    fun x hx => step_outstanding hplaced hs (htallied.ledger.responses x hx).announced
  have hdown : s.Down → s'.Down := fun hd => step_down hd hs
  have hsame : s'.track = s.track → Remembered s' := fun htrack =>
    h.same (htrack ▸ .refl _) (congrArg WriteTrack.queueDepth htrack) hleft hdown
  cases a with
  | deliver i allocated => exact h.deliver hplaced hs hleft hdown
  | apply push allocated => exact h.apply htallied hg hs hleft hdown
  | _ => exact hsame (step_track hs nofun nofun)

theorem remembered_init (params : WriteParams) {queueDepth : Nat} (hdepth : 0 < queueDepth) :
    Remembered (init params queueDepth) where
  depth := hdepth
  once := .nil
  untracked := nofun
  remembered := nofun
  recent := .inr (List.rtake_nil _).symm

theorem Remembered.finality {Good : Nat × Nat → Prop} (h : Remembered s)
    (hplaced : Placed dataBuffer s) (htallied : Tallied Good s) : Finality s where
  once := h.once
  committed x hx hc := by
    have hans := htallied.ledger.responses x hx
    have hall := mem_successes_of_count hplaced.target hplaced.issues
      (hplaced.places.nodup .applied)
      (fun y hy => hplaced.issued (p := .applied) (List.mem_map_of_mem hy)) hans.announced
      (hans.all hc)
    obtain ⟨y, hy, he, -⟩ := hans.announced
    have hlt := hans.announced.lt hplaced.target hplaced.issues hy (Prod.ext he rfl)
    obtain ⟨request, hr, hre⟩ := hplaced.issues.owned y hy
    have htotal := hans.announced.request hplaced.target hr (hre.trans he)
    exact ⟨by omega, ⟨request, hr, hre.trans he, htotal⟩,
      fun seq hseq => mem_successes.mp (hall seq hseq)⟩
  remembered := h.remembered
  untracked := h.untracked

/-- **A write has one final response, and is remembered while anything of it may still arrive**, in
every state of every run in which no write with anything outstanding is pushed out. -/
theorem write_finality {params : WriteParams} {queueDepth : Nat} (hdepth : 0 < queueDepth)
    {as : List Action}
    (hwindow : Lib.StepsMeet (step dataBuffer) InWindow (init params queueDepth) as)
    (h : Lib.runFrom (step dataBuffer) (init params queueDepth) as = some s) : Finality s := by
  have hstep : ∀ s a s', Placed dataBuffer s ∧ Tallied (fun _ => True) s ∧ Remembered s →
      InWindow s a → s.step dataBuffer a = some s' →
      Placed dataBuffer s' ∧ Tallied (fun _ => True) s' ∧ Remembered s' := by
    rintro s a s' ⟨hplaced, htallied, hrem⟩ hg hs
    exact ⟨step_placed hplaced hs,
      step_tallied htallied hplaced (fun _ _ _ _ _ _ _ => trivial) hs,
      step_remembered hrem hplaced htallied hg hs⟩
  obtain ⟨hplaced, htallied, hrem⟩ := Lib.run_inv_of_guard hstep as _ s
    ⟨placed_init dataBuffer params queueDepth, tallied_init _ params queueDepth,
      remembered_init params hdepth⟩ hwindow h
  exact hrem.finality hplaced htallied

/-- The flusher sends what is queued and applies the reply. -/
def flushRun : List Action :=
  [.steal, .send, .handle, .reply, .apply statusSuccess true, .apply statusSuccess true]

/-- The first of two fragments fails; the other stays in its slot. -/
def rejectedRun : List Action :=
  [.driver (.submitSlot 0 1 4096 560), .driver (.submitSlot 1 2 8192 560),
    .driver (.queueWrite 0 2 1024), .driver (.insert 0), .driver .drain, .driver .drain,
    .deliver 0 true, .stage 0 statusInsufficientResources true] ++ flushRun

/-- Another write, of one fragment: the one at `i` of those that were issued. -/
def committedRun (slotId i : Nat) : List Action :=
  [.driver (.submitSlot slotId slotId 4096 560), .driver (.queueWrite 0 1 512),
    .driver (.insert 0), .driver .drain, .deliver i true, .stage 0 statusSuccess true] ++ flushRun

/-- The fragment that was left reaches its worker. -/
def lateRun : List Action := [.deliver 1 true, .stage 0 statusSuccess true] ++ flushRun

/-- The late fragment finds its event remembered. -/
theorem write_finality_late :
    ∃ s, Lib.runFrom (step fun _ => []) (init exampleParams 2)
      (rejectedRun ++ committedRun 3 2 ++ lateRun) = some s ∧ Finality s ∧
      s.track.responses = [⟨false, 1, 2, statusInsufficientResources⟩,
        ⟨true, 2, 1, statusSuccess⟩] := by
  obtain ⟨s, hs, hp⟩ := Lib.exists_run (step fun _ => []) (init exampleParams 2)
    (rejectedRun ++ committedRun 3 2 ++ lateRun)
    (fun s => decide (s.track.responses = [⟨false, 1, 2, statusInsufficientResources⟩,
      ⟨true, 2, 1, statusSuccess⟩])) (by decide)
  exact ⟨s, hs, write_finality (by decide) (by decide) hs, of_decide_eq_true hp⟩

/-- Two other writes are finalised before the late fragment comes, and it is taken for a new
write, which is rejected again. -/
theorem late_fragment_rejects_twice :
    ∃ s, Lib.runFrom (step fun _ => []) (init exampleParams 2)
      (rejectedRun ++ committedRun 3 2 ++ committedRun 4 3 ++ lateRun) = some s ∧
      s.track.responses = [⟨false, 1, 2, statusInsufficientResources⟩,
        ⟨true, 2, 1, statusSuccess⟩, ⟨true, 3, 1, statusSuccess⟩,
        ⟨false, 1, 2, statusNotFound⟩] ∧ ¬ Finality s := by
  obtain ⟨s, hs, hp⟩ := Lib.exists_run (step fun _ => []) (init exampleParams 2)
    (rejectedRun ++ committedRun 3 2 ++ committedRun 4 3 ++ lateRun)
    (fun s => decide (s.track.responses = [⟨false, 1, 2, statusInsufficientResources⟩,
      ⟨true, 2, 1, statusSuccess⟩, ⟨true, 3, 1, statusSuccess⟩,
      ⟨false, 1, 2, statusNotFound⟩])) (by decide)
  have hresponses := of_decide_eq_true hp
  refine ⟨s, hs, hresponses, fun h => ?_⟩
  have honce := h.once
  rw [hresponses] at honce
  exact absurd honce (by decide)

end WritePlane

end YumeDisk.AppKernel
