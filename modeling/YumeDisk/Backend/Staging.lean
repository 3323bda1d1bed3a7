import Mathlib.Data.List.Sort
import Mathlib.Data.Nat.Basic
import YumeDisk.Lib.Bytes
import YumeDisk.AppKernel.WriteAcks

/-!
# The staging store of a disk (`BackendRust/src/staging.rs`)

A fragment that AppKernel hands over is staged under its write; a read lays the staged fragments
over what the media holds, the newest last; a write that is committed goes to the media, one that
is rejected is dropped.

* `StagingStore.stageWrite`, `overlayRead`, `commit`, `reject`, `clear`: the operations.
* `StagingStore.get`: the fragment that is staged for a write under a sequence number.
* `stageWrite_spec`, `commit_writes`, `commit_ok`, ...: one lemma or two for each operation.
-/

namespace YumeDisk.Backend

open Lib (Bytes slice splice writeAt)
open Miniport (NtStatus statusSuccess statusInvalidParameter)

/-! ## Arithmetic of `u64` -/

def u64Modulus : Nat := 2 ^ 64

def saturatingAdd (a b : Nat) : Nat := min (a + b) (u64Modulus - 1)

/-- The check that a range ends inside the disk. -/
def rangeFits (offset length diskSizeBytes : Nat) : Bool :=
  let rangeEnd := saturatingAdd offset length
  !(rangeEnd < offset || rangeEnd > diskSizeBytes)

/-- On a disk whose size is no `u64::MAX`, the check is what it says. -/
theorem rangeFits_iff {offset length diskSizeBytes : Nat} (hoffset : offset < u64Modulus)
    (hsize : diskSizeBytes < u64Modulus - 1) :
    rangeFits offset length diskSizeBytes = true ↔ offset + length ≤ diskSizeBytes := by
  unfold u64Modulus at hoffset hsize
  simp [rangeFits, saturatingAdd, u64Modulus]
  omega

/-! ## The store -/

structure StagedFragment where
  seq : Nat
  diskOffsetBytes : Nat
  ordinal : Nat
  data : Bytes
deriving DecidableEq, Repr

structure StagedWriteRecord where
  totalSeq : Nat := 0
  fragments : Std.TreeMap Nat StagedFragment := ∅

/-- `nextOrdinal` is unbounded here, and a `u64` in the source. -/
structure StagingStore where
  writes : Std.TreeMap Nat StagedWriteRecord := ∅
  nextOrdinal : Nat := 1

/-- The fields of `AkWriteOp` that the store reads. -/
structure WriteOp where
  eventId : Nat
  seq : Nat
  totalSeq : Nat
  offsetBytes : Nat
  dataLength : Nat
deriving DecidableEq, Repr

/-- The part of a staged fragment that a read sees. -/
structure OverlaySlice where
  ordinal : Nat
  destOffset : Nat
  sourceOffset : Nat
  length : Nat
  data : Bytes
deriving DecidableEq, Repr

/-- The overlap of a fragment with the bytes from `requestBegin` to `requestEnd`. -/
def StagedFragment.overlay (fragment : StagedFragment) (requestBegin requestEnd : Nat) :
    Option OverlaySlice :=
  let fragmentBegin := fragment.diskOffsetBytes
  let fragmentEnd := saturatingAdd fragmentBegin fragment.data.length
  if fragmentEnd ≤ requestBegin ∨ fragmentBegin ≥ requestEnd then
    none
  else
    let overlapBegin := max fragmentBegin requestBegin
    let overlapEnd := min fragmentEnd requestEnd
    if overlapEnd ≤ overlapBegin then
      none
    else
      some {
        ordinal := fragment.ordinal
        destOffset := overlapBegin - requestBegin
        sourceOffset := overlapBegin - fragmentBegin
        length := overlapEnd - overlapBegin
        data := fragment.data }

/-- `buffer[dest..end].copy_from_slice(&data[source..source_end])`. -/
def OverlaySlice.copyTo (buffer : Bytes) (o : OverlaySlice) : Bytes :=
  splice buffer o.destOffset (slice o.data o.sourceOffset o.length)

/-- A range of the media that a write went to, or tried to. -/
structure MediaWrite where
  eventId : Nat
  offset : Nat
  length : Nat
deriving DecidableEq, Repr

namespace StagingStore

/-- `stage_write_locked`. -/
def stageWrite (s : StagingStore) (op : WriteOp) (dataBuffer : Bytes) (diskSizeBytes : Nat) :
    StagingStore × NtStatus :=
  if dataBuffer.length ≠ op.dataLength then
    (s, statusInvalidParameter)
  else if !rangeFits op.offsetBytes op.dataLength diskSizeBytes then
    (s, statusInvalidParameter)
  else
    let record := (s.writes[op.eventId]?).getD {}
    if record.totalSeq ≠ 0 ∧ record.totalSeq ≠ op.totalSeq then
      (s, statusInvalidParameter)
    else
      let fragment : StagedFragment := {
        seq := op.seq
        diskOffsetBytes := op.offsetBytes
        ordinal := s.nextOrdinal
        data := dataBuffer }
      ({ writes := s.writes.insert op.eventId {
           totalSeq := op.totalSeq
           fragments := record.fragments.insert op.seq fragment }
         nextOrdinal := s.nextOrdinal + 1 }, statusSuccess)

/-- The fragments that are staged, in the order of the maps. -/
def fragments (s : StagingStore) : List StagedFragment :=
  s.writes.toList.flatMap fun entry => entry.2.fragments.toList.map Prod.snd

/-- `overlay_read_locked`. -/
def overlayRead (s : StagingStore) (requestBegin : Nat) (buffer : Bytes) : Bytes :=
  if buffer = [] then
    buffer
  else
    let requestEnd := saturatingAdd requestBegin buffer.length
    let overlays := s.fragments.filterMap fun fragment => fragment.overlay requestBegin requestEnd
    (overlays.mergeSort fun a b => a.ordinal ≤ b.ordinal).foldl OverlaySlice.copyTo buffer

/-- The loop of `commit_locked`.  `write i` is what the media makes of the `i`-th write: `none` is
`Ok`, `some n` is an error after the first `n` bytes. -/
def commitLoop (eventId diskSizeBytes : Nat) (write : Nat → Option Nat) :
    Nat → List StagedFragment → (Nat → UInt8) → Bool × (Nat → UInt8) × List MediaWrite
  | _, [], media => (true, media, [])
  | i, fragment :: rest, media =>
    if !rangeFits fragment.diskOffsetBytes fragment.data.length diskSizeBytes then
      (false, media, [])
    else if fragment.data = [] then
      commitLoop eventId diskSizeBytes write (i + 1) rest media
    else
      let touched : MediaWrite :=
        { eventId, offset := fragment.diskOffsetBytes, length := fragment.data.length }
      match write i with
      | some n => (false, writeAt media fragment.diskOffsetBytes (fragment.data.take n), [touched])
      | none =>
        let (ok, media, writes) := commitLoop eventId diskSizeBytes write (i + 1) rest
          (writeAt media fragment.diskOffsetBytes fragment.data)
        (ok, media, touched :: writes)

/-- `commit_locked`. -/
def commit (s : StagingStore) (eventId diskSizeBytes : Nat) (write : Nat → Option Nat)
    (media : Nat → UInt8) : Bool × StagingStore × (Nat → UInt8) × List MediaWrite :=
  match s.writes[eventId]? with
  | none => (true, s, media, [])
  | some record =>
    let (ok, media, writes) := commitLoop eventId diskSizeBytes write 0
      (record.fragments.toList.map Prod.snd) media
    (ok, if ok then { s with writes := s.writes.erase eventId } else s, media, writes)

/-- `reject_locked`. -/
def reject (s : StagingStore) (eventId : Nat) : StagingStore :=
  { s with writes := s.writes.erase eventId }

/-- `clear_locked`. -/
def clear : StagingStore := {}

/-! ## What is staged -/

/-- The fragment of a write with a sequence number. -/
def get (s : StagingStore) (eventId seq : Nat) : Option StagedFragment :=
  (s.writes[eventId]?).bind fun record => record.fragments[seq]?

@[simp] theorem get_empty (eventId seq : Nat) : get {} eventId seq = none := by
  simp [get]

theorem get_reject (s : StagingStore) (eventId eventId' seq : Nat) :
    (s.reject eventId).get eventId' seq =
      if eventId' = eventId then none else s.get eventId' seq := by
  unfold get reject
  rw [Std.TreeMap.getElem?_erase]
  by_cases h : eventId' = eventId
  · rw [if_pos h, if_pos (by simp [h])]
    rfl
  · rw [if_neg h, if_neg (by simpa using Ne.symm h)]

theorem get_of_reject {s : StagingStore} {eventId eventId' seq : Nat} {f : StagedFragment}
    (h : (s.reject eventId).get eventId' seq = some f) : s.get eventId' seq = some f := by
  rw [get_reject] at h
  split at h
  · cases h
  · exact h

theorem mem_fragments {s : StagingStore} {fragment : StagedFragment} :
    fragment ∈ s.fragments ↔ ∃ eventId seq, s.get eventId seq = some fragment := by
  unfold fragments get
  simp only [List.mem_flatMap, List.mem_map, Prod.exists, Std.TreeMap.mem_toList_iff_getElem?_eq_some]
  constructor
  · rintro ⟨eventId, record, hrecord, seq, f, hf, rfl⟩
    exact ⟨eventId, seq, by rw [hrecord]; exact hf⟩
  · rintro ⟨eventId, seq, h⟩
    obtain ⟨record, hrecord, hf⟩ := Option.bind_eq_some_iff.mp h
    exact ⟨eventId, record, hrecord, seq, fragment, hf, rfl⟩

/-- **A fragment is staged**, or the store is as it was. -/
theorem stageWrite_spec (s : StagingStore) (op : WriteOp) (dataBuffer : Bytes)
    (diskSizeBytes : Nat) :
    let out := s.stageWrite op dataBuffer diskSizeBytes
    out.1 = s ∧ out.2 = statusInvalidParameter ∨
      dataBuffer.length = op.dataLength ∧
        rangeFits op.offsetBytes op.dataLength diskSizeBytes = true ∧ out.2 = statusSuccess ∧
        out.1.nextOrdinal = s.nextOrdinal + 1 ∧
        ∀ eventId seq, out.1.get eventId seq =
          if eventId = op.eventId ∧ seq = op.seq then
            some {
              seq := op.seq
              diskOffsetBytes := op.offsetBytes
              ordinal := s.nextOrdinal
              data := dataBuffer }
          else
            s.get eventId seq := by
  unfold stageWrite
  by_cases hlength : dataBuffer.length ≠ op.dataLength
  · rw [if_pos hlength]
    exact .inl ⟨rfl, rfl⟩
  · rw [if_neg hlength]
    by_cases hfits : rangeFits op.offsetBytes op.dataLength diskSizeBytes = true
    · rw [hfits, Bool.not_true, if_neg Bool.false_ne_true]
      dsimp only
      split
      · exact .inl ⟨rfl, rfl⟩
      · refine .inr ⟨not_not.mp hlength, rfl, rfl, rfl, fun eventId seq => ?_⟩
        unfold get
        rw [Std.TreeMap.getElem?_insert]
        by_cases he : eventId = op.eventId
        · subst he
          rw [if_pos (by simp), Option.bind_some, Std.TreeMap.getElem?_insert]
          by_cases hs : seq = op.seq
          · rw [if_pos (by simp [hs]), if_pos ⟨rfl, hs⟩]
          · rw [if_neg (by simpa using Ne.symm hs), if_neg fun h => hs h.2]
            cases s.writes[op.eventId]? with
            | none => simp
            | some record => rfl
        · rw [if_neg (by simpa using Ne.symm he), if_neg fun h => he h.1]
    · rw [Bool.not_eq_true] at hfits
      rw [hfits, Bool.not_false, if_pos rfl]
      exact .inl ⟨rfl, rfl⟩

/-! ## What a commit writes -/

section Commit

variable {eventId diskSizeBytes : Nat} {write : Nat → Option Nat}

/-- What goes to the media is a staged fragment, inside the disk. -/
theorem commitLoop_writes (fragments : List StagedFragment) (i : Nat) (media : Nat → UInt8) :
    ∀ w ∈ (commitLoop eventId diskSizeBytes write i fragments media).2.2, ∃ f ∈ fragments,
      w = { eventId, offset := f.diskOffsetBytes, length := f.data.length } ∧
        rangeFits f.diskOffsetBytes f.data.length diskSizeBytes = true := by
  induction fragments generalizing i media with
  | nil => nofun
  | cons f rest ih =>
    intro w hw
    unfold commitLoop at hw
    by_cases hfits : rangeFits f.diskOffsetBytes f.data.length diskSizeBytes = true
    · rw [hfits, Bool.not_true, if_neg Bool.false_ne_true] at hw
      have hrest : ∀ media', w ∈ (commitLoop eventId diskSizeBytes write (i + 1) rest media').2.2 →
          ∃ f' ∈ f :: rest, w = { eventId, offset := f'.diskOffsetBytes, length := f'.data.length } ∧
            rangeFits f'.diskOffsetBytes f'.data.length diskSizeBytes = true := by
        intro media' hw
        obtain ⟨f', hf', hrest⟩ := ih (i + 1) media' w hw
        exact ⟨f', List.mem_cons_of_mem _ hf', hrest⟩
      split at hw
      · exact hrest _ hw
      · split at hw
        · obtain rfl := List.mem_singleton.mp hw
          exact ⟨f, List.mem_cons_self, rfl, hfits⟩
        · rcases List.mem_cons.mp hw with rfl | hw
          · exact ⟨f, List.mem_cons_self, rfl, hfits⟩
          · exact hrest _ hw
    · rw [Bool.not_eq_true] at hfits
      rw [hfits, Bool.not_false, if_pos rfl] at hw
      cases hw

/-- **A commit that succeeds** has written every fragment that is not empty. -/
theorem commitLoop_ok (fragments : List StagedFragment) (i : Nat) (media : Nat → UInt8)
    (hok : (commitLoop eventId diskSizeBytes write i fragments media).1 = true) :
    ∀ f ∈ fragments, f.data ≠ [] →
      { eventId, offset := f.diskOffsetBytes, length := f.data.length } ∈
        (commitLoop eventId diskSizeBytes write i fragments media).2.2 := by
  induction fragments generalizing i media with
  | nil => nofun
  | cons f rest ih =>
    intro f' hf' hdata
    unfold commitLoop at hok ⊢
    by_cases hfits : rangeFits f.diskOffsetBytes f.data.length diskSizeBytes = true
    · rw [hfits, Bool.not_true, if_neg Bool.false_ne_true] at hok ⊢
      split at hok
      · next hempty =>
        rw [if_pos hempty]
        rcases List.mem_cons.mp hf' with rfl | hf'
        · exact absurd hempty hdata
        · exact ih _ _ hok f' hf' hdata
      · next hempty =>
        rw [if_neg hempty]
        split at hok
        · cases hok
        · rcases List.mem_cons.mp hf' with rfl | hf'
          · exact List.mem_cons_self
          · exact List.mem_cons_of_mem _ (ih _ _ hok f' hf' hdata)
    · rw [Bool.not_eq_true] at hfits
      rw [hfits, Bool.not_false, if_pos rfl] at hok
      cases hok

variable (s : StagingStore) (media : Nat → UInt8)

theorem commit_writes : ∀ w ∈ (s.commit eventId diskSizeBytes write media).2.2.2,
    ∃ seq f, s.get eventId seq = some f ∧
      w = { eventId, offset := f.diskOffsetBytes, length := f.data.length } ∧
      rangeFits f.diskOffsetBytes f.data.length diskSizeBytes = true := by
  intro w hw
  unfold commit at hw
  split at hw
  · cases hw
  · next record hrecord =>
    obtain ⟨f, hf, hrest⟩ := commitLoop_writes _ _ _ w hw
    obtain ⟨⟨seq, f'⟩, hmem, rfl⟩ := List.mem_map.mp hf
    rw [Std.TreeMap.mem_toList_iff_getElem?_eq_some] at hmem
    exact ⟨seq, f', by unfold get; rw [hrecord]; exact hmem, hrest⟩

theorem commit_ok (hok : (s.commit eventId diskSizeBytes write media).1 = true) {seq : Nat}
    {f : StagedFragment} (hf : s.get eventId seq = some f) (hdata : f.data ≠ []) :
    { eventId, offset := f.diskOffsetBytes, length := f.data.length } ∈
      (s.commit eventId diskSizeBytes write media).2.2.2 := by
  obtain ⟨record, hrecord, hmem⟩ := Option.bind_eq_some_iff.mp hf
  unfold commit at hok ⊢
  rw [hrecord] at hok ⊢
  refine commitLoop_ok _ _ _ hok f (List.mem_map.mpr ⟨(seq, f), ?_, rfl⟩) hdata
  rw [Std.TreeMap.mem_toList_iff_getElem?_eq_some]
  exact hmem

/-- A commit takes nothing from the store but the write. -/
theorem get_commit_of_ne {eventId' seq : Nat} (h : eventId' ≠ eventId) :
    (s.commit eventId diskSizeBytes write media).2.1.get eventId' seq = s.get eventId' seq := by
  unfold commit
  split
  · rfl
  · dsimp only
    split
    · exact (get_reject s eventId eventId' seq).trans (if_neg h)
    · rfl

/-- A commit adds nothing to the store. -/
theorem get_commit_some {eventId' seq : Nat} {f : StagedFragment}
    (h : (s.commit eventId diskSizeBytes write media).2.1.get eventId' seq = some f) :
    s.get eventId' seq = some f := by
  unfold commit at h
  split at h
  · exact h
  · dsimp only at h
    split at h
    · exact get_of_reject h
    · exact h

/-- What was staged for the write is gone if the commit succeeded. -/
theorem get_commit_ok (hok : (s.commit eventId diskSizeBytes write media).1 = true) (seq : Nat) :
    (s.commit eventId diskSizeBytes write media).2.1.get eventId seq = none := by
  unfold commit at hok ⊢
  split at hok
  · next hnone =>
    unfold get
    rw [hnone]
    rfl
  · next record hrecord =>
    dsimp only at hok ⊢
    rw [if_pos hok]
    exact (get_reject s eventId eventId seq).trans (if_pos rfl)

end Commit

end StagingStore

end YumeDisk.Backend
