import YumeDisk.Backend.Staging
import YumeDisk.Lib.LastWriter

/-!
# The staging store, byte by byte

What a read shows at a byte of the disk, and what a commit leaves there on the media.

* `overlayRead_eq`: a read shows the newest fragment over a byte, and the media where there is
  none.
* `commit_media`: a commit that succeeds leaves what the last of its fragments holds.
* `commit_outside`: a commit, failed or not, leaves the bytes it has no fragment for.
-/

namespace YumeDisk.Backend

open Lib (Bytes slice splice readAt writeAt newest newest_eq_none newest_of_max byteAt
  byteAt_ne_none)
open Miniport (NtStatus statusSuccess statusInvalidParameter)

/-- What the fragment holds at the byte `x` of the disk. -/
def StagedFragment.byte (f : StagedFragment) (x : Nat) : Option UInt8 :=
  byteAt f.diskOffsetBytes f.data x

/-! ## What the overlay of a read shows -/

section Overlay

variable {f : StagedFragment} {requestBegin n : Nat}

/-- What the part of a fragment leaves at a place of the buffer. -/
def OverlaySlice.byte (o : OverlaySlice) (i : Nat) : Option UInt8 :=
  byteAt o.destOffset (slice o.data o.sourceOffset o.length) i

/-- A sum that saturates is no larger than the sum, and smaller only at the end of `u64`. -/
theorem saturatingAdd_spec (a b : Nat) : saturatingAdd a b ≤ a + b ∧
    (saturatingAdd a b = a + b ∨ saturatingAdd a b + 1 = u64Modulus) := by
  unfold saturatingAdd u64Modulus
  omega

theorem saturatingAdd_of_lt {a b : Nat} (h : a + b < u64Modulus) : saturatingAdd a b = a + b := by
  unfold saturatingAdd u64Modulus at *
  omega

/-- The part of a fragment that meets a request lies in the buffer and in the fragment. -/
theorem overlay_some {o : OverlaySlice} (hfits : requestBegin + n < u64Modulus)
    (h : f.overlay requestBegin (saturatingAdd requestBegin n) = some o) :
    o.ordinal = f.ordinal ∧ o.destOffset + o.length ≤ n ∧
      o.sourceOffset + o.length ≤ o.data.length := by
  unfold StagedFragment.overlay at h
  dsimp only at h
  have hend := (saturatingAdd_spec f.diskOffsetBytes f.data.length).1
  rw [saturatingAdd_of_lt hfits] at h
  split at h
  · cases h
  · split at h
    · cases h
    · obtain rfl := Option.some.inj h
      dsimp only
      refine ⟨rfl, ?_, ?_⟩ <;> omega

/-- **The part of a fragment** leaves in the buffer what the fragment holds at the byte. -/
theorem overlay_byte (hfits : requestBegin + n < u64Modulus) {i : Nat} (hi : i < n) :
    ((f.overlay requestBegin (saturatingAdd requestBegin n)).bind fun o => o.byte i) =
      f.byte (requestBegin + i) := by
  have hout : ¬ (f.diskOffsetBytes ≤ requestBegin + i ∧
      requestBegin + i < f.diskOffsetBytes + f.data.length) → f.byte (requestBegin + i) = none :=
    fun hn => not_not.mp fun hne => hn (byteAt_ne_none.mp hne)
  obtain ⟨hle, hend⟩ := saturatingAdd_spec f.diskOffsetBytes f.data.length
  unfold StagedFragment.overlay OverlaySlice.byte
  dsimp only
  rw [saturatingAdd_of_lt hfits]
  split
  · exact (hout (by omega)).symm
  · split
    · exact (hout (by omega)).symm
    · rw [Option.bind_some]
      dsimp only
      by_cases hin : f.diskOffsetBytes ≤ requestBegin + i ∧
          requestBegin + i < f.diskOffsetBytes + f.data.length
      · unfold StagedFragment.byte byteAt
        rw [if_pos (by omega), if_pos hin.1, slice, List.getElem?_take_of_lt (by omega),
          List.getElem?_drop]
        congr 1
        omega
      · rw [hout hin]
        refine not_not.mp fun hne => ?_
        have hlt := byteAt_ne_none.mp hne
        rw [Lib.length_slice (by omega)] at hlt
        omega

end Overlay

namespace StagingStore

variable {s : StagingStore}

/-- The parts that a read lays over the media, in the order in which it does. -/
def overlays (s : StagingStore) (requestBegin n : Nat) : List OverlaySlice :=
  (s.fragments.filterMap fun f => f.overlay requestBegin (saturatingAdd requestBegin n)).mergeSort
    fun a b => a.ordinal ≤ b.ordinal

theorem mem_overlays {requestBegin n : Nat} {o : OverlaySlice} :
    o ∈ s.overlays requestBegin n ↔
      ∃ f ∈ s.fragments, f.overlay requestBegin (saturatingAdd requestBegin n) = some o := by
  unfold overlays
  rw [List.mem_mergeSort, List.mem_filterMap]

theorem overlays_sorted (s : StagingStore) (requestBegin n : Nat) :
    (s.overlays requestBegin n).Pairwise fun a b => a.ordinal ≤ b.ordinal := by
  have htrans : ∀ a b c : OverlaySlice, decide (a.ordinal ≤ b.ordinal) = true →
      decide (b.ordinal ≤ c.ordinal) = true → decide (a.ordinal ≤ c.ordinal) = true := by
    intro a b c hab hbc
    rw [decide_eq_true_eq] at hab hbc ⊢
    exact hab.trans hbc
  have htotal : ∀ a b : OverlaySlice,
      (decide (a.ordinal ≤ b.ordinal) || decide (b.ordinal ≤ a.ordinal)) = true := by
    intro a b
    rw [Bool.or_eq_true, decide_eq_true_eq, decide_eq_true_eq]
    exact le_total a.ordinal b.ordinal
  exact (List.pairwise_mergeSort htrans htotal _).imp fun hab => decide_eq_true_eq.mp hab

/-- A read of fragments that are in order as they stand. -/
theorem overlayRead_sorted {requestBegin : Nat} {buffer : Bytes} (hne : buffer ≠ [])
    (h : (s.fragments.filterMap fun f =>
      f.overlay requestBegin (saturatingAdd requestBegin buffer.length)).Pairwise
        fun a b => decide (a.ordinal ≤ b.ordinal) = true) :
    s.overlayRead requestBegin buffer = (s.fragments.filterMap fun f =>
      f.overlay requestBegin (saturatingAdd requestBegin buffer.length)).foldl
        OverlaySlice.copyTo buffer := by
  unfold overlayRead
  rw [if_neg hne]
  dsimp only
  rw [List.mergeSort_of_pairwise h]

/-- A byte of a read is what the last part over it leaves. -/
theorem overlayRead_getD {media : Nat → UInt8} {requestBegin n i : Nat}
    (hfits : requestBegin + n < u64Modulus) (hi : i < n) :
    (s.overlayRead requestBegin (readAt media requestBegin n)).length = n ∧
    (s.overlayRead requestBegin (readAt media requestBegin n)).getD i 0 =
      (newest (fun o => o.byte i) (s.overlays requestBegin n)).getD (media (requestBegin + i)) := by
  have hne : readAt media requestBegin n ≠ [] := by
    intro h
    have hlength := congrArg List.length h
    rw [Lib.length_readAt, List.length_nil] at hlength
    omega
  unfold overlayRead
  rw [if_neg hne, Lib.length_readAt]
  have hwatch : (readAt media requestBegin n).getD i 0 = media (requestBegin + i) := by
    simp [readAt, hi]
  rw [← hwatch]
  refine @Lib.watch_foldl OverlaySlice UInt8 Bytes (fun buffer => buffer.length = n)
    OverlaySlice.copyTo (fun buffer => buffer.getD i 0) (fun o => o.byte i)
    (s.overlays requestBegin n) (fun o ho buffer hbuffer => ?_) _ (Lib.length_readAt ..)
  obtain ⟨f, -, hf⟩ := mem_overlays.mp ho
  obtain ⟨-, hdest, hsource⟩ := overlay_some hfits hf
  have hslice := Lib.length_slice hsource
  unfold OverlaySlice.copyTo
  exact ⟨(Lib.length_splice (by omega)).trans hbuffer, Lib.getD_splice (by omega)⟩

/-- **What a read shows**: the media where nothing is staged, the newest fragment elsewhere. -/
theorem overlayRead_eq {media : Nat → UInt8} {requestBegin n : Nat}
    (hfits : requestBegin + n < u64Modulus) {shown : Nat → UInt8}
    (hmedia : ∀ x, (∀ f ∈ s.fragments, f.byte x = none) → media x = shown x)
    (hstaged : ∀ x, ∀ f ∈ s.fragments, f.byte x ≠ none → ∃ g ∈ s.fragments,
      g.byte x = some (shown x) ∧ ∀ h ∈ s.fragments, h.byte x ≠ none →
        h.ordinal ≤ g.ordinal ∧ (h.ordinal = g.ordinal → h = g)) :
    s.overlayRead requestBegin (readAt media requestBegin n) = readAt shown requestBegin n := by
  refine List.ext_getElem ?_ fun i h₁ h₂ => ?_
  · by_cases hn : 0 < n
    · exact ((overlayRead_getD hfits hn).1).trans (Lib.length_readAt ..).symm
    · obtain rfl : n = 0 := by omega
      rfl
  · rw [Lib.length_readAt] at h₂
    obtain ⟨-, hbyte⟩ := @overlayRead_getD s media _ _ _ hfits h₂
    rw [← List.getD_eq_getElem _ 0, hbyte]
    have hshown : (readAt shown requestBegin n).getD i 0 = shown (requestBegin + i) := by
      simp [readAt, h₂]
    rw [← List.getD_eq_getElem _ 0, hshown]
    by_cases hnone : ∀ f ∈ s.fragments, f.byte (requestBegin + i) = none
    · rw [newest_eq_none.mpr, Option.getD_none]
      · exact hmedia _ hnone
      · intro o ho
        obtain ⟨f, hf, ho⟩ := mem_overlays.mp ho
        rw [← hnone f hf, ← overlay_byte hfits h₂, ho, Option.bind_some]
    · obtain ⟨f, hf, hfbyte⟩ : ∃ f ∈ s.fragments, f.byte (requestBegin + i) ≠ none := by
        simpa using hnone
      obtain ⟨g, hg, hgbyte, hmax⟩ := hstaged _ f hf hfbyte
      have hover := overlay_byte (f := g) hfits h₂
      rw [hgbyte] at hover
      obtain ⟨o, ho, hobyte⟩ := Option.bind_eq_some_iff.mp hover
      have hpart : ∀ p ∈ s.overlays requestBegin n, p.byte i ≠ none → p.ordinal ≤ o.ordinal ∧
          (p.ordinal = o.ordinal → p = o) := by
        intro p hp hpbyte
        obtain ⟨h, hh, hp⟩ := mem_overlays.mp hp
        have hhbyte := overlay_byte (f := h) hfits h₂
        rw [hp, Option.bind_some] at hhbyte
        obtain ⟨hle, heq⟩ := hmax h hh (hhbyte ▸ hpbyte)
        rw [(overlay_some hfits ho).1, (overlay_some hfits hp).1]
        refine ⟨hle, fun hord => ?_⟩
        rw [heq hord, ho] at hp
        exact (Option.some.inj hp).symm
      rw [newest_of_max (s.overlays_sorted requestBegin n) (mem_overlays.mpr ⟨g, hg, ho⟩) hobyte
        (fun p hp hpbyte => (hpart p hp hpbyte).1) fun p hp hpbyte hord => by
          rw [(hpart p hp hpbyte).2 hord]]
      rfl

/-! ## What is staged -/

/-- A fragment of the length it says, inside the disk, and of the same write as the others. -/
def Accepts (s : StagingStore) (op : WriteOp) (dataBuffer : Bytes) (diskSizeBytes : Nat) : Prop :=
  dataBuffer.length = op.dataLength ∧
    rangeFits op.offsetBytes op.dataLength diskSizeBytes = true ∧
    ∀ record, s.writes[op.eventId]? = some record →
      record.totalSeq = 0 ∨ record.totalSeq = op.totalSeq

theorem accepts_of_success {op : WriteOp} {dataBuffer : Bytes} {diskSizeBytes : Nat}
    (h : (s.stageWrite op dataBuffer diskSizeBytes).2 = statusSuccess) :
    s.Accepts op dataBuffer diskSizeBytes := by
  have hinvalid : statusInvalidParameter ≠ statusSuccess := by decide
  unfold stageWrite at h
  by_cases hlength : dataBuffer.length ≠ op.dataLength
  · rw [if_pos hlength] at h
    exact absurd h hinvalid
  · rw [if_neg hlength] at h
    by_cases hfits : rangeFits op.offsetBytes op.dataLength diskSizeBytes = true
    · rw [hfits, Bool.not_true, if_neg Bool.false_ne_true] at h
      refine ⟨not_not.mp hlength, hfits, fun record hrecord => ?_⟩
      by_contra hne
      rw [hrecord, Option.getD_some] at h
      rw [not_or] at hne
      dsimp only at h
      rw [if_pos hne] at h
      exact absurd h hinvalid
    · rw [if_pos (by simpa using hfits)] at h
      exact absurd h hinvalid

/-! ## What a commit leaves on the media -/

/-- The fragments that are staged for a write, in the order in which a commit writes them. -/
def fragmentsOf (s : StagingStore) (eventId : Nat) : List StagedFragment :=
  match s.writes[eventId]? with
  | none => []
  | some record => record.fragments.toList.map Prod.snd

theorem mem_fragmentsOf {eventId : Nat} {f : StagedFragment} :
    f ∈ s.fragmentsOf eventId ↔ ∃ seq, s.get eventId seq = some f := by
  unfold fragmentsOf get
  cases s.writes[eventId]? with
  | none => simp
  | some record =>
    simp only [List.mem_map, Prod.exists, Std.TreeMap.mem_toList_iff_getElem?_eq_some,
      Option.bind_some]
    exact ⟨fun ⟨seq, g, hg, hgf⟩ => ⟨seq, hgf ▸ hg⟩, fun ⟨seq, h⟩ => ⟨seq, f, h, rfl⟩⟩

theorem fragmentsOf_sorted {eventId : Nat}
    (hseq : ∀ seq f, s.get eventId seq = some f → f.seq = seq) :
    (s.fragmentsOf eventId).Pairwise fun f g => f.seq ≤ g.seq := by
  unfold fragmentsOf get at *
  cases h : s.writes[eventId]? with
  | none => exact List.Pairwise.nil
  | some record =>
    have hmem : ∀ p ∈ record.fragments.toList, p.2.seq = p.1 := by
      rintro ⟨seq, f⟩ hp
      exact hseq seq f (by rw [h]; exact Std.TreeMap.mem_toList_iff_getElem?_eq_some.mp hp)
    have hkeys := record.fragments.ordered_keys_toList
    refine List.pairwise_map.mpr (hkeys.imp_of_mem fun {p q} hp hq hlt => ?_)
    rw [hmem p hp, hmem q hq]
    exact (Nat.compare_eq_lt.mp hlt).le

section Commit

variable {eventId diskSizeBytes : Nat} {write : Nat → Option Nat}

/-- A commit leaves the bytes of the media that it has no fragment for. -/
theorem commitLoop_outside {x : Nat} (fragments : List StagedFragment) (i : Nat)
    (media : Nat → UInt8) (h : ∀ f ∈ fragments, f.byte x = none) :
    (commitLoop eventId diskSizeBytes write i fragments media).2.1 x = media x := by
  induction fragments generalizing i media with
  | nil => rfl
  | cons f rest ih =>
    have hf := h f List.mem_cons_self
    have hrest : ∀ g ∈ rest, g.byte x = none := fun g hg => h g (List.mem_cons_of_mem f hg)
    unfold commitLoop
    split
    · rfl
    · split
      · exact ih _ _ hrest
      · split
        · next n _ =>
          dsimp only
          rw [Lib.writeAt_apply, Lib.byteAt_take hf, Option.getD_none]
        · dsimp only
          rw [ih _ _ hrest, Lib.writeAt_apply]
          unfold StagedFragment.byte at hf
          rw [hf, Option.getD_none]

/-- **A commit that succeeds** leaves at every byte what the last of its fragments holds. -/
theorem commitLoop_media (x : Nat) (fragments : List StagedFragment) (i : Nat)
    (media : Nat → UInt8)
    (hok : (commitLoop eventId diskSizeBytes write i fragments media).1 = true) :
    (commitLoop eventId diskSizeBytes write i fragments media).2.1 x =
      (newest (fun f => f.byte x) fragments).getD (media x) := by
  induction fragments generalizing i media with
  | nil => rfl
  | cons f rest ih =>
    rw [Lib.newest_cons]
    have hempty : f.data = [] → f.byte x = none := by
      intro hdata
      unfold StagedFragment.byte byteAt
      simp [hdata]
    unfold commitLoop at hok ⊢
    split
    · next hfits => simp [hfits] at hok
    · next hfits =>
      rw [if_neg hfits] at hok
      split
      · next hdata =>
        rw [if_pos hdata] at hok
        rw [ih _ _ hok, hempty hdata, Option.or_none]
      · next hdata =>
        rw [if_neg hdata] at hok
        cases hw : write i with
        | some n =>
          rw [hw] at hok
          cases hok
        | none =>
          rw [hw] at hok
          dsimp only at hok ⊢
          rw [ih _ _ hok, Lib.writeAt_apply]
          cases newest (fun f => f.byte x) rest with
          | none => rfl
          | some v => rfl

/-- Every fragment of a write fits the disk, and every write of it to the media succeeds. -/
def Goes (s : StagingStore) (eventId diskSizeBytes : Nat) (write : Nat → Option Nat) : Prop :=
  ∀ i f, (s.fragmentsOf eventId)[i]? = some f →
    rangeFits f.diskOffsetBytes f.data.length diskSizeBytes = true ∧
      (f.data ≠ [] → write i = none)

/-- The loop gets to the end if and only if nothing stops it. -/
theorem commitLoop_goes (fragments : List StagedFragment) (i : Nat) (media : Nat → UInt8) :
    (commitLoop eventId diskSizeBytes write i fragments media).1 = true ↔
      ∀ j f, fragments[j]? = some f →
        rangeFits f.diskOffsetBytes f.data.length diskSizeBytes = true ∧
          (f.data ≠ [] → write (i + j) = none) := by
  induction fragments generalizing i media with
  | nil => exact ⟨fun _ _ _ hf => (by cases List.getElem?_nil.symm.trans hf), fun _ => rfl⟩
  | cons f rest ih =>
    -- the first fragment, and what the rest asks of the writes after it
    have hsplit : (∀ j g, (f :: rest)[j]? = some g →
        rangeFits g.diskOffsetBytes g.data.length diskSizeBytes = true ∧
          (g.data ≠ [] → write (i + j) = none)) ↔
        (rangeFits f.diskOffsetBytes f.data.length diskSizeBytes = true ∧
          (f.data ≠ [] → write i = none)) ∧
        ∀ media', (commitLoop eventId diskSizeBytes write (i + 1) rest media').1 = true := by
      constructor
      · intro hall
        refine ⟨hall 0 f rfl, fun media' => (ih _ _).mpr fun j g hg => ?_⟩
        have hgoes := hall (j + 1) g hg
        rwa [Nat.add_right_comm, Nat.add_assoc]
      · rintro ⟨hfirst, hrest⟩ j g hg
        cases j with
        | zero => exact Option.some.inj hg ▸ hfirst
        | succ j =>
          have hgoes := (ih (i + 1) media).mp (hrest media) j g hg
          rwa [Nat.add_right_comm, Nat.add_assoc] at hgoes
    have hany : ∀ media' media'',
        (commitLoop eventId diskSizeBytes write (i + 1) rest media').1 = true →
        (commitLoop eventId diskSizeBytes write (i + 1) rest media'').1 = true :=
      fun _ _ hok => (ih _ _).mpr ((ih _ _).mp hok)
    unfold commitLoop
    rw [hsplit]
    by_cases hfits : rangeFits f.diskOffsetBytes f.data.length diskSizeBytes = true
    · rw [hfits, Bool.not_true, if_neg Bool.false_ne_true]
      by_cases hdata : f.data = []
      · rw [if_pos hdata]
        exact ⟨fun hok => ⟨⟨rfl, fun hne => absurd hdata hne⟩, fun _ => hany _ _ hok⟩,
          fun h => h.2 _⟩
      · rw [if_neg hdata]
        cases hw : write i with
        | some n => exact ⟨(by rintro ⟨⟩), fun h => by cases h.1.2 hdata⟩
        | none => exact ⟨fun hok => ⟨⟨rfl, fun _ => rfl⟩, fun _ => hany _ _ hok⟩, fun h => h.2 _⟩
    · rw [Bool.not_eq_true] at hfits
      rw [hfits, Bool.not_false, if_pos rfl]
      exact ⟨(by rintro ⟨⟩), fun h => by cases h.1.1⟩

variable (s) (media : Nat → UInt8)

/-- **When a commit succeeds.** -/
theorem commit_goes : (s.commit eventId diskSizeBytes write media).1 = true ↔
    s.Goes eventId diskSizeBytes write := by
  unfold Goes fragmentsOf commit
  cases s.writes[eventId]? with
  | none => exact ⟨fun _ => nofun, fun _ => rfl⟩
  | some record =>
    have hgoes := @commitLoop_goes eventId diskSizeBytes write
      (record.fragments.toList.map Prod.snd) 0 media
    simp only [Nat.zero_add] at hgoes
    exact hgoes

/-- A commit that fails leaves the store. -/
theorem commit_store (hok : (s.commit eventId diskSizeBytes write media).1 = false) :
    (s.commit eventId diskSizeBytes write media).2.1 = s := by
  unfold commit at hok ⊢
  split at hok
  · rfl
  · dsimp only at hok ⊢
    rw [hok]
    rfl

theorem commit_nextOrdinal :
    (s.commit eventId diskSizeBytes write media).2.1.nextOrdinal = s.nextOrdinal := by
  unfold commit
  split
  · rfl
  · dsimp only
    split <;> rfl

theorem commit_outside {x : Nat} (h : ∀ f ∈ s.fragmentsOf eventId, f.byte x = none) :
    (s.commit eventId diskSizeBytes write media).2.2.1 x = media x := by
  unfold fragmentsOf at h
  unfold commit
  cases hw : s.writes[eventId]? with
  | none => rfl
  | some record =>
    rw [hw] at h
    exact commitLoop_outside _ 0 media h

theorem commit_media (hok : (s.commit eventId diskSizeBytes write media).1 = true) (x : Nat) :
    (s.commit eventId diskSizeBytes write media).2.2.1 x =
      (newest (fun f => f.byte x) (s.fragmentsOf eventId)).getD (media x) := by
  unfold fragmentsOf
  unfold commit at hok ⊢
  cases hw : s.writes[eventId]? with
  | none => rfl
  | some record =>
    rw [hw] at hok
    exact commitLoop_media x _ 0 media hok

end Commit

end StagingStore

end YumeDisk.Backend
