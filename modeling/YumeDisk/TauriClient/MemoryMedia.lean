import Mathlib.Data.List.GetD
import Mathlib.Logic.Function.Basic
import YumeDisk.Lib.Bytes

/-!
# Memory media (`tauri-client/src/backend/memory_media.rs`)

A medium in memory is one buffer, or pages that come into being when they are written.  What Rust
would panic at is a failure of its own.

* `DenseMemoryMedia`, `SparseMemoryMedia`: the two media and their calls.
* `content`: the bytes of a page map.
* `readLoop_eq`, `writeLoop_eq`: the loops over the pages read and write the content.
* `sparse_eq_dense`: **no call tells the two media apart, and none panics.**
-/

namespace YumeDisk.TauriClient.MemoryMedia

open Lib

/-- A call fails with an error, or panics. -/
inductive Failure
  | invalidParameter
  | panic
deriving DecidableEq, Repr

inductive DenseMemoryMediaError
  | sizeExceedsProcessLimit
  | allocationFailed
deriving DecidableEq, Repr

def u64Max : Nat := 2 ^ 64 - 1

def sparsePageBytes : Nat := 4096

/-! ## What panics -/

/-- `&xs[start..stop]`. -/
def sliceOf (xs : Bytes) (start stop : Nat) : Except Failure Bytes :=
  if start ≤ stop ∧ stop ≤ xs.length then return slice xs start (stop - start) else throw .panic

/-- `xs[start..stop].copy_from_slice(ys)`. -/
def copyFromSlice (xs : Bytes) (start stop : Nat) (ys : Bytes) : Except Failure Bytes :=
  if start ≤ stop ∧ stop ≤ xs.length ∧ ys.length = stop - start then return splice xs start ys
  else throw .panic

/-- `a + b` where `max` is the largest value. -/
def add (max a b : Nat) : Except Failure Unit := if a + b ≤ max then return else throw .panic

/-! ## The media -/

/-- `validate_range`; the length of a slice is always a `u64`. -/
def validateRange (sizeBytes offset dataLength : Nat) : Except Failure Unit :=
  if u64Max < offset + dataLength then throw .invalidParameter
  else if sizeBytes < offset + dataLength then throw .invalidParameter
  else return

structure DenseMemoryMedia where
  sizeBytes : Nat
  buffer : Bytes

namespace DenseMemoryMedia

/-- `DenseMemoryMedia::new`, with the largest `usize` and whether there is memory. -/
def new (usizeMax sizeBytes : Nat) (allocated : Bool) :
    Except DenseMemoryMediaError DenseMemoryMedia :=
  if usizeMax < sizeBytes then throw .sizeExceedsProcessLimit
  else if !allocated then throw .allocationFailed
  else return ⟨sizeBytes, List.replicate sizeBytes 0⟩

/-- The range of a request as `usize`. -/
def range (usizeMax offset length : Nat) : Except Failure (Nat × Nat) :=
  if usizeMax < offset then throw .invalidParameter
  else if usizeMax < offset + length then throw .invalidParameter
  else return (offset, offset + length)

/-- `read_locked`: the buffer of the caller, filled. -/
def readLocked (usizeMax : Nat) (m : DenseMemoryMedia) (offset : Nat) (buffer : Bytes) :
    Except Failure Bytes := do
  validateRange m.sizeBytes offset buffer.length
  let (start, stop) ← range usizeMax offset buffer.length
  let data ← sliceOf m.buffer start stop
  copyFromSlice buffer 0 buffer.length data

def writeLocked (usizeMax : Nat) (m : DenseMemoryMedia) (offset : Nat) (data : Bytes) :
    Except Failure DenseMemoryMedia := do
  validateRange m.sizeBytes offset data.length
  let (start, stop) ← range usizeMax offset data.length
  let buffer ← copyFromSlice m.buffer start stop data
  return { m with buffer }

end DenseMemoryMedia

/-- A page map. -/
abbrev Pages := Nat → Option Bytes

/-- How much of a page a turn of a loop handles. -/
def copyLength (currentOffset left : Nat) : Nat :=
  min (sparsePageBytes - currentOffset % sparsePageBytes) left

theorem copyLength_pos {currentOffset left : Nat} (h : 0 < left) :
    0 < copyLength currentOffset left := by
  have hlt := Nat.mod_lt currentOffset (show 0 < sparsePageBytes by decide)
  unfold copyLength
  omega

/-- The loop of `read_locked`; the buffer has `length` bytes. -/
def readLoop (usizeMax : Nat) (pages : Pages) (length currentOffset bufferOffset : Nat)
    (buffer : Bytes) : Except Failure Bytes :=
  if bufferOffset < length then do
    let pageIndex := currentOffset / sparsePageBytes
    let pageOffset := currentOffset % sparsePageBytes
    let copyLength := copyLength currentOffset (length - bufferOffset)
    let buffer ←
      match pages pageIndex with
      | some page => do
        let piece ← sliceOf page pageOffset (pageOffset + copyLength)
        copyFromSlice buffer bufferOffset (bufferOffset + copyLength) piece
      | none => pure buffer
    add u64Max currentOffset copyLength
    add usizeMax bufferOffset copyLength
    readLoop usizeMax pages length (currentOffset + copyLength) (bufferOffset + copyLength) buffer
  else
    return buffer
termination_by length - bufferOffset
decreasing_by
  have hpos : 0 < length - bufferOffset → 0 < MemoryMedia.copyLength currentOffset _ :=
    copyLength_pos
  omega

/-- The loop of `write_locked`. -/
def writeLoop (usizeMax : Nat) (data : Bytes) (currentOffset dataOffset : Nat) (pages : Pages) :
    Except Failure Pages :=
  if dataOffset < data.length then do
    let pageIndex := currentOffset / sparsePageBytes
    let pageOffset := currentOffset % sparsePageBytes
    let copyLength := copyLength currentOffset (data.length - dataOffset)
    let page := (pages pageIndex).getD (List.replicate sparsePageBytes 0)
    let piece ← sliceOf data dataOffset (dataOffset + copyLength)
    let page ← copyFromSlice page pageOffset (pageOffset + copyLength) piece
    add u64Max currentOffset copyLength
    add usizeMax dataOffset copyLength
    writeLoop usizeMax data (currentOffset + copyLength) (dataOffset + copyLength)
      (Function.update pages pageIndex (some page))
  else
    return pages
termination_by data.length - dataOffset
decreasing_by
  have hpos : 0 < data.length - dataOffset → 0 < MemoryMedia.copyLength currentOffset _ :=
    copyLength_pos
  omega

structure SparseMemoryMedia where
  sizeBytes : Nat
  pages : Pages

namespace SparseMemoryMedia

def new (sizeBytes : Nat) : SparseMemoryMedia := ⟨sizeBytes, fun _ => none⟩

def readLocked (usizeMax : Nat) (m : SparseMemoryMedia) (offset : Nat) (buffer : Bytes) :
    Except Failure Bytes := do
  validateRange m.sizeBytes offset buffer.length
  readLoop usizeMax m.pages buffer.length offset 0 (List.replicate buffer.length 0)

def writeLocked (usizeMax : Nat) (m : SparseMemoryMedia) (offset : Nat) (data : Bytes) :
    Except Failure SparseMemoryMedia := do
  validateRange m.sizeBytes offset data.length
  let pages ← writeLoop usizeMax data offset 0 m.pages
  return { m with pages }

end SparseMemoryMedia

/-! ## The content of a page map -/

/-- The byte at an offset; where there is no page it is zero. -/
def content (pages : Pages) (a : Nat) : UInt8 :=
  match pages (a / sparsePageBytes) with
  | some page => page.getD (a % sparsePageBytes) 0
  | none => 0

/-- Every page has the length of a page. -/
def WholePages (pages : Pages) : Prop := ∀ i page, pages i = some page → page.length = sparsePageBytes

variable {pages : Pages} {o len : Nat}

theorem div_mod_add {i : Nat} (h : o % sparsePageBytes + i < sparsePageBytes) :
    (o + i) / sparsePageBytes = o / sparsePageBytes ∧
      (o + i) % sparsePageBytes = o % sparsePageBytes + i := by
  unfold sparsePageBytes at h ⊢
  omega

/-- A range inside a page is a part of the page. -/
theorem readAt_page {page : Bytes} (hpage : pages (o / sparsePageBytes) = some page)
    (hlen : page.length = sparsePageBytes) (h : o % sparsePageBytes + len ≤ sparsePageBytes) :
    readAt (content pages) o len = slice page (o % sparsePageBytes) len := by
  apply List.ext_getElem
  · rw [length_readAt, length_slice (by omega)]
  · intro i h₁ h₂
    rw [length_readAt] at h₁
    obtain ⟨hdiv, hmod⟩ := div_mod_add (o := o) (i := i) (by omega)
    simp only [readAt, List.getElem_map, List.getElem_range, content, hdiv, hpage, hmod, slice,
      List.getElem_take, List.getElem_drop]
    exact List.getD_eq_getElem _ _ _

theorem readAt_noPage (hpage : pages (o / sparsePageBytes) = none)
    (h : o % sparsePageBytes + len ≤ sparsePageBytes) :
    readAt (content pages) o len = List.replicate len 0 := by
  apply List.ext_getElem
  · rw [length_readAt, List.length_replicate]
  · intro i h₁ h₂
    rw [length_readAt] at h₁
    obtain ⟨hdiv, -⟩ := div_mod_add (o := o) (i := i) (by omega)
    simp only [readAt, List.getElem_map, List.getElem_range, content, hdiv, hpage,
      List.getElem_replicate]

theorem getD_splice {xs ys : Bytes} {off : Nat} (h : off + ys.length ≤ xs.length) (i : Nat) :
    (splice xs off ys).getD i 0 =
      if off ≤ i ∧ i < off + ys.length then ys.getD (i - off) 0 else xs.getD i 0 := by
  have htake : (xs.take off).length = off := by rw [List.length_take]; omega
  have hfront : (xs.take off ++ ys).length = off + ys.length := by
    rw [List.length_append, htake]
  unfold splice
  by_cases hi : i < off + ys.length
  · rw [List.getD_append _ _ _ _ (by omega)]
    by_cases hoff : off ≤ i
    · rw [if_pos ⟨hoff, hi⟩, List.getD_append_right _ _ _ _ (by omega), htake]
    · rw [if_neg (by omega), List.getD_append _ _ _ _ (by omega)]
      simp only [List.getD_eq_getElem?_getD, List.getElem?_take]
      rw [if_pos (by omega)]
  · rw [if_neg (by omega), List.getD_append_right _ _ _ _ (by omega), hfront]
    simp only [List.getD_eq_getElem?_getD, List.getElem?_drop]
    congr 2
    omega

/-- The page that a write goes to. -/
def pageOf (pages : Pages) (i : Nat) : Bytes :=
  (pages i).getD (List.replicate sparsePageBytes 0)

theorem length_pageOf (h : WholePages pages) (i : Nat) :
    (pageOf pages i).length = sparsePageBytes := by
  unfold pageOf
  cases hpage : pages i with
  | none => exact List.length_replicate
  | some page => exact h i page hpage

theorem content_eq (pages : Pages) (a : Nat) :
    content pages a = (pageOf pages (a / sparsePageBytes)).getD (a % sparsePageBytes) 0 := by
  unfold content pageOf
  cases pages (a / sparsePageBytes) with
  | none =>
    rw [Option.getD_none, List.getD_eq_getElem?_getD, List.getElem?_replicate]
    split_ifs <;> rfl
  | some page => rfl

/-- A write inside a page changes that range. -/
theorem content_update (h : WholePages pages) {xs : Bytes}
    (hfit : o % sparsePageBytes + xs.length ≤ sparsePageBytes) :
    content (Function.update pages (o / sparsePageBytes)
      (some (splice (pageOf pages (o / sparsePageBytes)) (o % sparsePageBytes) xs))) =
        writeAt (content pages) o xs := by
  have hlen := length_pageOf h (o / sparsePageBytes)
  funext a
  by_cases hpage : a / sparsePageBytes = o / sparsePageBytes
  · have hiff : (o % sparsePageBytes ≤ a % sparsePageBytes ∧
        a % sparsePageBytes < o % sparsePageBytes + xs.length) ↔ (o ≤ a ∧ a < o + xs.length) := by
      unfold sparsePageBytes at hpage ⊢
      omega
    rw [content, hpage, Function.update_self]
    dsimp only
    rw [getD_splice (by omega), writeAt]
    by_cases hin : o ≤ a ∧ a < o + xs.length
    · have hsub : a % sparsePageBytes - o % sparsePageBytes = a - o := by
        unfold sparsePageBytes at hpage ⊢
        omega
      rw [if_pos (hiff.2 hin), if_pos hin, hsub]
    · rw [if_neg (mt hiff.1 hin), if_neg hin, content_eq, hpage]
  · have hout : ¬(o ≤ a ∧ a < o + xs.length) := by
      rintro ⟨hle, hlt⟩
      obtain ⟨i, rfl⟩ := Nat.le.dest hle
      exact hpage (div_mod_add (by omega)).1
    rw [content, Function.update_of_ne hpage, writeAt, if_neg hout]
    rfl

theorem WholePages.update (h : WholePages pages) {xs : Bytes} {i off : Nat}
    (hfit : off + xs.length ≤ sparsePageBytes) :
    WholePages (Function.update pages i (some (splice (pageOf pages i) off xs))) := by
  intro j page hj
  by_cases hji : j = i
  · subst hji
    rw [Function.update_self] at hj
    rw [← Option.some.inj hj, length_splice (by rw [length_pageOf h]; omega), length_pageOf h]
  · rw [Function.update_of_ne hji] at hj
    exact h j page hj

/-! ## The loops -/

theorem sliceOf_ok (xs : Bytes) {off len : Nat} (h : off + len ≤ xs.length) :
    sliceOf xs off (off + len) = .ok (slice xs off len) := by
  rw [sliceOf, if_pos ⟨by omega, h⟩, Nat.add_sub_cancel_left]
  rfl

theorem copyFromSlice_ok (xs : Bytes) {ys : Bytes} {off len : Nat} (hlen : ys.length = len)
    (h : off + len ≤ xs.length) : copyFromSlice xs off (off + len) ys = .ok (splice xs off ys) := by
  rw [copyFromSlice, if_pos ⟨by omega, h, by omega⟩]
  rfl

theorem add_ok {max a b : Nat} (h : a + b ≤ max) : add max a b = .ok () := if_pos h

theorem take_splice {xs ys : Bytes} {off : Nat} (h : off + ys.length ≤ xs.length) :
    (splice xs off ys).take (off + ys.length) = xs.take off ++ ys := by
  have hfront : (xs.take off ++ ys).length = off + ys.length := by
    rw [List.length_append, List.length_take]
    omega
  rw [splice, ← hfront, List.take_left]

theorem drop_splice {xs ys : Bytes} {off : Nat} (h : off + ys.length ≤ xs.length) :
    (splice xs off ys).drop (off + ys.length) = xs.drop (off + ys.length) := by
  have hfront : (xs.take off ++ ys).length = off + ys.length := by
    rw [List.length_append, List.length_take]
    omega
  rw [splice, ← hfront, List.drop_left]

theorem copyLength_le (currentOffset left : Nat) : copyLength currentOffset left ≤ left :=
  Nat.min_le_right ..

theorem copyLength_fits (currentOffset left : Nat) :
    currentOffset % sparsePageBytes + copyLength currentOffset left ≤ sparsePageBytes := by
  have hlt := Nat.mod_lt currentOffset (show 0 < sparsePageBytes by decide)
  unfold copyLength
  omega

/-- A turn of the loop of a read. -/
theorem readLoop_turn {usizeMax length co bo : Nat} {buffer : Bytes} (hpages : WholePages pages)
    (hlength : buffer.length = length) (husize : length ≤ usizeMax) (hlt : bo < length)
    (hend : co + (length - bo) ≤ u64Max)
    (hzero : buffer.drop bo = List.replicate (length - bo) 0) :
    ∃ buffer', readLoop usizeMax pages length co bo buffer =
        readLoop usizeMax pages length (co + copyLength co (length - bo))
          (bo + copyLength co (length - bo)) buffer' ∧
      buffer'.length = length ∧
      buffer'.take (bo + copyLength co (length - bo)) =
        buffer.take bo ++ readAt (content pages) co (copyLength co (length - bo)) ∧
      buffer'.drop (bo + copyLength co (length - bo)) =
        buffer.drop (bo + copyLength co (length - bo)) := by
  have hle := copyLength_le co (length - bo)
  have hfits := copyLength_fits co (length - bo)
  have hcurrent : add u64Max co (copyLength co (length - bo)) = .ok () := add_ok (by omega)
  have hbuffer : add usizeMax bo (copyLength co (length - bo)) = .ok () := add_ok (by omega)
  cases hpage : pages (co / sparsePageBytes) with
  | some page =>
    have hlen := hpages _ page hpage
    have hpiece : (slice page (co % sparsePageBytes) (copyLength co (length - bo))).length =
        copyLength co (length - bo) := length_slice (by omega)
    have hslice := sliceOf_ok page (show co % sparsePageBytes + copyLength co (length - bo) ≤
      page.length by omega)
    have hcopy := copyFromSlice_ok buffer hpiece (show bo + copyLength co (length - bo) ≤
      buffer.length by omega)
    have hread := readAt_page hpage hlen hfits
    generalize slice page (co % sparsePageBytes) (copyLength co (length - bo)) = piece at *
    refine ⟨splice buffer bo piece, ?_, ?_, ?_, ?_⟩
    · rw [readLoop, if_pos hlt]
      dsimp only
      rw [hpage]
      dsimp only
      rw [hslice]
      show (copyFromSlice _ _ _ _ >>= _) = _
      rw [hcopy]
      show (add _ _ _ >>= _) = _
      rw [hcurrent]
      show (add _ _ _ >>= _) = _
      rw [hbuffer]
      rfl
    · rw [length_splice (by omega), hlength]
    · rw [hread, ← hpiece, take_splice (by omega)]
    · rw [← hpiece, drop_splice (by omega)]
  | none =>
    refine ⟨buffer, ?_, hlength, ?_, rfl⟩
    · rw [readLoop, if_pos hlt]
      dsimp only
      rw [hpage]
      show (add _ _ _ >>= _) = _
      rw [hcurrent]
      show (add _ _ _ >>= _) = _
      rw [hbuffer]
      rfl
    · rw [readAt_noPage hpage hfits, List.take_add, hzero, List.take_replicate,
        Nat.min_eq_left hle]

/-- **The loop of a read** fills the rest of the buffer from the content. -/
theorem readLoop_eq {usizeMax length : Nat} (hpages : WholePages pages)
    (husize : length ≤ usizeMax) {co bo : Nat} {buffer : Bytes} (hlength : buffer.length = length)
    (hbo : bo ≤ length) (hend : co + (length - bo) ≤ u64Max)
    (hzero : buffer.drop bo = List.replicate (length - bo) 0) :
    readLoop usizeMax pages length co bo buffer =
      .ok (buffer.take bo ++ readAt (content pages) co (length - bo)) := by
  induction hn : length - bo using Nat.strong_induction_on generalizing co bo buffer with
  | _ n ih =>
  subst hn
  by_cases hlt : bo < length
  · obtain ⟨buffer', hturn, hlength', htake, hdrop⟩ :=
      readLoop_turn hpages hlength husize hlt hend hzero
    have hle := copyLength_le co (length - bo)
    have hpos : 0 < copyLength co (length - bo) := copyLength_pos (by omega)
    rw [hturn, ih _ (by omega) hlength' (by omega) (by omega) ?_ rfl, htake, List.append_assoc,
      ← readAt_add]
    · congr 3
      omega
    · rw [hdrop, ← List.drop_drop, hzero, List.drop_replicate]
      congr 1
      omega
  · rw [readLoop, if_neg hlt, show length - bo = 0 by omega, show bo = buffer.length by omega,
      List.take_length]
    exact congrArg Except.ok (List.append_nil buffer).symm

/-- A turn of the loop of a write. -/
theorem writeLoop_turn {usizeMax co dataOffset : Nat} {data : Bytes} (hpages : WholePages pages)
    (husize : data.length ≤ usizeMax) (hlt : dataOffset < data.length)
    (hend : co + (data.length - dataOffset) ≤ u64Max) :
    ∃ pages', writeLoop usizeMax data co dataOffset pages =
        writeLoop usizeMax data (co + copyLength co (data.length - dataOffset))
          (dataOffset + copyLength co (data.length - dataOffset)) pages' ∧
      WholePages pages' ∧
      content pages' = writeAt (content pages) co
        (slice data dataOffset (copyLength co (data.length - dataOffset))) := by
  have hle := copyLength_le co (data.length - dataOffset)
  have hfits := copyLength_fits co (data.length - dataOffset)
  have hpage := length_pageOf hpages (co / sparsePageBytes)
  have hcurrent : add u64Max co (copyLength co (data.length - dataOffset)) = .ok () :=
    add_ok (by omega)
  have hdata : add usizeMax dataOffset (copyLength co (data.length - dataOffset)) = .ok () :=
    add_ok (by omega)
  have hslice := sliceOf_ok data (show dataOffset + copyLength co (data.length - dataOffset) ≤
    data.length by omega)
  have hpiece : (slice data dataOffset (copyLength co (data.length - dataOffset))).length =
      copyLength co (data.length - dataOffset) := length_slice (by omega)
  have hcopy := copyFromSlice_ok (pageOf pages (co / sparsePageBytes)) hpiece
    (show co % sparsePageBytes + _ ≤ _ by omega)
  refine ⟨_, ?_, hpages.update (by omega), content_update hpages (by omega)⟩
  rw [writeLoop, if_pos hlt]
  dsimp only
  rw [hslice]
  show (copyFromSlice (pageOf pages _) _ _ _ >>= _) = _
  rw [hcopy]
  show (add _ _ _ >>= _) = _
  rw [hcurrent]
  show (add _ _ _ >>= _) = _
  rw [hdata]
  rfl

/-- **The loop of a write** writes the rest of the data to the content. -/
theorem writeLoop_eq {usizeMax : Nat} {data : Bytes} (husize : data.length ≤ usizeMax)
    {pages : Pages} (hpages : WholePages pages) {co dataOffset : Nat}
    (hoffset : dataOffset ≤ data.length) (hend : co + (data.length - dataOffset) ≤ u64Max) :
    ∃ pages', writeLoop usizeMax data co dataOffset pages = .ok pages' ∧ WholePages pages' ∧
      content pages' = writeAt (content pages) co (data.drop dataOffset) := by
  induction hn : data.length - dataOffset using Nat.strong_induction_on
    generalizing co dataOffset pages with
  | _ n ih =>
  subst hn
  by_cases hlt : dataOffset < data.length
  · obtain ⟨pages₁, hturn, hpages₁, hcontent₁⟩ := writeLoop_turn hpages husize hlt hend
    have hle := copyLength_le co (data.length - dataOffset)
    have hpos : 0 < copyLength co (data.length - dataOffset) := copyLength_pos (by omega)
    generalize copyLength co (data.length - dataOffset) = copied at *
    have hpiece : (slice data dataOffset copied).length = copied := length_slice (by omega)
    have hsmaller : data.length - (dataOffset + copied) < data.length - dataOffset := by omega
    have hoffset' : dataOffset + copied ≤ data.length := by omega
    have hend' : co + copied + (data.length - (dataOffset + copied)) ≤ u64Max := by omega
    obtain ⟨pages₂, hrest, hpages₂, hcontent₂⟩ := ih _ hsmaller hpages₁ hoffset' hend' rfl
    refine ⟨pages₂, hturn.trans hrest, hpages₂, ?_⟩
    have hjoin : slice data dataOffset copied ++ data.drop (dataOffset + copied) =
        data.drop dataOffset := by
      rw [slice, ← List.drop_drop, List.take_append_drop]
    have happend := writeAt_append (content pages) co (slice data dataOffset copied)
      (data.drop (dataOffset + copied))
    rw [hpiece, hjoin] at happend
    rw [hcontent₂, hcontent₁, happend]
  · refine ⟨pages, ?_, hpages, ?_⟩
    · rw [writeLoop, if_neg hlt]
      rfl
    · rw [List.drop_eq_nil_of_le (by omega), writeAt_nil]

/-! ## The two media -/

/-- A call; the length of a slice is a `usize`. -/
inductive Call
  | read (offset : UInt64) (buffer : Bytes)
  | write (offset : UInt64) (data : Bytes)

def Call.length : Call → Nat
  | read _ buffer => buffer.length
  | write _ data => data.length

/-- The result of a call, with the bytes that were read, and the medium after it. -/
def DenseMemoryMedia.call (usizeMax : Nat) (m : DenseMemoryMedia) :
    Call → Except Failure Bytes × DenseMemoryMedia
  | .read offset buffer => (m.readLocked usizeMax offset.toNat buffer, m)
  | .write offset data =>
    match m.writeLocked usizeMax offset.toNat data with
    | .ok m' => (.ok [], m')
    | .error e => (.error e, m)

def SparseMemoryMedia.call (usizeMax : Nat) (m : SparseMemoryMedia) :
    Call → Except Failure Bytes × SparseMemoryMedia
  | .read offset buffer => (m.readLocked usizeMax offset.toNat buffer, m)
  | .write offset data =>
    match m.writeLocked usizeMax offset.toNat data with
    | .ok m' => (.ok [], m')
    | .error e => (.error e, m)

/-- The results of a sequence of calls. -/
def results {σ : Type} (call : σ → Call → Except Failure Bytes × σ) :
    σ → List Call → List (Except Failure Bytes)
  | _, [] => []
  | m, c :: cs => (call m c).1 :: results call (call m c).2 cs

/-- The two media have the same bytes. -/
structure Same (usizeMax : Nat) (s : SparseMemoryMedia) (d : DenseMemoryMedia) : Prop where
  size : s.sizeBytes = d.sizeBytes
  fits : d.sizeBytes ≤ usizeMax
  pages : WholePages s.pages
  length : d.buffer.length = d.sizeBytes
  bytes : ∀ a < d.sizeBytes, content s.pages a = d.buffer.getD a 0

theorem validateRange_cases (sizeBytes offset dataLength : Nat) :
    validateRange sizeBytes offset dataLength = .error .invalidParameter ∨
      validateRange sizeBytes offset dataLength = .ok () ∧ offset + dataLength ≤ sizeBytes ∧
        offset + dataLength ≤ u64Max := by
  unfold validateRange
  split_ifs with hover hend
  · exact .inl rfl
  · exact .inl rfl
  · exact .inr ⟨rfl, by omega, by omega⟩

/-- A read of the pages: the content, if the range is good. -/
theorem SparseMemoryMedia.readLocked_cases {usizeMax : Nat} {s : SparseMemoryMedia}
    (hpages : WholePages s.pages) (offset : Nat) {buffer : Bytes}
    (hbuffer : buffer.length ≤ usizeMax) :
    (validateRange s.sizeBytes offset buffer.length = .error .invalidParameter ∧
      s.readLocked usizeMax offset buffer = .error .invalidParameter) ∨
    (validateRange s.sizeBytes offset buffer.length = .ok () ∧
      s.readLocked usizeMax offset buffer =
        .ok (readAt (content s.pages) offset buffer.length)) := by
  rcases validateRange_cases s.sizeBytes offset buffer.length with hbad | ⟨hok, hend, hmax⟩
  · refine .inl ⟨hbad, ?_⟩
    rw [SparseMemoryMedia.readLocked, hbad]
    rfl
  · refine .inr ⟨hok, ?_⟩
    rw [SparseMemoryMedia.readLocked, hok]
    show readLoop _ _ _ _ _ _ = _
    rw [readLoop_eq hpages hbuffer List.length_replicate (Nat.zero_le _) hmax rfl, Nat.sub_zero]
    rfl

/-- A write to the pages: it changes the content, if the range is good. -/
theorem SparseMemoryMedia.writeLocked_cases {usizeMax : Nat} {s : SparseMemoryMedia}
    (hpages : WholePages s.pages) (offset : Nat) {data : Bytes} (hdata : data.length ≤ usizeMax) :
    (validateRange s.sizeBytes offset data.length = .error .invalidParameter ∧
      s.writeLocked usizeMax offset data = .error .invalidParameter) ∨
    (validateRange s.sizeBytes offset data.length = .ok () ∧ ∃ pages,
      s.writeLocked usizeMax offset data = .ok { s with pages } ∧ WholePages pages ∧
        content pages = writeAt (content s.pages) offset data) := by
  rcases validateRange_cases s.sizeBytes offset data.length with hbad | ⟨hok, hend, hmax⟩
  · refine .inl ⟨hbad, ?_⟩
    rw [SparseMemoryMedia.writeLocked, hbad]
    rfl
  · refine .inr ⟨hok, ?_⟩
    obtain ⟨pages, hloop, hpages', hcontent⟩ :=
      writeLoop_eq hdata hpages (Nat.zero_le _) (show offset + (data.length - 0) ≤ _ from hmax)
    rw [List.drop_zero] at hcontent
    refine ⟨pages, ?_, hpages', hcontent⟩
    rw [SparseMemoryMedia.writeLocked, hok]
    show (writeLoop _ _ _ _ _ >>= _) = _
    rw [hloop]
    rfl

/-- A call of the pages does not panic. -/
theorem SparseMemoryMedia.call_ok {usizeMax : Nat} {s : SparseMemoryMedia}
    (hpages : WholePages s.pages) {c : Call} (hc : c.length ≤ usizeMax) :
    (s.call usizeMax c).1 ≠ .error .panic ∧ WholePages (s.call usizeMax c).2.pages := by
  cases c with
  | read offset buffer =>
    refine ⟨?_, hpages⟩
    rcases readLocked_cases hpages offset.toNat hc with ⟨-, hs⟩ | ⟨-, hs⟩ <;>
      simp only [call, hs] <;> nofun
  | write offset data =>
    rcases writeLocked_cases hpages offset.toNat hc with ⟨-, hs⟩ | ⟨-, pages, hs, hpages', -⟩ <;>
      simp only [call, hs]
    · exact ⟨nofun, hpages⟩
    · exact ⟨nofun, hpages'⟩

theorem range_ok {usizeMax offset length : Nat} (h : offset + length ≤ usizeMax) :
    DenseMemoryMedia.range usizeMax offset length = .ok (offset, offset + length) := by
  rw [DenseMemoryMedia.range, if_neg (by omega), if_neg (by omega)]
  rfl

variable {usizeMax : Nat} {s : SparseMemoryMedia} {d : DenseMemoryMedia}

/-- The bytes of a range. -/
theorem Same.readAt (h : Same usizeMax s d) {offset length : Nat}
    (hend : offset + length ≤ d.sizeBytes) :
    Lib.readAt (content s.pages) offset length = slice d.buffer offset length := by
  have hlen := h.length
  apply List.ext_getElem
  · rw [length_readAt, length_slice (by omega)]
  · intro i h₁ h₂
    rw [length_readAt] at h₁
    simp only [Lib.readAt, List.getElem_map, List.getElem_range, slice, List.getElem_take,
      List.getElem_drop]
    rw [h.bytes _ (by omega), List.getD_eq_getElem _ _ (by omega)]

/-- **A read** returns the same from both. -/
theorem Same.read (h : Same usizeMax s d) (offset : Nat) {buffer : Bytes}
    (hbuffer : buffer.length ≤ usizeMax) :
    s.readLocked usizeMax offset buffer = d.readLocked usizeMax offset buffer := by
  have hsparse := SparseMemoryMedia.readLocked_cases h.pages offset hbuffer
  rw [h.size] at hsparse
  rcases validateRange_cases d.sizeBytes offset buffer.length with hbad | ⟨hok, hend, hmax⟩
  · rw [DenseMemoryMedia.readLocked, hbad]
    rcases hsparse with ⟨-, hs⟩ | ⟨hok, -⟩
    · exact hs
    · rw [hbad] at hok
      cases hok
  · have hfits := h.fits
    have hlen := h.length
    have hpiece : (slice d.buffer offset buffer.length).length = buffer.length :=
      length_slice (by omega)
    have hdense : d.readLocked usizeMax offset buffer =
        .ok (slice d.buffer offset buffer.length) := by
      have hcopy := copyFromSlice_ok buffer hpiece (show 0 + buffer.length ≤ _ by omega)
      rw [Nat.zero_add, splice, List.take_zero, hpiece, Nat.zero_add, List.drop_length,
        List.append_nil, List.nil_append] at hcopy
      rw [DenseMemoryMedia.readLocked, hok]
      show (DenseMemoryMedia.range _ _ _ >>= _) = _
      rw [range_ok (by omega)]
      show (sliceOf d.buffer offset (offset + buffer.length) >>= _) = _
      rw [sliceOf_ok d.buffer (by omega)]
      exact hcopy
    rcases hsparse with ⟨hbad, -⟩ | ⟨-, hs⟩
    · rw [hok] at hbad
      cases hbad
    · rw [hs, hdense, h.readAt hend]

/-- **A write** goes through on both, or on neither. -/
theorem Same.write (h : Same usizeMax s d) (offset : Nat) {data : Bytes}
    (hdata : data.length ≤ usizeMax) :
    (s.writeLocked usizeMax offset data = .error .invalidParameter ∧
      d.writeLocked usizeMax offset data = .error .invalidParameter) ∨
    ∃ s' d', s.writeLocked usizeMax offset data = .ok s' ∧
      d.writeLocked usizeMax offset data = .ok d' ∧ Same usizeMax s' d' := by
  have hsparse := SparseMemoryMedia.writeLocked_cases h.pages offset hdata
  rw [h.size] at hsparse
  rcases hsparse with ⟨hbad, hs⟩ | ⟨hok, pages, hs, hpages, hcontent⟩
  · refine .inl ⟨hs, ?_⟩
    rw [DenseMemoryMedia.writeLocked, hbad]
    rfl
  · have hfits := h.fits
    have hlen := h.length
    have hend : offset + data.length ≤ d.sizeBytes := by
      rcases validateRange_cases d.sizeBytes offset data.length with hbad | ⟨-, hend, -⟩
      · rw [hok] at hbad
        cases hbad
      · exact hend
    refine .inr ⟨⟨d.sizeBytes, pages⟩, { d with buffer := splice d.buffer offset data }, hs, ?_,
      rfl, hfits, hpages, ?_, fun a ha => ?_⟩
    · rw [DenseMemoryMedia.writeLocked, hok]
      show (DenseMemoryMedia.range _ _ _ >>= _) = _
      rw [range_ok (by omega)]
      show (copyFromSlice d.buffer offset (offset + data.length) data >>= _) = _
      rw [copyFromSlice_ok d.buffer rfl (by omega)]
      rfl
    · rw [length_splice (by omega), hlen]
    · show content pages a = (splice d.buffer offset data).getD a 0
      rw [hcontent, getD_splice (by omega), writeAt, h.bytes a ha]

/-- One call. -/
theorem Same.call (h : Same usizeMax s d) {c : Call} (hc : c.length ≤ usizeMax) :
    (s.call usizeMax c).1 = (d.call usizeMax c).1 ∧
      Same usizeMax (s.call usizeMax c).2 (d.call usizeMax c).2 := by
  cases c with
  | read offset buffer => exact ⟨h.read offset.toNat hc, h⟩
  | write offset data =>
    rcases h.write offset.toNat hc with ⟨hs, hd⟩ | ⟨s', d', hs, hd, h'⟩
    · simpa only [SparseMemoryMedia.call, DenseMemoryMedia.call, hs, hd, true_and] using h
    · simpa only [SparseMemoryMedia.call, DenseMemoryMedia.call, hs, hd, true_and] using h'

theorem same_new {sizeBytes : Nat} {allocated : Bool}
    (h : DenseMemoryMedia.new usizeMax sizeBytes allocated = .ok d) :
    Same usizeMax (.new sizeBytes) d := by
  unfold DenseMemoryMedia.new at h
  split_ifs at h with hsize
  all_goals cases h
  refine ⟨rfl, Nat.le_of_not_lt hsize, nofun, List.length_replicate, fun a ha => ?_⟩
  show (0 : UInt8) = (List.replicate sizeBytes 0).getD a 0
  rw [List.getD_eq_getElem?_getD, List.getElem?_replicate]
  split_ifs <;> rfl

theorem wholePages_new (sizeBytes : Nat) : WholePages (SparseMemoryMedia.new sizeBytes).pages :=
  fun _ _ hpage => nomatch (hpage : none = some _)

theorem results_ok {s : SparseMemoryMedia} (hpages : WholePages s.pages) {calls : List Call}
    (hcalls : ∀ c ∈ calls, c.length ≤ usizeMax) :
    ∀ r ∈ results (SparseMemoryMedia.call usizeMax) s calls, r ≠ .error .panic := by
  induction calls generalizing s with
  | nil => nofun
  | cons c cs ih =>
    obtain ⟨hpanic, hpages'⟩ := SparseMemoryMedia.call_ok hpages (hcalls c List.mem_cons_self)
    rw [results, List.forall_mem_cons]
    exact ⟨hpanic, ih hpages' fun c' hc' => hcalls c' (List.mem_cons_of_mem _ hc')⟩

theorem Same.results (h : Same usizeMax s d) {calls : List Call}
    (hcalls : ∀ c ∈ calls, c.length ≤ usizeMax) :
    MemoryMedia.results (SparseMemoryMedia.call usizeMax) s calls =
      MemoryMedia.results (DenseMemoryMedia.call usizeMax) d calls := by
  induction calls generalizing s d with
  | nil => rfl
  | cons c cs ih =>
    obtain ⟨heq, hsame⟩ := h.call (hcalls c List.mem_cons_self)
    rw [MemoryMedia.results, MemoryMedia.results, heq,
      ih hsame fun c' hc' => hcalls c' (List.mem_cons_of_mem _ hc')]

/-- **No sequence of calls tells the two media apart**, and none panics; `usizeMax` is the largest
`usize`, which bounds the length of a slice. -/
theorem sparse_eq_dense (usizeMax : Nat) (sizeBytes : UInt64) (calls : List Call)
    (hcalls : ∀ c ∈ calls, c.length ≤ usizeMax) :
    (∀ r ∈ results (SparseMemoryMedia.call usizeMax) (.new sizeBytes.toNat) calls,
      r ≠ .error .panic) ∧
    ∀ allocated d, DenseMemoryMedia.new usizeMax sizeBytes.toNat allocated = .ok d →
      results (SparseMemoryMedia.call usizeMax) (.new sizeBytes.toNat) calls =
        results (DenseMemoryMedia.call usizeMax) d calls :=
  ⟨results_ok (wholePages_new _) hcalls, fun _ _ hnew => (same_new hnew).results hcalls⟩

/-- A write over the end of a page, a read of it, and a read over the end of the medium. -/
theorem sparse_eq_dense_straddling :
    let calls := [Call.write 4095 [1, 2], .read 4094 [0, 0, 0, 0], .read 5000 [0]]
    (∀ r ∈ results (SparseMemoryMedia.call u64Max) (.new 5000) calls, r ≠ .error .panic) ∧
      ∀ allocated d, DenseMemoryMedia.new u64Max 5000 allocated = .ok d →
        results (SparseMemoryMedia.call u64Max) (.new 5000) calls =
          results (DenseMemoryMedia.call u64Max) d calls :=
  sparse_eq_dense u64Max 5000 [.write 4095 [1, 2], .read 4094 [0, 0, 0, 0], .read 5000 [0]]
    (by decide)

end YumeDisk.TauriClient.MemoryMedia
