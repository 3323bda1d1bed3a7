import YumeDisk.Cache.Resident

/-!
# Requests cut into blocks (`block/mod.rs`, `right_io.rs`)

`touchedBlocks` cuts a request of `length` bytes at `offset` into the parts that lie in one block.
`touchedBlocks_fits`: each part lies inside its block and inside the request's buffer, and the end
of its block is representable.
-/

namespace YumeDisk.Cache

open YumeDisk.Lib

/-- A `u64` or (64-bit) `usize` result, or the overflow error of the checked operation. -/
def checked (context : String) (n : Nat) : Except CacheError Nat :=
  if n < 2 ^ 64 then .ok n else .error (.arithmeticOverflow context)

theorem checked_eq_ok {context : String} {n m : Nat} :
    checked context n = .ok m ↔ n < 2 ^ 64 ∧ n = m := by
  unfold checked
  by_cases h : n < 2 ^ 64
  · rw [if_pos h]
    exact ⟨fun e => ⟨h, Except.ok.inj e⟩, fun e => congrArg _ e.2⟩
  · rw [if_neg h]
    exact ⟨(nomatch ·), fun e => absurd e.1 h⟩

structure BlockLayout where
  blockSize : Nat
deriving DecidableEq, Repr

structure TouchedBlock where
  blockIndex : Nat
  blockBase : Nat
  blockOffset : Nat
  bufferOffset : Nat
  validLen : Nat
deriving DecidableEq, Repr

namespace BlockLayout

def new (blockSizeBytes : Nat) : Except CacheError BlockLayout :=
  if blockSizeBytes = 0 then
    throw (.invalidConfig "block_size_bytes must be greater than 0")
  else
    return ⟨blockSizeBytes⟩

def blockIndex (l : BlockLayout) (offset : Nat) : Nat := offset / l.blockSize

def blockBase (l : BlockLayout) (blockIndex : Nat) : Except CacheError Nat :=
  checked "block_base" (blockIndex * l.blockSize)

/-- The loop of `touched_blocks` over the remaining block indices. -/
def touchedLoop (l : BlockLayout) (offset end_ firstBlock : Nat) :
    List Nat → Nat → Except CacheError (List TouchedBlock)
  | [], _ => return []
  | blockIndex :: rest, bufferOffset => do
    let blockBase ← l.blockBase blockIndex
    let blockOffset := if blockIndex = firstBlock then offset - blockBase else 0
    let blockEnd ← checked "block end" (blockBase + l.blockSize)
    let coveredEnd := min end_ blockEnd
    let logicalStart ← checked "logical start" (blockBase + blockOffset)
    if coveredEnd < logicalStart then
      throw (.arithmeticOverflow "valid_len")
    else
      let validLen := coveredEnd - logicalStart
      let nextOffset ← checked "buffer_offset" (bufferOffset + validLen)
      let blocks ← l.touchedLoop offset end_ firstBlock rest nextOffset
      return ⟨blockIndex, blockBase, blockOffset, bufferOffset, validLen⟩ :: blocks

def touchedBlocks (l : BlockLayout) (offset length : Nat) :
    Except CacheError (List TouchedBlock) :=
  if length = 0 then
    return []
  else if 2 ^ 64 ≤ offset + length then
    throw (.invalidRange offset length)
  else
    let end_ := offset + length
    let firstBlock := l.blockIndex offset
    let lastBlock := l.blockIndex (end_ - 1)
    l.touchedLoop offset end_ firstBlock
      (List.range' firstBlock (lastBlock - firstBlock + 1)) 0

def validateRightIo (l : BlockLayout) (offset length : Nat) : Except CacheError Unit :=
  if offset % l.blockSize ≠ 0 ∨ length ≠ l.blockSize then
    throw (.misalignedRightIo offset length l.blockSize)
  else
    return ()

end BlockLayout

namespace TouchedBlock

def blockRange (t : TouchedBlock) : Range := (t.blockOffset, t.blockOffset + t.validLen)

def bufferRange (t : TouchedBlock) : Range := (t.bufferOffset, t.bufferOffset + t.validLen)

/-- `copy_from_block`; the result is the buffer after the copy. -/
def copyFromBlock (t : TouchedBlock) (block buffer : Bytes) : Except CacheError Bytes :=
  let blockEnd := t.blockOffset + t.validLen
  let bufferEnd := t.bufferOffset + t.validLen
  if block.length < blockEnd then
    throw (.bufferTooSmall "block read slice" blockEnd block.length)
  else if buffer.length < bufferEnd then
    throw (.bufferTooSmall "request read buffer" bufferEnd buffer.length)
  else
    return splice buffer t.bufferOffset (slice block t.blockOffset t.validLen)

def patchSlice (t : TouchedBlock) (data : Bytes) : Except CacheError Bytes :=
  if data.length < t.bufferRange.2 then
    throw (.bufferTooSmall "request write buffer" t.bufferRange.2 data.length)
  else
    return slice data t.bufferOffset t.validLen

/-- A part of a request with a buffer of `length` bytes, over blocks of `blockSize` bytes. -/
structure Fits (t : TouchedBlock) (blockSize length : Nat) : Prop where
  base : t.blockBase = t.blockIndex * blockSize
  end_lt : t.blockIndex * blockSize + blockSize < 2 ^ 64
  in_block : t.blockOffset + t.validLen ≤ blockSize
  in_buffer : t.bufferOffset + t.validLen ≤ length

variable {t : TouchedBlock} {bs : Nat} {block buffer : Bytes}

theorem Fits.copyFromBlock (h : t.Fits bs buffer.length) (hb : block.length = bs) :
    t.copyFromBlock block buffer =
      .ok (splice buffer t.bufferOffset (slice block t.blockOffset t.validLen)) := by
  have h₁ := h.in_block
  have h₂ := h.in_buffer
  rw [TouchedBlock.copyFromBlock, if_neg (by omega), if_neg (by omega)]
  rfl

theorem Fits.patchSlice (h : t.Fits bs buffer.length) :
    t.patchSlice buffer = .ok (slice buffer t.bufferOffset t.validLen) := by
  have h₂ := h.in_buffer
  rw [TouchedBlock.patchSlice, if_neg (by simp only [bufferRange]; omega)]
  rfl

end TouchedBlock

namespace BlockLayout

variable {l : BlockLayout} {offset end_ first : Nat}

/-- The parts of the loop over the blocks from `i`: the buffer offset is what lies before. -/
theorem touchedLoop_fits (hpos : 0 < l.blockSize) (hfirst : first = offset / l.blockSize) :
    ∀ (n i bufferOffset : Nat) {ts : List TouchedBlock}, first ≤ i →
      (0 < n → (i + n - 1) * l.blockSize < end_) →
      bufferOffset + offset = max offset (i * l.blockSize) →
      l.touchedLoop offset end_ first (List.range' i n) bufferOffset = .ok ts →
      ∀ t ∈ ts, t.Fits l.blockSize (end_ - offset)
  | 0, i, bufferOffset, ts, _, _, _, h => by
    obtain rfl : [] = ts := Except.ok.inj h
    simp
  | n + 1, i, bufferOffset, ts, hi, hlast, hbuf, h => by
    rw [List.range'_succ, touchedLoop] at h
    obtain ⟨base, hbase, h⟩ := except_of_bind_ok h
    obtain ⟨blockEnd, hend, h⟩ := except_of_bind_ok h
    obtain ⟨start, hstart, h⟩ := except_of_bind_ok h
    obtain ⟨-, rfl⟩ := checked_eq_ok.mp hbase
    obtain ⟨hlt, rfl⟩ := checked_eq_ok.mp hend
    obtain ⟨-, rfl⟩ := checked_eq_ok.mp hstart
    have hsucc : (i + 1) * l.blockSize = i * l.blockSize + l.blockSize := Nat.succ_mul ..
    have hstart : i * l.blockSize + (if i = first then offset - i * l.blockSize else 0) =
        max offset (i * l.blockSize) := by
      by_cases hif : i = first
      · have : i * l.blockSize ≤ offset := by
          rw [hif, hfirst]
          exact Nat.div_mul_le_self ..
        rw [if_pos hif]
        omega
      · have : offset < i * l.blockSize := by
          have hlt : offset / l.blockSize < i := by omega
          exact (Nat.div_lt_iff_lt_mul hpos).mp hlt
        rw [if_neg hif]
        omega
    have hoff : offset < (i + 1) * l.blockSize := by
      have hlt : offset / l.blockSize < i + 1 := by omega
      exact (Nat.div_lt_iff_lt_mul hpos).mp hlt
    have hcov : i * l.blockSize < end_ := by
      refine lt_of_le_of_lt (Nat.mul_le_mul_right _ ?_) (hlast (by omega))
      omega
    simp only [hstart] at h
    by_cases hcase : min end_ (i * l.blockSize + l.blockSize) < max offset (i * l.blockSize)
    · rw [if_pos hcase] at h
      cases h
    · rw [if_neg hcase] at h
      obtain ⟨next, hnext, hb⟩ := except_of_bind_ok h
      obtain ⟨rest, hrest, hts⟩ := except_of_bind_ok hb
      obtain ⟨-, rfl⟩ := checked_eq_ok.mp hnext
      obtain rfl := Except.ok.inj hts
      intro t ht
      rcases List.mem_cons.mp ht with rfl | ht
      · exact ⟨rfl, hlt, by simp only; omega, by simp only; omega⟩
      · by_cases hn : n = 0
        · subst hn
          obtain rfl : [] = rest := Except.ok.inj hrest
          simp at ht
        · have hl := hlast (by omega)
          have hge : (i + 1) * l.blockSize ≤ (i + (n + 1) - 1) * l.blockSize :=
            Nat.mul_le_mul_right _ (by omega)
          refine touchedLoop_fits hpos hfirst n (i + 1) _ (by omega) (fun _ => ?_) ?_ hrest t ht
          · rw [show i + 1 + n - 1 = i + (n + 1) - 1 by omega]
            exact hl
          · omega

/-- **Every part of a request** lies in its block and in the buffer. -/
theorem touchedBlocks_fits (hpos : 0 < l.blockSize) {length : Nat} {ts : List TouchedBlock}
    (h : l.touchedBlocks offset length = .ok ts) :
    ∀ t ∈ ts, t.Fits l.blockSize length := by
  unfold touchedBlocks at h
  by_cases h0 : length = 0
  · rw [if_pos h0] at h
    obtain rfl : [] = ts := Except.ok.inj h
    simp
  · rw [if_neg h0] at h
    by_cases h64 : 2 ^ 64 ≤ offset + length
    · rw [if_pos h64] at h
      cases h
    · rw [if_neg h64] at h
      have hle : offset / l.blockSize ≤ (offset + length - 1) / l.blockSize :=
        Nat.div_le_div_right (by omega)
      have hmul : (offset + length - 1) / l.blockSize * l.blockSize ≤ offset + length - 1 :=
        Nat.div_mul_le_self ..
      have hlast : offset / l.blockSize + ((offset + length - 1) / l.blockSize -
          offset / l.blockSize + 1) - 1 = (offset + length - 1) / l.blockSize := by
        rw [← Nat.add_assoc, Nat.add_sub_cancel, Nat.add_sub_cancel' hle]
      have hfits := touchedLoop_fits hpos rfl _ _ 0 le_rfl (fun _ => ?_) ?_ h
      · rwa [Nat.add_sub_cancel_left] at hfits
      · show (_ / _ + (_ / _ - _ / _ + 1) - 1) * l.blockSize < offset + length
        rw [hlast]
        omega
      · have : offset / l.blockSize * l.blockSize ≤ offset := Nat.div_mul_le_self ..
        show 0 + offset = max offset (offset / l.blockSize * l.blockSize)
        omega

end BlockLayout

end YumeDisk.Cache
