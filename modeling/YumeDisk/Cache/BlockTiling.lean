import YumeDisk.Cache.Block

/-!
# The parts of a request tile it (`block/mod.rs`)

* `BlockLayout.part`: what lies of a request in one block.
* `touchedBlocks_eq`: `touched_blocks` returns the parts of the blocks from the first to the last, or
  fails at the end of a block that is not representable.
* `touched_blocks_tile`: **the result**: when it fails, and how the parts lie when it does not.
* `copy_patched`: a request that is copied into the blocks is copied back as it was.
-/

namespace YumeDisk.Cache

open YumeDisk.Lib

namespace BlockLayout

/-- What lies in block `i` of the request from `offset` to `end_`. -/
def part (l : BlockLayout) (offset end_ i : Nat) : TouchedBlock where
  blockIndex := i
  blockBase := i * l.blockSize
  blockOffset := max offset (i * l.blockSize) - i * l.blockSize
  bufferOffset := max offset (i * l.blockSize) - offset
  validLen := min end_ ((i + 1) * l.blockSize) - max offset (i * l.blockSize)

variable {l : BlockLayout} {offset end_ first i n : Nat}

/-- The block offset that the loop computes. -/
theorem start_eq (hpos : 0 < l.blockSize) (hfirst : first = offset / l.blockSize) (hi : first ≤ i) :
    (if i = first then offset - i * l.blockSize else 0) =
      max offset (i * l.blockSize) - i * l.blockSize := by
  by_cases hif : i = first
  · have hbase : i * l.blockSize ≤ offset := by
      rw [hif, hfirst]
      exact Nat.div_mul_le_self ..
    rw [if_pos hif, Nat.max_eq_left hbase]
  · have hlt : offset / l.blockSize < i := by omega
    have hbase : offset < i * l.blockSize := (Nat.div_lt_iff_lt_mul hpos).mp hlt
    rw [if_neg hif, Nat.max_eq_right hbase.le, Nat.sub_self]

/-- A block of the request that is not before the first one begins before its end. -/
theorem offset_lt_succ (hpos : 0 < l.blockSize) (hfirst : first = offset / l.blockSize)
    (hi : first ≤ i) : offset < (i + 1) * l.blockSize := by
  have hlt : offset / l.blockSize < i + 1 := by omega
  exact (Nat.div_lt_iff_lt_mul hpos).mp hlt

/-- The loop over the blocks from `i`: their parts, or the first block whose end is not
representable. -/
theorem touchedLoop_eq (hpos : 0 < l.blockSize) (hfirst : first = offset / l.blockSize)
    (hend : end_ < 2 ^ 64) (horder : offset < end_) :
    ∀ (n i : Nat), first ≤ i → (0 < n → (i + n - 1) * l.blockSize < end_) →
      l.touchedLoop offset end_ first (List.range' i n) (max offset (i * l.blockSize) - offset) =
        if n = 0 ∨ (i + n) * l.blockSize < 2 ^ 64 then
          .ok ((List.range' i n).map (l.part offset end_))
        else
          .error (.arithmeticOverflow "block end")
  | 0, i, _, _ => by
    rw [if_pos (.inl rfl)]
    rfl
  | n + 1, i, hi, hlast => by
    have hsucc : (i + 1) * l.blockSize = i * l.blockSize + l.blockSize := Nat.succ_mul ..
    have hoff := offset_lt_succ hpos hfirst hi
    have hbase : i * l.blockSize < end_ := by
      refine lt_of_le_of_lt (Nat.mul_le_mul_right _ ?_) (hlast (by omega))
      omega
    have hgrow : (i + 1) * l.blockSize ≤ (i + (n + 1)) * l.blockSize :=
      Nat.mul_le_mul_right _ (by omega)
    rw [List.range'_succ, touchedLoop, blockBase, checked, if_pos (by omega)]
    simp only [bind, Except.bind]
    rw [checked]
    by_cases hrep : i * l.blockSize + l.blockSize < 2 ^ 64
    · rw [if_pos hrep]
      dsimp only
      rw [start_eq hpos hfirst hi, Nat.add_sub_cancel' (le_max_right _ _), checked,
        if_pos (by omega)]
      dsimp only
      rw [if_neg (by omega), checked, if_pos (by omega)]
      dsimp only
      have hnext : max offset (i * l.blockSize) - offset +
          (min end_ (i * l.blockSize + l.blockSize) - max offset (i * l.blockSize)) =
            min end_ ((i + 1) * l.blockSize) - offset := by
        omega
      by_cases hn : n = 0
      · subst hn
        rw [if_pos (.inr (by rwa [hsucc]))]
        simp only [List.range'_zero, touchedLoop, List.map_cons, List.map_nil, part, hsucc]
        rfl
      · have hl := hlast (by omega)
        have hge : (i + 1) * l.blockSize ≤ (i + (n + 1) - 1) * l.blockSize :=
          Nat.mul_le_mul_right _ (by omega)
        have hbuf : min end_ ((i + 1) * l.blockSize) - offset =
            max offset ((i + 1) * l.blockSize) - offset := by
          omega
        rw [hnext, hbuf, touchedLoop_eq hpos hfirst hend horder n (i + 1) (by omega)
          (fun _ => by rwa [show i + 1 + n - 1 = i + (n + 1) - 1 by omega]),
          show i + 1 + n = i + (n + 1) by omega]
        by_cases hrest : (i + (n + 1)) * l.blockSize < 2 ^ 64
        · rw [if_pos (.inr hrest), if_pos (.inr hrest), List.map_cons]
          simp only [part, hsucc]
          rfl
        · rw [if_neg (not_or.mpr ⟨hn, hrest⟩), if_neg (not_or.mpr ⟨by omega, hrest⟩)]
    · rw [if_neg hrep, if_neg (not_or.mpr ⟨by omega, by omega⟩)]

/-- The blocks of a request: from the first, as many as it touches. -/
def blockCount (l : BlockLayout) (offset length : Nat) : Nat :=
  l.blockIndex (offset + length - 1) - l.blockIndex offset + 1

theorem add_blockCount (l : BlockLayout) {offset length : Nat} (h : length ≠ 0) :
    offset / l.blockSize + l.blockCount offset length =
      (offset + length - 1) / l.blockSize + 1 := by
  have hle : offset / l.blockSize ≤ (offset + length - 1) / l.blockSize :=
    Nat.div_le_div_right (by omega)
  unfold blockCount blockIndex
  omega

theorem touchedBlocks_eq (hpos : 0 < l.blockSize) {length : Nat} (h : length ≠ 0)
    (hend : offset + length < 2 ^ 64) :
    l.touchedBlocks offset length =
      if ((offset + length - 1) / l.blockSize + 1) * l.blockSize < 2 ^ 64 then
        .ok ((List.range' (offset / l.blockSize) (l.blockCount offset length)).map
          (l.part offset (offset + length)))
      else
        .error (.arithmeticOverflow "block end") := by
  have hbase : offset / l.blockSize * l.blockSize ≤ offset := Nat.div_mul_le_self ..
  have hcount := @add_blockCount l offset _ h
  have hlast : (offset / l.blockSize + l.blockCount offset length - 1) * l.blockSize <
      offset + length := by
    have hmul : (offset + length - 1) / l.blockSize * l.blockSize ≤ offset + length - 1 :=
      Nat.div_mul_le_self ..
    rw [hcount, Nat.add_sub_cancel]
    omega
  have hloop := touchedLoop_eq hpos rfl hend (by omega) (l.blockCount offset length)
    (offset / l.blockSize) le_rfl fun _ => hlast
  rw [Nat.max_eq_left hbase, Nat.sub_self, hcount] at hloop
  rw [touchedBlocks, if_neg h, if_neg (by omega)]
  refine hloop.trans (if_congr ?_ rfl rfl)
  exact or_iff_right (Nat.succ_ne_zero _)

/-! ## How the parts lie -/

/-- The buffer ranges of the parts of consecutive blocks are one range. -/
theorem flatMap_part (horder : offset < end_) :
    ∀ (n i : Nat), offset < (i + 1) * l.blockSize → (0 < n → (i + n - 1) * l.blockSize < end_) →
      ((List.range' i n).map (l.part offset end_)).flatMap
          (fun t => List.range' t.bufferOffset t.validLen) =
        List.range' (max offset (i * l.blockSize) - offset)
          (if n = 0 then 0 else min end_ ((i + n) * l.blockSize) - max offset (i * l.blockSize))
  | 0, i, _, _ => rfl
  | n + 1, i, hoff, hlast => by
    have hsucc : (i + 1) * l.blockSize = i * l.blockSize + l.blockSize := Nat.succ_mul ..
    rw [List.range'_succ, List.map_cons, List.flatMap_cons, if_neg (Nat.succ_ne_zero n)]
    by_cases hn : n = 0
    · subst hn
      exact List.append_nil _
    · have hl := hlast (by omega)
      have hge : (i + 1) * l.blockSize ≤ (i + (n + 1) - 1) * l.blockSize :=
        Nat.mul_le_mul_right _ (by omega)
      have hgrow : (i + (n + 1) - 1) * l.blockSize ≤ (i + (n + 1)) * l.blockSize :=
        Nat.mul_le_mul_right _ (by omega)
      have hnext : (i + 1 + 1) * l.blockSize = (i + 1) * l.blockSize + l.blockSize :=
        Nat.succ_mul ..
      rw [flatMap_part horder n (i + 1) (by omega)
        (fun _ => by rwa [show i + 1 + n - 1 = i + (n + 1) - 1 by omega]), if_neg hn,
        show i + 1 + n = i + (n + 1) by omega]
      have hstart : max offset ((i + 1) * l.blockSize) - offset =
          (l.part offset end_ i).bufferOffset + (l.part offset end_ i).validLen := by
        simp only [part]
        omega
      rw [hstart, List.range'_append_1]
      congr 1
      simp only [part]
      omega

/-- The parts of a request: consecutive blocks, each with a range that is not empty and lies in it,
and buffer ranges that make up the buffer. -/
structure Tiled (l : BlockLayout) (offset length : Nat) (ts : List TouchedBlock) : Prop where
  indices : ts.map TouchedBlock.blockIndex = List.range' (offset / l.blockSize) ts.length
  base : ∀ t ∈ ts, t.blockBase = t.blockIndex * l.blockSize
  nonempty : ∀ t ∈ ts, 0 < t.validLen
  inside : ∀ t ∈ ts, t.blockOffset + t.validLen ≤ l.blockSize
  address : ∀ t ∈ ts, t.blockBase + t.blockOffset = offset + t.bufferOffset
  covers : ts.flatMap (fun t => List.range' t.bufferOffset t.validLen) = List.range length

theorem tiled_nil (l : BlockLayout) (offset : Nat) : l.Tiled offset 0 [] where
  indices := rfl
  base _ h := (List.not_mem_nil h).elim
  nonempty _ h := (List.not_mem_nil h).elim
  inside _ h := (List.not_mem_nil h).elim
  address _ h := (List.not_mem_nil h).elim
  covers := rfl

theorem tiled_parts (hpos : 0 < l.blockSize) {length : Nat} (h : length ≠ 0) :
    l.Tiled offset length ((List.range' (offset / l.blockSize) (l.blockCount offset length)).map
      (l.part offset (offset + length))) := by
  have hbase : offset / l.blockSize * l.blockSize ≤ offset := Nat.div_mul_le_self ..
  have hcount := @add_blockCount l offset _ h
  have hmul : (offset + length - 1) / l.blockSize * l.blockSize ≤ offset + length - 1 :=
    Nat.div_mul_le_self ..
  have hlt : offset + length - 1 < ((offset + length - 1) / l.blockSize + 1) * l.blockSize :=
    (Nat.div_lt_iff_lt_mul hpos).mp (Nat.lt_succ_self _)
  have hmem : ∀ i ∈ List.range' (offset / l.blockSize) (l.blockCount offset length),
      i * l.blockSize < offset + length ∧ offset < (i + 1) * l.blockSize := by
    intro i hi
    obtain ⟨hge, hle⟩ := List.mem_range'_1.mp hi
    refine ⟨lt_of_le_of_lt (Nat.mul_le_mul_right _ (by omega)) (lt_of_le_of_lt hmul (by omega)), ?_⟩
    exact offset_lt_succ hpos rfl hge
  have hpart : ∀ t ∈ (List.range' (offset / l.blockSize) (l.blockCount offset length)).map
      (l.part offset (offset + length)), ∃ i, i * l.blockSize < offset + length ∧
        offset < (i + 1) * l.blockSize ∧ l.part offset (offset + length) i = t := by
    intro t ht
    obtain ⟨i, hi, rfl⟩ := List.mem_map.mp ht
    exact ⟨i, (hmem i hi).1, (hmem i hi).2, rfl⟩
  refine ⟨?_, ?_, ?_, ?_, ?_, ?_⟩
  · rw [List.map_map, List.length_map, List.length_range']
    exact List.map_id _
  · intro t ht
    obtain ⟨i, -, -, rfl⟩ := hpart t ht
    rfl
  · intro t ht
    obtain ⟨i, hi, hoff, rfl⟩ := hpart t ht
    have hsucc : (i + 1) * l.blockSize = i * l.blockSize + l.blockSize := Nat.succ_mul ..
    simp only [part]
    omega
  · intro t ht
    obtain ⟨i, hi, hoff, rfl⟩ := hpart t ht
    have hsucc : (i + 1) * l.blockSize = i * l.blockSize + l.blockSize := Nat.succ_mul ..
    simp only [part]
    omega
  · intro t ht
    obtain ⟨i, hi, hoff, rfl⟩ := hpart t ht
    simp only [part]
    omega
  · rw [flatMap_part (by omega) _ _ (offset_lt_succ hpos rfl le_rfl) fun _ => ?_,
      if_neg (show l.blockCount offset length ≠ 0 from Nat.succ_ne_zero _), hcount,
      List.range_eq_range']
    · congr 1
      · omega
      · omega
    · rw [hcount, Nat.add_sub_cancel]
      omega

/-- **`touched_blocks` tiles the request.**  It fails if and only if the end of the request or of
its last block is not representable; no subtraction on the way goes below zero. -/
theorem touched_blocks_tile (hpos : 0 < l.blockSize) (offset length : Nat) :
    ((∃ e, l.touchedBlocks offset length = .error e) ↔ length ≠ 0 ∧ (2 ^ 64 ≤ offset + length ∨
      2 ^ 64 ≤ ((offset + length - 1) / l.blockSize + 1) * l.blockSize)) ∧
    (∀ e, l.touchedBlocks offset length = .error e →
      e = .invalidRange offset length ∨ e = .arithmeticOverflow "block end") ∧
    (length ≠ 0 → 1 ≤ offset + length ∧ l.blockIndex offset ≤ l.blockIndex (offset + length - 1) ∧
      l.blockIndex offset * l.blockSize ≤ offset) ∧
    ∀ ts, l.touchedBlocks offset length = .ok ts → l.Tiled offset length ts := by
  by_cases h : length = 0
  · subst h
    have hnil : l.touchedBlocks offset 0 = .ok [] := rfl
    refine ⟨⟨?_, fun hne => absurd rfl hne.1⟩, ?_, fun hne => absurd rfl hne, ?_⟩
    · rintro ⟨e, he⟩
      cases hnil.symm.trans he
    · intro e he
      cases hnil.symm.trans he
    · intro ts hts
      obtain rfl := Except.ok.inj (hnil.symm.trans hts)
      exact tiled_nil l offset
  · have hunder : 1 ≤ offset + length ∧
        l.blockIndex offset ≤ l.blockIndex (offset + length - 1) ∧
        l.blockIndex offset * l.blockSize ≤ offset :=
      ⟨by omega, Nat.div_le_div_right (by omega), Nat.div_mul_le_self ..⟩
    by_cases hend : 2 ^ 64 ≤ offset + length
    · have herr : l.touchedBlocks offset length = .error (.invalidRange offset length) := by
        rw [touchedBlocks, if_neg h, if_pos hend]
        rfl
      refine ⟨⟨fun _ => ⟨h, .inl hend⟩, fun _ => ⟨_, herr⟩⟩, ?_, fun _ => hunder, ?_⟩
      · intro e he
        exact .inl (Except.error.inj (herr.symm.trans he)).symm
      · intro ts hts
        cases herr.symm.trans hts
    · have heq := touchedBlocks_eq hpos h (not_le.mp hend)
      by_cases hlast : ((offset + length - 1) / l.blockSize + 1) * l.blockSize < 2 ^ 64
      · rw [if_pos hlast] at heq
        refine ⟨⟨?_, fun hor => absurd hor.2 (not_or.mpr ⟨hend, not_le.mpr hlast⟩)⟩, ?_,
          fun _ => hunder, ?_⟩
        · rintro ⟨e, he⟩
          cases heq.symm.trans he
        · intro e he
          cases heq.symm.trans he
        · intro ts hts
          obtain rfl := Except.ok.inj (heq.symm.trans hts)
          exact tiled_parts hpos h
      · rw [if_neg hlast] at heq
        refine ⟨⟨fun _ => ⟨h, .inr (not_lt.mp hlast)⟩, fun _ => ⟨_, heq⟩⟩, ?_, fun _ => hunder, ?_⟩
        · intro e he
          exact .inr (Except.error.inj (heq.symm.trans he)).symm
        · intro ts hts
          cases heq.symm.trans hts

end BlockLayout

/-! ## Into the blocks and back -/

/-- `patch_into_block`; the result is the block after the copy. -/
def TouchedBlock.patchIntoBlock (t : TouchedBlock) (data block : Bytes) : Except CacheError Bytes :=
  let bufferEnd := t.bufferOffset + t.validLen
  let blockEnd := t.blockOffset + t.validLen
  if data.length < bufferEnd then
    throw (.bufferTooSmall "request write buffer" bufferEnd data.length)
  else if block.length < blockEnd then
    throw (.bufferTooSmall "block write slice" blockEnd block.length)
  else
    return splice block t.blockOffset (slice data t.bufferOffset t.validLen)

/-- A request is copied into the blocks it touches. -/
def patchBlocks (data : Bytes) : List TouchedBlock → (Nat → Bytes) →
    Except CacheError (Nat → Bytes)
  | [], blocks => return blocks
  | t :: ts, blocks => do
    let block ← t.patchIntoBlock data (blocks t.blockIndex)
    patchBlocks data ts (Function.update blocks t.blockIndex block)

/-- A request is copied back from the blocks it touches. -/
def copyBlocks (blocks : Nat → Bytes) : List TouchedBlock → Bytes → Except CacheError Bytes
  | [], buffer => return buffer
  | t :: ts, buffer => do
    let buffer ← t.copyFromBlock (blocks t.blockIndex) buffer
    copyBlocks blocks ts buffer

theorem slice_splice_self {xs ys : Bytes} {off : Nat} (h : off + ys.length ≤ xs.length) :
    slice (splice xs off ys) off ys.length = ys := by
  rw [splice, List.append_assoc]
  exact slice_append_mid (List.length_take_of_le (by omega)) rfl

/-- The bytes before the end of a part are in place once the part has been copied. -/
theorem take_splice_slice {buffer data : Bytes} {off len : Nat} (hlen : off + len ≤ data.length)
    (hbuffer : buffer.length = data.length) (hbegins : buffer.take off = data.take off) :
    (splice buffer off (slice data off len)).take (off + len) = data.take (off + len) := by
  have hslice : (slice data off len).length = len := length_slice hlen
  have htake : (buffer.take off ++ slice data off len).length = off + len := by
    rw [List.length_append, List.length_take_of_le (by omega), hslice]
  rw [splice, List.take_left' htake, hbegins, slice, List.take_add]

/-- Copying into blocks of their size: every part is in its block, and no other block changes. -/
theorem patchBlocks_spec {bs : Nat} {data : Bytes} :
    ∀ (ts : List TouchedBlock) (blocks : Nat → Bytes),
      (ts.map TouchedBlock.blockIndex).Nodup → (∀ t ∈ ts, t.blockOffset + t.validLen ≤ bs) →
      (∀ t ∈ ts, t.bufferOffset + t.validLen ≤ data.length) →
      (∀ t ∈ ts, (blocks t.blockIndex).length = bs) →
      ∃ blocks', patchBlocks data ts blocks = .ok blocks' ∧
        (∀ i, i ∉ ts.map TouchedBlock.blockIndex → blocks' i = blocks i) ∧
        ∀ t ∈ ts, (blocks' t.blockIndex).length = bs ∧
          slice (blocks' t.blockIndex) t.blockOffset t.validLen =
            slice data t.bufferOffset t.validLen
  | [], blocks, _, _, _, _ => ⟨blocks, rfl, fun _ _ => rfl, fun _ h => (List.not_mem_nil h).elim⟩
  | t :: ts, blocks, hnodup, hblock, hbuffer, hlength => by
    obtain ⟨hnew, hnodup⟩ := List.nodup_cons.mp hnodup
    have hb := hblock t List.mem_cons_self
    have hd := hbuffer t List.mem_cons_self
    have hl := hlength t List.mem_cons_self
    have hslice : (slice data t.bufferOffset t.validLen).length = t.validLen := length_slice hd
    set block := splice (blocks t.blockIndex) t.blockOffset
      (slice data t.bufferOffset t.validLen) with hpatched
    have hpatch : t.patchIntoBlock data (blocks t.blockIndex) = .ok block := by
      rw [TouchedBlock.patchIntoBlock, if_neg (by omega), if_neg (by omega)]
      rfl
    have hother : ∀ t' ∈ ts, t'.blockIndex ≠ t.blockIndex :=
      fun t' ht' he => hnew (he ▸ List.mem_map_of_mem ht')
    obtain ⟨blocks', hrun, hkeep, hparts⟩ := patchBlocks_spec ts
      (Function.update blocks t.blockIndex block) hnodup
      (fun t' ht' => hblock t' (List.mem_cons_of_mem _ ht'))
      (fun t' ht' => hbuffer t' (List.mem_cons_of_mem _ ht'))
      (fun t' ht' => by
        rw [Function.update_of_ne (hother t' ht')]
        exact hlength t' (List.mem_cons_of_mem _ ht'))
    refine ⟨blocks', ?_, ?_, ?_⟩
    · simp only [patchBlocks, hpatch, bind, Except.bind]
      exact hrun
    · intro i hi
      rw [List.map_cons, List.mem_cons, not_or] at hi
      rw [hkeep i hi.2, Function.update_of_ne hi.1]
    · intro t' ht'
      rcases List.mem_cons.mp ht' with rfl | ht'
      · rw [hkeep _ hnew, Function.update_self, hpatched]
        refine ⟨by rw [length_splice (by omega), hl], ?_⟩
        have hself := @slice_splice_self (blocks t'.blockIndex) (slice data t'.bufferOffset t'.validLen)
          t'.blockOffset (by omega)
        rwa [hslice] at hself
      · exact hparts t' ht'

/-- Copying back: what has been copied is the beginning of the request. -/
theorem copyBlocks_spec {bs : Nat} {data : Bytes} {blocks : Nat → Bytes} :
    ∀ (ts : List TouchedBlock) (buffer : Bytes) (start stop : Nat), start ≤ stop →
      ts.flatMap (fun t => List.range' t.bufferOffset t.validLen) =
        List.range' start (stop - start) →
      (∀ t ∈ ts, 0 < t.validLen) → (∀ t ∈ ts, t.blockOffset + t.validLen ≤ bs) →
      (∀ t ∈ ts, (blocks t.blockIndex).length = bs ∧
        slice (blocks t.blockIndex) t.blockOffset t.validLen =
          slice data t.bufferOffset t.validLen) →
      stop ≤ data.length → buffer.length = data.length →
      buffer.take start = data.take start →
      ∃ buffer', copyBlocks blocks ts buffer = .ok buffer' ∧ buffer'.length = data.length ∧
        buffer'.take stop = data.take stop
  | [], buffer, start, stop, hle, hcovers, _, _, _, _, hbuffer, hbegins => by
    have hlen := congrArg List.length hcovers
    rw [List.flatMap_nil, List.length_nil, List.length_range'] at hlen
    obtain rfl : start = stop := by omega
    exact ⟨buffer, rfl, hbuffer, hbegins⟩
  | t :: ts, buffer, start, stop, hle, hcovers, hpos, hblock, hparts, hstop, hbuffer, hbegins => by
    have hp := hpos t List.mem_cons_self
    have hb := hblock t List.mem_cons_self
    obtain ⟨hl, hs⟩ := hparts t List.mem_cons_self
    rw [List.flatMap_cons] at hcovers
    have hlen : t.validLen ≤ stop - start := by
      have := congrArg List.length hcovers
      rw [List.length_append, List.length_range', List.length_range'] at this
      omega
    have hsplit : List.range' start (stop - start) =
        List.range' start t.validLen ++ List.range' (start + t.validLen)
          (stop - (start + t.validLen)) := by
      rw [List.range'_append_1]
      congr 1
      omega
    rw [hsplit] at hcovers
    obtain ⟨hhead, htail⟩ := List.append_inj hcovers (by simp)
    obtain ⟨m, hm⟩ := Nat.exists_eq_succ_of_ne_zero hp.ne'
    have hstart : t.bufferOffset = start := by
      rw [hm, List.range'_succ, List.range'_succ] at hhead
      exact (List.cons.inj hhead).1
    have hslice : (slice data t.bufferOffset t.validLen).length = t.validLen :=
      length_slice (by omega)
    have hcopy : t.copyFromBlock (blocks t.blockIndex) buffer =
        .ok (splice buffer t.bufferOffset (slice data t.bufferOffset t.validLen)) := by
      rw [TouchedBlock.copyFromBlock, if_neg (by omega), if_neg (by omega), hs]
      rfl
    obtain ⟨buffer', hrun, hlength, htake⟩ := copyBlocks_spec ts
      (splice buffer t.bufferOffset (slice data t.bufferOffset t.validLen))
      (start + t.validLen) stop (by omega) htail
      (fun t' ht' => hpos t' (List.mem_cons_of_mem _ ht'))
      (fun t' ht' => hblock t' (List.mem_cons_of_mem _ ht'))
      (fun t' ht' => hparts t' (List.mem_cons_of_mem _ ht')) hstop
      (by rw [length_splice (by omega), hbuffer])
      (by
        rw [← hstart]
        exact take_splice_slice (by omega) hbuffer (hstart ▸ hbegins))
    refine ⟨buffer', ?_, hlength, htake⟩
    simp only [copyBlocks, hcopy, bind, Except.bind]
    exact hrun

/-- **A request comes back as it went in**: copied into the blocks that it touches, and from there
into a buffer of its size. -/
theorem copy_patched {l : BlockLayout} {offset : Nat} {data buffer : Bytes}
    {ts : List TouchedBlock} {blocks : Nat → Bytes} (h : l.Tiled offset data.length ts)
    (hblocks : ∀ t ∈ ts, (blocks t.blockIndex).length = l.blockSize)
    (hbuffer : buffer.length = data.length) :
    ∃ blocks', patchBlocks data ts blocks = .ok blocks' ∧ copyBlocks blocks' ts buffer = .ok data := by
  have hinside : ∀ t ∈ ts, t.bufferOffset + t.validLen ≤ data.length := by
    intro t ht
    have hpos := h.nonempty t ht
    have hmem : t.bufferOffset + t.validLen - 1 ∈ List.range data.length := by
      rw [← h.covers, List.mem_flatMap]
      exact ⟨t, ht, List.mem_range'_1.mpr ⟨by omega, by omega⟩⟩
    have := List.mem_range.mp hmem
    omega
  have hnodup : (ts.map TouchedBlock.blockIndex).Nodup := h.indices ▸ List.nodup_range'
  obtain ⟨blocks', hpatch, -, hparts⟩ := patchBlocks_spec ts blocks hnodup h.inside hinside hblocks
  obtain ⟨buffer', hcopy, hlength, htake⟩ := copyBlocks_spec ts buffer 0 data.length (Nat.zero_le _)
    (by rw [h.covers, Nat.sub_zero, List.range_eq_range']) h.nonempty h.inside hparts le_rfl hbuffer
    rfl
  rw [List.take_of_length_le hlength.le, List.take_of_length_le le_rfl] at htake
  exact ⟨blocks', hpatch, htake ▸ hcopy⟩

/-- **`touched_blocks` for every request**: when it fails, how the parts lie, and that a request goes
into its blocks and back unchanged. -/
theorem touched_blocks_whole {l : BlockLayout} (hpos : 0 < l.blockSize) (offset length : Nat) :
    ((∃ e, l.touchedBlocks offset length = .error e) ↔ length ≠ 0 ∧ (2 ^ 64 ≤ offset + length ∨
      2 ^ 64 ≤ ((offset + length - 1) / l.blockSize + 1) * l.blockSize)) ∧
    (∀ e, l.touchedBlocks offset length = .error e →
      e = .invalidRange offset length ∨ e = .arithmeticOverflow "block end") ∧
    (length ≠ 0 → 1 ≤ offset + length ∧ l.blockIndex offset ≤ l.blockIndex (offset + length - 1) ∧
      l.blockIndex offset * l.blockSize ≤ offset) ∧
    ∀ ts, l.touchedBlocks offset length = .ok ts →
      l.Tiled offset length ts ∧
      ∀ (data buffer : Bytes) (blocks : Nat → Bytes), data.length = length →
        buffer.length = length → (∀ t ∈ ts, (blocks t.blockIndex).length = l.blockSize) →
        ∃ blocks', patchBlocks data ts blocks = .ok blocks' ∧
          copyBlocks blocks' ts buffer = .ok data := by
  obtain ⟨hfails, herrors, hunder, htiled⟩ := BlockLayout.touched_blocks_tile hpos offset length
  refine ⟨hfails, herrors, hunder, fun ts hts => ⟨htiled ts hts, ?_⟩⟩
  rintro data buffer blocks rfl hbuffer hblocks
  exact copy_patched (htiled ts hts) hblocks hbuffer

/-- A request over three blocks of 32 bytes. -/
theorem touched_blocks_three : ∃ ts, BlockLayout.touchedBlocks ⟨32⟩ 28 40 = .ok ts ∧
    BlockLayout.Tiled ⟨32⟩ 28 40 ts := by
  obtain ⟨hfails, -, -, htiled⟩ := touched_blocks_whole (l := ⟨32⟩) (by decide) 28 40
  cases hts : BlockLayout.touchedBlocks ⟨32⟩ 28 40 with
  | error e => exact absurd (hfails.mp ⟨e, hts⟩) (by decide)
  | ok ts => exact ⟨ts, rfl, (htiled ts hts).1⟩

end YumeDisk.Cache
