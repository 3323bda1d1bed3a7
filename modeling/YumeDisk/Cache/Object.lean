import YumeDisk.Cache.Foreground
import YumeDisk.Cache.ResidentView

/-!
# What the cache is for

The sequential object that a cache stands for: an array of blocks, read and written in parts.  This
is a statement of the purpose of the calls, not a translation of any code.
-/

namespace YumeDisk.Cache

open YumeDisk.Lib

/-- The blocks of the right store at the start. -/
def initialBlocks (config : CacheConfig) (right : Nat → UInt8) (b : Nat) : Bytes :=
  readAt right (b * config.blockSizeBytes) config.blockSizeBytes

/-- A block read fills a part of its buffer, a block write replaces a part of its block. -/
def applyOp (m : Nat → Bytes) : Op → (Nat → Bytes) × Ret
  | .read t buffer =>
    (m, .copied (splice buffer t.bufferOffset (slice (m t.blockIndex) t.blockOffset t.validLen)))
  | .write t data =>
    (Function.update m t.blockIndex
      (splice (m t.blockIndex) t.blockOffset (slice data t.bufferOffset t.validLen)), .patched)

namespace Op

def blockIndex (op : Op) : Nat := op.touched.blockIndex

/-- The part of the request lies in its block and in the buffer. -/
def Fits (op : Op) (blockSize : Nat) : Prop := op.touched.Fits blockSize op.buffer.length

/-- What an operation does to its block, as the patch of a placeholder. -/
def patch : Op → Option (Range × Bytes)
  | .read _ _ => none
  | .write t data => some (t.blockRange, slice data t.bufferOffset t.validLen)

/-- The same, as the list that the placeholder keeps. -/
def patches (op : Op) : List PendingPatch := (op.patch.map fun p => ⟨p.1, p.2⟩).toList

theorem Fits.patch {op : Op} {bs : Nat} (h : op.Fits bs) :
    ∀ range data, op.patch = some (range, data) → PatchFits range data.length bs := by
  rintro range data hp
  cases op with
  | read t buffer => cases hp
  | write t buffer =>
    obtain ⟨rfl, rfl⟩ := Prod.mk.inj (Option.some.inj hp)
    have hb := TouchedBlock.Fits.in_buffer h
    have hl := TouchedBlock.Fits.in_block h
    refine ⟨Nat.le_add_right .., hl, ?_⟩
    exact (length_slice hb).trans (by simp [TouchedBlock.blockRange, Op.touched])

theorem Fits.patches {op : Op} {bs : Nat} (h : op.Fits bs) :
    ∀ p ∈ op.patches, PatchFits p.range p.data.length bs := by
  intro p hp
  unfold Op.patches at hp
  cases hq : op.patch with
  | none => simp [hq] at hp
  | some q =>
    obtain rfl : p = ⟨q.1, q.2⟩ := by simpa [hq] using hp
    exact h.patch q.1 q.2 hq

end Op

/-- The object and the patches agree. -/
theorem applyOp_logical (m : Nat → Bytes) (op : Op) : (applyOp m op).1 =
    Function.update m op.blockIndex
      (op.patches.foldl (fun d q => splice d q.range.1 q.data) (m op.blockIndex)) := by
  cases op with
  | read t buffer => exact (Function.update_eq_self ..).symm
  | write t data => rfl

end YumeDisk.Cache
