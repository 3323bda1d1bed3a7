import Mathlib.Data.List.Basic
import Mathlib.Data.List.GetD
import Mathlib.Tactic.Ring

/-!
# Byte strings and byte-addressed stores

* `slice xs off len`: the `len` bytes of `xs` from `off`.
* `splice xs off ys`: `xs` with the bytes from `off` replaced by `ys` (`copy_from_slice`).
* `readAt`, `writeAt`: a range read and a range write of a store `Nat → UInt8`.
-/

namespace YumeDisk.Lib

abbrev Bytes := List UInt8

/-- `xs[off .. off + len]`. -/
def slice (xs : Bytes) (off len : Nat) : Bytes := (xs.drop off).take len

/-- `xs[off .. off + ys.len()].copy_from_slice(ys)`. -/
def splice (xs : Bytes) (off : Nat) (ys : Bytes) : Bytes :=
  xs.take off ++ ys ++ xs.drop (off + ys.length)

theorem length_slice {xs : Bytes} {off len : Nat} (h : off + len ≤ xs.length) :
    (slice xs off len).length = len := by
  simp only [slice, List.length_take, List.length_drop]
  omega

/-- The middle of a concatenation. -/
theorem slice_append_mid {xs ys zs : Bytes} {off len : Nat} (hoff : xs.length = off)
    (hlen : ys.length = len) : slice (xs ++ (ys ++ zs)) off len = ys := by
  subst hoff hlen
  simp [slice]

theorem length_splice {xs : Bytes} {off : Nat} {ys : Bytes} (h : off + ys.length ≤ xs.length) :
    (splice xs off ys).length = xs.length := by
  simp only [splice, List.length_append, List.length_take, List.length_drop]
  omega

/-! ## Stores -/

/-- The `len` bytes from `off`. -/
def readAt (st : Nat → UInt8) (off len : Nat) : Bytes := (List.range len).map fun i => st (off + i)

/-- The store after `data` was written at `off`. -/
def writeAt (st : Nat → UInt8) (off : Nat) (data : Bytes) : Nat → UInt8 := fun a =>
  if off ≤ a ∧ a < off + data.length then data.getD (a - off) 0 else st a

@[simp] theorem length_readAt (st : Nat → UInt8) (off len : Nat) :
    (readAt st off len).length = len := by simp [readAt]

theorem readAt_writeAt_same (st : Nat → UInt8) (off : Nat) (data : Bytes) :
    readAt (writeAt st off data) off data.length = data := by
  apply List.ext_getElem (by simp)
  intro i h₁ h₂
  simp [readAt, writeAt, h₂]

/-- A write leaves every range that it does not meet. -/
theorem readAt_writeAt_disjoint {st : Nat → UInt8} {off off' len : Nat} {data : Bytes}
    (h : off + data.length ≤ off' ∨ off' + len ≤ off) :
    readAt (writeAt st off data) off' len = readAt st off' len := by
  apply List.map_congr_left
  intro i hi
  rw [List.mem_range] at hi
  unfold writeAt
  rw [if_neg]
  omega

theorem writeAt_nil (st : Nat → UInt8) (off : Nat) : writeAt st off [] = st := by
  funext a
  unfold writeAt
  rw [if_neg]
  rw [List.length_nil]
  omega

/-- A range in two parts. -/
theorem readAt_add (st : Nat → UInt8) (off a b : Nat) :
    readAt st off (a + b) = readAt st off a ++ readAt st (off + a) b := by
  unfold readAt
  rw [List.range_add, List.map_append, List.map_map]
  congr 1
  apply List.map_congr_left
  intro i _
  rw [Function.comp_apply, Nat.add_assoc]

/-- Two writes, one behind the other. -/
theorem writeAt_append (st : Nat → UInt8) (off : Nat) (xs ys : Bytes) :
    writeAt (writeAt st off xs) (off + xs.length) ys = writeAt st off (xs ++ ys) := by
  funext a
  simp only [writeAt, List.length_append]
  by_cases hsecond : off + xs.length ≤ a ∧ a < off + xs.length + ys.length
  · rw [if_pos hsecond, if_pos (by omega), List.getD_append_right _ _ _ _ (by omega),
      show a - off - xs.length = a - (off + xs.length) by omega]
  · rw [if_neg hsecond]
    by_cases hfirst : off ≤ a ∧ a < off + xs.length
    · rw [if_pos hfirst, if_pos (by omega), List.getD_append _ _ _ _ (by omega)]
    · rw [if_neg hfirst, if_neg (by omega)]

/-- A range in three parts. -/
theorem readAt_split (st : Nat → UInt8) (start : Nat) {n off len : Nat} (h : off + len ≤ n) :
    readAt st start n = readAt st start off ++
      (readAt st (start + off) len ++ readAt st (start + off + len) (n - (off + len))) := by
  rw [← List.append_assoc, ← readAt_add, Nat.add_assoc, ← readAt_add, Nat.add_sub_cancel' h]

theorem slice_readAt {st : Nat → UInt8} {start n off len : Nat} (h : off + len ≤ n) :
    slice (readAt st start n) off len = readAt st (start + off) len := by
  rw [readAt_split st start h]
  exact slice_append_mid (length_readAt ..) (length_readAt ..)

theorem splice_readAt {st : Nat → UInt8} {start n off : Nat} {data : Bytes}
    (h : off + data.length ≤ n) :
    splice (readAt st start n) off data = readAt (writeAt st (start + off) data) start n := by
  rw [readAt_split _ start h, readAt_split _ start h, readAt_writeAt_same,
    readAt_writeAt_disjoint (.inr le_rfl), readAt_writeAt_disjoint (.inl le_rfl), splice,
    List.take_left' (length_readAt ..), ← List.append_assoc, List.drop_left' ?_, List.append_assoc]
  rw [List.length_append, length_readAt, length_readAt]

/-- Two distinct blocks of one size do not meet. -/
theorem block_disjoint {b b' bs : Nat} (h : b ≠ b') :
    b * bs + bs ≤ b' * bs ∨ b' * bs + bs ≤ b * bs := by
  rcases Nat.lt_or_gt_of_ne h with hlt | hgt
  · left
    calc b * bs + bs = (b + 1) * bs := by ring
      _ ≤ b' * bs := Nat.mul_le_mul_right _ hlt
  · right
    calc b' * bs + bs = (b' + 1) * bs := by ring
      _ ≤ b * bs := Nat.mul_le_mul_right _ hgt

end YumeDisk.Lib
