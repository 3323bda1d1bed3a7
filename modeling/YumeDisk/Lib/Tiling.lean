import Mathlib.Data.List.Count
import Mathlib.Data.List.GetD
import YumeDisk.Lib.Bytes

/-!
# Tilings and bit sets

* `Tiles total count off len`: the `count` ranges `[off i, off i + len i)` tile `[0, total)`.
* `Tiles.flatMap_slice`: the slices of a byte string at a tiling, in order, are the byte string.
* `Tiles.covers`, `Tiles.unwrapped`: the bytes that are tiled, and tiles that may wrap around.
* `pieceCount`, `pieceLength`, `tiles_pieces`: pieces of one size, the last of which may be short.
* `setAll bits is`: `bits` with the bits of `is` set.
* `count_setAll`: setting bits that were clear counts them.
-/

namespace YumeDisk.Lib

/-! ## Tilings -/

/-- The ranges `[off i, off i + len i)` for `i < count` are not empty, and tile `[0, total)`. -/
structure Tiles (total count : Nat) (off len : Nat → Nat) : Prop where
  start : off 0 = 0
  pos : ∀ i, i < count → 0 < len i
  next : ∀ i, i + 1 < count → off (i + 1) = off i + len i
  stop : ∀ i, i + 1 = count → off i + len i = total

theorem slice_append_slice (xs : Bytes) (a b : Nat) :
    slice xs 0 a ++ slice xs a b = slice xs 0 (a + b) := by
  simp only [slice, List.drop_zero]
  exact (List.take_add ..).symm

/-- **A tiling loses and repeats nothing.** -/
theorem Tiles.flatMap_slice {total count : Nat} {off len : Nat → Nat}
    (h : Tiles total count off len) (hcount : 0 < count) {xs : Bytes} (hxs : xs.length = total) :
    (List.range count).flatMap (fun i => slice xs (off i) (len i)) = xs := by
  have hpref : ∀ n, n < count →
      (List.range (n + 1)).flatMap (fun i => slice xs (off i) (len i)) =
        slice xs 0 (off n + len n) := by
    intro n
    induction n with
    | zero =>
      intro _
      simp [h.start]
    | succ n ih =>
      intro hn
      rw [List.range_succ, List.flatMap_append, ih (by omega), List.flatMap_singleton, h.next n hn,
        slice_append_slice]
  obtain ⟨n, rfl⟩ : ∃ n, count = n + 1 := ⟨count - 1, by omega⟩
  rw [hpref n (Nat.lt_succ_self n), h.stop n rfl, slice, List.drop_zero, ← hxs, List.take_length]

/-- A byte is in the range that is tiled if it is in one of the tiles. -/
theorem Tiles.covers {total count : Nat} {off len : Nat → Nat} (h : Tiles total count off len)
    (hcount : 0 < count) (b : Nat) : b < total ↔ ∃ i < count, off i ≤ b ∧ b < off i + len i := by
  have hend : ∀ i, i < count → (b < off i + len i ↔ ∃ j ≤ i, off j ≤ b ∧ b < off j + len j) := by
    intro i
    induction i with
    | zero =>
      intro _
      constructor
      · intro hb
        exact ⟨0, le_rfl, h.start.le.trans (Nat.zero_le b), hb⟩
      · rintro ⟨j, hj, -, hb⟩
        obtain rfl := Nat.le_zero.mp hj
        exact hb
    | succ i ih =>
      intro hi
      have hnext := h.next i hi
      have hprev := ih (by omega)
      constructor
      · intro hb
        by_cases hlt : b < off i + len i
        · obtain ⟨j, hj, hin⟩ := hprev.mp hlt
          exact ⟨j, by omega, hin⟩
        · exact ⟨i + 1, le_rfl, by omega, hb⟩
      · rintro ⟨j, hj, hin⟩
        by_cases hlast : j = i + 1
        · exact hlast ▸ hin.2
        · have := hprev.mpr ⟨j, by omega, hin⟩
          omega
  obtain ⟨n, rfl⟩ : ∃ n, count = n + 1 := ⟨count - 1, by omega⟩
  rw [← h.stop n rfl, hend n (Nat.lt_succ_self n)]
  exact exists_congr fun j => and_congr_left fun _ => Nat.lt_succ_iff.symm

/-- **Tiles that are placed modulo `modulus`**, each of which ends before it: they are placed one
after the other. -/
theorem Tiles.unwrapped {total count : Nat} {off len : Nat → Nat} (h : Tiles total count off len)
    {base modulus size : Nat} (hsize : size < modulus)
    (hfit : ∀ i < count, (base + off i) % modulus + len i ≤ size) :
    ∀ i < count, (base + off i) % modulus = base % modulus + off i := by
  intro i
  induction i with
  | zero =>
    intro _
    rw [h.start, Nat.add_zero, Nat.add_zero]
  | succ i ih =>
    intro hi
    have hprev := ih (by omega)
    have hle := hfit i (by omega)
    rw [hprev] at hle
    rw [h.next i hi, ← Nat.add_assoc, Nat.add_mod, hprev, Nat.add_mod_mod, Nat.mod_eq_of_lt]
    · omega
    · omega

/-! ## Pieces of one size -/

/-- How many pieces of `size` cover `total`. -/
def pieceCount (total size : Nat) : Nat := (total + size - 1) / size

/-- The length of piece `i`. -/
def pieceLength (total size i : Nat) : Nat :=
  if total - i * size < size then total - i * size else size

variable {total size i : Nat}

theorem lt_pieceCount_iff (hsize : 0 < size) : i < pieceCount total size ↔ i * size < total := by
  have h := Nat.le_div_iff_mul_le hsize (x := i + 1) (y := total + size - 1)
  rw [Nat.add_mul, Nat.one_mul] at h
  unfold pieceCount
  omega

theorem pieceCount_le_div {unit : Nat} (hsize : unit ∣ size) (hpos : 0 < size)
    (htotal : unit ∣ total) : pieceCount total size ≤ total / unit := by
  by_contra hlt
  have hi := (lt_pieceCount_iff hpos).mp (Nat.lt_of_not_le hlt)
  have hle : total / unit * unit ≤ total / unit * size :=
    Nat.mul_le_mul_left _ (Nat.le_of_dvd hpos hsize)
  rw [Nat.div_mul_cancel htotal] at hle
  omega

/-- **Pieces of one size tile.** -/
theorem tiles_pieces (hsize : 0 < size) :
    Tiles total (pieceCount total size) (fun i => i * size) (pieceLength total size) where
  start := Nat.zero_mul _
  pos i hi := by
    have := (lt_pieceCount_iff hsize).mp hi
    unfold pieceLength
    split <;> omega
  next i hi := by
    have := (lt_pieceCount_iff hsize).mp hi
    rw [Nat.add_mul, Nat.one_mul] at this ⊢
    unfold pieceLength
    split <;> omega
  stop i hi := by
    have hlt : i * size < total := (lt_pieceCount_iff hsize).mp (by omega)
    have hge : ¬ (i + 1) * size < total := by
      rw [← lt_pieceCount_iff hsize]
      omega
    rw [Nat.add_mul, Nat.one_mul] at hge
    unfold pieceLength
    split <;> omega

/-! ## Bit sets -/

/-- `bits` with the bits of `is` set. -/
def setAll (bits : List Bool) (is : List Nat) : List Bool :=
  is.foldl (fun bits i => bits.set i true) bits

variable {bits : List Bool} {is : List Nat} {n : Nat}

@[simp] theorem length_setAll : (setAll bits is).length = bits.length := by
  induction is generalizing bits with
  | nil => rfl
  | cons j is ih => exact ih.trans (List.length_set ..)

theorem getD_set_true (hi : i < bits.length) (j : Nat) :
    (bits.set i true).getD j false = (decide (j = i) || bits.getD j false) := by
  rw [List.getD_eq_getElem?_getD, List.getD_eq_getElem?_getD, List.getElem?_set]
  by_cases h : i = j
  · subst h
    simp [hi]
  · simp [h, Ne.symm h]

theorem getD_setAll (his : ∀ i ∈ is, i < bits.length) (j : Nat) :
    (setAll bits is).getD j false = (decide (j ∈ is) || bits.getD j false) := by
  induction is generalizing bits with
  | nil => simp [setAll]
  | cons i is ih =>
    have hi : i < bits.length := his i List.mem_cons_self
    show (setAll (bits.set i true) is).getD j false = _
    rw [ih fun k hk => by rw [List.length_set]; exact his k (List.mem_cons_of_mem _ hk),
      getD_set_true hi]
    by_cases hji : j = i <;> by_cases hjis : j ∈ is <;> simp [hji, hjis]

theorem count_set_true (hi : i < bits.length) (hclear : bits.getD i false = false) :
    (bits.set i true).count true = bits.count true + 1 := by
  rw [List.getD_eq_getElem _ _ hi] at hclear
  rw [List.count_set hi, hclear]
  simp

/-- **Setting bits that were clear counts them.** -/
theorem count_setAll (hnodup : is.Nodup) (his : ∀ i ∈ is, i < bits.length)
    (hclear : ∀ i ∈ is, bits.getD i false = false) :
    (setAll bits is).count true = bits.count true + is.length := by
  induction is generalizing bits with
  | nil => rfl
  | cons i is ih =>
    obtain ⟨hi, hnodup⟩ := List.nodup_cons.mp hnodup
    have hlt : i < bits.length := his i List.mem_cons_self
    show (setAll (bits.set i true) is).count true = _
    rw [ih hnodup, count_set_true hlt (hclear i List.mem_cons_self), List.length_cons]
    · omega
    · intro k hk
      rw [List.length_set]
      exact his k (List.mem_cons_of_mem _ hk)
    · intro k hk
      have hki : k ≠ i := by
        rintro rfl
        exact hi hk
      rw [getD_set_true hlt, hclear k (List.mem_cons_of_mem _ hk)]
      simpa using hki

/-- Bits that are all below `n` are at most `n`. -/
theorem count_le_of_bits (h : ∀ i, bits.getD i false = true → i < n) : bits.count true ≤ n := by
  have htail : (bits.drop n).count true = 0 := by
    rw [List.count_eq_zero]
    intro hmem
    obtain ⟨i, hi, hbit⟩ := List.mem_iff_getElem.mp hmem
    rw [List.getElem_drop] at hbit
    rw [List.length_drop] at hi
    have := h (n + i) (by rw [List.getD_eq_getElem _ _ (by omega)]; exact hbit)
    omega
  calc bits.count true = (bits.take n ++ bits.drop n).count true := by rw [List.take_append_drop]
    _ = (bits.take n).count true := by rw [List.count_append, htail, Nat.add_zero]
    _ ≤ (bits.take n).length := List.count_le_length
    _ ≤ n := List.length_take_le ..

theorem le_count_of_bits (h : ∀ i < n, bits.getD i false = true) : n ≤ bits.count true := by
  have htake : (bits.take n).count true = (bits.take n).length := by
    rw [List.count_eq_length]
    intro b hb
    obtain ⟨i, hi, rfl⟩ := List.mem_iff_getElem.mp hb
    rw [List.length_take] at hi
    have hbit := h i (by omega)
    rw [List.getD_eq_getElem _ _ (by omega)] at hbit
    rw [List.getElem_take, hbit]
  have hn : n ≤ bits.length := by
    by_contra hlt
    have hbit := h bits.length (by omega)
    rw [List.getD_eq_default _ _ (Nat.le_refl _)] at hbit
    cases hbit
  calc n = (bits.take n).length := (List.length_take_of_le hn).symm
    _ = (bits.take n).count true := htake.symm
    _ ≤ bits.count true := (List.take_sublist n bits).count_le true

/-- `n` bits that are all below `n` are all of them. -/
theorem getD_of_count_eq (h : ∀ i, bits.getD i false = true → i < n) (hcount : bits.count true = n)
    (hi : i < n) : bits.getD i false = true := by
  by_contra hclear
  have hlt : i < bits.length := by
    have hle : bits.count true ≤ bits.length := List.count_le_length
    omega
  have hset := count_set_true hlt (by simpa using hclear)
  have hle : (bits.set i true).count true ≤ n := by
    refine count_le_of_bits fun j hj => ?_
    rw [getD_set_true hlt, Bool.or_eq_true, decide_eq_true_iff] at hj
    rcases hj with rfl | hj
    · exact hi
    · exact h j hj
  omega

end YumeDisk.Lib
