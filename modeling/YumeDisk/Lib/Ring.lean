import Mathlib.Data.List.Basic
import Mathlib.Logic.Function.Basic

/-!
# Rings

`window items cap head count`: the `count` items from `head` on, in an array of `cap` places that
goes round.

* `window_push`, `window_pop`: an item at the end, and the first one taken.
* `window_grow`: the items laid out from the start of a larger array.
-/

namespace YumeDisk.Lib

variable {α : Type}

/-- The items of a ring. -/
def window (items : Nat → α) (cap head count : Nat) : List α :=
  (List.range count).map fun i => items ((head + i) % cap)

@[simp] theorem length_window (items : Nat → α) (cap head count : Nat) :
    (window items cap head count).length = count := by
  rw [window, List.length_map, List.length_range]

theorem window_succ (items : Nat → α) (cap head count : Nat) :
    window items cap head (count + 1) =
      window items cap head count ++ [items ((head + count) % cap)] := by
  rw [window, List.range_succ, List.map_append]
  rfl

/-- Two places of a ring that are not full apart. -/
theorem place_ne {cap head i j : Nat} (hij : i < j) (hj : j < cap) :
    (head + i) % cap ≠ (head + j) % cap := by
  intro h
  have hzero := Nat.sub_mod_eq_zero_of_mod_eq h.symm
  rw [Nat.mod_eq_of_lt (by omega)] at hzero
  omega

/-- **An item is put at the end**, if there is room. -/
theorem window_push (items : Nat → α) {cap head count : Nat} (h : count < cap) (x : α) :
    window (Function.update items ((head + count) % cap) x) cap head (count + 1) =
      window items cap head count ++ [x] := by
  rw [window_succ, Function.update_self]
  congr 1
  apply List.map_congr_left
  intro i hi
  exact Function.update_of_ne (place_ne (List.mem_range.1 hi) h) ..

/-- **The first item is taken.** -/
theorem window_pop (items : Nat → α) {cap head count : Nat} (h : head < cap) :
    window items cap head (count + 1) =
      items head :: window items cap ((head + 1) % cap) count := by
  rw [window, List.range_succ_eq_map, List.map_cons, List.map_map, Nat.add_zero,
    Nat.mod_eq_of_lt h]
  congr 1
  apply List.map_congr_left
  intro i _
  rw [Function.comp_apply, Nat.mod_add_mod]
  congr 2
  omega

/-- **A larger array**, with the items from its start. -/
theorem window_grow {items items' : Nat → α} {cap cap' head count : Nat} (h : count ≤ cap')
    (hitems : ∀ i < count, items' i = items ((head + i) % cap)) :
    window items' cap' 0 count = window items cap head count := by
  apply List.map_congr_left
  intro i hi
  have hi' := List.mem_range.1 hi
  rw [Nat.zero_add, Nat.mod_eq_of_lt (by omega), hitems i hi']

end YumeDisk.Lib
