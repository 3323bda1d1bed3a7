import Mathlib.Logic.Function.Basic

/-!
# Maps of which one entry is changed

A map is a function to `Option`; `Function.update` puts an entry in, or takes it out.

* `update_some`, `update_none`: where an entry of the map that is left comes from.
-/

namespace YumeDisk.Lib

variable {κ β : Type} [DecidableEq κ] {m : κ → Option β} {k k' : κ} {x y : β}

/-- The entry is the one that was put in, or one of another key. -/
theorem update_some (h : Function.update m k (some x) k' = some y) :
    k' = k ∧ x = y ∨ k' ≠ k ∧ m k' = some y := by
  by_cases hk : k' = k
  · subst hk
    rw [Function.update_self] at h
    exact .inl ⟨rfl, Option.some.inj h⟩
  · rw [Function.update_of_ne hk] at h
    exact .inr ⟨hk, h⟩

/-- The entry is not the one that was taken out. -/
theorem update_none (h : Function.update m k none k' = some y) : k' ≠ k ∧ m k' = some y := by
  by_cases hk : k' = k
  · subst hk
    rw [Function.update_self] at h
    cases h
  · rw [Function.update_of_ne hk] at h
    exact ⟨hk, h⟩

end YumeDisk.Lib
