import Mathlib.Data.List.Basic

/-!
# What is said of each entry of a history

* `EachAfter P xs`: each entry of `xs` is as `P` says, given the entries before it.
* `eachAfter_concat`: a history grows by an entry that is as `P` says.
* `split_cases`: where two entries of one history stand to each other.
-/

namespace YumeDisk.Lib

variable {α : Type*} {P : List α → α → Prop} {xs : List α} {x : α}

/-- Each entry of `xs`, and the entries before it, satisfy `P`. -/
def EachAfter (P : List α → α → Prop) (xs : List α) : Prop :=
  ∀ before x after, xs = before ++ x :: after → P before x

theorem eachAfter_nil : EachAfter P [] := fun before _ _ heq => by cases before <;> cases heq

theorem eachAfter_concat (h : EachAfter P xs) (hx : P xs x) : EachAfter P (xs ++ [x]) := by
  intro before y after heq
  rcases List.eq_nil_or_concat after with rfl | ⟨after, last, rfl⟩
  · obtain ⟨rfl, hlast⟩ := List.append_inj' heq rfl
    exact (List.cons.inj hlast).1 ▸ hx
  · have heq' : xs ++ [x] = (before ++ y :: after) ++ [last] := by
      rw [heq, List.append_assoc, List.cons_append, List.concat_eq_append]
    obtain ⟨rfl, -⟩ := List.append_inj' heq' rfl
    exact h before y after rfl

/-- The last entry. -/
theorem EachAfter.last (h : EachAfter P (xs ++ [x])) : P xs x := h xs x [] rfl

/-- Two entries of one history. -/
theorem split_cases {ys xs' ys' : List α} {x' : α} (h : xs ++ x :: ys = xs' ++ x' :: ys') :
    (xs = xs' ∧ x = x' ∧ ys = ys') ∨ x ∈ xs' ∨ x ∈ ys' := by
  rcases List.append_eq_append_iff.mp h with ⟨as, rfl, htail⟩ | ⟨as, rfl, htail⟩
  · cases as with
    | nil =>
      obtain ⟨rfl, rfl⟩ := List.cons.inj htail
      exact .inl ⟨(List.append_nil xs).symm, rfl, rfl⟩
    | cons a as =>
      obtain ⟨rfl, -⟩ := List.cons.inj htail
      exact .inr (.inl (by simp))
  · cases as with
    | nil =>
      obtain ⟨rfl, rfl⟩ := List.cons.inj htail
      exact .inl ⟨List.append_nil xs', rfl, rfl⟩
    | cons a as =>
      obtain ⟨-, rfl⟩ := List.cons.inj htail
      exact .inr (.inr (by simp))

end YumeDisk.Lib
