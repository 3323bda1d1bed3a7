import Mathlib.Data.List.Induction
import Mathlib.Data.List.Perm.Basic

/-!
# Sorting by a comparison

A comparison need not be an order; `sortBy` and `minBy` are what a stable sort by insertion and a
search for the first least element make of any.  `sort_by` of Rust inserts only up to 20 elements:
for longer lists it makes the same of a comparison that is an order, and may make something else of
one that is not.

* `OrderedOn compare as`: the comparison orders the elements of `as`, some of them alike.
* `pairwise_sortBy`: then the sorted list is in order.
* `sortBy_eq_of_perm`: **when no two are alike** it does not depend on the order they come in.
* `minBy_eq_some`: the least element.
-/

namespace YumeDisk.Lib

variable {α β : Type}

/-- `a` behind the elements that it is not less than; the last one is the first of the list. -/
def insertTail (compare : α → α → Ordering) (a : α) : List α → List α
  | [] => [a]
  | b :: bs => if compare a b = .lt then b :: insertTail compare a bs else a :: b :: bs

/-- The elements are inserted from the left on. -/
def sortBy (compare : α → α → Ordering) (as : List α) : List α :=
  (as.foldl (fun sorted a => insertTail compare a sorted) []).reverse

/-- The first of the least elements. -/
def minBy (compare : α → α → Ordering) (as : List α) : Option α :=
  as.foldl
    (fun best a =>
      match best with
      | none => some a
      | some least => if compare least a = .gt then some a else some least)
    none

/-- `compare` orders the elements of `as`. -/
structure OrderedOn (compare : α → α → Ordering) (as : List α) : Prop where
  swap : ∀ a ∈ as, ∀ b ∈ as, compare b a = (compare a b).swap
  trans : ∀ a ∈ as, ∀ b ∈ as, ∀ c ∈ as, compare a b ≠ .gt → compare b c ≠ .gt → compare a c ≠ .gt

/-- No two elements of `as` are alike. -/
def DistinctOn (compare : α → α → Ordering) (as : List α) : Prop :=
  ∀ a ∈ as, ∀ b ∈ as, compare a b = .eq → a = b

variable {compare : α → α → Ordering} {as bs : List α} {a b : α}

namespace OrderedOn

theorem subset (h : OrderedOn compare as) (hsub : bs ⊆ as) : OrderedOn compare bs where
  swap _ ha _ hb := h.swap _ (hsub ha) _ (hsub hb)
  trans _ ha _ hb _ hc := h.trans _ (hsub ha) _ (hsub hb) _ (hsub hc)

theorem of_map {f : β → α} {bs : List β} (h : OrderedOn compare (bs.map f)) :
    OrderedOn (fun b b' => compare (f b) (f b')) bs where
  swap _ ha _ hb := h.swap _ (List.mem_map_of_mem ha) _ (List.mem_map_of_mem hb)
  trans _ ha _ hb _ hc :=
    h.trans _ (List.mem_map_of_mem ha) _ (List.mem_map_of_mem hb) _ (List.mem_map_of_mem hc)

theorem ne_gt_iff (h : OrderedOn compare as) (ha : a ∈ as) (hb : b ∈ as) :
    compare a b ≠ .gt ↔ compare b a ≠ .lt := by
  rw [h.swap a ha b hb]
  cases compare a b <;> decide

theorem ne_gt_of_eq_lt (h : compare a b = .lt) : compare a b ≠ .gt := by
  rw [h]
  decide

theorem self (h : OrderedOn compare as) (ha : a ∈ as) : compare a a = .eq := by
  have hswap := h.swap a ha a ha
  revert hswap
  cases compare a a <;> decide

end OrderedOn

theorem DistinctOn.eq_of_ne_gt (hdistinct : DistinctOn compare as) (h : OrderedOn compare as)
    (ha : a ∈ as) (hb : b ∈ as) (hab : compare a b ≠ .gt) (hba : compare b a ≠ .gt) : a = b := by
  refine hdistinct a ha b hb ?_
  have hlt := (h.ne_gt_iff hb ha).mp hba
  cases hc : compare a b with
  | lt => exact absurd hc hlt
  | eq => rfl
  | gt => exact absurd hc hab

/-! ## The sort -/

theorem insertTail_perm (a : α) (as : List α) : (insertTail compare a as).Perm (a :: as) := by
  induction as with
  | nil => exact .refl _
  | cons b bs ih =>
    rw [insertTail]
    split_ifs
    · exact (ih.cons b).trans (.swap a b bs)
    · exact .refl _

theorem foldl_insertTail_perm (as sorted : List α) :
    (as.foldl (fun sorted a => insertTail compare a sorted) sorted).Perm (as ++ sorted) := by
  induction as generalizing sorted with
  | nil => exact .refl _
  | cons a as ih =>
    refine (ih (insertTail compare a sorted)).trans ?_
    exact ((insertTail_perm a sorted).append_left as).trans List.perm_middle

theorem sortBy_perm (compare : α → α → Ordering) (as : List α) : (sortBy compare as).Perm as :=
  (List.reverse_perm _).trans (by simpa using foldl_insertTail_perm as ([] : List α))

@[simp] theorem mem_sortBy : a ∈ sortBy compare as ↔ a ∈ as := (sortBy_perm compare as).mem_iff

/-- `a` comes to its place. -/
theorem pairwise_insertTail (h : OrderedOn compare (a :: as))
    (hsorted : as.Pairwise fun x y => compare y x ≠ .gt) :
    (insertTail compare a as).Pairwise fun x y => compare y x ≠ .gt := by
  induction as with
  | nil => exact List.pairwise_singleton _ _
  | cons b bs ih =>
    obtain ⟨hb, hbs⟩ := List.pairwise_cons.mp hsorted
    have ha : a ∈ a :: b :: bs := List.mem_cons_self
    have hmem : b ∈ a :: b :: bs := List.mem_cons_of_mem _ List.mem_cons_self
    rw [insertTail]
    split_ifs with hlt
    · refine List.pairwise_cons.mpr ⟨fun c hc => ?_, ih (h.subset ?_) hbs⟩
      · rcases List.mem_cons.mp ((insertTail_perm a bs).mem_iff.mp hc) with rfl | hc
        · exact OrderedOn.ne_gt_of_eq_lt hlt
        · exact hb c hc
      · exact List.cons_subset_cons a (List.subset_cons_self b bs)
    · have hba : compare b a ≠ .gt := (h.ne_gt_iff hmem ha).mpr hlt
      refine List.pairwise_cons.mpr ⟨fun c hc => ?_, hsorted⟩
      rcases List.mem_cons.mp hc with rfl | hc
      · exact hba
      · exact h.trans c (by simp [hc]) b hmem a ha (hb c hc) hba

theorem pairwise_foldl_insertTail {sorted : List α} (h : OrderedOn compare (as ++ sorted))
    (hsorted : sorted.Pairwise fun x y => compare y x ≠ .gt) :
    (as.foldl (fun sorted a => insertTail compare a sorted) sorted).Pairwise
      fun x y => compare y x ≠ .gt := by
  induction as generalizing sorted with
  | nil => exact hsorted
  | cons a as ih =>
    refine ih (h.subset fun x hx => ?_) (pairwise_insertTail (h.subset fun x hx => ?_) hsorted)
    · rcases List.mem_append.mp hx with hx | hx
      · exact List.mem_append_left _ (List.mem_cons_of_mem _ hx)
      · rcases List.mem_cons.mp ((insertTail_perm a sorted).mem_iff.mp hx) with rfl | hx
        · exact List.mem_append_left _ List.mem_cons_self
        · exact List.mem_append_right _ hx
    · rcases List.mem_cons.mp hx with rfl | hx
      · exact List.mem_append_left _ List.mem_cons_self
      · exact List.mem_append_right _ hx

theorem pairwise_sortBy (h : OrderedOn compare as) :
    (sortBy compare as).Pairwise fun x y => compare x y ≠ .gt :=
  List.pairwise_reverse.mpr
    (pairwise_foldl_insertTail (h.subset (by simp)) List.Pairwise.nil)

/-- **One order of the elements**: the sorted list does not depend on the order they come in. -/
theorem sortBy_eq_of_perm (h : OrderedOn compare as) (hdistinct : DistinctOn compare as)
    (hperm : bs.Perm as) : sortBy compare bs = sortBy compare as := by
  have hsub : ∀ {x}, x ∈ sortBy compare bs → x ∈ as := fun hx => hperm.subset (mem_sortBy.mp hx)
  refine List.Perm.eq_of_pairwise (fun x y hx hy (hxy : compare x y ≠ .gt) hyx => ?_)
    (pairwise_sortBy (h.subset hperm.subset)) (pairwise_sortBy h)
    ((sortBy_perm compare bs).trans (hperm.trans (sortBy_perm compare as).symm))
  exact hdistinct.eq_of_ne_gt h (hsub hx) (mem_sortBy.mp hy) hxy hyx

/-! ## The least element -/

theorem minBy_concat (as : List α) (a : α) :
    minBy compare (as ++ [a]) =
      match minBy compare as with
      | none => some a
      | some least => if compare least a = .gt then some a else some least := by
  simp [minBy, List.foldl_append]

theorem minBy_spec (h : OrderedOn compare as) :
    (as = [] ∧ minBy compare as = none) ∨
      ∃ least ∈ as, minBy compare as = some least ∧ ∀ a ∈ as, compare least a ≠ .gt := by
  induction as using List.reverseRecOn with
  | nil => exact .inl ⟨rfl, rfl⟩
  | append_singleton as a ih =>
    have ha : a ∈ as ++ [a] := by simp
    refine .inr ?_
    rw [minBy_concat]
    rcases ih (h.subset (List.subset_append_left _ _)) with ⟨rfl, hnone⟩ | ⟨least, hl, hsome, hle⟩
    · rw [hnone]
      refine ⟨a, ha, rfl, fun x hx => ?_⟩
      obtain rfl : x = a := by simpa using hx
      rw [h.self ha]
      decide
    · have hl' := List.mem_append_left [a] hl
      rw [hsome]
      dsimp only
      split_ifs with hgt
      · have hal : compare a least ≠ .gt := by
          rw [h.swap least hl' a ha, hgt]
          decide
        refine ⟨a, ha, rfl, fun x hx => ?_⟩
        rcases List.mem_append.mp hx with hx' | hx'
        · exact h.trans a ha least hl' x hx hal (hle x hx')
        · obtain rfl := List.mem_singleton.mp hx'
          rw [h.self ha]
          decide
      · refine ⟨least, hl', rfl, fun x hx => ?_⟩
        rcases List.mem_append.mp hx with hx' | hx'
        · exact hle x hx'
        · obtain rfl := List.mem_singleton.mp hx'
          exact hgt

/-- **The least element.** -/
theorem minBy_eq_some (h : OrderedOn compare as) (hdistinct : DistinctOn compare as) :
    minBy compare as = some a ↔ a ∈ as ∧ ∀ b ∈ as, compare a b ≠ .gt := by
  rcases minBy_spec h with ⟨rfl, hnone⟩ | ⟨least, hl, hsome, hle⟩
  · rw [hnone]
    exact iff_of_false (by rintro ⟨⟩) fun ha => by cases ha.1
  · rw [hsome]
    constructor
    · intro he
      obtain rfl := Option.some.inj he
      exact ⟨hl, hle⟩
    · rintro ⟨ha, hmin⟩
      exact congrArg some (hdistinct.eq_of_ne_gt h hl ha (hle a ha) (hmin least hl))

end YumeDisk.Lib
