import Mathlib.Logic.Function.Basic
import Mathlib.Data.List.Nodup

/-!
# Maps of maps

An index of a program is often a map whose values are maps: `put` makes the inner map when the key
is new, `remove` drops it when its last entry goes.  An inner map is the list of its entries, in the
order in which they came.

* `Nested.put`, `Nested.remove`, `Nested.drop`, `Nested.find?`: the operations.
* `Nested.Tidy`: no inner map is empty or has two entries with one key; every operation keeps it.
* `Nested.find?_put`, `Nested.find?_remove`, `Nested.find?_drop`: what an operation leaves.
-/

namespace YumeDisk.Lib

variable {κ ι β : Type} [DecidableEq κ] [DecidableEq ι]

/-- A map to inner maps; `none` is a key that is not there. -/
abbrev Nested (κ ι β : Type) : Type := κ → Option (List (ι × β))

namespace Nested

/-- The entries under a key; none if the key is not there. -/
def entries (m : Nested κ ι β) (k : κ) : List (ι × β) := (m k).getD []

def keys (m : Nested κ ι β) (k : κ) : List ι := (m.entries k).map Prod.fst

/-- An entry is replaced, or comes last. -/
def putEntry (owned : List (ι × β)) (i : ι) (v : β) : List (ι × β) :=
  if i ∈ owned.map Prod.fst then owned.map fun e => if e.1 = i then (i, v) else e
  else owned ++ [(i, v)]

/-- `m[k][i] = v`; the inner map is made when it is not there. -/
def put (m : Nested κ ι β) (k : κ) (i : ι) (v : β) : Nested κ ι β :=
  Function.update m k (some (putEntry (m.entries k) i v))

/-- `delete(m[k], i)`, and `delete(m, k)` when the inner map has become empty. -/
def remove (m : Nested κ ι β) (k : κ) (i : ι) : Nested κ ι β :=
  match m k with
  | none => m
  | some owned =>
    let owned := owned.filter fun e => e.1 ≠ i
    Function.update m k (if owned.length = 0 then none else some owned)

/-- `delete(m, k)`. -/
def drop (m : Nested κ ι β) (k : κ) : Nested κ ι β := Function.update m k none

/-- `m[k][i]`. -/
def find? (m : Nested κ ι β) (k : κ) (i : ι) : Option β :=
  ((m.entries k).find? fun e => e.1 = i).map Prod.snd

/-- No inner map is empty, and none has a key twice. -/
structure Tidy (m : Nested κ ι β) : Prop where
  nonempty : ∀ k, m k ≠ some []
  nodup : ∀ k, (m.keys k).Nodup

variable {m : Nested κ ι β}

omit [DecidableEq κ] [DecidableEq ι] in
theorem tidy_empty : Tidy (fun _ => none : Nested κ ι β) where
  nonempty _ h := nomatch h
  nodup _ := List.nodup_nil

/-! ## The entries after an operation -/

theorem entries_put (m : Nested κ ι β) (k : κ) (i : ι) (v : β) (k' : κ) :
    (m.put k i v).entries k' = if k' = k then putEntry (m.entries k) i v else m.entries k' := by
  unfold entries put
  rw [Function.update_apply]
  by_cases hk : k' = k
  · rw [if_pos hk, if_pos hk, Option.getD_some]
    rfl
  · rw [if_neg hk, if_neg hk]

theorem entries_remove (m : Nested κ ι β) (k : κ) (i : ι) (k' : κ) :
    (m.remove k i).entries k' =
      if k' = k then (m.entries k).filter fun e => e.1 ≠ i else m.entries k' := by
  unfold remove entries
  by_cases hk : k' = k
  · subst hk
    rw [if_pos rfl]
    cases hm : m k' with
    | none =>
      dsimp only
      rw [hm]
      rfl
    | some owned =>
      dsimp only
      rw [Function.update_self, Option.getD_some]
      by_cases hempty : (owned.filter fun e => e.1 ≠ i).length = 0
      · rw [if_pos hempty, List.length_eq_zero_iff.mp hempty]
        rfl
      · rw [if_neg hempty, Option.getD_some]
  · rw [if_neg hk]
    cases hm : m k with
    | none => rfl
    | some owned =>
      dsimp only
      rw [Function.update_of_ne hk]

omit [DecidableEq ι] in
theorem entries_drop (m : Nested κ ι β) (k k' : κ) :
    (m.drop k).entries k' = if k' = k then [] else m.entries k' := by
  unfold entries drop
  rw [Function.update_apply]
  by_cases hk : k' = k
  · rw [if_pos hk, if_pos hk, Option.getD_none]
  · rw [if_neg hk, if_neg hk]

/-! ## The keys after an operation -/

theorem map_fst_putEntry (owned : List (ι × β)) (i : ι) (v : β) :
    (putEntry owned i v).map Prod.fst =
      if i ∈ owned.map Prod.fst then owned.map Prod.fst else owned.map Prod.fst ++ [i] := by
  unfold putEntry
  by_cases hi : i ∈ owned.map Prod.fst
  · rw [if_pos hi, if_pos hi, List.map_map]
    refine List.map_congr_left fun e _ => ?_
    by_cases he : e.1 = i
    · simp [he]
    · simp [he]
  · rw [if_neg hi, if_neg hi, List.map_append]
    rfl

theorem keys_put (m : Nested κ ι β) (k : κ) (i : ι) (v : β) (k' : κ) :
    (m.put k i v).keys k' = if k' = k then
      (if i ∈ m.keys k then m.keys k else m.keys k ++ [i]) else m.keys k' := by
  unfold keys
  rw [entries_put]
  by_cases hk : k' = k
  · rw [if_pos hk, if_pos hk, map_fst_putEntry]
  · rw [if_neg hk, if_neg hk]

theorem map_fst_filter (owned : List (ι × β)) (i : ι) :
    (owned.filter fun e => e.1 ≠ i).map Prod.fst = (owned.map Prod.fst).filter (· ≠ i) := by
  rw [List.filter_map]
  rfl

theorem keys_remove (m : Nested κ ι β) (k : κ) (i : ι) (k' : κ) :
    (m.remove k i).keys k' = if k' = k then (m.keys k).filter (· ≠ i) else m.keys k' := by
  unfold keys
  rw [entries_remove]
  by_cases hk : k' = k
  · rw [if_pos hk, if_pos hk, map_fst_filter]
  · rw [if_neg hk, if_neg hk]

omit [DecidableEq ι] in
theorem keys_drop (m : Nested κ ι β) (k k' : κ) :
    (m.drop k).keys k' = if k' = k then [] else m.keys k' := by
  unfold keys
  rw [entries_drop]
  by_cases hk : k' = k
  · rw [if_pos hk, if_pos hk]
    rfl
  · rw [if_neg hk, if_neg hk]

/-! ## Tidiness -/

theorem Tidy.put (h : m.Tidy) (k : κ) (i : ι) (v : β) : (m.put k i v).Tidy where
  nonempty k' hk' := by
    have hempty : (m.put k i v).keys k' = [] := by
      rw [keys, entries, hk']
      rfl
    rw [keys_put] at hempty
    by_cases hk : k' = k
    · rw [if_pos hk] at hempty
      by_cases hi : i ∈ m.keys k
      · rw [if_pos hi] at hempty
        exact List.ne_nil_of_mem hi hempty
      · rw [if_neg hi] at hempty
        exact List.append_ne_nil_of_right_ne_nil _ (List.cons_ne_nil _ _) hempty
    · exact h.nonempty k' ((Function.update_of_ne hk _ m).symm.trans hk')
  nodup k' := by
    rw [keys_put]
    by_cases hk : k' = k
    · rw [if_pos hk]
      by_cases hi : i ∈ m.keys k
      · rw [if_pos hi]
        exact h.nodup k
      · rw [if_neg hi]
        exact List.nodup_append.mpr ⟨h.nodup k, List.nodup_singleton i,
          fun x hx y hy hxy => hi (List.mem_singleton.mp hy ▸ hxy ▸ hx)⟩
    · rw [if_neg hk]
      exact h.nodup k'

theorem Tidy.remove (h : m.Tidy) (k : κ) (i : ι) : (m.remove k i).Tidy where
  nonempty k' hk' := by
    unfold Nested.remove at hk'
    cases hm : m k with
    | none =>
      rw [hm] at hk'
      exact h.nonempty k' hk'
    | some owned =>
      rw [hm] at hk'
      dsimp only at hk'
      by_cases hk : k' = k
      · subst hk
        rw [Function.update_self] at hk'
        split_ifs at hk' with hempty
        exact hempty (List.length_eq_zero_iff.mpr (Option.some.inj hk'))
      · rw [Function.update_of_ne hk] at hk'
        exact h.nonempty k' hk'
  nodup k' := by
    rw [keys_remove]
    by_cases hk : k' = k
    · rw [if_pos hk]
      exact (h.nodup k).filter _
    · rw [if_neg hk]
      exact h.nodup k'

theorem Tidy.drop (h : m.Tidy) (k : κ) : (m.drop k).Tidy where
  nonempty k' hk' := by
    by_cases hk : k' = k
    · subst hk
      rw [Nested.drop, Function.update_self] at hk'
      cases hk'
    · exact h.nonempty k' ((Function.update_of_ne hk _ m).symm.trans hk')
  nodup k' := by
    rw [keys_drop]
    by_cases hk : k' = k
    · rw [if_pos hk]
      exact List.nodup_nil
    · rw [if_neg hk]
      exact h.nodup k'

/-! ## What is found after an operation -/

/-- An entry that is replaced hides no other. -/
theorem find?_replace_ne (owned : List (ι × β)) {i j : ι} (hj : j ≠ i) (v : β) :
    (owned.map fun e => if e.1 = i then (i, v) else e).find? (fun e => e.1 = j) =
      owned.find? fun e => e.1 = j := by
  induction owned with
  | nil => rfl
  | cons e owned ih =>
    rw [List.map_cons]
    by_cases he : e.1 = j
    · rw [if_neg (he ▸ hj), List.find?_cons_of_pos (by simp [he]),
        List.find?_cons_of_pos (by simp [he])]
    · have hskip : (if e.1 = i then (i, v) else e).1 ≠ j := by
        by_cases hei : e.1 = i
        · rw [if_pos hei]
          exact hj.symm
        · rwa [if_neg hei]
      rw [List.find?_cons_of_neg (by simpa using hskip), List.find?_cons_of_neg (by simp [he]), ih]

theorem find?_replace (owned : List (ι × β)) {i : ι} (hi : i ∈ owned.map Prod.fst) (v : β) :
    (owned.map fun e => if e.1 = i then (i, v) else e).find? (fun e => e.1 = i) = some (i, v) := by
  induction owned with
  | nil => cases hi
  | cons e owned ih =>
    rw [List.map_cons]
    by_cases he : e.1 = i
    · rw [if_pos he, List.find?_cons_of_pos (by simp)]
    · rw [if_neg he, List.find?_cons_of_neg (by simp [he])]
      rw [List.map_cons] at hi
      exact ih ((List.mem_cons.mp hi).resolve_left fun h => he h.symm)

theorem find?_putEntry (owned : List (ι × β)) (i : ι) (v : β) (j : ι) :
    ((putEntry owned i v).find? fun e => e.1 = j).map Prod.snd =
      if j = i then some v else (owned.find? fun e => e.1 = j).map Prod.snd := by
  unfold putEntry
  by_cases hi : i ∈ owned.map Prod.fst
  · rw [if_pos hi]
    by_cases hj : j = i
    · rw [if_pos hj, hj, find?_replace owned hi]
      rfl
    · rw [if_neg hj, find?_replace_ne owned hj]
  · rw [if_neg hi, List.find?_append]
    by_cases hj : j = i
    · subst hj
      rw [if_pos rfl, List.find?_eq_none.mpr fun e he => by
        simpa using fun h : e.1 = j => hi (h ▸ List.mem_map_of_mem he)]
      simp
    · rw [if_neg hj, List.find?_cons_of_neg (by simpa using Ne.symm hj), List.find?_nil,
        Option.or_none]

theorem find?_put (m : Nested κ ι β) (k : κ) (i : ι) (v : β) (k' : κ) (i' : ι) :
    (m.put k i v).find? k' i' = if k' = k ∧ i' = i then some v else m.find? k' i' := by
  unfold find?
  rw [entries_put]
  by_cases hk : k' = k
  · subst hk
    rw [if_pos rfl, find?_putEntry]
    by_cases hi : i' = i
    · rw [if_pos hi, if_pos ⟨rfl, hi⟩]
    · rw [if_neg hi, if_neg fun h => hi h.2]
  · rw [if_neg hk, if_neg fun h => hk h.1]

theorem find?_remove (m : Nested κ ι β) (k : κ) (i : ι) (k' : κ) (i' : ι) :
    (m.remove k i).find? k' i' = if k' = k ∧ i' = i then none else m.find? k' i' := by
  unfold find?
  rw [entries_remove]
  by_cases hk : k' = k
  · subst hk
    rw [if_pos rfl, List.find?_filter]
    by_cases hi : i' = i
    · subst hi
      rw [if_pos ⟨rfl, rfl⟩, List.find?_eq_none.mpr fun e _ => by simp]
      rfl
    · rw [if_neg fun h => hi h.2]
      congr 2
      funext e
      by_cases he : e.1 = i'
      · simp [he, hi]
      · simp [he]
  · rw [if_neg hk, if_neg fun h => hk h.1]

omit [DecidableEq κ] in
/-- An entry of an inner map is what is found under its key. -/
theorem Tidy.mem_entries (h : m.Tidy) {k : κ} {i : ι} {v : β} :
    (i, v) ∈ m.entries k ↔ m.find? k i = some v := by
  unfold find?
  have hnodup : ((m.entries k).map Prod.fst).Nodup := h.nodup k
  generalize m.entries k = owned at hnodup
  induction owned with
  | nil => simp
  | cons e owned ih =>
    rw [List.map_cons, List.nodup_cons] at hnodup
    by_cases he : e.1 = i
    · rw [List.find?_cons_of_pos (by simp [he])]
      constructor
      · intro hmem
        rcases List.mem_cons.mp hmem with rfl | hmem
        · rfl
        · exact absurd (he ▸ List.mem_map_of_mem hmem) hnodup.1
      · intro hv
        obtain rfl := Option.some.inj hv
        rw [← he]
        exact List.mem_cons_self
    · have hne : (i, v) ≠ e := fun hie => he (hie ▸ rfl)
      rw [List.find?_cons_of_neg (by simp [he]), List.mem_cons, or_iff_right hne]
      exact ih hnodup.2

end Nested

end YumeDisk.Lib
