import Mathlib.Data.List.Induction
import YumeDisk.Lib.Bytes

/-!
# The last writer wins

A state is updated by a list of writers, and is watched in one place.  `hit a` is what the writer
`a` leaves there, if it writes there at all.

* `newest hit l`: what the last writer of `l` that writes there leaves.
* `watch_foldl`: the place after all of `l`.
* `newest_of_max`, `exists_newest`: the last writer of a sorted list is the one with the largest
  key.
-/

namespace YumeDisk.Lib

section Newest

variable {α β κ σ : Type}

/-- What the last of `l` that writes leaves. -/
def newest (hit : α → Option β) (l : List α) : Option β := (l.filterMap hit).getLast?

theorem newest_concat (hit : α → Option β) (l : List α) (a : α) :
    newest hit (l ++ [a]) = (hit a).or (newest hit l) := by
  unfold newest
  rw [List.filterMap_append]
  cases h : hit a with
  | none => simp [h]
  | some b => simp [h]

theorem newest_cons (hit : α → Option β) (a : α) (l : List α) :
    newest hit (a :: l) = (newest hit l).or (hit a) := by
  unfold newest
  cases h : hit a with
  | none => simp [h]
  | some b => rw [List.filterMap_cons_some h, List.getLast?_cons, ← Option.or_some]

theorem newest_eq_none {hit : α → Option β} {l : List α} :
    newest hit l = none ↔ ∀ a ∈ l, hit a = none := by
  unfold newest
  rw [List.getLast?_eq_none_iff, List.filterMap_eq_nil_iff]

theorem newest_congr {hit hit' : α → Option β} {l : List α} (h : ∀ a ∈ l, hit a = hit' a) :
    newest hit l = newest hit' l := by
  unfold newest
  rw [List.filterMap_congr h]

theorem newest_map {γ : Type} (hit : β → Option γ) (f : α → β) (l : List α) :
    newest hit (l.map f) = newest (fun a => hit (f a)) l := by
  unfold newest
  rw [List.filterMap_map]
  rfl

/-- Those that do not write there can be left out. -/
theorem newest_filter {hit : α → Option β} {l : List α} {p : α → Bool}
    (h : ∀ a ∈ l, p a = false → hit a = none) : newest hit (l.filter p) = newest hit l := by
  induction l with
  | nil => rfl
  | cons a l ih =>
    have hrest := ih fun b hb => h b (List.mem_cons_of_mem a hb)
    rw [newest_cons, List.filter_cons]
    by_cases hp : p a = true
    · rw [if_pos hp, newest_cons, hrest]
    · rw [if_neg hp, hrest, h a List.mem_cons_self (Bool.not_eq_true _ ▸ hp), Option.or_none]

/-- **The place after all the writers**, for a state that keeps an invariant meanwhile. -/
theorem watch_foldl {I : σ → Prop} {g : σ → α → σ} {watch : σ → β} {hit : α → Option β}
    {l : List α} (hg : ∀ a ∈ l, ∀ s, I s → I (g s a) ∧ watch (g s a) = (hit a).getD (watch s))
    {s : σ} (hs : I s) :
    I (l.foldl g s) ∧ watch (l.foldl g s) = (newest hit l).getD (watch s) := by
  induction l generalizing s with
  | nil => exact ⟨hs, rfl⟩
  | cons a l ih =>
    obtain ⟨hI, hwatch⟩ := hg a List.mem_cons_self s hs
    obtain ⟨hI', hwatch'⟩ := ih (fun b hb => hg b (List.mem_cons_of_mem a hb)) hI
    refine ⟨hI', ?_⟩
    rw [List.foldl_cons, hwatch', hwatch, newest_cons]
    cases newest hit l with
    | none => rfl
    | some b => rfl

variable [PartialOrder κ] {key : α → κ} {hit : α → Option β} {l : List α}

/-- In a sorted list the writer with the largest key is the last. -/
theorem newest_of_max (hsorted : l.Pairwise fun a b => key a ≤ key b) {a : α} (ha : a ∈ l) {v : β}
    (hv : hit a = some v) (hmax : ∀ b ∈ l, hit b ≠ none → key b ≤ key a)
    (hinj : ∀ b ∈ l, hit b ≠ none → key b = key a → hit b = hit a) : newest hit l = some v := by
  induction l using List.reverseRecOn with
  | nil => cases ha
  | append_singleton l c ih =>
    rw [newest_concat]
    obtain ⟨hsorted, -, hlast⟩ := List.pairwise_append.mp hsorted
    have hmem : ∀ b ∈ l, b ∈ l ++ [c] := fun b hb => List.mem_append_left _ hb
    by_cases hc : hit c = none
    · rcases List.mem_append.mp ha with ha | ha
      · rw [hc, Option.none_or]
        exact ih hsorted ha (fun b hb => hmax b (hmem b hb)) fun b hb => hinj b (hmem b hb)
      · rw [← List.mem_singleton.mp ha, hv] at hc
        cases hc
    · have hin : c ∈ l ++ [c] := List.mem_append_right _ List.mem_cons_self
      have hle : key a ≤ key c := by
        rcases List.mem_append.mp ha with ha | ha
        · exact hlast a ha c List.mem_cons_self
        · exact (congrArg key (List.mem_singleton.mp ha)).le
      rw [hinj c hin hc (le_antisymm (hmax c hin hc) hle), hv, Option.some_or]

/-- The last writer of a sorted list, when there is one. -/
theorem exists_newest (hsorted : l.Pairwise fun a b => key a ≤ key b) {v : β}
    (h : newest hit l = some v) :
    ∃ a ∈ l, hit a = some v ∧ ∀ b ∈ l, hit b ≠ none → key b ≤ key a := by
  induction l using List.reverseRecOn with
  | nil => cases h
  | append_singleton l c ih =>
    rw [newest_concat] at h
    obtain ⟨hsorted, -, hlast⟩ := List.pairwise_append.mp hsorted
    by_cases hc : hit c = none
    · rw [hc, Option.none_or] at h
      obtain ⟨a, ha, hv, hmax⟩ := ih hsorted h
      refine ⟨a, List.mem_append_left _ ha, hv, fun b hb hhit => ?_⟩
      rcases List.mem_append.mp hb with hb | hb
      · exact hmax b hb hhit
      · exact absurd (List.mem_singleton.mp hb ▸ hc) hhit
    · obtain ⟨w, hw⟩ := Option.ne_none_iff_exists'.mp hc
      rw [hw, Option.some_or] at h
      refine ⟨c, List.mem_append_right _ List.mem_cons_self, hw.trans h, fun b hb _ => ?_⟩
      rcases List.mem_append.mp hb with hb | hb
      · exact hlast b hb c List.mem_cons_self
      · exact (congrArg key (List.mem_singleton.mp hb)).le

end Newest

/-! ## Bytes -/

/-- What a write of `data` at `off` leaves at `x`. -/
def byteAt (off : Nat) (data : Bytes) (x : Nat) : Option UInt8 :=
  if off ≤ x then data[x - off]? else none

theorem byteAt_ne_none {off x : Nat} {data : Bytes} :
    byteAt off data x ≠ none ↔ off ≤ x ∧ x < off + data.length := by
  unfold byteAt
  by_cases h : off ≤ x
  · rw [if_pos h, ne_eq, List.getElem?_eq_none_iff]
    omega
  · rw [if_neg h]
    simp [h]

theorem byteAt_take {off x : Nat} {data : Bytes} (h : byteAt off data x = none) (n : Nat) :
    byteAt off (data.take n) x = none := by
  by_contra hne
  obtain ⟨hle, hlt⟩ := byteAt_ne_none.mp hne
  rw [List.length_take] at hlt
  exact byteAt_ne_none.mpr ⟨hle, by omega⟩ h

theorem writeAt_apply (st : Nat → UInt8) (off : Nat) (data : Bytes) (x : Nat) :
    writeAt st off data x = (byteAt off data x).getD (st x) := by
  unfold writeAt byteAt
  by_cases h : off ≤ x ∧ x < off + data.length
  · rw [if_pos h, if_pos h.1, List.getD_eq_getElem?_getD,
      List.getElem?_eq_getElem (by omega : x - off < data.length)]
    rfl
  · rw [if_neg h]
    by_cases hle : off ≤ x
    · rw [if_pos hle, List.getElem?_eq_none (by omega)]
      rfl
    · rw [if_neg hle]
      rfl

theorem getD_splice {xs ys : Bytes} {off i : Nat} (h : off + ys.length ≤ xs.length) :
    (splice xs off ys).getD i 0 = (byteAt off ys i).getD (xs.getD i 0) := by
  unfold splice byteAt
  have htake : (xs.take off).length = off := List.length_take_of_le (by omega)
  simp only [List.getD_eq_getElem?_getD]
  by_cases hlt : off ≤ i
  · rw [if_pos hlt, List.append_assoc, List.getElem?_append_right (by omega), htake]
    by_cases hin : i - off < ys.length
    · rw [List.getElem?_append_left hin, List.getElem?_eq_getElem hin]
      rfl
    · have hplace : off + ys.length + (i - off - ys.length) = i := by omega
      rw [List.getElem?_append_right (by omega), List.getElem?_drop, hplace,
        List.getElem?_eq_none (by omega : ys.length ≤ i - off)]
      rfl
  · rw [if_neg hlt, List.append_assoc, List.getElem?_append_left (by omega),
      List.getElem?_take_of_lt (by omega)]
    rfl

end YumeDisk.Lib
