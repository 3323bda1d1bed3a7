import Mathlib.Data.List.Nodup
import Mathlib.Data.List.Perm.Basic

/-!
# Tokens and their places

`held p` is the list of the tokens at place `p`: the requests on a queue, or in the hands of a
thread.  `Partition held`: no token is at two places or twice at one.  A step that moves tokens
between two places (`Moves`) keeps that, and every token keeps a place.
-/

namespace YumeDisk.Lib

variable {P T : Type}

/-- No token is at two places, or twice at one. -/
structure Partition (held : P → List T) : Prop where
  nodup : ∀ p, (held p).Nodup
  disjoint : ∀ p q x, x ∈ held p → x ∈ held q → p = q

/-- Tokens have moved from place to place, or not at all; none has come or gone. -/
def Moves (held held' : P → List T) : Prop :=
  (∀ r, (held' r).Perm (held r)) ∨
    ∃ p q, p ≠ q ∧ (held' p ++ held' q).Perm (held p ++ held q) ∧
      ∀ r, r ≠ p → r ≠ q → held' r = held r

/-- **Every token keeps a place.** -/
theorem Moves.mem_iff {held held' : P → List T} (h : Moves held held') (x : T) :
    (∃ r, x ∈ held' r) ↔ ∃ r, x ∈ held r := by
  rcases h with h | ⟨p, q, -, hperm, hother⟩
  · exact exists_congr fun r => (h r).mem_iff
  · have hpq : x ∈ held' p ∨ x ∈ held' q ↔ x ∈ held p ∨ x ∈ held q := by
      rw [← List.mem_append, ← List.mem_append, hperm.mem_iff]
    have key : ∀ f g : P → List T, (x ∈ f p ∨ x ∈ f q → x ∈ g p ∨ x ∈ g q) →
        (∀ r, r ≠ p → r ≠ q → f r = g r) → (∃ r, x ∈ f r) → ∃ r, x ∈ g r := by
      rintro f g hfg heq ⟨r, hr⟩
      by_cases hp : r = p
      · exact (hfg (.inl (hp ▸ hr))).elim (fun h => ⟨p, h⟩) fun h => ⟨q, h⟩
      · by_cases hq : r = q
        · exact (hfg (.inr (hq ▸ hr))).elim (fun h => ⟨p, h⟩) fun h => ⟨q, h⟩
        · exact ⟨r, heq r hp hq ▸ hr⟩
    exact ⟨key _ _ hpq.mp hother, key _ _ hpq.mpr fun r hp hq => (hother r hp hq).symm⟩

/-- **A move keeps tokens apart.** -/
theorem Partition.moves {held held' : P → List T} (h : Partition held) (hm : Moves held held') :
    Partition held' := by
  rcases hm with hm | ⟨p, q, hpq, hperm, hother⟩
  · exact ⟨fun r => (hm r).nodup_iff.mpr (h.nodup r), fun r t x hr ht =>
      h.disjoint r t x ((hm r).mem_iff.mp hr) ((hm t).mem_iff.mp ht)⟩
  · have hnd : (held' p ++ held' q).Nodup := by
      rw [hperm.nodup_iff, List.nodup_append]
      refine ⟨h.nodup p, h.nodup q, ?_⟩
      rintro x hx y hy rfl
      exact hpq (h.disjoint p q x hx hy)
    obtain ⟨hp, hq, hdis⟩ := List.nodup_append.mp hnd
    have hmem : ∀ x, x ∈ held' p ∨ x ∈ held' q → x ∈ held p ∨ x ∈ held q := by
      intro x hx
      rw [← List.mem_append, ← hperm.mem_iff, List.mem_append]
      exact hx
    -- a token of the two places is at no third
    have hthird : ∀ r x, r ≠ p → r ≠ q → x ∈ held' r → x ∈ held' p ∨ x ∈ held' q → False := by
      intro r x hrp hrq hr hx
      rw [hother r hrp hrq] at hr
      rcases hmem x hx with hx | hx
      · exact hrp (h.disjoint r p x hr hx)
      · exact hrq (h.disjoint r q x hr hx)
    refine ⟨fun r => ?_, fun r t x hr ht => ?_⟩
    · by_cases hrp : r = p
      · exact hrp ▸ hp
      · by_cases hrq : r = q
        · exact hrq ▸ hq
        · rw [hother r hrp hrq]
          exact h.nodup r
    · by_cases hrt : r = t
      · exact hrt
      · exfalso
        have hin : ∀ r, r = p ∨ r = q → x ∈ held' r → x ∈ held' p ∨ x ∈ held' q := by
          rintro r (rfl | rfl) hr
          · exact .inl hr
          · exact .inr hr
        by_cases hr' : r = p ∨ r = q
        · by_cases ht' : t = p ∨ t = q
          · rcases hr' with rfl | rfl <;> rcases ht' with rfl | rfl
            · exact hrt rfl
            · exact hdis x hr x ht rfl
            · exact hdis x ht x hr rfl
            · exact hrt rfl
          · exact hthird t x (fun h => ht' (.inl h)) (fun h => ht' (.inr h)) ht (hin r hr' hr)
        · by_cases ht' : t = p ∨ t = q
          · exact hthird r x (fun h => hr' (.inl h)) (fun h => hr' (.inr h)) hr (hin t ht' ht)
          · have hrp : r ≠ p := fun h => hr' (.inl h)
            have hrq : r ≠ q := fun h => hr' (.inr h)
            have htp : t ≠ p := fun h => ht' (.inl h)
            have htq : t ≠ q := fun h => ht' (.inr h)
            rw [hother r hrp hrq] at hr
            rw [hother t htp htq] at ht
            exact hrt (h.disjoint r t x hr ht)

/-- A new token. -/
theorem Partition.mint {held held' : P → List T} (h : Partition held) {p : P} {x : T}
    (hnew : ∀ r, x ∉ held r) (hp : held' p = x :: held p) (hother : ∀ r, r ≠ p → held' r = held r) :
    Partition held' := by
  have hmem : ∀ r y, y ∈ held' r → y = x ∧ r = p ∨ y ∈ held r := by
    intro r y hy
    by_cases hr : r = p
    · rw [hr, hp, List.mem_cons] at hy
      exact hy.imp (fun h => ⟨h, hr⟩) fun h => hr ▸ h
    · rw [hother r hr] at hy
      exact .inr hy
  refine ⟨fun r => ?_, fun r t y hr ht => ?_⟩
  · by_cases hr : r = p
    · rw [hr, hp, List.nodup_cons]
      exact ⟨hnew p, h.nodup p⟩
    · rw [hother r hr]
      exact h.nodup r
  · rcases hmem r y hr with ⟨hy, hrp⟩ | hy
    · rcases hmem t y ht with ⟨-, htp⟩ | hy'
      · rw [hrp, htp]
      · exact absurd (hy ▸ hy') (hnew t)
    · rcases hmem t y ht with ⟨hy', -⟩ | hy'
      · exact absurd (hy' ▸ hy) (hnew r)
      · exact h.disjoint r t y hy hy'

/-- Tokens that are dropped. -/
theorem Partition.drop {held held' : P → List T} (h : Partition held)
    (hsub : ∀ r, (held' r).Sublist (held r)) : Partition held' :=
  ⟨fun r => (hsub r).nodup (h.nodup r), fun r t x hr ht =>
    h.disjoint r t x ((hsub r).subset hr) ((hsub t).subset ht)⟩

end YumeDisk.Lib
