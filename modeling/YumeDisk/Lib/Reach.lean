import YumeDisk.Lib.Run

/-!
# Reaching a state

`Reaches step s P`: some run from `s` ends in a state that satisfies `P`.

* `Reaches.after`, `Reaches.bind`: one step first, one run after another.
* `Reaches.loop`: a run for each turn of a loop.
-/

namespace YumeDisk.Lib

variable {σ α : Type} {step : σ → α → Option σ} {s t : σ} {P Q : σ → Prop}

def Reaches (step : σ → α → Option σ) (s : σ) (P : σ → Prop) : Prop :=
  ∃ as t, runFrom step s as = some t ∧ P t

theorem Reaches.here (h : P s) : Reaches step s P := ⟨[], s, rfl, h⟩

theorem Reaches.after {a : α} (hs : step s a = some t) (h : Reaches step t P) :
    Reaches step s P := by
  obtain ⟨as, u, hu, hP⟩ := h
  refine ⟨a :: as, u, ?_, hP⟩
  rw [runFrom, hs]
  exact hu

theorem Reaches.bind (h : Reaches step s P) (hPQ : ∀ t, P t → Reaches step t Q) :
    Reaches step s Q := by
  obtain ⟨as, t, ht, hP⟩ := h
  obtain ⟨bs, u, hu, hQ⟩ := hPQ t hP
  refine ⟨as ++ bs, u, ?_, hQ⟩
  rw [runFrom_append, ht]
  exact hu

/-- **A loop**: each turn is run, up to the last. -/
theorem Reaches.loop {P : Nat → σ → Prop} {n : Nat} (h0 : P 0 s)
    (hturn : ∀ k < n, ∀ t, P k t → Reaches step t (P (k + 1))) : Reaches step s (P n) := by
  induction n with
  | zero => exact .here h0
  | succ n ih =>
    have hbefore := ih fun k hk => hturn k (by omega)
    exact hbefore.bind (hturn n (by omega))

end YumeDisk.Lib
