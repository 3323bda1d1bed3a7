import YumeDisk.Lib.Run

/-!
# One thread among others

Of the actions of a run, `own` tells those of one thread; the others come in between in any number
and order.  What the thread knows between two of its actions has to be `Stable`: no action of the
others changes it, where the guard `G` of the run says what the others may do.

* `Threaded step own G P l Q`: in every run whose own actions are `l`, `P` at the start gives `Q` at
  the end.
* `Threaded.nil`, `Threaded.cons`: **the rules**, one for each own action.
* `Threaded.mono`, `Threaded.exists`: the rules of consequence.
-/

namespace YumeDisk.Lib

section Thread

variable {σ α : Type} (step : σ → α → Option σ) (own : α → Bool) (G : σ → α → Prop)

/-- No action of the others changes `P`. -/
def Stable (P : σ → Prop) : Prop :=
  ∀ s a s', P s → own a = false → G s a → step s a = some s' → P s'

/-- In every run whose own actions are `l`, from `P` to `Q`. -/
def Threaded (P : σ → Prop) (l : List α) (Q : σ → Prop) : Prop :=
  ∀ s as s', P s → as.filter own = l → StepsMeet step G s as → runFrom step s as = some s' → Q s'

variable {step own G} {P Q R : σ → Prop} {l : List α} {a : α}

theorem Threaded.nil (h : Stable step own G P) : Threaded step own G P [] P := by
  intro s as
  induction as generalizing s with
  | nil =>
    intro s' hP _ _ hr
    exact Option.some.inj hr ▸ hP
  | cons b as ih =>
    intro s' hP hown hG hr
    obtain ⟨t, ht, hr⟩ := runFrom_cons hr
    have hother : ¬ own b = true := fun hb => by
      rw [List.filter_cons_of_pos hb] at hown
      cases hown
    rw [List.filter_cons_of_neg hother] at hown
    exact ih t s' (h s b t hP (Bool.eq_false_iff.mpr hother) hG.1 ht) hown (hG.2 t ht) hr

/-- **One own action**, and then the others. -/
theorem Threaded.cons (h : Stable step own G P)
    (hstep : ∀ s s', P s → G s a → step s a = some s' → R s')
    (hrest : Threaded step own G R l Q) : Threaded step own G P (a :: l) Q := by
  intro s as
  induction as generalizing s with
  | nil =>
    intro s' _ hown
    cases hown
  | cons b as ih =>
    intro s' hP hown hG hr
    obtain ⟨t, ht, hr⟩ := runFrom_cons hr
    cases hb : own b with
    | true =>
      rw [List.filter_cons_of_pos hb] at hown
      obtain ⟨rfl, hrestOwn⟩ := List.cons.inj hown
      exact hrest t as s' (hstep s t hP hG.1 ht) hrestOwn (hG.2 t ht) hr
    | false =>
      rw [List.filter_cons_of_neg (by simp [hb])] at hown
      exact ih t s' (h s b t hP hb hG.1 ht) hown (hG.2 t ht) hr

/-- What an action has found out is known from there on. -/
theorem Threaded.exists {ι : Sort*} {R : ι → σ → Prop}
    (h : ∀ i, Threaded step own G (R i) l Q) :
    Threaded step own G (fun s => ∃ i, R i s) l Q :=
  fun s as s' ⟨i, hi⟩ hown hG hr => h i s as s' hi hown hG hr

/-- What does not depend on the state is known all along. -/
theorem Threaded.const {φ : Prop} (h : φ → Threaded step own G P l Q) :
    Threaded step own G (fun s => φ ∧ P s) l Q :=
  fun s as s' ⟨hφ, hP⟩ hown hG hr => h hφ s as s' hP hown hG hr

theorem Stable.exists {ι : Sort*} {R : ι → σ → Prop} (h : ∀ i, Stable step own G (R i)) :
    Stable step own G fun s => ∃ i, R i s :=
  fun s a s' ⟨i, hi⟩ hown hG hs => ⟨i, h i s a s' hi hown hG hs⟩

theorem stable_const (φ : Prop) : Stable step own G fun _ => φ := fun _ _ _ h _ _ _ => h

theorem Stable.and (h : Stable step own G P) (h' : Stable step own G Q) :
    Stable step own G fun s => P s ∧ Q s :=
  fun s a s' hP hown hG hs => ⟨h s a s' hP.1 hown hG hs, h' s a s' hP.2 hown hG hs⟩

end Thread

end YumeDisk.Lib
