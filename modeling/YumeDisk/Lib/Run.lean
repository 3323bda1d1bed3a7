import Mathlib.Data.List.Induction

/-!
# Runs of a deterministic labelled transition system

`step s a` is the state after action `a` from `s`, or `none` if `a` is not enabled.  All the
nondeterminism of a modelled program (the scheduler, the outcome of an I/O) is in the action.

* `runFrom step s as`: the state after the actions `as`.
* `StepsMeet step G s as`: every step of that run is taken in a state that satisfies the guard `G`.
* `run_inv`, `run_inv_of_guard`: what one step preserves, a whole run preserves.
* `run_inv_history`: the same for what is said of a state and the run that led to it.
* `Happens`: a step of the run did something.  `Since`: and something has held ever since.
* `StepsMeet.mono`: a guard that gives another one.
* `stepsMeet_iff`, `stepsMeet_congr`: when a guard is exact.
-/

namespace YumeDisk.Lib

section Run

variable {σ α : Type} (step : σ → α → Option σ)

/-- The state after the actions `as`; `none` if one of them is not enabled when it is due. -/
def runFrom (s : σ) : List α → Option σ
  | [] => some s
  | a :: as =>
    match step s a with
    | none => none
    | some s' => runFrom s' as

/-- Every step of the run of `as` from `s` is taken in a state that satisfies `G`. -/
def StepsMeet (G : σ → α → Prop) (s : σ) : List α → Prop
  | [] => True
  | a :: as => G s a ∧ ∀ s', step s a = some s' → StepsMeet G s' as

variable {step}

theorem runFrom_cons {s s' : σ} {a : α} {as : List α} (h : runFrom step s (a :: as) = some s') :
    ∃ t, step s a = some t ∧ runFrom step t as = some s' := by
  unfold runFrom at h
  cases hs : step s a with
  | none => rw [hs] at h; cases h
  | some t => rw [hs] at h; exact ⟨t, rfl, h⟩

theorem runFrom_append {s : σ} (as bs : List α) :
    runFrom step s (as ++ bs) = (runFrom step s as).bind fun t => runFrom step t bs := by
  induction as generalizing s with
  | nil => rfl
  | cons a as ih =>
    simp only [List.cons_append, runFrom]
    cases step s a with
    | none => rfl
    | some t => exact ih

/-- A run that can be evaluated, and what can be checked of its last state. -/
theorem exists_run (step : σ → α → Option σ) (s : σ) (as : List α) (p : σ → Bool)
    (h : (runFrom step s as).any p = true) :
    ∃ t, runFrom step s as = some t ∧ p t = true :=
  (Option.any_eq_true p _).mp h

/-- One step of a guarded run. -/
theorem stepsMeet_cons {G : σ → α → Prop} {s t : σ} {a : α} {as : List α} (hG : G s a)
    (hs : step s a = some t) (h : StepsMeet step G t as) : StepsMeet step G s (a :: as) :=
  ⟨hG, fun _ ht => Option.some.inj (hs.symm.trans ht) ▸ h⟩

instance decidableStepsMeet {G : σ → α → Prop} [∀ s a, Decidable (G s a)] :
    ∀ (s : σ) (as : List α), Decidable (StepsMeet step G s as)
  | _, [] => isTrue trivial
  | s, a :: as =>
    match hs : step s a with
    | none =>
      decidable_of_iff (G s a)
        ⟨fun hG => ⟨hG, fun _ ht => (nomatch hs.symm.trans ht)⟩, And.left⟩
    | some t =>
      have := decidableStepsMeet (G := G) t as
      decidable_of_iff (G s a ∧ StepsMeet step G t as)
        ⟨fun h => stepsMeet_cons h.1 hs h.2, fun h => ⟨h.1, h.2 t hs⟩⟩

/-- **Invariant rule** for runs whose steps meet a guard. -/
theorem run_inv_of_guard {I : σ → Prop} {G : σ → α → Prop}
    (hstep : ∀ s a s', I s → G s a → step s a = some s' → I s') :
    ∀ (as : List α) (s s' : σ), I s → StepsMeet step G s as → runFrom step s as = some s' → I s'
  | [], _, _, h0, _, h => by
    exact Option.some.inj h ▸ h0
  | a :: as, s, s', h0, hG, h => by
    obtain ⟨t, ht, h'⟩ := runFrom_cons h
    exact run_inv_of_guard hstep as t s' (hstep s a t h0 hG.1 ht) (hG.2 t ht) h'

/-- **Invariant rule**: what holds at the start and is preserved by every step holds after every
run. -/
theorem run_inv {I : σ → Prop} (hstep : ∀ s a s', I s → step s a = some s' → I s') {as : List α}
    {s s' : σ} (h0 : I s) (h : runFrom step s as = some s') : I s' := by
  induction as generalizing s with
  | nil =>
    obtain rfl : s = s' := Option.some.inj h
    exact h0
  | cons a as ih =>
    obtain ⟨t, ht, h'⟩ := runFrom_cons h
    exact ih (hstep s a t h0 ht) h'

/-- **Invariant rule** for a relation between a state and the run that led to it. -/
theorem run_inv_history {I : List α → σ → Prop} {s₀ : σ} (h0 : I [] s₀)
    (hstep : ∀ as s a s', runFrom step s₀ as = some s → I as s → step s a = some s' →
      I (as ++ [a]) s') : ∀ {as : List α} {s : σ}, runFrom step s₀ as = some s → I as s := by
  intro as
  induction as using List.reverseRecOn with
  | nil =>
    intro s h
    exact Option.some.inj h ▸ h0
  | append_singleton as a ih =>
    intro s' h
    rw [runFrom_append] at h
    obtain ⟨s, hs, h'⟩ := Option.bind_eq_some_iff.mp h
    obtain ⟨t, ht, h''⟩ := runFrom_cons h'
    obtain rfl := Option.some.inj h''
    exact hstep as s a t hs (ih hs) ht

/-- **A guard is exact** when the steps that it lets through keep an invariant that gives `P`, and
those it does not break `P`: the steps of a run meet it if and only if `P` holds in every state the
run reaches. -/
theorem stepsMeet_iff {I P : σ → Prop} {G : σ → α → Prop} (hP : ∀ s, I s → P s)
    (hstep : ∀ s a s', I s → G s a → step s a = some s' → I s')
    (hbad : ∀ s a s', I s → ¬ G s a → step s a = some s' → ¬ P s') {as : List α} {s s' : σ}
    (h0 : I s) (h : runFrom step s as = some s') :
    StepsMeet step G s as ↔
      ∀ bs, bs <+: as → ∀ t, runFrom step s bs = some t → P t := by
  induction as generalizing s with
  | nil =>
    refine ⟨fun _ bs hbs t ht => ?_, fun _ => trivial⟩
    rw [List.prefix_nil.mp hbs] at ht
    exact Option.some.inj ht ▸ hP s h0
  | cons a as ih =>
    obtain ⟨u, hu, h'⟩ := runFrom_cons h
    constructor
    · rintro ⟨hG, hrest⟩ bs hbs t ht
      rcases List.prefix_cons_iff.mp hbs with rfl | ⟨cs, rfl, hcs⟩
      · exact Option.some.inj ht ▸ hP s h0
      · obtain ⟨v, hv, ht⟩ := runFrom_cons ht
        obtain rfl : u = v := Option.some.inj (hu.symm.trans hv)
        exact (ih (hstep s a u h0 hG hu) h').mp (hrest u hu) cs hcs t ht
    · intro hall
      have hPu : P u := hall [a] (by simp) u (by simp [runFrom, hu])
      have hG : G s a := by
        by_contra hG
        exact hbad s a u h0 hG hu hPu
      refine stepsMeet_cons hG hu ((ih (hstep s a u h0 hG hu) h').mpr fun bs hbs t ht => ?_)
      refine hall (a :: bs) (List.prefix_cons_inj a |>.mpr hbs) t ?_
      simpa [runFrom, hu] using ht

/-- A guard that gives another one in every state that a run reaches. -/
theorem StepsMeet.mono {I : σ → Prop} {G H : σ → α → Prop} (hGH : ∀ s a, I s → G s a → H s a)
    (hstep : ∀ s a s', I s → step s a = some s' → I s') {as : List α} {s : σ} (h0 : I s)
    (h : StepsMeet step G s as) : StepsMeet step H s as := by
  induction as generalizing s with
  | nil => trivial
  | cons a as ih => exact ⟨hGH s a h0 h.1, fun t ht => ih (hstep s a t h0 ht) (h.2 t ht)⟩

/-- Two guards that agree where the first lets a run go. -/
theorem stepsMeet_congr {I : σ → Prop} {G H : σ → α → Prop} (hGH : ∀ s a, I s → (H s a ↔ G s a))
    (hstep : ∀ s a s', I s → G s a → step s a = some s' → I s') {as : List α} {s : σ} (h0 : I s) :
    StepsMeet step H s as ↔ StepsMeet step G s as := by
  induction as generalizing s with
  | nil => exact Iff.rfl
  | cons a as ih =>
    have hhead := hGH s a h0
    exact ⟨fun ⟨hH, hrest⟩ => ⟨hhead.mp hH, fun t ht =>
        (ih (hstep s a t h0 (hhead.mp hH) ht)).mp (hrest t ht)⟩,
      fun ⟨hG, hrest⟩ => ⟨hhead.mpr hG, fun t ht =>
        (ih (hstep s a t h0 hG ht)).mpr (hrest t ht)⟩⟩

variable (step) in
/-- Some step of the run of `as` from `s₀` is a `P`. -/
def Happens (s₀ : σ) (as : List α) (P : σ → α → σ → Prop) : Prop :=
  ∃ as₁ a as₂ u u', as = as₁ ++ a :: as₂ ∧ runFrom step s₀ as₁ = some u ∧ step u a = some u' ∧
    P u a u'

variable (step) in
/-- One step of the run of `as` from `s₀` is a `P`, and `Q` holds of every state from there on. -/
def Since (s₀ : σ) (as : List α) (P : σ → α → σ → Prop) (Q : σ → Prop) : Prop :=
  ∃ as₁ a as₂ u u', as = as₁ ++ a :: as₂ ∧ runFrom step s₀ as₁ = some u ∧ step u a = some u' ∧
    P u a u' ∧ ∀ bs v, bs <+: as₂ → runFrom step u' bs = some v → Q v

variable {P : σ → α → σ → Prop} {Q : σ → Prop} {s₀ s s' : σ} {as : List α} {a : α}

/-- The last step is the one. -/
theorem since_last (hr : runFrom step s₀ as = some s) (hs : step s a = some s') (hP : P s a s')
    (hQ : Q s') : Since step s₀ (as ++ [a]) P Q := by
  refine ⟨as, a, [], s, s', rfl, hr, hs, hP, fun bs v hbs hv => ?_⟩
  rw [List.prefix_nil.mp hbs] at hv
  exact Option.some.inj hv ▸ hQ

/-- What has happened in a part of the run has happened in the run. -/
theorem Happens.of_prefix {bs : List α} (h : Happens step s₀ bs P) (hb : bs <+: as) :
    Happens step s₀ as P := by
  obtain ⟨as₁, a, as₂, u, u', rfl, hu, hu', hP⟩ := h
  obtain ⟨ds, rfl⟩ := hb
  exact ⟨as₁, a, as₂ ++ ds, u, u', by simp, hu, hu', hP⟩

/-- The run goes on. -/
theorem Since.concat (h : Since step s₀ as P Q) (hr : runFrom step s₀ as = some s)
    (hs : step s a = some s') (hQ : Q s') : Since step s₀ (as ++ [a]) P Q := by
  obtain ⟨as₁, b, as₂, u, u', rfl, hu, hu', hP, hall⟩ := h
  refine ⟨as₁, b, as₂ ++ [a], u, u', by simp, hu, hu', hP, fun bs v hbs hv => ?_⟩
  rcases List.prefix_concat_iff.mp hbs with rfl | hbs
  · have hr' : runFrom step u' as₂ = some s := by
      rw [runFrom_append, hu, Option.bind_some, runFrom, hu'] at hr
      exact hr
    rw [runFrom_append, hr', Option.bind_some, runFrom, hs] at hv
    exact Option.some.inj hv ▸ hQ
  · exact hall bs v hbs hv

end Run

end YumeDisk.Lib
