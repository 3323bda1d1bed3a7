import Mathlib.Data.List.Basic

/-!
# Sequential execution with a state that survives an error

`EStateM ε σ α` is a computation on a state `σ` that returns a value or stops with an error; what
it wrote before the error stays written, as in a method that takes `&mut self` and returns a
`Result`.  The first lemmas run such a computation one step at a time.

`Ends x s Q E`: started in `s`, the computation ends normally in `Q` or with an error in `E`; the
rules reason about it without running it.  `Keeps R x`: from every state, whether it fails or not,
the computation ends in a state that `R` relates to the first.
-/

namespace YumeDisk.Lib

section Exec

variable {ε σ α β : Type} {s s' : σ} {x : EStateM ε σ α} {f : α → EStateM ε σ β}

theorem bind_ok {a : α} (h : x s = .ok a s') : (x >>= f) s = f a s' := by
  show EStateM.bind x f s = _
  simp [EStateM.bind, h]

theorem bind_error {e : ε} (h : x s = .error e s') : (x >>= f) s = .error e s' := by
  show EStateM.bind x f s = _
  simp [EStateM.bind, h]

/-- A sequence that succeeds succeeds in both parts. -/
theorem of_bind_ok {b : β} (h : (x >>= f) s = .ok b s') :
    ∃ a t, x s = .ok a t ∧ f a t = .ok b s' := by
  cases hx : x s with
  | ok a t => exact ⟨a, t, rfl, (bind_ok hx).symm.trans h⟩
  | error e t =>
    rw [bind_error hx] at h
    cases h

@[simp] theorem run_pure (a : α) : (pure a : EStateM ε σ α) s = .ok a s := rfl

@[simp] theorem run_throw (e : ε) : (throw e : EStateM ε σ α) s = .error e s := rfl

@[simp] theorem run_get_bind (f : σ → EStateM ε σ β) : ((get : EStateM ε σ σ) >>= f) s = f s s := rfl

@[simp] theorem run_set_bind (t : σ) (f : PUnit → EStateM ε σ β) :
    ((set t : EStateM ε σ PUnit) >>= f) s = f ⟨⟩ t := rfl

@[simp] theorem run_modify_bind (g : σ → σ) (f : PUnit → EStateM ε σ β) :
    ((modify g : EStateM ε σ PUnit) >>= f) s = f ⟨⟩ (g s) := rfl

@[simp] theorem run_pure_bind (a : α) : ((pure a : EStateM ε σ α) >>= f) s = f a s := rfl

@[simp] theorem run_throw_bind (e : ε) : ((throw e : EStateM ε σ α) >>= f) s = .error e s := rfl

@[simp] theorem run_set (t : σ) : (set t : EStateM ε σ PUnit) s = .ok ⟨⟩ t := rfl

@[simp] theorem run_modify (g : σ → σ) : (modify g : EStateM ε σ PUnit) s = .ok ⟨⟩ (g s) := rfl

end Exec

/-- From `s`, `x` returns a value and a state in `Q`, or stops with an error and a state in `E`. -/
def Ends {ε σ α : Type} (x : EStateM ε σ α) (s : σ) (Q : α → σ → Prop) (E : ε → σ → Prop) : Prop :=
  match x s with
  | .ok a t => Q a t
  | .error e t => E e t

section Ends

variable {ε σ α β : Type} {s t : σ} {x : EStateM ε σ α} {f : α → EStateM ε σ β}
  {Q Q' : α → σ → Prop} {E E' : ε → σ → Prop}

theorem ends_of_ok {a : α} (h : x s = .ok a t) (hq : Q a t) : Ends x s Q E := by
  simp only [Ends, h]
  exact hq

theorem ends_of_error {e : ε} (h : x s = .error e t) (he : E e t) : Ends x s Q E := by
  simp only [Ends, h]
  exact he

/-- Of a computation whose outcome does not matter. -/
theorem ends_true (x : EStateM ε σ α) (s : σ) : Ends x s (fun _ _ => True) fun _ _ => True := by
  cases hx : x s with
  | ok a t => exact ends_of_ok hx trivial
  | error e t => exact ends_of_error hx trivial

theorem Ends.mono (h : Ends x s Q E) (hq : ∀ a t, Q a t → Q' a t) (he : ∀ e t, E e t → E' e t) :
    Ends x s Q' E' := by
  unfold Ends at h ⊢
  cases hx : x s with
  | ok a t => rw [hx] at h; exact hq a t h
  | error e t => rw [hx] at h; exact he e t h

theorem Ends.and (h : Ends x s Q E) (h' : Ends x s Q' E') :
    Ends x s (fun a t => Q a t ∧ Q' a t) fun e t => E e t ∧ E' e t := by
  unfold Ends at *
  cases hx : x s with
  | ok a t =>
    rw [hx] at h h'
    exact ⟨h, h'⟩
  | error e t =>
    rw [hx] at h h'
    exact ⟨h, h'⟩

/-- **Sequencing.** -/
theorem Ends.bind {R : β → σ → Prop} (h : Ends x s Q E) (hf : ∀ a t, Q a t → Ends (f a) t R E) :
    Ends (x >>= f) s R E := by
  unfold Ends at h
  cases hx : x s with
  | ok a t =>
    rw [hx] at h
    have := hf a t h
    unfold Ends at this ⊢
    rw [bind_ok hx]
    exact this
  | error e t =>
    rw [hx] at h
    exact ends_of_error (bind_error hx) h

theorem ends_bind_of_ok {R : β → σ → Prop} {a : α} (h : x s = .ok a t) (hf : Ends (f a) t R E) :
    Ends (x >>= f) s R E := by
  unfold Ends at hf ⊢
  rw [bind_ok h]
  exact hf

/-- What a computation returns has what `Ends` says. -/
theorem Ends.of_ok (h : Ends x s Q E) {a : α} (hx : x s = .ok a t) : Q a t := by
  simp only [Ends, hx] at h
  exact h

theorem Ends.of_error (h : Ends x s Q E) {e : ε} (hx : x s = .error e t) : E e t := by
  simp only [Ends, hx] at h
  exact h

end Ends

/-- From every state `s`, `x` ends in some `t` with `R s t`, also when it fails. -/
def Keeps {ε σ α : Type} (R : σ → σ → Prop) (x : EStateM ε σ α) : Prop :=
  ∀ s, Ends x s (fun _ t => R s t) (fun _ t => R s t)

section Keeps

variable {ε σ α β : Type} {R : σ → σ → Prop} {x : EStateM ε σ α} {f : α → EStateM ε σ β}

theorem keeps_pure [Std.Refl R] (a : α) : Keeps R (pure a : EStateM ε σ α) :=
  fun s => ends_of_ok (run_pure a) (Std.Refl.refl s)

theorem keeps_throw [Std.Refl R] (e : ε) : Keeps R (throw e : EStateM ε σ α) :=
  fun s => ends_of_error (run_throw e) (Std.Refl.refl s)

/-- What comes after an error is not run. -/
theorem keeps_throw_bind [Std.Refl R] (e : ε) (f : α → EStateM ε σ β) :
    Keeps R ((throw e : EStateM ε σ α) >>= f) :=
  fun s => ends_of_error (run_throw_bind e) (Std.Refl.refl s)

theorem keeps_get [Std.Refl R] : Keeps R (get : EStateM ε σ σ) :=
  fun s => ends_of_ok (a := s) rfl (Std.Refl.refl s)

theorem keeps_modify {g : σ → σ} (h : ∀ s, R s (g s)) :
    Keeps R (modify g : EStateM ε σ PUnit) :=
  fun s => ends_of_ok (run_modify g) (h s)

theorem Keeps.bind [IsTrans σ R] (hx : Keeps R x) (hf : ∀ a, Keeps R (f a)) :
    Keeps R (x >>= f) := fun s =>
  Ends.bind (hx s) fun a t hst =>
    (hf a t).mono (fun _ _ htu => IsTrans.trans _ _ _ hst htu)
      fun _ _ htu => IsTrans.trans _ _ _ hst htu

theorem keeps_ite {p : Prop} [Decidable p] {y : EStateM ε σ α} (hx : Keeps R x) (hy : Keeps R y) :
    Keeps R (if p then x else y) := by
  by_cases hp : p
  · rwa [if_pos hp]
  · rwa [if_neg hp]

end Keeps

/-- A sequence of fallible computations succeeds only if both parts do. -/
theorem except_of_bind_ok {ε α β : Type} {x : Except ε α} {f : α → Except ε β} {b : β}
    (h : (x >>= f) = .ok b) : ∃ a, x = .ok a ∧ f a = .ok b := by
  cases x with
  | ok a => exact ⟨a, rfl, h⟩
  | error e => cases h

end YumeDisk.Lib
