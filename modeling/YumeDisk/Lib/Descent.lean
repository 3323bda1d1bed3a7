import Mathlib.Order.Basic
import YumeDisk.Lib.Exec

/-!
# Computations that only descend

A computation may write its state many times, and what it writes may come to nothing: whether it
leaves a view of the state as it was cannot be read off its last write.  When each of its parts
only takes the view down a partial order, the view is left as it was exactly when each part leaves
it, and what one part needs for that can be asked of the view before all of them.

* `DescendsAt view I p x s`: from `s`, `x` returns in a state whose view is not above that of `s`,
  and is the same exactly when `p`.
* `Descends view I P x`: the same from every state, with a `P` of its view.
* `Descends.bind`: **sequencing**; nothing that a part takes down is put back by a later one.
-/

namespace YumeDisk.Lib

variable {ε σ α β ω : Type} [PartialOrder ω]

/-- From `s`, if its view is in `I`, `x` returns in a `t` whose view is in `I` too and not above that
of `s`; it is the view of `s` if and only if `p`. -/
def DescendsAt (view : σ → ω) (I : ω → Prop) (p : Prop) (x : EStateM ε σ α) (s : σ) : Prop :=
  I (view s) → Ends x s (fun _ t => view t ≤ view s ∧ I (view t) ∧ (view t = view s ↔ p))
    fun _ _ => False

def Descends (view : σ → ω) (I P : ω → Prop) (x : EStateM ε σ α) : Prop :=
  ∀ s, DescendsAt view I (P (view s)) x s

section Descends

variable {view : σ → ω} {I P Q : ω → Prop} {p q : Prop} {s t : σ} {x : EStateM ε σ α}
  {f : α → EStateM ε σ β}

theorem descendsAt_of_ok {a : α} (hx : x s = .ok a t)
    (h : I (view s) → view t ≤ view s ∧ I (view t) ∧ (view t = view s ↔ p)) :
    DescendsAt view I p x s :=
  fun hs => ends_of_ok hx (h hs)

theorem descendsAt_of_same {a : α} (hx : x s = .ok a t) (h : view t = view s) (hp : p) :
    DescendsAt view I p x s :=
  descendsAt_of_ok hx fun hs => ⟨le_of_eq h, h ▸ hs, iff_of_true h hp⟩

theorem DescendsAt.congr (h : DescendsAt view I p x s) (hpq : p ↔ q) : DescendsAt view I q x s :=
  fun hs => (h hs).mono (fun _ _ ⟨hle, hI, hsame⟩ => ⟨hle, hI, hsame.trans hpq⟩) fun _ _ h => h

theorem descends_pure (a : α) : Descends view I (fun _ => True) (pure a : EStateM ε σ α) :=
  fun _ => descendsAt_of_same (run_pure a) rfl trivial

/-- What begins by reading the state. -/
theorem descendsAt_get_bind {f : σ → EStateM ε σ β} (h : DescendsAt view I p (f s) s) :
    DescendsAt view I p ((get : EStateM ε σ σ) >>= f) s :=
  fun hs => ends_bind_of_ok (t := s) rfl (h hs)

/-- **Sequencing.**  If the view is the same at the end it was the same in between, for it is
between the two. -/
theorem DescendsAt.bind (hx : DescendsAt view I p x s) (hf : ∀ a, Descends view I Q (f a)) :
    DescendsAt view I (p ∧ Q (view s)) (x >>= f) s := by
  intro hs
  refine Ends.bind (hx hs) fun a t ⟨hle, ht, hsame⟩ => ?_
  refine (hf a t ht).mono (fun _ u ⟨hle', hu, hsame'⟩ => ⟨hle'.trans hle, hu, ?_⟩) fun _ _ h => h
  constructor
  · intro h
    have hmid : view t = view s := le_antisymm hle (h ▸ hle')
    exact ⟨hsame.mp hmid, hmid ▸ hsame'.mp (h.trans hmid.symm)⟩
  · rintro ⟨hp, hQ⟩
    have hmid := hsame.mpr hp
    exact (hsame'.mpr (hmid ▸ hQ)).trans hmid

theorem Descends.bind (hx : Descends view I P x) (hf : ∀ a, Descends view I Q (f a)) :
    Descends view I (fun b => P b ∧ Q b) (x >>= f) :=
  fun s => (hx s).bind hf

end Descends

end YumeDisk.Lib
