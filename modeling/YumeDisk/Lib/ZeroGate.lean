import Mathlib.Algebra.Order.BigOperators.Group.List
import Mathlib.Algebra.Order.Group.Nat
import Mathlib.Algebra.Ring.Nat

/-!
# A count of references with an event that is signalled at zero

Threads take and give back references.  The one that takes the first clears the event, and the one
that gives back the last signals it; the count and the event are changed in two steps, and the
steps of other threads come between them.

* `Gate.Sound`: the count is what the threads hold, and at zero the event is signalled or a thread
  is about to signal it.
* `Gate.Sound.step`: what one thread does keeps it.
* `Gate.Sound.zero_of_quiet`: a count of zero with nobody about to signal is a signalled event.
-/

namespace YumeDisk.Lib

section Threads

variable {T : Type} {ts : List T} {i : Nat} {t : T}

/-- The threads after one of them has moved on, or ended. -/
def moveThread (ts : List T) (i : Nat) : Option T → List T
  | none => ts.eraseIdx i
  | some t => ts.set i t

theorem mem_moveThread {t' : Option T} {u : T} (hu : u ∈ moveThread ts i t') :
    u ∈ ts ∨ t' = some u := by
  cases t' with
  | none => exact .inl (List.mem_of_mem_eraseIdx hu)
  | some v =>
    rcases List.mem_or_eq_of_mem_set hu with hu | rfl
    · exact .inl hu
    · exact .inr rfl

/-- The threads are as they were, but for the one that has moved. -/
theorem mem_moveThread_of_mem (hi : ts[i]? = some t) {t' : Option T} {u : T} (hu : u ∈ ts) :
    u = t ∨ u ∈ moveThread ts i t' := by
  obtain ⟨j, hj, rfl⟩ := List.mem_iff_getElem.mp hu
  obtain ⟨hlt, rfl⟩ := List.getElem?_eq_some_iff.mp hi
  by_cases hij : j = i
  · subst hij
    exact .inl rfl
  · right
    cases t' with
    | none => exact List.mem_eraseIdx_iff_getElem.mpr ⟨j, hj, hij, rfl⟩
    | some v =>
      have hlength : j < (ts.set i v).length := by
        rw [List.length_set]
        exact hj
      exact List.mem_iff_getElem.mpr ⟨j, hlength, List.getElem_set_ne (Ne.symm hij) hlength⟩

theorem mem_moveThread_self (hi : ts[i]? = some t) (t' : T) : t' ∈ moveThread ts i (some t') := by
  obtain ⟨hlt, -⟩ := List.getElem?_eq_some_iff.mp hi
  exact List.mem_set hlt t'

/-- What a thread holds, once it has moved on. -/
def refsAfter (refs : T → Nat) (t' : Option T) : Nat := t'.elim 0 refs

theorem sum_moveThread (refs : T → Nat) (hi : ts[i]? = some t) (t' : Option T) :
    ((moveThread ts i t').map refs).sum + refs t = (ts.map refs).sum + refsAfter refs t' := by
  obtain ⟨hlt, rfl⟩ := List.getElem?_eq_some_iff.mp hi
  have hsplit : ts = ts.take i ++ ts[i] :: ts.drop (i + 1) := by
    rw [List.cons_getElem_drop_succ, List.take_append_drop]
  have hold : (ts.map refs).sum =
      ((ts.take i).map refs).sum + (refs ts[i] + ((ts.drop (i + 1)).map refs).sum) := by
    conv_lhs => rw [hsplit]
    rw [List.map_append, List.sum_append, List.map_cons, List.sum_cons]
  cases t' with
  | none =>
    have hnew : moveThread ts i none = ts.take i ++ ts.drop (i + 1) :=
      List.eraseIdx_eq_take_drop_succ ts i
    rw [hnew, hold, List.map_append, List.sum_append]
    simp only [refsAfter, Option.elim_none]
    omega
  | some v =>
    have hnew : moveThread ts i (some v) = ts.take i ++ v :: ts.drop (i + 1) :=
      List.set_eq_take_append_cons_drop.trans (if_pos hlt)
    rw [hnew, hold, List.map_append, List.sum_append, List.map_cons, List.sum_cons]
    simp only [refsAfter, Option.elim_some]
    omega

theorem refs_le_sum (refs : T → Nat) {u : T} (hu : u ∈ ts) : refs u ≤ (ts.map refs).sum :=
  List.le_sum_of_mem (List.mem_map_of_mem hu)

end Threads

/-! ## The gate -/

/-- A count, and the event that says that it is zero. -/
structure Gate where
  count : Nat := 0
  zero : Bool := true
deriving DecidableEq, Repr

inductive GateOp
  /-- The count goes up. -/
  | take
  /-- The event is cleared. -/
  | clear
  /-- The count goes down. -/
  | drop
  /-- The event is signalled. -/
  | signal
deriving DecidableEq, Repr

namespace Gate

def apply (g : Gate) : GateOp → Gate
  | .take => { g with count := g.count + 1 }
  | .clear => { g with zero := false }
  | .drop => { g with count := g.count - 1 }
  | .signal => { g with zero := true }

section Sound

variable {T : Type} {refs : T → Nat} {signals : T → Prop} {g : Gate} {ts : List T} {i : Nat} {t : T}

/-- The count is what the threads hold; at zero the event is signalled, or is about to be. -/
structure Sound (refs : T → Nat) (signals : T → Prop) (g : Gate) (ts : List T) : Prop where
  counted : g.count = (ts.map refs).sum
  signalled : g.count = 0 → g.zero = true ∨ ∃ t ∈ ts, signals t

/-- What a thread may do to the gate when it goes from `t` to `t'`: the one that takes the first
reference has it while it clears the event, and the one that drops the last then signals. -/
def Allows (refs : T → Nat) (signals : T → Prop) (g : Gate) (op : Option GateOp) (t : T)
    (t' : Option T) : Prop :=
  match op with
  | none => refsAfter refs t' = refs t ∧ (signals t → ∃ u, t' = some u ∧ signals u)
  | some .take => refsAfter refs t' = refs t + 1
  | some .clear => refsAfter refs t' = refs t ∧ 0 < refs t
  | some .drop => refsAfter refs t' + 1 = refs t ∧ (g.count = 1 → ∃ u, t' = some u ∧ signals u)
  | some .signal => refsAfter refs t' = refs t

/-- **A step of one thread.** -/
theorem Sound.step (h : Sound refs signals g ts) (hi : ts[i]? = some t) {op : Option GateOp}
    {t' : Option T} (ha : Allows refs signals g op t t') :
    Sound refs signals (op.elim g g.apply) (moveThread ts i t') := by
  have hsum := sum_moveThread refs hi t'
  have hle := refs_le_sum refs (List.mem_of_getElem? hi)
  have hcounted := h.counted
  have hnew : (∃ u, t' = some u ∧ signals u) → ∃ u ∈ moveThread ts i t', signals u := by
    rintro ⟨u, rfl, hu⟩
    exact ⟨u, mem_moveThread_self hi u, hu⟩
  match op, ha with
  | none, ha =>
    obtain ⟨hrefs, hsignals⟩ := ha
    refine ⟨by rw [Option.elim_none]; omega, fun hzero => ?_⟩
    rw [Option.elim_none] at hzero ⊢
    rcases h.signalled hzero with hset | ⟨u, hu, hus⟩
    · exact .inl hset
    · right
      rcases @mem_moveThread_of_mem _ _ _ _ hi t' _ hu with rfl | hu
      · exact hnew (hsignals hus)
      · exact ⟨u, hu, hus⟩
  | some .take, ha =>
    have hrefs : refsAfter refs t' = refs t + 1 := ha
    simp only [Option.elim_some, apply]
    exact ⟨by dsimp only; omega, nofun⟩
  | some .clear, ha =>
    obtain ⟨hrefs, hpos⟩ := ha
    simp only [Option.elim_some, apply]
    refine ⟨by dsimp only; omega, fun hzero => ?_⟩
    dsimp only at hzero
    omega
  | some .drop, ha =>
    obtain ⟨hrefs, hlast⟩ := ha
    simp only [Option.elim_some, apply]
    refine ⟨by dsimp only; omega, fun hzero => .inr (hnew (hlast ?_))⟩
    dsimp only at hzero
    omega
  | some .signal, ha =>
    have hrefs : refsAfter refs t' = refs t := ha
    simp only [Option.elim_some, apply]
    exact ⟨by dsimp only; omega, fun _ => .inl rfl⟩

/-- A thread that starts with nothing. -/
theorem Sound.spawn (h : Sound refs signals g ts) (ht : refs t = 0) :
    Sound refs signals g (ts ++ [t]) := by
  refine ⟨?_, fun hzero => ?_⟩
  · rw [List.map_append, List.sum_append, h.counted]
    simp [ht]
  · rcases h.signalled hzero with hset | ⟨u, hu, hus⟩
    · exact .inl hset
    · exact .inr ⟨u, List.mem_append_left _ hu, hus⟩

/-- A thread that starts with a reference. -/
theorem Sound.spawn_take (h : Sound refs signals g ts) (ht : refs t = 1) :
    Sound refs signals (g.apply .take) (ts ++ [t]) := by
  refine ⟨?_, nofun⟩
  rw [List.map_append, List.sum_append, apply, ← h.counted]
  simp [ht]

/-- **At rest** the event says that the count is zero. -/
theorem Sound.zero_of_quiet (h : Sound refs signals g ts) (hzero : g.count = 0)
    (hquiet : ∀ t ∈ ts, ¬ signals t) : g.zero = true := by
  rcases h.signalled hzero with hset | ⟨t, ht, hts⟩
  · exact hset
  · exact absurd hts (hquiet t ht)

theorem Sound.refs_of_zero (h : Sound refs signals g ts) (hzero : g.count = 0) (ht : t ∈ ts) :
    refs t = 0 := by
  have hle := refs_le_sum refs ht
  rw [← h.counted, hzero] at hle
  omega

theorem sound_empty : Sound refs signals {} [] := ⟨rfl, fun _ => .inl rfl⟩

end Sound

end Gate

end YumeDisk.Lib
