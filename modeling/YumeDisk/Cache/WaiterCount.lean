import Mathlib.Data.Set.Card
import YumeDisk.Cache.Wakeups

/-!
# The count of the eviction waiters (`cache/mod.rs`)

A call that waits for a temp slot is counted in `foreground_dirty_eviction_waiters`, and says so in
its local `waiting_for_temp_slot`; while the count is not zero the worker flushes urgently.

* `Sys.WaitsForTempSlot`: the flag of a call that is in flight.
* `waiters_accounted`: **the count is that of the flags**, in every state that a run reaches; it
  does not underflow, and a call that returns has given its part back.
-/

namespace YumeDisk.Cache

open YumeDisk.Lib

/-- The error of a release that finds no waiter. -/
def waiterUnderflow : Fault :=
  .error (.invariantViolation "foreground dirty eviction waiter count underflow")

namespace Sys

def waiters (s : Sys) : Nat := s.world.state.foregroundDirtyEvictionWaiters

/-- Call `i` is in flight and its `waiting_for_temp_slot` is true. -/
def WaitsForTempSlot (s : Sys) (i : Nat) : Prop :=
  ∃ op, s.calls i = some ⟨op, .entering true⟩ ∨ s.calls i = some ⟨op, .waiting true⟩

/-- The next section of call `i` releases a waiter that is not counted: that of the loop, or the one
after a wait. -/
def Underflows (s : Sys) (i : Nat) : Prop :=
  ∃ op waiting w,
    (s.calls i = some ⟨op, .entering waiting⟩ ∧
        ∃ outcome, loopTop s.config op waiting outcome s.world = .error waiterUnderflow w) ∨
      (s.calls i = some ⟨op, .waiting waiting⟩ ∧
        afterWait waiting s.world = .error waiterUnderflow w)

structure WaitersAccounted (s : Sys) : Prop where
  finite : {i | s.WaitsForTempSlot i}.Finite
  count : s.waiters = {i | s.WaitsForTempSlot i}.ncard
  idle : (∀ i c, s.calls i = some c → c.phase = .returned) → s.waiters = 0
  no_underflow : ∀ i, ¬ s.Underflows i
  /-- However a call returns, its part of the count is gone. -/
  released : ∀ a s' i op ph, s.step a = some s' → s.calls i = some ⟨op, ph⟩ → ph ≠ .returned →
    s'.calls i = some ⟨op, .returned⟩ → s'.waiters + ph.waits.toNat = s.waiters

variable {right : Nat → UInt8} {temp : TempStore} {s s' : Sys} {i : Nat} {op : Op}

theorem waitsForTempSlot_iff :
    s.WaitsForTempSlot i ↔ ∃ c, s.calls i = some c ∧ c.phase.waits = true := by
  constructor
  · rintro ⟨op, hi | hi⟩
    · exact ⟨_, hi, rfl⟩
    · exact ⟨_, hi, rfl⟩
  · rintro ⟨⟨op, ph⟩, hi, hw⟩
    cases ph with
    | entering waiting => exact ⟨op, .inl (by rw [hi, show waiting = true from hw])⟩
    | waiting waiting => exact ⟨op, .inr (by rw [hi, show waiting = true from hw])⟩
    | _ => cases hw

theorem Inv.waiting_set (h : s.Inv right temp) :
    ∃ S : Finset Nat, S.card = s.waiters ∧ {i | s.WaitsForTempSlot i} = ↑S := by
  obtain ⟨S, hcard, hS⟩ := h.waiters
  exact ⟨S, hcard, Set.ext fun i => (waitsForTempSlot_iff.trans (hS i).symm)⟩

theorem Inv.waiters_eq (h : s.Inv right temp) :
    {i | s.WaitsForTempSlot i}.Finite ∧ s.waiters = {i | s.WaitsForTempSlot i}.ncard := by
  obtain ⟨S, hcard, hS⟩ := h.waiting_set
  rw [hS]
  exact ⟨S.finite_toSet, (hcard.symm.trans (Set.ncard_coe_finset S).symm)⟩

/-- **A section of a call** fails by the outside only: what it releases is counted. -/
theorem Inv.not_underflows (h : s.Inv right temp) (i : Nat) : ¬ s.Underflows i := by
  rintro ⟨op, waiting, w, ⟨hi, outcome, hrun⟩ | ⟨hi, hrun⟩⟩
  · have hends := loopTop_spec h.world rfl rfl outcome (h.fits i _ hi) (h.counted hi)
    exact (hends.of_error hrun).1
  · exact ((afterWait_spec h.world (h.counted hi)).of_error hrun).1

/-- What a step changes is the flags of one call. -/
theorem step_calls {a : Action} (hs : s.step a = some s') {ph ph' : Phase}
    (hi : s.calls i = some ⟨op, ph⟩) (hi' : s'.calls i = some ⟨op, ph'⟩) (hne : ph ≠ ph') :
    ∀ j, j ≠ i → s'.calls j = s.calls j := by
  have hone : ∀ k, (∀ j, j ≠ k → s'.calls j = s.calls j) → ∀ j, j ≠ i → s'.calls j = s.calls j := by
    intro k hk
    by_cases hki : k = i
    · exact hki ▸ hk
    · rw [hk i (Ne.symm hki), hi] at hi'
      exact absurd (Call.mk.inj (Option.some.inj hi')).2 hne
  obtain ⟨-, ⟨k, offset, n, d, m, -, hs⟩ | ⟨-, rfl⟩ | ⟨k, c, -, -, hs⟩ | ⟨-, hs⟩⟩ := step_cases hs
  · exact hone k (invoke_same hs).2.calls
  · exact fun _ _ => rfl
  · exact hone k (stepCall_same hs).2.2
  · exact fun j _ => congrFun (stepWorker_same hs).2 j

theorem Inv.released (h : s.Inv right temp) {a : Action} {ph : Phase} (hs : s.step a = some s')
    (hi : s.calls i = some ⟨op, ph⟩) (hret : ph ≠ .returned)
    (hi' : s'.calls i = some ⟨op, .returned⟩) : s'.waiters + ph.waits.toNat = s.waiters := by
  obtain ⟨S, hcard, hS⟩ := h.waiters
  obtain ⟨S', hcard', hS'⟩ := (step_inv h hs).inv.waiters
  have hothers := step_calls hs hi hi' hret
  have hnot : i ∉ S' := by
    rw [hS', hi']
    rintro ⟨c, hc, hw⟩
    cases hc
    cases hw
  have hmem : i ∈ S ↔ ph.waits = true := by
    rw [hS, hi]
    simp
  have herase : S' = S.erase i := by
    ext j
    rw [Finset.mem_erase]
    by_cases hji : j = i
    · exact iff_of_false (hji ▸ hnot) fun hj => hj.1 hji
    · rw [hS', hothers j hji, ← hS]
      exact ⟨fun hj => ⟨hji, hj⟩, And.right⟩
  show s'.world.state.foregroundDirtyEvictionWaiters + _ =
    s.world.state.foregroundDirtyEvictionWaiters
  rw [← hcard, ← hcard', herase]
  cases hw : ph.waits with
  | true => exact Finset.card_erase_add_one (hmem.mpr hw)
  | false =>
    rw [Finset.erase_eq_of_notMem fun hm => by simp [hmem.mp hm] at hw]
    rfl

theorem Inv.waitersAccounted (h : s.Inv right temp) : s.WaitersAccounted where
  finite := h.waiters_eq.1
  count := h.waiters_eq.2
  idle hidle := by
    rw [h.waiters_eq.2, Set.ncard_eq_zero h.waiters_eq.1]
    refine Set.eq_empty_iff_forall_notMem.mpr fun i hi => ?_
    obtain ⟨op, hi | hi⟩ := hi
    · exact nomatch hidle i _ hi
    · exact nomatch hidle i _ hi
  no_underflow := h.not_underflows
  released _ _ _ _ _ hs hi hret hi' := h.released hs hi hret hi'

end Sys

section Run

variable {config : CacheConfig} {right : Nat → UInt8} {temp : TempStore} {s₀ s : Sys}
  {as : List Action}

/-- **The waiters are counted** in every state that a run of the cache reaches. -/
theorem waiters_accounted (hb : build config right temp = .ok s₀)
    (hr : runFrom Sys.step s₀ as = some s) : s.WaitersAccounted :=
  (Sys.run_inv hb hr).2.waitersAccounted

/-- Call 4 waits for the temp slot that call 3 is reading from. -/
theorem waiters_accounted_full : ∃ s₀ s,
    build ⟨2, 1, 2, 1⟩ UInt8.ofNat (fun _ => none) = .ok s₀ ∧
    runFrom Sys.step s₀ (rehydrateHoldsSlot ++ [.lock 4 .written]) = some s ∧ s.waiters = 1 ∧
    s.WaitersAccounted := by
  obtain ⟨s₀, hb⟩ : ∃ s₀, build ⟨2, 1, 2, 1⟩ UInt8.ofNat (fun _ => none) = .ok s₀ := ⟨_, rfl⟩
  have hrun : ∃ s, runFrom Sys.step s₀ (rehydrateHoldsSlot ++ [.lock 4 .written]) = some s ∧
      decide (s.waiters = 1) = true := by
    obtain rfl := Except.ok.inj hb
    exact exists_run _ _ _ _ (by decide +kernel)
  obtain ⟨s, hr, hone⟩ := hrun
  exact ⟨s₀, s, hb, hr, of_decide_eq_true hone, waiters_accounted hb hr⟩

end Run

end YumeDisk.Cache
