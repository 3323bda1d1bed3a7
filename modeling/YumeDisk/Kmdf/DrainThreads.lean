import YumeDisk.Kmdf.Drain

/-!
# What a thread of a session holds

The references that a request or a slot is to give back, and whether it may still come to the
runtime.

* `Thread.refs`, `Thread.reach`: of the place where a thread is.
* `System.advance_allows`: what a step does to the gates is what a thread may do to them.
* `System.advance_reach`: with no active session, a thread comes no nearer to the runtime.
-/

namespace YumeDisk.Kmdf.Drain

open Lib (Gate GateOp refsAfter)

/-! ## What a thread holds, and what it touches -/

/-- The step touches the memory of the runtime. -/
def Op.touches : Op → Bool
  | .drop c => c = .active
  | .signal c => c = .active
  | .touch => true

namespace Thread

/-- The references that a kind of acquire has taken of the session. -/
def sessionRefs : Counter → Kind → Nat
  | .inFlight, _ => 1
  | .pendingSlot, .sync => 0
  | .pendingSlot, .slot => 1
  | .active, _ => 0

/-- The references that a thread is to give back. -/
def refs (c : Counter) : Thread → Nat
  | .clearIo => sessionRefs c .sync
  | .acquired => sessionRefs c .sync
  | .slotLooked => 0
  | .slotClearIo => sessionRefs c .sync
  | .slotCounted => sessionRefs c .sync
  | .slotClearPending => sessionRefs c .slot
  | .slotRecheck => sessionRefs c .slot
  | .readRuntime k => sessionRefs c k
  | .checkRuntime k => sessionRefs c k
  | .referenceRuntime k => sessionRefs c k
  | .clearActive k => sessionRefs c k + if c = .active then 1 else 0
  | .recheckRuntime k => sessionRefs c k + if c = .active then 1 else 0
  | .pool k => sessionRefs c k + if c = .active then 1 else 0
  | .sending => sessionRefs c .sync + if c = .active then 1 else 0
  | .submitting => sessionRefs c .slot + if c = .active then 1 else 0
  | .queued => sessionRefs c .slot + if c = .active then 1 else 0
  | .calling => sessionRefs c .slot + if c = .active then 1 else 0
  | .posted => sessionRefs c .slot + if c = .active then 1 else 0
  | .rest ops => ops.count (.drop c)

/-- It has taken a count to zero, and is to signal the event. -/
def signals (c : Counter) : Thread → Bool
  | .rest (.signal c' :: _) => c' = c
  | _ => false

/-- It has taken a count to one, and is to clear the event. -/
def clears (c : Counter) : Thread → Bool
  | .clearIo => c = .inFlight
  | .slotClearIo => c = .inFlight
  | .slotClearPending => c = .pendingSlot
  | .clearActive _ => c = .active
  | _ => false

/-- What it does next is to memory of the runtime, or to an object of its pools. -/
def touches : Thread → Bool
  | .checkRuntime _ => true
  | .referenceRuntime _ => true
  | .clearActive _ => true
  | .recheckRuntime _ => true
  | .pool _ => true
  | .sending => true
  | .submitting => true
  | .queued => true
  | .calling => true
  | .posted => true
  | .rest (op :: _) => op.touches
  | _ => false

/-- It works with the handle of the miniport, or with its device. -/
def usesHandle : Thread → Bool
  | .pool _ => true
  | .sending => true
  | .submitting => true
  | .calling => true
  | .posted => true
  | _ => false

/-- It may come to the runtime without another look at the session. -/
def reach : Thread → Bool
  | .slotLooked => false
  | .slotClearIo => false
  | .slotCounted => false
  | .slotClearPending => false
  | .slotRecheck => false
  | .rest ops => ops.any Op.touches
  | _ => true

/-- Whatever of a release touches the runtime, a reference is given back after it. -/
def covered : List Op → Bool
  | [] => true
  | op :: ops => (!(op :: ops).any Op.touches || (op :: ops).contains (.drop .inFlight) ||
      (op :: ops).contains (.drop .active)) && covered ops

/-- A release is covered, up to the event that it is to signal. -/
def Formed : Thread → Prop
  | .rest ops => covered ops = true ∨ ∃ c ops', ops = .signal c :: ops' ∧ covered ops' = true
  | _ => True

theorem reach_of_touches {t : Thread} (h : t.touches = true) : t.reach = true := by
  cases t with
  | rest ops =>
    cases ops with
    | nil => cases h
    | cons op ops =>
      have hop : op.touches = true := h
      simp [reach, hop]
  | _ => first | rfl | cases h

theorem reach_of_usesHandle {t : Thread} (h : t.usesHandle = true) :
    t.reach = true ∧ 0 < t.refs .inFlight := by
  cases t <;> first | exact ⟨rfl, Nat.one_pos⟩ | cases h

/-- A thread that may come to the runtime holds a reference, or is to set the event. -/
theorem reach_cases {t : Thread} (hformed : t.Formed) (h : t.reach = true) :
    0 < t.refs .inFlight ∨ 0 < t.refs .active ∨ t.signals .active = true := by
  have hcovered : ∀ ops, covered ops = true → ops.any Op.touches = true →
      0 < ops.count (.drop .inFlight) ∨ 0 < ops.count (.drop .active) := by
    intro ops hops hany
    cases ops with
    | nil => cases hany
    | cons op ops =>
      simp only [covered, Bool.and_eq_true, hany, Bool.not_true, Bool.false_or, Bool.or_eq_true,
        List.contains_iff_mem] at hops
      exact hops.1.imp List.count_pos_iff.mpr List.count_pos_iff.mpr
  cases t with
  | rest ops =>
    rcases hformed with hops | ⟨c, ops', rfl, hops⟩
    · rcases hcovered ops hops h with hin | hact
      · exact .inl hin
      · exact .inr (.inl hact)
    · by_cases hany : ops'.any Op.touches = true
      · rcases hcovered ops' hops hany with hin | hact
        · exact .inl (hin.trans_le (List.count_le_count_cons))
        · exact .inr (.inl (hact.trans_le (List.count_le_count_cons)))
      · right; right
        simp only [reach, List.any_cons, Bool.not_eq_true _ ▸ hany, Bool.or_false] at h
        exact h
  | _ => first | exact .inl Nat.one_pos | cases h

end Thread

namespace System

variable {s : System}

theorem enter_active (h : s.enter = true) : s.state = .active := by
  unfold enter at h
  simp only [Bool.and_eq_true, decide_eq_true_eq] at h
  exact h.1.1

/-! ## What a step of a thread does -/

/-- What a step of a thread does to one gate. -/
def opAt (c : Counter) (op : Option (Counter × GateOp)) : Option GateOp :=
  op.bind fun p => if p.1 = c then some p.2 else none

theorem applyGate_eq (s : System) (op : Option (Counter × GateOp)) (c : Counter) :
    s.applyGate op c = (opAt c op).elim (s.gate c) (s.gate c).apply := by
  cases op with
  | none => rfl
  | some p =>
    obtain ⟨c', op⟩ := p
    unfold applyGate opAt
    by_cases hc : c' = c
    · subst hc
      simp
    · simp [hc, Function.update_of_ne (Ne.symm hc)]

/-- A step of a thread that changes no gate. -/
theorem allows_none {c : Counter} {t t' : Thread} (hrefs : t'.refs c = t.refs c)
    (hsignals : t.signals c = false) :
    Gate.Allows (Thread.refs c) (fun t => t.signals c = true) (s.gate c) none t (some t') :=
  ⟨hrefs, fun h => absurd (hsignals.symm.trans h) Bool.false_ne_true⟩

/-- **What a thread does to the gates** is what it may do. -/
theorem advance_allows (s : System) (ok : Bool) (t : Thread) (c : Counter) :
    Gate.Allows (Thread.refs c) (fun t => t.signals c = true) (s.gate c)
      (opAt c (s.advance ok t).1) t (s.advance ok t).2 := by
  cases t with
  | rest ops =>
    match ops with
    | [] => exact ⟨rfl, nofun⟩
    | .touch :: ops => exact allows_none (by simp [Thread.refs]) rfl
    | .signal c' :: ops =>
      by_cases hc : c' = c
      · subst hc
        simp [advance, opAt, Gate.Allows, refsAfter, Thread.refs]
      · simp [advance, opAt, hc, Gate.Allows, refsAfter, Thread.refs, Thread.signals]
    | .drop c' :: ops =>
      by_cases hc : c' = c
      · subst hc
        simp only [advance, opAt, Option.bind_some, if_true, Gate.Allows, refsAfter,
          Option.elim_some]
        refine ⟨?_, fun hone => ⟨_, rfl, ?_⟩⟩
        · split <;> simp [Thread.refs]
        · rw [if_pos hone]
          simp [Thread.signals]
      · have hne : ¬ (Op.drop c' = Op.drop c) := fun h => hc (Op.drop.inj h)
        simp only [advance, opAt, Option.bind_some, if_neg hc]
        refine allows_none ?_ rfl
        split <;> simp [Thread.refs, hc]
  | clearIo | slotClearIo | slotClearPending =>
    cases c <;>
      simp [advance, opAt, Gate.Allows, refsAfter, Thread.refs, Thread.sessionRefs, Thread.signals]
  | clearActive k =>
    cases c <;> simp [advance, opAt, Gate.Allows, refsAfter, Thread.refs, Thread.signals]
  | slotLooked | slotCounted =>
    cases c <;> simp only [advance] <;> split <;>
      simp [opAt, Gate.Allows, refsAfter, Thread.refs, Thread.sessionRefs, Thread.signals]
  | referenceRuntime k =>
    cases c <;> simp only [advance] <;> split <;>
      simp [opAt, Gate.Allows, refsAfter, Thread.refs, Thread.signals]
  | sending | calling | posted =>
    refine allows_none ?_ rfl
    cases c <;> rfl
  | acquired | slotRecheck | submitting | queued =>
    simp only [advance]
    refine allows_none ?_ rfl
    split <;> cases c <;> rfl
  | readRuntime k | checkRuntime k | recheckRuntime k =>
    simp only [advance]
    refine allows_none ?_ rfl
    split <;> cases c <;> cases k <;> rfl
  | pool k =>
    simp only [advance]
    refine allows_none ?_ rfl
    split <;> cases c <;> cases k <;> rfl

/-- **Where a thread may go** once no session is active: not to the runtime, unless it was on its
way there, and with no more references than it had. -/
theorem advance_reach {ok : Bool} {t t' : Thread} (hstate : s.state ≠ .active)
    (ht : (s.advance ok t).2 = some t') (hreach : t'.reach = true) :
    t.reach = true ∧ (t.refs .inFlight = 0 →
      t'.refs .inFlight = 0 ∧ t'.refs .active ≤ t.refs .active) := by
  have henter : s.enter = false := by
    by_contra hne
    exact hstate (enter_active (Bool.not_eq_false _ ▸ hne))
  cases t with
  | rest ops =>
    match ops with
    | [] => cases ht
    | .touch :: ops =>
      obtain rfl := Option.some.inj ht
      refine ⟨rfl, fun h => ⟨?_, ?_⟩⟩
      · simpa [Thread.refs] using h
      · simp [Thread.refs]
    | .signal c :: ops =>
      obtain rfl := Option.some.inj ht
      refine ⟨?_, fun h => ⟨?_, ?_⟩⟩
      · simp only [Thread.reach, List.any_cons, Bool.or_eq_true]
        exact .inr hreach
      · simpa [Thread.refs] using h
      · simp [Thread.refs]
    | .drop c :: ops =>
      obtain rfl := Option.some.inj ht
      refine ⟨?_, fun h => ?_⟩
      · simp only [Thread.reach, List.any_cons, Bool.or_eq_true]
        split at hreach
        · simpa [Thread.reach, Op.touches] using hreach
        · exact .inr hreach
      · have hle : ∀ c', (Thread.rest (if (s.gate c).count = 1 then .signal c :: ops else ops)).refs
            c' = ops.count (.drop c') := by
          intro c'
          split <;> simp [Thread.refs]
        rw [hle, hle]
        exact ⟨Nat.eq_zero_of_le_zero (h ▸ List.count_le_count_cons), List.count_le_count_cons⟩
  | slotLooked | slotCounted =>
    obtain rfl := Option.some.inj ht
    split at hreach <;> cases hreach
  | slotClearIo | slotClearPending =>
    obtain rfl := Option.some.inj ht
    cases hreach
  | slotRecheck =>
    obtain rfl := Option.some.inj ht
    rw [henter] at hreach
    cases hreach
  | _ => exact ⟨rfl, fun h => absurd h Nat.one_ne_zero⟩

/-- What a thread is to release stays covered. -/
theorem advance_formed {ok : Bool} {t t' : Thread} (h : t.Formed)
    (ht : (s.advance ok t).2 = some t') : t'.Formed := by
  have hrelease : ∀ k, Thread.covered (release k) = true ∧
      Thread.covered (.touch :: release k) = true ∧
      Thread.covered (.drop .active :: .touch :: release k) = true ∧
      Thread.covered (releaseRuntime ++ release k) = true ∧
      Thread.covered (release k ++ releaseRuntime) = true := by
    intro k
    cases k <;> decide
  cases t with
  | rest ops =>
    match ops with
    | [] => cases ht
    | op :: ops =>
      have htail : Thread.covered ops = true := by
        rcases h with h | ⟨c, ops', heq, h⟩
        · rw [Thread.covered, Bool.and_eq_true] at h
          exact h.2
        · rw [(List.cons.inj heq).2]
          exact h
      cases op with
      | drop c =>
        obtain rfl := Option.some.inj ht
        split
        · exact .inr ⟨c, ops, rfl, htail⟩
        · exact .inl htail
      | signal c | touch =>
        obtain rfl := Option.some.inj ht
        exact .inl htail
  | pool k =>
    obtain rfl := Option.some.inj ht
    split
    · cases k <;> trivial
    · exact .inl (hrelease k).2.2.1
  | acquired =>
    obtain rfl := Option.some.inj ht
    split
    · trivial
    · exact .inl (hrelease .sync).1
  | slotRecheck =>
    obtain rfl := Option.some.inj ht
    split
    · trivial
    · exact .inl (hrelease .slot).1
  | readRuntime k =>
    obtain rfl := Option.some.inj ht
    split
    · trivial
    · exact .inl (hrelease k).1
  | checkRuntime k =>
    obtain rfl := Option.some.inj ht
    split
    · trivial
    · exact .inl (hrelease k).2.1
  | recheckRuntime k =>
    obtain rfl := Option.some.inj ht
    split
    · trivial
    · exact .inl (hrelease k).2.2.1
  | sending =>
    obtain rfl := Option.some.inj ht
    exact .inl (hrelease .sync).2.2.2.1
  | submitting =>
    obtain rfl := Option.some.inj ht
    split
    · trivial
    · exact .inl (hrelease .slot).2.2.2.1
  | queued =>
    obtain rfl := Option.some.inj ht
    split
    · trivial
    · exact .inl (hrelease .slot).2.2.2.2
  | posted =>
    obtain rfl := Option.some.inj ht
    exact .inl (hrelease .slot).2.2.2.2
  | slotLooked | slotCounted | referenceRuntime =>
    obtain rfl := Option.some.inj ht
    split <;> trivial
  | clearIo | slotClearIo | slotClearPending | clearActive | calling =>
    obtain rfl := Option.some.inj ht
    trivial

end System

end YumeDisk.Kmdf.Drain
