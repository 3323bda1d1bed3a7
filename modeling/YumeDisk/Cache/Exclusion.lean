import YumeDisk.Cache.Invariant

/-!
# One user of a temp file at a time, and no broken invariant

* `Exclusion`: at most one thread uses the temp file of a block; a block that is loaded from the
  right store is loaded by one call, and is not written back meanwhile.
* `callFault`, `workerFault`: how a section under the lock fails, if it does.
* `cache_exclusion`: in every state of every run there is exclusion, the lock is not poisoned, and
  no section can fail with a broken invariant or a failed assertion.
-/

namespace YumeDisk.Cache

open YumeDisk.Lib

/-- The same action with another outcome of the temp write, if its section makes one. -/
def Action.withOutcome (outcome : TempWrite) : Action → Action
  | .lock i _ => .lock i outcome
  | .workerLock _ => .workerLock outcome
  | .workerWake timedOut _ => .workerWake timedOut outcome
  | a => a

inductive Thread where
  | call (i : Nat)
  | worker
deriving DecidableEq, Repr

namespace Sys

/-- The thread has taken the temp file of `b` and not given it back: a call that rehydrates the
block, or the flush worker with its read, its right-store write and its removal. -/
def UsesTemp (s : Sys) : Thread → Nat → Prop
  | .call i, b => ∃ op, s.calls i = some ⟨op, .readTemp b⟩ ∨
      ∃ result, s.calls i = some ⟨op, .tempRead b result⟩
  | .worker, b => s.worker.flush b ≠ none

/-- The section that `a` starts writes the temp file of `b`: the file after it depends on how the
write ends. -/
def WritesTemp (s : Sys) (a : Action) (b : Nat) : Prop :=
  ∃ o o' t t', s.step (a.withOutcome o) = some t ∧ s.step (a.withOutcome o') = some t' ∧
    t.world.temp b ≠ t'.world.temp b

/-- Call `i` loads `b` from the right store. -/
def LoadsRight (s : Sys) (i b : Nat) : Prop :=
  ∃ op, (∃ base, s.calls i = some ⟨op, .readRight b base⟩) ∨
    ∃ result, s.calls i = some ⟨op, .rightRead b result⟩

/-- The flush worker writes `b` to the right store. -/
def WritesRight (s : Sys) (b : Nat) : Prop := ∃ base data, s.worker = .flushWrite b base data

structure Exclusion (s : Sys) : Prop where
  temp : ∀ t u b, s.UsesTemp t b → s.UsesTemp u b → t = u
  write : ∀ a t b, s.WritesTemp a b → ¬ s.UsesTemp t b
  right : ∀ i b, s.LoadsRight i b → ¬ s.WritesRight b
  load : ∀ i j b, s.LoadsRight i b → s.LoadsRight j b → i = j

/-! ## Faults -/

def faultOf {α : Type} : EStateM.Result Fault World α → Option Fault
  | .ok _ _ => none
  | .error e _ => some e

/-- How the section of a call in this phase fails. -/
def callFault (s : Sys) (op : Op) : Phase → Action → Option Fault
  | .entering waiting, .lock _ outcome => faultOf (loopTop s.config op waiting outcome s.world)
  | .waiting waiting, .wake _ => faultOf (afterWait waiting s.world)
  | .rightRead b result, .finish _ => faultOf (finishLoad op b result s.world)
  | .tempRead b result, .finish _ => faultOf (finishTempLoad op b result s.world)
  | _, _ => none

/-- How the section of the flush worker fails; an error is a failed `expect`. -/
def workerFault (s : Sys) : WorkerPhase → Action → Option Fault
  | .running scanDue, .workerLock outcome =>
    faultOf (workerIteration s.config scanDue outcome s.world)
  | .waiting scanDue, .workerWake timedOut outcome =>
    faultOf (workerIteration s.config (scanDue || timedOut) outcome s.world)
  | .flushFinish b flushOk, .flushFinish => faultOf (finishFlush b flushOk s.world)
  | _, _ => none

/-- No section can panic, and no call can return `InvariantViolation`. -/
structure Sound (s : Sys) : Prop where
  lock : s.poisoned = false
  call : ∀ i c a f, s.calls i = some c → s.callFault c.op c.phase a = some f → f.External
  worker : ∀ a, s.workerFault s.worker a = none

theorem faultOf_eq_some {α : Type} {r : EStateM.Result Fault World α} {f : Fault}
    (h : faultOf r = some f) : ∃ w, r = .error f w := by
  cases r with
  | ok a w => cases h
  | error e w =>
    obtain rfl := Option.some.inj h
    exact ⟨w, rfl⟩

theorem faultOf_eq_none {α : Type} {m : CacheM α} {w : World} {Q : α → World → Prop}
    (h : Ends m w Q NoFault) : faultOf (m w) = none := by
  cases hm : m w with
  | ok a w' => rfl
  | error e w' => exact (h.of_error hm).elim

section Inv

variable {right : Nat → UInt8} {temp : TempStore} {s : Sys}

theorem Inv.call_fault (h : s.Inv right temp) {i : Nat} {op : Op} {ph : Phase}
    (hi : s.calls i = some ⟨op, ph⟩) {a : Action} {f : Fault} (hf : s.callFault op ph a = some f) :
    f.External := by
  have hfit : op.Fits s.config.blockSizeBytes := h.fits i _ hi
  have hcall : CallInv (s.ghost right temp) s.world op ph := h.call i _ hi
  have hcount := h.counted hi
  unfold callFault at hf
  split at hf
  · obtain ⟨w, hw⟩ := faultOf_eq_some hf
    exact ((loopTop_spec h.world rfl rfl _ hfit hcount).of_error hw).1
  · obtain ⟨w, hw⟩ := faultOf_eq_some hf
    exact ((afterWait_spec h.world hcount).of_error hw).1
  · obtain ⟨rfl, hv, hres⟩ := hcall
    obtain ⟨w, hw⟩ := faultOf_eq_some hf
    exact ((finishLoad_spec h.world hfit hv hres).of_error hw).2.1
  · obtain ⟨rfl, hv, hres⟩ := hcall
    obtain ⟨w, hw⟩ := faultOf_eq_some hf
    exact ((finishTempLoad_spec h.world hfit hv hres).of_error hw).2.1
  · cases hf

theorem Inv.worker_fault (h : s.Inv right temp) (a : Action) :
    s.workerFault s.worker a = none := by
  have hiter : ∀ (scanDue : Bool) (outcome : TempWrite), s.worker.flush = (fun _ => none) →
      faultOf (workerIteration s.config scanDue outcome s.world) = none :=
    fun scanDue outcome hidle => faultOf_eq_none
      (workerIteration_spec h.world (fun b => congrFun hidle b) rfl rfl scanDue outcome)
  unfold workerFault
  split
  · next scanDue outcome hw => exact hiter _ _ (by rw [hw]; rfl)
  · next scanDue timedOut outcome hw => exact hiter _ _ (by rw [hw]; rfl)
  · next b flushOk hw =>
    have hf : (s.ghost right temp).flush b = some (.finished flushOk) := by
      simp [Sys.ghost, hw, WorkerPhase.flush]
    exact faultOf_eq_none (finishFlush_spec h.world hf)
  · rfl

/-! ## Who uses what -/

/-- A call that uses the temp file of a block is the one that loads the block, and no flush is. -/
theorem Inv.usesTemp_call (h : s.Inv right temp) {i b : Nat} (hu : s.UsesTemp (.call i) b) :
    ∃ c, s.calls i = some c ∧ c.phase.loads ∧ c.op.blockIndex = b ∧
      (s.world.view b).map View.loadState = some .rehydrating ∧ s.worker.flush b = none := by
  have hflush : ∀ op : Op, s.world.view op.blockIndex =
      some (.placeholder s.config.blockSizeBytes .rehydrating op.patches) →
      s.worker.flush op.blockIndex = none := fun op hv =>
    ((h.world.places op.blockIndex).rehydrating_of hv).2.1
  obtain ⟨op, hi | ⟨result, hi⟩⟩ := hu
  · have hcall : CallInv (s.ghost right temp) s.world op (.readTemp b) := h.call i _ hi
    obtain ⟨rfl, hv⟩ := hcall
    exact ⟨_, hi, rfl, rfl, by rw [hv]; rfl, hflush op hv⟩
  · have hcall : CallInv (s.ghost right temp) s.world op (.tempRead b result) := h.call i _ hi
    obtain ⟨rfl, hv, -⟩ := hcall
    exact ⟨_, hi, rfl, rfl, by rw [hv]; rfl, hflush op hv⟩

theorem Inv.usesTemp_active (h : s.Inv right temp) {t : Thread} {b : Nat} (hu : s.UsesTemp t b) :
    b ∈ s.world.state.activeTempBlocks := by
  rw [← h.world.active b]
  cases t with
  | call i =>
    obtain ⟨c, -, -, -, hre, -⟩ := h.usesTemp_call hu
    exact .inr hre
  | worker => exact .inl hu

theorem Inv.loadsRight (h : s.Inv right temp) {i b : Nat} (hl : s.LoadsRight i b) :
    ∃ c, s.calls i = some c ∧ c.phase.loads ∧ c.op.blockIndex = b ∧ s.worker.flush b = none := by
  have hflush : ∀ op : Op, s.world.view op.blockIndex =
      some (.placeholder s.config.blockSizeBytes .loadingRemote op.patches) →
      s.worker.flush op.blockIndex = none := fun op hv =>
    ((h.world.places op.blockIndex).loading_of hv).2.1.no_flush
  obtain ⟨op, ⟨base, hi⟩ | ⟨result, hi⟩⟩ := hl
  · have hcall : CallInv (s.ghost right temp) s.world op (.readRight b base) := h.call i _ hi
    obtain ⟨rfl, -, hv⟩ := hcall
    exact ⟨_, hi, rfl, rfl, hflush op hv⟩
  · have hcall : CallInv (s.ghost right temp) s.world op (.rightRead b result) := h.call i _ hi
    obtain ⟨rfl, hv, -⟩ := hcall
    exact ⟨_, hi, rfl, rfl, hflush op hv⟩

/-- A temp write under the lock is to a file that no thread uses. -/
theorem Inv.not_active_of_writes (h : s.Inv right temp) {a : Action} {b : Nat}
    (hw : s.WritesTemp a b) : b ∉ s.world.state.activeTempBlocks := by
  intro hact
  obtain ⟨o, o', t, t', ht, ht', hne⟩ := hw
  by_cases hrm : ∃ ok, a = .flushRemove ok
  · obtain ⟨ok, rfl⟩ := hrm
    obtain rfl := Option.some.inj (ht.symm.trans ht')
    exact hne rfl
  · have hsame : ∀ {o : TempWrite} {t : Sys}, s.step (a.withOutcome o) = some t →
        t.world.temp b = s.world.temp b := by
      intro o t ht
      refine (step_inv h ht).in_use (fun ok hok => hrm ⟨ok, ?_⟩) b hact
      cases a <;> cases hok
      rfl
    exact hne ((hsame ht).trans (hsame ht').symm)

theorem Inv.exclusion (h : s.Inv right temp) : s.Exclusion where
  temp t u b ht hu := by
    cases t with
    | call i =>
      obtain ⟨c, hi, hci, hcb, -, hflush⟩ := h.usesTemp_call ht
      cases u with
      | call j =>
        obtain ⟨d, hj, hdj, hdb, -⟩ := h.usesTemp_call hu
        rw [h.loader i j c d hi hj hci hdj (hcb.trans hdb.symm)]
      | worker => exact absurd hflush hu
    | worker =>
      cases u with
      | call j =>
        obtain ⟨-, -, -, -, -, hflush⟩ := h.usesTemp_call hu
        exact absurd hflush ht
      | worker => rfl
  write a t b hw hu := h.not_active_of_writes hw (h.usesTemp_active hu)
  right i b hl hw := by
    obtain ⟨-, -, -, -, hflush⟩ := h.loadsRight hl
    obtain ⟨base, data, hw⟩ := hw
    simp [hw, WorkerPhase.flush] at hflush
  load i j b hi hj := by
    obtain ⟨c, hc, hcl, hcb, -⟩ := h.loadsRight hi
    obtain ⟨d, hd, hdl, hdb, -⟩ := h.loadsRight hj
    exact h.loader i j c d hc hd hcl hdl (hcb.trans hdb.symm)

theorem Inv.soundness (h : s.Inv right temp) : s.Sound where
  lock := h.sound
  call _ _ _ _ hi hf := h.call_fault hi hf
  worker := h.worker_fault

end Inv

end Sys

section Run

variable {config : CacheConfig} {right : Nat → UInt8} {temp : TempStore} {s₀ s : Sys}
  {as : List Action}

/-- **Exclusion and assertion freedom** of the cache, over every run. -/
theorem cache_exclusion (hb : build config right temp = .ok s₀)
    (hr : runFrom Sys.step s₀ as = some s) : s.Exclusion ∧ s.Sound := by
  obtain ⟨-, h⟩ := Sys.run_inv hb hr
  exact ⟨h.exclusion, h.soundness⟩

/-- A write to block 0, its spill by a read of block 1, and a read that brings it back. -/
def spillAndRehydrate : List Action :=
  [.writeBlock 0 1 [7] 0, .lock 0 .written, .rightRead 0 true, .finish 0,
    .readBlock 1 2 [0, 0] 0, .lock 1 .written, .rightRead 1 true, .finish 1,
    .readBlock 2 0 [0, 0] 0, .lock 2 .written]

/-- At its end call 2 uses the temp file of block 0. -/
theorem spillAndRehydrate_exclusion : ∃ s₀ s,
    build ⟨1, 1, 2, 1⟩ UInt8.ofNat (fun _ => none) = .ok s₀ ∧
    runFrom Sys.step s₀ spillAndRehydrate = some s ∧ s.UsesTemp (.call 2) 0 ∧
    s.Exclusion ∧ s.Sound := by
  obtain ⟨s₀, hb⟩ : ∃ s₀, build ⟨1, 1, 2, 1⟩ UInt8.ofNat (fun _ => none) = .ok s₀ := ⟨_, rfl⟩
  have hrun : ∃ s, runFrom Sys.step s₀ spillAndRehydrate = some s ∧
      ((s.calls 2).any fun c => match c.phase with | .readTemp 0 => true | _ => false) = true := by
    obtain rfl := Except.ok.inj hb
    exact exists_run _ _ _ _ (by decide +kernel)
  obtain ⟨s, hr, hs⟩ := hrun
  refine ⟨s₀, s, hb, hr, ?_, cache_exclusion hb hr⟩
  obtain ⟨⟨op, ph⟩, hc, hph⟩ := (Option.any_eq_true _ _).mp hs
  dsimp only at hph
  split at hph
  · exact ⟨op, .inl hc⟩
  · cases hph

end Run

end YumeDisk.Cache
