import YumeDisk.Cache.Exclusion

/-!
# No stuck waiter (`wait_for_state_change`, `notify_all`)

`Sys` lets a wait end at any time.  Here a call that waits is asleep until some thread calls
`notify_all`, which a thread does after it has released the lock.

* `Sys.notifier`: which sections of the program are followed by a `notify_all`, path by path.
* `WaitSys`: the cache with the calls that are asleep and the threads that still have to notify.
* `NoStuckWaiter`, `no_stuck_waiter`: whatever a call waits for is in flight and will notify, or the
  worker has a temp file to flush.
-/

namespace YumeDisk.Cache

open YumeDisk.Lib

inductive Notifier where
  | call (i : Nat)
  | worker
  | stop
deriving DecidableEq, Repr

/-- After the section that ends a load: on the path of an `Ok` read an error leaves by `?`. -/
def notifiesLoad {α : Type} (result : Except CacheError Bytes) :
    EStateM.Result Fault World α → Bool
  | .ok _ _ => true
  | .error .panic _ => false
  | .error (.error _) _ =>
    match result with
    | .ok _ => false
    | .error _ => true

/-- `WorkerAction::SnapshotCreated`. -/
def notifiesIteration : EStateM.Result Fault World WorkerNext → Bool
  | .ok (.action .snapshotCreated) _ => true
  | _ => false

/-- In `flush_active_temp`: a failed flush notifies, a successful one after `finish_flush_success`. -/
def notifiesFlush : EStateM.Result Fault World Unit → Bool
  | .ok _ _ => true
  | .error _ _ => false

/-- The thread that has to call `notify_all` after the section that `a` starts. -/
def Sys.notifier (s : Sys) : Action → Option Notifier
  | .finish i =>
    match s.calls i with
    | some ⟨op, .rightRead b result⟩ =>
      if notifiesLoad result (finishLoad op b result s.world) then some (.call i) else none
    | some ⟨op, .tempRead b result⟩ =>
      if notifiesLoad result (finishTempLoad op b result s.world) then some (.call i) else none
    | _ => none
  | .workerLock outcome =>
    match s.worker with
    | .running scanDue =>
      if notifiesIteration (workerIteration s.config scanDue outcome s.world) then some .worker
      else none
    | _ => none
  | .workerWake timedOut outcome =>
    match s.worker with
    | .waiting scanDue =>
      if notifiesIteration (workerIteration s.config (scanDue || timedOut) outcome s.world) then
        some .worker
      else none
    | _ => none
  | .flushFinish =>
    match s.worker with
    | .flushFinish b flushOk =>
      if notifiesFlush (finishFlush b flushOk s.world) then some .worker else none
    | _ => none
  | .stop => some .stop
  | _ => none

structure WaitSys where
  sys : Sys
  /-- The calls in `state_changed.wait` that nobody has notified yet. -/
  asleep : Finset Nat := ∅
  /-- Who has released the lock and has not yet called `notify_all`. -/
  owed : Finset Notifier := ∅

inductive WaitAction where
  | act (a : Action)
  | notify (n : Notifier)
deriving Repr

def Action.ofWorker : Action → Bool
  | .workerLock _ | .workerWake _ _ | .flushRead _ | .flushWrite _ _ | .flushRemove _
  | .flushFinish => true
  | _ => false

/-- A call falls asleep at the end of the section in which it decides to wait. -/
def asleepAfter (t : Sys) (asleep : Finset Nat) : Action → Finset Nat
  | .lock i _ =>
    match t.calls i with
    | some ⟨_, .waiting _⟩ => insert i asleep
    | _ => asleep
  | .wake i => asleep.erase i
  | _ => asleep

theorem mem_asleepAfter {t : Sys} {asleep : Finset Nat} {a : Action} {i : Nat}
    (hi : i ∈ asleepAfter t asleep a) : (i ∈ asleep ∧ a ≠ .wake i) ∨
      ∃ outcome op waiting, a = .lock i outcome ∧ t.calls i = some ⟨op, .waiting waiting⟩ := by
  cases a with
  | lock j outcome =>
    cases hj : t.calls j with
    | none => exact .inl ⟨by simpa [asleepAfter, hj] using hi, by simp⟩
    | some c =>
      obtain ⟨op, ph⟩ := c
      cases ph with
      | waiting waiting =>
        have hi : i = j ∨ i ∈ asleep := by simpa [asleepAfter, hj] using hi
        rcases hi with rfl | hi
        · exact .inr ⟨outcome, op, waiting, rfl, hj⟩
        · exact .inl ⟨hi, by simp⟩
      | _ => exact .inl ⟨by simpa [asleepAfter, hj] using hi, by simp⟩
  | wake j =>
    obtain ⟨hne, hi⟩ := Finset.mem_erase.mp hi
    exact .inl ⟨hi, by rintro ⟨⟩; exact hne rfl⟩
  | _ => exact .inl ⟨hi, by simp⟩

namespace WaitSys

/-- The worker notifies before it goes on; a call or `stop` that has to notify has nothing else to
do. -/
def step (s : WaitSys) : WaitAction → Option WaitSys
  | .act a =>
    if a.ofWorker = true ∧ .worker ∈ s.owed then none
    else (s.sys.step a).map fun t => {
      sys := t
      asleep := asleepAfter t s.asleep a
      owed := (s.sys.notifier a).elim s.owed fun n => insert n s.owed }
  | .notify n =>
    if n ∈ s.owed then some { s with asleep := ∅, owed := s.owed.erase n } else none

end WaitSys

/-! ## What is in flight -/

namespace Sys

/-- Some call loads a block from the right store or brings one back from its temp file. -/
def Loads (s : Sys) : Prop := ∃ i c, s.calls i = some c ∧ c.phase.loads = true

def Rehydrates (s : Sys) : Prop :=
  ∃ i op b, s.calls i = some ⟨op, .readTemp b⟩ ∨
    ∃ result, s.calls i = some ⟨op, .tempRead b result⟩

def Flushes (s : Sys) : Prop := ∃ b, s.worker.flush b ≠ none

/-- The worker lives, and its next scan starts a flush. -/
def FlushReady (s : Sys) : Prop :=
  s.worker ≠ .exited ∧
    ∃ action w, selectExistingTempFlush s.config s.world = .ok (some action) w

end Sys

/-- What holds in a state in which no stop was requested. -/
structure NoStuckWaiter (s : WaitSys) : Prop where
  generic : ∀ op outcome w, op.Fits s.sys.config.blockSizeBytes →
    planTouchedBlock s.sys.config outcome s.sys.config.blockSizeBytes op s.sys.world =
      .ok (.wait .generic) w → s.sys.Loads ∨ s.sys.Flushes
  slot : ∀ op outcome w, op.Fits s.sys.config.blockSizeBytes →
    planTouchedBlock s.sys.config outcome s.sys.config.blockSizeBytes op s.sys.world =
      .ok (.wait .dirtyEvictionTempSlot) w →
    s.sys.Rehydrates ∨ s.sys.Flushes ∨ s.sys.FlushReady
  load_notifies : ∀ i t, s.sys.step (.finish i) = some t →
    s.sys.notifier (.finish i) = some (.call i)
  flush_notifies : ∀ t, s.sys.step .flushFinish = some t →
    s.sys.notifier .flushFinish = some .worker
  asleep : s.asleep ≠ ∅ → s.owed ≠ ∅ ∨ s.sys.Loads ∨ s.sys.Flushes ∨ s.sys.FlushReady

namespace Sys

section Inv

variable {right : Nat → UInt8} {temp : TempStore} {s t : Sys} {a : Action}

/-- A placeholder is a load in flight. -/
theorem Inv.loads_of_placeholder (h : s.Inv right temp) {b : Nat} (hb : ¬ s.world.NotLoading b) :
    s.Loads := by
  obtain ⟨i, c, hi, hl, -⟩ := h.loaded b hb
  exact ⟨i, c, hi, hl⟩

theorem Inv.rehydrates_of_placeholder (h : s.Inv right temp) {b : Nat}
    (hb : (s.world.view b).map View.loadState = some .rehydrating) : s.Rehydrates := by
  obtain ⟨v, hv, hre⟩ := Option.map_eq_some_iff.mp hb
  obtain ⟨i, ⟨op, ph⟩, hi, hl, rfl⟩ := h.loaded b fun hnl => by
    rw [hnl v hv] at hre
    cases hre
  have hcall : CallInv (s.ghost right temp) s.world op ph := h.call i _ hi
  have hv : s.world.view op.blockIndex = some v := hv
  cases ph with
  | readRight b base =>
    obtain rfl := Option.some.inj (hv.symm.trans hcall.2.2)
    cases hre
  | rightRead b result =>
    obtain rfl := Option.some.inj (hv.symm.trans hcall.2.1)
    cases hre
  | readTemp b => exact ⟨i, op, b, .inl hi⟩
  | tempRead b result => exact ⟨i, op, b, .inr ⟨result, hi⟩⟩
  | entering _ | waiting _ | returned => cases hl

/-- A block in `active_temp_blocks` is being flushed or brought back. -/
theorem Inv.of_active (h : s.Inv right temp) {b : Nat} (hb : b ∈ s.world.state.activeTempBlocks) :
    s.Rehydrates ∨ s.Flushes := by
  rcases (h.world.active b).mpr hb with hf | hre
  · exact .inr ⟨b, hf⟩
  · exact .inl (h.rehydrates_of_placeholder hre)

theorem Rehydrates.loads (h : s.Rehydrates) : s.Loads := by
  obtain ⟨i, op, b, hi | ⟨result, hi⟩⟩ := h
  · exact ⟨i, _, hi, rfl⟩
  · exact ⟨i, _, hi, rfl⟩

theorem Inv.of_generic (h : s.Inv right temp)
    (hc : WaitCause (s.ghost right temp) s.world .generic) : s.Loads ∨ s.Flushes := by
  obtain ⟨c, hc | hc⟩ := hc
  · exact (h.of_active hc).imp_left Rehydrates.loads
  · exact .inl (h.loads_of_placeholder hc)

/-- When the temp files are all in use, each of them is in flight, or the worker will take one. -/
theorem Inv.of_full (h : s.Inv right temp) (hroom : 0 < s.config.tempMaxFiles)
    (hstop : s.world.state.stopRequested = false)
    (hfull : s.config.tempMaxFiles ≤ s.world.tempFiles.card) :
    s.Rehydrates ∨ s.Flushes ∨ s.FlushReady := by
  obtain ⟨b, hb⟩ : s.world.tempFiles.Nonempty := Finset.card_pos.mp (hroom.trans_le hfull)
  have hlive : s.worker ≠ .exited := fun hq => by
    rw [h.exited hq] at hstop
    cases hstop
  have hsel : Ends (selectExistingTempFlush s.config) s.world
      (SelectEnds (s.ghost right temp) s.world) NoFault :=
    selectExistingTempFlush_spec h.world rfl
  cases hr : selectExistingTempFlush s.config s.world with
  | error f w => exact (hsel.of_error hr).elim
  | ok action w =>
    cases action with
    | some action => exact .inr (.inr ⟨hlive, action, w, hr⟩)
    | none => exact (h.of_active ((hsel.of_ok hr).2 b hb)).imp_right .inl

/-! ## Every end of a load or a flush notifies -/

theorem notifiesLoad_of_ends {α : Type} {m : CacheM α} {w : World} {Q : α → World → Prop}
    {E : Fault → World → Prop} {result : Except CacheError Bytes}
    (h : Ends m w Q fun f w' => (∃ e, result = .error e) ∧ E f w') (hE : ∀ w', ¬ E .panic w') :
    notifiesLoad result (m w) = true := by
  cases hm : m w with
  | ok a w' => rfl
  | error f w' =>
    obtain ⟨⟨e, rfl⟩, he⟩ := h.of_error hm
    cases f with
    | panic => exact absurd he (hE w')
    | error e' => rfl

theorem Inv.load_notifies (h : s.Inv right temp) {i : Nat} (hs : s.step (.finish i) = some t) :
    s.notifier (.finish i) = some (.call i) := by
  unfold Sys.step at hs
  rw [if_neg (by simp [h.sound])] at hs
  obtain ⟨⟨op, ph⟩, hi, hs⟩ := Option.bind_eq_some_iff.mp hs
  have hfit : op.Fits s.config.blockSizeBytes := h.fits i _ hi
  have hcall : CallInv (s.ghost right temp) s.world op ph := h.call i _ hi
  cases ph with
  | rightRead b result =>
    obtain ⟨rfl, hv, hres⟩ := hcall
    have hn := notifiesLoad_of_ends (finishLoad_spec h.world hfit hv hres) fun w' hp =>
      hp.1.ne_panic rfl
    simp only [notifier, hi]
    rw [if_pos hn]
  | tempRead b result =>
    obtain ⟨rfl, hv, hres⟩ := hcall
    have hn := notifiesLoad_of_ends (finishTempLoad_spec h.world hfit hv hres) fun w' hp =>
      hp.1.ne_panic rfl
    simp only [notifier, hi]
    rw [if_pos hn]
  | entering _ | waiting _ | readRight _ _ | readTemp _ | returned => cases hs

theorem Inv.flush_notifies (h : s.Inv right temp) (hs : s.step .flushFinish = some t) :
    s.notifier .flushFinish = some .worker := by
  unfold Sys.step at hs
  rw [if_neg (by simp [h.sound])] at hs
  have hs : s.stepWorker s.worker .flushFinish = some t := hs
  cases hw : s.worker with
  | flushFinish b flushOk =>
    have hf : (s.ghost right temp).flush b = some (.finished flushOk) := by
      simp [Sys.ghost, hw, WorkerPhase.flush]
    simp only [notifier, hw]
    cases hm : finishFlush b flushOk s.world with
    | ok u w' => rfl
    | error f w' => exact ((finishFlush_spec h.world hf).of_error hm).elim
  | _ =>
    rw [hw] at hs
    cases hs

/-! ## What one step does to the operations in flight -/

/-- A load goes on until its last section, which notifies. -/
theorem Inv.loads_step (h : s.Inv right temp) (hs : s.step a = some t)
    (hn : s.notifier a = none) (hl : s.Loads) : t.Loads := by
  obtain ⟨j, c, hj, hl⟩ := hl
  obtain ⟨-, ⟨i, offset, k, d, m, -, hs'⟩ | ⟨-, rfl⟩ | ⟨i, c', ha, hi, hs'⟩ | ⟨-, hs'⟩⟩ :=
    step_cases hs
  · obtain ⟨hfree, hsame⟩ := invoke_same hs'
    refine ⟨j, c, ?_, hl⟩
    rw [hsame.calls j (by rintro rfl; cases hfree.symm.trans hj), hj]
  · exact ⟨j, c, hj, hl⟩
  · by_cases hji : j = i
    · subst hji
      obtain rfl := Option.some.inj (hi.symm.trans hj)
      obtain ⟨op, ph⟩ := c'
      have hs' : s.stepCall j op ph a = some t := hs'
      cases ph with
      | entering _ | waiting _ | returned => cases hl
      | readRight b base =>
        cases a with
        | rightRead k ok =>
          obtain rfl := Option.some.inj hs'
          exact ⟨j, _, Function.update_self .., rfl⟩
        | _ => cases hs'
      | readTemp b =>
        cases a with
        | tempRead k ok =>
          obtain rfl := Option.some.inj hs'
          exact ⟨j, _, Function.update_self .., rfl⟩
        | _ => cases hs'
      | rightRead b result | tempRead b result =>
        cases a with
        | finish k => cases (h.load_notifies hs).symm.trans hn
        | _ => cases hs'
    · exact ⟨j, c, by rw [(stepCall_same hs').2.2 j hji, hj], hl⟩
  · exact ⟨j, c, by rw [(stepWorker_same hs').2, hj], hl⟩

/-- A flush goes on until its last section, which notifies. -/
theorem Inv.flushes_step (h : s.Inv right temp) (hs : s.step a = some t)
    (hn : s.notifier a = none) (hf : s.Flushes) : t.Flushes := by
  obtain ⟨-, ⟨i, offset, k, d, m, -, hs'⟩ | ⟨-, rfl⟩ | ⟨i, c, -, -, hs'⟩ | ⟨-, hs'⟩⟩ := step_cases hs
  · unfold Flushes
    rwa [(invoke_same hs').2.worker]
  · exact hf
  · unfold Flushes
    rwa [(stepCall_same hs').2.1]
  · obtain ⟨b, hf⟩ := hf
    have hself : ∀ (b : Nat) (f : Flush),
        Function.update (fun _ => none) b (some f) b ≠ none := by simp
    unfold Sys.stepWorker at hs'
    cases hw : s.worker with
    | running _ | waiting _ | exited =>
      rw [hw] at hf
      exact absurd rfl hf
    | flushRead b base =>
      rw [hw] at hs'
      cases a with
      | flushRead ok =>
        dsimp only at hs'
        split at hs' <;> obtain rfl := Option.some.inj hs' <;> exact ⟨b, hself b _⟩
      | _ => cases hs'
    | flushWrite b base d =>
      rw [hw] at hs'
      cases a with
      | flushWrite ok torn =>
        dsimp only at hs'
        split at hs' <;> obtain rfl := Option.some.inj hs' <;> exact ⟨b, hself b _⟩
      | _ => cases hs'
    | flushRemove b =>
      rw [hw] at hs'
      cases a with
      | flushRemove ok =>
        obtain rfl := Option.some.inj hs'
        exact ⟨b, hself b _⟩
      | _ => cases hs'
    | flushFinish b ok =>
      rw [hw] at hs'
      cases a with
      | flushFinish => cases (h.flush_notifies hs).symm.trans hn
      | _ => cases hs'

/-- What a sleeping call waits for. -/
def Awaited (s : Sys) : Bool → Prop
  | false => s.Loads ∨ s.Flushes
  | true => s.config.tempMaxFiles ≤ s.world.tempFiles.card

theorem Inv.awaited_step (h : s.Inv right temp) (hs : s.step a = some t)
    (hn : s.notifier a = none) {waiting : Bool} (hw : s.Awaited waiting) : t.Awaited waiting := by
  cases waiting with
  | false => exact hw.imp (h.loads_step hs hn) (h.flushes_step hs hn)
  | true =>
    have hfinish : a ≠ .flushFinish := by
      rintro rfl
      cases (h.flush_notifies hs).symm.trans hn
    show t.config.tempMaxFiles ≤ _
    rw [step_config hs]
    exact le_trans hw (Finset.card_le_card ((step_inv h hs).kept hfinish))

theorem lock_entering {i : Nat} {outcome : TempWrite} (hs : s.step (.lock i outcome) = some t) :
    ∃ op waiting, s.calls i = some ⟨op, .entering waiting⟩ := by
  unfold Sys.step at hs
  split at hs
  · cases hs
  · obtain ⟨⟨op, ph⟩, hi, hs⟩ := Option.bind_eq_some_iff.mp hs
    cases ph with
    | entering waiting => exact ⟨op, waiting, hi⟩
    | _ => cases hs

/-- A waiting call goes on only when it wakes. -/
theorem waiting_step (hs : s.step a = some t) {i : Nat} {op : Op} {waiting : Bool}
    (hi : s.calls i = some ⟨op, .waiting waiting⟩) (ha : a ≠ .wake i) :
    t.calls i = some ⟨op, .waiting waiting⟩ := by
  obtain ⟨-, ⟨j, offset, k, d, m, -, hs'⟩ | ⟨-, rfl⟩ | ⟨j, c, haj, hj, hs'⟩ | ⟨-, hs'⟩⟩ :=
    step_cases hs
  · obtain ⟨hfree, hsame⟩ := invoke_same hs'
    rw [hsame.calls i (by rintro rfl; cases hfree.symm.trans hi), hi]
  · exact hi
  · by_cases hij : i = j
    · subst hij
      obtain rfl := Option.some.inj (hi.symm.trans hj)
      have hs' : s.stepCall i op (.waiting waiting) a = some t := hs'
      cases a with
      | wake k =>
        obtain rfl := Option.some.inj haj
        exact absurd rfl ha
      | _ => cases hs'
    · rw [(stepCall_same hs').2.2 i hij, hi]
  · rw [(stepWorker_same hs').2, hi]

end Inv

end Sys

/-! ## Runs -/

namespace WaitSys

/-- No sleeping call is forgotten. -/
structure Inv (right : Nat → UInt8) (temp : TempStore) (s : WaitSys) : Prop where
  sys : s.sys.Inv right temp
  room : 0 < s.sys.config.tempMaxFiles
  asleep : ∀ i ∈ s.asleep, ∃ op waiting, s.sys.calls i = some ⟨op, .waiting waiting⟩ ∧
    (s.owed ≠ ∅ ∨ s.sys.Awaited waiting)

variable {right : Nat → UInt8} {temp : TempStore} {s s' : WaitSys}

theorem act_inv (h : s.Inv right temp) {a : Action} {t : Sys} (hs : s.sys.step a = some t) :
    Inv right temp {
      sys := t
      asleep := asleepAfter t s.asleep a
      owed := (s.sys.notifier a).elim s.owed fun n => insert n s.owed } := by
  have hstep := Sys.step_inv h.sys hs
  refine ⟨hstep.inv, by rw [Sys.step_config hs]; exact h.room, fun i hi => ?_⟩
  -- a call that was asleep before
  have hold : i ∈ s.asleep → a ≠ .wake i → ∃ op waiting, t.calls i = some ⟨op, .waiting waiting⟩ ∧
      ((s.sys.notifier a).elim s.owed (fun n => insert n s.owed) ≠ ∅ ∨ t.Awaited waiting) := by
    intro hi ha
    obtain ⟨op, waiting, hc, hcause⟩ := h.asleep i hi
    refine ⟨op, waiting, Sys.waiting_step hs hc ha, ?_⟩
    cases hn : s.sys.notifier a with
    | none => exact hcause.imp_right (h.sys.awaited_step hs hn)
    | some n => exact .inl (Finset.insert_nonempty ..).ne_empty
  rcases mem_asleepAfter hi with ⟨hi, ha⟩ | ⟨outcome, op, waiting, rfl, hj⟩
  · exact hold hi ha
  · rcases hstep.waits i op waiting hj with hwas | ⟨reason, rfl, hcause⟩
    · -- a call that waits takes no `lock` step
      exact absurd (Sys.lock_entering hs) (by simp [hwas])
    · refine ⟨op, _, hj, .inr ?_⟩
      cases reason with
      | generic => exact hstep.inv.of_generic hcause
      | dirtyEvictionTempSlot => exact hcause

theorem step_inv (h : s.Inv right temp) {a : WaitAction} (hs : s.step a = some s') :
    s'.Inv right temp := by
  cases a with
  | act a =>
    unfold step at hs
    dsimp only at hs
    split at hs
    · cases hs
    · obtain ⟨t, ht, rfl⟩ := Option.map_eq_some_iff.mp hs
      exact act_inv h ht
  | notify n =>
    unfold step at hs
    dsimp only at hs
    split at hs
    · obtain rfl := Option.some.inj hs
      exact ⟨h.sys, h.room, fun i hi => absurd hi (Finset.notMem_empty i)⟩
    · cases hs

theorem run_inv {config : CacheConfig} {s₀ : Sys} {as : List WaitAction}
    (hb : build config right temp = .ok s₀)
    (hr : runFrom WaitSys.step { sys := s₀ } as = some s) : s.Inv right temp := by
  refine Lib.run_inv (fun _ _ _ h hs => step_inv h hs) ⟨(Sys.build_ok hb).2, ?_, fun i hi => ?_⟩ hr
  · obtain ⟨hroom, -, -, -, rfl⟩ := Sys.build_eq hb
    exact hroom
  · exact absurd hi (Finset.notMem_empty i)

end WaitSys

section Run

variable {config : CacheConfig} {right : Nat → UInt8} {temp : TempStore}

/-- **No stuck waiter.** -/
theorem no_stuck_waiter {s₀ : Sys} {s : WaitSys} {as : List WaitAction}
    (hb : build config right temp = .ok s₀)
    (hr : runFrom WaitSys.step { sys := s₀ } as = some s)
    (hstop : s.sys.world.state.stopRequested = false) : NoStuckWaiter s := by
  have h := WaitSys.run_inv hb hr
  have hcause : ∀ {op : Op} {outcome : TempWrite} {w : World} {reason : WaitReason},
      op.Fits s.sys.config.blockSizeBytes →
      planTouchedBlock s.sys.config outcome s.sys.config.blockSizeBytes op s.sys.world =
        .ok (.wait reason) w → WaitCause (s.sys.ghost right temp) s.sys.world reason := by
    intro op outcome w reason hfit hplan
    have hends : PlanEnds (s.sys.ghost right temp) op s.sys.world (.wait reason) w :=
      (plan_spec h.sys.world rfl outcome hfit).of_ok hplan
    exact hends.2
  refine ⟨fun op outcome w hfit hplan => h.sys.of_generic (hcause hfit hplan),
    fun op outcome w hfit hplan => h.sys.of_full h.room hstop (hcause hfit hplan),
    fun i t hs => h.sys.load_notifies hs, fun t hs => h.sys.flush_notifies hs, fun hne => ?_⟩
  obtain ⟨i, hi⟩ := Finset.nonempty_iff_ne_empty.mpr hne
  obtain ⟨op, waiting, -, howed | hw⟩ := h.asleep i hi
  · exact .inl howed
  · cases waiting with
    | false => exact .inr (hw.imp_right .inl)
    | true => exact .inr ((h.sys.of_full h.room hstop hw).imp_left Sys.Rehydrates.loads)

/-- Block 0 is written, then spilled by a write to block 2, which stays dirty; the read of block 0
brings it back while a read of block 3 finds no room and no free temp file. -/
def rehydrateHoldsSlot : List Action :=
  [.writeBlock 0 1 [7] 0, .lock 0 .written, .rightRead 0 true, .finish 0,
    .readBlock 1 2 [0, 0] 0, .lock 1 .written, .rightRead 1 true, .finish 1,
    .writeBlock 2 5 [8] 0, .lock 2 .written, .rightRead 2 true, .finish 2,
    .readBlock 3 0 [0, 0] 0, .lock 3 .written, .readBlock 4 6 [0, 0] 0]

/-- The plan of call 4 waits for a temp slot, and the worker has nothing to flush. -/
def slotHeld (s : Sys) : Bool :=
  (!s.world.state.stopRequested) &&
    ((s.calls 4).any fun c =>
      (match c.phase with | .entering false => true | _ => false) &&
      (match planTouchedBlock s.config .written s.config.blockSizeBytes c.op s.world with
        | .ok (.wait .dirtyEvictionTempSlot) _ => true
        | _ => false)) &&
    (match s.worker with | .running _ => true | _ => false) &&
    (match selectExistingTempFlush s.config s.world with
      | .ok none _ => true
      | _ => false)

/-- The plan waits for a temp slot although no flush is in flight and the worker has none to start:
the one temp file is being read back. -/
theorem slot_held_by_rehydrate : ∃ s₀ s,
    build ⟨2, 1, 2, 1⟩ UInt8.ofNat (fun _ => none) = .ok s₀ ∧
    runFrom Sys.step s₀ rehydrateHoldsSlot = some s ∧ s.world.state.stopRequested = false ∧
    (∃ op w, s.calls 4 = some ⟨op, .entering false⟩ ∧
      planTouchedBlock s.config .written s.config.blockSizeBytes op s.world =
        .ok (.wait .dirtyEvictionTempSlot) w) ∧
    (∀ b, s.worker.flush b = none) ∧
    ∃ w, selectExistingTempFlush s.config s.world = .ok none w := by
  obtain ⟨s₀, hb⟩ : ∃ s₀, build ⟨2, 1, 2, 1⟩ UInt8.ofNat (fun _ => none) = .ok s₀ := ⟨_, rfl⟩
  have hrun : ∃ s, runFrom Sys.step s₀ rehydrateHoldsSlot = some s ∧ slotHeld s = true := by
    obtain rfl := Except.ok.inj hb
    exact exists_run _ _ _ _ (by decide +kernel)
  obtain ⟨s, hr, hs⟩ := hrun
  simp only [slotHeld, Bool.and_eq_true, Bool.not_eq_true', Option.any_eq_true] at hs
  obtain ⟨⟨⟨hstop, ⟨op, ph⟩, hc, hph, hplan⟩, hw⟩, hsel⟩ := hs
  refine ⟨s₀, s, hb, hr, hstop, ?_, fun b => ?_, ?_⟩
  · dsimp only at hph hplan
    split at hph
    · split at hplan
      · next h => exact ⟨op, _, hc, h⟩
      · cases hplan
    · cases hph
  · split at hw
    · next h => rw [h]; rfl
    · cases hw
  · split at hsel
    · next h => exact ⟨_, h⟩
    · cases hsel

/-- The same run with its notifications, to where call 4 waits. -/
def waitForSlot : List WaitAction :=
  (rehydrateHoldsSlot.flatMap fun a =>
    match a with
    | .finish i => [.act (.finish i), .notify (.call i)]
    | a => [.act a]) ++ [.act (.lock 4 .written)]

/-- Call 4 is asleep and everyone has notified; what it waits for is in flight. -/
theorem waitForSlot_not_stuck : ∃ s₀ s,
    build ⟨2, 1, 2, 1⟩ UInt8.ofNat (fun _ => none) = .ok s₀ ∧
    runFrom WaitSys.step { sys := s₀ } waitForSlot = some s ∧ s.asleep = {4} ∧ s.owed = ∅ ∧
    NoStuckWaiter s := by
  obtain ⟨s₀, hb⟩ : ∃ s₀, build ⟨2, 1, 2, 1⟩ UInt8.ofNat (fun _ => none) = .ok s₀ := ⟨_, rfl⟩
  have hrun : ∃ s, runFrom WaitSys.step { sys := s₀ } waitForSlot = some s ∧
      ((!s.sys.world.state.stopRequested) && decide (s.asleep = {4}) && decide (s.owed = ∅)) =
        true := by
    obtain rfl := Except.ok.inj hb
    exact exists_run _ _ _ _ (by decide +kernel)
  obtain ⟨s, hr, hs⟩ := hrun
  simp only [Bool.and_eq_true, Bool.not_eq_true', decide_eq_true_eq] at hs
  exact ⟨s₀, s, hb, hr, hs.1.2, hs.2, no_stuck_waiter hb hr hs.1.1⟩

end Run

end YumeDisk.Cache
