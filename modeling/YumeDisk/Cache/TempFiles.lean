import YumeDisk.Cache.Exclusion

/-!
# The temp files and their accounts

* `FilesStay`: a section without a lost temp write removes no file.
* `PutInPlace`, `FileLost`: when the present file of a block was written, and when a file was lost.
* `TempAccounts`, `temp_accounts`: in every state of every run the temp files are those the cache
  accounts for, up to files from before the cache and files that a failed write has lost.
-/

namespace YumeDisk.Cache

open YumeDisk.Lib Resident

/-! ## Sections that remove no file -/

/-- No temp file goes away. -/
def FilesStay (w w' : World) : Prop := ∀ c, w.temp c ≠ none → w'.temp c ≠ none

instance : Std.Refl FilesStay := ⟨fun _ _ => id⟩

instance : IsTrans World FilesStay := ⟨fun _ _ _ h h' c hc => h' c (h c hc)⟩

section Keeps

variable {α : Type}

theorem keeps_onResident (m : Resident.M α) : Keeps FilesStay (onResident m) := by
  intro w
  unfold Ends onResident
  cases m w.state.resident <;> exact fun _ => id

theorem keeps_modifyState (f : CacheState → CacheState) : Keeps FilesStay (modifyState f) :=
  keeps_modify fun _ _ => id

theorem keeps_violation (message : String) :
    Keeps FilesStay (violation message : CacheM α) :=
  keeps_throw _

theorem keeps_liftExcept (x : Except CacheError α) :
    Keeps FilesStay (liftExcept x : CacheM α) := by
  cases x with
  | ok a => exact keeps_pure a
  | error e => exact keeps_throw _

theorem keeps_debugAssert (p : Bool) : Keeps FilesStay (debugAssert p : CacheM Unit) :=
  keeps_ite (keeps_pure _) (keeps_throw _)

theorem keeps_insertActiveTemp (b : Nat) : Keeps FilesStay (insertActiveTemp b) :=
  keeps_get.bind fun _ => (keeps_modifyState _).bind fun _ => keeps_debugAssert _

theorem keeps_removeActiveTemp (b : Nat) : Keeps FilesStay (removeActiveTemp b) :=
  keeps_get.bind fun _ => (keeps_modifyState _).bind fun _ => keeps_debugAssert _

/-- The one section that could: the write of a temp file. -/
theorem keeps_writeBlock {outcome : TempWrite} (h : outcome ≠ .lost) (b : Nat) (data : Bytes) :
    Keeps FilesStay (TempStore.writeBlock outcome b data) := by
  cases outcome with
  | written =>
    refine keeps_modify fun w c hc => ?_
    by_cases hcb : c = b
    · subst hcb
      simp
    · simpa [Function.update_of_ne hcb] using hc
  | failed => exact keeps_throw _
  | lost => exact absurd rfl h

theorem keeps_isErr {m : CacheM Unit} (h : Keeps FilesStay m) : Keeps FilesStay (isErr m) := by
  intro w
  have hm := h w
  unfold Ends at hm ⊢
  unfold isErr
  split at hm
  · next hw => rw [hw]; exact hm
  · next e w' hw =>
    rw [hw]
    cases e <;> exact hm

/-! ### The calls -/

theorem keeps_releaseForegroundDirtyWaiter (waiting : Bool) :
    Keeps FilesStay (releaseForegroundDirtyWaiter waiting) :=
  keeps_ite (keeps_pure _) (keeps_get.bind fun _ =>
    keeps_ite (keeps_violation _) (keeps_modifyState _))

theorem keeps_beforeWait (waiting : Bool) (reason : WaitReason) :
    Keeps FilesStay (beforeWait waiting reason) := by
  cases reason with
  | generic => exact (keeps_releaseForegroundDirtyWaiter _).bind fun _ => keeps_pure _
  | dirtyEvictionTempSlot =>
    unfold beforeWait
    refine keeps_ite ?_ (keeps_pure _)
    exact (keeps_modifyState _).bind fun _ => keeps_pure _

theorem keeps_afterWait (waiting : Bool) : Keeps FilesStay (afterWait waiting) :=
  keeps_get.bind fun _ =>
    keeps_ite ((keeps_releaseForegroundDirtyWaiter _).bind fun _ => keeps_throw _) (keeps_pure _)

theorem keeps_copyReadyBlock (touched : TouchedBlock) (buffer : Bytes) :
    Keeps FilesStay (copyReadyBlock touched buffer) := by
  refine keeps_get.bind fun w => ?_
  split
  · exact keeps_violation _
  · exact keeps_ite (keeps_violation _) (keeps_liftExcept _)

theorem keeps_spillVictim (victim : Nat) : Keeps FilesStay (spillVictim victim) := by
  refine (keeps_onResident _).bind fun evicted => ?_
  split
  · exact keeps_violation _
  · exact keeps_ite (keeps_violation _) (keeps_get.bind fun _ => (keeps_modifyState _).bind fun _ =>
      keeps_ite (keeps_violation _) (keeps_pure _))

variable {config : CacheConfig} {outcome : TempWrite}

theorem keeps_prepareResidentSlotForInsert (h : outcome ≠ .lost) :
    Keeps FilesStay (prepareResidentSlotForInsert config outcome) := by
  refine keeps_get.bind fun w => ?_
  split
  · exact keeps_pure _
  · refine keeps_ite (keeps_pure _) ?_
    split
    · exact keeps_violation _
    · refine keeps_ite (keeps_pure _) (keeps_ite ?_ (keeps_ite (keeps_pure _) (keeps_ite ?_
        (keeps_spillVictim _))))
      · refine (keeps_onResident _).bind fun evicted => ?_
        split
        · exact keeps_violation _
        · exact keeps_pure _
      · exact (keeps_writeBlock h _ _).bind fun _ => (keeps_onResident _).bind fun _ =>
          keeps_spillVictim _

theorem keeps_enqueue (b : Nat) (patch : Option (Range × Bytes)) :
    Keeps FilesStay (match patch with
      | none => (pure () : CacheM Unit)
      | some (range, data) => onResident (enqueuePendingPatch b range data)) := by
  split
  · exact keeps_pure _
  · exact keeps_onResident _

theorem keeps_prepareMiss (h : outcome ≠ .lost) (b base validLen : Nat)
    (patch : Option (Range × Bytes)) :
    Keeps FilesStay (prepareMiss config outcome b base validLen patch) := by
  have henqueue := keeps_enqueue b patch
  refine keeps_get.bind fun w => ?_
  split
  · refine keeps_ite (keeps_pure _) ((keeps_prepareResidentSlotForInsert h).bind fun r => ?_)
    split
    · exact keeps_pure _
    · exact (keeps_insertActiveTemp _).bind fun _ => (keeps_onResident _).bind fun _ =>
        henqueue.bind fun _ => keeps_pure _
  · refine (keeps_prepareResidentSlotForInsert h).bind fun r => ?_
    split
    · exact keeps_pure _
    · exact (keeps_onResident _).bind fun _ => henqueue.bind fun _ => keeps_pure _

theorem keeps_planTouchedBlock (h : outcome ≠ .lost) (validLen : Nat) (op : Op) :
    Keeps FilesStay (planTouchedBlock config outcome validLen op) := by
  cases op with
  | read touched buffer =>
    refine keeps_get.bind fun w => ?_
    split
    · exact (keeps_copyReadyBlock _ _).bind fun _ => (keeps_onResident _).bind fun _ => keeps_pure _
    · exact keeps_pure _
    · exact keeps_pure _
    · exact keeps_prepareMiss h _ _ _ _
  | write touched data =>
    refine (keeps_liftExcept _).bind fun slice => keeps_get.bind fun w => ?_
    split
    · exact (keeps_onResident _).bind fun _ => (keeps_onResident _).bind fun _ => keeps_pure _
    · exact keeps_pure _
    · exact keeps_pure _
    · exact keeps_prepareMiss h _ _ _ _

theorem keeps_orRelease {m : CacheM α} (h : Keeps FilesStay m) (waiting : Bool) :
    Keeps FilesStay (orRelease waiting m) := by
  intro w
  have hm := h w
  unfold Ends at hm
  unfold Ends orRelease
  split at hm
  · next hw =>
    rw [hw]
    exact hm
  · next e w' hw =>
    rw [hw]
    cases e with
    | panic => exact hm
    | error e =>
      have hrelease : Keeps FilesStay (do
          releaseForegroundDirtyWaiter waiting
          throw (.error e) : CacheM α) :=
        (keeps_releaseForegroundDirtyWaiter _).bind fun _ => keeps_throw _
      exact (hrelease w').mono (fun _ _ h' => IsTrans.trans _ _ _ hm h')
        fun _ _ h' => IsTrans.trans _ _ _ hm h'

theorem keeps_loopTop (h : outcome ≠ .lost) (op : Op) (waiting : Bool) :
    Keeps FilesStay (loopTop config op waiting outcome) := by
  refine keeps_get.bind fun w => keeps_ite
    ((keeps_releaseForegroundDirtyWaiter _).bind fun _ => keeps_throw _)
    ((keeps_orRelease (keeps_planTouchedBlock h _ _) _).bind fun a => ?_)
  split
  · exact (keeps_releaseForegroundDirtyWaiter _).bind fun _ => keeps_pure _
  · exact (keeps_beforeWait _ _).bind fun _ => keeps_pure _
  · exact (keeps_releaseForegroundDirtyWaiter _).bind fun _ => keeps_pure _
  · exact (keeps_releaseForegroundDirtyWaiter _).bind fun _ => keeps_pure _

theorem keeps_answerLoaded (op : Op) : Keeps FilesStay (answerLoaded op) := by
  cases op with
  | read touched buffer => exact (keeps_copyReadyBlock _ _).bind fun _ => keeps_pure _
  | write touched data => exact keeps_pure _

theorem keeps_finishLoad (op : Op) (b : Nat) (result : Except CacheError Bytes) :
    Keeps FilesStay (finishLoad op b result) := by
  cases result with
  | ok data => exact (keeps_onResident _).bind fun _ => keeps_answerLoaded op
  | error e => exact (keeps_onResident _).bind fun _ => keeps_throw _

theorem keeps_finishRehydrate (b : Nat) (data : Bytes) :
    Keeps FilesStay (finishRehydrate b data) := by
  refine (keeps_onResident _).bind fun _ => keeps_get.bind fun w =>
    (keeps_modifyState _).bind fun _ => ?_
  split
  · exact keeps_violation _
  · split
    · exact keeps_violation _
    · exact keeps_ite (keeps_violation _) (keeps_onResident _)

theorem keeps_finishTempLoad (op : Op) (b : Nat) (result : Except CacheError Bytes) :
    Keeps FilesStay (finishTempLoad op b result) := by
  refine (keeps_removeActiveTemp _).bind fun _ => ?_
  cases result with
  | ok data => exact (keeps_finishRehydrate _ _).bind fun _ => keeps_answerLoaded op
  | error e => exact (keeps_onResident _).bind fun _ => keeps_throw _

/-! ### The worker -/

theorem keeps_selectExistingTempFlush : Keeps FilesStay (selectExistingTempFlush config) := by
  refine keeps_get.bind fun w => ?_
  dsimp only
  split
  · exact (keeps_insertActiveTemp _).bind fun _ => (keeps_liftExcept _).bind fun _ => keeps_pure _
  · split
    · exact (keeps_insertActiveTemp _).bind fun _ => (keeps_liftExcept _).bind fun _ => keeps_pure _
    · exact keeps_pure _

theorem keeps_createSnapshotTempLocked (h : outcome ≠ .lost) :
    Keeps FilesStay (createSnapshotTempLocked config outcome) := by
  refine keeps_get.bind fun w => keeps_ite (keeps_pure _) (keeps_ite (keeps_pure _) ?_)
  split
  · exact keeps_pure _
  · split
    · exact keeps_violation _
    · refine keeps_ite (keeps_violation _) (keeps_ite (keeps_violation _) (keeps_ite
        (keeps_violation _) (keeps_ite (keeps_violation _) ?_)))
      exact (keeps_isErr (keeps_writeBlock h _ _)).bind fun _ => keeps_ite (keeps_pure _)
        ((keeps_onResident _).bind fun _ => keeps_pure _)

theorem keeps_workerIteration (h : outcome ≠ .lost) (scanDue : Bool) :
    Keeps FilesStay (workerIteration config scanDue outcome) := by
  refine keeps_get.bind fun w => keeps_ite (keeps_pure _) (keeps_ite ?_ (keeps_pure _))
  refine keeps_selectExistingTempFlush.bind fun action => ?_
  split
  · exact keeps_pure _
  · exact (keeps_createSnapshotTempLocked h).bind fun _ => keeps_ite (keeps_pure _) (keeps_pure _)

theorem keeps_finishFlush (b : Nat) (flushOk : Bool) : Keeps FilesStay (finishFlush b flushOk) := by
  refine (keeps_removeActiveTemp _).bind fun _ => keeps_ite (keeps_pure _) (keeps_get.bind fun w => ?_)
  exact keeps_ite (keeps_modifyState _) (keeps_ite (keeps_onResident _) (keeps_violation _))

end Keeps

/-- How the temp write of the section that the action starts ends, if it makes one. -/
def Action.outcome : Action → Option TempWrite
  | .lock _ outcome | .workerLock outcome | .workerWake _ outcome => some outcome
  | _ => none

namespace Sys

/-- The temp file of the block is removed, and the block not yet off the accounts. -/
def Removed (s : Sys) (b : Nat) : Prop := s.worker = .flushFinish b true

section Step

variable {s s' : Sys} {a : Action} {i : Nat} {op : Op} {ph : Phase}

theorem locked_files {α : Type} {m : CacheM α} {k : Sys → Except CacheError α → Sys}
    (hm : Keeps FilesStay m) (hk : ∀ t r, (k t r).world = t.world) :
    FilesStay s.world (s.locked m k).world := by
  have h := hm s.world
  unfold Ends at h
  unfold Sys.locked
  split at h
  · next hw =>
    rw [hw, hk]
    exact h
  · next e w hw =>
    rw [hw]
    cases e with
    | panic => exact h
    | error e =>
      rw [hk]
      exact h

theorem stepCall_files (ha : a.outcome ≠ some .lost) (hs : s.stepCall i op ph a = some s') :
    FilesStay s.world s'.world := by
  unfold Sys.stepCall at hs
  split at hs
  case h_7 => cases hs
  all_goals obtain rfl := Option.some.inj hs
  · exact locked_files (keeps_loopTop (fun hl => ha (congrArg some hl)) _ _)
      fun t r => (afterLoopTop_same t r).world
  · exact locked_files (keeps_afterWait _) fun t r => (afterWaiting_same _ t r).world
  · exact fun _ => id
  · exact fun _ => id
  · exact locked_files (keeps_finishLoad _ _ _) fun t r => (afterFinish_same t r).world
  · exact locked_files (keeps_finishTempLoad _ _ _) fun t r => (afterFinish_same t r).world

theorem stepWorker_files (ha : a.outcome ≠ some .lost) (hs : s.stepWorker s.worker a = some s')
    {c : Nat} (hc : s.world.temp c ≠ none) : s'.world.temp c ≠ none ∨ s'.Removed c := by
  unfold Sys.stepWorker at hs
  split at hs
  case h_7 => cases hs
  · obtain rfl := Option.some.inj hs
    exact .inl (locked_files (keeps_workerIteration (fun hl => ha (congrArg some hl)) _)
      (fun t r => (afterWorkerIteration_same t r).world) c hc)
  · obtain rfl := Option.some.inj hs
    exact .inl (locked_files (keeps_workerIteration (fun hl => ha (congrArg some hl)) _)
      (fun t r => (afterWorkerIteration_same t r).world) c hc)
  · split at hs <;> obtain rfl := Option.some.inj hs <;> exact .inl hc
  · split at hs <;> obtain rfl := Option.some.inj hs <;> exact .inl hc
  · next b ok _ =>
    obtain rfl := Option.some.inj hs
    by_cases hcb : c = b
    · subst hcb
      cases ok with
      | true => exact .inr rfl
      | false => exact .inl hc
    · refine .inl ?_
      show s.world.temp.removeBlock ok b c ≠ none
      cases ok with
      | true => simpa [TempStore.removeBlock, Function.update_of_ne hcb] using hc
      | false => exact hc
  · obtain rfl := Option.some.inj hs
    exact .inl (locked_files (keeps_finishFlush _ _) (fun t r => (afterFlushFinish_same t r).world) c hc)

/-- **A file stays** unless a failed write loses it or the flush worker removes it. -/
theorem step_files (ha : a.outcome ≠ some .lost) (hs : s.step a = some s') {c : Nat}
    (hc : s.world.temp c ≠ none) : s'.world.temp c ≠ none ∨ s'.Removed c := by
  obtain ⟨-, ⟨i, offset, k, d, m, -, hs⟩ | ⟨-, rfl⟩ | ⟨i, call, -, -, hs⟩ | ⟨-, hs⟩⟩ := step_cases hs
  · exact .inl (by rwa [(invoke_same hs).2.world])
  · exact .inl hc
  · exact .inl (stepCall_files ha hs c hc)
  · exact stepWorker_files ha hs hc

end Step

/-! ## The accounts -/

def Spilled (s : Sys) (b : Nat) : Prop := s.world.state.spilledDirty.lookup b ≠ none

/-- The block is resident with `active_snapshot`. -/
def Snapshot (s : Sys) (b : Nat) : Prop :=
  ∃ e, s.world.state.resident.get b = some e ∧ e.state.activeSnapshot = true

def Dirty (s : Sys) (b : Nat) : Prop :=
  ∃ e, s.world.state.resident.get b = some e ∧ e.state.dirtyRanges ≠ []

/-- The temp file of the block is accounted for and holds `t`. -/
def HasFile (s : Sys) (b : Nat) (t : Bytes) : Prop :=
  (s.Spilled b ∨ s.Snapshot b) ∧ s.world.temp b = some t

theorem mem_tempFiles {s : Sys} {b : Nat} :
    b ∈ s.world.tempFiles ↔ s.Spilled b ∨ s.Snapshot b := by
  rw [World.tempFiles, Finset.mem_union, List.mem_toFinset, ← AList.mem_keys, mem_snapshotBlocks,
    Spilled, ← AList.lookup_isSome, Option.isSome_iff_ne_none]
  refine or_congr_right ?_
  constructor
  · rintro ⟨v, hv, hs⟩
    obtain ⟨e, he, rfl⟩ := view_eq_some.mp hv
    exact ⟨e, he, hs⟩
  · rintro ⟨e, he, hs⟩
    exact ⟨_, view_eq_some.mpr ⟨e, he, rfl⟩, hs⟩

end Sys

/-- The present temp file of the block was put in place by one step of the run, when the content of
the block was `t`; it has been there ever since. -/
def SnapshotTaken (right : Nat → UInt8) (s₀ : Sys) (as : List Action) (b : Nat) (t : Bytes) :
    Prop :=
  Since Sys.step s₀ as (fun u _ u' => ¬ u.HasFile b t ∧ u'.logical right b = t) (Sys.HasFile · b t)

/-- A temp write of the run failed and took the file of the block with it; there is none since. -/
def FileLost (s₀ : Sys) (as : List Action) (b : Nat) : Prop :=
  Since Sys.step s₀ as (fun u a _ => a.outcome = some .lost ∧ u.world.temp b ≠ none)
    (·.world.temp b = none)

/-- The temp files in the state `s` after the run of `as`. -/
structure TempAccounts (right : Nat → UInt8) (temp : TempStore) (s₀ : Sys) (as : List Action)
    (s : Sys) : Prop where
  limit : s.world.state.tempFileCount ≤ s.config.tempMaxFiles
  exclusive : ∀ b, s.Spilled b → ¬ s.Snapshot b
  unaccounted : ∀ b, ¬ s.Spilled b → ¬ s.Snapshot b →
    s.world.temp b = none ∨ s.world.temp b = temp b
  spilled : ∀ b, s.Spilled b → ¬ s.Removed b → s.world.temp b = some (s.logical right b)
  snapshot : ∀ b, s.Snapshot b → ¬ s.Removed b →
    (∃ t, s.world.temp b = some t ∧ SnapshotTaken right s₀ as b t) ∨
      (s.world.temp b = none ∧ s.Dirty b ∧ FileLost s₀ as b)

namespace Sys

section Inv

variable {right : Nat → UInt8} {temp : TempStore} {s s' s₀ : Sys} {a : Action} {as : List Action}
  {config : CacheConfig} {b : Nat}

theorem flush_ne_of_not_removed (hr : ¬ s.Removed b) :
    (s.world.places (s.ghost right temp) b).flush ≠ some (.finished true) := by
  intro hf
  have hf : s.worker.flush b = some (.finished true) := hf
  refine hr ?_
  unfold Removed
  cases hw : s.worker with
  | flushFinish c ok =>
    rw [hw] at hf
    by_cases hbc : b = c
    · subst hbc
      simp only [WorkerPhase.flush, Function.update_self, Option.some.injEq, Flush.finished.injEq]
        at hf
      rw [hf]
    · simp [WorkerPhase.flush, Function.update_of_ne hbc] at hf
  | flushRead c base | flushWrite c base d | flushRemove c =>
    rw [hw] at hf
    by_cases hbc : b = c
    · subst hbc
      simp [WorkerPhase.flush] at hf
    · simp [WorkerPhase.flush, Function.update_of_ne hbc] at hf
  | running _ | waiting _ | exited =>
    rw [hw] at hf
    cases hf

/-- A removed file stays removed until its block is off the accounts. -/
theorem Inv.step_removed (h : s.Inv right temp) (hs : s.step a = some s') (hr : s.Removed b) :
    s'.Removed b ∨ b ∉ s'.world.tempFiles := by
  obtain ⟨-, ⟨i, offset, k, d, m, -, hs⟩ | ⟨-, rfl⟩ | ⟨i, call, -, -, hs⟩ | ⟨-, hs⟩⟩ := step_cases hs
  · exact .inl ((invoke_same hs).2.worker.trans hr)
  · exact .inl hr
  · exact .inl ((stepCall_same hs).2.1.trans hr)
  · have hw : s.worker = .flushFinish b true := hr
    have hf : (s.ghost right temp).flush b = some (.finished true) := by
      simp [Sys.ghost, hw, WorkerPhase.flush]
    rw [hw] at hs
    cases a with
    | flushFinish =>
      obtain rfl := Option.some.inj hs
      exact .inr (locked_cases (P := fun t => b ∉ t.world.tempFiles) (finishFlush_spec h.world hf)
        (fun _ hp => hp) (fun _ w hw' => hw'.2.2 rfl) fun _ _ hp => hp.elim)
    | _ => cases hs

theorem not_accounted_fresh :
    ¬ ((fresh config right temp).Spilled b ∨ (fresh config right temp).Snapshot b) := by
  rintro (hs | ⟨e, he, -⟩)
  · exact hs rfl
  · cases he

/-- Every file on the accounts was put in place by a step of the run. -/
theorem run_snapshotTaken (hb : build config right temp = .ok s₀)
    (hr : runFrom Sys.step s₀ as = some s) :
    ∀ b t, s.HasFile b t → SnapshotTaken right s₀ as b t := by
  refine run_inv_history (I := fun as s => ∀ b t, s.HasFile b t → SnapshotTaken right s₀ as b t)
    ?_ (fun as s a s' hr ih hs b t hfile => ?_) hr
  · obtain ⟨-, -, -, -, rfl⟩ := build_eq hb
    exact fun b t hfile => absurd hfile.1 not_accounted_fresh
  · obtain ⟨-, h⟩ := Sys.run_inv hb hr
    by_cases hold : s.HasFile b t
    · exact (ih b t hold).concat hr hs hfile
    · refine since_last hr hs ⟨hold, ?_⟩ hfile
      rcases (step_inv h hs).written b (mem_tempFiles.mpr hfile.1) with ⟨hacc, ht | ht⟩ | ht
      · exact absurd ⟨mem_tempFiles.mp hacc, ht.symm.trans hfile.2⟩ hold
      · cases ht.symm.trans hfile.2
      · exact Option.some.inj (ht.symm.trans hfile.2)

/-- A file that should be there and is not was removed by the flush worker, or lost. -/
theorem run_fileLost (hb : build config right temp = .ok s₀)
    (hr : runFrom Sys.step s₀ as = some s) :
    ∀ b ∈ s.world.tempFiles, s.world.temp b = none → s.Removed b ∨ FileLost s₀ as b := by
  refine run_inv_history (I := fun as s => ∀ b ∈ s.world.tempFiles, s.world.temp b = none →
    s.Removed b ∨ FileLost s₀ as b) ?_ (fun as s a s' hr ih hs b hacc hnone => ?_) hr
  · obtain ⟨-, -, -, -, rfl⟩ := build_eq hb
    exact fun b hacc => absurd (mem_tempFiles.mp hacc) not_accounted_fresh
  · obtain ⟨-, h⟩ := Sys.run_inv hb hr
    obtain ⟨hacc', -⟩ | ht := (step_inv h hs).written b hacc
    · by_cases hfile : s.world.temp b = none
      · rcases ih b hacc' hfile with hrem | hlost
        · exact .inl ((h.step_removed hs hrem).resolve_right (absurd hacc))
        · exact .inr (hlost.concat hr hs hnone)
      · by_cases ha : a.outcome = some .lost
        · exact .inr (since_last hr hs ⟨ha, hfile⟩ hnone)
        · exact .inl ((step_files ha hs hfile).resolve_left (absurd hnone))
    · cases hnone.symm.trans ht

end Inv

end Sys

section Run

variable {config : CacheConfig} {right : Nat → UInt8} {temp : TempStore} {s₀ s : Sys}
  {as : List Action}

/-- **The temp files are those the cache accounts for**, in every state of every run. -/
theorem temp_accounts (hb : build config right temp = .ok s₀)
    (hr : runFrom Sys.step s₀ as = some s) : TempAccounts right temp s₀ as s := by
  obtain ⟨-, h⟩ := Sys.run_inv hb hr
  have hbacked : ∀ {b : Nat} {t : Bytes}, ¬ s.Removed b →
      (s.world.places (s.ghost right temp) b).Backed s.config.blockSizeBytes t →
      s.world.temp b = some t := fun hr hback => hback.kept (Sys.flush_ne_of_not_removed hr)
  refine ⟨h.world.tempFileCount.trans_le h.world.files, fun b hs => ?_, fun b hs hn => ?_,
    fun b hs hrem => ?_, fun b hs hrem => ?_⟩
  · rintro ⟨e, he, hsnap⟩
    have hoff : e.view.activeSnapshot = false :=
      (h.world.places b).not_snapshot_of_spilled hs (view_eq_some.mpr ⟨e, he, rfl⟩)
    cases hoff.symm.trans hsnap
  · rcases h.world.places b with ⟨-, -, hu, -⟩ | ⟨-, hs', -⟩ | ⟨-, -, -, hu, -⟩ | ⟨-, -, hs', -⟩ |
      ⟨v, hv, -, hready⟩
    · exact hu.temp
    · exact absurd (ne_of_eq_of_ne hs' (Option.some_ne_none _)) hs
    · exact hu.temp
    · exact absurd (ne_of_eq_of_ne hs' (Option.some_ne_none _)) hs
    · obtain ⟨e, he, rfl⟩ := view_eq_some.mp hv
      exact (hready.unbacked (Bool.eq_false_iff.mpr fun hsnap => hn ⟨e, he, hsnap⟩)).1.temp
  · rcases (h.world.places b).of_spilled hs with hv | ⟨ps, hv⟩
    · obtain ⟨sp, hsp⟩ := Option.ne_none_iff_exists'.mp hs
      exact hbacked hrem ((h.world.places b).spilled_of hv hsp).2
    · exact hbacked hrem ((h.world.places b).rehydrating_of hv).2.2
  · obtain ⟨e, he, hsnap⟩ := hs
    have hv : s.world.view b = some e.view := view_eq_some.mpr ⟨e, he, rfl⟩
    have hacc : s.Spilled b ∨ s.Snapshot b := .inr ⟨e, he, hsnap⟩
    have hready : e.view.loadState = .ready := by
      by_contra hls
      obtain ⟨ls, ps, -, hp⟩ := (h.world.places b).placeholder_of hv hls
      have hoff : e.view.activeSnapshot = false := by rw [hp]; rfl
      cases hoff.symm.trans hsnap
    rcases ((h.world.places b).ready_of hv hready).backed hsnap with ⟨t, hback, -⟩ | ⟨hlost, hd⟩
    · exact .inl ⟨t, hbacked hrem hback,
        Sys.run_snapshotTaken hb hr b t ⟨hacc, hbacked hrem hback⟩⟩
    · exact .inr ⟨hlost.temp, ⟨e, he, hd⟩, (Sys.run_fileLost hb hr b
        (Sys.mem_tempFiles.mpr hacc) hlost.temp).resolve_left hrem⟩

/-- At the end of the run `spillAndRehydrate` block 0 is spilled and block 1 has no file. -/
theorem spillAndRehydrate_accounts : ∃ s₀ s,
    build ⟨1, 1, 2, 1⟩ UInt8.ofNat (fun _ => none) = .ok s₀ ∧
    runFrom Sys.step s₀ spillAndRehydrate = some s ∧ s.Spilled 0 ∧ s.world.temp 0 = some [0, 7] ∧
    TempAccounts UInt8.ofNat (fun _ => none) s₀ spillAndRehydrate s := by
  obtain ⟨s₀, hb⟩ : ∃ s₀, build ⟨1, 1, 2, 1⟩ UInt8.ofNat (fun _ => none) = .ok s₀ := ⟨_, rfl⟩
  have hrun : ∃ s, runFrom Sys.step s₀ spillAndRehydrate = some s ∧
      ((s.world.state.spilledDirty.lookup 0).isSome &&
        decide (s.world.temp 0 = some [0, 7])) = true := by
    obtain rfl := Except.ok.inj hb
    exact exists_run _ _ _ _ (by decide +kernel)
  obtain ⟨s, hr, hs⟩ := hrun
  obtain ⟨hspilled, htemp⟩ := Bool.and_eq_true_iff.mp hs
  exact ⟨s₀, s, hb, hr, Option.isSome_iff_ne_none.mp hspilled, of_decide_eq_true htemp,
    temp_accounts hb hr⟩

/-- Block 1 is written twice and fills the LRU.  Block 0 is written, gets a snapshot, and is written
again; a read of block 2 has to spill it, and the temp write fails and loses the file. -/
def spillAndLose : List Action :=
  [.writeBlock 0 3 [7] 0, .lock 0 .written, .rightRead 0 true, .finish 0,
    .writeBlock 1 3 [8] 0, .lock 1 .written,
    .writeBlock 2 1 [7] 0, .lock 2 .written, .rightRead 2 true, .finish 2,
    .workerLock .written, .workerWake true .written,
    .writeBlock 3 1 [9] 0, .lock 3 .written, .readBlock 4 4 [0, 0] 0, .lock 4 .lost]

/-- Between two iterations of the worker, block 0 has a snapshot and no file. -/
def snapshotLost (s : Sys) : Bool :=
  (match s.worker with | .waiting _ | .running _ => true | _ => false) &&
    decide (s.world.temp 0 = none) &&
    ((s.world.state.resident.get 0).any fun e => e.state.activeSnapshot)

/-- With no flush running there may be a file without an account, left from before the cache, and an
account without a file, after a write that lost it. -/
theorem temp_files_differ :
    (∃ s₀, build ⟨1, 1, 2, 1⟩ UInt8.ofNat (fun _ => some [1, 1]) = .ok s₀ ∧
      (∀ b, s₀.worker.flush b = none) ∧ s₀.world.temp 0 ≠ none ∧ ¬ s₀.Spilled 0 ∧
      ¬ s₀.Snapshot 0) ∧
    ∃ s₀ s, build ⟨1, 1, 2, 1⟩ UInt8.ofNat (fun _ => none) = .ok s₀ ∧
      runFrom Sys.step s₀ spillAndLose = some s ∧ (∀ b, s.worker.flush b = none) ∧
      s.world.temp 0 = none ∧ s.Snapshot 0 := by
  refine ⟨⟨Sys.fresh ⟨1, 1, 2, 1⟩ UInt8.ofNat fun _ => some [1, 1], rfl, fun _ => rfl,
    by simp [Sys.fresh], fun h => Sys.not_accounted_fresh (.inl h),
    fun h => Sys.not_accounted_fresh (.inr h)⟩, ?_⟩
  obtain ⟨s₀, hb⟩ : ∃ s₀, build ⟨1, 1, 2, 1⟩ UInt8.ofNat (fun _ => none) = .ok s₀ := ⟨_, rfl⟩
  have hrun : ∃ s, runFrom Sys.step s₀ spillAndLose = some s ∧ snapshotLost s = true := by
    obtain rfl := Except.ok.inj hb
    exact exists_run _ _ _ _ (by decide +kernel)
  obtain ⟨s, hr, hs⟩ := hrun
  simp only [snapshotLost, Bool.and_eq_true, decide_eq_true_eq, Option.any_eq_true] at hs
  obtain ⟨⟨hw, htemp⟩, e, he, hsnap⟩ := hs
  refine ⟨s₀, s, hb, hr, fun b => ?_, htemp, e, he, hsnap⟩
  cases hworker : s.worker with
  | running _ | waiting _ | exited => rfl
  | _ => simp [hworker] at hw

end Run

end YumeDisk.Cache
