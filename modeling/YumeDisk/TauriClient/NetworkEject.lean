import YumeDisk.Cache.Linearizable
import YumeDisk.TauriClient.NetworkMedia

/-!
# The eject of a writable network disk (`network/runtime_flow/mod.rs`, `backend/network_media.rs`)

`eject_network_disk` takes the medium from the backend and drops it.  `NetworkMedia::drop` waits for
the cache while the session is usable, stops the worker and removes the temp directory, whatever
became of the wait; the command returns `Ok`.  `delete_disk` ejects in the same way
(`prepare_deleted_network_runtime`) before it saves the configuration.

* `EjectedDisk.step`: the cache with its calls and its worker, and the eject beside them.
* `ejected_stored`: **an eject that returns `Ok` means stored** in every run in which no temp
  directory is removed that the cache still needs.
* `settled_of_waited`: a usable session and a wait that does not time out see to that.
  `eject_loses_write`: a run in which the wait does time out.
-/

namespace YumeDisk.TauriClient.Network

open Lib Cache

/-! ## The eject as a transition system -/

/-- Where the medium is. -/
inductive EjectStage where
  | mounted
  /-- In `wait_for_quiesce`. -/
  | waiting
  /-- In `drop(cache)`: the worker is told to stop and joined. -/
  | stopping
  /-- The temp directory has been removed. -/
  | ejected
deriving DecidableEq, Repr

structure EjectedDisk where
  cache : Sys
  /-- The block calls that were made. -/
  calls : List Nat := []
  stage : EjectStage := .mounted
  /-- What the last eject returned. -/
  result : Option (Except ApiError Unit) := none

inductive EjectAction where
  /-- A step of a thread of the cache. -/
  | cache (a : Cache.Action)
  /-- The driver keeps the disk. -/
  | refuse (text : String)
  /-- The backend gives the medium back, and it is dropped; `usable`: `ensure_usable` succeeds. -/
  | remove (usable : Bool)
  | quiesced
  | timedOut
  /-- `Cache::drop`: the worker is told to stop. -/
  | stop
  /-- The worker has been joined, and `remove_dir_all` is called. -/
  | finish

/-- The call that an action makes. -/
def callMade : Cache.Action → List Nat
  | .readBlock i .. | .writeBlock i .. => [i]
  | _ => []

/-- The steps of the flush worker. -/
def ofWorker : Cache.Action → Bool
  | .workerLock .. | .workerWake .. | .flushRead .. | .flushWrite .. | .flushRemove .. |
    .flushFinish => true
  | _ => false

def returned : Phase → Bool
  | .returned => true
  | _ => false

namespace EjectedDisk

/-- Nobody else uses the medium when it is dropped. -/
def unused (d : EjectedDisk) : Bool :=
  d.calls.all fun i => (d.cache.calls i).all fun c => returned c.phase

def step (d : EjectedDisk) : EjectAction → Option EjectedDisk
  | .cache a =>
    match d.stage with
    | .mounted =>
      match a with
      | .stop => none
      | a => (d.cache.step a).map fun cache =>
        { d with cache := cache, calls := callMade a ++ d.calls }
    | .waiting | .stopping =>
      if ofWorker a then (d.cache.step a).map fun cache => { d with cache := cache } else none
    | .ejected => none
  | .refuse text =>
    if d.stage = .mounted then
      some { d with result := some (.error ⟨"eject-disk-failed", "拔出磁盘失败", some text⟩) }
    else
      none
  | .remove usable =>
    if d.stage = .mounted ∧ d.unused then
      some { d with stage := if usable then .waiting else .stopping }
    else
      none
  | .quiesced =>
    if d.stage = .waiting ∧ d.cache.world.state.isQuiescent then some { d with stage := .stopping }
    else none
  | .timedOut =>
    if d.stage = .waiting ∧ ¬ d.cache.world.state.isQuiescent then
      some { d with stage := .stopping }
    else
      none
  | .stop =>
    if d.stage = .stopping then (d.cache.step .stop).map fun cache => { d with cache := cache }
    else none
  | .finish =>
    match d.stage, d.cache.worker with
    | .stopping, .exited =>
      some { d with
        cache := { d.cache with world := { d.cache.world with temp := fun _ => none } }
        stage := .ejected
        result := some (.ok ()) }
    | _, _ => none

end EjectedDisk

/-! ## What an eject means -/

/-- The remote disk holds what the writes that returned `Ok` have made of it. -/
def Stored (config : CacheConfig) (right : Nat → UInt8) (d : EjectedDisk) : Prop :=
  ∃ lin, Linearization applyOp (initialBlocks config right) d.cache.hist lin ∧
    ∀ b, readAt d.cache.world.right (b * config.blockSizeBytes) config.blockSizeBytes =
      stateAfter applyOp (initialBlocks config right) lin b

/-- The cache is as its own threads have left it. -/
def Held (s₀ : Sys) (d : EjectedDisk) : Prop := ∃ as, runFrom Sys.step s₀ as = some d.cache

/-- After an `Ok` the data is on the remote disk, and till then it is held. -/
structure EjectMeansStored (config : CacheConfig) (right : Nat → UInt8) (s₀ : Sys)
    (d : EjectedDisk) : Prop where
  ok : d.result = some (.ok ()) → Stored config right d
  otherwise : d.result ≠ some (.ok ()) → Held s₀ d

/-- Nothing waits to be flushed: the state is quiescent, but for the request to stop. -/
def Settled (s : CacheState) : Prop := ({ s with stopRequested := false } : CacheState).isQuiescent

/-- The temp directory is removed when the cache has no more use for it. -/
def RemovesSettled (d : EjectedDisk) : EjectAction → Prop
  | .finish => d.stage = .stopping → Settled d.cache.world.state
  | _ => True

/-- The session is usable when the medium is dropped, and the wait for the cache does not time
out. -/
def Waited (_ : EjectedDisk) : EjectAction → Prop
  | .remove usable => usable = true
  | .timedOut => False
  | _ => True

instance (d : EjectedDisk) (a : EjectAction) : Decidable (Waited d a) :=
  match a with
  | .remove usable => inferInstanceAs (Decidable (usable = true))
  | .timedOut => isFalse id
  | .cache _ | .refuse _ | .quiesced | .stop | .finish => isTrue trivial

theorem settled_iff {s : CacheState} : Settled s ↔ s.spilledDirty.keys = [] ∧
    s.activeTempBlocks = ∅ ∧ s.foregroundDirtyEvictionWaiters = 0 ∧ s.resident.isQuiescent :=
  CacheState.isQuiescent_iff.trans (and_iff_right rfl)

section Run

variable {config : CacheConfig} {right : Nat → UInt8} {temp : TempStore} {s₀ : Sys}
  {d d' : EjectedDisk} {a : EjectAction}

/-! ## Steps -/

/-- What a step can do. -/
theorem eject_cases (hs : d.step a = some d') :
    (d.stage ≠ .ejected ∧ ∃ b calls cache, d.cache.step b = some cache ∧
      (d.stage ≠ .mounted → ofWorker b ∨ b = .stop) ∧
      d' = { d with cache := cache, calls := calls }) ∨
    (d.stage = .mounted ∧ ∃ e, d' = { d with result := some (.error e) }) ∨
    (d.stage = .mounted ∧ ∃ usable, a = .remove usable ∧
      d' = { d with stage := if usable then .waiting else .stopping }) ∨
    (d.stage = .waiting ∧ (a = .timedOut ∨ d.cache.world.state.isQuiescent) ∧
      d' = { d with stage := .stopping }) ∨
    (d.stage = .stopping ∧ a = .finish ∧ d' = { d with
      cache := { d.cache with world := { d.cache.world with temp := fun _ => none } }
      stage := .ejected
      result := some (.ok ()) }) := by
  cases a with
  | cache b =>
    refine .inl ?_
    simp only [EjectedDisk.step] at hs
    cases hstage : d.stage with
    | mounted =>
      rw [hstage] at hs
      cases b with
      | stop => cases hs
      | _ =>
        obtain ⟨cache, hc, rfl⟩ := Option.map_eq_some_iff.mp hs
        exact ⟨nofun, _, _, cache, hc, fun h => absurd rfl h, rfl⟩
    | waiting | stopping =>
      rw [hstage] at hs
      dsimp only at hs
      split at hs
      · rename_i hworker
        obtain ⟨cache, hc, rfl⟩ := Option.map_eq_some_iff.mp hs
        exact ⟨nofun, b, d.calls, cache, hc, fun _ => .inl hworker, rfl⟩
      · cases hs
    | ejected =>
      rw [hstage] at hs
      cases hs
  | refuse text =>
    simp only [EjectedDisk.step] at hs
    split at hs
    · rename_i hstage
      exact .inr (.inl ⟨hstage, _, (Option.some.inj hs).symm⟩)
    · cases hs
  | remove usable =>
    simp only [EjectedDisk.step] at hs
    split at hs
    · rename_i hstage
      exact .inr (.inr (.inl ⟨hstage.1, usable, rfl, (Option.some.inj hs).symm⟩))
    · cases hs
  | quiesced =>
    simp only [EjectedDisk.step] at hs
    split at hs
    · rename_i hstage
      exact .inr (.inr (.inr (.inl ⟨hstage.1, .inr hstage.2, (Option.some.inj hs).symm⟩)))
    · cases hs
  | timedOut =>
    simp only [EjectedDisk.step] at hs
    split at hs
    · rename_i hstage
      exact .inr (.inr (.inr (.inl ⟨hstage.1, .inl rfl, (Option.some.inj hs).symm⟩)))
    · cases hs
  | stop =>
    simp only [EjectedDisk.step] at hs
    split at hs
    · rename_i hstage
      obtain ⟨cache, hc, rfl⟩ := Option.map_eq_some_iff.mp hs
      exact .inl ⟨by rw [hstage]; nofun, .stop, d.calls, cache, hc, fun _ => .inr rfl, rfl⟩
    · cases hs
  | finish =>
    simp only [EjectedDisk.step] at hs
    split at hs
    · rename_i hstage _
      exact .inr (.inr (.inr (.inr ⟨hstage, rfl, (Option.some.inj hs).symm⟩)))
    · cases hs

structure EjectInv (config : CacheConfig) (right : Nat → UInt8) (s₀ : Sys) (d : EjectedDisk) :
    Prop where
  held : d.stage ≠ .ejected → Held s₀ d ∧ d.result ≠ some (.ok ())
  stored : d.stage = .ejected → d.result = some (.ok ()) ∧ Stored config right d

theorem Held.step {b : Cache.Action} {cache : Sys} {calls : List Nat} (h : Held s₀ d)
    (hc : d.cache.step b = some cache) : Held s₀ { d with cache := cache, calls := calls } := by
  obtain ⟨as, hrun⟩ := h
  refine ⟨as ++ [b], ?_⟩
  rw [runFrom_append, hrun]
  simp [runFrom, hc]

/-- **What is held is stored** when the cache has settled. -/
theorem Held.stored (hb : build config right temp = .ok s₀) (h : Held s₀ d)
    (hsettled : Settled d.cache.world.state) : Stored config right d := by
  obtain ⟨as, hrun⟩ := h
  obtain ⟨rfl, hinv⟩ := Sys.run_inv hb hrun
  obtain ⟨hkeys, -, -, hres⟩ := settled_iff.mp hsettled
  exact ⟨okResponses d.cache.hist, linearization_of_responses hinv.hist.wf hinv.legal,
    fun b => (hinv.durable hkeys hres b).1⟩

/-- **Step lemma.** -/
theorem EjectInv.step (hb : build config right temp = .ok s₀) (h : EjectInv config right s₀ d)
    (hG : RemovesSettled d a) (hs : d.step a = some d') : EjectInv config right s₀ d' := by
  rcases eject_cases hs with ⟨hstage, b, calls, cache, hc, -, rfl⟩ | ⟨hstage, e, rfl⟩ |
    ⟨hstage, usable, -, rfl⟩ | ⟨hstage, -, rfl⟩ | ⟨hstage, rfl, rfl⟩
  · obtain ⟨hheld, hresult⟩ := h.held hstage
    exact ⟨fun _ => ⟨hheld.step hc, hresult⟩, fun hejected => absurd hejected hstage⟩
  · obtain ⟨hheld, -⟩ := h.held (by rw [hstage]; nofun)
    exact ⟨fun _ => ⟨hheld, nofun⟩, fun hejected => nomatch hstage.symm.trans hejected⟩
  · obtain ⟨hheld, hresult⟩ := h.held (by rw [hstage]; nofun)
    refine ⟨fun _ => ⟨hheld, hresult⟩, fun hejected => ?_⟩
    cases usable <;> cases hejected
  · obtain ⟨hheld, hresult⟩ := h.held (by rw [hstage]; nofun)
    exact ⟨fun _ => ⟨hheld, hresult⟩, nofun⟩
  · obtain ⟨hheld, -⟩ := h.held (by rw [hstage]; nofun)
    obtain ⟨lin, hlin, hstored⟩ := hheld.stored hb (hG hstage)
    exact ⟨fun hne => absurd rfl hne, fun _ => ⟨rfl, lin, hlin, hstored⟩⟩

theorem ejectInv_init (config : CacheConfig) (right : Nat → UInt8) (s₀ : Sys) :
    EjectInv config right s₀ ⟨s₀, [], .mounted, none⟩ :=
  ⟨fun _ => ⟨⟨[], rfl⟩, nofun⟩, nofun⟩

/-- **An eject that returns `Ok` means stored**, in every run that removes no temp directory the
cache still needs. -/
theorem ejected_stored {as : List EjectAction} (hb : build config right temp = .ok s₀)
    (hr : runFrom EjectedDisk.step ⟨s₀, [], .mounted, none⟩ as = some d)
    (hG : StepsMeet EjectedDisk.step RemovesSettled ⟨s₀, [], .mounted, none⟩ as) :
    EjectMeansStored config right s₀ d := by
  have h := run_inv_of_guard (fun _ _ _ h hG hs => EjectInv.step hb h hG hs) as _ _
    (ejectInv_init config right s₀) hG hr
  by_cases hstage : d.stage = .ejected
  · obtain ⟨hok, hstored⟩ := h.stored hstage
    exact ⟨fun _ => hstored, fun hne => absurd hok hne⟩
  · obtain ⟨hheld, hresult⟩ := h.held hstage
    exact ⟨fun hok => absurd hok hresult, fun _ => hheld⟩

/-! ## A settled cache stays settled -/

theorem workerIteration_settled {w : World} (h : Settled w.state) (due : Bool)
    (outcome : TempWrite) : Ends (workerIteration config due outcome) w
      (fun n w' => w' = w ∧ (n = .stopped ∨ ∃ due', n = .wait due')) fun _ _ => False := by
  obtain ⟨hkeys, -, -, hres⟩ := settled_iff.mp h
  have hclean := Resident.isQuiescent_iff.mp hres
  have hselect : selectExistingTempFlush config w = .ok none w := by
    unfold selectExistingTempFlush
    rw [run_get_bind, hkeys]
    dsimp only [List.filter_nil, List.min?_nil]
    cases hsel : w.state.resident.selectActiveSnapshotBlock
        fun b => decide (b ∉ w.state.activeTempBlocks) with
    | none => rfl
    | some b =>
      obtain ⟨e, he, -, hsnapshot, -⟩ := Resident.selectActiveSnapshotBlock_some hsel
      obtain ⟨-, -, hnone, -⟩ := Resident.isClean_iff.mp (hclean b e he)
      rw [hnone] at hsnapshot
      cases hsnapshot
  have hcreate : createSnapshotTempLocked config outcome w = .ok false w := by
    unfold createSnapshotTempLocked
    rw [run_get_bind]
    split
    · rfl
    · split
      · rfl
      · cases hsel : w.state.resident.selectSnapshotCandidate fun _ => true with
        | none => rfl
        | some b =>
          obtain ⟨e, he, -, -, hdirty, -⟩ := Resident.selectSnapshotCandidate_some hsel
          exact absurd (Resident.isClean_iff.mp (hclean b e he)).2.1 hdirty
  unfold workerIteration
  refine ends_bind_of_ok (t := w) rfl ?_
  by_cases hstop : w.state.stopRequested = true
  · rw [if_pos hstop]
    exact ends_of_ok (run_pure _) ⟨rfl, .inl rfl⟩
  · rw [if_neg hstop]
    cases due with
    | false => exact ends_of_ok (run_pure _) ⟨rfl, .inr ⟨false, rfl⟩⟩
    | true =>
      rw [if_pos rfl]
      exact ends_bind_of_ok hselect (ends_bind_of_ok hcreate
        (ends_of_ok (run_pure _) ⟨rfl, .inr ⟨false, rfl⟩⟩))

/-- The flush worker finds nothing to do. -/
theorem Settled.step {s s' : Sys} {b : Cache.Action} (hsettled : Settled s.world.state)
    (h : s.Inv right temp) (hb : ofWorker b ∨ b = .stop) (hs : s.step b = some s') :
    Settled s'.world.state := by
  have hiteration : ∀ due outcome, Settled
      (s.locked (workerIteration s.config due outcome) Sys.afterWorkerIteration).world.state := by
    intro due outcome
    refine Sys.locked_cases (P := fun t => Settled t.world.state)
      (workerIteration_settled hsettled due outcome) (fun _ hf => hf) (fun n w hw => ?_)
        fun _ _ hf => hf.elim
    obtain ⟨rfl, rfl | ⟨due', rfl⟩⟩ := hw
    · exact hsettled
    · exact hsettled
  have hidle : ∀ c, s.worker.flush c = none := by
    intro c
    by_contra hflush
    have hactive := (h.world.active c).mp (.inl hflush)
    rw [(settled_iff.mp hsettled).2.1] at hactive
    exact absurd hactive (Finset.notMem_empty c)
  have hworker : s.stepWorker s.worker b = some s' → Settled s'.world.state := by
    intro hs
    cases hphase : s.worker with
    | running due =>
      rw [hphase] at hs
      cases b with
      | workerLock outcome => exact Option.some.inj hs ▸ hiteration due outcome
      | _ => cases hs
    | waiting due =>
      rw [hphase] at hs
      cases b with
      | workerWake timedOut outcome => exact Option.some.inj hs ▸ hiteration (due || timedOut) outcome
      | _ => cases hs
    | flushRead c base | flushWrite c base _ | flushRemove c | flushFinish c _ =>
      have hnone := hidle c
      rw [hphase] at hnone
      simp [WorkerPhase.flush] at hnone
    | exited =>
      rw [hphase] at hs
      cases hs
  unfold Sys.step at hs
  rw [if_neg (by rw [h.sound]; rintro ⟨⟩)] at hs
  cases b with
  | stop =>
    obtain rfl := Option.some.inj hs
    exact hsettled
  | workerLock outcome => exact hworker hs
  | workerWake timedOut outcome => exact hworker hs
  | flushRead ok => exact hworker hs
  | flushWrite ok torn => exact hworker hs
  | flushRemove ok => exact hworker hs
  | flushFinish => exact hworker hs
  | readBlock | writeBlock | lock | wake | rightRead | tempRead | finish => simp [ofWorker] at hb

/-- A cache that is being stopped has settled. -/
structure WaitedInv (s₀ : Sys) (d : EjectedDisk) : Prop where
  held : d.stage ≠ .ejected → Held s₀ d
  settled : d.stage = .stopping → Settled d.cache.world.state

theorem WaitedInv.step (hb : build config right temp = .ok s₀) (h : WaitedInv s₀ d)
    (hG : Waited d a) (hs : d.step a = some d') : WaitedInv s₀ d' := by
  rcases eject_cases hs with ⟨hstage, b, calls, cache, hc, hmay, rfl⟩ | ⟨hstage, e, rfl⟩ |
    ⟨hstage, usable, rfl, rfl⟩ | ⟨hstage, rfl | hquiescent, rfl⟩ | ⟨hstage, -, rfl⟩
  · refine ⟨fun _ => (h.held hstage).step hc, fun hstopping => ?_⟩
    obtain ⟨as, hrun⟩ := h.held hstage
    exact (h.settled hstopping).step (Sys.run_inv hb hrun).2
      (hmay (by rw [hstopping]; nofun)) hc
  · exact ⟨h.held, h.settled⟩
  · obtain rfl : usable = true := hG
    exact ⟨fun _ => h.held (by rw [hstage]; nofun), nofun⟩
  · exact hG.elim
  · refine ⟨fun _ => h.held (by rw [hstage]; nofun), fun _ => settled_iff.mpr ?_⟩
    exact (CacheState.isQuiescent_iff.mp hquiescent).2
  · exact ⟨fun hne => absurd rfl hne, nofun⟩

/-- **A usable session and a wait that ends with the cache quiescent** are enough. -/
theorem settled_of_waited {as : List EjectAction} (hb : build config right temp = .ok s₀)
    (hG : StepsMeet EjectedDisk.step Waited ⟨s₀, [], .mounted, none⟩ as) :
    StepsMeet EjectedDisk.step RemovesSettled ⟨s₀, [], .mounted, none⟩ as := by
  have hboth : StepsMeet EjectedDisk.step (fun d a => Waited d a ∧ RemovesSettled d a)
      ⟨s₀, [], .mounted, none⟩ as := by
    refine (stepsMeet_congr (I := WaitedInv s₀) (fun d a h => ?_)
      (fun _ _ _ h hG hs => h.step hb hG hs)
      (show WaitedInv s₀ ⟨s₀, [], .mounted, none⟩ from ⟨fun _ => ⟨[], rfl⟩, nofun⟩)).mpr hG
    refine and_iff_left_of_imp fun _ => ?_
    cases a with
    | finish => exact h.settled
    | _ => trivial
  exact hboth.mono (I := fun _ => True) (fun _ _ _ h => h.2) (fun _ _ _ _ _ => trivial) trivial

end Run

/-- One byte is written and the disk ejected; `flushes` is what the worker does while the drop of
the medium waits, and `wait` how the wait ends. -/
def writeAndEject (flushes : List Cache.Action) (wait : EjectAction) : List EjectAction :=
  [.cache (.writeBlock 0 1 [7] 0), .cache (.lock 0 .written), .cache (.rightRead 0 true),
    .cache (.finish 0), .remove true] ++ flushes.map .cache ++
    [wait, .stop, .cache (.workerLock .written), .finish]

/-- The worker has flushed the byte when the wait ends, and the eject has stored it. -/
theorem writeAndEject_stored : ∃ s₀ d, build ⟨1, 1, 2, 1⟩ UInt8.ofNat (fun _ => none) = .ok s₀ ∧
    runFrom EjectedDisk.step ⟨s₀, [], .mounted, none⟩ (writeAndEject [.workerLock .written,
      .workerWake true .written, .workerLock .written, .flushRead true, .flushWrite true [],
      .flushRemove true, .flushFinish] .quiesced) = some d ∧
    d.result = some (.ok ()) ∧ EjectMeansStored ⟨1, 1, 2, 1⟩ UInt8.ofNat s₀ d := by
  obtain ⟨s₀, hb⟩ : ∃ s₀, build ⟨1, 1, 2, 1⟩ UInt8.ofNat (fun _ => none) = .ok s₀ := ⟨_, rfl⟩
  let as := writeAndEject [.workerLock .written, .workerWake true .written, .workerLock .written,
    .flushRead true, .flushWrite true [], .flushRemove true, .flushFinish] .quiesced
  have hrun : ∃ d, runFrom EjectedDisk.step ⟨s₀, [], .mounted, none⟩ as = some d ∧
      (d.result.any fun result => result.toBool) = true := by
    obtain rfl := Except.ok.inj hb
    exact exists_run _ _ _ _ (by decide)
  have hwaited : StepsMeet EjectedDisk.step Waited ⟨s₀, [], .mounted, none⟩ as := by
    obtain rfl := Except.ok.inj hb
    decide
  obtain ⟨d, hr, hok⟩ := hrun
  obtain ⟨result, hresult, hok⟩ := (Option.any_eq_true _ _).mp hok
  cases result with
  | error e => cases hok
  | ok _ => exact ⟨s₀, d, hb, hr, hresult, ejected_stored hb hr (settled_of_waited hb hwaited)⟩

/-- The wait times out: the eject returns `Ok`, and the byte is nowhere. -/
theorem eject_loses_write : ∃ s₀ d, build ⟨1, 1, 2, 1⟩ UInt8.ofNat (fun _ => none) = .ok s₀ ∧
    runFrom EjectedDisk.step ⟨s₀, [], .mounted, none⟩ (writeAndEject [] .timedOut) = some d ∧
    ¬ EjectMeansStored ⟨1, 1, 2, 1⟩ UInt8.ofNat s₀ d := by
  obtain ⟨s₀, hb⟩ : ∃ s₀, build ⟨1, 1, 2, 1⟩ UInt8.ofNat (fun _ => none) = .ok s₀ := ⟨_, rfl⟩
  have hrun : ∃ d, runFrom EjectedDisk.step ⟨s₀, [], .mounted, none⟩ (writeAndEject [] .timedOut) =
      some d ∧
      (decide (okResponses d.cache.hist = [(0, .write ⟨0, 0, 1, 0, 1⟩ [7], .patched)]) &&
        decide (readAt d.cache.world.right 0 2 = [0, 1]) &&
        d.result.any fun result => result.toBool) = true := by
    obtain rfl := Except.ok.inj hb
    exact exists_run _ _ _ _ (by decide)
  obtain ⟨d, hr, hd⟩ := hrun
  refine ⟨s₀, d, hb, hr, fun h => ?_⟩
  obtain ⟨hd, hok⟩ := Bool.and_eq_true_iff.mp hd
  obtain ⟨hhist, hright⟩ := Bool.and_eq_true_iff.mp hd
  obtain ⟨result, hresult, hok⟩ := (Option.any_eq_true _ _).mp hok
  cases result with
  | error e => cases hok
  | ok _ =>
    obtain ⟨lin, hlin, hstored⟩ := h.ok hresult
    have hone := hlin.eq_singleton (of_decide_eq_true hhist)
    subst hone
    have hbyte := (hstored 0).symm.trans (of_decide_eq_true hright)
    revert hbyte
    decide

end YumeDisk.TauriClient.Network
