import YumeDisk.Cache.TempFiles

/-!
# Which block the flush worker takes (`select_existing_temp_flush`)

A due scan takes the first block that has a temp file nobody uses, the spilled blocks before the
resident ones and the least index first.  A block whose flush has failed keeps its place in that
order, and the scan after the failure is due at once.

* `workerIteration_takes`: an iteration starts the flush of the first block, or there is none.
* `Sys.starts_iff`: a step starts a flush of `b` if and only if it is a due scan and `b` is first.
* `FairAfterFailure`: between a failed flush of a block and its next one the worker attempts every
  other block that is and stays flushable.
* `fairAfterFailure_iff`: when a run is so.  `flush_starves`: a run that is not.
-/

namespace YumeDisk.Cache

open YumeDisk.Lib Resident

namespace World

/-- A scan may take the block: it has a temp file that nobody uses. -/
def Flushable (w : World) (b : Nat) : Prop :=
  b ∈ w.tempFiles ∧ b ∉ w.state.activeTempBlocks

/-- The order of a scan. -/
def Precedes (w : World) (b c : Nat) : Prop :=
  (w.state.spilledDirty.lookup b ≠ none ∧ w.state.spilledDirty.lookup c = none) ∨
    ((w.state.spilledDirty.lookup b = none ↔ w.state.spilledDirty.lookup c = none) ∧ b < c)

def First (w : World) (b : Nat) : Prop :=
  w.Flushable b ∧ ∀ c, w.Flushable c → ¬ w.Precedes c b

variable {w : World} {g : Ghost} {b c : Nat}

theorem precedes_or_precedes (h : b ≠ c) : w.Precedes b c ∨ w.Precedes c b := by
  unfold Precedes
  by_cases hb : w.state.spilledDirty.lookup b = none <;>
    by_cases hc : w.state.spilledDirty.lookup c = none <;> simp [hb, hc] <;> omega

theorem First.unique (hb : w.First b) (hc : w.First c) : b = c := by
  by_contra hne
  rcases precedes_or_precedes (w := w) hne with h | h
  · exact hc.2 b hb.1 h
  · exact hb.2 c hc.1 h

/-- What the scan looks at. -/
theorem Inv.flushable_iff (h : w.Inv g) : w.Flushable b ↔ b ∉ w.state.activeTempBlocks ∧
    (w.state.spilledDirty.lookup b ≠ none ∨ ∃ e, w.state.resident.get b = some e ∧
      e.state.loadState = .ready ∧ e.state.activeSnapshot = true) := by
  unfold Flushable
  rw [mem_tempFiles g, and_comm]
  refine and_congr_right fun _ => or_congr Iff.rfl ⟨fun hs => ?_, fun ⟨e, he, hls, hsn⟩ => ?_⟩
  · obtain ⟨v, hv, hsn⟩ := (Option.any_eq_true _ _).mp hs
    have hready : v.loadState = .ready := by
      by_contra hne
      obtain ⟨ls, ps, -, rfl⟩ := (h.places b).placeholder_of hv hne
      cases hsn
    obtain ⟨e, he, rfl⟩ := view_eq_some.mp (show w.view b = some v from hv)
    exact ⟨e, he, hready, hsn⟩
  · exact (Option.any_eq_true _ _).mpr ⟨e.view, view_eq_some.mpr ⟨e, he, rfl⟩, hsn⟩

end World

/-! ## The choice of a block -/

section Choice

variable {w : World} {g : Ghost} {config : CacheConfig}

/-- What a scan takes. -/
def Takes (w : World) : Option WorkerAction → Prop
  | some (.flushTemp b _) => w.First b
  | _ => ∀ b, ¬ w.Flushable b

theorem selectExistingTempFlush_takes (h : w.Inv g) :
    Ends (selectExistingTempFlush config) w (fun a _ => Takes w a) fun _ _ => True := by
  have hstart : ∀ b, b ∉ w.state.activeTempBlocks → w.First b →
      Ends (do
          insertActiveTemp b
          let blockBase ← liftExcept (config.layout.blockBase b)
          return some (.flushTemp b blockBase)) w (fun a _ => Takes w a) fun _ _ => True := by
    intro b hact hb
    refine ends_bind_of_ok (insertActiveTemp_ok hact) ?_
    cases config.layout.blockBase b with
    | ok base => exact ends_of_ok (run_pure _) hb
    | error e => exact ends_of_error (run_throw _) trivial
  unfold selectExistingTempFlush
  refine ends_bind_of_ok (a := w) (t := w) rfl ?_
  dsimp only
  cases hsel : (w.state.spilledDirty.keys.filter
      fun b => decide (b ∉ w.state.activeTempBlocks)).min? with
  | some b =>
    obtain ⟨hm, hmin⟩ := List.min?_eq_some_iff.mp hsel
    obtain ⟨hkey, hact⟩ := List.mem_filter.mp hm
    have hact : b ∉ w.state.activeTempBlocks := of_decide_eq_true hact
    have hs : w.state.spilledDirty.lookup b ≠ none := fun hn =>
      AList.lookup_eq_none.mp hn (AList.mem_keys.mpr hkey)
    refine hstart b hact ⟨h.flushable_iff.mpr ⟨hact, .inl hs⟩, fun c hc hlt => ?_⟩
    rcases hlt with ⟨-, hn⟩ | ⟨hiff, hlt⟩
    · exact hs hn
    · have hcs : w.state.spilledDirty.lookup c ≠ none := fun hn => hs (hiff.mp hn)
      have hckey : c ∈ w.state.spilledDirty.keys :=
        AList.mem_keys.mp (AList.lookup_isSome.mp (Option.isSome_iff_ne_none.mpr hcs))
      have hle := hmin c (List.mem_filter.mpr ⟨hckey, decide_eq_true hc.2⟩)
      omega
  | none =>
    -- no spilled block is free, so the flushable ones are resident
    have hspilled : ∀ c, w.Flushable c → w.state.spilledDirty.lookup c = none := by
      intro c hc
      by_contra hs
      have hkey : c ∈ w.state.spilledDirty.keys :=
        AList.mem_keys.mp (AList.lookup_isSome.mp (Option.isSome_iff_ne_none.mpr hs))
      rw [List.min?_eq_none_iff, List.filter_eq_nil_iff] at hsel
      exact hsel c hkey (decide_eq_true hc.2)
    have hready : ∀ c, w.Flushable c → ∃ e, w.state.resident.get c = some e ∧
        e.state.loadState = .ready ∧ e.state.activeSnapshot = true := fun c hc =>
      (h.flushable_iff.mp hc).2.resolve_left fun hs => hs (hspilled c hc)
    dsimp only
    cases hsel' : w.state.resident.selectActiveSnapshotBlock
        fun b => decide (b ∉ w.state.activeTempBlocks) with
    | none =>
      refine ends_of_ok (run_pure _) fun c hc => ?_
      obtain ⟨e, he, hls, hsn⟩ := hready c hc
      exact selectActiveSnapshotBlock_none hsel' he hls hsn (decide_eq_true hc.2)
    | some b =>
      obtain ⟨e, he, hls, hsn, hact⟩ := selectActiveSnapshotBlock_some hsel'
      have hact : b ∉ w.state.activeTempBlocks := of_decide_eq_true hact
      have hb : w.Flushable b := h.flushable_iff.mpr ⟨hact, .inr ⟨e, he, hls, hsn⟩⟩
      refine hstart b hact ⟨hb, fun c hc hlt => ?_⟩
      rcases hlt with ⟨hs, -⟩ | ⟨-, hlt⟩
      · exact hs (hspilled c hc)
      · obtain ⟨e', he', hls', hsn'⟩ := hready c hc
        have hle := selectActiveSnapshotBlock_le hsel' he' hls' hsn' (decide_eq_true hc.2)
        omega

/-- How an iteration of the worker's loop ends: `due` is `scan_due`. -/
def IterationTakes (w : World) (due : Bool) : WorkerNext → Prop
  | .action (.flushTemp b _) => due = true ∧ w.state.stopRequested = false ∧ w.First b
  | _ => due = true → w.state.stopRequested = false → ∀ b, ¬ w.Flushable b

theorem workerIteration_takes (h : w.Inv g) (due : Bool) (outcome : TempWrite) :
    Ends (workerIteration config due outcome) w (fun n _ => IterationTakes w due n)
      fun _ _ => True := by
  unfold workerIteration
  refine ends_bind_of_ok (a := w) (t := w) rfl ?_
  cases hstop : w.state.stopRequested with
  | true =>
    rw [if_pos rfl]
    exact ends_of_ok (run_pure _) fun _ hrun => (nomatch hstop.symm.trans hrun)
  | false =>
    rw [if_neg (by simp)]
    cases due with
    | false => exact ends_of_ok (run_pure _) fun hd => (nomatch hd)
    | true =>
      rw [if_pos rfl]
      refine (selectExistingTempFlush_takes h).bind fun a w₁ ha => ?_
      cases a with
      | some a =>
        cases a with
        | flushTemp b base => exact ends_of_ok (run_pure _) ⟨rfl, hstop, ha⟩
        | snapshotCreated => exact ends_of_ok (run_pure _) fun _ _ => ha
      | none =>
        refine (ends_true _ _).bind fun made w' _ => ?_
        cases made with
        | true => exact ends_of_ok (run_pure _) fun _ _ => ha
        | false => exact ends_of_ok (run_pure _) fun _ _ => ha

end Choice

/-! ## Attempts -/

theorem flush_eq_reading {p : WorkerPhase} {b : Nat} :
    p.flush b = some .reading ↔ ∃ base, p = .flushRead b base := by
  have hupdate : ∀ (c : Nat) (f : Flush),
      Function.update (fun _ => none) c (some f) b = some Flush.reading ↔
        b = c ∧ f = .reading := by
    intro c f
    by_cases hbc : b = c
    · subst hbc
      simp
    · simp [hbc]
  cases p with
  | running _ | waiting _ | exited => simp [WorkerPhase.flush]
  | flushRead c base | flushWrite c base _ | flushRemove c | flushFinish c _ =>
    simp [WorkerPhase.flush, hupdate, eq_comm]

namespace Sys

/-- The step `a` is an iteration of the worker's loop: `scan_due` as it finds it. -/
def dueAt (s : Sys) (a : Action) : Option Bool :=
  match s.worker, a with
  | .running due, .workerLock _ => some due
  | .waiting due, .workerWake timedOut _ => some (due || timedOut)
  | _, _ => none

/-- The step `a` scans for a block to flush. -/
def Scans (s : Sys) (a : Action) : Prop :=
  s.dueAt a = some true ∧ s.world.state.stopRequested = false

/-- The worker starts a flush of block `b`. -/
def Starts (b : Nat) (s : Sys) (_ : Action) (s' : Sys) : Prop :=
  s.worker.flush b = none ∧ s'.worker.flush b = some .reading

/-- A flush of block `b` ends and has failed. -/
def FlushFails (b : Nat) (s : Sys) (a : Action) (_ : Sys) : Prop :=
  s.worker = .flushFinish b false ∧ a = .flushFinish

variable {right : Nat → UInt8} {temp : TempStore} {s s' : Sys} {a : Action} {b : Nat}

theorem step_dueAt {due : Bool} (hs : s.step a = some s') (hd : s.dueAt a = some due) :
    ∃ outcome, s' = s.locked (workerIteration s.config due outcome) afterWorkerIteration := by
  obtain ⟨hp, -⟩ := step_cases hs
  unfold dueAt at hd
  split at hd
  · next hw =>
    obtain rfl := Option.some.inj hd
    simp only [Sys.step, hp, Bool.false_eq_true, if_false, actor, hw, stepWorker] at hs
    exact ⟨_, (Option.some.inj hs).symm⟩
  · next hw =>
    obtain rfl := Option.some.inj hd
    simp only [Sys.step, hp, Bool.false_eq_true, if_false, actor, hw, stepWorker] at hs
    exact ⟨_, (Option.some.inj hs).symm⟩
  · cases hd

/-- Only an iteration starts a flush. -/
theorem Starts.dueAt (h : Starts b s a s') (hs : s.step a = some s') :
    ∃ due, s.dueAt a = some due := by
  obtain ⟨hnone, hsome⟩ := h
  have hworker : s'.worker ≠ s.worker := by
    intro hw
    rw [hw] at hsome
    cases hnone.symm.trans hsome
  obtain ⟨base, hread⟩ := flush_eq_reading.mp hsome
  obtain ⟨-, ⟨i, offset, k, d, m, -, hs'⟩ | ⟨-, rfl⟩ | ⟨i, c, -, -, hs'⟩ | ⟨-, hs'⟩⟩ := step_cases hs
  · exact absurd (invoke_same hs').2.worker hworker
  · exact absurd rfl hworker
  · exact absurd (stepCall_same hs').2.1 hworker
  unfold Sys.dueAt
  cases hw : s.worker with
  | running due | waiting due =>
    rw [hw] at hs'
    cases a with
    | workerLock _ | workerWake _ _ => first | exact ⟨_, rfl⟩ | cases hs'
    | _ => cases hs'
  | exited =>
    rw [hw] at hs'
    cases a <;> cases hs'
  | flushRead c base' =>
    rw [hw] at hs'
    cases a with
    | flushRead ok =>
      dsimp only [stepWorker] at hs'
      split at hs' <;> obtain rfl := Option.some.inj hs' <;> cases hread
    | _ => cases hs'
  | flushWrite c base' d =>
    rw [hw] at hs'
    cases a with
    | flushWrite ok torn =>
      dsimp only [stepWorker] at hs'
      split at hs' <;> obtain rfl := Option.some.inj hs' <;> cases hread
    | _ => cases hs'
  | flushRemove c =>
    rw [hw] at hs'
    cases a with
    | flushRemove ok =>
      obtain rfl := Option.some.inj hs'
      cases hread
    | _ => cases hs'
  | flushFinish c ok =>
    rw [hw] at hs'
    cases a with
    | flushFinish =>
      obtain rfl := Option.some.inj hs'
      dsimp only [locked] at hread
      split at hread
      · cases hread
      · exact absurd (hread.symm.trans hw) (by simp)
      · exact absurd (hread.symm.trans hw) (by simp)
    | _ => cases hs'

/-- What an iteration starts: the flush of the first block if the scan is due, else nothing. -/
theorem Inv.iteration_starts (h : s.Inv right temp) (hs : s.step a = some s') {due : Bool}
    (hd : s.dueAt a = some due) : s'.worker.flush b = some .reading ↔
      due = true ∧ s.world.state.stopRequested = false ∧ s.world.First b := by
  have hsound := (step_inv h hs).inv.sound
  obtain ⟨outcome, rfl⟩ := step_dueAt hs hd
  have htakes : ∀ n w, workerIteration s.config due outcome s.world = .ok n w →
      IterationTakes s.world due n := fun n w => (workerIteration_takes h.world due outcome).of_ok
  unfold locked at hsound ⊢
  cases hm : workerIteration s.config due outcome s.world with
  | error e w =>
    rw [hm] at hsound
    cases e <;> cases hsound
  | ok n w =>
    dsimp only
    have hn := htakes n w hm
    have hno : (due = true → s.world.state.stopRequested = false → ∀ c, ¬ s.world.Flushable c) →
        ¬ (due = true ∧ s.world.state.stopRequested = false ∧ s.world.First b) :=
      fun hn ⟨hdue, hstop, hb⟩ => hn hdue hstop b hb.1
    cases n with
    | stopped => exact iff_of_false (by simp [afterWorkerIteration, WorkerPhase.flush]) (hno hn)
    | wait d => exact iff_of_false (by simp [afterWorkerIteration, WorkerPhase.flush]) (hno hn)
    | action act =>
      cases act with
      | snapshotCreated =>
        exact iff_of_false (by simp [afterWorkerIteration, WorkerPhase.flush]) (hno hn)
      | flushTemp c base =>
        obtain ⟨hdue, hstop, hc⟩ := hn
        rw [flush_eq_reading]
        constructor
        · rintro ⟨base', hw⟩
          obtain ⟨rfl, -⟩ := WorkerPhase.flushRead.inj hw
          exact ⟨hdue, hstop, hc⟩
        · rintro ⟨-, -, hb⟩
          exact ⟨base, by rw [hb.unique hc]; rfl⟩

/-- **What starts a flush**: a scan, and of the block that is first. -/
theorem Inv.starts_iff (h : s.Inv right temp) (hs : s.step a = some s') :
    Starts b s a s' ↔ s.Scans a ∧ s.world.First b := by
  constructor
  · intro hst
    obtain ⟨due, hd⟩ := hst.dueAt hs
    obtain ⟨rfl, hstop, hb⟩ := (h.iteration_starts hs hd).mp hst.2
    exact ⟨⟨hd, hstop⟩, hb⟩
  · rintro ⟨⟨hd, hstop⟩, hb⟩
    refine ⟨?_, (h.iteration_starts hs hd).mpr ⟨rfl, hstop, hb⟩⟩
    unfold dueAt at hd
    split at hd
    · next hw => rw [hw]; rfl
    · next hw => rw [hw]; rfl
    · cases hd

/-- A block whose flush has just started is not flushable. -/
theorem Inv.not_flushable_of_starts (h : s.Inv right temp) (hs : s.step a = some s')
    (hst : Starts b s a s') : ¬ s'.world.Flushable b := by
  intro hb
  refine hb.2 (((step_inv h hs).inv.world.active b).mp (.inl ?_))
  show s'.worker.flush b ≠ none
  simp [hst.2]

end Sys

/-! ## Fairness -/

section Fairness

variable {config : CacheConfig} {right : Nat → UInt8} {temp : TempStore} {s₀ s : Sys}
  {as : List Action} {b c : Nat}

/-- Whenever a flush of a block `b` fails in the run and the worker attempts `b` again, it has
attempted in between each other block that was flushable and stayed so until its attempt. -/
def FairAfterFailure (s₀ : Sys) (as : List Action) : Prop :=
  ∀ as₁ a₁ as₂ a₂ as₃ u u' v v' b, as = as₁ ++ a₁ :: as₂ ++ a₂ :: as₃ →
    runFrom Sys.step s₀ as₁ = some u → u.step a₁ = some u' → Sys.FlushFails b u a₁ u' →
    runFrom Sys.step u' as₂ = some v → v.step a₂ = some v' → Sys.Starts b v a₂ v' →
    ∀ c, c ≠ b → (∀ bs w, bs <+: as₂ → runFrom Sys.step u' bs = some w →
        w.world.Flushable c ∨ Happens Sys.step u' bs (Sys.Starts c)) →
      Happens Sys.step u' as₂ (Sys.Starts c)

/-- At a scan a block whose flush has failed, with another block flushable ever since, is not
first. -/
def YieldsAfterFailure (s₀ : Sys) (as : List Action) : Prop :=
  ∀ as₁ a as₂ s, as = as₁ ++ a :: as₂ → runFrom Sys.step s₀ as₁ = some s → s.Scans a →
    ∀ b c, c ≠ b → Since Sys.step s₀ as₁ (Sys.FlushFails b) (·.world.Flushable c) →
      s.world.Flushable b → ∃ d, s.world.Flushable d ∧ s.world.Precedes d b

/-- What has been flushable all the time has not been attempted. -/
theorem not_happens_of_flushable {u : Sys} (h : u.Inv right temp)
    (hall : ∀ bs w, bs <+: as → runFrom Sys.step u bs = some w → w.world.Flushable c) :
    ¬ Happens Sys.step u as (Sys.Starts c) := by
  rintro ⟨bs, a, cs, w, w', rfl, hw, hw', hst⟩
  have hinv : w.Inv right temp :=
    Lib.run_inv (I := Sys.Inv right temp) (fun _ _ _ h hs => (Sys.step_inv h hs).inv) h hw
  refine hinv.not_flushable_of_starts hw' hst (hall (bs ++ [a]) w' ⟨cs, by simp⟩ ?_)
  rw [runFrom_append, hw, Option.bind_some, runFrom, hw']
  rfl

/-- **Fairness after failure, exactly**: a run is fair if and only if every scan of it passes over
the blocks whose retry would be unfair. -/
theorem fairAfterFailure_iff (hb : build config right temp = .ok s₀)
    (hr : runFrom Sys.step s₀ as = some s) :
    FairAfterFailure s₀ as ↔ YieldsAfterFailure s₀ as := by
  constructor
  · intro hfair as₁ a₂ as₃ v has hv hscan b c hcb hsince hbf
    by_contra hnone
    push Not at hnone
    obtain ⟨bs, a₁, as₂, u, u', rfl, hu, hu', hfail, hall⟩ := hsince
    have hinv := (Sys.run_inv hb hv).2
    obtain ⟨v', hv'⟩ : ∃ v', v.step a₂ = some v' := by
      rw [has, runFrom_append, hv, Option.bind_some] at hr
      obtain ⟨v', hv', -⟩ := runFrom_cons hr
      exact ⟨v', hv'⟩
    have hst : Sys.Starts b v a₂ v' := (hinv.starts_iff hv').mpr ⟨hscan, hbf, hnone⟩
    have hrun : runFrom Sys.step u' as₂ = some v := by
      rw [runFrom_append, hu, Option.bind_some, runFrom, hu'] at hv
      exact hv
    have hinv' := (Sys.step_inv (Sys.run_inv hb hu).2 hu').inv
    exact not_happens_of_flushable hinv' hall (hfair bs a₁ as₂ a₂ as₃ u u' v v' b has hu hu' hfail
      hrun hv' hst c hcb fun cs w hcs hw => .inl (hall cs w hcs hw))
  · intro hyield as₁ a₁ as₂ a₂ as₃ u u' v v' b has hu hu' hfail hv hv' hst c hcb hstay
    by_contra hnot
    have hall : ∀ bs w, bs <+: as₂ → runFrom Sys.step u' bs = some w → w.world.Flushable c :=
      fun bs w hbs hw => (hstay bs w hbs hw).resolve_right fun hh => hnot (hh.of_prefix hbs)
    have hrun : runFrom Sys.step s₀ (as₁ ++ a₁ :: as₂) = some v := by
      rw [runFrom_append, hu, Option.bind_some, runFrom, hu']
      exact hv
    obtain ⟨hscan, hfirst⟩ := ((Sys.run_inv hb hrun).2.starts_iff hv').mp hst
    obtain ⟨d, hd, hlt⟩ := hyield _ a₂ as₃ v has hrun hscan b c hcb
      ⟨as₁, a₁, as₂, u, u', rfl, hu, hu', hfail, hall⟩ hfirst.1
    exact hfirst.2 d hd hlt

/-- Blocks 0 and 1 are written and spilled.  The worker takes block 0, and the write to the right
store fails. -/
def failFirstFlush : List Action :=
  [.writeBlock 0 1 [7] 0, .lock 0 .written, .rightRead 0 true, .finish 0,
    .writeBlock 1 3 [8] 0, .lock 1 .written, .rightRead 1 true, .finish 1,
    .readBlock 2 4 [0, 0] 0, .lock 2 .written, .rightRead 2 true, .finish 2,
    .workerLock .written, .workerWake true .written, .flushRead true, .flushWrite false []]

/-- The failure and the scan after it. -/
def retryFirst : List Action := failFirstFlush ++ [.flushFinish, .workerLock .written]

/-- The flush of block `b` failed, with `other` flushable, and the scan after it takes block `c`. -/
def failsAndTakes (b c other : Nat) (u : Sys) : Bool :=
  (match u.worker with | .flushFinish b' false => b' == b | _ => false) &&
    (u.step .flushFinish).any fun u' =>
      (match u'.worker with | .running true => true | _ => false) &&
      decide (other ∈ u'.world.tempFiles) && decide (other ∉ u'.world.state.activeTempBlocks) &&
      (u'.step (.workerLock .written)).any fun v =>
        match v.worker with | .flushRead c' _ => c' == c | _ => false

/-- The states before the failure, after it and after the scan. -/
theorem exists_failure (as : List Action) (b c other : Nat)
    (hb : build ⟨1, 1, 2, 2⟩ UInt8.ofNat (fun _ => none) = .ok s₀)
    (h : (runFrom Sys.step (.fresh ⟨1, 1, 2, 2⟩ UInt8.ofNat fun _ => none) as).any
      (failsAndTakes b c other) = true) :
    ∃ u u' v, runFrom Sys.step s₀ as = some u ∧ u.step .flushFinish = some u' ∧
      u'.step (.workerLock .written) = some v ∧ u.worker = .flushFinish b false ∧
      u'.worker = .running true ∧ u'.world.Flushable other ∧ ∃ base, v.worker = .flushRead c base := by
  obtain rfl := Except.ok.inj hb
  obtain ⟨u, hu, hchecks⟩ := exists_run Sys.step _ as _ h
  obtain ⟨hworker, hstep⟩ := Bool.and_eq_true_iff.mp hchecks
  obtain ⟨u', hu', hchecks'⟩ := (Option.any_eq_true _ _).mp hstep
  simp only [Bool.and_eq_true, decide_eq_true_eq, Option.any_eq_true] at hchecks'
  obtain ⟨⟨⟨hrunning, hmem⟩, hact⟩, v, hv, hread⟩ := hchecks'
  refine ⟨u, u', v, hu, hu', hv, ?_, ?_, ⟨hmem, hact⟩, ?_⟩
  · split at hworker
    · next hw => rw [hw, eq_of_beq hworker]
    · cases hworker
  · split at hrunning
    · next hw => exact hw
    · cases hrunning
  · split at hread
    · next base hw => exact ⟨base, eq_of_beq hread ▸ hw⟩
    · cases hread

/-- **The retry starves the others**: the run is not fair. -/
theorem flush_starves : ∃ s₀ s, build ⟨1, 1, 2, 2⟩ UInt8.ofNat (fun _ => none) = .ok s₀ ∧
    runFrom Sys.step s₀ retryFirst = some s ∧ ¬ FairAfterFailure s₀ retryFirst := by
  obtain ⟨s₀, hb⟩ : ∃ s₀, build ⟨1, 1, 2, 2⟩ UInt8.ofNat (fun _ => none) = .ok s₀ := ⟨_, rfl⟩
  obtain ⟨u, u', v, hu, hu', hv, hfinish, hrunning, hone, base, hread⟩ :=
    exists_failure failFirstFlush 0 0 1 hb (by decide +kernel)
  refine ⟨s₀, v, hb, ?_, fun hfair => ?_⟩
  · simp only [retryFirst, runFrom_append, hu, Option.bind_some, runFrom, hu', hv]
  obtain ⟨bs, a, cs, w, w', hnil, -⟩ := hfair failFirstFlush .flushFinish [] (.workerLock .written)
    [] u u' u' v 0 (by simp [retryFirst]) hu hu' ⟨hfinish, rfl⟩ rfl hv
    ⟨by rw [hrunning]; rfl, flush_eq_reading.mpr ⟨base, hread⟩⟩ 1 (by decide) fun bs w hbs hw => by
      obtain rfl := List.prefix_nil.mp hbs
      exact .inl (Option.some.inj hw ▸ hone)
  simp at hnil

/-- Block 1 is written and spilled, and the worker takes it; before the write to the right store
fails, block 0 is spilled too. -/
def failSecondFlush : List Action :=
  [.writeBlock 0 3 [7] 0, .lock 0 .written, .rightRead 0 true, .finish 0,
    .readBlock 1 4 [0, 0] 0, .lock 1 .written, .rightRead 1 true, .finish 1,
    .workerLock .written, .workerWake true .written, .flushRead true, .flushWrite false [],
    .writeBlock 2 1 [8] 0, .lock 2 .written, .rightRead 2 true, .finish 2,
    .readBlock 3 4 [0, 0] 0, .lock 3 .written, .rightRead 3 true, .finish 3]

/-- The scan after the failure passes block 1 over for block 0. -/
theorem failSecondFlush_fair_iff : ∃ s₀ u u' v,
    build ⟨1, 1, 2, 2⟩ UInt8.ofNat (fun _ => none) = .ok s₀ ∧
    runFrom Sys.step s₀ failSecondFlush = some u ∧ u.step .flushFinish = some u' ∧
    u'.step (.workerLock .written) = some v ∧ Sys.FlushFails 1 u .flushFinish u' ∧
    Sys.Starts 0 u' (.workerLock .written) v ∧
    (FairAfterFailure s₀ (failSecondFlush ++ [.flushFinish, .workerLock .written]) ↔
      YieldsAfterFailure s₀ (failSecondFlush ++ [.flushFinish, .workerLock .written])) := by
  obtain ⟨s₀, hb⟩ : ∃ s₀, build ⟨1, 1, 2, 2⟩ UInt8.ofNat (fun _ => none) = .ok s₀ := ⟨_, rfl⟩
  obtain ⟨u, u', v, hu, hu', hv, hfinish, hrunning, -, base, hread⟩ :=
    exists_failure failSecondFlush 1 0 0 hb (by decide +kernel)
  refine ⟨s₀, u, u', v, hb, hu, hu', hv, ⟨hfinish, rfl⟩, ⟨by rw [hrunning]; rfl, ?_⟩,
    fairAfterFailure_iff (s := v) hb ?_⟩
  · exact flush_eq_reading.mpr ⟨base, hread⟩
  · simp only [runFrom_append, hu, Option.bind_some, runFrom, hu', hv]

end Fairness

end YumeDisk.Cache
