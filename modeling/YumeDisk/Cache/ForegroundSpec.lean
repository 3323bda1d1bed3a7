import YumeDisk.Cache.Object
import YumeDisk.Cache.WorldInv

/-!
# What the foreground sections do

Each section, started in a world that satisfies the invariant, ends in one that does.  The sections
of a call leave alone what `Frame` says; `prepare_spec` makes room, `plan_spec` is the whole plan.
-/

namespace YumeDisk.Cache

open YumeDisk.Lib Resident

variable {g : Ghost} {w : World} {b : Nat} {v : View}

/-- A ready block that leaves, with its content in its temp file. -/
theorem spillVictim_spec (h : w.Inv g) (hv : w.view b = some v) (hls : v.loadState = .ready)
    (hs : v.activeSnapshot = true) (hd : v.dirtyRanges = []) (hidle : b ∉ w.state.activeTempBlocks)
    (hq : ∀ e, w.state.resident.get b = some e → ∃ n, e.state.queueRef = .fifo n) :
    Ends (spillVictim b) w (fun r w' => r = .reserved ∧ w'.Inv g ∧ Frame g g none w w' ∧
      w'.temp = w.temp ∧ w'.state.resident.fifo.len < w'.state.resident.fifoCapacity) NoFault := by
  obtain ⟨e, he, rfl⟩ := view_eq_some.mp hv
  obtain ⟨n, hn⟩ := hq e he
  obtain ⟨r, hr, hh, hroom⟩ := evictBlock_spec h.wf he
  have hready := (h.places b).ready_of hv hls
  have hs' : e.state.activeSnapshot = true := hs
  have hspilled : w.state.spilledDirty.lookup b = none := hready.spilled
  set w' : World := { w with state := { w.state with
    resident := r
    spilledDirty := w.state.spilledDirty.insert b ⟨e.state.validLen⟩ } } with hw'
  have hother : ∀ c, c ≠ b → w'.places g c = w.places g c := by
    intro c hc
    simp only [World.places, World.view, hw', hh.view, Function.update_of_ne hc,
      AList.lookup_insert_ne hc]
  have hself : w'.places g b =
      { w.places g b with view := none, spilled := some ⟨e.state.validLen⟩ } := by
    simp only [World.places, World.view, hw', hh.view, Function.update_self, AList.lookup_insert]
  have hview : w'.view b = none := congrArg Places.view hself
  have hacc : (w.places g b).Accounted := by
    refine .inr ?_
    show (w.view b).any View.activeSnapshot = true
    rw [hv]
    exact hs
  refine ends_of_ok (a := .reserved) (t := w') ?_ ⟨rfl, h.change hh.wf hh.sizes.1 rfl rfl hother
    (hself ▸ (h.places b).spill hv hls hs hd) (h.bound b (.inl (by rw [hv]; simp)))
    (fun _ _ => .rfl) ?_ (fun _ => .inl hacc),
    frame_of_ready hv hls hidle rfl rfl rfl hother (fun v hv' => ?_) (fun _ => hself ▸ .inl (by simp))
      (fun _ => .inl ⟨hacc, .inl rfl⟩), rfl, hroom n hn⟩
  · rw [spillVictim, bind_ok (onResident_ok hr)]
    simp [hs', modifyState, hspilled, hw']
  · rw [World.Busy, hview]
    simp only [h.not_flushing hidle, ne_eq, not_true_eq_false, Option.map_none, reduceCtorEq,
      or_self, false_iff]
    exact hidle
  · cases hview.symm.trans hv'

/-- Why a call has to wait: a block is being loaded or its temp file is in use, or there are as many
temp files as there may be. -/
def WaitCause (g : Ghost) (w : World) : WaitReason → Prop
  | .generic => ∃ c, c ∈ w.state.activeTempBlocks ∨ ¬ w.NotLoading c
  | .dirtyEvictionTempSlot => g.maxFiles ≤ w.tempFiles.card

/-- How the preparation of an insertion ends: it waits without a change, or there is room. -/
def PrepareEnds (g : Ghost) (w : World) (r : PrepareInsertResult) (w' : World) : Prop :=
  match r with
  | .wait reason => w' = w ∧ WaitCause g w reason
  | .reserved => w'.Inv g ∧ Frame g g none w w' ∧
      w'.state.resident.fifo.len < w'.state.resident.fifoCapacity

/-- An error of a section that leaves the world in order. -/
def SafeError (g : Ghost) (b : Option Nat) (w : World) (e : Fault) (w' : World) : Prop :=
  e.External ∧ w'.Inv g ∧ Frame g g b w w' ∧ ∀ c, b = some c → w'.NotLoading c

/-- **Making room** for a block: at most one ready block leaves, and what it held stays. -/
theorem prepare_spec (h : w.Inv g) {config : CacheConfig} (hmax : config.tempMaxFiles = g.maxFiles)
    (outcome : TempWrite) :
    Ends (prepareResidentSlotForInsert config outcome) w (PrepareEnds g w)
      (SafeError g none w) := by
  unfold prepareResidentSlotForInsert
  refine ends_bind_of_ok (a := w) (t := w) rfl ?_
  cases hsel : w.state.resident.selectInsertVictim with
  | none =>
    exact ends_of_ok (run_pure _) ⟨h, .refl .., selectInsertVictim_none hsel h.wf⟩
  | some victim =>
    obtain ⟨e, n, he, hn⟩ := selectInsertVictim_some hsel h.wf
    have hv : w.view victim = some e.view := view_eq_some.mpr ⟨e, he, rfl⟩
    have hbound := h.bound victim (.inl (by rw [hv]; simp))
    dsimp only
    by_cases hact : victim ∈ w.state.activeTempBlocks
    · rw [if_pos hact]
      exact ends_of_ok (run_pure _) ⟨rfl, victim, .inl hact⟩
    rw [if_neg hact]
    simp only [he]
    by_cases hls : e.state.loadState ≠ .ready ∨ !e.state.pendingPatches.isEmpty
    · rw [if_pos hls]
      refine ends_of_ok (run_pure _) ⟨rfl, victim, .inr fun hnl => ?_⟩
      have hready : e.view.loadState = .ready := hnl _ hv
      rcases hls with hls | hls
      · exact hls hready
      · have hp : e.state.pendingPatches = [] := ((h.places victim).ready_of hv hready).pending
        simp [hp] at hls
    rw [if_neg hls]
    have hready : e.view.loadState = .ready := by
      by_contra hne
      exact hls (.inl hne)
    have hpend : e.view.pendingPatches = [] := ((h.places victim).ready_of hv hready).pending
    by_cases hclean : (!!e.state.dirtyRanges.isEmpty && !e.state.activeSnapshot) = true
    · -- a clean victim is dropped
      rw [if_pos hclean]
      obtain ⟨r, hr, hh, hroom⟩ := evictBlock_spec h.wf he
      have hc : e.view.Clean := by
        simp only [Bool.not_not, Bool.and_eq_true, List.isEmpty_iff, Bool.not_eq_true'] at hclean
        exact ⟨hready, hclean.1, hclean.2, hpend⟩
      obtain ⟨hinv, hframe, hself⟩ := h.resident' hh ((h.places victim).drop_clean hv hc) hbound
        (by simp [hv, hc.no_snapshot]) (by simp [hv, hready])
      have hview : (w.withResident r).view victim = none := congrArg Places.view hself
      refine ends_bind_of_ok (onResident_ok hr) (ends_of_ok (run_pure _) ⟨hinv,
        frame_of_ready hv hready hact rfl rfl rfl (fun c hcv => ?_) (fun v hv' => ?_)
          (fun hx => ?_) (fun hx => ?_), hroom n hn⟩)
      · simp only [World.places, World.view, hh.view, Function.update_of_ne hcv]
      · cases hview.symm.trans hv'
      · exact (World.mem_tempFiles g).mp (hframe.kept victim ((World.mem_tempFiles g).mpr hx))
      · have hx' : ((w.withResident r).places g victim).Accounted := hx
        rw [hself] at hx'
        exact .inl ⟨hx'.imp_right (by simp), .inl rfl⟩
    rw [if_neg hclean]
    by_cases htemp : (!e.state.activeSnapshot &&
        decide (w.state.tempFileCount ≥ config.tempMaxFiles)) = true
    · rw [if_pos htemp]
      refine ends_of_ok (run_pure _) ⟨rfl, ?_⟩
      rw [Bool.and_eq_true, decide_eq_true_eq, h.tempFileCount, hmax] at htemp
      exact htemp.2
    rw [if_neg htemp]
    have hroom : e.state.activeSnapshot = true ∨ w.tempFiles.card < g.maxFiles := by
      rw [Bool.and_eq_true, decide_eq_true_eq, h.tempFileCount, hmax, Bool.not_eq_true',
        not_and_or] at htemp
      exact htemp.imp (by simp) Nat.lt_of_not_ge
    have hqueue : ∀ e', w.state.resident.get victim = some e' →
        ∃ n, e'.state.queueRef = .fifo n := by
      intro e' he'
      rw [he] at he'
      obtain rfl := Option.some.inj he'
      exact ⟨n, hn⟩
    by_cases hdirty : (!e.state.dirtyRanges.isEmpty) = true
    · -- a dirty victim is written to its temp file first
      rw [if_pos hdirty]
      by_cases hout : outcome = .written
      · subst hout
        obtain ⟨w₁, w', h₁, h₂, hinv, hframe, hv', e', he', hq'⟩ :=
          snapshot_spec h he hready hact hroom
        have hact' : victim ∉ w'.state.activeTempBlocks := fun hm =>
          hact ((hframe.active victim (by simp)).mp hm)
        refine ends_bind_of_ok h₁ (ends_bind_of_ok h₂ ?_)
        refine (spillVictim_spec hinv hv' hready rfl rfl hact' fun e'' he'' => ?_).mono
          (fun r w'' hends => ?_) (fun _ _ hf => hf.elim)
        · rw [he'] at he''
          obtain rfl := Option.some.inj he''
          exact ⟨n, hq'.trans hn⟩
        · obtain ⟨hr, hinv'', hframe'', htemp'', hroom''⟩ := hends
          subst hr
          exact ⟨hinv'', hframe.trans hframe'' htemp'', hroom''⟩
      · obtain ⟨reason, w', h₁, hinv, hframe⟩ := failed_write_spec h he hready
          (by simpa using hdirty) hact hout
        exact ends_of_error (bind_error h₁) ⟨trivial, hinv, hframe, by simp⟩
    · rw [if_neg hdirty]
      have hsnap : e.view.activeSnapshot = true := by
        by_contra hne
        simp_all [BlockEntry.view]
      refine (spillVictim_spec h hv hready hsnap ?_ hact hqueue).mono
        (fun r w' hends => ?_) (fun _ _ hf => hf.elim)
      · simpa [BlockEntry.view] using hdirty
      · obtain ⟨hr, hinv', hframe', -, hroom'⟩ := hends
        subst hr
        exact ⟨hinv', hframe', hroom'⟩

/-! ## Misses -/

/-- How a plan that found no resident block ends. -/
def MissEnds (g : Ghost) (b base : Nat) (ps : List PendingPatch) (w : World) (a : BlockAction)
    (w' : World) : Prop :=
  match a with
  | .done _ => False
  | .wait reason => w' = w ∧ WaitCause g w reason
  | .loadRemote b' base' => b' = b ∧ base' = base ∧ w.NotLoading b ∧ w'.Inv g ∧
      Frame g g (some b) w w' ∧ w'.view b = some (.placeholder g.blockSize .loadingRemote ps)
  | .rehydrate b' => b' = b ∧ w.NotLoading b ∧ w'.Inv g ∧ Frame g g (some b) w w' ∧
      w'.view b = some (.placeholder g.blockSize .rehydrating ps)

/-- The placeholder of a block, with its patch. -/
theorem placeholder_spec {r : Resident} (h : r.WF) (hb : r.view b = none)
    (hroom : r.fifo.len < r.fifoCapacity) (ls : LoadState) (hls : ls.isLoading)
    {q : Option (Range × Bytes)}
    (hfit : ∀ range data, q = some (range, data) →
      PatchFits range data.length r.blockSize) :
    ∃ r₁ r₂, insertLoadingPlaceholder b r.blockSize ls false r = .ok () r₁ ∧
      (match q with
        | none => (pure () : Resident.M Unit)
        | some (range, data) => enqueuePendingPatch b range data) r₁ = .ok () r₂ ∧
      Holds r r₂ (Function.update r.view b
        (some (.placeholder r.blockSize ls ((q.map fun p => ⟨p.1, p.2⟩).toList)))) := by
  obtain ⟨r₁, h₁, hh₁⟩ := insertLoadingPlaceholder_spec h hb h.size_pos le_rfl hroom ls
  cases q with
  | none => exact ⟨r₁, r₁, h₁, rfl, hh₁⟩
  | some p =>
    obtain ⟨range, data⟩ := p
    obtain ⟨r₂, h₂, hh₂⟩ := enqueuePendingPatch_spec (b := b) hh₁.wf
      (by rw [hh₁.view, Function.update_self]) hls
      (hh₁.sizes.1.symm ▸ hfit range data rfl)
    exact ⟨r₁, r₂, h₁, h₂, hh₁.trans_update hh₂⟩

/-- A miss: it waits, or leaves a placeholder for the load to fill. -/
theorem prepareMiss_spec (h : w.Inv g) {config : CacheConfig}
    (hmax : config.tempMaxFiles = g.maxFiles) (outcome : TempWrite) (base : Nat)
    (hb : w.view b = none) (hbound : b * g.blockSize + g.blockSize < 2 ^ 64)
    {patch : Option (Range × Bytes)}
    (hfit : ∀ range data, patch = some (range, data) → PatchFits range data.length g.blockSize) :
    Ends (prepareMiss config outcome b base g.blockSize patch) w
      (MissEnds g b base ((patch.map fun p => ⟨p.1, p.2⟩).toList) w) (SafeError g none w) := by
  have henq : ∀ (w' : World) (r : Resident), (match patch with
      | none => (pure () : Resident.M Unit)
      | some (range, data) => enqueuePendingPatch b range data) w'.state.resident = .ok () r →
      (match patch with
        | none => (pure () : CacheM Unit)
        | some (range, data) => onResident (enqueuePendingPatch b range data)) w' =
        .ok () (w'.withResident r) := by
    intro w' r hr
    cases patch with
    | none =>
      obtain rfl : w'.state.resident = r := by injection hr
      rfl
    | some p => exact onResident_ok hr
  unfold prepareMiss
  refine ends_bind_of_ok (a := w) (t := w) rfl ?_
  have hnl : w.NotLoading b := by
    intro v hv
    rw [hb] at hv
    cases hv
  have hnot : (w.places g b).NotReady := by
    intro v hv
    rw [show (w.places g b).view = none from hb] at hv
    cases hv
  cases hs : w.state.spilledDirty.lookup b with
  | none =>
    dsimp only
    refine (prepare_spec h hmax outcome).bind fun a w₁ ha => ?_
    cases a with
    | wait reason => exact ends_of_ok (run_pure _) ha
    | reserved =>
      obtain ⟨hinv, hframe, hroom⟩ := ha
      have hp := hframe.places b (by simp) hnot
      have hb₁ : w₁.view b = none := (congrArg Places.view hp).trans hb
      have hs₁ : (w₁.places g b).spilled = none := (congrArg Places.spilled hp).trans hs
      obtain ⟨r₁, r₂, h₁, h₂, hh⟩ := placeholder_spec (q := patch) hinv.wf hb₁ hroom
        .loadingRemote rfl (hinv.size.symm ▸ hfit)
      rw [hinv.size] at h₁ hh
      obtain ⟨hinv', hframe', hself⟩ := hinv.resident' hh
        ((hinv.places b).start_load hb₁ hs₁) hbound
        (by simp [hb₁, View.placeholder, View.loading])
        (by simp [hb₁, View.placeholder, View.loading])
      refine ends_bind_of_ok (onResident_ok h₁) (ends_bind_of_ok (henq _ _ h₂)
        (ends_of_ok (run_pure _) ⟨rfl, rfl, hnl, hinv', (hframe.weaken hp).trans hframe' rfl,
          congrArg Places.view hself⟩))
  | some sp =>
    dsimp only
    obtain ⟨rfl, -⟩ := (h.places b).spilled_of hb hs
    by_cases hact : b ∈ w.state.activeTempBlocks
    · rw [if_pos hact]
      exact ends_of_ok (run_pure _) ⟨rfl, b, .inl hact⟩
    rw [if_neg hact]
    refine (prepare_spec h hmax outcome).bind fun a w₁ ha => ?_
    cases a with
    | wait reason => exact ends_of_ok (run_pure _) ha
    | reserved =>
      obtain ⟨hinv, hframe, hroom⟩ := ha
      have hp := hframe.places b (by simp) hnot
      have hb₁ : w₁.view b = none := (congrArg Places.view hp).trans hb
      have hs₁ : (w₁.places g b).spilled = some ⟨g.blockSize⟩ :=
        (congrArg Places.spilled hp).trans hs
      have hact₁ : b ∉ w₁.state.activeTempBlocks := fun hm =>
        hact ((hframe.active b (by simp)).mp hm)
      obtain ⟨r₁, r₂, h₁, h₂, hh⟩ := placeholder_spec (q := patch) hinv.wf hb₁ hroom
        .rehydrating rfl (hinv.size.symm ▸ hfit)
      rw [hinv.size] at h₁ hh
      obtain ⟨hinv', hframe', hself⟩ := hinv.resident (l := g.logical b)
        (a := insert b w₁.state.activeTempBlocks) hh
        ((hinv.places b).start_rehydrate hb₁ hs₁ (hinv.not_flushing hact₁)) hbound
        (by simp [hb₁, View.placeholder, View.loading]) (fun c hc => by simp [hc])
        (by simp [View.placeholder, View.loading])
      rw [Function.update_eq_self] at hinv' hframe' hself
      refine ends_bind_of_ok (insertActiveTemp_ok hact₁) (ends_bind_of_ok
        (onResident_ok (w := w₁.withActive _) h₁) (ends_bind_of_ok (henq _ _ h₂)
        (ends_of_ok (run_pure _) ⟨rfl, hnl, hinv', (hframe.weaken hp).trans hframe' rfl,
          congrArg Places.view hself⟩)))

/-! ## Plans -/

/-- The ghost after `op` has taken effect. -/
def Ghost.after (g : Ghost) (op : Op) : Ghost := { g with logical := (applyOp g.logical op).1 }

/-- A successful end of `op`: it returns what the object returns, and takes effect there. -/
structure Done (g : Ghost) (op : Op) (w : World) (ret : Ret) (w' : World) : Prop where
  ret : ret = (applyOp g.logical op).2
  inv : w'.Inv (g.after op)
  frame : Frame g (g.after op) (some op.blockIndex) w w'
  loaded : w'.NotLoading op.blockIndex

def PlanEnds (g : Ghost) (op : Op) (w : World) (a : BlockAction) (w' : World) : Prop :=
  match a with
  | .done ret => w.NotLoading op.blockIndex ∧ Done g op w ret w'
  | a => MissEnds g op.blockIndex op.touched.blockBase op.patches w a w'

theorem MissEnds.plan {op : Op} {a : BlockAction} {w' : World}
    (h : MissEnds g op.blockIndex op.touched.blockBase op.patches w a w') :
    PlanEnds g op w a w' := by
  cases a with
  | done ret => exact h.elim
  | _ => exact h

theorem World.notLoading_of (hv : w.view b = some v) (hls : v.loadState = .ready) :
    w.NotLoading b := by
  intro v' hv'
  rw [hv] at hv'
  exact Option.some.inj hv' ▸ hls

theorem hit_spec (h : w.Inv g) (hv : w.view b = some v) (hls : v.loadState = .ready) :
    ∃ t w', onResident (recordHit b) w = .ok t w' ∧ w'.Inv g ∧ Frame g g (some b) w w' ∧
      w'.temp = w.temp ∧ w'.NotLoading b := by
  obtain ⟨t, r, f, hr, hh, hd⟩ := recordHit_spec h.wf hv hls
  obtain ⟨hinv, hframe, hself⟩ := h.drops hh hd
  exact ⟨_, _, onResident_ok hr, hinv, hframe.weaken hself, rfl,
    World.notLoading_of ((congrArg Places.view hself).trans hv) hls⟩

theorem copyReadyBlock_spec (h : w.Inv g) {t : TouchedBlock} {buffer : Bytes}
    (hfit : t.Fits g.blockSize buffer.length) (hv : w.view t.blockIndex = some v)
    (hls : v.loadState = .ready) :
    copyReadyBlock t buffer w = .ok (splice buffer t.bufferOffset
      (slice (g.logical t.blockIndex) t.blockOffset t.validLen)) w := by
  obtain ⟨e, he, rfl⟩ := view_eq_some.mp hv
  have hdata : e.data = g.logical t.blockIndex := ((h.places _).ready_of hv hls).data
  have hlen : e.data.length = g.blockSize := (h.wf.data_len he).trans h.size
  have hready : ¬e.state.loadState ≠ .ready := not_not.mpr hls
  simp only [copyReadyBlock, run_get_bind, he]
  rw [if_neg hready, hfit.copyFromBlock hlen, ← hdata]
  rfl

theorem loadState_eq (w : World) (b : Nat) :
    w.state.resident.loadState b = (w.view b).map View.loadState := by
  simp only [Resident.loadState, World.view, Resident.view, Option.map_map]
  rfl

/-- **A plan** answers the call, makes it wait, or leaves a placeholder for the load. -/
theorem plan_spec (h : w.Inv g) {config : CacheConfig} (hmax : config.tempMaxFiles = g.maxFiles)
    (outcome : TempWrite) {op : Op} (hfit : op.Fits g.blockSize) :
    Ends (planTouchedBlock config outcome g.blockSize op) w (PlanEnds g op w)
      (SafeError g none w) := by
  have hmiss : w.view op.blockIndex = none → Ends (prepareMiss config outcome op.blockIndex
      op.touched.blockBase g.blockSize op.patch) w (PlanEnds g op w)
      (SafeError g none w) := fun hv =>
    (prepareMiss_spec h hmax outcome _ hv (TouchedBlock.Fits.end_lt hfit) hfit.patch).mono
      (fun _ _ hm => hm.plan) fun _ _ he => he
  have hwait : ∀ v, w.view op.blockIndex = some v → v.loadState ≠ .ready →
      Ends (pure (.wait .generic) : CacheM BlockAction) w (PlanEnds g op w) (SafeError g none w) :=
    fun v hv hls => ends_of_ok (run_pure _) ⟨rfl, op.blockIndex, .inr fun hnl => hls (hnl v hv)⟩
  cases op with
  | read t buffer =>
    unfold planTouchedBlock planReadTouchedBlock
    refine ends_bind_of_ok (a := w) (t := w) rfl ?_
    rw [loadState_eq]
    cases hv : w.view t.blockIndex with
    | none => exact hmiss hv
    | some v =>
      cases hls : v.loadState with
      | loadingRemote => simpa [hls] using hwait v hv (by simp [hls])
      | rehydrating => simpa [hls] using hwait v hv (by simp [hls])
      | ready =>
        simp only [Option.map_some, hls]
        obtain ⟨_, w', hw', hinv, hframe, -, hnl⟩ := hit_spec h hv hls
        exact ends_bind_of_ok (copyReadyBlock_spec h hfit hv hls) (ends_bind_of_ok hw'
          (ends_of_ok (run_pure _) ⟨World.notLoading_of hv hls, rfl, hinv, hframe, hnl⟩))
  | write t data =>
    unfold planTouchedBlock planWriteTouchedBlock
    have hslice : (liftExcept (t.patchSlice data) : CacheM Bytes) w =
        .ok (slice data t.bufferOffset t.validLen) w := by
      have := TouchedBlock.Fits.patchSlice (show t.Fits g.blockSize data.length from hfit)
      rw [this]
      rfl
    refine ends_bind_of_ok hslice (ends_bind_of_ok (a := w) (t := w) rfl ?_)
    rw [loadState_eq]
    cases hv : w.view t.blockIndex with
    | none => exact hmiss hv
    | some v =>
      cases hls : v.loadState with
      | loadingRemote => simpa [hls] using hwait v hv (by simp [hls])
      | rehydrating => simpa [hls] using hwait v hv (by simp [hls])
      | ready =>
        simp only [Option.map_some, hls]
        obtain ⟨r, hr, hh⟩ := patchReadyBlock_spec h.wf hv hls
          (h.size.symm ▸ Op.Fits.patch hfit _ _ rfl)
        obtain ⟨hinv, hframe, hself⟩ := h.resident_same hh
          ((h.places t.blockIndex).patch hv hls rfl) (TouchedBlock.Fits.end_lt hfit)
          (by simp [hv, View.patched]) (by simp [hv, View.patched])
        have hv' : (w.withResident r).view t.blockIndex = _ := congrArg Places.view hself
        obtain ⟨_, w', hw', hinv', hframe', htemp', hnl⟩ := hit_spec hinv hv' hls
        exact ends_bind_of_ok (onResident_ok hr) (ends_bind_of_ok hw'
          (ends_of_ok (run_pure _) ⟨World.notLoading_of hv hls, rfl, hinv',
            hframe.trans hframe' htemp', hnl⟩))

/-! ## The sections after an unlocked read -/

theorem answerLoaded_spec {op : Op} {data : Bytes} {snapshot : Bool} (h : w.Inv (g.after op))
    (hfit : op.Fits g.blockSize)
    (hv : w.view op.blockIndex = some (Places.loaded g.blockSize data op.patches snapshot)) :
    answerLoaded op w = .ok (applyOp g.logical op).2 w := by
  cases op with
  | read t buffer =>
    refine bind_ok (copyReadyBlock_spec h hfit hv rfl) |>.trans ?_
    rfl
  | write t data => rfl

/-- What the unlocked read of a load returns: the bytes, or an error of the environment. -/
def LoadResult (data : Bytes) (result : Except CacheError Bytes) : Prop :=
  match result with
  | .ok d => d = data
  | .error e => Fault.External (.error e)

theorem finishLoad_spec (h : w.Inv g) {op : Op} (hfit : op.Fits g.blockSize)
    (hv : w.view op.blockIndex = some (.placeholder g.blockSize .loadingRemote op.patches))
    {result : Except CacheError Bytes}
    (hres : LoadResult (w.places g op.blockIndex).right result) :
    Ends (finishLoad op op.blockIndex result) w (Done g op w)
      (fun f w' => (∃ e, result = .error e) ∧ SafeError g (some op.blockIndex) w f w') := by
  have hbound := TouchedBlock.Fits.end_lt hfit
  cases result with
  | ok data =>
    obtain rfl : data = _ := hres
    obtain ⟨r, hr, hh⟩ := finishRemoteLoad_spec h.wf hv rfl
      (show (w.places g op.blockIndex).right.length = _ by rw [h.size]; exact length_readAt ..)
      (h.size.symm ▸ hfit.patches)
    obtain ⟨hinv, hframe, hself⟩ := h.resident_same hh
      ((h.places op.blockIndex).finish_load hv rfl) hbound
      (by simp [hv, View.patched, View.placeholder, View.loading])
      (by simp [hv, View.patched, View.placeholder, View.loading])
    have hg : { g with logical := Function.update g.logical op.blockIndex _ } = g.after op :=
      congrArg (fun l => { g with logical := l }) (applyOp_logical g.logical op).symm
    have hright : (w.places g op.blockIndex).right = g.logical op.blockIndex :=
      ((h.places op.blockIndex).loading_of hv).2.2
    rw [hright] at hinv hframe hself
    rw [hg] at hinv hframe hself
    have hview : (w.withResident r).view op.blockIndex = _ := congrArg Places.view hself
    exact ends_bind_of_ok (onResident_ok hr) (ends_of_ok
      (answerLoaded_spec hinv hfit hview) ⟨rfl, hinv, hframe, World.notLoading_of hview rfl⟩)
  | error e =>
    obtain ⟨r, hr, hh⟩ := abortRemoteLoad_spec h.wf hv rfl
    obtain ⟨hinv, hframe, hself⟩ := h.resident' hh ((h.places op.blockIndex).abort_load hv) hbound
      (by simp [hv, View.placeholder, View.loading]) (by simp [hv, View.placeholder, View.loading])
    have hview : (w.withResident r).view op.blockIndex = none := congrArg Places.view hself
    refine ends_bind_of_ok (onResident_ok hr) (ends_of_error (run_throw _)
      ⟨⟨e, rfl⟩, hres, hinv, hframe, fun c hc v hv' => ?_⟩)
    obtain rfl := Option.some.inj hc
    cases hview.symm.trans hv'

/-- The temp file of a block has become the snapshot of the loaded entry. -/
theorem finishRehydrate_spec (h : w.Inv g) {op : Op} (hfit : op.Fits g.blockSize)
    (hv : w.view op.blockIndex = some (.placeholder g.blockSize .rehydrating op.patches)) :
    ∃ w', finishRehydrate op.blockIndex (g.logical op.blockIndex)
        (w.withActive (w.state.activeTempBlocks.erase op.blockIndex)) = .ok () w' ∧
      w'.Inv (g.after op) ∧ Frame g (g.after op) (some op.blockIndex) w w' ∧
      w'.view op.blockIndex =
        some (Places.loaded g.blockSize (g.logical op.blockIndex) op.patches true) := by
  obtain ⟨hs, hflush, hback⟩ := (h.places op.blockIndex).rehydrating_of hv
  obtain ⟨r₁, hr₁, hh₁⟩ := finishRemoteLoad_spec h.wf hv rfl
    (show (g.logical op.blockIndex).length = _ from hback.length.trans h.size.symm)
    (h.size.symm ▸ hfit.patches)
  obtain ⟨r₂, hr₂, hh₂⟩ := attachActiveSnapshot_spec (b := op.blockIndex) hh₁.wf
    (by rw [hh₁.view, Function.update_self]) rfl
  have hh := hh₁.trans_update hh₂
  set w₁ := w.withActive (w.state.activeTempBlocks.erase op.blockIndex) with hw₁
  set w' : World := { w₁ with state := { w₁.state with
    resident := r₂
    spilledDirty := w.state.spilledDirty.erase op.blockIndex } } with hw'
  have hother : ∀ c, c ≠ op.blockIndex → w'.places (g.after op) c = w.places g c := by
    intro c hc
    simp only [World.places, World.view, hw', hw₁, World.withActive, hh.view,
      Function.update_of_ne hc, AList.lookup_erase_ne hc, Ghost.after, applyOp_logical]
  have hself : w'.places (g.after op) op.blockIndex = { w.places g op.blockIndex with
      view := some (Places.loaded g.blockSize (g.logical op.blockIndex) op.patches true)
      spilled := none
      logical := op.patches.foldl (fun d q => splice d q.range.1 q.data)
        (g.logical op.blockIndex) } := by
    simp only [World.places, World.view, hw', hw₁, World.withActive, hh.view,
      Function.update_self, AList.lookup_erase, Ghost.after, applyOp_logical]
    rfl
  have hview : w'.view op.blockIndex = _ := congrArg Places.view hself
  have hmem : ∀ c, c ≠ op.blockIndex →
      (c ∈ w'.state.activeTempBlocks ↔ c ∈ w.state.activeTempBlocks) := fun c hc =>
    ⟨Finset.mem_of_mem_erase, Finset.mem_erase_of_ne_of_mem hc⟩
  have hold : (w.places g op.blockIndex).Accounted := by
    refine .inl ?_
    rw [hs]
    simp
  refine ⟨w', ?_, h.change hh.wf hh.sizes.1 rfl rfl hother
    (hself ▸ (h.places op.blockIndex).finish_rehydrate hv rfl) (TouchedBlock.Fits.end_lt hfit)
    hmem ?_ (fun _ => .inl hold),
    frame_of_own rfl rfl hmem hother rfl ⟨fun _ => hold, fun _ => hself ▸ .inr rfl⟩, hview⟩
  · obtain ⟨e, he, hev⟩ := view_eq_some.mp
      (show r₁.view op.blockIndex = some _ by rw [hh₁.view, Function.update_self])
    have hvalid : e.state.validLen = g.blockSize := congrArg View.validLen hev
    have hs' : w.state.spilledDirty.lookup op.blockIndex = some ⟨g.blockSize⟩ := hs
    rw [finishRehydrate, bind_ok (onResident_ok (w := w₁) hr₁)]
    simp only [run_get_bind, modifyState, run_modify_bind, hw₁, World.withActive, hs', he, hvalid,
      ne_eq, not_true_eq_false, if_false]
    exact onResident_ok (w := { w₁ with state := { w₁.state with
      resident := r₁
      spilledDirty := w.state.spilledDirty.erase op.blockIndex } }) hr₂
  · have hf : (g.after op).flush op.blockIndex = none := hflush
    have hnot : op.blockIndex ∉ w'.state.activeTempBlocks := Finset.notMem_erase op.blockIndex _
    simp [World.Busy, hview, hf, hnot, Places.loaded, View.patched]

theorem finishTempLoad_spec (h : w.Inv g) {op : Op} (hfit : op.Fits g.blockSize)
    (hv : w.view op.blockIndex = some (.placeholder g.blockSize .rehydrating op.patches))
    {result : Except CacheError Bytes} (hres : LoadResult (g.logical op.blockIndex) result) :
    Ends (finishTempLoad op op.blockIndex result) w (Done g op w)
      (fun f w' => (∃ e, result = .error e) ∧ SafeError g (some op.blockIndex) w f w') := by
  have hflush : g.flush op.blockIndex = none := ((h.places _).rehydrating_of hv).2.1
  have hact : op.blockIndex ∈ w.state.activeTempBlocks :=
    (h.active _).mp (.inr (by rw [hv]; rfl))
  refine ends_bind_of_ok (removeActiveTemp_ok hact) ?_
  cases result with
  | ok data =>
    obtain rfl : data = _ := hres
    obtain ⟨w', hw', hinv, hframe, hv'⟩ := finishRehydrate_spec h hfit hv
    exact ends_bind_of_ok hw' (ends_of_ok (answerLoaded_spec hinv hfit hv') ⟨rfl, hinv, hframe,
      World.notLoading_of hv' rfl⟩)
  | error e =>
    obtain ⟨r, hr, hh⟩ := abortRemoteLoad_spec h.wf hv rfl
    obtain ⟨hinv, hframe, hself⟩ := h.resident (l := g.logical op.blockIndex) hh
      ((h.places op.blockIndex).abort_rehydrate hv) (TouchedBlock.Fits.end_lt hfit)
      (a := w.state.activeTempBlocks.erase op.blockIndex)
      (by simp [hv, View.placeholder, View.loading]) (fun c hc => by simp [hc]) (by simp [hflush])
    rw [Function.update_eq_self] at hinv hframe hself
    refine ends_bind_of_ok (onResident_ok (w := w.withActive _) hr) (ends_of_error (run_throw _)
      ⟨⟨e, rfl⟩, hres, hinv, hframe, fun c hc v hv' => ?_⟩)
    obtain rfl := Option.some.inj hc
    cases (congrArg Places.view hself).symm.trans hv'

/-! ## Whole sections of a call -/

/-- A call that holds `waiting_for_temp_slot` is counted. -/
def Counted (waiting : Bool) (w : World) : Prop :=
  waiting = true → w.state.foregroundDirtyEvictionWaiters ≠ 0

/-- The number of waiters without this call. -/
def World.otherWaiters (w : World) (waiting : Bool) : Nat :=
  w.state.foregroundDirtyEvictionWaiters - waiting.toNat

/-- The world with another number of waiters. -/
def World.withWaiters (w : World) (n : Nat) : World :=
  { w with state := { w.state with foregroundDirtyEvictionWaiters := n } }

theorem World.Inv.withWaiters (h : w.Inv g) (n : Nat) : (w.withWaiters n).Inv g :=
  ⟨h.wf, h.size, h.places, h.bound, h.active, h.files⟩

theorem Changes.withWaiters {g' : Ghost} {b : Option Nat} {w' : World} (h : Changes g g' b w w')
    (n : Nat) : Changes g g' b w (w'.withWaiters n) :=
  ⟨⟨h.stop, h.active, h.places, h.loading, h.logical, h.written⟩, h.temp, h.kept⟩

theorem release_spec {waiting : Bool} (hc : Counted waiting w) :
    releaseForegroundDirtyWaiter waiting w = .ok () (w.withWaiters (w.otherWaiters waiting)) := by
  cases waiting with
  | false => rfl
  | true =>
    have hne := hc rfl
    unfold releaseForegroundDirtyWaiter
    simp [hne, modifyState, World.withWaiters, World.otherWaiters]

/-- A section ends: in order, with `n` waiters, and the blocks but `b` as `Changes` has it. -/
structure Lands (g g' : Ghost) (b : Option Nat) (n : Nat) (w w' : World) : Prop where
  inv : w'.Inv g'
  waiters : w'.state.foregroundDirtyEvictionWaiters = n
  changes : Changes g g' b w w'

theorem Frame.lands {g' : Ghost} {b : Option Nat} {w' : World} (h : Frame g g' b w w')
    (hinv : w'.Inv g') (n : Nat) : Lands g g' b n w (w'.withWaiters n) :=
  ⟨hinv.withWaiters n, rfl, h.toChanges.withWaiters n⟩

theorem Frame.lands_same {g' : Ghost} {b : Option Nat} {w' : World} (h : Frame g g' b w w')
    (hinv : w'.Inv g') : Lands g g' b w.state.foregroundDirtyEvictionWaiters w w' :=
  h.waiters ▸ h.lands hinv w'.state.foregroundDirtyEvictionWaiters

/-- A call that waits for this reason is counted. -/
def WaitReason.counted : WaitReason → Bool
  | .generic => false
  | .dirtyEvictionTempSlot => true

/-- How the section at the top of the loop ends; `n` counts the other waiting calls. -/
def LoopEnds (g : Ghost) (op : Op) (n : Nat) (w : World) (next : Next) (w' : World) : Prop :=
  match next with
  | .ret ret => ret = (applyOp g.logical op).2 ∧ w.NotLoading op.blockIndex ∧
      Lands g (g.after op) (some op.blockIndex) n w w' ∧ w'.NotLoading op.blockIndex
  | .wait waiting => Lands g g none (n + waiting.toNat) w w' ∧
      ∃ reason, waiting = reason.counted ∧ WaitCause g w' reason
  | .readRight b base => b = op.blockIndex ∧ base = op.blockIndex * g.blockSize ∧
      w.NotLoading op.blockIndex ∧ Lands g g (some op.blockIndex) n w w' ∧
      w'.view op.blockIndex = some (.placeholder g.blockSize .loadingRemote op.patches)
  | .readTemp b => b = op.blockIndex ∧
      w.NotLoading op.blockIndex ∧ Lands g g (some op.blockIndex) n w w' ∧
      w'.view op.blockIndex = some (.placeholder g.blockSize .rehydrating op.patches)

/-- An error that leaves the section. -/
def ErrorEnds (g : Ghost) (b : Option Nat) (n : Nat) (w : World) (e : Fault) (w' : World) : Prop :=
  e.External ∧ Lands g g b n w w'

theorem Fault.External.ne_panic {e : Fault} (h : e.External) : e ≠ .panic := by
  rintro rfl
  exact h

theorem otherWaiters_add {waiting : Bool} (hc : Counted waiting w) :
    w.otherWaiters waiting + waiting.toNat = w.state.foregroundDirtyEvictionWaiters := by
  cases waiting with
  | false => rfl
  | true =>
    have := hc rfl
    simp only [World.otherWaiters, Bool.toNat_true]
    omega

theorem beforeWait_spec {waiting : Bool} (hc : Counted waiting w) (reason : WaitReason) :
    beforeWait waiting reason w =
      .ok reason.counted (w.withWaiters (w.otherWaiters waiting + reason.counted.toNat)) := by
  cases reason with
  | generic => exact bind_ok (release_spec hc)
  | dirtyEvictionTempSlot =>
    cases waiting with
    | false => rfl
    | true =>
      have hn : w.otherWaiters true + 1 = w.state.foregroundDirtyEvictionWaiters :=
        otherWaiters_add hc
      show EStateM.Result.ok true w = .ok true (w.withWaiters (w.otherWaiters true + 1))
      rw [hn]
      rfl

theorem loopTop_spec (h : w.Inv g) {config : CacheConfig}
    (hbs : config.blockSizeBytes = g.blockSize) (hmax : config.tempMaxFiles = g.maxFiles)
    (outcome : TempWrite) {op : Op} (hfit : op.Fits g.blockSize) {waiting : Bool}
    (hc : Counted waiting w) :
    Ends (loopTop config op waiting outcome) w
      (LoopEnds g op (w.otherWaiters waiting) w)
      (ErrorEnds g none (w.otherWaiters waiting) w) := by
  unfold loopTop
  refine ends_bind_of_ok (a := w) (t := w) rfl ?_
  by_cases hstop : w.state.stopRequested = true
  · rw [if_pos hstop]
    exact ends_bind_of_ok (release_spec hc) (ends_of_error (run_throw _)
      ⟨trivial, (Frame.refl ..).lands h _⟩)
  rw [if_neg hstop]
  -- the plan leaves the waiters as they are, so the release still finds this call counted
  have hother : ∀ {b : Option Nat} {g' : Ghost} {w' : World}, Frame g g' b w w' →
      Counted waiting w' ∧ w'.otherWaiters waiting = w.otherWaiters waiting := by
    intro b g' w' hf
    unfold Counted World.otherWaiters
    rw [hf.waiters]
    exact ⟨hc, rfl⟩
  have hplan : Ends (orRelease waiting (planTouchedBlock config outcome config.blockSizeBytes op)) w
      (PlanEnds g op w) (ErrorEnds g none (w.otherWaiters waiting) w) := by
    have hp := plan_spec h hmax outcome hfit
    rw [← hbs] at hp
    cases hr : planTouchedBlock config outcome config.blockSizeBytes op w with
    | ok a w' => exact ends_of_ok (by simp only [orRelease, hr]) (hp.of_ok hr)
    | error e w' =>
      obtain ⟨hext, hinv, hframe, -⟩ := hp.of_error hr
      obtain ⟨hc', ho'⟩ := hother hframe
      cases e with
      | panic => exact hext.elim
      | error e =>
        refine ends_of_error (e := .error e) (t := w'.withWaiters (w'.otherWaiters waiting)) ?_
          ⟨hext, ho' ▸ hframe.lands hinv _⟩
        simp only [orRelease, hr]
        exact (bind_ok (release_spec hc')).trans rfl
  refine hplan.bind fun a w' ha => ?_
  cases a with
  | done ret =>
    obtain ⟨hnl, hret, hinv, hframe, hnl'⟩ := ha
    obtain ⟨hc', ho'⟩ := hother hframe
    exact ends_bind_of_ok (release_spec hc') (ends_of_ok (run_pure _)
      ⟨hret, hnl, ho' ▸ hframe.lands hinv _, hnl'⟩)
  | wait reason =>
    obtain ⟨rfl, hcause⟩ := ha
    refine ends_bind_of_ok (beforeWait_spec hc reason) (ends_of_ok (run_pure _)
      ⟨(Frame.refl ..).lands h _, reason, rfl, ?_⟩)
    cases reason with
    | generic => exact hcause
    | dirtyEvictionTempSlot => exact hcause
  | loadRemote b base =>
    obtain ⟨rfl, rfl, hnl, hinv, hframe, hv⟩ := ha
    obtain ⟨hc', ho'⟩ := hother hframe
    exact ends_bind_of_ok (release_spec hc') (ends_of_ok (run_pure _)
      ⟨rfl, TouchedBlock.Fits.base hfit, hnl, ho' ▸ hframe.lands hinv _, hv⟩)
  | rehydrate b =>
    obtain ⟨rfl, hnl, hinv, hframe, hv⟩ := ha
    obtain ⟨hc', ho'⟩ := hother hframe
    exact ends_bind_of_ok (release_spec hc') (ends_of_ok (run_pure _)
      ⟨rfl, hnl, ho' ▸ hframe.lands hinv _, hv⟩)

theorem afterWait_spec (h : w.Inv g) {waiting : Bool} (hc : Counted waiting w) :
    Ends (afterWait waiting) w (fun _ w' => w' = w)
      (ErrorEnds g none (w.otherWaiters waiting) w) := by
  unfold afterWait
  refine ends_bind_of_ok (a := w) (t := w) rfl ?_
  by_cases hstop : w.state.stopRequested = true
  · rw [if_pos hstop]
    exact ends_bind_of_ok (release_spec hc) (ends_of_error (run_throw _)
      ⟨trivial, (Frame.refl ..).lands h _⟩)
  · rw [if_neg hstop]
    exact ends_of_ok (run_pure _) rfl

end YumeDisk.Cache
