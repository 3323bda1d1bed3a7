import YumeDisk.Cache.Worker
import YumeDisk.Cache.WorldInv

/-!
# What the flush worker does

`workerIteration_spec`: an iteration of the inner loop starts the flush of a block that has a temp
file, or takes a snapshot, or waits.  `finishFlush_spec`: the end of a flush.  No section of the
worker can return an error, so no `expect` of its loop fails.
-/

namespace YumeDisk.Cache

open YumeDisk.Lib Resident

variable {g : Ghost} {w : World} {b : Nat}

/-- The ghost when the flush worker is at stage `f` of block `b`. -/
def Ghost.withFlush (g : Ghost) (b : Nat) (f : Option Flush) : Ghost :=
  { g with flush := Function.update g.flush b f }

/-- A step of the worker on block `b`: no placeholder is touched. -/
structure WorkerStep (g g' : Ghost) (b : Nat) (w w' : World) : Prop where
  inv : w'.Inv g'
  others : Others g g' (some b) w w'
  waiters : w'.state.foregroundDirtyEvictionWaiters = w.state.foregroundDirtyEvictionWaiters
  not_loading : w.NotLoading b
  loaded : w'.NotLoading b

/-! ## The choice of a block -/

theorem startFlush_spec (h : w.Inv g) (hact : b ∉ w.state.activeTempBlocks)
    (hb : (w.view b = none ∧ w.state.spilledDirty.lookup b ≠ none) ∨
      ∃ v, w.view b = some v ∧ v.loadState = .ready ∧ v.activeSnapshot = true) :
    WorkerStep g (g.withFlush b (some .reading)) b w
        (w.withActive (insert b w.state.activeTempBlocks)) ∧
      Frame g (g.withFlush b (some .reading)) (some b) w
        (w.withActive (insert b w.state.activeTempBlocks)) := by
  set w' := w.withActive (insert b w.state.activeTempBlocks) with hw'
  set g' := g.withFlush b (some .reading) with hg'
  have hother : ∀ c, c ≠ b → w'.places g' c = w.places g c := by
    intro c hc
    simp only [World.places, World.view, World.withActive, Ghost.withFlush,
      Function.update_of_ne hc, hw', hg']
  have hself : w'.places g' b = { w.places g b with flush := some .reading } := by
    simp only [World.places, World.view, World.withActive, Ghost.withFlush, Function.update_self,
      hw', hg']
  have hmem : ∀ c, c ≠ b → (c ∈ w'.state.activeTempBlocks ↔ c ∈ w.state.activeTempBlocks) :=
    fun c hc => ⟨fun hm => (Finset.mem_insert.mp hm).resolve_left hc, Finset.mem_insert_of_mem⟩
  have hacc : (w'.places g' b).Accounted ↔ (w.places g b).Accounted := by
    rw [hself]
    rfl
  have hnl : w.NotLoading b := by
    intro v hv
    rcases hb with ⟨hv', -⟩ | ⟨v', hv', hls, -⟩
    · cases hv'.symm.trans hv
    · obtain rfl := Option.some.inj (hv'.symm.trans hv)
      exact hls
  have hbound := h.bound b (hb.elim (fun h' => .inr h'.2) fun h' =>
    h'.elim fun v hv => .inl (by rw [hv.1]; simp))
  have hframe : Frame g g' (some b) w w' := frame_of_own rfl rfl hmem hother rfl hacc
  exact ⟨⟨h.change h.wf rfl rfl rfl hother
    (hself ▸ (h.places b).flush_start (h.not_flushing hact) hb) hbound hmem
    ⟨fun _ => Finset.mem_insert_self .., fun _ => .inl (by simp [hg', Ghost.withFlush])⟩
    (fun hx => .inl (hacc.mp hx)), hframe.toOthers, rfl, hnl, hnl⟩, hframe⟩

/-- How the choice of a block to flush ends. -/
def SelectEnds (g : Ghost) (w : World) (a : Option WorkerAction) (w' : World) : Prop :=
  match a with
  | none => w' = w ∧ ∀ b ∈ w.tempFiles, b ∈ w.state.activeTempBlocks
  | some (.flushTemp b base) => base = b * g.blockSize ∧
      WorkerStep g (g.withFlush b (some .reading)) b w w' ∧
      Frame g (g.withFlush b (some .reading)) (some b) w w'
  | some .snapshotCreated => False

theorem selectExistingTempFlush_spec (h : w.Inv g) {config : CacheConfig}
    (hbs : config.blockSizeBytes = g.blockSize) :
    Ends (selectExistingTempFlush config) w (SelectEnds g w) NoFault := by
  have hstart : ∀ b, b ∉ w.state.activeTempBlocks →
      ((w.view b = none ∧ w.state.spilledDirty.lookup b ≠ none) ∨
        ∃ v, w.view b = some v ∧ v.loadState = .ready ∧ v.activeSnapshot = true) →
      Ends (do
          insertActiveTemp b
          let blockBase ← liftExcept (config.layout.blockBase b)
          return some (.flushTemp b blockBase)) w (SelectEnds g w) NoFault := by
    intro b hact hb
    have hbound := h.bound b (hb.elim (fun h' => .inr h'.2) fun ⟨v, hv, _⟩ =>
      .inl (by rw [hv]; simp))
    have hbase : config.layout.blockBase b = .ok (b * g.blockSize) := by
      rw [BlockLayout.blockBase, CacheConfig.layout, hbs]
      exact checked_eq_ok.mpr ⟨by dsimp only; omega, rfl⟩
    refine ends_bind_of_ok (insertActiveTemp_ok hact) ?_
    rw [hbase]
    exact ends_of_ok (run_pure _) ⟨rfl, startFlush_spec h hact hb⟩
  unfold selectExistingTempFlush
  refine ends_bind_of_ok (a := w) (t := w) rfl ?_
  dsimp only
  cases hsel : (w.state.spilledDirty.keys.filter
      fun b => decide (b ∉ w.state.activeTempBlocks)).min? with
  | some b =>
    obtain ⟨hkey, hact⟩ := List.mem_filter.mp (List.min?_mem hsel)
    have hact : b ∉ w.state.activeTempBlocks := of_decide_eq_true hact
    have hs : w.state.spilledDirty.lookup b ≠ none := fun hn =>
      AList.lookup_eq_none.mp hn (AList.mem_keys.mpr hkey)
    refine hstart b hact (.inl ⟨?_, hs⟩)
    rcases (h.places b).of_spilled hs with hv | ⟨ps, hv⟩
    · exact hv
    · have hv' : w.view b = _ := hv
      exact absurd ((h.active b).mp (.inr (by rw [hv']; rfl))) hact
  | none =>
    dsimp only
    cases hsel' : w.state.resident.selectActiveSnapshotBlock
        fun b => decide (b ∉ w.state.activeTempBlocks) with
    | none =>
      refine ends_of_ok (run_pure _) ⟨rfl, fun b hb => ?_⟩
      by_contra hact
      rcases (World.mem_tempFiles g).mp hb with hs | hs
      · have hkey : b ∈ w.state.spilledDirty.keys :=
          AList.mem_keys.mp (AList.lookup_isSome.mp (Option.isSome_iff_ne_none.mpr hs))
        rw [List.min?_eq_none_iff, List.filter_eq_nil_iff] at hsel
        exact hsel b hkey (decide_eq_true hact)
      · obtain ⟨v, hv, hsn⟩ := (Option.any_eq_true _ _).mp hs
        have hready : v.loadState = .ready := by
          by_contra hne
          obtain ⟨ls, ps, -, rfl⟩ := (h.places b).placeholder_of hv hne
          cases hsn
        obtain ⟨e, he, rfl⟩ := view_eq_some.mp (show w.view b = some v from hv)
        exact selectActiveSnapshotBlock_none hsel' he hready hsn (decide_eq_true hact)
    | some b =>
      obtain ⟨e, he, hls, hsn, hact⟩ := selectActiveSnapshotBlock_some hsel'
      exact hstart b (of_decide_eq_true hact)
        (.inr ⟨e.view, view_eq_some.mpr ⟨e, he, rfl⟩, hls, hsn⟩)

/-! ## Snapshots -/

theorem createSnapshotTempLocked_spec (h : w.Inv g) (hidle : ∀ b, g.flush b = none)
    {config : CacheConfig} (hmax : config.tempMaxFiles = g.maxFiles) (outcome : TempWrite) :
    Ends (createSnapshotTempLocked config outcome) w
      (fun _ w' => w'.Inv g ∧ Frame g g none w w') NoFault := by
  have hstay : Ends (pure false : CacheM Bool) w
      (fun _ w' => w'.Inv g ∧ Frame g g none w w') NoFault :=
    ends_of_ok (run_pure _) ⟨h, .refl ..⟩
  unfold createSnapshotTempLocked
  refine ends_bind_of_ok (a := w) (t := w) rfl ?_
  by_cases hw : w.state.foregroundDirtyEvictionWaiters > 0
  · rw [if_pos hw]
    exact hstay
  rw [if_neg hw]
  by_cases hfull : w.state.tempFileCount ≥ config.tempMaxFiles
  · rw [if_pos hfull]
    exact hstay
  rw [if_neg hfull]
  rw [h.tempFileCount, hmax] at hfull
  cases hsel : w.state.resident.selectSnapshotCandidate fun _ => true with
  | none => exact hstay
  | some b =>
    obtain ⟨e, he, hls, hsn, hd, hp⟩ := selectSnapshotCandidate_some hsel
    have hact : b ∉ w.state.activeTempBlocks :=
      h.not_busy (view_eq_some.mpr ⟨e, he, rfl⟩) hls (hidle b)
    simp only [he, hls, hsn, hd, hp, ne_eq, not_true_eq_false, if_false, Bool.false_eq_true]
    by_cases hout : outcome = .written
    · subst hout
      obtain ⟨w₁, w', h₁, h₂, hinv, hframe, -⟩ :=
        snapshot_spec h he hls hact (.inr (Nat.lt_of_not_ge hfull))
      have herr : isErr (TempStore.writeBlock .written b e.data) w = .ok false w₁ := by
        simp only [isErr, h₁]
      exact ends_bind_of_ok herr (ends_bind_of_ok h₂ (ends_of_ok (run_pure _) ⟨hinv, hframe⟩))
    · obtain ⟨reason, w', h₁, hinv, hframe⟩ := failed_write_spec h he hls hd hact hout
      have herr : isErr (TempStore.writeBlock outcome b e.data) w = .ok true w' := by
        simp only [isErr, h₁]
      exact ends_bind_of_ok herr (ends_of_ok (run_pure _) ⟨hinv, hframe⟩)

/-! ## Iterations -/

/-- How an iteration of the inner loop ends. -/
def IterationEnds (g : Ghost) (w : World) (n : WorkerNext) (w' : World) : Prop :=
  match n with
  | .stopped => w' = w ∧ w.state.stopRequested = true
  | .wait _ => w'.Inv g ∧ Frame g g none w w'
  | .action .snapshotCreated => w'.Inv g ∧ Frame g g none w w'
  | .action (.flushTemp b base) => base = b * g.blockSize ∧
      WorkerStep g (g.withFlush b (some .reading)) b w w' ∧
      Frame g (g.withFlush b (some .reading)) (some b) w w'

theorem workerIteration_spec (h : w.Inv g) (hidle : ∀ b, g.flush b = none) {config : CacheConfig}
    (hbs : config.blockSizeBytes = g.blockSize) (hmax : config.tempMaxFiles = g.maxFiles)
    (scanDue : Bool) (outcome : TempWrite) :
    Ends (workerIteration config scanDue outcome) w (IterationEnds g w) NoFault := by
  unfold workerIteration
  refine ends_bind_of_ok (a := w) (t := w) rfl ?_
  by_cases hstop : w.state.stopRequested = true
  · rw [if_pos hstop]
    exact ends_of_ok (run_pure _) ⟨rfl, hstop⟩
  rw [if_neg hstop]
  cases scanDue with
  | false => exact ends_of_ok (run_pure _) ⟨h, .refl ..⟩
  | true =>
    rw [if_pos rfl]
    refine (selectExistingTempFlush_spec h hbs).bind fun a w₁ ha => ?_
    cases a with
    | some a =>
      cases a with
      | flushTemp b base => exact ends_of_ok (run_pure _) ha
      | snapshotCreated => exact ha.elim
    | none =>
      obtain ⟨rfl, -⟩ := ha
      refine (createSnapshotTempLocked_spec h hidle hmax outcome).bind fun made w' hw' => ?_
      cases made with
      | true => exact ends_of_ok (run_pure _) hw'
      | false => exact ends_of_ok (run_pure _) hw'

/-! ## Flushes -/

/-- The flush worker has a temp file to copy: the block is in order for it. -/
theorem World.Inv.flushing (h : w.Inv g) (hf : g.flush b ≠ none) :
    w.NotLoading b ∧ b * g.blockSize + g.blockSize < 2 ^ 64 := by
  have hne : (w.places g b).flush ≠ none := hf
  rcases (h.places b).flushing_of hne with ⟨hv, hs, -⟩ | ⟨v, hv, hls, -⟩
  · refine ⟨fun v hv' => ?_, h.bound b (.inr fun hn => ?_)⟩
    · cases hv.symm.trans hv'
    · cases hs.symm.trans hn
  · refine ⟨fun v' hv' => ?_, h.bound b (.inl fun hn => ?_)⟩
    · obtain rfl := Option.some.inj (hv.symm.trans hv')
      exact hls
    · cases hv.symm.trans hn

/-- An unlocked I/O of the flush. -/
theorem flushStep_spec (h : w.Inv g) (hf : g.flush b ≠ none) {f : Option Flush} {w' : World}
    (hf' : f ≠ none) (hstate : w'.state = w.state)
    (hother : ∀ c, c ≠ b → w'.temp c = w.temp c ∧
      readAt w'.right (c * g.blockSize) g.blockSize = readAt w.right (c * g.blockSize) g.blockSize)
    (htemp : w'.temp b = w.temp b ∨ w'.temp b = none)
    (hb : ∀ t, (w.places g b).Backed g.blockSize t →
      { w.places g b with
        flush := f
        right := readAt w'.right (b * g.blockSize) g.blockSize
        temp := w'.temp b : Places }.Backed g.blockSize t)
    (hl : (w.places g b).Lost →
      { w.places g b with
        flush := f
        right := readAt w'.right (b * g.blockSize) g.blockSize
        temp := w'.temp b : Places }.Lost) :
    WorkerStep g (g.withFlush b f) b w w' := by
  obtain ⟨hnl, hbound⟩ := h.flushing hf
  have hact : b ∈ w.state.activeTempBlocks := (h.active b).mp (.inl hf)
  have hplaces : ∀ c, c ≠ b → w'.places (g.withFlush b f) c = w.places g c := by
    intro c hc
    obtain ⟨ht, hr⟩ := hother c hc
    simp only [World.places, World.view, Ghost.withFlush, Function.update_of_ne hc, hstate, ht, hr]
  have hself : w'.places (g.withFlush b f) b = { w.places g b with
      flush := f
      right := readAt w'.right (b * g.blockSize) g.blockSize
      temp := w'.temp b } := by
    simp only [World.places, World.view, Ghost.withFlush, Function.update_self, hstate]
  have hacc : (w'.places (g.withFlush b f) b).Accounted → (w.places g b).Accounted := fun hx => by
    rw [hself] at hx
    exact hx
  have hview : w'.view b = w.view b := congrArg Places.view hself
  have hmem : ∀ c, c ≠ b → (c ∈ w'.state.activeTempBlocks ↔ c ∈ w.state.activeTempBlocks) :=
    fun c _ => by rw [hstate]
  refine ⟨h.change (hstate ▸ h.wf) (by rw [hstate]) rfl rfl hplaces
    (hself ▸ (h.places b).flush_step hf hb hl) hbound hmem
    ⟨fun _ => hstate ▸ hact, fun _ => .inl ?_⟩ fun hx => .inl (hacc hx),
    others_of_own (by rw [hstate]) hmem hplaces htemp hacc, by rw [hstate], hnl,
    fun v hv => hnl v (hview ▸ hv)⟩
  show Function.update g.flush b f b ≠ none
  rwa [Function.update_self]

theorem finishFlush_spec (h : w.Inv g) {ok : Bool} (hf : g.flush b = some (.finished ok)) :
    Ends (finishFlush b ok) w
      (fun _ w' => WorkerStep g (g.withFlush b none) b w w' ∧ w'.temp = w.temp ∧
        (ok = true → b ∉ w'.tempFiles)) NoFault := by
  have hact : b ∈ w.state.activeTempBlocks := (h.active b).mp (.inl (by simp [hf]))
  have hne : (w.places g b).flush ≠ none := by
    show g.flush b ≠ none
    simp [hf]
  obtain ⟨hloading, hbound⟩ := h.flushing hne
  -- the change of block `b`, once its places after the section are known
  have hdone : ∀ (w' : World) (p : Places), w'.state.resident.WF →
      w'.state.resident.blockSize = w.state.resident.blockSize →
      w'.state.stopRequested = w.state.stopRequested →
      w'.state.foregroundDirtyEvictionWaiters = w.state.foregroundDirtyEvictionWaiters →
      w'.state.activeTempBlocks = w.state.activeTempBlocks.erase b → w'.temp = w.temp →
      (∀ c, c ≠ b → w'.places (g.withFlush b none) c = w.places g c) →
      w'.places (g.withFlush b none) b = p → p.Inv g.blockSize →
      (p.Accounted → (w.places g b).Accounted ∧ ok = false) →
      (∀ v, p.view = some v → v.loadState = .ready) →
      WorkerStep g (g.withFlush b none) b w w' ∧ w'.temp = w.temp ∧
        (ok = true → b ∉ w'.tempFiles) := by
    intro w' p hwf hsz hst hwt ha htemp hother hself hp hacc hv
    have hmem : ∀ c, c ≠ b → (c ∈ w'.state.activeTempBlocks ↔ c ∈ w.state.activeTempBlocks) := by
      intro c hc
      simp [ha, hc]
    have hview : w'.view b = p.view := congrArg Places.view hself
    have hnl : w'.NotLoading b := fun v hv' => hv v (hview ▸ hv')
    have hidle : ¬ w'.Busy (g.withFlush b none) b := by
      rintro (hy | hy)
      · simp [Ghost.withFlush] at hy
      · obtain ⟨v, hv', hr⟩ := Option.map_eq_some_iff.mp hy
        rw [hnl v hv'] at hr
        cases hr
    refine ⟨⟨h.change hwf hsz rfl rfl hother (hself ▸ hp) hbound hmem
      (iff_of_false hidle (by simp [ha])) (fun hx => .inl (hacc (hself ▸ hx)).1),
      others_of_own hst hmem hother (.inl (congrFun htemp b)) (fun hx => (hacc (hself ▸ hx)).1),
      hwt, hloading, hnl⟩, htemp, fun hok hx => ?_⟩
    rw [World.mem_tempFiles (g.withFlush b none), hself] at hx
    rw [(hacc hx).2] at hok
    cases hok
  refine ends_bind_of_ok (removeActiveTemp_ok hact) ?_
  cases ok with
  | false =>
    refine ends_of_ok (run_pure _) (hdone _ _ h.wf rfl rfl rfl rfl rfl (fun c hc => ?_) ?_
      ((h.places b).flush_failed hf) (⟨·, rfl⟩) hloading)
    · simp only [World.places, World.view, Ghost.withFlush, Function.update_of_ne hc]
    · simp only [World.places, World.view, Ghost.withFlush, Function.update_self]
  | true =>
    rw [if_neg (by simp)]
    unfold finishFlushSuccess
    refine ends_bind_of_ok rfl ?_
    rcases (h.places b).flushing_of hne with ⟨hv, hs, -⟩ | ⟨v, hv, hls, hsn, hr⟩
    · have hs' : w.state.spilledDirty.lookup b = some ⟨g.blockSize⟩ := hs
      rw [if_pos (by simp [hs'])]
      refine ends_of_ok (run_modify _) (hdone _ _ h.wf rfl rfl rfl rfl rfl (fun c hc => ?_) ?_
        ((h.places b).flush_spilled hf hv hs) (fun hx => ?_) (fun v hv' => ?_))
      · simp only [World.places, World.view, Ghost.withFlush, Function.update_of_ne hc,
          AList.lookup_erase_ne hc]
      · simp only [World.places, World.view, Ghost.withFlush, Function.update_self,
          AList.lookup_erase]
      · rcases hx with hx | hx
        · exact absurd rfl hx
        · simp [hv] at hx
      · cases hv'.symm.trans hv
    · have hs' : w.state.spilledDirty.lookup b = none := hr.spilled
      obtain ⟨r, hclear, hh⟩ := clearActiveSnapshot_spec h.wf hv hls hsn
      obtain ⟨e, he, -⟩ := view_eq_some.mp hv
      rw [if_neg (by simp [hs']), if_pos (by simp [he])]
      refine ends_of_ok (onResident_ok hclear) (hdone _ _ hh.wf hh.sizes.1 rfl rfl rfl rfl
        (fun c hc => ?_) ?_ ((h.places b).flush_resident hf hv hls hsn)
        (fun hx => ?_) (fun v' hv' => ?_))
      · simp only [World.places, World.view, Ghost.withFlush, Function.update_of_ne hc, hh.view]
      · simp only [World.places, World.view, Ghost.withFlush, Function.update_self, hh.view]
      · rcases hx with hx | hx
        · exact absurd hr.spilled hx
        · simp at hx
      · obtain rfl := Option.some.inj hv'
        exact hls

end YumeDisk.Cache
