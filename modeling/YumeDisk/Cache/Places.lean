import YumeDisk.Cache.ResidentView
import YumeDisk.Cache.State

/-!
# Where the newest bytes of a block are

`Places` is all that the cache and its two stores know of one block, with the content the block
should have.  `Places.Inv` relates them: the content is in the resident buffer of a ready block,
else in the temp file of a spilled block, else in the right store; a temp file that backs the block
is the file the flush worker is about to copy.

Every operation of the cache changes the places of one block in one of the ways below, and each of
them keeps the invariant.
-/

namespace YumeDisk.Cache

open YumeDisk.Lib

/-- How far the flush worker is with a block. -/
inductive Flush where
  | reading
  | writing (tempBuffer : Bytes)
  | removing
  | finished (ok : Bool)
deriving DecidableEq, Repr

structure Places where
  view : Option View
  spilled : Option SpilledDirty
  temp : Option Bytes
  /-- The file that the directory held before the cache was built. -/
  stale : Option Bytes
  right : Bytes
  /-- What a read of the block must return. -/
  logical : Bytes
  flush : Option Flush

/-- A block that a call is loading: the bytes are not there yet, the patches wait. -/
def View.placeholder (blockSize : Nat) (loadState : LoadState) (patches : List PendingPatch) :
    View :=
  { View.loading blockSize loadState blockSize with pendingPatches := patches }

namespace Places

/-- The temp file of the block holds `t`, until the flush worker has moved it to the right store. -/
structure Backed (p : Places) (blockSize : Nat) (t : Bytes) : Prop where
  length : t.length = blockSize
  kept : p.flush ≠ some (.finished true) → p.temp = some t
  copied : ∀ d, p.flush = some (.writing d) → d = t
  written : p.flush = some .removing → p.right = t
  removed : p.flush = some (.finished true) → p.temp = none ∧ p.right = t

/-- What a read of the temp file of a block returns while the file is in use. -/
theorem Backed.read {p : Places} {blockSize : Nat} {t : Bytes} (h : p.Backed blockSize t)
    (hf : p.flush ≠ some (.finished true)) {temp : TempStore} {b : Nat} (htemp : temp b = p.temp)
    {ok : Bool} {d : Bytes} (hd : temp.readBlock ok b blockSize = .ok d) : d = t := by
  obtain ⟨data, hdata, -, rfl⟩ := TempStore.readBlock_ok hd
  rw [htemp, h.kept hf] at hdata
  obtain rfl := Option.some.inj hdata
  rw [← h.length, List.take_length]

/-- The temp file of a snapshot is gone, after a write that failed half way.  A flush of it can only
fail. -/
structure Lost (p : Places) : Prop where
  temp : p.temp = none
  flush : p.flush = none ∨ p.flush = some .reading ∨ p.flush = some (.finished false)

/-- A temp file is accounted for: the block is spilled, or has a snapshot. -/
def Accounted (p : Places) : Prop :=
  p.spilled ≠ none ∨ p.view.any View.activeSnapshot = true

/-- No temp file of the block is in use. -/
structure Unbacked (p : Places) : Prop where
  no_flush : p.flush = none
  temp : p.temp = none ∨ p.temp = p.stale

/-- The temp file of a ready block with a snapshot: it holds the last content if the block is not
dirty, and may be lost if the block is. -/
def Snapshotted (p : Places) (blockSize : Nat) (v : View) : Prop :=
  (∃ t, p.Backed blockSize t ∧ (v.dirtyRanges = [] → t = p.logical)) ∨
    (p.Lost ∧ v.dirtyRanges ≠ [])

/-- The places of a ready resident block. -/
structure Ready (p : Places) (blockSize : Nat) (v : View) : Prop where
  pending : v.pendingPatches = []
  valid : v.validLen = blockSize
  data : v.data = p.logical
  spilled : p.spilled = none
  unbacked : v.activeSnapshot = false → p.Unbacked ∧ (v.dirtyRanges = [] → p.right = p.logical)
  backed : v.activeSnapshot = true → p.Snapshotted blockSize v

inductive Inv (blockSize : Nat) (p : Places) : Prop
  | absent : p.view = none → p.spilled = none → p.Unbacked → p.right = p.logical → Inv blockSize p
  | spilled : p.view = none → p.spilled = some ⟨blockSize⟩ → p.Backed blockSize p.logical →
      Inv blockSize p
  | loading (ps) : p.view = some (.placeholder blockSize .loadingRemote ps) → p.spilled = none →
      p.Unbacked → p.right = p.logical → Inv blockSize p
  | rehydrating (ps) : p.view = some (.placeholder blockSize .rehydrating ps) →
      p.spilled = some ⟨blockSize⟩ → p.flush = none → p.Backed blockSize p.logical → Inv blockSize p
  | ready (v) : p.view = some v → v.loadState = .ready → p.Ready blockSize v → Inv blockSize p

section Inv

variable {p : Places} {bs : Nat} {v : View} {ps : List PendingPatch}

/-! ## What the invariant says of a known view -/

theorem Inv.ready_of (h : p.Inv bs) (hv : p.view = some v) (hls : v.loadState = .ready) :
    p.Ready bs v := by
  cases h with
  | absent hv' _ _ _ => simp [hv] at hv'
  | spilled hv' _ _ => simp [hv] at hv'
  | loading ps hv' _ _ _ =>
    obtain rfl := Option.some.inj (hv.symm.trans hv')
    cases hls
  | rehydrating ps hv' _ _ _ =>
    obtain rfl := Option.some.inj (hv.symm.trans hv')
    cases hls
  | ready v' hv' _ hr =>
    obtain rfl := Option.some.inj (hv.symm.trans hv')
    exact hr

theorem Inv.absent_of (h : p.Inv bs) (hv : p.view = none) (hs : p.spilled = none) :
    p.Unbacked ∧ p.right = p.logical := by
  cases h with
  | absent _ _ hu hr => exact ⟨hu, hr⟩
  | spilled _ hs' _ => simp [hs] at hs'
  | loading ps hv' _ _ _ => simp [hv] at hv'
  | rehydrating ps hv' _ _ _ => simp [hv] at hv'
  | ready v' hv' _ _ => simp [hv] at hv'

theorem Inv.spilled_of (h : p.Inv bs) (hv : p.view = none) {sp : SpilledDirty}
    (hs : p.spilled = some sp) : sp = ⟨bs⟩ ∧ p.Backed bs p.logical := by
  cases h with
  | absent _ hs' _ _ => simp [hs] at hs'
  | spilled _ hs' hb => exact ⟨Option.some.inj (hs.symm.trans hs'), hb⟩
  | loading ps hv' _ _ _ => simp [hv] at hv'
  | rehydrating ps hv' _ _ _ => simp [hv] at hv'
  | ready v' hv' _ _ => simp [hv] at hv'

theorem Inv.loading_of (h : p.Inv bs) (hv : p.view = some (.placeholder bs .loadingRemote ps)) :
    p.spilled = none ∧ p.Unbacked ∧ p.right = p.logical := by
  cases h with
  | absent hv' _ _ _ => simp [hv] at hv'
  | spilled hv' _ _ => simp [hv] at hv'
  | loading _ _ hs hu hr => exact ⟨hs, hu, hr⟩
  | rehydrating _ hv' _ _ _ =>
    have := congrArg View.loadState (Option.some.inj (hv.symm.trans hv'))
    cases this
  | ready v' hv' hls _ =>
    obtain rfl := Option.some.inj (hv.symm.trans hv')
    cases hls

theorem Inv.rehydrating_of (h : p.Inv bs) (hv : p.view = some (.placeholder bs .rehydrating ps)) :
    p.spilled = some ⟨bs⟩ ∧ p.flush = none ∧ p.Backed bs p.logical := by
  cases h with
  | absent hv' _ _ _ => simp [hv] at hv'
  | spilled hv' _ _ => simp [hv] at hv'
  | loading _ hv' _ _ _ =>
    have := congrArg View.loadState (Option.some.inj (hv.symm.trans hv'))
    cases this
  | rehydrating _ _ hs hf hb => exact ⟨hs, hf, hb⟩
  | ready v' hv' hls _ =>
    obtain rfl := Option.some.inj (hv.symm.trans hv')
    cases hls

/-- A spilled block is not in memory, or a call is bringing it back. -/
theorem Inv.of_spilled (h : p.Inv bs) (hs : p.spilled ≠ none) :
    p.view = none ∨ ∃ ps, p.view = some (.placeholder bs .rehydrating ps) := by
  cases h with
  | absent _ hs' _ _ => exact absurd hs' hs
  | spilled hv _ _ => exact .inl hv
  | loading _ _ hs' _ _ => exact absurd hs' hs
  | rehydrating ps hv _ _ _ => exact .inr ⟨ps, hv⟩
  | ready _ _ _ hr => exact absurd hr.spilled hs

/-- What is not ready is a placeholder. -/
theorem Inv.placeholder_of (h : p.Inv bs) (hv : p.view = some v) (hls : v.loadState ≠ .ready) :
    ∃ ls ps, ls.isLoading ∧ v = .placeholder bs ls ps := by
  cases h with
  | absent hv' _ _ _ => simp [hv] at hv'
  | spilled hv' _ _ => simp [hv] at hv'
  | loading ps hv' _ _ _ => exact ⟨_, ps, rfl, Option.some.inj (hv.symm.trans hv')⟩
  | rehydrating ps hv' _ _ _ => exact ⟨_, ps, rfl, Option.some.inj (hv.symm.trans hv')⟩
  | ready v' hv' hls' _ =>
    obtain rfl := Option.some.inj (hv.symm.trans hv')
    exact absurd hls' hls

/-- A clean block is as the right store has it. -/
theorem Inv.clean_of (h : p.Inv bs) (hv : p.view = some v) (hc : v.Clean) :
    p.spilled = none ∧ p.Unbacked ∧ p.right = p.logical := by
  have hr := h.ready_of hv hc.ready
  exact ⟨hr.spilled, (hr.unbacked hc.no_snapshot).1, (hr.unbacked hc.no_snapshot).2 hc.not_dirty⟩

/-- The flush worker is busy only with a block that has a temp file. -/
theorem Inv.flushing_of (h : p.Inv bs) (hf : p.flush ≠ none) :
    (p.view = none ∧ p.spilled = some ⟨bs⟩ ∧ p.Backed bs p.logical) ∨
    ∃ v, p.view = some v ∧ v.loadState = .ready ∧ v.activeSnapshot = true ∧ p.Ready bs v := by
  cases h with
  | absent _ _ hu _ => exact absurd hu.no_flush hf
  | spilled hv hs hb => exact .inl ⟨hv, hs, hb⟩
  | loading _ _ _ hu _ => exact absurd hu.no_flush hf
  | rehydrating _ _ _ hf' _ => exact absurd hf' hf
  | ready v hv hls hr =>
    cases hs : v.activeSnapshot with
    | false => exact absurd (hr.unbacked hs).1.no_flush hf
    | true => exact .inr ⟨v, hv, hls, hs, hr⟩

/-- The bytes that the flush worker has read are a whole block. -/
theorem Inv.length_of_writing (h : p.Inv bs) {d : Bytes} (hf : p.flush = some (.writing d)) :
    d.length = bs := by
  rcases h.flushing_of (by simp [hf]) with ⟨-, -, hb⟩ | ⟨v, -, -, hs, hr⟩
  · rw [hb.copied d hf]
    exact hb.length
  · rcases hr.backed hs with ⟨t, hb, -⟩ | ⟨hl, -⟩
    · rw [hb.copied d hf]
      exact hb.length
    · simpa [hf] using hl.flush

/-- A spilled block has no snapshot in memory. -/
theorem Inv.not_snapshot_of_spilled (h : p.Inv bs) (hs : p.spilled ≠ none) (hv : p.view = some v) :
    v.activeSnapshot = false := by
  rcases h.of_spilled hs with hn | ⟨ps, hps⟩
  · cases hn.symm.trans hv
  · obtain rfl := Option.some.inj (hps.symm.trans hv)
    rfl

/-! ## Foreground steps -/

/-- A write to a ready block. -/
theorem Inv.patch (h : p.Inv bs) (hv : p.view = some v) (hls : v.loadState = .ready)
    {q : PendingPatch} {l : Bytes} (hl : l = splice p.logical q.range.1 q.data) :
    { p with view := some (v.patched [q]), logical := l }.Inv bs := by
  have hr := h.ready_of hv hls
  refine .ready _ rfl hls ⟨hr.pending, hr.valid, ?_, hr.spilled, fun hs => ?_, fun hs => ?_⟩
  · show splice v.data q.range.1 q.data = l
    rw [hl, hr.data]
  · exact ⟨⟨(hr.unbacked hs).1.no_flush, (hr.unbacked hs).1.temp⟩, fun hd => by
      simp [View.patched] at hd⟩
  · rcases hr.backed hs with ⟨t, hb, -⟩ | ⟨hlost, -⟩
    · exact .inl ⟨t, ⟨hb.length, hb.kept, hb.copied, hb.written, hb.removed⟩, fun hd => by
        simp [View.patched] at hd⟩
    · exact .inr ⟨⟨hlost.temp, hlost.flush⟩, by simp [View.patched]⟩

/-- A miss on a block that is nowhere but in the right store. -/
theorem Inv.start_load (h : p.Inv bs) (hv : p.view = none) (hs : p.spilled = none) :
    { p with view := some (.placeholder bs .loadingRemote ps) }.Inv bs :=
  have ⟨hu, hr⟩ := h.absent_of hv hs
  .loading ps rfl hs ⟨hu.no_flush, hu.temp⟩ hr

theorem Inv.abort_load (h : p.Inv bs) (hv : p.view = some (.placeholder bs .loadingRemote ps)) :
    { p with view := none }.Inv bs :=
  have ⟨hs, hu, hr⟩ := h.loading_of hv
  .absent rfl hs ⟨hu.no_flush, hu.temp⟩ hr

/-- What a load leaves: the loaded bytes with the patches on top. -/
def loaded (bs : Nat) (data : Bytes) (ps : List PendingPatch) (snapshot : Bool) : View :=
  { data, loadState := .ready, dirtyRanges := [], activeSnapshot := snapshot, pendingPatches := []
    validLen := bs : View }.patched ps

theorem Inv.finish_load (h : p.Inv bs) (hv : p.view = some (.placeholder bs .loadingRemote ps))
    {l : Bytes} (hl : l = ps.foldl (fun d q => splice d q.range.1 q.data) p.right) :
    { p with view := some (loaded bs p.right ps false), logical := l }.Inv bs := by
  obtain ⟨hs, hu, hr⟩ := h.loading_of hv
  refine .ready _ rfl rfl ⟨rfl, rfl, hl.symm, hs, fun _ => ⟨⟨hu.no_flush, hu.temp⟩, fun hd => ?_⟩,
    (nomatch ·)⟩
  have hps : ps = [] := by simpa [loaded, View.patched] using hd
  rw [hl, hps]
  rfl

theorem Inv.start_rehydrate (h : p.Inv bs) (hv : p.view = none) {sp : SpilledDirty}
    (hs : p.spilled = some sp) (hf : p.flush = none) :
    { p with view := some (.placeholder bs .rehydrating ps) }.Inv bs := by
  obtain ⟨rfl, hb⟩ := h.spilled_of hv hs
  exact .rehydrating ps rfl hs hf ⟨hb.length, hb.kept, hb.copied, hb.written, hb.removed⟩

theorem Inv.abort_rehydrate (h : p.Inv bs)
    (hv : p.view = some (.placeholder bs .rehydrating ps)) : { p with view := none }.Inv bs :=
  have ⟨hs, _, hb⟩ := h.rehydrating_of hv
  .spilled rfl hs ⟨hb.length, hb.kept, hb.copied, hb.written, hb.removed⟩

theorem Inv.finish_rehydrate (h : p.Inv bs)
    (hv : p.view = some (.placeholder bs .rehydrating ps)) {l : Bytes}
    (hl : l = ps.foldl (fun d q => splice d q.range.1 q.data) p.logical) :
    { p with view := some (loaded bs p.logical ps true), spilled := none, logical := l }.Inv bs := by
  obtain ⟨-, hf, hb⟩ := h.rehydrating_of hv
  refine .ready _ rfl rfl ⟨rfl, rfl, hl.symm, rfl, (nomatch ·), fun _ =>
    .inl ⟨p.logical, ⟨hb.length, hb.kept, hb.copied, hb.written, hb.removed⟩, fun hd => ?_⟩⟩
  have hps : ps = [] := by simpa [loaded, View.patched] using hd
  rw [hl, hps]
  rfl

/-- A clean block is dropped. -/
theorem Inv.drop_clean (h : p.Inv bs) (hv : p.view = some v) (hc : v.Clean) :
    { p with view := none }.Inv bs :=
  have ⟨hs, hu, hr⟩ := h.clean_of hv hc
  .absent rfl hs ⟨hu.no_flush, hu.temp⟩ hr

/-- The bytes of a ready block were written to its temp file. -/
theorem Inv.snapshot (h : p.Inv bs) (hv : p.view = some v) (hls : v.loadState = .ready)
    (hf : p.flush = none) (hlen : v.data.length = bs) :
    { p with
      view := some { v with activeSnapshot := true, dirtyRanges := [] }
      temp := some v.data }.Inv bs := by
  have hr := h.ready_of hv hls
  refine .ready _ rfl hls ⟨hr.pending, hr.valid, hr.data, hr.spilled, (nomatch ·),
    fun _ => .inl ⟨v.data, ⟨hlen, fun _ => rfl, ?_, ?_, ?_⟩, fun _ => hr.data⟩⟩
  all_goals
    intros
    simp_all

/-- A write of a dirty block to its temp file failed half way. -/
theorem Inv.lose (h : p.Inv bs) (hv : p.view = some v) (hls : v.loadState = .ready)
    (hf : p.flush = none) (hd : v.dirtyRanges ≠ []) : { p with temp := none }.Inv bs := by
  have hr := h.ready_of hv hls
  exact .ready v hv hls ⟨hr.pending, hr.valid, hr.data, hr.spilled,
    fun _ => ⟨⟨hf, .inl rfl⟩, fun h0 => absurd h0 hd⟩, fun _ => .inr ⟨⟨rfl, .inl hf⟩, hd⟩⟩

/-- A block whose temp file is current leaves the memory. -/
theorem Inv.spill (h : p.Inv bs) (hv : p.view = some v) (hls : v.loadState = .ready)
    (hs : v.activeSnapshot = true) (hd : v.dirtyRanges = []) :
    { p with view := none, spilled := some ⟨v.validLen⟩ }.Inv bs := by
  have hr := h.ready_of hv hls
  rcases hr.backed hs with ⟨t, hb, ht⟩ | ⟨-, hnd⟩
  · obtain rfl := ht hd
    exact .spilled rfl (by rw [hr.valid]) ⟨hb.length, hb.kept, hb.copied, hb.written, hb.removed⟩
  · exact absurd hd hnd

/-! ## Worker steps -/

/-- A step of the flush: what holds of the file in use may change to what the new stage says. -/
theorem Inv.flush_step (h : p.Inv bs) {f : Option Flush} {r : Bytes} {x : Option Bytes}
    (hf : p.flush ≠ none)
    (hb : ∀ t, p.Backed bs t →
      { p with flush := f, right := r, temp := x : Places }.Backed bs t)
    (hl : p.Lost → { p with flush := f, right := r, temp := x : Places }.Lost) :
    { p with flush := f, right := r, temp := x }.Inv bs := by
  rcases h.flushing_of hf with ⟨hv, hs, hb'⟩ | ⟨v, hv, hls, hsn, hr⟩
  · exact .spilled hv hs (hb _ hb')
  · refine .ready v hv hls ⟨hr.pending, hr.valid, hr.data, hr.spilled, fun h0 => ?_, fun _ => ?_⟩
    · rw [hsn] at h0
      cases h0
    · rcases hr.backed hsn with ⟨t, hb', ht⟩ | ⟨hlost, hd⟩
      · exact .inl ⟨t, hb t hb', ht⟩
      · exact .inr ⟨hl hlost, hd⟩

/-- The flush of a block that has a temp file starts. -/
theorem Inv.flush_start (h : p.Inv bs) (hf : p.flush = none)
    (hb : (p.view = none ∧ p.spilled ≠ none) ∨
      ∃ v, p.view = some v ∧ v.loadState = .ready ∧ v.activeSnapshot = true) :
    { p with flush := some .reading }.Inv bs := by
  have hback : ∀ t, p.Backed bs t → { p with flush := some .reading : Places }.Backed bs t :=
    fun t ht => ⟨ht.length, fun _ => ht.kept (by simp [hf]), by simp, by simp, by simp⟩
  rcases hb with ⟨hv, hs⟩ | ⟨v, hv, hls, hsn⟩
  · obtain ⟨sp, hs⟩ := Option.ne_none_iff_exists'.mp hs
    obtain ⟨rfl, hb⟩ := h.spilled_of hv hs
    exact .spilled hv hs (hback _ hb)
  · have hr := h.ready_of hv hls
    refine .ready v hv hls ⟨hr.pending, hr.valid, hr.data, hr.spilled, fun h0 => ?_, fun _ => ?_⟩
    · rw [hsn] at h0
      cases h0
    · rcases hr.backed hsn with ⟨t, hb, ht⟩ | ⟨hlost, hd⟩
      · exact .inl ⟨t, hback t hb, ht⟩
      · exact .inr ⟨⟨hlost.temp, .inr (.inl rfl)⟩, hd⟩

/-- A flush that failed somewhere ends: the temp file stays. -/
theorem Inv.flush_failed (h : p.Inv bs) (hf : p.flush = some (.finished false)) :
    { p with flush := none }.Inv bs :=
  h.flush_step (r := p.right) (x := p.temp) (by simp [hf])
    (fun t ht => ⟨ht.length, fun _ => ht.kept (by simp [hf]), by simp, by simp, by simp⟩)
    fun hl => ⟨hl.temp, .inl rfl⟩

/-- The flush of a spilled block ends. -/
theorem Inv.flush_spilled (h : p.Inv bs) (hf : p.flush = some (.finished true))
    (hv : p.view = none) {sp : SpilledDirty} (hs : p.spilled = some sp) :
    { p with flush := none, spilled := none }.Inv bs := by
  obtain ⟨-, hb⟩ := h.spilled_of hv hs
  obtain ⟨ht, hr⟩ := hb.removed hf
  exact .absent hv rfl ⟨rfl, .inl ht⟩ hr

/-- The flush of a resident block ends. -/
theorem Inv.flush_resident (h : p.Inv bs) (hf : p.flush = some (.finished true))
    (hv : p.view = some v) (hls : v.loadState = .ready) (hsn : v.activeSnapshot = true) :
    { p with flush := none, view := some { v with activeSnapshot := false } }.Inv bs := by
  have hr := h.ready_of hv hls
  rcases hr.backed hsn with ⟨t, hb, ht⟩ | ⟨hlost, -⟩
  · obtain ⟨htmp, hright⟩ := hb.removed hf
    exact .ready _ rfl hls ⟨hr.pending, hr.valid, hr.data, hr.spilled, fun _ =>
      ⟨⟨rfl, .inl htmp⟩, fun hd => hright.trans (ht hd)⟩, (nomatch ·)⟩
  · simpa [hf] using hlost.flush

end Inv

end Places

end YumeDisk.Cache
