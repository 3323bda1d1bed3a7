import Mathlib.Data.Finset.Card
import YumeDisk.Cache.ResidentSpec

/-!
# What a resident holds, whatever its queues

`Resident.view r b` is the entry of block `b` without its place in a queue.  Each method of the
resident has one lemma about views: from a well formed resident it succeeds, leaves it well formed,
and changes the views as stated.  None of them can return an error or panic when its caller keeps
its side.
-/

namespace YumeDisk.Cache

open YumeDisk.Lib

/-- A `BlockEntry` without its `queueRef`. -/
structure View where
  data : Bytes
  loadState : LoadState
  dirtyRanges : List Range
  activeSnapshot : Bool
  pendingPatches : List PendingPatch
  validLen : Nat

def BlockEntry.view (e : BlockEntry) : View where
  data := e.data
  loadState := e.state.loadState
  dirtyRanges := e.state.dirtyRanges
  activeSnapshot := e.state.activeSnapshot
  pendingPatches := e.state.pendingPatches
  validLen := e.state.validLen

/-- Ready, and nothing of it is only in memory. -/
structure View.Clean (v : View) : Prop where
  ready : v.loadState = .ready
  not_dirty : v.dirtyRanges = []
  no_snapshot : v.activeSnapshot = false
  no_pending : v.pendingPatches = []

/-- What `BlockEntry::new_loading` builds. -/
def View.loading (blockSize : Nat) (loadState : LoadState) (validLen : Nat) : View where
  data := List.replicate blockSize 0
  loadState := loadState
  dirtyRanges := []
  activeSnapshot := false
  pendingPatches := []
  validLen := validLen

/-- A patch that `validate_patch` accepts for a block of `blockLen` bytes. -/
structure PatchFits (range : Range) (dataLen blockLen : Nat) : Prop where
  start_le : range.1 ≤ range.2
  end_le : range.2 ≤ blockLen
  len : dataLen = range.2 - range.1

/-- The bytes and the dirty ranges after the patches `ps`. -/
def View.patched (v : View) (ps : List PendingPatch) : View :=
  { v with
    data := ps.foldl (fun d p => splice d p.range.1 p.data) v.data
    dirtyRanges := v.dirtyRanges ++ ps.map PendingPatch.range }

theorem PatchFits.splice_fits {range : Range} {data : Bytes} {blockLen : Nat}
    (h : PatchFits range data.length blockLen) : range.1 + data.length ≤ blockLen := by
  have h₁ := h.start_le
  have h₂ := h.end_le
  have h₃ := h.len
  omega

namespace Resident

def view (r : Resident) (b : Nat) : Option View := (r.get b).map BlockEntry.view

/-- `r'` is well formed, of the sizes of `r`, and holds the views `f`. -/
structure Holds (r r' : Resident) (f : Nat → Option View) : Prop where
  wf : WF r'
  sizes : SameSizes r r'
  view : r'.view = f

section View

variable {r r' : Resident} {b : Nat} {e e' : BlockEntry} {v : View}

theorem view_eq_some : r.view b = some v ↔ ∃ e, r.get b = some e ∧ e.view = v :=
  Option.map_eq_some_iff

theorem view_eq_none : r.view b = none ↔ r.get b = none := Option.map_eq_none_iff

theorem view_insert (m : HashMap BlockEntry) (f l : IndexedList) (bs fc lc : Nat) :
    view ⟨bs, fc, lc, m.insert b e, f, l⟩ =
      Function.update (view ⟨bs, fc, lc, m, f, l⟩) b (some e.view) := by
  funext c
  by_cases hcb : c = b
  · subst hcb
    rw [Function.update_self]
    exact congrArg (Option.map BlockEntry.view) (get_insert_self m f l bs fc lc)
  · rw [Function.update_of_ne hcb]
    exact congrArg (Option.map BlockEntry.view) (get_insert_of_ne m f l bs fc lc hcb)

theorem view_erase (m : HashMap BlockEntry) (f l : IndexedList) (bs fc lc : Nat) :
    view ⟨bs, fc, lc, m.erase b, f, l⟩ =
      Function.update (view ⟨bs, fc, lc, m, f, l⟩) b none := by
  funext c
  by_cases hcb : c = b
  · subst hcb
    rw [Function.update_self]
    exact congrArg (Option.map BlockEntry.view) (get_erase_self m f l bs fc lc)
  · rw [Function.update_of_ne hcb]
    exact congrArg (Option.map BlockEntry.view) (get_erase_of_ne m f l bs fc lc hcb)

theorem isClean_iff_view : e.isClean ↔ e.view.Clean :=
  isClean_iff.trans ⟨fun ⟨a, b, c, d⟩ => ⟨a, b, c, d⟩, fun h => ⟨h.1, h.2, h.3, h.4⟩⟩

theorem isQuiescent_iff_view : r.isQuiescent ↔ ∀ b v, r.view b = some v → v.Clean := by
  rw [isQuiescent_iff]
  constructor
  · intro h b v hv
    obtain ⟨e, he, rfl⟩ := view_eq_some.mp hv
    exact isClean_iff_view.mp (h b e he)
  · intro h b e he
    exact isClean_iff_view.mpr (h b e.view (view_eq_some.mpr ⟨e, he, rfl⟩))

/-- The blocks that `active_snapshot_count` counts. -/
def snapshotBlocks (r : Resident) : Finset Nat :=
  ((r.blocks.entries.filter fun x => x.2.state.activeSnapshot).map (·.1)).toFinset

theorem mem_snapshotBlocks :
    b ∈ r.snapshotBlocks ↔ ∃ v, r.view b = some v ∧ v.activeSnapshot = true := by
  simp only [snapshotBlocks, List.mem_toFinset, List.mem_map, List.mem_filter]
  constructor
  · rintro ⟨⟨c, e⟩, ⟨hmem, hs⟩, rfl⟩
    exact ⟨e.view, view_eq_some.mpr ⟨e, get_eq_some_iff.mpr hmem, rfl⟩, hs⟩
  · rintro ⟨v, hv, hs⟩
    obtain ⟨e, he, rfl⟩ := view_eq_some.mp hv
    exact ⟨⟨b, e⟩, ⟨get_eq_some_iff.mp he, hs⟩, rfl⟩

theorem card_snapshotBlocks (r : Resident) : r.snapshotBlocks.card = r.activeSnapshotCount := by
  have hsub : ((r.blocks.entries.filter fun x => x.2.state.activeSnapshot).map (·.1)).Sublist
      (r.blocks.entries.map (·.1)) := List.filter_sublist.map _
  rw [snapshotBlocks, List.toFinset_card_of_nodup (hsub.nodup r.blocks.nodupKeys), List.length_map,
    activeSnapshotCount, List.countP_eq_length_filter]

/-- The entry of a block is replaced, in the same queue. -/
theorem Holds.put {x : BlockEntry} (h : WF r) (hb : r.get b = some e)
    (hq : x.state.queueRef = e.state.queueRef) (hlen : x.data.length = e.data.length) :
    Holds r { r with blocks := r.blocks.insert b x }
      (Function.update r.view b (some x.view)) where
  wf := h.put hb hq hlen
  sizes := ⟨rfl, rfl, rfl⟩
  view := view_insert ..

/-- Two changes of one block. -/
theorem Holds.trans_update {r'' : Resident} {x y : Option View}
    (h : Holds r r' (Function.update r.view b x)) (h' : Holds r' r'' (Function.update r'.view b y)) :
    Holds r r'' (Function.update r.view b y) where
  wf := h'.wf
  sizes := h.sizes.trans h'.sizes
  view := by rw [h'.view, h.view, Function.update_idem]

theorem selectInsertVictim_none (h : r.selectInsertVictim = none) (hw : WF r) :
    r.fifo.len < r.fifoCapacity := by
  unfold selectInsertVictim at h
  by_cases hlt : r.fifo.len < r.fifoCapacity
  · exact hlt
  · rw [if_neg hlt] at h
    obtain ⟨xs, ys, hq⟩ := hw.queues
    rw [hq.fifo.frontValue_eq] at h
    cases xs with
    | nil => exact hq.fifo.len ▸ hw.fifo_pos
    | cons x xs => simp at h

/-- The victim of an insertion is the oldest block of the FIFO. -/
theorem selectInsertVictim_some (h : r.selectInsertVictim = some b) (hw : WF r) :
    ∃ e n, r.get b = some e ∧ e.state.queueRef = .fifo n := by
  unfold selectInsertVictim at h
  by_cases hlt : r.fifo.len < r.fifoCapacity
  · rw [if_pos hlt] at h
    cases h
  · rw [if_neg hlt] at h
    obtain ⟨xs, ys, hq⟩ := hw.queues
    rw [hq.fifo.frontValue_eq] at h
    cases xs with
    | nil => simp at h
    | cons x xs =>
      obtain rfl : x.2 = b := by simpa using h
      obtain ⟨e, he, hqr⟩ := hq.fifo_block x (by simp)
      exact ⟨e, x.1, he, hqr⟩

end View

/-! ## Placeholders -/

section Methods

variable {r : Resident} {b : Nat} {v : View}

theorem onFifo_ok {α : Type} {f : IndexedList → Option (α × IndexedList)} {a : α}
    {l : IndexedList} (h : f r.fifo = some (a, l)) :
    onFifo f r = .ok a { r with fifo := l } := by
  simp only [onFifo, run_get_bind, h]
  rfl

theorem onLru_ok {α : Type} {f : IndexedList → Option (α × IndexedList)} {a : α}
    {l : IndexedList} (h : f r.lru = some (a, l)) :
    onLru f r = .ok a { r with lru := l } := by
  simp only [onLru, run_get_bind, h]
  rfl

theorem insertLoadingPlaceholder_spec (h : WF r) (hb : r.view b = none) {validLen : Nat}
    (hpos : 0 < validLen) (hle : validLen ≤ r.blockSize) (hroom : r.fifo.len < r.fifoCapacity)
    (ls : LoadState) :
    ∃ r', insertLoadingPlaceholder b validLen ls false r = .ok () r' ∧
      Holds r r' (Function.update r.view b (some (.loading r.blockSize ls validLen))) := by
  rw [view_eq_none] at hb
  obtain ⟨xs, ys, hq⟩ := h.queues
  obtain ⟨id, l, hl, -, hrep⟩ := hq.fifo.pushBack_spec b
  have hval : validateLoadingInsert b validLen r = .ok () r := by
    have hv : ¬(validLen = 0 ∨ validLen > r.blockSize) := by omega
    simp [validateLoadingInsert, hb, hv]
  set e := BlockEntry.newLoading r.blockSize (.fifo id) ls validLen false with he
  refine ⟨{ r with blocks := r.blocks.insert b e, fifo := l }, ?_, ?_⟩
  · have hne : ¬r.fifo.len = r.fifoCapacity := by omega
    rw [insertLoadingPlaceholder, bind_ok hval, run_get_bind, if_neg hne]
    exact bind_ok (onFifo_ok (f := (·.pushBack b)) hl)
  · refine ⟨⟨⟨_, _, hq.insert_fifo hb hrep rfl ?_ ?_⟩, h.fifo_pos, h.lru_pos, h.size_pos⟩,
      ⟨rfl, rfl, rfl⟩, view_insert ..⟩
    · simp [he, BlockEntry.newLoading]
    · rw [← hq.fifo.len]
      exact hroom

theorem validatePatch_ok {σ : Type} {s : σ} {range : Range} {dataLen blockLen : Nat}
    (h : PatchFits range dataLen blockLen) :
    validatePatch range dataLen blockLen s = .ok () s := by
  have h₁ : ¬(range.1 > range.2 ∨ range.2 > blockLen) := by
    have := h.start_le
    have := h.end_le
    omega
  rw [validatePatch, if_neg h₁, if_neg (not_not.mpr h.len)]
  rfl

theorem enqueuePendingPatch_spec (h : WF r) (hb : r.view b = some v)
    (hls : v.loadState.isLoading) {range : Range} {data : Bytes}
    (hfit : PatchFits range data.length r.blockSize) :
    ∃ r', enqueuePendingPatch b range data r = .ok () r' ∧
      Holds r r' (Function.update r.view b
        (some { v with pendingPatches := v.pendingPatches ++ [⟨range, data⟩] })) := by
  obtain ⟨e, he, rfl⟩ := view_eq_some.mp hb
  refine ⟨_, ?_, Holds.put (x := { e with state := { e.state with
    pendingPatches := e.state.pendingPatches ++ [⟨range, data⟩] } }) h he rfl rfl⟩
  have hl : e.state.loadState.isLoading = true := hls
  rw [← h.data_len he] at hfit
  simp only [enqueuePendingPatch, run_get_bind, he, hl, Bool.not_true, Bool.false_eq_true,
    if_false]
  rw [bind_ok (validatePatch_ok hfit)]
  rfl

/-! ## Patches -/

theorem applyPatch_ok {e : BlockEntry} {range : Range} {data : Bytes}
    (hfit : PatchFits range data.length e.data.length) :
    applyPatch e range data r = .ok { e with
      data := splice e.data range.1 data
      state := { e.state with dirtyRanges := e.state.dirtyRanges ++ [range] } } r :=
  bind_ok (validatePatch_ok hfit)

theorem applyPatches_ok {l : List PendingPatch} {e : BlockEntry}
    (hfit : ∀ p ∈ l, PatchFits p.range p.data.length e.data.length) :
    ∃ e', applyPatches e l r = .ok e' r ∧ e'.view = e.view.patched l ∧
      e'.state.queueRef = e.state.queueRef ∧ e'.data.length = e.data.length := by
  induction l generalizing e with
  | nil => exact ⟨e, rfl, by simp [View.patched], rfl, rfl⟩
  | cons p l ih =>
    have hp := hfit p (by simp)
    have hlen := length_splice hp.splice_fits
    obtain ⟨e', h₁, h₂, h₃, h₄⟩ := ih (e := { e with
      data := splice e.data p.range.1 p.data
      state := { e.state with dirtyRanges := e.state.dirtyRanges ++ [p.range] } })
      (fun q hq => by rw [hlen]; exact hfit q (by simp [hq]))
    refine ⟨e', (bind_ok (applyPatch_ok hp)).trans h₁, ?_, h₃, h₄.trans hlen⟩
    rw [h₂]
    simp [View.patched, BlockEntry.view]

theorem finishRemoteLoad_spec (h : WF r) (hb : r.view b = some v)
    (hls : v.loadState.isLoading) {data : Bytes} (hlen : data.length = r.blockSize)
    (hfit : ∀ p ∈ v.pendingPatches, PatchFits p.range p.data.length r.blockSize) :
    ∃ r', finishRemoteLoad b data r = .ok () r' ∧
      Holds r r' (Function.update r.view b
        (some ({ v with data, pendingPatches := [], loadState := .ready }.patched
          v.pendingPatches))) := by
  obtain ⟨e, he, rfl⟩ := view_eq_some.mp hb
  obtain ⟨e', h₁, h₂, h₃, h₄⟩ := applyPatches_ok (r := r) (l := e.state.pendingPatches)
    (e := { e with data, state := { e.state with pendingPatches := [] } })
    (fun p hp => by rw [hlen]; exact hfit p hp)
  have hl : e.state.loadState.isLoading = true := hls
  have hview : ({ e' with state := { e'.state with loadState := .ready } } : BlockEntry).view =
      { e.view with data, pendingPatches := [], loadState := .ready }.patched
        e.view.pendingPatches := by
    have := congrArg (fun w : View => { w with loadState := .ready }) h₂
    exact this
  refine ⟨_, ?_, hview ▸ Holds.put (x := { e' with state := { e'.state with loadState := .ready } })
    h he h₃ (h₄.trans (hlen.trans (h.data_len he).symm))⟩
  simp only [finishRemoteLoad, run_get_bind, he, hl, hlen, Bool.not_true, Bool.false_eq_true,
    if_false, ne_eq, not_true_eq_false]
  exact bind_ok h₁

theorem patchReadyBlock_spec (h : WF r) (hb : r.view b = some v) (hls : v.loadState = .ready)
    {range : Range} {data : Bytes} (hfit : PatchFits range data.length r.blockSize) :
    ∃ r', patchReadyBlock b range data r = .ok () r' ∧
      Holds r r' (Function.update r.view b (some (v.patched [⟨range, data⟩]))) := by
  obtain ⟨e, he, rfl⟩ := view_eq_some.mp hb
  rw [← h.data_len he] at hfit
  refine ⟨_, ?_, Holds.put (x := { e with
    data := splice e.data range.1 data
    state := { e.state with dirtyRanges := e.state.dirtyRanges ++ [range] } }) h he rfl
      (length_splice hfit.splice_fits)⟩
  have hl : e.state.loadState = .ready := hls
  simp only [patchReadyBlock, run_get_bind, he]
  rw [if_neg (not_not.mpr hl)]
  exact bind_ok (applyPatch_ok hfit)

/-! ## Snapshots -/

theorem updateReady_spec (missing notReady : String) (f : BlockState → M BlockState)
    (g : BlockState → BlockState) (h : WF r) {e : BlockEntry} (he : r.get b = some e)
    (hls : e.state.loadState = .ready) (hf : f e.state r = .ok (g e.state) r)
    (hq : (g e.state).queueRef = e.state.queueRef) :
    ∃ r', updateReady missing notReady b f r = .ok () r' ∧
      Holds r r' (Function.update r.view b
        (some { e with state := g e.state : BlockEntry }.view)) ∧
      r'.get b = some { e with state := g e.state } := by
  refine ⟨_, ?_, Holds.put (x := { e with state := g e.state }) h he hq rfl, get_insert_self ..⟩
  simp only [updateReady, run_get_bind, he, hls, ne_eq, not_true_eq_false, if_false]
  exact bind_ok hf

theorem markSnapshotWritten_spec (h : WF r) {e : BlockEntry} (he : r.get b = some e)
    (hls : e.state.loadState = .ready) :
    ∃ r', markSnapshotWritten b r = .ok () r' ∧
      Holds r r' (Function.update r.view b
        (some { e.view with activeSnapshot := true, dirtyRanges := [] })) ∧
      ∃ e', r'.get b = some e' ∧ e'.state.queueRef = e.state.queueRef := by
  obtain ⟨r', h₁, h₂, h₃⟩ := updateReady_spec _ _
    (fun st => return { st with activeSnapshot := true, dirtyRanges := [] })
    (fun st => { st with activeSnapshot := true, dirtyRanges := [] }) h he hls rfl rfl
  exact ⟨r', h₁, h₂, _, h₃, rfl⟩

theorem attachActiveSnapshot_spec (h : WF r) (hb : r.view b = some v)
    (hls : v.loadState = .ready) :
    ∃ r', attachActiveSnapshot b r = .ok () r' ∧
      Holds r r' (Function.update r.view b (some { v with activeSnapshot := true })) := by
  obtain ⟨e, he, rfl⟩ := view_eq_some.mp hb
  obtain ⟨r', h₁, h₂, -⟩ := updateReady_spec _ _
    (fun st => return { st with activeSnapshot := true })
    (fun st => { st with activeSnapshot := true }) h he hls rfl rfl
  exact ⟨r', h₁, h₂⟩

theorem clearActiveSnapshot_spec (h : WF r) (hb : r.view b = some v) (hls : v.loadState = .ready)
    (hs : v.activeSnapshot) :
    ∃ r', clearActiveSnapshot b r = .ok () r' ∧
      Holds r r' (Function.update r.view b (some { v with activeSnapshot := false })) := by
  obtain ⟨e, he, rfl⟩ := view_eq_some.mp hb
  have hs' : e.state.activeSnapshot = true := hs
  obtain ⟨r', h₁, h₂, -⟩ := updateReady_spec _ _
    (fun st =>
      if !st.activeSnapshot then violation "snapshot clear requires active snapshot"
      else return { st with activeSnapshot := false })
    (fun st => { st with activeSnapshot := false }) h he hls (by simp [hs']) rfl
  exact ⟨r', h₁, h₂⟩

/-! ## Evictions -/

/-- A block leaves; one more place is free in the FIFO if it was there. -/
theorem evictBlock_spec (h : WF r) {e : BlockEntry} (he : r.get b = some e) :
    ∃ r', evictBlock b r = .ok (some ⟨b, e⟩) r' ∧
      Holds r r' (Function.update r.view b none) ∧
      ∀ n, e.state.queueRef = .fifo n → r'.fifo.len < r'.fifoCapacity := by
  obtain ⟨xs, ys, hq⟩ := h.queues
  cases hqr : e.state.queueRef with
  | fifo n =>
    obtain ⟨xs₁, xs₂, rfl⟩ := List.append_of_mem (hq.in_fifo b e n he hqr)
    obtain ⟨l, hl, hrep⟩ := hq.fifo.remove_spec
    refine ⟨{ r with blocks := r.blocks.erase b, fifo := l }, ?_, ⟨⟨⟨_, _, hq.erase_fifo hrep⟩,
      h.fifo_pos, h.lru_pos, h.size_pos⟩, ⟨rfl, rfl, rfl⟩, view_erase ..⟩, fun _ _ => ?_⟩
    · simp only [evictBlock, run_get_bind, he, hqr]
      rw [bind_ok (onFifo_ok hl)]
      simp
    · have hle := hq.fifo_le
      have hlen := hrep.len
      simp only [List.length_append, List.length_cons] at hle hlen
      show l.len < r.fifoCapacity
      omega
  | lru n =>
    obtain ⟨ys₁, ys₂, rfl⟩ := List.append_of_mem (hq.in_lru b e n he hqr)
    obtain ⟨l, hl, hrep⟩ := hq.lru.remove_spec
    refine ⟨{ r with blocks := r.blocks.erase b, lru := l }, ?_, ⟨⟨⟨_, _, hq.erase_lru hrep⟩,
      h.fifo_pos, h.lru_pos, h.size_pos⟩, ⟨rfl, rfl, rfl⟩, view_erase ..⟩, fun _ hn => ?_⟩
    · simp only [evictBlock, run_get_bind, he, hqr]
      rw [bind_ok (onLru_ok hl)]
      simp
    · cases hn

theorem abortRemoteLoad_spec (h : WF r) (hb : r.view b = some v) (hls : v.loadState.isLoading) :
    ∃ r', abortRemoteLoad b r = .ok () r' ∧ Holds r r' (Function.update r.view b none) := by
  obtain ⟨e, he, rfl⟩ := view_eq_some.mp hb
  obtain ⟨r', h₁, h₂, -⟩ := evictBlock_spec h he
  have hl : e.state.loadState.isLoading = true := hls
  refine ⟨r', ?_, h₂⟩
  simp only [abortRemoteLoad, run_get_bind, he, hl, Bool.not_true, Bool.false_eq_true, if_false]
  rw [bind_ok h₁]
  rfl

end Methods

/-! ## Hits -/

section Hits

variable {r : Resident} {b : Nat} {v : View}

/-- What a hit may do to the other blocks: a clean one is dropped. -/
def DropsClean (f g : Nat → Option View) (b : Nat) : Prop :=
  ∀ c, g c = f c ∨ (c ≠ b ∧ g c = none ∧ ∃ v, f c = some v ∧ v.Clean)

theorem DropsClean.refl (f : Nat → Option View) (b : Nat) : DropsClean f f b := fun _ => .inl rfl

theorem canEvictLruHeadForPromotion_spec {xs ys : List (ListNodeId × Nat)} {y : ListNodeId × Nat}
    (hq : Queues r xs (y :: ys)) : ∃ e, r.get y.2 = some e ∧ e.state.queueRef = .lru y.1 ∧
      canEvictLruHeadForPromotion r = .ok e.isClean r := by
  obtain ⟨e, he, hqr⟩ := hq.lru_block y (by simp)
  refine ⟨e, he, hqr, ?_⟩
  have hfront : r.lru.frontValue = some y.2 := by rw [hq.lru.frontValue_eq]; rfl
  simp [canEvictLruHeadForPromotion, hfront, he]

/-- The head of the LRU leaves. -/
theorem evictLruHead_spec {ys : List (ListNodeId × Nat)} {y : ListNodeId × Nat}
    {e : BlockEntry} (hrep : r.lru.Repr (y :: ys)) (he : r.get y.2 = some e) :
    ∃ l, evictLruHead r = .ok (some ⟨y.2, e⟩) { r with blocks := r.blocks.erase y.2, lru := l } ∧
      l.Repr ys := by
  obtain ⟨l, hl, hrep'⟩ := hrep.popFront_spec
  refine ⟨l, ?_, hrep'⟩
  rw [evictLruHead, bind_ok (onLru_ok (f := (·.popFront)) hl)]
  have he' : get { r with lru := l } y.2 = some e := he
  simp only [run_get_bind, he', run_set_bind]
  rfl

/-- Once there is room in the LRU: the views stay, the block changes its queue. -/
theorem promote_room {xs zs ys : List (ListNodeId × Nat)} {n : ListNodeId} {e : BlockEntry}
    (h : WF r) (hq : Queues r (xs ++ (n, b) :: zs) ys) (he : r.get b = some e)
    (hroom : ys.length < r.lruCapacity) :
    ∃ t r', promote b n r = .ok t r' ∧ Holds r r' r.view := by
  obtain ⟨lf, hlf, hrf⟩ := hq.fifo.remove_spec
  obtain ⟨m, ll, hll, -, hrl⟩ := hq.lru.pushBack_spec b
  have hne : ¬r.lru.len = r.lruCapacity := by rw [hq.lru.len]; omega
  refine ⟨{ promoted := true, evicted := none }, _, ?_,
    ⟨⟨_, _, hq.move_to_lru hroom hrf hrl he⟩, h.fifo_pos, h.lru_pos, h.size_pos⟩,
    ⟨rfl, rfl, rfl⟩, ?_⟩
  · have he' : get { r with fifo := lf, lru := ll } b = some e := he
    rw [promote, bind_ok (onFifo_ok (f := (·.remove n)) hlf)]
    simp only [ne_eq, not_true_eq_false, if_false, run_get_bind, hne, run_pure_bind]
    rw [bind_ok (onLru_ok (r := { r with fifo := lf }) (f := (·.pushBack b)) hll)]
    simp only [run_get_bind, he']
    rfl
  · rw [view_insert]
    exact Function.update_eq_self_iff.mpr (view_eq_some.mpr ⟨e, he, rfl⟩).symm

/-- With a full LRU: its head leaves first. -/
theorem promote_full {xs zs ys : List (ListNodeId × Nat)} {y : ListNodeId × Nat}
    {n : ListNodeId} {e ey : BlockEntry} (h : WF r) (hq : Queues r (xs ++ (n, b) :: zs) (y :: ys))
    (he : r.get b = some e) (hey : r.get y.2 = some ey) (hyb : b ≠ y.2)
    (hfull : r.lru.len = r.lruCapacity) :
    ∃ t r', promote b n r = .ok t r' ∧ Holds r r' (Function.update r.view y.2 none) := by
  obtain ⟨lf, hlf, hrf⟩ := hq.fifo.remove_spec
  obtain ⟨ly, hly, hry⟩ := evictLruHead_spec (r := { r with fifo := lf }) hq.lru hey
  obtain ⟨m, ll, hll, -, hrl⟩ := hry.pushBack_spec b
  have hq₁ := Queues.erase_lru (show Queues r _ ([] ++ (y.1, y.2) :: _) from hq) hry
  have hroom : ys.length < r.lruCapacity := by
    rw [← hfull, hq.lru.len]
    simp
  have he₁ : get { r with blocks := r.blocks.erase y.2, lru := ly } b = some e :=
    (get_erase_of_ne _ _ _ _ _ _ hyb).trans he
  refine ⟨{ promoted := true, evicted := some ⟨y.2, ey⟩ }, _, ?_,
    ⟨⟨_, _, hq₁.move_to_lru hroom hrf hrl he₁⟩, h.fifo_pos, h.lru_pos, h.size_pos⟩,
    ⟨rfl, rfl, rfl⟩, ?_⟩
  · have he' : get { r with blocks := r.blocks.erase y.2, fifo := lf, lru := ll } b = some e := he₁
    rw [promote, bind_ok (onFifo_ok (f := (·.remove n)) hlf)]
    simp only [ne_eq, not_true_eq_false, if_false, run_get_bind, hfull, if_true]
    rw [bind_ok hly, bind_ok (onLru_ok
      (r := { r with blocks := r.blocks.erase y.2, fifo := lf, lru := ly })
      (f := (·.pushBack b)) hll)]
    simp only [run_get_bind, he']
    rfl
  · rw [view_insert, view_erase]
    refine Function.update_eq_self_iff.mpr ?_
    rw [Function.update_of_ne hyb]
    exact (view_eq_some.mpr ⟨e, he, rfl⟩ : r.view b = some e.view).symm

/-- **A hit** never fails on a ready block, keeps every view, and drops at most one clean block. -/
theorem recordHit_spec (h : WF r) (hb : r.view b = some v) (hls : v.loadState = .ready) :
    ∃ t r' f, recordHit b r = .ok (some t) r' ∧ Holds r r' f ∧ DropsClean r.view f b := by
  obtain ⟨e, he, rfl⟩ := view_eq_some.mp hb
  obtain ⟨xs, ys, hq⟩ := h.queues
  have hready : ¬e.state.loadState ≠ .ready := not_not.mpr hls
  cases hqr : e.state.queueRef with
  | fifo n =>
    obtain ⟨xs, zs, rfl⟩ := List.append_of_mem (hq.in_fifo b e n he hqr)
    by_cases hfull : r.lru.len = r.lruCapacity
    · obtain ⟨y, ys, rfl⟩ := List.exists_cons_of_length_pos (l := ys) (by
        have := h.lru_pos
        rw [← hfull, hq.lru.len] at this
        exact this)
      obtain ⟨ey, hey, hqy, hcan⟩ := canEvictLruHeadForPromotion_spec hq
      have hyb : b ≠ y.2 := by
        intro hby
        rw [← hby, he] at hey
        obtain rfl := Option.some.inj hey
        rw [hqr] at hqy
        cases hqy
      cases hclean : ey.isClean with
      | false =>
        refine ⟨{ promoted := false, evicted := none }, r, r.view, ?_,
          ⟨h, .refl r, rfl⟩, .refl _ _⟩
        simp only [recordHit, run_get_bind, he, hqr, hfull, if_true]
        rw [if_neg hready, bind_ok hcan, hclean]
        rfl
      | true =>
        obtain ⟨t, r', hp, hh⟩ := promote_full h hq he hey hyb hfull
        refine ⟨t, r', _, ?_, hh, fun c => ?_⟩
        · simp only [recordHit, run_get_bind, he, hqr, hfull, if_true]
          rw [if_neg hready, bind_ok hcan, hclean]
          exact bind_ok hp
        · by_cases hc : c = y.2
          · subst hc
            exact .inr ⟨hyb.symm, Function.update_self .., ey.view,
              view_eq_some.mpr ⟨ey, hey, rfl⟩, isClean_iff_view.mp hclean⟩
          · exact .inl (Function.update_of_ne hc ..)
    · obtain ⟨t, r', hp, hh⟩ := promote_room h hq he (by
        have := hq.lru_le
        rw [hq.lru.len] at hfull
        omega)
      refine ⟨t, r', _, ?_, hh, .refl _ _⟩
      simp only [recordHit, run_get_bind, he, hqr, hfull, if_false]
      rw [if_neg hready]
      exact bind_ok hp
  | lru n =>
    obtain ⟨ys₁, ys₂, rfl⟩ := List.append_of_mem (hq.in_lru b e n he hqr)
    obtain ⟨l, hl, hrep⟩ := hq.lru.moveToBack_spec
    have hperm : (ys₁ ++ (n, b) :: ys₂).Perm (ys₁ ++ ys₂ ++ [(n, b)]) :=
      List.perm_middle.trans (List.perm_append_singleton ..).symm
    refine ⟨{ promoted := false, evicted := none }, { r with lru := l }, r.view, ?_,
      ⟨⟨⟨_, _, hq.permute_lru hrep hperm⟩, h.fifo_pos, h.lru_pos, h.size_pos⟩,
        ⟨rfl, rfl, rfl⟩, rfl⟩, .refl _ _⟩
    simp only [recordHit, run_get_bind, he, hqr]
    rw [if_neg hready, bind_ok (onLru_ok (f := (·.moveToBack n)) hl)]
    rfl

end Hits

end Resident

end YumeDisk.Cache
