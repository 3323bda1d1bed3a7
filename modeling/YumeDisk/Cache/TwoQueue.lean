import YumeDisk.Cache.ResidentView
import YumeDisk.Lib.Update

/-!
# The shape of the resident (`resident/mod.rs`)

Any sequence of the methods that the cache calls on its `TwoQueueResident`, with any arguments.

* `ResidentOp`: such a call; the cache inserts its placeholders without a snapshot.
* `View.Shaped`, `Resident.Shaped`: the invariant.
* `two_queue_kept`: **the result**.
-/

namespace YumeDisk.Cache

open YumeDisk.Lib

/-- A call of a method of the resident. -/
inductive ResidentOp
  | insertLoadingPlaceholder (blockIndex validLen : Nat) (loadState : LoadState)
  | finishRemoteLoad (blockIndex : Nat) (data : Bytes)
  | abortRemoteLoad (blockIndex : Nat)
  | enqueuePendingPatch (blockIndex : Nat) (range : Range) (data : Bytes)
  | patchReadyBlock (blockIndex : Nat) (range : Range) (data : Bytes)
  | markSnapshotWritten (blockIndex : Nat)
  | attachActiveSnapshot (blockIndex : Nat)
  | clearActiveSnapshot (blockIndex : Nat)
  | recordHit (blockIndex : Nat)
  | evictBlock (blockIndex : Nat)

/-- The call, without its value. -/
def ResidentOp.run : ResidentOp → Resident.M Unit
  | insertLoadingPlaceholder b validLen ls => Resident.insertLoadingPlaceholder b validLen ls false
  | finishRemoteLoad b data => Resident.finishRemoteLoad b data
  | abortRemoteLoad b => Resident.abortRemoteLoad b
  | enqueuePendingPatch b range data => Resident.enqueuePendingPatch b range data
  | patchReadyBlock b range data => Resident.patchReadyBlock b range data
  | markSnapshotWritten b => Resident.markSnapshotWritten b
  | attachActiveSnapshot b => Resident.attachActiveSnapshot b
  | clearActiveSnapshot b => Resident.clearActiveSnapshot b
  | recordHit b => do
    let _ ← Resident.recordHit b
    return ()
  | evictBlock b => do
    let _ ← Resident.evictBlock b
    return ()

/-- The resident that a call leaves, whether it fails or not. -/
def Resident.after (r : Resident) (op : ResidentOp) : Resident :=
  match op.run r with
  | .ok _ r' => r'
  | .error _ r' => r'

/-- The structure of two queues. -/
structure Resident.TwoQueue (r : Resident) : Prop where
  /-- The nodes of the two lists with their blocks: each resident block is in one of them, once, and
  its `queueRef` is its node. -/
  lists : ∃ xs ys, r.fifo.Repr xs ∧ r.lru.Repr ys ∧ ((xs ++ ys).map Prod.snd).Nodup ∧
    (∀ b, b ∈ (xs ++ ys).map Prod.snd ↔ (r.get b).isSome) ∧
    ∀ b e, r.get b = some e →
      match e.state.queueRef with
      | .fifo n => (n, b) ∈ xs
      | .lru n => (n, b) ∈ ys
  len : r.blocks.entries.length = r.fifo.len + r.lru.len
  fifo_le : r.fifo.len ≤ r.fifoCapacity
  lru_le : r.lru.len ≤ r.lruCapacity
  pending_loading : ∀ b e, r.get b = some e → e.state.pendingPatches ≠ [] →
    e.state.loadState.isLoading = true
  dirty_ready : ∀ b e, r.get b = some e →
    e.state.dirtyRanges ≠ [] ∨ e.state.activeSnapshot = true → e.state.loadState = .ready

/-- What an entry may hold in each load state. -/
structure View.Shaped (blockSize : Nat) (v : View) : Prop where
  pending : v.pendingPatches ≠ [] → v.loadState.isLoading = true
  dirty : v.dirtyRanges ≠ [] → v.loadState = .ready
  snapshot : v.activeSnapshot = true → v.loadState = .ready
  fits : ∀ p ∈ v.pendingPatches, PatchFits p.range p.data.length blockSize

namespace Resident

/-- The invariant of the methods. -/
structure Shaped (r : Resident) : Prop where
  wf : WF r
  views : ∀ b v, r.view b = some v → v.Shaped r.blockSize

/-! ## From the invariant to the structure -/

section Structure

variable {r : Resident} {xs ys : List (ListNodeId × Nat)}

theorem Queues.mem_iff (h : Queues r xs ys) (b : Nat) :
    b ∈ (xs ++ ys).map Prod.snd ↔ (r.get b).isSome := by
  rw [List.map_append, List.mem_append, List.mem_map, List.mem_map, Option.isSome_iff_exists]
  constructor
  · rintro (⟨x, hx, rfl⟩ | ⟨y, hy, rfl⟩)
    · obtain ⟨e, he, -⟩ := h.fifo_block x hx
      exact ⟨e, he⟩
    · obtain ⟨e, he, -⟩ := h.lru_block y hy
      exact ⟨e, he⟩
  · rintro ⟨e, he⟩
    cases hq : e.state.queueRef with
    | fifo n => exact .inl ⟨(n, b), h.in_fifo b e n he hq, rfl⟩
    | lru n => exact .inr ⟨(n, b), h.in_lru b e n he hq, rfl⟩

theorem Queues.nodup (h : Queues r xs ys) : ((xs ++ ys).map Prod.snd).Nodup := by
  rw [List.map_append, List.nodup_append]
  refine ⟨?_, ?_, ?_⟩
  · refine List.Nodup.map_on (fun x hx y hy hxy => ?_) (List.Nodup.of_map _ h.fifo.nodup)
    exact Prod.ext (h.fifo_inj hx (hxy ▸ hy)) hxy
  · refine List.Nodup.map_on (fun x hx y hy hxy => ?_) (List.Nodup.of_map _ h.lru.nodup)
    exact Prod.ext (h.lru_inj hx (hxy ▸ hy)) hxy
  · intro b hb c hc hbc
    subst hbc
    obtain ⟨x, hx, rfl⟩ := List.mem_map.mp hb
    obtain ⟨y, hy, hyx⟩ := List.mem_map.mp hc
    obtain ⟨e, he, hq⟩ := h.fifo_block x hx
    obtain ⟨e', he', hq'⟩ := h.lru_block y hy
    rw [hyx, he] at he'
    obtain rfl := Option.some.inj he'
    exact nomatch hq.symm.trans hq'

theorem Queues.len (h : Queues r xs ys) : r.blocks.entries.length = r.fifo.len + r.lru.len := by
  have hkeys : ∀ b, b ∈ r.blocks.keys ↔ b ∈ (xs ++ ys).map Prod.snd := by
    intro b
    rw [h.mem_iff]
    exact AList.lookup_isSome.symm
  have hperm := (List.perm_ext_iff_of_nodup r.blocks.keys_nodup h.nodup).mpr hkeys
  have hlen := hperm.length_eq
  rw [AList.keys, List.keys, List.length_map, List.length_map, List.length_append] at hlen
  rw [hlen, h.fifo.len, h.lru.len]

theorem Shaped.twoQueue (h : Shaped r) : r.TwoQueue := by
  obtain ⟨xs, ys, hq⟩ := h.wf.queues
  refine ⟨⟨xs, ys, hq.fifo, hq.lru, hq.nodup, hq.mem_iff, ?_⟩, hq.len, hq.fifo.len ▸ hq.fifo_le,
    hq.lru.len ▸ hq.lru_le, ?_, ?_⟩
  · intro b e he
    split
    · exact hq.in_fifo b e _ he ‹_›
    · exact hq.in_lru b e _ he ‹_›
  · intro b e he hpending
    exact (h.views b e.view (view_eq_some.mpr ⟨e, he, rfl⟩)).pending hpending
  · intro b e he hor
    have hv := h.views b e.view (view_eq_some.mpr ⟨e, he, rfl⟩)
    exact hor.elim hv.dirty hv.snapshot

end Structure

/-! ## The methods -/

section Methods

variable {r r' : Resident} {b : Nat} {v : View}

/-- A method that changes one view. -/
theorem Shaped.update (h : Shaped r) (hh : Holds r r' (Function.update r.view b (some v)))
    (hv : v.Shaped r.blockSize) : Shaped r' := by
  refine ⟨hh.wf, fun c w hw => ?_⟩
  rw [hh.sizes.1]
  rw [hh.view] at hw
  rcases update_some hw with ⟨rfl, rfl⟩ | ⟨hc, hw⟩
  · exact hv
  · exact h.views c w hw

/-- A method that only drops blocks. -/
theorem Shaped.drop {f : Nat → Option View} (h : Shaped r) (hh : Holds r r' f)
    (hf : ∀ c w, f c = some w → r.view c = some w) : Shaped r' := by
  refine ⟨hh.wf, fun c w hw => ?_⟩
  rw [hh.sizes.1]
  rw [hh.view] at hw
  exact h.views c w (hf c w hw)

theorem Shaped.erase (h : Shaped r) (hh : Holds r r' (Function.update r.view b none)) :
    Shaped r' := by
  refine h.drop hh fun c w hw => ?_
  exact (update_none hw).2

/-- What a call does: it keeps the invariant, or returns an error and leaves the resident alone. -/
def Keeps (op : ResidentOp) (r : Resident) : Prop :=
  (∃ r', op.run r = .ok () r' ∧ Shaped r') ∨ ∃ e, op.run r = .error (.error e) r

theorem insertLoadingPlaceholder_keeps (h : Shaped r) (validLen : Nat) (ls : LoadState) :
    Keeps (.insertLoadingPlaceholder b validLen ls) r := by
  by_cases hb : (r.get b).isSome
  · have hval : validateLoadingInsert b validLen r =
        .error (.error (.residentBlockAlreadyExists b)) r := by
      rw [validateLoadingInsert, run_get_bind, if_pos hb, run_throw]
    exact .inr ⟨_, bind_error hval⟩
  by_cases hlen : validLen = 0 ∨ validLen > r.blockSize
  · have hval : validateLoadingInsert b validLen r =
        .error (.error (.invalidValidLength validLen r.blockSize)) r := by
      rw [validateLoadingInsert, run_get_bind, if_neg hb, if_pos hlen, run_throw]
    exact .inr ⟨_, bind_error hval⟩
  by_cases hfull : r.fifo.len = r.fifoCapacity
  · have hval : validateLoadingInsert b validLen r = .ok () r := by
      rw [validateLoadingInsert, run_get_bind, if_neg hb, if_neg hlen, run_pure]
    right
    show ∃ e, insertLoadingPlaceholder b validLen ls false r = _
    rw [insertLoadingPlaceholder, bind_ok hval, run_get_bind, if_pos hfull]
    exact ⟨_, rfl⟩
  · obtain ⟨hpos, hle⟩ := not_or.mp hlen
    have hroom : r.fifo.len < r.fifoCapacity := lt_of_le_of_ne h.twoQueue.fifo_le hfull
    obtain ⟨r', hrun, hh⟩ := insertLoadingPlaceholder_spec h.wf
      (view_eq_none.mpr (Option.not_isSome_iff_eq_none.mp hb)) (Nat.pos_of_ne_zero hpos)
      (not_lt.mp hle) hroom ls
    refine .inl ⟨r', hrun, h.update hh ⟨?_, ?_, ?_, ?_⟩⟩
    · exact fun hne => absurd rfl hne
    · exact fun hne => absurd rfl hne
    · exact fun hs => by cases hs
    · exact fun p hp => absurd hp List.not_mem_nil

theorem finishRemoteLoad_keeps (h : Shaped r) (data : Bytes) :
    Keeps (.finishRemoteLoad b data) r := by
  show (∃ r', finishRemoteLoad b data r = _ ∧ _) ∨ ∃ e, finishRemoteLoad b data r = _
  by_cases hlen : data.length ≠ r.blockSize
  · rw [finishRemoteLoad, run_get_bind, if_pos hlen]
    exact .inr ⟨_, rfl⟩
  cases hb : r.get b with
  | none =>
    rw [finishRemoteLoad, run_get_bind, if_neg hlen, hb]
    exact .inr ⟨_, rfl⟩
  | some e =>
    by_cases hls : e.state.loadState.isLoading = true
    · have hb := view_eq_some.mpr ⟨e, hb, rfl⟩
      have hv := h.views b e.view hb
      obtain ⟨r', hrun, hh⟩ := finishRemoteLoad_spec h.wf hb hls (not_not.mp hlen) hv.fits
      refine .inl ⟨r', hrun, h.update hh ⟨?_, ?_, ?_, ?_⟩⟩
      · exact fun hne => absurd rfl hne
      · exact fun _ => rfl
      · exact fun _ => rfl
      · exact fun p hp => absurd hp List.not_mem_nil
    · rw [finishRemoteLoad, run_get_bind, if_neg hlen, hb]
      simp only [hls, Bool.not_false, if_true]
      exact .inr ⟨_, rfl⟩

theorem abortRemoteLoad_keeps (h : Shaped r) : Keeps (.abortRemoteLoad b) r := by
  show (∃ r', abortRemoteLoad b r = _ ∧ _) ∨ ∃ e, abortRemoteLoad b r = _
  cases hb : r.get b with
  | none =>
    rw [abortRemoteLoad, run_get_bind, hb]
    exact .inr ⟨_, rfl⟩
  | some e =>
    by_cases hls : e.state.loadState.isLoading = true
    · obtain ⟨r', hrun, hh⟩ := abortRemoteLoad_spec h.wf (view_eq_some.mpr ⟨e, hb, rfl⟩) hls
      exact .inl ⟨r', hrun, h.erase hh⟩
    · rw [abortRemoteLoad, run_get_bind, hb]
      simp only [hls, Bool.not_false, if_true]
      exact .inr ⟨_, rfl⟩

/-- A patch that `validate_patch` refuses. -/
theorem validatePatch_error {σ : Type} {s : σ} {range : Range} {dataLen blockLen : Nat}
    (h : ¬ PatchFits range dataLen blockLen) :
    ∃ e, validatePatch range dataLen blockLen s = .error (.error e) s := by
  by_cases hrange : range.1 > range.2 ∨ range.2 > blockLen
  · rw [validatePatch, if_pos hrange]
    exact ⟨_, rfl⟩
  · have hlen : dataLen ≠ range.2 - range.1 := by
      intro hlen
      exact h ⟨by omega, by omega, hlen⟩
    rw [validatePatch, if_neg hrange, if_pos hlen]
    exact ⟨_, rfl⟩

theorem enqueuePendingPatch_keeps (h : Shaped r) (range : Range) (data : Bytes) :
    Keeps (.enqueuePendingPatch b range data) r := by
  show (∃ r', enqueuePendingPatch b range data r = _ ∧ _) ∨
    ∃ e, enqueuePendingPatch b range data r = _
  cases hb : r.get b with
  | none =>
    rw [enqueuePendingPatch, run_get_bind, hb]
    exact .inr ⟨_, rfl⟩
  | some e =>
    by_cases hls : e.state.loadState.isLoading = true
    · by_cases hfit : PatchFits range data.length r.blockSize
      · have hb := view_eq_some.mpr ⟨e, hb, rfl⟩
        have hv := h.views b e.view hb
        obtain ⟨r', hrun, hh⟩ := enqueuePendingPatch_spec h.wf hb hls hfit
        refine .inl ⟨r', hrun, h.update hh ⟨fun _ => hls, hv.dirty, hv.snapshot, ?_⟩⟩
        intro p hp
        rcases List.mem_append.mp hp with hp | hp
        · exact hv.fits p hp
        · obtain rfl := List.mem_singleton.mp hp
          exact hfit
      · rw [← h.wf.data_len hb] at hfit
        obtain ⟨err, herr⟩ := validatePatch_error (s := r) hfit
        rw [enqueuePendingPatch, run_get_bind, hb]
        simp only [hls, Bool.not_true, Bool.false_eq_true, if_false]
        exact .inr ⟨err, bind_error herr⟩
    · rw [enqueuePendingPatch, run_get_bind, hb]
      simp only [hls, Bool.not_false, if_true]
      exact .inr ⟨_, rfl⟩

theorem patchReadyBlock_keeps (h : Shaped r) (range : Range) (data : Bytes) :
    Keeps (.patchReadyBlock b range data) r := by
  show (∃ r', patchReadyBlock b range data r = _ ∧ _) ∨ ∃ e, patchReadyBlock b range data r = _
  cases hb : r.get b with
  | none =>
    rw [patchReadyBlock, run_get_bind, hb]
    exact .inr ⟨_, rfl⟩
  | some e =>
    by_cases hls : e.state.loadState = .ready
    · by_cases hfit : PatchFits range data.length r.blockSize
      · have hb := view_eq_some.mpr ⟨e, hb, rfl⟩
        have hv := h.views b e.view hb
        obtain ⟨r', hrun, hh⟩ := patchReadyBlock_spec h.wf hb hls hfit
        exact .inl ⟨r', hrun, h.update hh ⟨hv.pending, fun _ => hls, hv.snapshot, hv.fits⟩⟩
      · rw [← h.wf.data_len hb] at hfit
        obtain ⟨err, herr⟩ := validatePatch_error (s := r) hfit
        rw [patchReadyBlock, run_get_bind, hb]
        simp only [hls, ne_eq, not_true_eq_false, if_false]
        exact .inr ⟨err, bind_error (bind_error herr)⟩
    · rw [patchReadyBlock, run_get_bind, hb]
      simp only [ne_eq, hls, not_false_eq_true, if_true]
      exact .inr ⟨_, rfl⟩

/-- The three changes of a ready block. -/
theorem updateReady_error {missing notReady : String} {f : BlockState → M BlockState}
    (hnot : ∀ e, r.get b = some e → e.state.loadState ≠ .ready ∨
      ∃ err, f e.state r = .error (.error err) r) :
    ∃ err, updateReady missing notReady b f r = .error (.error err) r := by
  rw [updateReady, run_get_bind]
  cases hb : r.get b with
  | none => exact ⟨_, rfl⟩
  | some e =>
    by_cases hls : e.state.loadState = .ready
    · obtain ⟨err, herr⟩ := (hnot e hb).resolve_left (not_not.mpr hls)
      simp only [hls, ne_eq, not_true_eq_false, if_false]
      exact ⟨err, bind_error herr⟩
    · simp only [ne_eq, hls, not_false_eq_true, if_true]
      exact ⟨_, rfl⟩

theorem markSnapshotWritten_keeps (h : Shaped r) : Keeps (.markSnapshotWritten b) r := by
  by_cases hready : ∃ e, r.get b = some e ∧ e.state.loadState = .ready
  · obtain ⟨e, hb, hls⟩ := hready
    have hv := h.views b e.view (view_eq_some.mpr ⟨e, hb, rfl⟩)
    obtain ⟨r', hrun, hh, -⟩ := markSnapshotWritten_spec h.wf hb hls
    exact .inl ⟨r', hrun, h.update hh ⟨hv.pending, fun hne => absurd rfl hne, fun _ => hls, hv.fits⟩⟩
  · right
    simp only [ResidentOp.run, markSnapshotWritten]
    exact updateReady_error fun e hb => .inl fun hls => hready ⟨e, hb, hls⟩

theorem attachActiveSnapshot_keeps (h : Shaped r) : Keeps (.attachActiveSnapshot b) r := by
  by_cases hready : ∃ e, r.get b = some e ∧ e.state.loadState = .ready
  · obtain ⟨e, hb, hls⟩ := hready
    have hb := view_eq_some.mpr ⟨e, hb, rfl⟩
    have hv := h.views b e.view hb
    obtain ⟨r', hrun, hh⟩ := attachActiveSnapshot_spec h.wf hb hls
    exact .inl ⟨r', hrun, h.update hh ⟨hv.pending, hv.dirty, fun _ => hls, hv.fits⟩⟩
  · right
    simp only [ResidentOp.run, attachActiveSnapshot]
    exact updateReady_error fun e hb => .inl fun hls => hready ⟨e, hb, hls⟩

theorem clearActiveSnapshot_keeps (h : Shaped r) : Keeps (.clearActiveSnapshot b) r := by
  by_cases hready : ∃ e, r.get b = some e ∧ e.state.loadState = .ready ∧
      e.state.activeSnapshot = true
  · obtain ⟨e, hb, hls, hs⟩ := hready
    have hb := view_eq_some.mpr ⟨e, hb, rfl⟩
    have hv := h.views b e.view hb
    obtain ⟨r', hrun, hh⟩ := clearActiveSnapshot_spec h.wf hb hls hs
    exact .inl ⟨r', hrun, h.update hh ⟨hv.pending, hv.dirty, fun hs => (nomatch hs), hv.fits⟩⟩
  · right
    simp only [ResidentOp.run, clearActiveSnapshot]
    refine updateReady_error fun e hb => ?_
    by_cases hls : e.state.loadState = .ready
    · have hs : e.state.activeSnapshot = false :=
        Bool.eq_false_iff.mpr fun hs => hready ⟨e, hb, hls, hs⟩
      right
      simp only [hs, Bool.not_false, if_true]
      exact ⟨_, rfl⟩
    · exact .inl hls

/-- A hit on a block of the resident, and on one that is not there or not ready. -/
theorem recordHit_cases (h : Shaped r) :
    (∃ o r' f, recordHit b r = .ok o r' ∧ Holds r r' f ∧ DropsClean r.view f b) ∨
      ∃ e, recordHit b r = .error (.error e) r := by
  cases hb : r.get b with
  | none =>
    refine .inl ⟨none, r, r.view, ?_, ⟨h.wf, .refl r, rfl⟩, .refl _ _⟩
    rw [recordHit, run_get_bind, hb]
    rfl
  | some e =>
    by_cases hls : e.state.loadState = .ready
    · obtain ⟨t, r', f, hrun, hh, hdrops⟩ :=
        recordHit_spec h.wf (view_eq_some.mpr ⟨e, hb, rfl⟩) hls
      exact .inl ⟨some t, r', f, hrun, hh, hdrops⟩
    · rw [recordHit, run_get_bind, hb]
      simp only [ne_eq, hls, not_false_eq_true, if_true]
      exact .inr ⟨_, rfl⟩

theorem recordHit_keeps (h : Shaped r) : Keeps (.recordHit b) r := by
  rcases recordHit_cases (b := b) h with ⟨o, r', f, hrun, hh, hdrops⟩ | ⟨e, hrun⟩
  · refine .inl ⟨r', bind_ok hrun, h.drop hh fun c w hw => ?_⟩
    rcases hdrops c with hc | ⟨-, hc, -⟩
    · exact hc.symm.trans hw
    · exact nomatch hc.symm.trans hw
  · exact .inr ⟨e, bind_error hrun⟩

/-- **A hit drops clean blocks only.** -/
theorem recordHit_drops (h : Shaped r) {c : Nat} {e : BlockEntry} (hc : r.get c = some e)
    (hdirty : e.isClean = false) : ((r.after (.recordHit b)).get c).isSome := by
  have hv := view_eq_some.mpr ⟨e, hc, rfl⟩
  rcases recordHit_cases (b := b) h with ⟨o, r', f, hrun, hh, hdrops⟩ | ⟨err, hrun⟩
  · have hafter : r.after (.recordHit b) = r' := by
      rw [after, ResidentOp.run, bind_ok hrun]
      rfl
    have hview : r'.view c = some e.view := by
      rw [hh.view]
      rcases hdrops c with hsame | ⟨-, -, w, hw, hclean⟩
      · exact hsame.trans hv
      · obtain rfl := Option.some.inj (hv.symm.trans hw)
        rw [isClean_iff_view.mpr hclean] at hdirty
        cases hdirty
    obtain ⟨e', he', -⟩ := view_eq_some.mp hview
    rw [hafter, he']
    rfl
  · have hafter : r.after (.recordHit b) = r := by
      rw [after, ResidentOp.run, bind_error hrun]
    rw [hafter, hc]
    rfl

theorem evictBlock_keeps (h : Shaped r) : Keeps (.evictBlock b) r := by
  cases hb : r.get b with
  | none =>
    have hrun : evictBlock b r = .ok none r := by
      rw [evictBlock, run_get_bind, hb]
      rfl
    exact .inl ⟨r, bind_ok hrun, h⟩
  | some e =>
    obtain ⟨r', hrun, hh, -⟩ := evictBlock_spec h.wf hb
    exact .inl ⟨r', bind_ok hrun, h.erase hh⟩

/-- **Every method** keeps the invariant, or fails and changes nothing. -/
theorem op_keeps (h : Shaped r) : ∀ op : ResidentOp, Keeps op r
  | .insertLoadingPlaceholder _ validLen ls => insertLoadingPlaceholder_keeps h validLen ls
  | .finishRemoteLoad _ data => finishRemoteLoad_keeps h data
  | .abortRemoteLoad _ => abortRemoteLoad_keeps h
  | .enqueuePendingPatch _ range data => enqueuePendingPatch_keeps h range data
  | .patchReadyBlock _ range data => patchReadyBlock_keeps h range data
  | .markSnapshotWritten _ => markSnapshotWritten_keeps h
  | .attachActiveSnapshot _ => attachActiveSnapshot_keeps h
  | .clearActiveSnapshot _ => clearActiveSnapshot_keeps h
  | .recordHit _ => recordHit_keeps h
  | .evictBlock _ => evictBlock_keeps h

end Methods

/-! ## Runs -/

theorem after_shaped {r : Resident} (h : Shaped r) (op : ResidentOp) : Shaped (r.after op) := by
  rcases op_keeps h op with ⟨r', hrun, h'⟩ | ⟨e, hrun⟩
  · rw [after, hrun]
    exact h'
  · rw [after, hrun]
    exact h

theorem run_shaped (ops : List ResidentOp) {r : Resident} (h : Shaped r) :
    Shaped (ops.foldl after r) := by
  induction ops generalizing r with
  | nil => exact h
  | cons op ops ih => exact ih (after_shaped h op)

theorem new_shaped {fifoCapacity lruCapacity blockSize : Nat} {r : Resident}
    (h : Resident.new fifoCapacity lruCapacity blockSize = .ok r) : Shaped r := by
  unfold Resident.new at h
  split at h
  · cases h
  split at h
  · cases h
  split at h
  · cases h
  obtain rfl := Except.ok.inj h
  have hget : ∀ b, get ⟨blockSize, fifoCapacity, lruCapacity, ∅, {}, {}⟩ b = none := fun b =>
    AList.lookup_empty b
  refine ⟨⟨⟨[], [], ?_⟩, Nat.pos_of_ne_zero ‹_›, Nat.pos_of_ne_zero ‹_›,
    Nat.pos_of_ne_zero ‹_›⟩, ?_⟩
  · refine ⟨IndexedList.repr_empty, IndexedList.repr_empty, by simp, by simp, ?_, ?_, by simp,
      by simp, ?_⟩
    · intro b e n hb
      exact nomatch (hget b).symm.trans hb
    · intro b e n hb
      exact nomatch (hget b).symm.trans hb
    · intro b e hb
      exact nomatch (hget b).symm.trans hb
  · intro b v hv
    obtain ⟨e, he, -⟩ := view_eq_some.mp hv
    exact nomatch (hget b).symm.trans he

/-- **The structure of two queues** holds after any sequence of calls, no call panics, and a hit
never drops a block that is not ready, dirty, snapshotted, or has pending patches. -/
theorem two_queue_kept {fifoCapacity lruCapacity blockSize : Nat} {r₀ : Resident}
    (hnew : Resident.new fifoCapacity lruCapacity blockSize = .ok r₀) (ops : List ResidentOp) :
    (ops.foldl after r₀).TwoQueue ∧
      (∀ op r', ResidentOp.run op (ops.foldl after r₀) ≠ .error .panic r') ∧
      ∀ b c e, (ops.foldl after r₀).get c = some e →
        e.state.loadState ≠ .ready ∨ e.state.dirtyRanges ≠ [] ∨ e.state.activeSnapshot = true ∨
          e.state.pendingPatches ≠ [] →
        (((ops.foldl after r₀).after (.recordHit b)).get c).isSome := by
  have h := run_shaped ops (new_shaped hnew)
  refine ⟨h.twoQueue, ?_, ?_⟩
  · intro op r' hpanic
    rcases op_keeps h op with ⟨_, hrun, -⟩ | ⟨_, hrun⟩
    · exact nomatch hrun.symm.trans hpanic
    · exact nomatch hrun.symm.trans hpanic
  · intro b c e hc hor
    refine recordHit_drops h hc (Bool.eq_false_iff.mpr fun hclean => ?_)
    obtain ⟨hready, hdirty, hsnapshot, hpending⟩ := isClean_iff.mp hclean
    rw [hready, hdirty, hsnapshot, hpending] at hor
    simp at hor

/-- A full LRU with a dirty block, and a hit on the FIFO. -/
theorem two_queue_kept_full : (List.foldl after ⟨8, 2, 1, ∅, {}, {}⟩
    [.insertLoadingPlaceholder 1 8 .loadingRemote, .finishRemoteLoad 1 [1, 1, 1, 1, 1, 1, 1, 1],
      .recordHit 1, .patchReadyBlock 1 (0, 1) [9],
      .insertLoadingPlaceholder 2 8 .loadingRemote, .finishRemoteLoad 2 [2, 2, 2, 2, 2, 2, 2, 2],
      .recordHit 2]).TwoQueue :=
  (@two_queue_kept 2 1 8 _ rfl _).1

end Resident

end YumeDisk.Cache
