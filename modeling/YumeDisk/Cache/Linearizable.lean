import YumeDisk.Cache.Invariant

/-!
# Block reads and block writes are linearizable, and quiescence is durability

`block_calls_linearize`: over every run of a cache that was built, with any number of calls, any
interleaving with the flush worker and any pattern of I/O errors, the calls that returned `Ok` have
an order, consistent with real time, in which every one of them returns what an array of blocks
would.  `quiescent_durable`: whenever the state is quiescent, the right store holds that array.
-/

namespace YumeDisk.Cache

open YumeDisk.Lib

/-- In a legal order, a block read returns the blocks after the operations before it. -/
theorem legal_split {m : Nat → Bytes} {l₁ l₂ : List (Nat × Op × Ret)} {x : Nat × Op × Ret}
    (h : Legal applyOp m (l₁ ++ x :: l₂)) :
    (applyOp (stateAfter applyOp m l₁) x.2.1).2 = x.2.2 := by
  induction l₁ generalizing m with
  | nil => exact h.1
  | cons y l₁ ih => exact ih h.2

section Run

variable {config : CacheConfig} {right : Nat → UInt8} {temp : TempStore} {s₀ s : Sys}
  {as : List Action}

/-- **Linearizability of the block cache.** -/
theorem block_calls_linearize (hb : build config right temp = .ok s₀)
    (hr : runFrom Sys.step s₀ as = some s) :
    ∃ lin, Linearization applyOp (initialBlocks config right) s.hist lin ∧
      ∀ l₁ l₂ i t buffer r, lin = l₁ ++ (i, .read t buffer, r) :: l₂ →
        r = .copied (splice buffer t.bufferOffset
          (slice (stateAfter applyOp (initialBlocks config right) l₁ t.blockIndex)
            t.blockOffset t.validLen)) := by
  obtain ⟨rfl, h⟩ := Sys.run_inv hb hr
  refine ⟨okResponses s.hist, linearization_of_responses h.hist.wf h.legal, ?_⟩
  intro l₁ l₂ i t buffer r hlin
  have hl := h.legal
  rw [hlin] at hl
  exact (legal_split hl).symm

/-- A write to block 0, its spill by a read of block 1, and its flush. -/
def spillAndFlush : List Action :=
  [.writeBlock 0 1 [7] 0, .lock 0 .written, .rightRead 0 true, .finish 0,
    .readBlock 1 2 [0, 0] 0, .workerLock .written, .workerWake true .written, .lock 1 .written,
    .rightRead 1 true, .finish 1, .workerLock .written, .flushRead true, .flushWrite true [],
    .flushRemove true, .flushFinish]

theorem spillAndFlush_linearizes : ∃ s₀ s,
    build ⟨1, 1, 2, 1⟩ UInt8.ofNat (fun _ => none) = .ok s₀ ∧
    runFrom Sys.step s₀ spillAndFlush = some s ∧ s.hist.length = 4 ∧
    ∃ lin, Linearization applyOp (initialBlocks ⟨1, 1, 2, 1⟩ UInt8.ofNat) s.hist lin := by
  obtain ⟨s₀, hb⟩ : ∃ s₀, build ⟨1, 1, 2, 1⟩ UInt8.ofNat (fun _ => none) = .ok s₀ := ⟨_, rfl⟩
  have hrun : ∃ s, runFrom Sys.step s₀ spillAndFlush = some s ∧
      decide (s.hist.length = 4) = true := by
    obtain rfl := Except.ok.inj hb
    exact exists_run _ _ _ _ (by decide +kernel)
  obtain ⟨s, hr, hlen⟩ := hrun
  exact ⟨s₀, s, hb, hr, of_decide_eq_true hlen, (block_calls_linearize hb hr).imp fun _ h => h.1⟩

/-- No temp file backs block `b`: it is not spilled, it has no snapshot, and the only file it may
have is one that was there before the cache. -/
structure NoTempFile (s : Sys) (temp : TempStore) (b : Nat) : Prop where
  not_spilled : s.world.state.spilledDirty.lookup b = none
  no_snapshot : ∀ e, s.world.state.resident.get b = some e → e.state.activeSnapshot = false
  file : s.world.temp b = none ∨ s.world.temp b = temp b

/-- With no spilled block and no block that is not clean, the right store holds every block. -/
theorem Sys.Inv.durable (h : s.Inv right temp) (hkeys : s.world.state.spilledDirty.keys = [])
    (hres : s.world.state.resident.isQuiescent) (b : Nat) :
    readAt s.world.right (b * s.config.blockSizeBytes) s.config.blockSizeBytes =
      s.logical right b ∧ NoTempFile s temp b := by
  have hspilled : s.world.state.spilledDirty.lookup b = none := by
    refine AList.lookup_eq_none.mpr fun hm => ?_
    rw [AList.mem_keys, hkeys] at hm
    cases hm
  have hp := h.world.places b
  cases hv : s.world.view b with
  | none =>
    obtain ⟨hu, hright⟩ := hp.absent_of hv hspilled
    refine ⟨hright, hspilled, fun e he => ?_, hu.temp⟩
    have : s.world.state.resident.get b = none := Resident.view_eq_none.mp hv
    simp [this] at he
  | some v =>
    have hclean : v.Clean := Resident.isQuiescent_iff_view.mp hres b v hv
    obtain ⟨-, hu, hright⟩ := hp.clean_of hv hclean
    refine ⟨hright, hspilled, fun e he => ?_, hu.temp⟩
    have hev : s.world.view b = some e.view := Resident.view_eq_some.mpr ⟨e, he, rfl⟩
    obtain rfl := Option.some.inj (hv.symm.trans hev)
    exact hclean.no_snapshot

/-- **Quiescence means durable.** -/
theorem quiescent_durable (hb : build config right temp = .ok s₀)
    (hr : runFrom Sys.step s₀ as = some s) (hq : s.world.state.isQuiescent) :
    ∃ lin, Linearization applyOp (initialBlocks config right) s.hist lin ∧
      ∀ b, readAt s.world.right (b * config.blockSizeBytes) config.blockSizeBytes =
          stateAfter applyOp (initialBlocks config right) lin b ∧ NoTempFile s temp b := by
  obtain ⟨rfl, h⟩ := Sys.run_inv hb hr
  obtain ⟨-, hkeys, -, -, hres⟩ := CacheState.isQuiescent_iff.mp hq
  exact ⟨okResponses s.hist, linearization_of_responses h.hist.wf h.legal, h.durable hkeys hres⟩

/-- After its flush the run above is quiescent, with the written byte in the right store. -/
theorem spillAndFlush_durable : ∃ s₀ s,
    build ⟨1, 1, 2, 1⟩ UInt8.ofNat (fun _ => none) = .ok s₀ ∧
    runFrom Sys.step s₀ spillAndFlush = some s ∧ readAt s.world.right 0 4 = [0, 7, 2, 3] ∧
    ∃ lin, Linearization applyOp (initialBlocks ⟨1, 1, 2, 1⟩ UInt8.ofNat) s.hist lin ∧
      ∀ b, readAt s.world.right (b * 2) 2 =
        stateAfter applyOp (initialBlocks ⟨1, 1, 2, 1⟩ UInt8.ofNat) lin b ∧
          NoTempFile s (fun _ => none) b := by
  obtain ⟨s₀, hb⟩ : ∃ s₀, build ⟨1, 1, 2, 1⟩ UInt8.ofNat (fun _ => none) = .ok s₀ := ⟨_, rfl⟩
  have hrun : ∃ s, runFrom Sys.step s₀ spillAndFlush = some s ∧
      (s.world.state.isQuiescent && decide (readAt s.world.right 0 4 = [0, 7, 2, 3])) = true := by
    obtain rfl := Except.ok.inj hb
    exact exists_run _ _ _ _ (by decide +kernel)
  obtain ⟨s, hr, hs⟩ := hrun
  obtain ⟨hq, hright⟩ := Bool.and_eq_true_iff.mp hs
  exact ⟨s₀, s, hb, hr, of_decide_eq_true hright, quiescent_durable hb hr hq⟩

end Run

end YumeDisk.Cache
