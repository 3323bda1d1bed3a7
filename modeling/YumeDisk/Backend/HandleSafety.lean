import YumeDisk.Backend.Handles

/-!
# No disk is used after it was destroyed

* `Exclusive`, `Settled`, `Guarded`: removals that succeed, and that no other operation on the disk
  overlaps with.
* `BackendContext.Inv`, `step_inv`: the invariant, and one guarded step.
* `Sound`, `handles_sound`: in a run of guarded steps no destroyed disk is used, and none is left in
  the map with its handle.
* `guarded_of_alone`: one thread meets the condition unless a removal is refused.
* `failedRemoval_not_sound`: a removal that the driver refuses, and a snapshot after it.
-/

namespace YumeDisk.Backend

namespace Remover

/-- The runtimes it has yet to look at. -/
def rest : Remover → List Nat
  | .one _ => []
  | .all _ _ rest _ => rest

/-- The targets it will take out of the map. -/
def removed : Remover → List Nat
  | .one _ => []
  | .all _ _ _ removed => removed

end Remover

def Reader.rest : Reader → List Nat
  | .notify => []
  | .snapshot rest => rest

namespace BackendPc

/-- The runtime whose handle the thread has read, and the handle. -/
def held? : BackendPc → Option (Nat × Nat)
  | .created runtime handle => some (runtime, handle)
  | .held _ _ runtime handle => some (runtime, handle)
  | .stopping _ _ runtime handle => some (runtime, handle)
  | .stopped _ _ runtime handle => some (runtime, handle)
  | .querying _ runtime handle => some (runtime, handle)
  | .notifyCall runtime handle => some (runtime, handle)
  | .notifyEnd runtime handle => some (runtime, handle)
  | _ => none

/-- The runtimes that the thread has got from the map, and whose handle it has yet to read. -/
def pending : BackendPc → List Nat
  | .found _ _ runtime => [runtime]
  | .listed _ rest => rest
  | .next _ _ rest _ => rest
  | .unset _ _ rest _ _ => rest
  | .dropping _ _ rest _ _ => rest
  | .held _ remover _ _ => remover.rest
  | .stopping _ remover _ _ => remover.rest
  | .stopped _ remover _ _ => remover.rest
  | .looking reader runtime => runtime :: reader.rest
  | .querying reader _ _ => reader.rest
  | _ => []

/-- The runtimes of a removal, the one it is at first. -/
def removing : BackendPc → List Nat
  | .listed _ rest => rest
  | .next _ _ rest _ => rest
  | .unset _ _ rest _ _ => rest
  | .dropping _ _ rest _ _ => rest
  | .held _ remover runtime _ => runtime :: remover.rest
  | .stopping _ remover runtime _ => runtime :: remover.rest
  | .stopped _ remover runtime _ => runtime :: remover.rest
  | _ => []

/-- The removal has called AppKernel, and has yet to take the runtime out of the map. -/
def Removes (targetId runtime : Nat) : BackendPc → Prop
  | .clearing _ r => r = runtime
  | .next _ _ _ removed => targetId ∈ removed
  | .unset _ _ _ removed r => r = runtime ∨ targetId ∈ removed
  | .dropping _ _ _ removed r => r = runtime ∨ targetId ∈ removed
  | .held _ remover _ _ => targetId ∈ remover.removed
  | .stopping _ remover _ _ => targetId ∈ remover.removed
  | .stopped _ remover _ _ => targetId ∈ remover.removed
  | .closingSession => True
  | .discarding => True
  | .discard _ => True
  | _ => False

end BackendPc

namespace BackendContext

/-! ## The condition -/

/-- No other operation has the disk in hand: none has read its handle and has yet to return from
AppKernel, and none has got its runtime from the map and has yet to read the handle. -/
def Exclusive (s : BackendContext) (t handle : Nat) : Prop :=
  ∀ t', t' ≠ t →
    (∀ runtime, (s.threads t').held? ≠ some (runtime, handle)) ∧
    ∀ runtime, s.handleOf runtime = some handle → runtime ∉ (s.threads t').pending

/-- No other operation is removing the runtime, if it has a handle. -/
def Settled (s : BackendContext) (t targetId runtime : Nat) : Prop :=
  s.handleOf runtime ≠ none → ∀ t', t' ≠ t → ¬ (s.threads t').Removes targetId runtime

/-- No other operation is removing a runtime of the map. -/
def AllSettled (s : BackendContext) (t : Nat) : Prop :=
  ∀ targetId runtime, s.diskRuntimes[targetId]? = some runtime → s.Settled t targetId runtime

/-- A failure of AppKernel to remove a disk is that of a `close`. -/
def Reported (call : RemoveCall) (remover : Remover) (ok : Bool) : Prop :=
  call = .detach ∨ ok = true ∨ ∃ session rest removed, remover = .all true session rest removed

/-- **The condition on one step**: a disk is destroyed while no other operation has it in hand, and
with success unless by `close`; no runtime is got from the map while it is removed. -/
def Guarded (s : BackendContext) : Action → Prop
  | .start t .snapshot => s.AllSettled t
  | .start _ _ => True
  | .destroy t handle => s.Exclusive t handle
  | .next t ok =>
    match s.threads t with
    | .stopped call remover _ handle => s.Exclusive t handle ∧ Reported call remover ok
    | .finding _ targetId =>
      ∀ runtime, s.diskRuntimes[targetId]? = some runtime → s.Settled t targetId runtime
    | .notifying targetId =>
      ∀ runtime, s.diskRuntimes[targetId]? = some runtime → s.Settled t targetId runtime
    | .listing _ => s.AllSettled t
    | _ => True

/-- What is promised of the handles. -/
structure Sound (s : BackendContext) : Prop where
  /-- No disk was used after it was destroyed. -/
  uses : ∀ use ∈ s.uses, use.life ≠ .destroyed
  /-- A handle that is left in the map is not that of a destroyed disk, unless a removal has yet to
  take it out. -/
  map : ∀ targetId runtime handle, s.diskRuntimes[targetId]? = some runtime →
    s.handleOf runtime = some handle → s.lifeOf handle = .destroyed →
      ∃ t, (s.threads t).Removes targetId runtime

/-! ## The invariant -/

/-- The runtime has the handle of a disk that has been destroyed. -/
def Stale (s : BackendContext) (runtime : Nat) : Prop :=
  ∃ handle, s.handleOf runtime = some handle ∧ s.lifeOf handle = .destroyed

structure Inv (s : BackendContext) : Prop where
  /-- A handle is that of a disk that was created for the runtime. -/
  ctx : ∀ runtime handle, s.handleOf runtime = some handle → s.ctxOf handle = some runtime
  mapped : ∀ targetId runtime, s.diskRuntimes[targetId]? = some runtime →
    runtime < s.runtimes.length ∧ s.targetOf runtime = targetId
  /-- A handle that a thread has read is that of a disk that is there. -/
  held : ∀ t runtime handle, (s.threads t).held? = some (runtime, handle) →
    s.ctxOf handle = some runtime ∧ s.lifeOf handle ≠ .destroyed
  nodup : ∀ t, (s.threads t).removing.Nodup
  /-- A handle that is stale is that of a runtime which is being removed, -/
  leaving : ∀ targetId runtime, s.diskRuntimes[targetId]? = some runtime → s.Stale runtime →
    ∃ t, (s.threads t).Removes targetId runtime
  /-- and which nobody will look at. -/
  unseen : ∀ runtime, s.Stale runtime → ∀ t, runtime ∉ (s.threads t).pending
  uses : ∀ use ∈ s.uses, use.life ≠ .destroyed

variable {s s' : BackendContext} {t : Nat} {old pc : BackendPc}

/-! ## What a section leaves -/

@[simp] theorem threads_setPc_self (s : BackendContext) (t : Nat) (pc : BackendPc) :
    (s.setPc t pc).threads t = pc := Function.update_self ..

theorem threads_setPc_of_ne (s : BackendContext) {t t' : Nat} (ht : t' ≠ t) (pc : BackendPc) :
    (s.setPc t pc).threads t' = s.threads t' := Function.update_of_ne ht ..

theorem targetOf_modify (s : BackendContext) (runtime : Nat) (f : DiskRuntime → DiskRuntime)
    (hf : ∀ r, (f r).targetId = r.targetId) (r : Nat) :
    ({ s with runtimes := s.runtimes.modify runtime f } : BackendContext).targetOf r =
      s.targetOf r := by
  unfold targetOf
  dsimp only
  rw [List.getElem?_modify]
  cases s.runtimes[r]? with
  | none => rfl
  | some x =>
    by_cases hr : runtime = r
    · simp [hr, hf]
    · simp [hr]

theorem handleOf_modify (s : BackendContext) (runtime : Nat) (f : DiskRuntime → DiskRuntime)
    (hf : ∀ r, (f r).handle = r.handle) (r : Nat) :
    ({ s with runtimes := s.runtimes.modify runtime f } : BackendContext).handleOf r =
      s.handleOf r := by
  unfold handleOf
  dsimp only
  rw [List.getElem?_modify]
  cases s.runtimes[r]? with
  | none => rfl
  | some x =>
    by_cases hr : runtime = r
    · simp [hr, hf]
    · simp [hr]

theorem handleOf_setHandle_of_ne {runtime r : Nat} (hr : r ≠ runtime) (handle : Option Nat) :
    (s.setHandle runtime handle).handleOf r = s.handleOf r := by
  unfold handleOf setHandle
  dsimp only
  rw [List.getElem?_modify_ne _ _ (Ne.symm hr)]

theorem handleOf_setHandle_self {runtime : Nat} {handle : Option Nat} {h : Nat}
    (hr : (s.setHandle runtime handle).handleOf runtime = some h) : handle = some h := by
  unfold handleOf setHandle at hr
  dsimp only at hr
  rw [List.getElem?_modify_eq] at hr
  cases hx : s.runtimes[runtime]? with
  | none => rw [hx] at hr; cases hr
  | some x => rw [hx] at hr; exact hr

@[simp] theorem ctxOf_setLife (handle : Nat) (life : DiskLife) (h : Nat) :
    (s.setLife handle life).ctxOf h = s.ctxOf h := by
  unfold ctxOf setLife
  dsimp only
  rw [List.getElem?_modify]
  cases s.disks[h]? with
  | none => rfl
  | some x => by_cases hh : handle = h <;> simp [hh]

theorem lifeOf_setLife_of_ne {handle h : Nat} (hh : h ≠ handle) (life : DiskLife) :
    (s.setLife handle life).lifeOf h = s.lifeOf h := by
  unfold lifeOf setLife
  dsimp only
  rw [List.getElem?_modify_ne _ _ (Ne.symm hh)]

theorem lifeOf_setLife_self {handle : Nat} (hlife : s.lifeOf handle ≠ .destroyed)
    (life : DiskLife) : (s.setLife handle life).lifeOf handle = life := by
  unfold lifeOf setLife at *
  dsimp only
  rw [List.getElem?_modify_eq]
  cases hx : s.disks[handle]? with
  | none => rw [hx] at hlife; exact absurd rfl hlife
  | some x => rfl

theorem getElem?_eraseAll {targetIds : List Nat} {targetId runtime : Nat}
    (h : (s.eraseAll targetIds).diskRuntimes[targetId]? = some runtime) :
    s.diskRuntimes[targetId]? = some runtime ∧ targetId ∉ targetIds := by
  induction targetIds generalizing s with
  | nil => exact ⟨h, List.not_mem_nil⟩
  | cons x xs ih =>
    obtain ⟨hmap, hnot⟩ := ih (s := s.erase x) h
    unfold erase at hmap
    rw [Std.TreeMap.getElem?_erase] at hmap
    split at hmap
    · cases hmap
    · next hne =>
      refine ⟨hmap, ?_⟩
      rw [List.mem_cons]
      rintro (rfl | hmem)
      · exact hne (Nat.compare_eq_eq.mpr rfl)
      · exact hnot hmem

/-- No handle comes up, no disk is destroyed and the map does not grow. -/
structure Shrinks (s s' : BackendContext) : Prop where
  threads : s'.threads = s.threads
  length : s'.runtimes.length = s.runtimes.length
  targets : ∀ runtime, s'.targetOf runtime = s.targetOf runtime
  handles : ∀ runtime handle, s'.handleOf runtime = some handle → s.handleOf runtime = some handle
  ctx : ∀ handle, s'.ctxOf handle = s.ctxOf handle
  life : ∀ handle, s'.lifeOf handle = .destroyed ↔ s.lifeOf handle = .destroyed
  map : ∀ targetId runtime : Nat, s'.diskRuntimes[targetId]? = some runtime →
    s.diskRuntimes[targetId]? = some runtime
  uses : ∀ use ∈ s'.uses, use ∈ s.uses ∨ use.life ≠ .destroyed

theorem Shrinks.refl (s : BackendContext) : Shrinks s s :=
  ⟨rfl, rfl, fun _ => rfl, fun _ _ => id, fun _ => rfl, fun _ => Iff.rfl, fun _ _ => id,
    fun _ => .inl⟩

theorem Shrinks.trans {s'' : BackendContext} (h : Shrinks s s') (h' : Shrinks s' s'') :
    Shrinks s s'' where
  threads := h'.threads.trans h.threads
  length := h'.length.trans h.length
  targets r := (h'.targets r).trans (h.targets r)
  handles r x hx := h.handles r x (h'.handles r x hx)
  ctx x := (h'.ctx x).trans (h.ctx x)
  life x := (h'.life x).trans (h.life x)
  map x r hx := h.map x r (h'.map x r hx)
  uses u hu := (h'.uses u hu).elim (h.uses u) .inr

theorem Shrinks.use {handle : Nat} (h : s.lifeOf handle ≠ .destroyed) : Shrinks s (s.use handle) :=
  { Shrinks.refl s with
    uses := fun u hu => (List.mem_append.mp hu).imp_right fun hu => by
      obtain rfl := List.mem_singleton.mp hu
      exact h }

theorem Shrinks.setLife {handle : Nat} {life : DiskLife} (h : s.lifeOf handle ≠ .destroyed)
    (hlife : life ≠ .destroyed) : Shrinks s (s.setLife handle life) :=
  { Shrinks.refl s with
    ctx := ctxOf_setLife handle life
    life := fun x => by
      by_cases hx : x = handle
      · subst hx
        rw [lifeOf_setLife_self h]
        exact iff_of_false hlife h
      · rw [lifeOf_setLife_of_ne hx] }

theorem Shrinks.clear (s : BackendContext) (runtime : Nat) :
    Shrinks s (s.setHandle runtime none) :=
  { Shrinks.refl s with
    length := List.length_modify ..
    targets := s.targetOf_modify runtime _ fun _ => rfl
    handles := fun r x hx => by
      by_cases hr : r = runtime
      · subst hr
        cases handleOf_setHandle_self hx
      · rwa [handleOf_setHandle_of_ne hr] at hx }

theorem Shrinks.lockRead (s : BackendContext) (runtime : Nat) :
    Shrinks s (s.lockRead runtime) :=
  { Shrinks.refl s with
    length := List.length_modify ..
    targets := s.targetOf_modify runtime _ fun _ => rfl
    handles := fun r _ hx => (s.handleOf_modify runtime
      (fun x => { x with readers := x.readers + 1 }) (fun _ => rfl) r).symm.trans hx }

theorem Shrinks.unlockRead (s : BackendContext) (runtime : Nat) :
    Shrinks s (s.unlockRead runtime) :=
  { Shrinks.refl s with
    length := List.length_modify ..
    targets := s.targetOf_modify runtime _ fun _ => rfl
    handles := fun r _ hx => (s.handleOf_modify runtime
      (fun x => { x with readers := x.readers - 1 }) (fun _ => rfl) r).symm.trans hx }

theorem Shrinks.eraseAll (s : BackendContext) (targetIds : List Nat) :
    Shrinks s (s.eraseAll targetIds) := by
  have hfields : ∀ s : BackendContext, ∀ xs : List Nat, (s.eraseAll xs).threads = s.threads ∧
      (s.eraseAll xs).runtimes = s.runtimes ∧ (s.eraseAll xs).disks = s.disks ∧
        (s.eraseAll xs).uses = s.uses := by
    intro s xs
    induction xs generalizing s with
    | nil => exact ⟨rfl, rfl, rfl, rfl⟩
    | cons x xs ih => exact ih (s.erase x)
  obtain ⟨hthreads, hruntimes, hdisks, huses⟩ := hfields s targetIds
  exact {
    threads := hthreads
    length := by rw [hruntimes]
    targets := fun r => by unfold targetOf; rw [hruntimes]
    handles := fun r x hx => by unfold handleOf at *; rwa [hruntimes] at hx
    ctx := fun x => by unfold ctxOf; rw [hdisks]
    life := fun x => by unfold lifeOf; rw [hdisks]
    map := fun x r hx => (getElem?_eraseAll hx).1
    uses := fun u hu => .inl (huses ▸ hu) }

theorem Shrinks.erase (s : BackendContext) (targetId : Nat) : Shrinks s (s.erase targetId) :=
  .eraseAll s [targetId]

theorem Shrinks.clearMap (s : BackendContext) : Shrinks s s.clearMap :=
  { Shrinks.refl s with
    map := fun x r hx => by
      unfold BackendContext.clearMap at hx
      rw [Std.TreeMap.getElem?_emptyc] at hx
      cases hx }

theorem Shrinks.setSession (s : BackendContext) (session : SessionCell) :
    Shrinks s (s.setSession session) := { Shrinks.refl s with }

theorem Shrinks.stale (h : Shrinks s s') {runtime : Nat} (hs : s'.Stale runtime) :
    s.Stale runtime := by
  obtain ⟨handle, hhandle, hlife⟩ := hs
  exact ⟨handle, h.handles _ _ hhandle, (h.life _).mp hlife⟩

/-! ## The sections -/

/-- **A section that destroys and creates nothing.** -/
theorem Inv.moved (h : Inv s) (hs : Shrinks s s') (hpc : s.threads t = old)
    (hheld : ∀ runtime handle, pc.held? = some (runtime, handle) →
      s.ctxOf handle = some runtime ∧ s.lifeOf handle ≠ .destroyed)
    (hnodup : pc.removing.Nodup)
    (hleaving : ∀ targetId runtime, s'.diskRuntimes[targetId]? = some runtime →
      s'.targetOf runtime = targetId → s'.Stale runtime →
        old.Removes targetId runtime → pc.Removes targetId runtime)
    (hunseen : ∀ runtime ∈ pc.pending, runtime ∈ old.pending ∨ ¬ s.Stale runtime) :
    Inv (s'.setPc t pc) where
  ctx r x hx := (hs.ctx x).trans (h.ctx r x (hs.handles r x hx))
  mapped x r hx := by
    obtain ⟨hlt, htarget⟩ := h.mapped x r (hs.map x r hx)
    exact ⟨hs.length ▸ hlt, (hs.targets r).trans htarget⟩
  held t' r x hx := by
    have hgoal : s.ctxOf x = some r ∧ s.lifeOf x ≠ .destroyed := by
      by_cases ht : t' = t
      · subst ht
        rw [threads_setPc_self] at hx
        exact hheld r x hx
      · rw [threads_setPc_of_ne _ ht, hs.threads] at hx
        exact h.held t' r x hx
    exact ⟨(hs.ctx x).trans hgoal.1, fun hd => hgoal.2 ((hs.life x).mp hd)⟩
  nodup t' := by
    by_cases ht : t' = t
    · subst ht
      rwa [threads_setPc_self]
    · rw [threads_setPc_of_ne _ ht, hs.threads]
      exact h.nodup t'
  leaving x r hx hstale := by
    obtain ⟨t', ht'⟩ := h.leaving x r (hs.map x r hx) (hs.stale hstale)
    refine ⟨t', ?_⟩
    by_cases ht : t' = t
    · subst ht
      rw [threads_setPc_self]
      exact hleaving x r hx ((hs.targets r).trans (h.mapped x r (hs.map x r hx)).2) hstale (hpc ▸ ht')
    · rw [threads_setPc_of_ne _ ht, hs.threads]
      exact ht'
  unseen r hstale t' := by
    by_cases ht : t' = t
    · subst ht
      rw [threads_setPc_self]
      intro hr
      rcases hunseen r hr with hold | hnot
      · exact h.unseen r (hs.stale hstale) t' (hpc ▸ hold)
      · exact hnot (hs.stale hstale)
    · rw [threads_setPc_of_ne _ ht, hs.threads]
      exact h.unseen r (hs.stale hstale) t'
  uses u hu := (hs.uses u hu).elim (h.uses u) id

/-- **A disk is destroyed** that nobody has in hand. -/
theorem Inv.destroy (h : Inv s) {handle : Nat}
    (hheld : ∀ t runtime, (s.threads t).held? ≠ some (runtime, handle))
    (hpending : ∀ runtime, s.handleOf runtime = some handle →
      ∀ t, runtime ∉ (s.threads t).pending)
    (hleaving : ∀ targetId runtime, s.diskRuntimes[targetId]? = some runtime →
      s.handleOf runtime = some handle → ∃ t, (s.threads t).Removes targetId runtime) :
    Inv (s.setLife handle .destroyed) := by
  have hstale : ∀ r, (s.setLife handle .destroyed).Stale r →
      s.Stale r ∨ s.handleOf r = some handle := by
    rintro r ⟨x, hx, hlife⟩
    by_cases hxh : x = handle
    · exact .inr (hxh ▸ hx)
    · rw [lifeOf_setLife_of_ne hxh] at hlife
      exact .inl ⟨x, hx, hlife⟩
  refine { h with ctx := ?_, held := ?_, leaving := ?_, unseen := ?_ }
  · intro r x hx
    rw [ctxOf_setLife]
    exact h.ctx r x hx
  · intro t r x hx
    have hne : x ≠ handle := fun heq => hheld t r (heq ▸ hx)
    rw [ctxOf_setLife, lifeOf_setLife_of_ne hne]
    exact h.held t r x hx
  · intro x r hx hr
    rcases hstale r hr with hr | hr
    · exact h.leaving x r hx hr
    · exact hleaving x r hx hr
  · intro r hr t
    rcases hstale r hr with hr | hr
    · exact h.unseen r hr t
    · exact hpending r hr t

/-- A runtime that nobody else removes has no stale handle. -/
theorem Inv.not_stale (h : Inv s) {targetId runtime : Nat}
    (hmap : s.diskRuntimes[targetId]? = some runtime) (hsettled : s.Settled t targetId runtime)
    (hself : ¬ (s.threads t).Removes targetId runtime) : ¬ s.Stale runtime := by
  intro hstale
  obtain ⟨t', ht'⟩ := h.leaving targetId runtime hmap hstale
  obtain ⟨handle, hhandle, -⟩ := hstale
  by_cases ht : t' = t
  · exact hself (ht ▸ ht')
  · exact hsettled (by rw [hhandle]; exact Option.some_ne_none _) t' ht ht'

theorem mem_snapshotDiskRuntimes {runtime : Nat} (h : runtime ∈ s.snapshotDiskRuntimes) :
    ∃ targetId : Nat, s.diskRuntimes[targetId]? = some runtime := by
  obtain ⟨⟨targetId, r⟩, hmem, rfl⟩ := List.mem_map.mp h
  exact ⟨targetId, Std.TreeMap.mem_toList_iff_getElem?_eq_some.mp hmem⟩

/-- No runtime is in the map twice. -/
theorem Inv.nodup_snapshot (h : Inv s) : s.snapshotDiskRuntimes.Nodup := by
  refine List.Pairwise.map _ ?_
    (List.Pairwise.and_mem.mp (Std.TreeMap.distinct_keys_toList (t := s.diskRuntimes)))
  rintro ⟨x, r⟩ ⟨x', r'⟩ ⟨hx, hx', hne⟩ (rfl : r = r')
  have htarget := (h.mapped x r (Std.TreeMap.mem_toList_iff_getElem?_eq_some.mp hx)).2
  have htarget' := (h.mapped x' r (Std.TreeMap.mem_toList_iff_getElem?_eq_some.mp hx')).2
  exact hne (Nat.compare_eq_eq.mpr (htarget.symm.trans htarget'))

/-! ## One step -/

theorem AllSettled.not_stale (h : Inv s) (hsettled : s.AllSettled t)
    (hself : ∀ targetId runtime, ¬ (s.threads t).Removes targetId runtime) :
    ∀ runtime ∈ s.snapshotDiskRuntimes, ¬ s.Stale runtime := by
  intro r hr
  obtain ⟨x, hx⟩ := mem_snapshotDiskRuntimes hr
  exact h.not_stale hx (hsettled x r hx) (hself x r)

@[simp] theorem pending_nextRead (rest : List Nat) : (nextRead rest).pending = rest := by
  cases rest <;> rfl

@[simp] theorem held?_nextRead (rest : List Nat) : (nextRead rest).held? = none := by
  cases rest <;> rfl

@[simp] theorem removing_nextRead (rest : List Nat) : (nextRead rest).removing = [] := by
  cases rest <;> rfl

/-- The thread goes on to a section that has nothing in hand. -/
theorem Inv.rest (h : Inv s) (hs : Shrinks s s') (hpc : s.threads t = old)
    (hheld : pc.held? = none)
    (hremoving : pc.removing = []) (hpending : pc.pending = [])
    (hleaving : ∀ targetId runtime, s'.diskRuntimes[targetId]? = some runtime →
      s'.Stale runtime → old.Removes targetId runtime → pc.Removes targetId runtime) :
    Inv (s'.setPc t pc) := by
  refine h.moved hs hpc (fun r x hx => ?_) ?_ (fun x r hx _ => hleaving x r hx) fun r hr => ?_
  · rw [hheld] at hx
    cases hx
  · rw [hremoving]
    exact List.nodup_nil
  · rw [hpending] at hr
    cases hr

/-- Where a removal goes on with AppKernel behind it. -/
theorem afterCall_facts (remover : Remover) (runtime : Nat) (ok : Bool) :
    (afterCall remover runtime ok).held? = none ∧
      (afterCall remover runtime ok).pending ⊆ remover.rest ∧
      (afterCall remover runtime ok).removing.Sublist remover.rest ∧
      ∀ targetId r, targetId ∈ remover.removed →
        (afterCall remover runtime ok).Removes targetId r := by
  cases remover with
  | one targetId => cases ok <;> exact ⟨rfl, nofun, List.nil_sublist _, nofun⟩
  | all closing session rest removed =>
    cases ok
    · cases closing
      · exact ⟨rfl, fun _ => id, .refl _, fun _ _ => id⟩
      · exact ⟨rfl, fun _ => id, .refl _, fun _ _ => .inr⟩
    · exact ⟨rfl, fun _ => id, .refl _, fun _ _ => .inr⟩

/-- **AppKernel returns** from a removal. -/
theorem Inv.afterCall (h : Inv s) (hs : Shrinks s s') (hpc : s.threads t = old)
    {remover : Remover} {runtime : Nat} (hremoving : old.removing = [runtime] ++ remover.rest)
    (hpending : old.pending = remover.rest)
    (hremoves : ∀ targetId r, old.Removes targetId r → targetId ∈ remover.removed)
    (ok : Bool) : Inv (s'.setPc t (afterCall remover runtime ok)) := by
  obtain ⟨hheld, hpend, hsub, hrem⟩ := afterCall_facts remover runtime ok
  have hnodup := h.nodup t
  rw [hpc, hremoving] at hnodup
  refine h.moved hs hpc (fun r x hx => ?_) ?_ (fun x r _ _ _ hr => hrem x r (hremoves x r hr))
    fun r hr => .inl ?_
  · rw [hheld] at hx
    cases hx
  · exact hnodup.of_append_right.sublist hsub
  · rw [hpending]
    exact hpend hr

/-- **AppKernel destroys the disk of a removal.** -/
theorem Inv.stopped (h : Inv s) {call : RemoveCall} {remover : Remover} {runtime handle : Nat}
    (hpc : s.threads t = .stopped call remover runtime handle) (hexclusive : s.Exclusive t handle)
    {ok : Bool} (hreported : Reported call remover ok) :
    Inv (((s.use handle).setLife handle .destroyed).setPc t
      (BackendContext.afterCall remover runtime (call == .detach || ok))) := by
  have hheld := h.held t runtime handle (by rw [hpc]; rfl)
  have hnodup := h.nodup t
  rw [hpc] at hnodup
  obtain ⟨hnot, -⟩ := List.nodup_cons.mp hnodup
  have hctx : ∀ r, s.handleOf r = some handle → r = runtime := fun r hr =>
    Option.some.inj ((h.ctx r handle hr).symm.trans hheld.1)
  obtain ⟨hpcHeld, hpcPending, -, -⟩ :=
    afterCall_facts remover runtime (call == .detach || ok)
  have hremoving : (BackendPc.stopped call remover runtime handle).removing =
      [runtime] ++ remover.rest := rfl
  have hinv := h.afterCall (Shrinks.use hheld.2) hpc hremoving rfl (fun _ _ => id)
    (call == .detach || ok)
  refine hinv.destroy (fun t' r => ?_) (fun r hr t' => ?_) fun x r _ hr => ⟨t, ?_⟩
  · by_cases ht : t' = t
    · subst ht
      rw [threads_setPc_self, hpcHeld]
      nofun
    · rw [threads_setPc_of_ne _ ht]
      exact (hexclusive t' ht).1 r
  · by_cases ht : t' = t
    · subst ht
      rw [threads_setPc_self, hctx r hr]
      exact fun hmem => hnot (hpcPending hmem)
    · rw [threads_setPc_of_ne _ ht]
      exact (hexclusive t' ht).2 r hr
  · rw [threads_setPc_self, hctx r hr]
    cases remover with
    | one targetId =>
      rcases hreported with rfl | rfl | ⟨session, rest, removed, hall⟩
      · rfl
      · rw [Bool.or_true]
        rfl
      · cases hall
    | all closing session rest removed =>
      cases hok : call == .detach || ok
      · rcases hreported with rfl | rfl | ⟨session, rest, removed, hall⟩
        · cases hok
        · rw [Bool.or_true] at hok
          cases hok
        · cases hall
          exact .inl rfl
      · exact .inl rfl

/-- A new runtime is put into the map. -/
theorem Inv.insert (h : Inv s) (targetId : Nat) : Inv (s.insert targetId) := by
  have hhandle : ∀ r x, (s.insert targetId).handleOf r = some x → s.handleOf r = some x := by
    intro r x hr
    unfold handleOf BackendContext.insert at hr
    dsimp only at hr
    rw [List.getElem?_append] at hr
    split at hr
    · exact hr
    · cases hidx : r - s.runtimes.length with
      | zero => rw [hidx] at hr; cases hr
      | succ n => rw [hidx] at hr; cases hr
  have hstale : ∀ r, (s.insert targetId).Stale r → s.Stale r := fun r ⟨x, hx, hlife⟩ =>
    ⟨x, hhandle r x hx, hlife⟩
  have hlen : (s.insert targetId).runtimes.length = s.runtimes.length + 1 := List.length_append
  have hmap : ∀ x r : Nat, (s.insert targetId).diskRuntimes[x]? = some r →
      x = targetId ∧ r = s.runtimes.length ∨ s.diskRuntimes[x]? = some r := by
    intro x r hx
    unfold BackendContext.insert at hx
    dsimp only at hx
    rw [Std.TreeMap.getElem?_insert] at hx
    split at hx
    · next heq => exact .inl ⟨(Nat.compare_eq_eq.mp heq).symm, (Option.some.inj hx).symm⟩
    · exact .inr hx
  refine { h with
    ctx := fun r x hr => h.ctx r x (hhandle r x hr)
    mapped := fun x r hx => ?_
    leaving := fun x r hx hr => ?_
    unseen := fun r hr => h.unseen r (hstale r hr) }
  · rcases hmap x r hx with ⟨rfl, rfl⟩ | hx
    · refine ⟨by omega, ?_⟩
      unfold targetOf BackendContext.insert
      dsimp only
      rw [List.getElem?_append_right (Nat.le_refl _), Nat.sub_self]
      rfl
    · obtain ⟨hlt, ht⟩ := h.mapped x r hx
      refine ⟨by omega, ?_⟩
      unfold targetOf BackendContext.insert at *
      dsimp only
      rw [List.getElem?_append_left hlt, ht]
  · rcases hmap x r hx with ⟨rfl, rfl⟩ | hx
    · -- the new runtime has no handle
      obtain ⟨y, hy, -⟩ := hstale _ hr
      unfold handleOf at hy
      rw [List.getElem?_eq_none (Nat.le_refl _)] at hy
      cases hy
    · exact h.leaving x r hx (hstale r hr)

/-- `AkCreateDisk` succeeds. -/
theorem Inv.create (h : Inv s) (runtime : Nat) : Inv (s.create runtime) ∧
    (s.create runtime).ctxOf s.disks.length = some runtime ∧
      (s.create runtime).lifeOf s.disks.length ≠ .destroyed := by
  have hlt : ∀ x r, s.ctxOf x = some r → x < s.disks.length := by
    intro x r hx
    unfold ctxOf at hx
    by_contra hge
    rw [List.getElem?_eq_none (by omega)] at hx
    cases hx
  have hctx : ∀ x, x < s.disks.length → (s.create runtime).ctxOf x = s.ctxOf x := by
    intro x hx
    unfold ctxOf BackendContext.create
    dsimp only
    rw [List.getElem?_append_left hx]
  have hlife : ∀ x, x < s.disks.length → (s.create runtime).lifeOf x = s.lifeOf x := by
    intro x hx
    unfold lifeOf BackendContext.create
    dsimp only
    rw [List.getElem?_append_left hx]
  have hstale : ∀ r, (s.create runtime).Stale r → s.Stale r := by
    rintro r ⟨x, hx, hd⟩
    exact ⟨x, hx, (hlife x (hlt x r (h.ctx r x hx))).symm.trans hd⟩
  refine ⟨{ h with
    ctx := fun r x hr => (hctx x (hlt x r (h.ctx r x hr))).trans (h.ctx r x hr)
    held := fun t r x hx => ?_
    leaving := fun x r hx hr => h.leaving x r hx (hstale r hr)
    unseen := fun r hr => h.unseen r (hstale r hr) }, ?_, ?_⟩
  · obtain ⟨hc, hd⟩ := h.held t r x hx
    have hx' := hlt x r hc
    exact ⟨(hctx x hx').trans hc, fun he => hd ((hlife x hx').symm.trans he)⟩
  · unfold ctxOf BackendContext.create
    dsimp only
    rw [List.getElem?_append_right (Nat.le_refl _), Nat.sub_self]
    rfl
  · unfold lifeOf BackendContext.create
    dsimp only
    rw [List.getElem?_append_right (Nat.le_refl _), Nat.sub_self]
    nofun

/-- The handle of a disk is put into its runtime. -/
theorem Inv.store (h : Inv s) {runtime handle : Nat} (hctx : s.ctxOf handle = some runtime)
    (hlife : s.lifeOf handle ≠ .destroyed) : Inv (s.setHandle runtime handle) := by
  have hhandle : ∀ r x, (s.setHandle runtime handle).handleOf r = some x →
      r = runtime ∧ x = handle ∨ s.handleOf r = some x := by
    intro r x hx
    by_cases hr : r = runtime
    · subst hr
      exact .inl ⟨rfl, (Option.some.inj (handleOf_setHandle_self hx)).symm⟩
    · rw [handleOf_setHandle_of_ne hr] at hx
      exact .inr hx
  have hstale : ∀ r, (s.setHandle runtime handle).Stale r → s.Stale r := by
    rintro r ⟨x, hx, hd⟩
    rcases hhandle r x hx with ⟨rfl, rfl⟩ | hx
    · exact absurd hd hlife
    · exact ⟨x, hx, hd⟩
  refine { h with
    ctx := fun r x hr => ?_
    mapped := fun x r hx => ?_
    leaving := fun x r hx hr => h.leaving x r hx (hstale r hr)
    unseen := fun r hr => h.unseen r (hstale r hr) }
  · rcases hhandle r x hr with ⟨rfl, rfl⟩ | hr
    · exact hctx
    · exact h.ctx r x hr
  · obtain ⟨hlt, ht⟩ := h.mapped x r hx
    refine ⟨(List.length_modify ..).symm ▸ hlt, ?_⟩
    exact (s.targetOf_modify runtime (fun x => { x with handle := handle }) (fun _ => rfl) r).trans ht

/-- **One section** of an operation. -/
theorem advance_inv {ok : Bool} (h : Inv s) (hguard : s.Guarded (.next t ok))
    (hs : s.advance t ok = some s') : Inv s' := by
  have hheld := h.held t
  have hnodup := h.nodup t
  unfold Guarded at hguard
  dsimp only at hguard
  unfold advance at hs
  cases hpc : s.threads t <;> rw [hpc] at hs hguard hheld hnodup <;> dsimp only at hs hguard
  case idle => cases hs
  case creating targetId =>
    split at hs
    · cases hs
      split <;> exact h.rest (.refl s) hpc rfl rfl rfl fun _ _ _ _ => id
    · split at hs <;> cases hs <;>
        exact h.rest (.refl s) hpc rfl rfl rfl fun _ _ _ _ => id
  case absent targetId =>
    cases hs
    exact (h.insert targetId).rest (.refl _) hpc rfl rfl rfl fun _ _ _ _ => id
  case inserted targetId runtime =>
    split at hs <;> cases hs
    · obtain ⟨hinv, hctx, hlife⟩ := h.create runtime
      refine hinv.moved (.refl _) hpc (fun r x hx => ?_) List.nodup_nil (fun _ _ _ _ _ => id) nofun
      cases hx
      exact ⟨hctx, hlife⟩
    · exact h.rest (.refl s) hpc rfl rfl rfl fun _ _ _ _ => id
  case created runtime handle =>
    split at hs <;> cases hs
    obtain ⟨hctx, hlife⟩ := hheld runtime handle rfl
    exact (h.store hctx hlife).rest (.refl _) hpc rfl rfl rfl fun _ _ _ _ => id
  case createFailed targetId =>
    cases hs
    exact h.rest (.erase s targetId) hpc rfl rfl rfl fun _ _ _ _ => id
  case finding call targetId =>
    split at hs <;> cases hs
    · exact h.rest (.refl s) hpc rfl rfl rfl fun _ _ _ _ => id
    · next runtime hmap =>
      refine h.moved (.refl s) hpc nofun List.nodup_nil (fun _ _ _ _ _ => id) fun r hr => .inr ?_
      obtain rfl := List.mem_singleton.mp hr
      exact h.not_stale hmap (hguard r hmap) (by rw [hpc]; exact id)
  case found call targetId runtime =>
    have hlive := fun hstale => h.unseen runtime hstale t (by rw [hpc]; exact .head _)
    split at hs <;> cases hs
    · exact h.rest (.refl s) hpc rfl rfl rfl nofun
    · next handle hhandle =>
      refine h.moved (.refl s) hpc (fun r x hx => ?_) (List.nodup_singleton _) (fun _ _ _ _ _ => nofun)
        nofun
      cases hx
      exact ⟨h.ctx runtime handle hhandle, fun hd => hlive ⟨handle, hhandle, hd⟩⟩
  case clearing targetId runtime =>
    split at hs <;> cases hs
    refine h.rest (.clear s runtime) hpc rfl rfl rfl fun x r _ hstale hr => ?_
    obtain rfl : runtime = r := hr
    obtain ⟨y, hy, -⟩ := hstale
    cases handleOf_setHandle_self hy
  case erasing targetId =>
    cases hs
    exact h.rest (.erase s targetId) hpc rfl rfl rfl fun _ _ _ _ => id
  case listing closing =>
    cases hs
    refine h.moved (.refl s) hpc nofun h.nodup_snapshot (fun _ _ _ _ _ => nofun) fun r hr => .inr ?_
    exact hguard.not_stale h (by rw [hpc]; exact fun _ _ => id) r hr
  case listed closing rest =>
    split at hs <;> cases hs
    exact h.moved (.refl s) hpc nofun hnodup (fun _ _ _ _ _ => nofun) fun r => .inl
  case next closing session rest removed =>
    cases rest with
    | nil =>
      dsimp only at hs
      cases hs
      refine h.rest (.eraseAll s removed) hpc ?_ ?_ ?_ fun x r hx _ hr => ?_
      · split <;> rfl
      · split <;> rfl
      · split <;> rfl
      · exact absurd hr (getElem?_eraseAll hx).2
    | cons runtime rest =>
      dsimp only at hs
      have hlive := fun hstale => h.unseen runtime hstale t (by rw [hpc]; exact .head _)
      split at hs <;> cases hs
      · next handle hhandle =>
        refine h.moved (.refl s) hpc (fun r x hx => ?_) hnodup (fun _ _ _ _ _ => id)
          fun r hr => .inl (.tail _ hr)
        cases hx
        exact ⟨h.ctx runtime handle hhandle, fun hd => hlive ⟨handle, hhandle, hd⟩⟩
      · exact h.moved (.refl s) hpc nofun (List.nodup_cons.mp hnodup).2 (fun _ _ _ _ _ => .inr)
          fun r hr => .inl (.tail _ hr)
  case unset closing session rest removed runtime =>
    split at hs <;> cases hs
    exact h.moved (.clear s runtime) hpc nofun hnodup (fun _ _ _ _ _ => id) fun r => .inl
  case dropping closing session rest removed runtime =>
    split at hs <;> cases hs
    refine h.moved (.refl s) hpc nofun hnodup (fun x r _ htarget _ hr => ?_) fun r => .inl
    rcases hr with rfl | hr
    · exact List.mem_append_right _ (List.mem_singleton.mpr htarget.symm)
    · exact List.mem_append_left _ hr
  case held call remover runtime handle =>
    obtain ⟨hctx, hlife⟩ := hheld runtime handle rfl
    split at hs <;> cases hs
    · exact h.afterCall (.use hlife) hpc rfl rfl (fun _ _ => id) true
    · refine h.moved (Shrinks.use hlife |>.trans (.setLife hlife nofun)) hpc (fun r x hx => ?_) hnodup
        (fun _ _ _ _ _ => id) fun r => .inl
      cases hx
      exact ⟨hctx, hlife⟩
  case stopping call remover runtime handle =>
    obtain ⟨hctx, hlife⟩ := hheld runtime handle rfl
    cases hs
    rw [if_neg hlife]
    refine h.moved (Shrinks.use hlife |>.trans (.setLife hlife nofun)) hpc (fun r x hx => ?_) hnodup
      (fun _ _ _ _ _ => id) fun r => .inl
    cases hx
    exact ⟨hctx, hlife⟩
  case stopped call remover runtime handle =>
    cases hs
    exact h.stopped hpc hguard.1 hguard.2
  case notifying targetId =>
    split at hs <;> cases hs
    · exact h.rest (.refl s) hpc rfl rfl rfl fun _ _ _ _ => id
    · next runtime hmap =>
      refine h.moved (.refl s) hpc nofun List.nodup_nil (fun _ _ _ _ _ => id) fun r hr => .inr ?_
      obtain rfl := List.mem_singleton.mp hr
      exact h.not_stale hmap (hguard r hmap) (by rw [hpc]; exact id)
  case looking reader runtime =>
    have hlive := fun hstale => h.unseen runtime hstale t (by rw [hpc]; exact .head _)
    split at hs <;> cases hs
    · next handle hhandle =>
      refine h.moved (.lockRead s runtime) hpc (fun r x hx => ?_) List.nodup_nil
        (fun _ _ _ _ _ => id) fun r hr => .inl (.tail _ hr)
      cases hx
      exact ⟨h.ctx runtime handle hhandle, fun hd => hlive ⟨handle, hhandle, hd⟩⟩
    · exact h.rest (.refl s) hpc rfl rfl rfl fun _ _ _ _ => id
    · next rest _ =>
      refine h.moved (.refl s) hpc ?_ ?_ (fun _ _ _ _ _ => nofun) fun r hr => .inl (.tail _ ?_)
      · rw [held?_nextRead]
        nofun
      · rw [removing_nextRead]
        exact List.nodup_nil
      · rwa [pending_nextRead] at hr
  case querying reader runtime handle =>
    obtain ⟨hctx, hlife⟩ := hheld runtime handle rfl
    have hshrinks := (Shrinks.use hlife).trans (.unlockRead (s.use handle) runtime)
    cases reader with
    | notify =>
      dsimp only at hs
      split at hs <;> cases hs
      · refine h.moved (.use hlife) hpc (fun r x hx => ?_) List.nodup_nil (fun _ _ _ _ _ => id) nofun
        cases hx
        exact ⟨hctx, hlife⟩
      · exact h.rest hshrinks hpc rfl rfl rfl fun _ _ _ _ => id
    | snapshot rest =>
      dsimp only at hs
      cases hs
      refine h.moved hshrinks hpc ?_ ?_ (fun _ _ _ _ _ => nofun) fun r hr => .inl ?_
      · rw [held?_nextRead]
        nofun
      · rw [removing_nextRead]
        exact List.nodup_nil
      · rwa [pending_nextRead] at hr
  case notifyCall runtime handle =>
    obtain ⟨hctx, hlife⟩ := hheld runtime handle rfl
    cases hs
    refine h.moved (.use hlife) hpc (fun r x hx => ?_) List.nodup_nil (fun _ _ _ _ _ => id) nofun
    cases hx
    exact ⟨hctx, hlife⟩
  case notifyEnd runtime handle =>
    obtain ⟨-, hlife⟩ := hheld runtime handle rfl
    cases hs
    exact h.rest ((Shrinks.use hlife).trans (.unlockRead _ runtime)) hpc rfl rfl rfl
      fun _ _ _ _ => id
  case joined =>
    split at hs
    · cases hs
    · split at hs <;> cases hs
      · exact h.rest (.setSession s _) hpc rfl rfl rfl fun _ _ _ _ => nofun
      · exact h.rest (.refl s) hpc rfl rfl rfl fun _ _ _ _ => nofun
  case closingSession =>
    split at hs <;> cases hs
    exact h.rest (.setSession s _) hpc rfl rfl rfl fun _ _ _ _ => id
  case discarding =>
    cases hs
    exact h.rest (.refl s) hpc rfl rfl rfl fun _ _ _ _ => id
  case discard rest =>
    cases rest with
    | nil =>
      dsimp only at hs
      cases hs
      refine h.rest (.clearMap s) hpc rfl rfl rfl fun x r hx => ?_
      unfold clearMap at hx
      rw [Std.TreeMap.getElem?_emptyc] at hx
      cases hx
    | cons runtime rest =>
      dsimp only at hs
      split at hs <;> cases hs
      exact h.rest (.clear s runtime) hpc rfl rfl rfl fun _ _ _ _ => id

/-- **One guarded step.** -/
theorem step_inv {a : Action} (h : Inv s) (hguard : s.Guarded a) (hs : s.step a = some s') :
    Inv s' := by
  cases a with
  | start t op =>
    simp only [step] at hs
    split at hs
    · next hpc =>
      have hrest : ∀ pc : BackendPc, pc.held? = none → pc.removing = [] → pc.pending = [] →
          Inv (s.setPc t pc) := fun pc hheld hremoving hpending =>
        h.rest (.refl s) hpc hheld hremoving hpending fun _ _ _ _ hr => hr.elim
      cases op with
      | snapshot =>
        cases hs
        refine h.moved (.refl s) hpc ?_ ?_ (fun _ _ _ _ _ hr => hr.elim) fun r hr => .inr ?_
        · rw [held?_nextRead]
          nofun
        · rw [removing_nextRead]
          exact List.nodup_nil
        · rw [pending_nextRead] at hr
          exact AllSettled.not_stale h hguard (by rw [hpc]; exact fun _ _ => id) r hr
      | removeAll => cases hs; exact hrest _ rfl rfl rfl
      | close => cases hs; exact hrest _ rfl rfl rfl
      | create targetId =>
        simp only [start] at hs
        split at hs <;> cases hs
        split <;> exact hrest _ rfl rfl rfl
      | remove call targetId =>
        simp only [start] at hs
        split at hs <;> cases hs
        split <;> exact hrest _ rfl rfl rfl
      | notify targetId =>
        simp only [start] at hs
        split at hs <;> cases hs
        split <;> exact hrest _ rfl rfl rfl
    · cases hs
  | next t ok => exact advance_inv h hguard hs
  | destroy t handle =>
    simp only [step] at hs
    split at hs
    · next hcond =>
      obtain ⟨hpc, -⟩ := hcond
      cases hs
      refine h.destroy (fun t' r => ?_) (fun r hr t' => ?_) fun x r _ _ => ⟨t, by rw [hpc]; trivial⟩
      · by_cases ht : t' = t
        · subst ht
          rw [hpc]
          nofun
        · exact (hguard t' ht).1 r
      · by_cases ht : t' = t
        · subst ht
          rw [hpc]
          exact List.not_mem_nil
        · exact (hguard t' ht).2 r hr
    · cases hs

theorem inv_init : Inv {} where
  ctx := nofun
  mapped x r hx := by
    rw [Std.TreeMap.getElem?_emptyc] at hx
    cases hx
  held := nofun
  nodup _ := List.nodup_nil
  leaving x r hx := by
    rw [Std.TreeMap.getElem?_emptyc] at hx
    cases hx
  unseen := fun r ⟨_, hx, _⟩ => nomatch hx
  uses := nofun

theorem Inv.sound (h : Inv s) : Sound s where
  uses := h.uses
  map x r handle hx hr hlife := h.leaving x r hx ⟨handle, hr, hlife⟩

/-- **No destroyed disk is used**, and none is left in the map with its handle, in every run whose
steps meet the condition. -/
theorem handles_sound {as : List Action} (hrun : Lib.runFrom step {} as = some s)
    (hguard : Lib.StepsMeet step Guarded {} as) : Sound s :=
  (Lib.run_inv_of_guard (fun _ _ _ => step_inv) as _ _ inv_init hguard hrun).sound

/-! ## One thread -/

/-- The thread that acts. -/
def Action.thread : Action → Nat
  | .start t _ => t
  | .next t _ => t
  | .destroy t _ => t

theorem advance_threads {ok : Bool} {t' : Nat} (hs : s.advance t ok = some s') (ht : t' ≠ t) :
    s'.threads t' = s.threads t' := by
  have herase := fun removed => congrFun (Shrinks.eraseAll s removed).threads t'
  unfold advance at hs
  cases hpc : s.threads t <;> rw [hpc] at hs <;> dsimp only at hs
  all_goals repeat' split at hs
  all_goals cases hs
  all_goals rw [threads_setPc_of_ne _ ht]
  all_goals first
    | rfl
    | exact herase _

theorem step_threads {a : Action} {t' : Nat} (hs : s.step a = some s') (ht : t' ≠ a.thread) :
    s'.threads t' = s.threads t' := by
  cases a with
  | start t op =>
    simp only [step] at hs
    split at hs
    · cases op <;> simp only [start] at hs
      all_goals repeat' split at hs
      all_goals cases hs
      all_goals exact threads_setPc_of_ne _ ht _
    · cases hs
  | next t ok => exact advance_threads hs ht
  | destroy t handle =>
    simp only [step] at hs
    split at hs <;> cases hs
    rfl

/-- **Nothing overlaps** where one thread does everything, and no removal is refused. -/
theorem guarded_of_alone {as : List Action} (hthread : ∀ a ∈ as, a.thread = t)
    (hok : ∀ t ok, Action.next t ok ∈ as → ok = true) :
    ∀ s : BackendContext, (∀ t' ≠ t, s.threads t' = .idle) → Lib.StepsMeet step Guarded s as := by
  induction as with
  | nil => exact fun _ _ => trivial
  | cons a as ih =>
    intro s halone
    obtain rfl := hthread a List.mem_cons_self
    refine ⟨?_, fun s' hs => ?_⟩
    · have hexclusive : ∀ handle, s.Exclusive a.thread handle := by
        intro handle t' ht
        rw [halone t' ht]
        exact ⟨nofun, fun _ _ => List.not_mem_nil⟩
      have hsettled : ∀ targetId runtime, s.Settled a.thread targetId runtime := by
        intro targetId runtime _ t' ht
        rw [halone t' ht]
        exact id
      cases a with
      | start t op =>
        cases op with
        | snapshot => exact fun targetId runtime _ => hsettled targetId runtime
        | _ => trivial
      | next t ok =>
        unfold Guarded
        dsimp only
        split
        · exact ⟨hexclusive _, .inr (.inl (hok t ok List.mem_cons_self))⟩
        · exact fun runtime _ => hsettled _ runtime
        · exact fun runtime _ => hsettled _ runtime
        · exact fun targetId runtime _ => hsettled targetId runtime
        · trivial
      | destroy t handle => exact hexclusive handle
    · refine ih (fun b hb => hthread b (List.mem_cons_of_mem _ hb))
        (fun t ok hb => hok t ok (List.mem_cons_of_mem _ hb)) s' fun t' ht => ?_
      rw [step_threads hs ht]
      exact halone t' ht

/-! ## The runs -/

/-- A disk is created on target 0, notified of and removed, and the context is closed. -/
def orderlyRun : List Action :=
  [.start 0 (.create 0), .next 0 true, .next 0 true, .next 0 true, .next 0 true,
    .start 0 (.notify 0), .next 0 true, .next 0 true, .next 0 true, .next 0 true, .next 0 true,
    .start 0 (.remove .remove 0), .next 0 true, .next 0 true, .next 0 true, .next 0 true,
    .next 0 true, .next 0 true, .next 0 true,
    .start 0 .close, .next 0 true, .next 0 true, .next 0 true, .next 0 true, .next 0 true,
    .next 0 true, .next 0 true]

theorem orderlyRun_sound : ∃ s, Lib.runFrom step {} orderlyRun = some s ∧
    s.uses.length = 6 ∧ s.session.opened = false ∧ Sound s := by
  obtain ⟨s, hrun, hs⟩ := Lib.exists_run step {} orderlyRun
    (fun s => s.uses.length == 6 && s.session.opened == false) (by decide)
  simp only [Bool.and_eq_true, beq_iff_eq] at hs
  have hthread : ∀ a ∈ orderlyRun, a.thread = 0 := by decide
  have hok : ∀ t ok, Action.next t ok ∈ orderlyRun → ok = true := fun t ok hmem => by
    have hmem' : t = 0 ∧ ok = true := by simpa [orderlyRun] using hmem
    exact hmem'.2
  have hguard := guarded_of_alone hthread hok {} fun _ _ => rfl
  exact ⟨s, hrun, hs.1, hs.2, handles_sound hrun hguard⟩

/-- A disk is created on target 0; the driver refuses to remove it, and a snapshot is taken. -/
def failedRemovalRun : List Action :=
  [.start 0 (.create 0), .next 0 true, .next 0 true, .next 0 true, .next 0 true,
    .start 0 (.remove .remove 0), .next 0 true, .next 0 true, .next 0 true, .next 0 true,
    .next 0 false, .start 0 .snapshot, .next 0 true, .next 0 true]

/-- **A removal that fails leaves the handle of the disk it has destroyed**, and a snapshot uses
it. -/
theorem failedRemoval_not_sound : ∃ s, Lib.runFrom step {} failedRemovalRun = some s ∧
    (∃ use ∈ s.uses, use.life = .destroyed) ∧ s.diskRuntimes[0]? = some 0 ∧
      s.handleOf 0 = some 0 ∧ s.lifeOf 0 = .destroyed ∧ s.threads 0 = .idle ∧ ¬ Sound s := by
  obtain ⟨s, hrun, hs⟩ := Lib.exists_run step {} failedRemovalRun (fun s =>
    s.uses.any (·.life = .destroyed) && s.diskRuntimes[0]? == some 0 && s.handleOf 0 == some 0 &&
      s.lifeOf 0 == .destroyed && s.threads 0 == .idle) (by decide)
  simp only [Bool.and_eq_true, beq_iff_eq, List.any_eq_true, decide_eq_true_eq] at hs
  obtain ⟨⟨⟨⟨⟨use, hmem, hlife⟩, hmap⟩, hhandle⟩, hdead⟩, hidle⟩ := hs
  exact ⟨s, hrun, ⟨use, hmem, hlife⟩, hmap, hhandle, hdead, hidle,
    fun h => h.uses use hmem hlife⟩

end BackendContext

end YumeDisk.Backend
