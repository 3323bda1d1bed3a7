import YumeDisk.Lib.Run
import YumeDisk.Miniport.Places

/-!
# Every SRB is completed exactly once

* `ExactlyOnce`: what is promised of the SRBs that were accepted.
* `Attended`: the exact condition on a step under which the promise is kept.
* `Inv`, `step_inv`, `not_exactlyOnce_of_unattended`: one step, with and without the condition.
* `attended_iff_exactlyOnce`: runs.
-/

namespace YumeDisk.Miniport

namespace Device

/-- A target that has been removed has nothing on its lists. -/
def Drained (d : Device) : Prop :=
  ∀ slotType target, ¬ d.attended slotType target → d.held (.queue slotType target) = []

/-- **Exactly once**: no SRB is completed twice, or completed while it is still held; each one that
was accepted is completed or held at exactly one place; and the lists of a removed target are
empty. -/
structure ExactlyOnce (d : Device) : Prop where
  once : Lib.Partition d.held
  accepted : ∀ srb, srb < d.nextSrb ↔ ∃ p, srb ∈ d.held p
  drained : d.Drained

/-- The condition on a step. -/
def Attended (d : Device) : Action → Prop
  | .run th => ∀ task ∈ d.tasks th, d.taskAttended task
  | _ => True

instance (d : Device) (a : Action) : Decidable (d.Attended a) := by
  cases a with
  | run th => exact inferInstanceAs (Decidable (∀ task ∈ d.tasks th, d.taskAttended task))
  | _ => exact isTrue trivial

open QueueState

variable {d d' : Device}

/-! ## One step -/

/-- The promise, with what a step needs to keep it. -/
structure Inv (d : Device) : Prop extends ExactlyOnce d where
  fresh : ∀ th, d.nextTask ≤ th → d.tasks th = none
  pending : ∀ th srb, d.tasks th = some (.checkPending srb) →
    d.srbPending srb = true ∨ srb ∈ d.held .completed

theorem Inv.lt_nextTask (h : Inv d) {th : Nat} {task : Task} (hth : d.tasks th = some task) :
    th < d.nextTask := by
  by_contra hle
  rw [h.fresh th (Nat.le_of_not_lt hle)] at hth
  cases hth

/-- A thread is put at `task`; it is a thread of `d`, or a new one. -/
def put (d : Device) (th : Nat) (task : Option Task) (nextTask : Nat) : Device :=
  { d.setTask th task with nextTask }

theorem attended_put {d₁ : Device} {th n : Nat} {task : Option Task} {slotType : SlotType} {t : Nat}
    (hf : Frame d d₁) (hn : d.nextTask ≤ n) (hth : th < n)
    (hpresent : (d.disk t).present = true → (d₁.disk t).present = true ∨
      task.any (Task.toSweep slotType t) = true)
    (hsweep : (d.tasks th).any (Task.toSweep slotType t) = true →
      task.any (Task.toSweep slotType t) = true ∨ d₁.held (.queue slotType t) = [])
    (h : d.attended slotType t) :
    (d₁.put th task n).attended slotType t ∨ d₁.held (.queue slotType t) = [] := by
  have hat : task.any (Task.toSweep slotType t) = true → (d₁.put th task n).attended slotType t := by
    intro htask
    refine .inr ⟨th, hth, ?_⟩
    simpa [put, setTask] using htask
  rcases h with h | ⟨th', hth', h⟩
  · rcases hpresent h with h | h
    · exact .inl (.inl h)
    · exact .inl (hat h)
  · by_cases he : th' = th
    · subst he
      exact (hsweep h).imp hat id
    · refine .inl (.inr ⟨th', Nat.lt_of_lt_of_le hth' hn, ?_⟩)
      simpa [put, setTask, Function.update_of_ne he, hf.tasks] using h

/-- **A section keeps the promise.** -/
theorem Inv.put {d₁ : Device} {th n : Nat} {task : Option Task} (h : Inv d)
    (hex : Exchanges d (d.held (.task th)) d₁ (taskSrbs task)) (hf : Frame d d₁)
    (hn : d.nextTask ≤ n) (hth : th < n)
    (hcheck : ∀ srb, task = some (.checkPending srb) → d₁.srbPending srb = true)
    (hatt : ∀ slotType t, d.attended slotType t →
      (d₁.put th task n).attended slotType t ∨ d₁.held (.queue slotType t) = []) :
    Inv (d₁.put th task n) := by
  have hmoves : Lib.Moves d.held (d₁.put th task n).held := hex.moves
  refine ⟨⟨h.once.moves hmoves, fun srb => ?_, fun slotType t hnot => ?_⟩, fun th' hle => ?_,
    fun th' srb hth' => ?_⟩
  · rw [hmoves.mem_iff, ← h.accepted srb]
    show srb < d₁.nextSrb ↔ _
    rw [hf.nextSrb]
  · show d₁.held (.queue slotType t) = []
    by_contra hne
    have hwas : d.attended slotType t := by
      by_cases hd : d.held (.queue slotType t) = []
      · exact hex.fills hd hne
      · by_contra hwas
        exact hd (h.drained slotType t hwas)
    exact (hatt slotType t hwas).elim hnot hne
  · change n ≤ th' at hle
    show Function.update d₁.tasks th task th' = none
    rw [Function.update_of_ne (by omega), hf.tasks]
    exact h.fresh th' (by omega)
  · change Function.update d₁.tasks th task th' = _ at hth'
    by_cases he : th' = th
    · rw [he, Function.update_self] at hth'
      exact .inl (hcheck srb hth')
    · rw [Function.update_of_ne he, hf.tasks] at hth'
      rcases h.pending th' srb hth' with hp | hp
      · exact hf.pending srb hp
      · exact .inr (hf.completed hp)

/-- **A thread takes its next step.** -/
theorem Inv.runTask {th : Nat} {task : Task} (h : Inv d) (hth : d.tasks th = some task)
    (hG : d.taskAttended task) : Inv (d.runTask th task) := by
  have hf := advance_frame d task
  have hlt := h.lt_nextTask hth
  have hheld : d.held (.task th) = task.srbs := by
    simp [held, taskSrbs, hth]
  have heq : d.runTask th task = (d.advance task).1.put th (d.advance task).2 d.nextTask := by
    unfold Device.runTask Device.put
    rw [← hf.nextTask]
    rfl
  rw [heq]
  refine h.put ?_ hf (Nat.le_refl _) hlt ?_ fun slotType t hatt => ?_
  · rw [hheld]
    exact advance_exchanges d task hG
  · intro srb hsrb
    exact advance_checkPending hsrb
  · refine attended_put hf (Nat.le_refl _) hlt (advance_present d task slotType) ?_ hatt
    rw [hth]
    exact advance_toSweep d

/-- **A call arrives**, and may take requests off a queue. -/
theorem Inv.spawn {d₁ : Device} {task : Task} (h : Inv d) (hex : Exchanges d [] d₁ task.srbs)
    (hf : Frame d d₁) (hcheck : ∀ srb, task ≠ .checkPending srb)
    (hpresent : ∀ slotType t, (d.disk t).present = true → (d₁.disk t).present = true ∨
      task.toSweep slotType t = true) : Inv (d₁.spawn task) := by
  have hfresh : d.tasks d.nextTask = none := h.fresh _ (Nat.le_refl _)
  have heq : d₁.spawn task = d₁.put d.nextTask (some task) (d.nextTask + 1) := by
    unfold Device.spawn Device.put
    rw [hf.nextTask]
  rw [heq]
  refine h.put ?_ hf (Nat.le_succ _) (Nat.lt_succ_self _) ?_ fun slotType t hatt => ?_
  · have hheld : d.held (.task d.nextTask) = [] := by simp [held, taskSrbs, hfresh]
    rw [hheld]
    exact hex
  · intro srb hsrb
    exact absurd (Option.some.inj hsrb) (hcheck srb)
  · refine attended_put hf (Nat.le_succ _) (Nat.lt_succ_self _) (hpresent slotType t) ?_ hatt
    rw [hfresh]
    rintro ⟨⟩

/-- A call that moves no request. -/
theorem Inv.frame {d₁ : Device} (h : Inv d) (hheld : d₁.held = d.held) (hf : Frame d d₁)
    (hpresent : ∀ t, (d.disk t).present = true → (d₁.disk t).present = true) : Inv d₁ := by
  refine ⟨⟨hheld ▸ h.once, fun srb => ?_, fun slotType t hnot => ?_⟩, fun th hle => ?_,
    fun th srb hth => ?_⟩
  · rw [hheld, hf.nextSrb]
    exact h.accepted srb
  · rw [hheld]
    refine h.drained slotType t fun hatt => hnot ?_
    rcases hatt with hp | ⟨th, hlt, hth⟩
    · exact .inl (hpresent t hp)
    · exact .inr ⟨th, hf.nextTask ▸ hlt, hf.tasks ▸ hth⟩
  · rw [hf.tasks]
    exact h.fresh th (hf.nextTask ▸ hle)
  · rw [hf.tasks] at hth
    rcases h.pending th srb hth with hp | hp
    · exact hf.pending srb hp
    · exact .inr (hf.completed hp)

/-- **An SRB is accepted.** -/
theorem Inv.accept (h : Inv d) {task : Task} (eventId : Nat) (hsrbs : task.srbs = [d.nextSrb])
    (hcheck : ∀ srb, task ≠ .checkPending srb) :
    Inv ({ d with nextEventId := eventId, nextSrb := d.nextSrb + 1 }.spawn task) := by
  set d' : Device := { d with nextEventId := eventId, nextSrb := d.nextSrb + 1 }.spawn task
    with hd'
  have hfresh : d.tasks d.nextTask = none := h.fresh _ (Nat.le_refl _)
  have hnew : ∀ r, d.nextSrb ∉ d.held r := fun r hr =>
    Nat.lt_irrefl _ ((h.accepted _).mpr ⟨r, hr⟩)
  have hself : d'.held (.task d.nextTask) = d.nextSrb :: d.held (.task d.nextTask) := by
    show taskSrbs (Function.update d.tasks d.nextTask (some task) d.nextTask) =
      d.nextSrb :: taskSrbs (d.tasks d.nextTask)
    rw [Function.update_self, hfresh]
    exact hsrbs
  have hother : ∀ r, r ≠ .task d.nextTask → d'.held r = d.held r := fun r hr =>
    held_setTask_of_ne d d.nextTask (some task) hr
  refine ⟨⟨h.once.mint hnew hself hother, fun srb => ?_, fun slotType t hnot => ?_⟩,
    fun th hle => ?_, fun th srb hth => ?_⟩
  · show srb < d.nextSrb + 1 ↔ _
    constructor
    · intro hlt
      rcases Nat.lt_succ_iff_lt_or_eq.mp hlt with hlt | rfl
      · obtain ⟨p, hp⟩ := (h.accepted srb).mp hlt
        have hne : p ≠ .task d.nextTask := by
          rintro rfl
          simp [held, taskSrbs, hfresh] at hp
        exact ⟨p, hother p hne ▸ hp⟩
      · exact ⟨.task d.nextTask, hself ▸ List.mem_cons_self⟩
    · rintro ⟨p, hp⟩
      by_cases hpe : p = .task d.nextTask
      · rw [hpe, hself, List.mem_cons] at hp
        rcases hp with rfl | hp
        · exact Nat.lt_succ_self _
        · exact Nat.lt_succ_of_lt ((h.accepted srb).mpr ⟨_, hp⟩)
      · exact Nat.lt_succ_of_lt ((h.accepted srb).mpr ⟨p, hother p hpe ▸ hp⟩)
  · refine (hother (.queue slotType t) fun he => by cases he).trans (h.drained slotType t fun hatt => hnot ?_)
    rcases hatt with hp | ⟨th, hlt, hth⟩
    · exact .inl hp
    · refine .inr ⟨th, Nat.lt_succ_of_lt hlt, ?_⟩
      show (Function.update d.tasks d.nextTask (some task) th).any _ = true
      rw [Function.update_of_ne (Nat.ne_of_lt hlt)]
      exact hth
  · change d.nextTask + 1 ≤ th at hle
    show Function.update d.tasks d.nextTask (some task) th = none
    rw [Function.update_of_ne (by omega)]
    exact h.fresh th (by omega)
  · change Function.update d.tasks d.nextTask (some task) th = _ at hth
    by_cases he : th = d.nextTask
    · rw [he, Function.update_self] at hth
      exact absurd (Option.some.inj hth) (hcheck srb)
    · rw [Function.update_of_ne he] at hth
      exact h.pending th srb hth

theorem held_setQueue_same {t : Nat} {q : QueueState}
    (h : q.readSrbs = (d.queue t).readSrbs ∧ q.writeSrbs = (d.queue t).writeSrbs) :
    (d.setQueue t q).held = d.held := by
  funext r
  by_cases hrt : ∃ s, r = .queue s t
  · obtain ⟨s, rfl⟩ := hrt
    rw [held_setQueue_self]
    cases s with
    | read => exact h.1
    | write => exact h.2
  · exact held_setQueue_of_ne d t q fun s hs => hrt ⟨s, hs⟩

theorem inv_queueReadSrb (h : Inv d) (t lba blockCount dataLength : Nat) (allocated : Bool) :
    Inv (d.queueReadSrb t lba blockCount dataLength allocated) := by
  unfold queueReadSrb
  split_ifs
  · exact h
  · exact h
  · exact h.frame rfl ⟨rfl, rfl, rfl, List.Subset.refl _, fun _ => .inl⟩ fun _ => id
  · exact h.accept _ rfl nofun

theorem allocWriteRequest_srb {srb eventId lba blockCount dataLength sectorSize : Nat}
    {request : WriteRequest}
    (h : allocWriteRequest srb eventId lba blockCount dataLength sectorSize = some request) :
    request.srb = srb := by
  unfold allocWriteRequest at h
  split at h
  · cases h
  · cases h
    rfl

theorem inv_queueWriteSrb (h : Inv d) (t lba blockCount dataLength : Nat) (allocated : Bool) :
    Inv (d.queueWriteSrb t lba blockCount dataLength allocated) := by
  unfold queueWriteSrb
  split_ifs
  · exact h
  · exact h
  · dsimp only
    split
    · next request hreq =>
      exact h.accept _ (congrArg (fun s => [s]) (allocWriteRequest_srb hreq)) nofun
    · exact h.frame rfl ⟨rfl, rfl, rfl, List.Subset.refl _, fun _ => .inl⟩ fun _ => id

theorem inv_submitSlot (h : Inv d) (t : Nat) (slotType : SlotType) (slot : PostedSlot) :
    Inv (d.submitSlot t slotType slot) := by
  have hspawn : ∀ task : Task, task.srbs = [] → (∀ srb, task ≠ .checkPending srb) →
      Inv (d.spawn task) := fun task hsrbs hcheck =>
    h.spawn (exchanges_of_held_eq rfl (.of_eq hsrbs)) (.refl d) hcheck fun _ _ => .inl
  unfold submitSlot
  split
  · exact h
  · split
    · exact h
    · cases slotType with
      | read =>
        dsimp only
        split
        · exact h
        · exact hspawn _ rfl nofun
      | write =>
        dsimp only
        split
        · exact h
        · exact hspawn _ rfl nofun

theorem inv_cancelSlot (h : Inv d) (t : Nat) (slotType : SlotType) (slotId : Nat) :
    Inv (d.cancelSlot t slotType slotId) := by
  have hset : ∀ q : QueueState,
      q.readSrbs = (d.queue t).readSrbs ∧ q.writeSrbs = (d.queue t).writeSrbs →
      Inv (d.setQueue t q) := fun q hq =>
    h.frame (held_setQueue_same hq) (.setQueue d t q) fun u hu => (present_setQueue d t u q).trans hu
  unfold cancelSlot
  split
  · exact h
  · cases slotType with
    | read => exact hset _ (cancelReadSlot_srbs _ _)
    | write => exact hset _ (cancelWriteSlot_srbs _ _)

theorem inv_readAck (h : Inv d) (t : Nat) (ack : ReadAck) : Inv (d.readAck t ack) := by
  unfold readAck
  split
  · exact h
  · split
    · exact h
    · next q request hq =>
      obtain ⟨hperm, hwrites⟩ := takeRead_srbs hq
      refine h.spawn (exchanges_setQueue .read ?_ (fun s hs => ?_) fun hd hd' => ?_)
        (.setQueue d t q) nofun fun _ u hu => .inl ((present_setQueue d t u q).trans hu)
      · show (q.readSrbs ++ [request.srb]).Perm ((d.queue t).readSrbs ++ [])
        rw [List.append_nil]
        exact List.perm_append_comm.trans hperm
      · cases s with
        | read => exact absurd rfl hs
        | write => exact hwrites
      · change (d.queue t).readSrbs = [] at hd
        rw [hd] at hperm
        exact absurd hperm.eq_nil (List.cons_ne_nil _ _)

theorem inv_createDisk (h : Inv d) (t sectorSize sectorCount : Nat) :
    Inv (d.createDisk t sectorSize sectorCount) := by
  unfold createDisk
  split_ifs
  · exact h
  · exact h
  · refine h.frame (held_setDisk rfl) ⟨rfl, rfl, rfl, List.Subset.refl _, fun _ => .inl⟩
      fun u hu => ?_
    by_cases hut : u = t
    · simp [setDisk, hut]
    · simpa [setDisk, Function.update_of_ne hut] using hu

theorem inv_removeDisk (h : Inv d) (t : Nat) : Inv (d.removeDisk t) := by
  unfold removeDisk
  split
  · next d' hd' =>
    obtain rfl : d' = (d.deactivateTarget t).1 := by rw [hd']
    refine h.spawn (exchanges_of_held_eq (held_deactivateTarget d t) (.refl _))
      (.deactivateTarget d t) nofun fun slotType u hu => ?_
    rcases present_deactivateTarget d t hu with hu | ⟨rfl, -⟩
    · exact .inl hu
    · exact .inr (by simp [Task.toSweep, Sweep.isRemoval])
  · next d' hd' =>
    obtain rfl : d' = d := by
      unfold deactivateTarget at hd'
      split_ifs at hd' <;> cases hd' <;> rfl
    exact h

/-- **One step**, if it is attended. -/
theorem step_inv (a : Action) (h : Inv d) (hG : d.Attended a) (hs : d.step a = some d') :
    Inv d' := by
  cases a with
  | createDisk t sectorSize sectorCount => cases hs; exact inv_createDisk h _ _ _
  | queueRead t lba blockCount dataLength allocated => cases hs; exact inv_queueReadSrb h _ _ _ _ _
  | queueWrite t lba blockCount dataLength allocated =>
    cases hs; exact inv_queueWriteSrb h _ _ _ _ _
  | submitSlot t slotType slot => cases hs; exact inv_submitSlot h _ _ _
  | cancelSlot t slotType slotId => cases hs; exact inv_cancelSlot h _ _ _
  | readAck t ack => cases hs; exact inv_readAck h _ _
  | writeAckBatch t ranges payloadCapacity =>
    cases hs
    unfold writeAckBatch
    split
    · exact h
    · exact h.spawn (exchanges_of_held_eq rfl (.refl _)) (.refl d) nofun fun _ _ => .inl
  | removeDisk t => cases hs; exact inv_removeDisk h t
  | removeAllDisks closeSession =>
    cases hs
    exact h.spawn (exchanges_of_held_eq rfl (.refl _)) (.refl d) nofun fun _ _ => .inl
  | reset target =>
    cases target with
    | none =>
      cases hs
      exact h.spawn (exchanges_of_held_eq rfl (.refl _)) (.refl d) nofun fun _ _ => .inl
    | some t =>
      cases hs
      split
      · exact h
      · exact h.spawn (exchanges_of_held_eq rfl (.refl _)) (.refl d) nofun fun _ _ => .inl
  | run th =>
    obtain ⟨task, hth, rfl⟩ := Option.map_eq_some_iff.mp hs
    exact h.runTask hth (hG task hth)

/-! ## A step that is not attended -/

/-- A request that is inserted when no one attends to the list stays on it. -/
theorem not_drained_of_insert {th t : Nat} {slotType : SlotType} {q : QueueState} {task : Task}
    (hnot : ¬ d.attended slotType t) (hne : q.srbs slotType ≠ [])
    (htask : task.toSweep slotType t = false) :
    ¬ ((d.setQueue t q).setTask th (some task)).Drained := by
  intro hdrained
  refine hne ?_
  rw [← held_setQueue_self d t q slotType]
  refine hdrained slotType t fun hatt => hnot ?_
  rcases hatt with hp | ⟨th', hlt, hth'⟩
  · exact .inl ((present_setQueue d t t q).symm.trans hp)
  · refine .inr ⟨th', hlt, ?_⟩
    change (Function.update d.tasks th (some task) th').any _ = true at hth'
    by_cases he : th' = th
    · rw [he, Function.update_self] at hth'
      exact absurd hth' (by simp [htask])
    · rwa [Function.update_of_ne he] at hth'

/-- A request that `DiskFreeQueuedState` finds on a list is lost. -/
theorem not_accepted_of_free (h : Inv d) {th t srb : Nat} {slotType : SlotType} {task : Task}
    (hsrb : srb ∈ d.held (.queue slotType t)) (htask : task.srbs = []) :
    ¬ ∃ p, srb ∈ ((d.setQueue t {}).setTask th (some task)).held p := by
  rintro ⟨p, hp⟩
  by_cases hpth : p = .task th
  · rw [hpth, held_setTask_self] at hp
    simp [taskSrbs, htask] at hp
  · rw [held_setTask_of_ne _ _ _ hpth] at hp
    by_cases hpt : ∃ s, p = .queue s t
    · obtain ⟨s, rfl⟩ := hpt
      rw [held_setQueue_self] at hp
      cases s <;> cases hp
    · have hne : ∀ s, p ≠ .queue s t := fun s hs => hpt ⟨s, hs⟩
      rw [held_setQueue_of_ne d t {} hne] at hp
      exact hne slotType (h.once.disjoint p _ srb hp hsrb)

/-- **A step that is not attended breaks the promise.** -/
theorem not_exactlyOnce_of_unattended (a : Action) (h : Inv d) (hG : ¬ d.Attended a)
    (hs : d.step a = some d') : ¬ ExactlyOnce d' := by
  intro hexact
  cases a with
  | run th =>
    obtain ⟨task, hth, rfl⟩ := Option.map_eq_some_iff.mp hs
    refine hG fun task' htask' => ?_
    obtain rfl : task = task' := Option.some.inj (hth.symm.trans htask')
    by_contra hbad
    cases task with
    | insertRead t request =>
      refine not_drained_of_insert hbad ?_ rfl hexact.drained
      show ((d.queue t).pendingReads ++ [request]).map ReadRequest.srb ≠ []
      simp
    | insertWrite t request =>
      refine not_drained_of_insert hbad ?_ rfl hexact.drained
      show ((d.queue t).pendingWrites ++ [request]).map WriteRequest.srb ≠ []
      simp
    | freeQueuedState closeSession targets =>
      cases targets with
      | nil => exact hbad trivial
      | cons t targets =>
        have hlost : ∀ slotType, d.held (.queue slotType t) = [] := by
          intro slotType
          by_contra hne
          obtain ⟨srb, hsrb⟩ := List.exists_mem_of_ne_nil _ hne
          exact not_accepted_of_free h hsrb rfl
            ((hexact.accepted srb).mp ((h.accepted srb).mpr ⟨_, hsrb⟩))
        exact hbad ⟨hlost .read, hlost .write⟩
    | checkPending srb =>
      have hp : ¬ d.srbPending srb = true := hbad
      have hmem := (h.pending th srb hth).resolve_left hp
      have hnd := hexact.once.nodup .completed
      rw [show (d.runTask th (.checkPending srb)).held .completed = d.held .completed ++ [srb] by
        simp [Device.runTask, advance, hp, held, completeScsiSrb, setTask]] at hnd
      exact (List.disjoint_of_nodup_append hnd) hmem (List.mem_singleton.mpr rfl)
    | _ => exact hbad trivial
  | _ => exact hG trivial

/-! ## Runs -/

/-- A device with no disks. -/
def init : Device := {}

theorem inv_init : Inv init := by
  refine ⟨⟨⟨fun p => ?_, fun p q srb hp => ?_⟩, fun srb => ⟨nofun, ?_⟩, fun slotType t _ => ?_⟩,
    fun _ _ => rfl, nofun⟩
  · cases p with
    | queue slotType t => cases slotType <;> exact List.nodup_nil
    | _ => exact List.nodup_nil
  · cases p with
    | queue slotType t => cases slotType <;> cases hp
    | _ => cases hp
  · rintro ⟨p, hp⟩
    cases p with
    | queue slotType t => cases slotType <;> cases hp
    | _ => cases hp
  · cases slotType <;> rfl

/-- **SRBs are completed exactly once** in every state that a run reaches if and only if its steps
are attended. -/
theorem attended_iff_exactlyOnce {as : List Action}
    (h : Lib.runFrom step init as = some d) :
    Lib.StepsMeet step Attended init as ↔
      ∀ bs, bs <+: as → ∀ t, Lib.runFrom step init bs = some t → ExactlyOnce t :=
  Lib.stepsMeet_iff (fun _ h => h.toExactlyOnce) (fun _ a _ h hG hs => step_inv a h hG hs)
    (fun _ a _ h hG hs => not_exactlyOnce_of_unattended a h hG hs) inv_init h

/-- When the threads have returned and the disks are removed, every accepted SRB is completed once. -/
theorem ExactlyOnce.count_completed (h : ExactlyOnce d) (htasks : ∀ th, d.tasks th = none)
    (hdisks : ∀ t, (d.disk t).present = false) {srb : Nat} (hsrb : srb < d.nextSrb) :
    (d.completed.map Completion.srb).count srb = 1 := by
  obtain ⟨p, hp⟩ := (h.accepted srb).mp hsrb
  have hmem : srb ∈ d.held .completed := by
    cases p with
    | completed => exact hp
    | queue slotType t =>
      have hnot : ¬ d.attended slotType t := by
        rintro (hpresent | ⟨th, -, hth⟩)
        · rw [hdisks t] at hpresent
          cases hpresent
        · rw [htasks th] at hth
          cases hth
      rw [h.drained slotType t hnot] at hp
      cases hp
    | task th =>
      rw [held, htasks th] at hp
      cases hp
  exact List.count_eq_one_of_mem (h.once.nodup .completed) hmem

/-- A read is checked against the disk, which is then removed and its lists swept; only then is the
read inserted. -/
def raceRemoveRun : List Action :=
  [.createDisk 0 512 100, .queueRead 0 0 1 512 true, .removeDisk 0,
    .run 1, .run 1, .run 1, .run 1, .run 0]

theorem removed_keeps_request :
    ∃ d, Lib.runFrom step init raceRemoveRun = some d ∧ ¬ ExactlyOnce d := by
  obtain ⟨d, hd, hp⟩ := Lib.exists_run step init raceRemoveRun
    (fun d => decide (¬ d.attended .read 0 ∧ d.held (.queue .read 0) ≠ [])) (by decide)
  obtain ⟨hnot, hne⟩ := of_decide_eq_true hp
  exact ⟨d, hd, fun h => hne (h.drained .read 0 hnot)⟩

/-- A read is acked after its SRB is set to pending, before its status is looked at. -/
def raceDispatchRun : List Action :=
  [.createDisk 0 512 100, .queueRead 0 0 1 512 true, .run 0, .run 0, .run 0,
    .readAck 0 ⟨1, 512, 8192, 0⟩, .run 1, .run 0]

theorem dispatched_completed_twice :
    ∃ d, Lib.runFrom step init raceDispatchRun = some d ∧
      (d.completed.map Completion.srb).count 0 = 2 := by
  obtain ⟨d, hd, hp⟩ := Lib.exists_run step init raceDispatchRun
    (fun d => decide ((d.completed.map Completion.srb).count 0 = 2)) (by decide)
  exact ⟨d, hd, of_decide_eq_true hp⟩

/-- A read that is acked, a write that the removal completes, and the target created again. -/
def attendedRun : List Action :=
  [.createDisk 0 512 100, .submitSlot 0 .read ⟨7, 1, 4096, 32⟩, .run 0, .run 0,
    .queueRead 0 0 1 512 true, .run 1, .run 1, .run 1, .run 1, .run 1,
    .readAck 0 ⟨1, 512, 8192, 0⟩, .run 2,
    .queueWrite 0 8 1 512 true, .run 3, .run 3, .run 3, .run 3,
    .removeDisk 0, .run 4, .run 4, .run 4, .run 4, .run 4, .createDisk 0 512 100]

theorem attendedRun_exactlyOnce :
    ∃ d, Lib.runFrom step init attendedRun = some d ∧ ExactlyOnce d ∧
      d.completed = [⟨0, statusSuccess, 512⟩, ⟨1, statusDeviceNotConnected, 0⟩] := by
  obtain ⟨d, hd, hp⟩ := Lib.exists_run step init attendedRun
    (fun d => decide (d.completed = [⟨0, statusSuccess, 512⟩, ⟨1, statusDeviceNotConnected, 0⟩]))
    (by decide)
  have hG : Lib.StepsMeet step Attended init attendedRun := by decide
  exact ⟨d, hd, (attended_iff_exactlyOnce hd).mp hG _ (List.prefix_refl _) d hd,
    of_decide_eq_true hp⟩

end Device

end YumeDisk.Miniport
