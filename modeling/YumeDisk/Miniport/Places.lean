import YumeDisk.Lib.Ownership
import YumeDisk.Miniport.Device

/-!
# Where the SRBs are, and what one step of a thread does to them

* `Device.held`: the SRBs at each place: completed, on a queue, or in the hands of a thread.
* `Device.attended`: the disk of a list is there, or a removal is still to sweep the list.
* `advance_exchanges`: a step moves SRBs between a thread and one other place.
* `advance_frame`, `advance_toSweep`, `advance_present`: what a step leaves as it is.
-/

namespace YumeDisk.Miniport

/-! ## Where the SRBs are -/

inductive Place
  | completed
  | queue (slotType : SlotType) (target : Nat)
  | task (th : Nat)
deriving DecidableEq

def QueueState.srbs (q : QueueState) : SlotType → List Nat
  | .read => q.readSrbs
  | .write => q.writeSrbs

/-- The SRBs in the hands of a thread, which are not on any queue. -/
def Task.srbs : Task → List Nat
  | .insertRead _ request => [request.srb]
  | .insertWrite _ request => [request.srb]
  | .completeRead request _ => [request.srb]
  | .ackWrites _ _ _ _ _ deferred => deferred.map WriteRequest.srb
  | .completeDeferred deferred => deferred.map WriteRequest.srb
  | .sweepWrites _ _ _ reads => reads.map ReadRequest.srb
  | .completeSwept _ _ reads writes => reads.map ReadRequest.srb ++ writes.map WriteRequest.srb
  | _ => []

/-- A thread that has returned holds nothing. -/
def taskSrbs (task : Option Task) : List Nat := (task.map Task.srbs).getD []

/-- The task will sweep the queue, as a removal does. -/
def Task.toSweep (slotType : SlotType) (target : Nat) : Task → Bool
  | .deactivate _ _ => target < maxTargets
  | .sweepReads sweep targets => sweep.isRemoval && targets.contains target
  | .sweepWrites sweep t targets _ =>
    sweep.isRemoval && ((slotType == .write && t == target) || targets.contains target)
  | .completeSwept sweep targets _ _ => sweep.isRemoval && targets.contains target
  | _ => false

namespace Device

def held (d : Device) : Place → List Nat
  | .completed => d.completed.map Completion.srb
  | .queue slotType target => (d.queue target).srbs slotType
  | .task th => taskSrbs (d.tasks th)

/-- The disk is there, or a removal is still to sweep the queue. -/
def attended (d : Device) (slotType : SlotType) (target : Nat) : Prop :=
  (d.disk target).present = true ∨
    ∃ th < d.nextTask, (d.tasks th).any (Task.toSweep slotType target) = true

instance (d : Device) (slotType : SlotType) (target : Nat) :
    Decidable (d.attended slotType target) :=
  inferInstanceAs (Decidable (_ ∨ _))

/-- A request is inserted while the disk is there or a removal is still to sweep the list;
`DiskFreeQueuedState` finds the lists empty; and the SRB of a dispatched request is still pending
when its status is looked at. -/
def taskAttended (d : Device) : Task → Prop
  | .insertRead t _ => d.attended .read t
  | .insertWrite t _ => d.attended .write t
  | .freeQueuedState _ (t :: _) => d.held (.queue .read t) = [] ∧ d.held (.queue .write t) = []
  | .checkPending srb => d.srbPending srb = true
  | _ => True

instance (d : Device) (task : Task) : Decidable (d.taskAttended task) := by
  cases task with
  | insertRead t request => exact inferInstanceAs (Decidable (d.attended _ t))
  | insertWrite t request => exact inferInstanceAs (Decidable (d.attended _ t))
  | freeQueuedState closeSession targets =>
    cases targets with
    | nil => exact isTrue trivial
    | cons t targets => exact inferInstanceAs (Decidable (_ ∧ _))
  | checkPending srb => exact inferInstanceAs (Decidable (_ = true))
  | _ => exact isTrue trivial

/-! ## A step moves SRBs between a queue, or the completed ones, and a thread -/

/-- One place other than the threads' gives or takes SRBs: what a thread held was `old` and is
`new`. An empty list is filled only if it is attended. -/
def Exchanges (d : Device) (old : List Nat) (d' : Device) (new : List Nat) : Prop :=
  ∃ p, (∀ th, p ≠ .task th) ∧ (d'.held p ++ new).Perm (d.held p ++ old) ∧
    (∀ r, r ≠ p → d'.held r = d.held r) ∧
    ∀ slotType t, p = .queue slotType t → d.held p = [] → d'.held p ≠ [] → d.attended slotType t

open QueueState

variable {d d' : Device} {old new : List Nat}

theorem held_setTask_self (d : Device) (th : Nat) (task : Option Task) :
    (d.setTask th task).held (.task th) = taskSrbs task := by
  simp [held, setTask]

theorem held_setTask_of_ne (d : Device) (th : Nat) (task : Option Task) {r : Place}
    (h : r ≠ .task th) : (d.setTask th task).held r = d.held r := by
  cases r with
  | completed => rfl
  | queue slotType target => rfl
  | task th' =>
    have hth : th' ≠ th := fun he => h (he ▸ rfl)
    simp [held, setTask, Function.update_of_ne hth]

theorem Exchanges.moves {th : Nat} {task : Option Task}
    (h : Exchanges d (d.held (.task th)) d' (taskSrbs task)) :
    Lib.Moves d.held (d'.setTask th task).held := by
  obtain ⟨p, hp, hperm, hother, -⟩ := h
  refine .inr ⟨p, .task th, hp th, ?_, ?_⟩
  · rw [held_setTask_self, held_setTask_of_ne _ _ _ (hp th)]
    exact hperm
  · intro r hrp hrt
    rw [held_setTask_of_ne _ _ _ hrt]
    exact hother r hrp

theorem Exchanges.fills (h : Exchanges d old d' new) {slotType : SlotType} {t : Nat}
    (hd : d.held (.queue slotType t) = []) (hd' : d'.held (.queue slotType t) ≠ []) :
    d.attended slotType t := by
  obtain ⟨p, -, -, hother, hfill⟩ := h
  by_cases hp : p = .queue slotType t
  · subst hp
    exact hfill slotType t rfl hd hd'
  · rw [hother _ (Ne.symm hp)] at hd'
    exact absurd hd hd'

theorem exchanges_of_held_eq (hheld : d'.held = d.held) (hperm : new.Perm old) :
    Exchanges d old d' new := by
  refine ⟨.completed, nofun, ?_, fun r _ => congrFun hheld r, nofun⟩
  rw [hheld]
  exact hperm.append_left _

theorem held_setQueue_self (d : Device) (t : Nat) (q : QueueState) (slotType : SlotType) :
    (d.setQueue t q).held (.queue slotType t) = q.srbs slotType := by
  simp [held, queue, setQueue, setDisk]

theorem held_setQueue_of_ne (d : Device) (t : Nat) (q : QueueState) {r : Place}
    (h : ∀ slotType, r ≠ .queue slotType t) : (d.setQueue t q).held r = d.held r := by
  cases r with
  | completed => rfl
  | queue slotType target =>
    have ht : target ≠ t := fun he => h slotType (he ▸ rfl)
    simp [held, queue, setQueue, setDisk, Function.update_of_ne ht]
  | task th => rfl

theorem exchanges_setQueue {t : Nat} {q : QueueState} (slotType : SlotType)
    (hperm : (q.srbs slotType ++ new).Perm ((d.queue t).srbs slotType ++ old))
    (hother : ∀ s, s ≠ slotType → q.srbs s = (d.queue t).srbs s)
    (hfill : (d.queue t).srbs slotType = [] → q.srbs slotType ≠ [] → d.attended slotType t) :
    Exchanges d old (d.setQueue t q) new := by
  refine ⟨.queue slotType t, nofun, ?_, ?_, ?_⟩
  · rw [held_setQueue_self]
    exact hperm
  · intro r hr
    by_cases hrt : ∃ s, r = .queue s t
    · obtain ⟨s, rfl⟩ := hrt
      rw [held_setQueue_self]
      exact hother s fun hs => hr (hs ▸ rfl)
    · exact held_setQueue_of_ne d t q fun s hs => hrt ⟨s, hs⟩
  · rintro s u ⟨rfl, rfl⟩ hd hd'
    rw [held_setQueue_self] at hd'
    exact hfill hd hd'

/-- A section that leaves the requests where they are. -/
theorem exchanges_setQueue_same {t : Nat} {q : QueueState}
    (h : q.readSrbs = (d.queue t).readSrbs ∧ q.writeSrbs = (d.queue t).writeSrbs) :
    Exchanges d old (d.setQueue t q) old := by
  refine exchanges_setQueue .read (.of_eq (congrArg (· ++ old) h.1)) (fun s hs => ?_) ?_
  · cases s with
    | read => exact absurd rfl hs
    | write => exact h.2
  · rintro hd hd'
    exact absurd (h.1.trans hd) hd'

theorem exchanges_complete {srb : Nat} (status : NtStatus) (length : Nat) :
    Exchanges d (srb :: new) (d.completeScsiSrb srb status length) new := by
  refine ⟨.completed, nofun, ?_, ?_, nofun⟩
  · simp [held, completeScsiSrb]
  · intro r hr
    cases r with
    | completed => exact absurd rfl hr
    | queue slotType target => rfl
    | task th => rfl

theorem exchanges_completeRead (request : ReadRequest) (status : NtStatus) :
    Exchanges d (request.srb :: new) (d.completeReadRequest request status) new := by
  unfold completeReadRequest
  split <;> exact exchanges_complete _ _

theorem exchanges_completeWrite (request : WriteRequest) :
    Exchanges d (request.srb :: new) (d.completeWriteRequest request) new := by
  unfold completeWriteRequest
  split <;> exact exchanges_complete _ _

theorem held_setDisk {t : Nat} {disk : Disk} (h : disk.queue = d.queue t) :
    (d.setDisk t disk).held = d.held := by
  funext r
  cases r with
  | completed => rfl
  | queue slotType target =>
    by_cases ht : target = t
    · subst ht
      simp [held, queue, setDisk, h]
    · simp [held, queue, setDisk, Function.update_of_ne ht]
  | task th => rfl

theorem held_deactivateTarget (d : Device) (t : Nat) :
    (d.deactivateTarget t).1.held = d.held := by
  unfold deactivateTarget
  split_ifs
  · rfl
  · rfl
  · exact held_setDisk rfl

theorem exchanges_ackRange {t : Nat} (range : WriteAckRange) (deferred : List WriteRequest) :
    Exchanges d (deferred.map WriteRequest.srb) (d.setQueue t ((d.queue t).ackRange range).1)
      ((deferred ++ ((d.queue t).ackRange range).2.2.toList).map WriteRequest.srb) := by
  obtain ⟨hreads, hwrites⟩ := (d.queue t).ackRange_srbs range
  refine exchanges_setQueue .write ?_ (fun s hs => ?_) ?_
  · rw [List.map_append]
    refine (List.perm_append_comm_assoc _ _ _).trans ?_
    exact (List.perm_append_comm.trans ((List.perm_append_comm.trans hwrites).append_right _))
  · cases s with
    | read => exact hreads
    | write => exact absurd rfl hs
  · rintro hd hd'
    change (d.queue t).writeSrbs = [] at hd
    rw [hd] at hwrites
    exact absurd (List.append_eq_nil_iff.mp hwrites.eq_nil).2 hd'

/-- **The next step of a thread moves SRBs**, if it is attended. -/
theorem advance_exchanges (d : Device) (task : Task) (h : d.taskAttended task) :
    Exchanges d task.srbs (d.advance task).1 (taskSrbs (d.advance task).2) := by
  cases task with
  | insertRead t request =>
    refine exchanges_setQueue .read (.of_eq ?_) (fun s hs => ?_) fun _ _ => h
    · show (((d.queue t).pendingReads ++ [request]).map ReadRequest.srb) ++ [] = _
      rw [List.map_append, List.append_nil]
      rfl
    · cases s with
      | read => exact absurd rfl hs
      | write => rfl
  | insertWrite t request =>
    refine exchanges_setQueue .write (.of_eq ?_) (fun s hs => ?_) fun _ _ => h
    · show (((d.queue t).pendingWrites ++ [request]).map WriteRequest.srb) ++ [] = _
      rw [List.map_append, List.append_nil]
      rfl
    · cases s with
      | read => rfl
      | write => exact absurd rfl hs
  | insertReadSlot t slot => exact exchanges_setQueue_same ⟨rfl, rfl⟩
  | insertWriteSlot t slot payloadBytes =>
    unfold advance
    dsimp only
    cases hq : (d.queue t).insertWriteSlot slot payloadBytes with
    | error status => exact exchanges_of_held_eq rfl (.refl _)
    | ok q => exact exchanges_setQueue_same (insertWriteSlot_srbs hq)
  | drainReads t srb =>
    unfold advance
    dsimp only
    cases hq : (d.queue t).reserveRead with
    | none =>
      refine exchanges_of_held_eq rfl (.of_eq ?_)
      cases srb <;> rfl
    | some r => exact exchanges_setQueue_same (reserveRead_srbs hq)
  | drainWrites t srb =>
    have hq := (d.queue t).reserveWrite_srbs
    unfold advance
    dsimp only
    split
    · next hr =>
      rw [hr] at hq
      cases srb <;> exact exchanges_setQueue_same hq
    · next hr =>
      rw [hr] at hq
      exact exchanges_setQueue_same hq
  | setPending srb => exact exchanges_of_held_eq rfl (.refl _)
  | checkPending srb =>
    have hp : d.srbPending srb = true := h
    simp only [advance, hp, if_true]
    exact exchanges_of_held_eq rfl (.refl _)
  | completeRead request status => exact exchanges_completeRead request status
  | ackWrites t index ranges payloadCapacity failures deferred =>
    cases ranges with
    | nil => exact exchanges_of_held_eq rfl (.refl _)
    | cons range ranges =>
      have hex := exchanges_ackRange (d := d) (t := t) range deferred
      have hnone := (d.queue t).ackRange_failed range
      unfold advance
      dsimp only
      split_ifs with hs hsize
      · exact hex
      · rw [hnone hs, Option.toList_none, List.append_nil] at hex
        exact hex
      · rw [hnone hs, Option.toList_none, List.append_nil] at hex
        exact hex
  | completeDeferred deferred =>
    cases deferred with
    | nil => exact exchanges_of_held_eq rfl (.refl _)
    | cons request deferred => exact exchanges_completeWrite request
  | deactivate closeSession targets =>
    cases targets with
    | nil => exact exchanges_of_held_eq rfl (.refl _)
    | cons t targets => exact exchanges_of_held_eq (held_deactivateTarget d t) (.refl _)
  | sweepReads sweep targets =>
    cases targets with
    | nil =>
      refine exchanges_of_held_eq rfl (.of_eq ?_)
      cases sweep <;> rfl
    | cons t targets =>
      refine exchanges_setQueue .read ?_ (fun s hs => ?_) fun _ hd' => absurd rfl hd'
      · exact .of_eq (List.append_nil _).symm
      · cases s with
        | read => exact absurd rfl hs
        | write => rfl
  | sweepWrites sweep t targets reads =>
    refine exchanges_setQueue .write ?_ (fun s hs => ?_) fun _ hd' => absurd rfl hd'
    · show (reads.map ReadRequest.srb ++ (d.queue t).writeSrbs).Perm (_ ++ reads.map _)
      exact List.perm_append_comm
    · cases s with
      | read => rfl
      | write => exact absurd rfl hs
  | completeSwept sweep targets reads writes =>
    cases reads with
    | cons request reads => exact exchanges_completeRead request sweep.status
    | nil =>
      cases writes with
      | cons request writes =>
        exact exchanges_completeWrite { request with finalStatus := sweep.status }
      | nil => exact exchanges_of_held_eq rfl (.refl _)
  | freeQueuedState closeSession targets =>
    cases targets with
    | nil => exact exchanges_of_held_eq rfl (.refl _)
    | cons t targets =>
      have hempty : d.held (.queue .read t) = [] ∧ d.held (.queue .write t) = [] := h
      exact exchanges_setQueue_same ⟨hempty.1.symm, hempty.2.symm⟩

/-! ## What a section leaves alone -/

/-- A section changes no thread, accepts nothing, and takes nothing back that is completed. -/
structure Frame (d d' : Device) : Prop where
  tasks : d'.tasks = d.tasks
  nextTask : d'.nextTask = d.nextTask
  nextSrb : d'.nextSrb = d.nextSrb
  completed : d.held .completed ⊆ d'.held .completed
  pending : ∀ srb, d.srbPending srb = true →
    d'.srbPending srb = true ∨ srb ∈ d'.held .completed

theorem Frame.refl (d : Device) : Frame d d :=
  ⟨rfl, rfl, rfl, List.Subset.refl _, fun _ => .inl⟩

theorem Frame.setQueue (d : Device) (t : Nat) (q : QueueState) : Frame d (d.setQueue t q) :=
  ⟨rfl, rfl, rfl, List.Subset.refl _, fun _ => .inl⟩

theorem Frame.complete (d : Device) (srb : Nat) (status : NtStatus) (length : Nat) :
    Frame d (d.completeScsiSrb srb status length) := by
  refine ⟨rfl, rfl, rfl, ?_, fun srb' h => ?_⟩
  · intro x hx
    simp only [held, completeScsiSrb, List.map_append, List.mem_append]
    exact .inl hx
  · by_cases hsrb : srb' = srb
    · right
      simp [held, completeScsiSrb, hsrb]
    · left
      simpa [completeScsiSrb, Function.update_of_ne hsrb] using h

theorem Frame.completeRead (d : Device) (request : ReadRequest) (status : NtStatus) :
    Frame d (d.completeReadRequest request status) := by
  unfold completeReadRequest
  split <;> exact .complete _ _ _ _

theorem Frame.completeWrite (d : Device) (request : WriteRequest) :
    Frame d (d.completeWriteRequest request) := by
  unfold completeWriteRequest
  split <;> exact .complete _ _ _ _

theorem Frame.deactivateTarget (d : Device) (t : Nat) : Frame d (d.deactivateTarget t).1 := by
  unfold Device.deactivateTarget
  split_ifs <;> exact ⟨rfl, rfl, rfl, List.Subset.refl _, fun _ => .inl⟩

theorem advance_frame (d : Device) (task : Task) : Frame d (d.advance task).1 := by
  cases task with
  | insertRead t request => exact .setQueue _ _ _
  | insertWrite t request => exact .setQueue _ _ _
  | insertReadSlot t slot => exact .setQueue _ _ _
  | insertWriteSlot t slot payloadBytes =>
    unfold advance
    dsimp only
    split
    · exact .refl d
    · exact .setQueue _ _ _
  | drainReads t srb =>
    unfold advance
    dsimp only
    split
    · exact .refl d
    · exact .setQueue _ _ _
  | drainWrites t srb =>
    unfold advance
    dsimp only
    split <;> exact .setQueue _ _ _
  | setPending srb =>
    refine ⟨rfl, rfl, rfl, List.Subset.refl _, fun srb' h => .inl ?_⟩
    by_cases hsrb : srb' = srb
    · simp [advance, hsrb]
    · simpa [advance, Function.update_of_ne hsrb] using h
  | checkPending srb =>
    unfold advance
    dsimp only
    split
    · exact .refl d
    · exact .complete _ _ _ _
  | completeRead request status => exact .completeRead _ _ _
  | ackWrites t index ranges payloadCapacity failures deferred =>
    cases ranges with
    | nil => exact .refl d
    | cons range ranges =>
      unfold advance
      dsimp only
      split_ifs <;> exact .setQueue _ _ _
  | completeDeferred deferred =>
    cases deferred with
    | nil => exact .refl d
    | cons request deferred => exact .completeWrite _ _
  | deactivate closeSession targets =>
    cases targets with
    | nil => exact .refl d
    | cons t targets => exact .deactivateTarget _ _
  | sweepReads sweep targets =>
    cases targets with
    | nil => exact .refl d
    | cons t targets => exact .setQueue _ _ _
  | sweepWrites sweep t targets reads => exact .setQueue _ _ _
  | completeSwept sweep targets reads writes =>
    cases reads with
    | cons request reads => exact .completeRead _ _ _
    | nil =>
      cases writes with
      | cons request writes => exact .completeWrite _ _
      | nil => exact .refl d
  | freeQueuedState closeSession targets =>
    cases targets with
    | nil => exact ⟨rfl, rfl, rfl, List.Subset.refl _, fun _ => .inl⟩
    | cons t targets => exact .setQueue _ _ _

/-- A thread that is to look at the status of an SRB has just set it. -/
theorem advance_checkPending {task : Task} {srb : Nat}
    (h : (d.advance task).2 = some (.checkPending srb)) :
    (d.advance task).1.srbPending srb = true := by
  cases task with
  | setPending srb' =>
    cases h
    simp [advance]
  | insertWriteSlot t slot payloadBytes =>
    unfold advance at h
    dsimp only at h
    split at h <;> cases h
  | drainReads t srb' =>
    unfold advance at h
    dsimp only at h
    split at h <;> cases srb' <;> cases h
  | drainWrites t srb' =>
    unfold advance at h
    dsimp only at h
    split at h <;> cases srb' <;> cases h
  | checkPending srb' =>
    unfold advance at h
    dsimp only at h
    split at h <;> cases h
  | ackWrites t index ranges payloadCapacity failures deferred =>
    cases ranges with
    | nil => cases h
    | cons range ranges =>
      unfold advance at h
      dsimp only at h
      split_ifs at h <;> cases h
  | completeDeferred deferred => cases deferred <;> cases h
  | deactivate closeSession targets => cases targets <;> cases h
  | sweepReads sweep targets =>
    cases targets with
    | nil => cases sweep <;> cases h
    | cons t targets => cases h
  | completeSwept sweep targets reads writes => cases reads <;> cases writes <;> cases h
  | freeQueuedState closeSession targets => cases targets <;> cases h
  | _ => cases h

/-! ## What stays attended -/

/-- A thread that is to sweep a list still is, unless it has. -/
theorem advance_toSweep (d : Device) {task : Task} {slotType : SlotType} {t : Nat}
    (h : task.toSweep slotType t = true) :
    (d.advance task).2.any (Task.toSweep slotType t) = true ∨
      (d.advance task).1.held (.queue slotType t) = [] := by
  cases task with
  | deactivate closeSession targets =>
    left
    have ht : t < maxTargets := of_decide_eq_true h
    cases targets with
    | nil => simpa [advance, Task.toSweep, Sweep.isRemoval, allTargets] using ht
    | cons u targets => exact h
  | sweepReads sweep targets =>
    cases targets with
    | nil => simp [Task.toSweep] at h
    | cons u targets =>
      simp only [Task.toSweep, List.contains_cons, Bool.and_eq_true, Bool.or_eq_true,
        beq_iff_eq] at h
      obtain ⟨hsweep, rfl | hmem⟩ := h
      · cases slotType with
        | read => exact .inr (held_setQueue_self _ _ _ _)
        | write => simp [advance, Task.toSweep, hsweep]
      · left
        simp only [advance, Option.any_some, Task.toSweep, hsweep, hmem, Bool.or_true, Bool.and_true]
  | sweepWrites sweep u targets reads =>
    simp only [Task.toSweep, Bool.and_eq_true, Bool.or_eq_true, beq_iff_eq] at h
    obtain ⟨hsweep, ⟨rfl, rfl⟩ | hmem⟩ := h
    · exact .inr (held_setQueue_self _ _ _ _)
    · left
      simp only [advance, Option.any_some, Task.toSweep, hsweep, hmem, Bool.and_true]
  | completeSwept sweep targets reads writes =>
    left
    cases reads with
    | cons request reads => exact h
    | nil => cases writes <;> exact h
  | _ => cases h

theorem present_setQueue (d : Device) (t u : Nat) (q : QueueState) :
    ((d.setQueue t q).disk u).present = (d.disk u).present := by
  by_cases hu : u = t
  · subst hu
    simp [setQueue, setDisk]
  · simp [setQueue, setDisk, Function.update_of_ne hu]

theorem present_deactivateTarget (d : Device) (t : Nat) {u : Nat}
    (h : (d.disk u).present = true) :
    (((d.deactivateTarget t).1.disk u).present = true) ∨ (u = t ∧ t < maxTargets) := by
  unfold deactivateTarget
  split_ifs with ht hp
  · exact .inl h
  · exact .inl h
  · by_cases hu : u = t
    · exact .inr ⟨hu, Nat.lt_of_not_le ht⟩
    · simpa [setDisk, Function.update_of_ne hu] using .inl h

/-- A disk is still there, unless the thread has removed it and is to sweep its lists. -/
theorem advance_present (d : Device) (task : Task) (slotType : SlotType) {t : Nat}
    (h : (d.disk t).present = true) :
    ((d.advance task).1.disk t).present = true ∨
      (d.advance task).2.any (Task.toSweep slotType t) = true := by
  have hread : ∀ request status, ((d.completeReadRequest request status).disk t) = d.disk t := by
    intro request status
    unfold completeReadRequest
    split <;> rfl
  have hwrite : ∀ request, ((d.completeWriteRequest request).disk t) = d.disk t := by
    intro request
    unfold completeWriteRequest
    split <;> rfl
  cases task with
  | deactivate closeSession targets =>
    cases targets with
    | nil => exact .inl h
    | cons u targets =>
      rcases present_deactivateTarget d u h with h | ⟨rfl, ht⟩
      · exact .inl h
      · exact .inr (decide_eq_true ht)
  | insertWriteSlot u slot payloadBytes =>
    left
    unfold advance
    dsimp only
    split
    · exact h
    · rwa [present_setQueue]
  | drainReads u srb =>
    left
    unfold advance
    dsimp only
    split
    · exact h
    · rwa [present_setQueue]
  | drainWrites u srb =>
    left
    unfold advance
    dsimp only
    split <;> rwa [present_setQueue]
  | checkPending srb =>
    left
    unfold advance
    dsimp only
    split <;> exact h
  | ackWrites u index ranges payloadCapacity failures deferred =>
    left
    cases ranges with
    | nil => exact h
    | cons range ranges =>
      unfold advance
      dsimp only
      split_ifs <;> rwa [present_setQueue]
  | completeDeferred deferred =>
    left
    cases deferred with
    | nil => exact h
    | cons request deferred => exact (hwrite request).symm ▸ h
  | sweepReads sweep targets =>
    left
    cases targets with
    | nil => exact h
    | cons u targets => exact (present_setQueue d u t _).trans h
  | completeSwept sweep targets reads writes =>
    left
    cases reads with
    | cons request reads => exact (hread request _).symm ▸ h
    | nil =>
      cases writes with
      | cons request writes => exact (hwrite _).symm ▸ h
      | nil => exact h
  | freeQueuedState closeSession targets =>
    left
    cases targets with
    | nil => exact h
    | cons u targets => exact (present_setQueue d u t _).trans h
  | completeRead request status => exact .inl ((hread request status).symm ▸ h)
  | setPending srb => exact .inl h
  | _ => exact .inl ((present_setQueue d _ t _).trans h)

end Device

end YumeDisk.Miniport
