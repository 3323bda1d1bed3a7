import YumeDisk.Kmdf.SlotRequest
import YumeDisk.Lib.Update

/-!
# A slot request is completed once

* `Coherent`: where the three threads of a job can be at one time, what the object is like then, and
  what has been done for the job.
* `Inv`, `step_inv`: the invariant.  Only the job that holds an object changes it.
* `Transport.progress`: a job that is not at rest has a next step.
* `slot_request_once`: runs.
-/

namespace YumeDisk.Kmdf.SlotTransport

open YumeDisk.Lib

/-- The object has been filled in for the job. -/
structure SlotRequest.Filled (r : Nat) (x : SlotRequest) : Prop where
  request : x.request = some r
  sessionContext : x.sessionContext = true

/-- The lower driver or the completion routine has the IRP, and the routine has not swapped. -/
inductive RoutineStage.Running : RoutineStage → Prop
  | driver : Running .driver
  | entered : Running .entered
  | storing : Running .storing
  | swapping : Running .swapping

def ReleaseStage.released : ReleaseStage → Nat
  | .clearing | .inserting => 0
  | .dereferencing => 1

def FinishStage.ledger : FinishStage → Ledger
  | .completing _ => { acquired := 1 }
  | .releasingSlot => { acquired := 1, completed := 1 }
  | .releasing stage =>
    { acquired := 1, completed := 1, slotReleased := 1, poolReleased := stage.released }

def Ledger.settled : Ledger := ⟨1, 1, 1, 1⟩

/-- The object is still as it was filled in. -/
def FinishStage.Needs (r : Nat) (x : SlotRequest) : FinishStage → Prop
  | .completing _ | .releasingSlot => x.Filled r
  | .releasing _ => True

/-- **Where the threads of a job can be**, its ledger, and whether it holds its object. -/
inductive Coherent (r : Nat) : Job → SlotRequest → Ledger → Bool → Prop
  | early {event stage x} (hs : stage = .acquiring ∨ stage = .referenced ∨ stage = .taking ∨
      stage = .creating) : Coherent r { event, submit := stage } x {} false
  | filling {event o stage x} (hs : stage.uses = true)
      (hevent : stage = .reserving → event.isSome = true)
      (hx : stage = .reserving ∨ stage = .allocating ∨ stage = .queueing →
        x.Filled r ∧ x.completionState = 0) :
      Coherent r { event, slot := some o, submit := stage } x { acquired := 1 } true
  | failed {event slot stage x} (hs : stage = .releasing .dereferencing ∨ stage = .failed) :
      Coherent r { event, slot, submit := stage } x
        { acquired := slot.isSome.toNat, poolReleased := slot.isSome.toNat } false
  | failing {event slot x} : Coherent r { event, slot, submit := .completing } x
      { acquired := slot.isSome.toNat, poolReleased := slot.isSome.toNat, slotReleased := 1 } false
  | refused {event slot x} : Coherent r { event, slot, submit := .returned } x
      { acquired := slot.isSome.toNat, poolReleased := slot.isSome.toNat, slotReleased := 1,
        completed := 1 } false
  | sending {event o work x} (hw : work = .queued ∨ work = .calling) (hx : x.Filled r)
      (hstate : x.completionState = 0) :
      Coherent r { event, slot := some o, submit := .returned, work } x { acquired := 1 } true
  | calling {event o work routine x}
      (hw : work = .inDriver ∨ ∃ status, work = .swapping status ∧
        (status.isSome = true → routine = .returned)) (hx : x.Filled r)
      (hr : routine.Running ∧ x.completionState = 0 ∨
        routine = .returned ∧ x.completionState = 2) :
      Coherent r { event, slot := some o, submit := .returned, work, routine } x { acquired := 1 }
        true
  | dispatched {event o stage routine x} (hr : routine = .idle ∨ routine = .returned)
      (hx : stage.Needs r x) : Coherent r
        { event, slot := some o, submit := .returned, work := .finishing stage, routine } x
        stage.ledger stage.uses
  | waiting {event o routine x} (hr : routine.Running) (hx : x.Filled r)
      (hstate : x.completionState = 1) : Coherent r
        { event, slot := some o, submit := .returned, work := .returned, routine } x
        { acquired := 1 } true
  | routed {event o stage x} (hx : stage.Needs r x) : Coherent r
      { event, slot := some o, submit := .returned, work := .returned,
        routine := .finishing stage } x stage.ledger stage.uses
  | done {event o routine x} (hr : routine = .idle ∨ routine = .returned) : Coherent r
      { event, slot := some o, submit := .returned, work := .returned, routine } x
      Ledger.settled false

/-- Without its object, nothing is said of the object. -/
theorem Coherent.frame {r : Nat} {j : Job} {x y : SlotRequest} {l : Ledger}
    (h : Coherent r j x l false) : Coherent r j y l false := by
  generalize hb : false = b at h
  cases h with
  | early hs => exact .early hs
  | filling hs hevent hx => cases hb
  | failed hs => exact .failed hs
  | failing => exact .failing
  | refused => exact .refused
  | sending hw hx hstate => cases hb
  | calling hw hx hr => cases hb
  | @dispatched event o stage routine x hr hx =>
    refine .dispatched hr ?_
    cases stage with
    | completing io => cases hb
    | releasingSlot => cases hb
    | releasing stage => trivial
  | waiting hr hx hstate => cases hb
  | @routed event o stage x hx =>
    refine .routed ?_
    cases stage with
    | completing io => cases hb
    | releasingSlot => cases hb
    | releasing stage => trivial
  | done hr => exact .done hr

namespace Transport

variable {s s' : Transport} {r o : Nat} {j j' : Job}

def objectOf (s : Transport) (j : Job) : SlotRequest := s.objects (j.slot.getD 0)

/-- The job is coherent with its object and its ledger. -/
def Kept (s : Transport) (r : Nat) (j : Job) : Prop :=
  ∃ holds, Coherent r j (s.objectOf j) (s.ledger r) holds ∧
    (holds = true → ∃ o, j.slot = some o ∧ (s.objects o).holder = some r)

structure Inv (s : Transport) : Prop where
  jobs : ∀ r j, s.jobs r = some j → s.Kept r j
  fresh : ∀ r, s.jobs r = none → s.ledger r = {}
  free : ∀ o ∈ s.freeList, (s.objects o).holder = none
  nodup : s.freeList.Nodup
  created : ∀ o, s.created ≤ o → (s.objects o).holder = none ∧ o ∉ s.freeList
  null : s.nullCompleted = false

/-- What a step of a job leaves of the others. -/
structure Own (r : Nat) (s s' : Transport) : Prop where
  ledger : ∀ r', r' ≠ r → s'.ledger r' = s.ledger r'
  objects : ∀ o r', r' ≠ r → (s.objects o).holder = some r' → s'.objects o = s.objects o

/-- **A step of one job** keeps the others. -/
theorem Inv.update (h : s.Inv) (ho : Own r s s')
    (hjobs : s'.jobs = Function.update s.jobs r (some j')) (hkept : s'.Kept r j')
    (hfree : ∀ o ∈ s'.freeList, (s'.objects o).holder = none) (hnodup : s'.freeList.Nodup)
    (hcreated : ∀ o, s'.created ≤ o → (s'.objects o).holder = none ∧ o ∉ s'.freeList)
    (hnull : s'.nullCompleted = false) : s'.Inv := by
  refine ⟨fun r' j hj => ?_, fun r' hr' => ?_, hfree, hnodup, hcreated, hnull⟩
  · rw [hjobs] at hj
    rcases update_some hj with ⟨rfl, rfl⟩ | ⟨hr, hj⟩
    · exact hkept
    · obtain ⟨holds, hc, hholds⟩ := h.jobs r' j hj
      refine ⟨holds, ?_, fun hb => ?_⟩
      · rw [ho.ledger r' hr]
        cases holds with
        | false => exact hc.frame
        | true =>
          obtain ⟨o, hslot, hholder⟩ := hholds rfl
          have hobj : s'.objectOf j = s.objectOf j := by
            unfold objectOf
            rw [hslot]
            exact ho.objects o r' hr hholder
          rw [hobj]
          exact hc
      · obtain ⟨o, hslot, hholder⟩ := hholds hb
        exact ⟨o, hslot, by rw [ho.objects o r' hr hholder, hholder]⟩
  · rw [hjobs] at hr'
    by_cases hr : r' = r
    · subst hr
      rw [Function.update_self] at hr'
      cases hr'
    · rw [Function.update_of_ne hr] at hr'
      rw [ho.ledger r' hr]
      exact h.fresh r' hr'

/-- A step that gives no object to anyone. -/
theorem Inv.move (h : s.Inv) (ho : Own r s s')
    (hjobs : s'.jobs = Function.update s.jobs r (some j')) (hkept : s'.Kept r j')
    (hholder : ∀ o, (s'.objects o).holder = (s.objects o).holder)
    (hfree : s'.freeList = s.freeList) (hcreated : s'.created = s.created)
    (hnull : s'.nullCompleted = false) : s'.Inv := by
  refine h.update ho hjobs hkept (fun o hx => ?_) (hfree ▸ h.nodup) (fun o hx => ?_) hnull
  · rw [hholder]
    exact h.free o (hfree ▸ hx)
  · rw [hholder, hfree]
    exact h.created o (hcreated ▸ hx)

/-- A job that only goes on. -/
theorem Inv.goto (h : s.Inv) (hkept : s.Kept r j') : (s.setJob r j').Inv :=
  h.move ⟨fun _ _ => rfl, fun _ _ _ _ => rfl⟩ rfl hkept (fun _ => rfl) rfl rfl h.null

/-- A job changes the object that it holds. -/
theorem Inv.setObject (h : s.Inv) (hholder : (s.objects o).holder = some r) {x : SlotRequest}
    (hx : x.holder = some r) (hkept : (s.setObject o x).Kept r j') :
    ((s.setObject o x).setJob r j').Inv := by
  refine h.move ⟨fun _ _ => rfl, fun o' r' hr' ho' => ?_⟩ rfl hkept (fun o' => ?_) rfl rfl h.null
  · refine Function.update_of_ne ?_ _ _
    rintro rfl
    rw [hholder] at ho'
    exact hr' (Option.some.inj ho').symm
  · show (Function.update s.objects o x o').holder = _
    by_cases ho' : o' = o
    · rw [ho', Function.update_self, hx, hholder]
    · rw [Function.update_of_ne ho']

theorem setObject_self (s : Transport) (o : Nat) (x : SlotRequest) :
    (s.setObject o x).objects o = x := Function.update_self _ _ _

/-- A job is coherent with the object that it has changed. -/
theorem objectOf_setObject {x : SlotRequest} {l : Ledger} {holds : Bool} {event : Option Nat}
    {submit : SubmitStage} {work : WorkStage} {routine : RoutineStage} (hl : s.ledger r = l)
    (hc : Coherent r { event, slot := some o, submit, work, routine } x l holds) :
    Coherent r { event, slot := some o, submit, work, routine }
      ((s.setObject o x).objectOf { event, slot := some o, submit, work, routine })
      ((s.setObject o x).ledger r) holds := by
  have hobj : (s.setObject o x).objectOf { event, slot := some o, submit, work, routine } = x :=
    setObject_self s o x
  have hl' : (s.setObject o x).ledger r = l := hl
  rw [hobj, hl']
  exact hc

theorem bump_self (s : Transport) (r : Nat) (f : Ledger → Ledger) :
    (s.bump r f).ledger r = f (s.ledger r) := Function.update_self _ _ _

/-! ## Objects change hands -/

/-- **A job gets an object** that nobody has. -/
theorem Inv.take {freeList : List Nat} {created : Nat} (h : s.Inv)
    (hnone : (s.objects o).holder = none) (hnotin : o ∉ freeList) (hsub : freeList.Sublist s.freeList)
    (hlt : o < created) (hle : s.created ≤ created)
    (hj : j'.slot = some o) (hkept : ∀ x, Coherent r j' x (s.ledger r).acquire true) :
    (({ s with freeList, created }.take r o).setJob r j').Inv := by
  have hself : (({ s with freeList, created }.take r o).setJob r j').objects o =
      { s.objects o with holder := some r } := Function.update_self _ _ _
  have hother : ∀ o', o' ≠ o → (({ s with freeList, created }.take r o).setJob r j').objects o' =
      s.objects o' := fun o' ho => Function.update_of_ne ho _ _
  have hledger : (({ s with freeList, created }.take r o).setJob r j').ledger r =
      (s.ledger r).acquire := Function.update_self _ _ _
  refine h.update ⟨fun r' hr => Function.update_of_ne hr _ _, fun o' r' _ ho' => ?_⟩ rfl ?_ ?_
    (h.nodup.sublist hsub) ?_ h.null
  · refine hother o' ?_
    rintro rfl
    rw [hnone] at ho'
    cases ho'
  · refine ⟨true, ?_, fun _ => ⟨o, hj, by rw [hself]⟩⟩
    rw [hledger]
    exact hkept _
  · intro o' ho'
    have hne : o' ≠ o := fun heq => hnotin (heq ▸ ho')
    rw [hother o' hne]
    exact h.free o' (hsub.subset ho')
  · intro o' ho'
    have hle' : created ≤ o' := ho'
    rw [hother o' (by omega)]
    obtain ⟨hholder, hmem⟩ := h.created o' (by omega)
    exact ⟨hholder, fun hin => hmem (hsub.subset hin)⟩

/-- **A job gives its object back**. -/
theorem Inv.insert (h : s.Inv) (hholder : (s.objects o).holder = some r)
    (hkept : ∀ x, Coherent r j' x (s.ledger r).releasePool false) :
    ((s.release r o .inserting).1.setJob r j').Inv := by
  have hmem : o ∉ s.freeList := fun hin => by
    rw [h.free o hin] at hholder
    cases hholder
  have hself : ((s.release r o .inserting).1.setJob r j').objects o =
      { s.objects o with holder := none } := Function.update_self _ _ _
  have hother : ∀ o', o' ≠ o → ((s.release r o .inserting).1.setJob r j').objects o' =
      s.objects o' := fun o' ho => Function.update_of_ne ho _ _
  have hledger : ((s.release r o .inserting).1.setJob r j').ledger r =
      (s.ledger r).releasePool := Function.update_self _ _ _
  refine h.update ⟨fun r' hr => Function.update_of_ne hr _ _, fun o' r' hr ho' => ?_⟩ rfl ?_ ?_ ?_ ?_
    h.null
  · refine hother o' ?_
    rintro rfl
    rw [hholder] at ho'
    exact hr (Option.some.inj ho').symm
  · refine ⟨false, ?_, fun hb => by cases hb⟩
    rw [hledger]
    exact hkept _
  · intro o' ho'
    by_cases heq : o' = o
    · rw [heq, hself]
    · rw [hother o' heq]
      rcases List.mem_append.mp ho' with hin | hin
      · exact h.free o' hin
      · exact absurd (List.mem_singleton.mp hin) heq
  · refine List.nodup_append.mpr ⟨h.nodup, by simp, ?_⟩
    rintro a ha b hb rfl
    exact hmem (List.mem_singleton.mp hb ▸ ha)
  · intro o' ho'
    obtain ⟨hnone, hnotin⟩ := h.created o' ho'
    have hne : o' ≠ o := by
      rintro rfl
      rw [hnone] at hholder
      cases hholder
    rw [hother o' hne]
    refine ⟨hnone, fun hin => ?_⟩
    rcases List.mem_append.mp hin with hin | hin
    · exact hnotin hin
    · exact hne (List.mem_singleton.mp hin)

theorem clearPendingEventSlot_spec (s : Transport) (o : Nat) :
    ∃ slots, s.clearPendingEventSlot o = { s with pendingEventSlots := slots } := by
  unfold clearPendingEventSlot
  split
  · exact ⟨_, rfl⟩
  · split
    · exact ⟨_, rfl⟩
    · exact ⟨_, rfl⟩

theorem Inv.setPending (h : s.Inv) (slots : Nat → Option Nat) :
    Inv { s with pendingEventSlots := slots } := ⟨h.1, h.2, h.3, h.4, h.5, h.6⟩

/-- **A step of a release.** -/
theorem Inv.release (h : s.Inv) {stage : ReleaseStage}
    (hheld : stage.uses = true → (s.objects o).holder = some r)
    (hslot : j'.slot = some o ∨ stage = .dereferencing)
    (hkept : ∀ x, Coherent r j' x
      (if stage = .inserting then (s.ledger r).releasePool else s.ledger r)
      (decide (stage = .clearing))) :
    ((s.release r o stage).1.setJob r j').Inv := by
  cases stage with
  | clearing =>
    obtain ⟨slots, hslots⟩ := s.clearPendingEventSlot_spec o
    have hholder := hheld rfl
    have hs : (s.release r o .clearing).1 =
        { s with pendingEventSlots := slots }.setObject o (s.objects o).reset := by
      rw [← hslots]
      rfl
    rw [hs]
    refine (h.setPending slots).setObject hholder hholder ⟨true, hkept _, fun _ => ⟨o, ?_, ?_⟩⟩
    · exact hslot.resolve_right (by decide)
    · rw [setObject_self]
      exact hholder
  | inserting => exact h.insert (hheld rfl) hkept
  | dereferencing =>
    exact h.move ⟨fun _ _ => rfl, fun _ _ _ _ => rfl⟩ rfl ⟨false, hkept _, fun hb => by cases hb⟩
      (fun _ => rfl) rfl rfl h.null

/-- **A step of a completion.** -/
theorem Inv.finish (h : s.Inv) {stage : FinishStage} {f : Option FinishStage → Job}
    (hheld : stage.uses = true → (s.objects o).holder = some r)
    (hneeds : stage.Needs r (s.objects o)) (hl : s.ledger r = stage.ledger)
    (hslot : ∀ n, (f n).slot = some o)
    (hsome : ∀ stage' x, stage'.Needs r x →
      Coherent r (f (some stage')) x stage'.ledger stage'.uses)
    (hnone : ∀ x, Coherent r (f none) x Ledger.settled false) :
    ((s.finish r o stage).1.setJob r (f (s.finish r o stage).2)).Inv := by
  have hobj : ∀ (t : Transport) n, t.objectOf (f n) = t.objects o := fun t n => by
    unfold objectOf
    rw [hslot]
    rfl
  cases stage with
  | completing io =>
    have hrequest : (s.objects o).request = some r := hneeds.request
    have hs : s.finish r o (.completing io) =
        (s.bump r Ledger.complete, some .releasingSlot) := by
      unfold Transport.finish
      rw [hrequest]
      rfl
    rw [hs]
    refine h.move ⟨fun r' hr => Function.update_of_ne hr _ _, fun _ _ _ _ => rfl⟩ rfl
      ⟨true, ?_, fun _ => ⟨o, hslot _, hheld rfl⟩⟩ (fun _ => rfl) rfl rfl h.null
    show Coherent r (f (some .releasingSlot)) ((s.bump r Ledger.complete).objectOf _)
      ((s.bump r Ledger.complete).ledger r) true
    rw [bump_self, hl, hobj]
    exact hsome .releasingSlot _ hneeds
  | releasingSlot =>
    have hsession : (s.objects o).sessionContext = true := hneeds.sessionContext
    have hs : s.finish r o .releasingSlot = (s.releaseSlot r, some (.releasing .clearing)) := by
      unfold Transport.finish
      rw [if_pos hsession]
    rw [hs]
    refine h.move ⟨fun r' hr => Function.update_of_ne hr _ _, fun _ _ _ _ => rfl⟩ rfl
      ⟨true, ?_, fun _ => ⟨o, hslot _, hheld rfl⟩⟩ (fun _ => rfl) rfl rfl h.null
    have hl' : (s.releaseSlot r).ledger r = (s.ledger r).releaseSlot := Function.update_self _ _ _
    show Coherent r (f (some (.releasing .clearing))) ((s.releaseSlot r).objectOf _)
      ((s.releaseSlot r).ledger r) true
    rw [hl', hl, hobj]
    exact hsome (.releasing .clearing) _ trivial
  | releasing stage =>
    have hi : ∀ j', j'.slot = some o → (∀ x, Coherent r j' x
        (if stage = .inserting then (s.ledger r).releasePool else s.ledger r)
        (decide (stage = .clearing))) → ((s.release r o stage).1.setJob r j').Inv :=
      fun j' hj' hk => h.release hheld (.inl hj') hk
    rw [hl] at hi
    cases stage with
    | clearing => exact hi _ (hslot _) fun x => hsome (.releasing .inserting) x trivial
    | inserting => exact hi _ (hslot _) fun x => hsome (.releasing .dereferencing) x trivial
    | dereferencing => exact hi _ (hslot _) hnone

/-! ## The ioctl -/

theorem step_submit {ok : Bool} (h : s.Inv) (hj : s.jobs r = some j)
    (hs : s.submit r j ok = some s') : s'.Inv := by
  obtain ⟨holds, hc, hholds⟩ := h.jobs r j hj
  generalize hl : s.ledger r = l at hc
  generalize hx : s.objectOf j = x at hc
  cases hc with
  | @early event stage x hstage =>
    have hkept : ∀ stage, (stage = .acquiring ∨ stage = .referenced ∨ stage = .taking ∨
        stage = .creating) → s.Kept r { event, submit := stage } :=
      fun stage hst => ⟨false, hl ▸ .early hst, fun hb => by cases hb⟩
    have hfailed : ∀ stage, (stage = .releasing .dereferencing ∨ stage = .failed) →
        s.Kept r { event, submit := stage } :=
      fun stage hst => ⟨false, hl ▸ .failed hst, fun hb => by cases hb⟩
    rcases hstage with rfl | rfl | rfl | rfl
    · unfold submit at hs
      dsimp only at hs
      split_ifs at hs with hrun
      · cases hs
        exact h.move ⟨fun _ _ => rfl, fun _ _ _ _ => rfl⟩ rfl (hkept .referenced (by simp))
          (fun _ => rfl) rfl rfl h.null
      · cases hs
        exact h.goto (hfailed .failed (by simp))
    · cases hs
      by_cases hrun : s.running = true
      · rw [if_pos hrun]
        exact h.goto (hkept .taking (by simp))
      · rw [if_neg hrun]
        exact h.goto (hfailed (.releasing .dereferencing) (by simp))
    · unfold submit at hs
      dsimp only at hs
      cases hlist : s.freeList with
      | nil =>
        rw [hlist] at hs
        cases hs
        exact h.goto (hkept .creating (by simp))
      | cons o freeList =>
        rw [hlist] at hs
        cases hs
        have hmem : o ∈ s.freeList := by rw [hlist]; exact List.mem_cons_self
        have hnodup := h.nodup
        rw [hlist, List.nodup_cons] at hnodup
        refine h.take (h.free o hmem) hnodup.1 (by rw [hlist]; exact List.sublist_cons_self o _) ?_
          (Nat.le_refl _) rfl fun x => ?_
        · by_contra hle
          exact (h.created o (Nat.le_of_not_lt hle)).2 hmem
        · rw [hl]
          exact .filling rfl (by simp) (by simp)
    · unfold submit at hs
      dsimp only at hs
      split_ifs at hs with hok
      · cases hs
        obtain ⟨hnone, hnotin⟩ := h.created s.created (Nat.le_refl _)
        refine h.take hnone hnotin (List.Sublist.refl _) (Nat.lt_succ_self _) (Nat.le_succ _) rfl
          fun x => ?_
        rw [hl]
        exact .filling rfl (by simp) (by simp)
      · cases hs
        exact h.goto (hfailed (.releasing .dereferencing) (by simp))
  | @filling event o stage x hstage hevent hfill =>
    obtain ⟨o', ho', hholder⟩ := hholds rfl
    cases ho'
    have hkept : ∀ stage : SubmitStage, stage.uses = true →
        (stage = .reserving → event.isSome = true) →
        (stage = .reserving ∨ stage = .allocating ∨ stage = .queueing →
          x.Filled r ∧ x.completionState = 0) →
          s.Kept r { event, slot := some o, submit := stage } := by
      intro stage hst hev hf
      refine ⟨true, ?_, fun _ => ⟨o, rfl, hholder⟩⟩
      rw [hl]
      exact .filling hst hev fun hor => by
        have := hf hor
        rwa [← hx] at this
    have hclear : s.Kept r { event, slot := some o, submit := .releasing .clearing } :=
      hkept (.releasing .clearing) rfl (by simp) (by simp)
    cases stage with
    | acquiring | referenced | taking | creating | failed | completing | returned => cases hstage
    | fitting =>
      cases hs
      cases ok with
      | true => exact h.goto (hkept .preparing rfl (by simp) (by simp))
      | false => exact h.goto hclear
    | preparing =>
      cases hs
      refine h.setObject hholder hholder ⟨true, ?_, fun _ => ⟨o, rfl, ?_⟩⟩
      · refine objectOf_setObject hl (.filling ?_ ?_ fun _ => ⟨⟨rfl, rfl⟩, rfl⟩)
        · cases event <;> rfl
        · cases event with
          | none => exact fun hst => by cases hst
          | some t => exact fun _ => rfl
      · rw [setObject_self]
        exact hholder
    | reserving =>
      cases event with
      | none => cases hs
      | some t =>
        unfold submit at hs
        dsimp only at hs
        split_ifs at hs with hfree
        · cases hs
          refine (h.setPending _).goto ?_
          exact hkept .allocating rfl (by simp) fun _ => hfill (by simp)
        · cases hs
          exact h.goto hclear
    | allocating =>
      unfold submit at hs
      dsimp only at hs
      obtain ⟨hf, hstate⟩ := hfill (by simp)
      split_ifs at hs with hok
      · cases hs
        have hobj : s.objects o = x := hx
        refine h.setObject hholder hholder ⟨true, ?_, fun _ => ⟨o, rfl, ?_⟩⟩
        · refine objectOf_setObject hl ?_
          rw [hobj]
          exact .filling rfl (by simp) fun _ => ⟨⟨hf.request, hf.sessionContext⟩, hstate⟩
        · rw [setObject_self]
          exact hholder
      · cases hs
        exact h.goto hclear
    | queueing =>
      unfold submit at hs
      dsimp only at hs
      obtain ⟨hf, hstate⟩ := hfill (by simp)
      split_ifs at hs with hrun
      · cases hs
        refine h.goto ⟨true, ?_, fun _ => ⟨o, rfl, hholder⟩⟩
        rw [hl]
        refine .sending (.inl rfl) ?_ ?_
        · exact hx ▸ hf
        · exact hx ▸ hstate
      · cases hs
        exact h.goto hclear
    | releasing stage =>
      cases hs
      cases stage with
      | dereferencing => cases hstage
      | clearing =>
        have hi : ((s.release r o .clearing).1.setJob r
            { event, slot := some o, submit := .releasing .inserting }).Inv := by
          refine h.release (fun _ => hholder) (.inl rfl) fun y => ?_
          rw [if_neg (by decide), hl]
          exact .filling rfl (by simp) (by simp)
        exact hi
      | inserting =>
        have hi : ((s.release r o .inserting).1.setJob r
            { event, slot := some o, submit := .releasing .dereferencing }).Inv := by
          refine h.release (fun _ => hholder) (.inl rfl) fun y => ?_
          rw [if_pos rfl, hl]
          exact .failed (.inl rfl)
        exact hi
  | @failed event slot stage x hstage =>
    rcases hstage with rfl | rfl
    · cases hs
      have hi : ((s.release r (slot.getD 0) .dereferencing).1.setJob r
          { event, slot, submit := .failed }).Inv := by
        refine h.release (fun hu => by cases hu) (.inr rfl) fun y => ?_
        rw [if_neg (by decide), hl]
        exact .failed (.inr rfl)
      exact hi
    · cases hs
      refine h.move ⟨fun r' hr => Function.update_of_ne hr _ _, fun _ _ _ _ => rfl⟩ rfl
        ⟨false, ?_, fun hb => by cases hb⟩ (fun _ => rfl) rfl rfl h.null
      have hl' : (s.releaseSlot r).ledger r = (s.ledger r).releaseSlot := Function.update_self _ _ _
      show Coherent r _ _ ((s.releaseSlot r).ledger r) false
      rw [hl', hl]
      exact .failing
  | @failing event slot x =>
    cases hs
    refine h.move ⟨fun r' hr => Function.update_of_ne hr _ _, fun _ _ _ _ => rfl⟩ rfl
      ⟨false, ?_, fun hb => by cases hb⟩ (fun _ => rfl) rfl rfl h.null
    have hl' : (s.completeRequest (some r)).ledger r = (s.ledger r).complete :=
      Function.update_self _ _ _
    show Coherent r _ _ ((s.completeRequest (some r)).ledger r) false
    rw [hl', hl]
    exact .refused
  | refused | sending | calling | dispatched | waiting | routed | done => cases hs

/-! ## The work item and the completion routine -/

theorem swap_zero {x : SlotRequest} {n : Nat} (h : x.completionState = 0) :
    x.swap n = (0, { x with completionState := n }) := if_pos h

theorem swap_one {x : SlotRequest} {n : Nat} (h : x.completionState = 1) : x.swap n = (1, x) := by
  rw [SlotRequest.swap, if_neg (by omega), h]

theorem swap_two {x : SlotRequest} {n : Nat} (h : x.completionState = 2) : x.swap n = (2, x) := by
  rw [SlotRequest.swap, if_neg (by omega), h]

/-- Where `finish` leaves the work item. -/
def WorkStage.after : Option FinishStage → WorkStage
  | some stage => .finishing stage
  | none => .returned

/-- Where `finish` leaves the routine. -/
def RoutineStage.after : Option FinishStage → RoutineStage
  | some stage => .finishing stage
  | none => .returned

theorem step_work {status : Option Int} (h : s.Inv) (hj : s.jobs r = some j)
    (hs : s.work r j status = some s') : s'.Inv := by
  obtain ⟨holds, hc, hholds⟩ := h.jobs r j hj
  generalize hl : s.ledger r = l at hc
  generalize hx : s.objectOf j = x at hc
  cases hc with
  | early => cases hs
  | @failed event slot | @failing event slot | @refused event slot => cases slot <;> cases hs
  | filling | waiting | routed | done => cases hs
  | @sending event o work x hwork hf hstate =>
    obtain ⟨o', ho', hholder⟩ := hholds rfl
    cases ho'
    rcases hwork with rfl | rfl
    · cases hs
      by_cases hrun : s.running = true
      · rw [if_pos hrun]
        refine h.goto ⟨true, ?_, fun _ => ⟨o, rfl, hholder⟩⟩
        rw [hl]
        exact .sending (.inr rfl) (hx ▸ hf) (hx ▸ hstate)
      · rw [if_neg hrun]
        refine h.goto ⟨true, ?_, fun _ => ⟨o, rfl, hholder⟩⟩
        rw [hl]
        exact .dispatched (.inl rfl) (hx ▸ hf)
    · cases hs
      refine h.goto ⟨true, ?_, fun _ => ⟨o, rfl, hholder⟩⟩
      rw [hl]
      exact .calling (.inl rfl) (hx ▸ hf) (.inl ⟨.driver, hx ▸ hstate⟩)
  | @calling event o work routine x hwork hf hr =>
    obtain ⟨o', ho', hholder⟩ := hholds rfl
    cases ho'
    have hobj : s.objects o = x := hx
    rcases hwork with rfl | ⟨status', rfl, hstatus⟩
    · unfold work at hs
      dsimp only [Option.bind_some] at hs
      split_ifs at hs with hpending
      cases hs
      refine h.goto ⟨true, ?_, fun _ => ⟨o, rfl, hholder⟩⟩
      rw [hl]
      refine .calling (.inr ⟨status, rfl, fun hst => ?_⟩) (hx ▸ hf) (hx ▸ hr)
      by_contra hne
      exact hpending ⟨hst, hne⟩
    · rcases hr with ⟨hrunning, hstate⟩ | ⟨rfl, hstate⟩
      · have hnone : status' = none := by
          cases status' with
          | none => rfl
          | some st =>
            have hret := hstatus rfl
            subst hret
            cases hrunning
        subst hnone
        have hs' : s' = (s.setObject o { x with completionState := 1 }).setJob r
            { event, slot := some o, submit := .returned, work := .returned, routine } := by
          simp only [Transport.work, Option.bind_some, hobj, swap_zero hstate] at hs
          exact (Option.some.inj hs).symm
        rw [hs']
        refine h.setObject hholder (hobj ▸ hholder) ⟨true, ?_, fun _ => ⟨o, rfl, ?_⟩⟩
        · refine objectOf_setObject hl ?_
          exact .waiting hrunning ⟨hf.request, hf.sessionContext⟩ rfl
        · rw [setObject_self]
          exact hobj ▸ hholder
      · have hs' : s' = (s.setObject o x).setJob r
            { event, slot := some o, submit := .returned
              work := .finishing (.completing x.stored), routine := .returned } := by
          simp only [Transport.work, Option.bind_some, hobj, swap_two hstate] at hs
          exact (Option.some.inj hs).symm
        rw [hs']
        refine h.setObject hholder (hobj ▸ hholder) ⟨true, ?_, fun _ => ⟨o, rfl, ?_⟩⟩
        · exact objectOf_setObject hl (.dispatched (.inr rfl) hf)
        · rw [setObject_self]
          exact hobj ▸ hholder
  | @dispatched event o stage routine x hr hneeds =>
    cases hs
    have hi := h.finish (r := r) (o := o)
      (f := fun next => {
        event, slot := some o, submit := .returned, routine
        work := WorkStage.after next })
      (fun hu => (hholds hu).elim fun o' ho' => by cases ho'.1; exact ho'.2)
      (by rw [← hx] at hneeds; exact hneeds) hl (fun _ => rfl)
      (fun stage' x hn => .dispatched hr hn) fun x => .done hr
    unfold WorkStage.after at hi
    exact hi

theorem step_routine (h : s.Inv) (hj : s.jobs r = some j) (hs : s.routine r j = some s') :
    s'.Inv := by
  obtain ⟨holds, hc, hholds⟩ := h.jobs r j hj
  generalize hl : s.ledger r = l at hc
  generalize hx : s.objectOf j = x at hc
  cases hc with
  | early => cases hs
  | @failed event slot | @failing event slot | @refused event slot => cases slot <;> cases hs
  | filling | sending => cases hs
  | @calling event o work routine x hw hf hr =>
    obtain ⟨o', ho', hholder⟩ := hholds rfl
    cases ho'
    have hobj : s.objects o = x := hx
    rcases hr with ⟨hrunning, hstate⟩ | ⟨rfl, hstate⟩
    · have hw' : ∀ routine', work = .inDriver ∨ ∃ status, work = .swapping status ∧
          (status.isSome = true → routine' = RoutineStage.returned) := by
        intro routine'
        rcases hw with hw | ⟨status, hw, hstatus⟩
        · exact .inl hw
        · refine .inr ⟨status, hw, fun hst => ?_⟩
          have hret := hstatus hst
          subst hret
          cases hrunning
      cases hrunning with
      | driver => cases hs
      | entered =>
        cases hs
        refine h.setObject hholder hholder ⟨true, ?_, fun _ => ⟨o, rfl, ?_⟩⟩
        · refine objectOf_setObject hl ?_
          rw [hobj]
          exact .calling (hw' _) ⟨hf.request, hf.sessionContext⟩ (.inl ⟨.storing, hstate⟩)
        · rw [setObject_self]
          exact hholder
      | storing =>
        cases hs
        refine h.setObject hholder hholder ⟨true, ?_, fun _ => ⟨o, rfl, ?_⟩⟩
        · refine objectOf_setObject hl ?_
          rw [hobj]
          exact .calling (hw' _) ⟨hf.request, hf.sessionContext⟩ (.inl ⟨.swapping, hstate⟩)
        · rw [setObject_self]
          exact hholder
      | swapping =>
        have hs' : s' = (s.setObject o { x with completionState := 2 }).setJob r
            { event, slot := some o, submit := .returned, work, routine := .returned } := by
          simp only [Transport.routine, Option.bind_some, hobj, swap_zero hstate] at hs
          exact (Option.some.inj hs).symm
        rw [hs']
        refine h.setObject hholder (hobj ▸ hholder) ⟨true, ?_, fun _ => ⟨o, rfl, ?_⟩⟩
        · refine objectOf_setObject hl ?_
          exact .calling (hw' _) ⟨hf.request, hf.sessionContext⟩ (.inr ⟨rfl, rfl⟩)
        · rw [setObject_self]
          exact hobj ▸ hholder
    · cases hs
  | dispatched hr hneeds => rcases hr with rfl | rfl <;> cases hs
  | @waiting event o routine x hrunning hf hstate =>
    obtain ⟨o', ho', hholder⟩ := hholds rfl
    cases ho'
    have hobj : s.objects o = x := hx
    cases hrunning with
    | driver => cases hs
    | entered =>
      cases hs
      refine h.setObject hholder hholder ⟨true, ?_, fun _ => ⟨o, rfl, ?_⟩⟩
      · refine objectOf_setObject hl ?_
        rw [hobj]
        exact .waiting .storing ⟨hf.request, hf.sessionContext⟩ hstate
      · rw [setObject_self]
        exact hholder
    | storing =>
      cases hs
      refine h.setObject hholder hholder ⟨true, ?_, fun _ => ⟨o, rfl, ?_⟩⟩
      · refine objectOf_setObject hl ?_
        rw [hobj]
        exact .waiting .swapping ⟨hf.request, hf.sessionContext⟩ hstate
      · rw [setObject_self]
        exact hholder
    | swapping =>
      have hs' : s' = (s.setObject o x).setJob r
          { event, slot := some o, submit := .returned, work := .returned
            routine := .finishing (.completing x.irpStatus) } := by
        simp only [Transport.routine, Option.bind_some, hobj, swap_one hstate] at hs
        exact (Option.some.inj hs).symm
      rw [hs']
      refine h.setObject hholder (hobj ▸ hholder) ⟨true, ?_, fun _ => ⟨o, rfl, ?_⟩⟩
      · refine objectOf_setObject hl ?_
        exact .routed hf
      · rw [setObject_self]
        exact hobj ▸ hholder
  | @routed event o stage x hneeds =>
    cases hs
    have hi := h.finish (r := r) (o := o)
      (f := fun next => {
        event, slot := some o, submit := .returned, work := .returned
        routine := RoutineStage.after next })
      (fun hu => (hholds hu).elim fun o' ho' => by cases ho'.1; exact ho'.2)
      (by rw [← hx] at hneeds; exact hneeds) hl (fun _ => rfl)
      (fun stage' x hn => .routed hn) fun x => .done (.inr rfl)
    unfold RoutineStage.after at hi
    exact hi
  | done hr => rcases hr with rfl | rfl <;> cases hs

/-! ## The lower driver, and the rest -/

theorem step_complete {io : IoStatus} (h : s.Inv) (hj : s.jobs r = some j) (hslot : j.slot = some o)
    (hdriver : j.routine = .driver) :
    ((s.setObject o { s.objects o with irp := some io }).setJob r
      { j with routine := .entered }).Inv := by
  obtain ⟨holds, hc, hholds⟩ := h.jobs r j hj
  generalize hl : s.ledger r = l at hc
  generalize hx : s.objectOf j = x at hc
  cases hc with
  | early | filling | failed | failing | refused | sending | routed => cases hdriver
  | dispatched hr hneeds => rcases hr with rfl | rfl <;> cases hdriver
  | done hr => rcases hr with rfl | rfl <;> cases hdriver
  | @calling event o' work routine x hw hf hr =>
    cases hslot
    cases hdriver
    obtain ⟨o', ho', hholder⟩ := hholds rfl
    cases ho'
    have hobj : s.objects o = x := hx
    refine h.setObject hholder hholder ⟨true, ?_, fun _ => ⟨o, rfl, ?_⟩⟩
    · refine objectOf_setObject hl ?_
      rw [hobj]
      refine .calling ?_ ⟨hf.request, hf.sessionContext⟩ ?_
      · rcases hw with hw | ⟨status, hw, hstatus⟩
        · exact .inl hw
        · exact .inr ⟨status, hw, fun hst => by cases hstatus hst⟩
      · rcases hr with ⟨-, hstate⟩ | ⟨hret, -⟩
        · exact .inl ⟨.entered, hstate⟩
        · cases hret
    · rw [setObject_self]
      exact hholder
  | @waiting event o' routine x hrunning hf hstate =>
    cases hslot
    obtain ⟨o', ho', hholder⟩ := hholds rfl
    cases ho'
    have hobj : s.objects o = x := hx
    refine h.setObject hholder hholder ⟨true, ?_, fun _ => ⟨o, rfl, ?_⟩⟩
    · refine objectOf_setObject hl ?_
      rw [hobj]
      exact .waiting .entered ⟨hf.request, hf.sessionContext⟩ hstate
    · rw [setObject_self]
      exact hholder

theorem inv_init : Inv {} where
  jobs r j hj := by cases hj
  fresh _ _ := rfl
  free o ho := by cases ho
  nodup := List.nodup_nil
  created _ _ := ⟨rfl, List.not_mem_nil⟩
  null := rfl

/-- **Step lemma.** -/
theorem step_inv (s : Transport) (a : Action) (s' : Transport) (h : s.Inv)
    (hs : s.step a = some s') : s'.Inv := by
  cases a with
  | post r event =>
    simp only [step] at hs
    split_ifs at hs with hpost
    cases hs
    have hi : ({ s with slots := r :: s.slots }.setJob r { event }).Inv := by
      refine h.move ⟨fun _ _ => rfl, fun _ _ _ _ => rfl⟩ rfl ⟨false, ?_, fun hb => by cases hb⟩
        (fun _ => rfl) rfl rfl h.null
      show Coherent r _ _ (s.ledger r) false
      rw [h.fresh r hpost.2]
      exact .early (.inl rfl)
    exact hi
  | submit r ok =>
    obtain ⟨j, hj, hs⟩ := Option.bind_eq_some_iff.mp hs
    exact step_submit h hj hs
  | work r status =>
    obtain ⟨j, hj, hs⟩ := Option.bind_eq_some_iff.mp hs
    exact step_work h hj hs
  | complete r io =>
    obtain ⟨j, hj, hs⟩ := Option.bind_eq_some_iff.mp hs
    obtain ⟨o, ho, hs⟩ := Option.bind_eq_some_iff.mp hs
    dsimp only at hs
    split_ifs at hs with hdriver
    cases hs
    exact step_complete h hj ho hdriver
  | routine r =>
    obtain ⟨j, hj, hs⟩ := Option.bind_eq_some_iff.mp hs
    exact step_routine h hj hs
  | deactivate =>
    cases hs
    exact ⟨h.jobs, h.fresh, h.free, h.nodup, h.created, h.null⟩
  | beginClose =>
    simp only [step] at hs
    split_ifs at hs
    cases hs
    exact ⟨h.jobs, h.fresh, h.free, h.nodup, h.created, h.null⟩
  | detach =>
    simp only [step] at hs
    split_ifs at hs
    cases hs
    exact ⟨h.jobs, h.fresh, h.free, h.nodup, h.created, h.null⟩
  | destroy =>
    simp only [step] at hs
    split_ifs at hs
    cases hlist : s.freeList with
    | nil => rw [hlist] at hs; cases hs
    | cons o freeList =>
      rw [hlist] at hs
      cases hs
      have hsub : freeList.Sublist s.freeList := hlist ▸ List.sublist_cons_self o freeList
      exact ⟨h.jobs, h.fresh, fun o' ho => h.free o' (hsub.subset ho), h.nodup.sublist hsub,
        fun o' ho => ⟨(h.created o' ho).1, fun hin => (h.created o' ho).2 (hsub.subset hin)⟩, h.null⟩

end Transport

/-! ## What holds in every state -/

/-- At most once each. -/
structure Ledger.Bounded (l : Ledger) : Prop where
  completed : l.completed ≤ 1
  slotReleased : l.slotReleased ≤ 1
  acquired : l.acquired ≤ 1
  poolReleased : l.poolReleased ≤ l.acquired

/-- Once each; an object is given back if there was one. -/
structure Ledger.Settled (l : Ledger) : Prop where
  completed : l.completed = 1
  slotReleased : l.slotReleased = 1
  poolReleased : l.poolReleased = l.acquired

theorem FinishStage.bounded (stage : FinishStage) : stage.ledger.Bounded := by
  cases stage with
  | completing io => exact ⟨Nat.zero_le _, Nat.zero_le _, Nat.le_refl _, Nat.zero_le _⟩
  | releasingSlot => exact ⟨by decide, by decide, by decide, by decide⟩
  | releasing stage => cases stage <;> exact ⟨by decide, by decide, by decide, by decide⟩

namespace Coherent

variable {r : Nat} {j : Job} {x : SlotRequest} {l : Ledger} {holds : Bool}

theorem bounded (h : Coherent r j x l holds) : l.Bounded := by
  have hslot : ∀ slot : Option Nat, slot.isSome.toNat ≤ 1 := fun slot => Bool.toNat_le _
  cases h with
  | early | filling | sending | calling | waiting | done =>
    exact ⟨by decide, by decide, by decide, by decide⟩
  | @failed event slot => exact ⟨Nat.zero_le _, Nat.zero_le _, hslot slot, Nat.le_refl _⟩
  | @failing event slot => exact ⟨Nat.zero_le _, Nat.le_refl _, hslot slot, Nat.le_refl _⟩
  | @refused event slot => exact ⟨Nat.le_refl _, Nat.le_refl _, hslot slot, Nat.le_refl _⟩
  | @dispatched event o stage => exact stage.bounded
  | @routed event o stage => exact stage.bounded

/-- **At rest, everything was done.** -/
theorem settled (h : Coherent r j x l holds) (hrest : j.AtRest) : l.Settled := by
  obtain ⟨hsubmit, hwork, hroutine⟩ := hrest
  cases h with
  | early hs => rcases hs with rfl | rfl | rfl | rfl <;> cases hsubmit
  | filling hs =>
    cases hsubmit
    cases hs
  | failed hs => rcases hs with rfl | rfl <;> cases hsubmit
  | failing => cases hsubmit
  | refused => exact ⟨rfl, rfl, rfl⟩
  | sending hw => rcases hw with rfl | rfl <;> rcases hwork with hwork | hwork <;> cases hwork
  | calling hw =>
    rcases hw with rfl | ⟨status, rfl, -⟩ <;> rcases hwork with hwork | hwork <;> cases hwork
  | dispatched => rcases hwork with hwork | hwork <;> cases hwork
  | waiting hr => rcases hroutine with rfl | rfl <;> cases hr
  | routed => rcases hroutine with hroutine | hroutine <;> cases hroutine
  | done => exact ⟨rfl, rfl, rfl⟩

/-- A thread that uses the object has it. -/
theorem holds_of_uses (h : Coherent r j x l holds) (hu : j.submit.uses = true ∨
    j.work.uses = true ∨ j.routine.uses = true ∨ j.routine = .driver) : holds = true := by
  cases h with
  | filling | sending | calling | waiting => rfl
  | early hs =>
    rcases hs with rfl | rfl | rfl | rfl <;> rcases hu with hu | hu | hu | hu <;> cases hu
  | failed hs => rcases hs with rfl | rfl <;> rcases hu with hu | hu | hu | hu <;> cases hu
  | failing | refused => rcases hu with hu | hu | hu | hu <;> cases hu
  | dispatched hr =>
    rcases hu with hu | hu | hu | hu
    · cases hu
    · exact hu
    · rcases hr with rfl | rfl <;> cases hu
    · rcases hr with rfl | rfl <;> cases hu
  | routed =>
    rcases hu with hu | hu | hu | hu
    · cases hu
    · cases hu
    · exact hu
    · cases hu
  | done hr => rcases hr with rfl | rfl <;> rcases hu with hu | hu | hu | hu <;> cases hu

end Coherent

namespace Transport

variable {s s' : Transport} {r o : Nat} {j : Job}

/-- **An object is used by the job that has it**, and by no other. -/
theorem Inv.holder_of_uses {a : Action} (h : s.Inv) (hs : s.step a = some s')
    (hu : s.Uses a r o) : (s.objects o).holder = some r := by
  have key : ∀ j, s.jobs r = some j → j.slot = some o → (j.submit.uses = true ∨
      j.work.uses = true ∨ j.routine.uses = true ∨ j.routine = .driver) →
        (s.objects o).holder = some r := by
    intro j hj hslot huses
    obtain ⟨holds, hc, hholds⟩ := h.jobs r j hj
    obtain ⟨o', ho', hholder⟩ := hholds (hc.holds_of_uses huses)
    rw [hslot] at ho'
    cases ho'
    exact hholder
  cases a with
  | submit r' ok =>
    obtain ⟨rfl, j, hj, hslot, huses⟩ := hu
    exact key j hj hslot (.inl huses)
  | work r' status =>
    obtain ⟨rfl, j, hj, hslot, huses⟩ := hu
    exact key j hj hslot (.inr (.inl huses))
  | complete r' io =>
    obtain ⟨rfl, j, hj, hslot⟩ := hu
    simp only [step, hj, Option.bind_some, hslot] at hs
    split_ifs at hs with hdriver
    exact key j hj hslot (.inr (.inr (.inr hdriver)))
  | routine r' =>
    obtain ⟨rfl, j, hj, hslot, huses⟩ := hu
    exact key j hj hslot (.inr (.inr (.inl huses)))
  | post | deactivate | beginClose | detach | destroy => cases hu

/-- **A job that is not at rest goes on**: one of its threads has a next step, or the lower driver
has the IRP. -/
theorem Inv.progress (h : s.Inv) (hj : s.jobs r = some j) (hrest : ¬ j.AtRest) :
    ∃ a s', a.job = some r ∧ s.step a = some s' := by
  have hstep : ∀ a : Action, a.job = some r → (s.step a).isSome = true →
      ∃ a s', a.job = some r ∧ s.step a = some s' :=
    fun a ha hs => ⟨a, _, ha, Option.eq_some_of_isSome hs⟩
  have hsubmit : (s.submit r j true).isSome = true → (s.step (.submit r true)).isSome = true := by
    intro hs
    rwa [step, hj]
  have hwork : (s.work r j none).isSome = true → (s.step (.work r none)).isSome = true := by
    intro hs
    rwa [step, hj]
  have hroutine : (s.routine r j).isSome = true → (s.step (.routine r)).isSome = true := by
    intro hs
    rwa [step, hj]
  obtain ⟨holds, hc, -⟩ := h.jobs r j hj
  generalize s.ledger r = l at hc
  generalize s.objectOf j = x at hc
  cases hc with
  | early hs =>
    rcases hs with rfl | rfl | rfl | rfl
    · refine hstep (.submit r true) rfl (hsubmit ?_)
      unfold submit
      dsimp only
      split <;> rfl
    · exact hstep (.submit r true) rfl (hsubmit rfl)
    · refine hstep (.submit r true) rfl (hsubmit ?_)
      unfold submit
      dsimp only
      split <;> rfl
    · exact hstep (.submit r true) rfl (hsubmit rfl)
  | @filling event o stage x hs hev hx =>
    cases stage with
    | acquiring | referenced | taking | creating | failed | completing | returned => cases hs
    | fitting => exact hstep (.submit r true) rfl (hsubmit rfl)
    | preparing => exact hstep (.submit r true) rfl (hsubmit rfl)
    | reserving =>
      obtain ⟨t, rfl⟩ := Option.isSome_iff_exists.mp (hev rfl)
      refine hstep (.submit r true) rfl (hsubmit ?_)
      unfold submit
      dsimp only
      split <;> rfl
    | allocating => exact hstep (.submit r true) rfl (hsubmit rfl)
    | queueing =>
      refine hstep (.submit r true) rfl (hsubmit ?_)
      unfold submit
      dsimp only
      split <;> rfl
    | releasing stage => exact hstep (.submit r true) rfl (hsubmit rfl)
  | failed hs =>
    rcases hs with rfl | rfl
    · exact hstep (.submit r true) rfl (hsubmit rfl)
    · exact hstep (.submit r true) rfl (hsubmit rfl)
  | failing => exact hstep (.submit r true) rfl (hsubmit rfl)
  | refused => exact absurd ⟨rfl, .inl rfl, .inl rfl⟩ hrest
  | sending hw =>
    rcases hw with rfl | rfl
    · exact hstep (.work r none) rfl (hwork rfl)
    · exact hstep (.work r none) rfl (hwork rfl)
  | calling hw =>
    rcases hw with rfl | ⟨status, rfl, -⟩
    · exact hstep (.work r none) rfl (hwork rfl)
    · exact hstep (.work r none) rfl (hwork rfl)
  | dispatched => exact hstep (.work r none) rfl (hwork rfl)
  | waiting hr =>
    cases hr with
    | driver =>
      exact hstep (.complete r ⟨0, 0⟩) rfl (by rw [step, hj]; rfl)
    | entered => exact hstep (.routine r) rfl (hroutine rfl)
    | storing => exact hstep (.routine r) rfl (hroutine rfl)
    | swapping => exact hstep (.routine r) rfl (hroutine rfl)
  | routed => exact hstep (.routine r) rfl (hroutine rfl)
  | done hr => exact absurd ⟨rfl, .inr rfl, hr⟩ hrest

end Transport

/-! ## The counters -/

def SubmitStage.refers : SubmitStage → Bool
  | .acquiring | .failed | .completing | .returned => false
  | _ => true

def WorkStage.refers : WorkStage → Bool
  | .idle | .returned => false
  | _ => true

def RoutineStage.refers : RoutineStage → Bool
  | .idle | .returned => false
  | _ => true

/-- The job has a reference of `ActiveCount`. -/
def Job.refers (j : Job) : Bool := j.submit.refers || j.work.refers || j.routine.refers

theorem SubmitStage.refers_of_uses {stage : SubmitStage} (h : stage.uses = true) :
    stage.refers = true := by
  cases stage <;> first | rfl | cases h

theorem WorkStage.refers_of_uses {stage : WorkStage} (h : stage.uses = true) :
    stage.refers = true := by
  cases stage <;> first | rfl | cases h

theorem RoutineStage.refers_of_uses {stage : RoutineStage} (h : stage.uses = true) :
    stage.refers = true := by
  cases stage <;> first | rfl | cases h

namespace Transport

variable {s s' : Transport} {r o : Nat} {j j' : Job}

/-- The counters count what is there: who may use an object, and who has a slot reference. -/
structure Counted (s : Transport) : Prop where
  actives : ∀ r j, s.jobs r = some j → j.refers = true → r ∈ s.actives
  slots : ∀ r, r ∈ s.slots ↔ (∃ j, s.jobs r = some j) ∧ (s.ledger r).slotReleased = 0
  nodup : s.slots.Nodup

/-- What a step of a job does to the counters. -/
structure Counts (r : Nat) (j j' : Job) (s s' : Transport) : Prop where
  jobs : s'.jobs = Function.update s.jobs r (some j')
  ledger : ∀ r', r' ≠ r → s'.ledger r' = s.ledger r'
  actives : s'.actives = s.actives ∧ (j'.refers = true → j.refers = true) ∨
    s'.actives = r :: s.actives ∨ s'.actives = s.actives.erase r ∧ j'.refers = false
  slots : s'.slots = s.slots ∧ (s'.ledger r).slotReleased = (s.ledger r).slotReleased ∨
    s'.slots = s.slots.erase r ∧ (s'.ledger r).slotReleased = (s.ledger r).slotReleased + 1

theorem Counted.counts (h : s.Counted) (hj : s.jobs r = some j) (hc : Counts r j j' s s') :
    s'.Counted := by
  have hother : ∀ r', r' ≠ r → (r' ∈ s'.slots ↔ r' ∈ s.slots) := by
    intro r' hr
    rcases hc.slots with ⟨hslots, -⟩ | ⟨hslots, -⟩
    · rw [hslots]
    · rw [hslots, List.mem_erase_of_ne hr]
  have hjobs : ∀ r', r' ≠ r → s'.jobs r' = s.jobs r' := fun r' hr => by
    rw [hc.jobs, Function.update_of_ne hr]
  have hself : s'.jobs r = some j' := by rw [hc.jobs, Function.update_self]
  refine ⟨fun r' x hx href => ?_, fun r' => ?_, ?_⟩
  · by_cases hr : r' = r
    · subst hr
      rw [hself] at hx
      cases hx
      rcases hc.actives with ⟨ha, himp⟩ | ha | ⟨-, hno⟩
      · exact ha ▸ h.actives r' j hj (himp href)
      · exact ha ▸ List.mem_cons_self
      · rw [hno] at href
        cases href
    · rw [hjobs r' hr] at hx
      have hin := h.actives r' x hx href
      rcases hc.actives with ⟨ha, -⟩ | ha | ⟨ha, -⟩
      · exact ha ▸ hin
      · exact ha ▸ List.mem_cons_of_mem _ hin
      · rw [ha]
        exact (List.mem_erase_of_ne hr).mpr hin
  · by_cases hr : r' = r
    · subst hr
      have hiff := h.slots r'
      rcases hc.slots with ⟨hslots, hrel⟩ | ⟨hslots, hrel⟩
      · rw [hslots, hiff, hrel]
        exact and_congr_left fun _ => iff_of_true ⟨j, hj⟩ ⟨j', hself⟩
      · rw [hslots, hrel]
        refine iff_of_false ?_ fun hand => by cases hand.2
        exact h.nodup.not_mem_erase
    · rw [hother r' hr, hjobs r' hr, hc.ledger r' hr]
      exact h.slots r'
  · rcases hc.slots with ⟨hslots, -⟩ | ⟨hslots, -⟩
    · exact hslots ▸ h.nodup
    · rw [hslots]
      exact h.nodup.erase r

/-- A step that leaves the counters alone. -/
theorem counts_same (hjobs : s'.jobs = Function.update s.jobs r (some j'))
    (hledger : s'.ledger = s.ledger) (hactives : s'.actives = s.actives)
    (hslots : s'.slots = s.slots) (hrefers : j'.refers = true → j.refers = true) :
    Counts r j j' s s' :=
  ⟨hjobs, fun _ _ => by rw [hledger], .inl ⟨hactives, hrefers⟩, .inl ⟨hslots, by rw [hledger]⟩⟩

theorem counts_bump {f : Ledger → Ledger} (hjobs : s'.jobs = Function.update s.jobs r (some j'))
    (hledger : s'.ledger = Function.update s.ledger r (f (s.ledger r)))
    (hactives : s'.actives = s.actives) (hrefers : j'.refers = true → j.refers = true)
    (hslots : s'.slots = s.slots ∧ (∀ l, (f l).slotReleased = l.slotReleased) ∨
      s'.slots = s.slots.erase r ∧ ∀ l, (f l).slotReleased = l.slotReleased + 1) :
    Counts r j j' s s' := by
  refine ⟨hjobs, fun r' hr => ?_, .inl ⟨hactives, hrefers⟩, ?_⟩
  · rw [hledger, Function.update_of_ne hr]
  · rw [hledger, Function.update_self]
    exact hslots.imp (And.imp_right fun hf => hf _) (And.imp_right fun hf => hf _)

theorem clearPendingEventSlot_counts (s : Transport) (o : Nat) :
    (s.clearPendingEventSlot o).jobs = s.jobs ∧ (s.clearPendingEventSlot o).ledger = s.ledger ∧
      (s.clearPendingEventSlot o).actives = s.actives ∧
        (s.clearPendingEventSlot o).slots = s.slots := by
  obtain ⟨slots, hslots⟩ := s.clearPendingEventSlot_spec o
  rw [hslots]
  exact ⟨rfl, rfl, rfl, rfl⟩

theorem counts_release {stage : ReleaseStage} (href : j.refers = true)
    (hlast : stage = .dereferencing → j'.refers = false) :
    Counts r j j' s ((s.release r o stage).1.setJob r j') := by
  cases stage with
  | clearing =>
    obtain ⟨hjobs, hledger, hactives, hslots⟩ := s.clearPendingEventSlot_counts o
    refine counts_same ?_ hledger hactives hslots fun _ => href
    show Function.update (s.clearPendingEventSlot o).jobs r _ = _
    rw [hjobs]
  | inserting =>
    exact counts_bump (f := Ledger.releasePool) rfl rfl rfl (fun _ => href)
      (.inl ⟨rfl, fun _ => rfl⟩)
  | dereferencing =>
    exact ⟨rfl, fun _ _ => rfl, .inr (.inr ⟨rfl, hlast rfl⟩), .inl ⟨rfl, rfl⟩⟩

theorem counts_finish {stage : FinishStage} {f : Option FinishStage → Job} (href : j.refers = true)
    (hneeds : stage.Needs r (s.objects o)) (hnone : (f none).refers = false) :
    Counts r j (f (s.finish r o stage).2) s
      ((s.finish r o stage).1.setJob r (f (s.finish r o stage).2)) := by
  cases stage with
  | completing io =>
    have hs : s.finish r o (.completing io) = (s.bump r Ledger.complete, some .releasingSlot) := by
      unfold Transport.finish
      rw [hneeds.request]
      rfl
    rw [hs]
    exact counts_bump (f := Ledger.complete) rfl rfl rfl (fun _ => href) (.inl ⟨rfl, fun _ => rfl⟩)
  | releasingSlot =>
    have hs : s.finish r o .releasingSlot = (s.releaseSlot r, some (.releasing .clearing)) := by
      unfold Transport.finish
      rw [if_pos hneeds.sessionContext]
    rw [hs]
    exact counts_bump (f := Ledger.releaseSlot) rfl rfl rfl (fun _ => href)
      (.inr ⟨rfl, fun _ => rfl⟩)
  | releasing stage =>
    refine counts_release href fun hst => ?_
    subst hst
    exact hnone

theorem submit_counts {ok : Bool} (hwork : j.work = .idle) (hroutine : j.routine = .idle)
    (hs : s.submit r j ok = some s') : ∃ j', Counts r j j' s s' := by
  obtain ⟨event, slot, stage, work, routine⟩ := j
  cases hwork
  cases hroutine
  unfold submit at hs
  dsimp only at hs
  cases stage with
  | acquiring =>
    dsimp only at hs
    split_ifs at hs with hrun
    · cases hs
      exact ⟨_, rfl, fun _ _ => rfl, .inr (.inl rfl), .inl ⟨rfl, rfl⟩⟩
    · cases hs
      exact ⟨_, counts_same rfl rfl rfl rfl fun href => by cases href⟩
  | referenced | fitting =>
    cases hs
    exact ⟨_, counts_same rfl rfl rfl rfl fun _ => rfl⟩
  | taking =>
    dsimp only at hs
    cases hlist : s.freeList with
    | nil =>
      rw [hlist] at hs
      cases hs
      exact ⟨_, counts_same rfl rfl rfl rfl fun _ => rfl⟩
    | cons o freeList =>
      rw [hlist] at hs
      cases hs
      exact ⟨_, counts_bump (f := Ledger.acquire) rfl rfl rfl (fun _ => rfl)
        (.inl ⟨rfl, fun _ => rfl⟩)⟩
  | creating =>
    dsimp only at hs
    split_ifs at hs with hok
    · cases hs
      exact ⟨_, counts_bump (f := Ledger.acquire) rfl rfl rfl (fun _ => rfl)
        (.inl ⟨rfl, fun _ => rfl⟩)⟩
    · cases hs
      exact ⟨_, counts_same rfl rfl rfl rfl fun _ => rfl⟩
  | preparing =>
    cases slot with
    | none => cases hs
    | some o =>
      cases hs
      exact ⟨_, counts_same rfl rfl rfl rfl fun _ => rfl⟩
  | reserving =>
    cases slot with
    | none => cases hs
    | some o =>
      cases event with
      | none => cases hs
      | some t =>
        dsimp only at hs
        split_ifs at hs with hfree
        · cases hs
          exact ⟨_, counts_same rfl rfl rfl rfl fun _ => rfl⟩
        · cases hs
          exact ⟨_, counts_same rfl rfl rfl rfl fun _ => rfl⟩
  | allocating =>
    cases slot with
    | none => cases hs
    | some o =>
      dsimp only at hs
      split_ifs at hs with hok
      · cases hs
        exact ⟨_, counts_same rfl rfl rfl rfl fun _ => rfl⟩
      · cases hs
        exact ⟨_, counts_same rfl rfl rfl rfl fun _ => rfl⟩
  | queueing =>
    cases slot with
    | none => cases hs
    | some o =>
      dsimp only at hs
      split_ifs at hs with hrun
      · cases hs
        exact ⟨_, counts_same rfl rfl rfl rfl fun _ => rfl⟩
      · cases hs
        exact ⟨_, counts_same rfl rfl rfl rfl fun _ => rfl⟩
  | releasing stage =>
    cases hs
    refine ⟨_, counts_release rfl fun hst => ?_⟩
    subst hst
    rfl
  | failed =>
    cases hs
    exact ⟨_, counts_bump (f := Ledger.releaseSlot) rfl rfl rfl (fun href => by cases href)
      (.inr ⟨rfl, fun _ => rfl⟩)⟩
  | completing =>
    cases hs
    exact ⟨_, counts_bump (f := Ledger.complete) rfl rfl rfl (fun href => by cases href)
      (.inl ⟨rfl, fun _ => rfl⟩)⟩
  | returned => cases slot <;> cases hs

theorem work_counts {status : Option Int} (h : s.Inv) (hj : s.jobs r = some j)
    (hs : s.work r j status = some s') : ∃ j', Counts r j j' s s' := by
  obtain ⟨holds, hc, -⟩ := h.jobs r j hj
  generalize s.ledger r = l at hc
  generalize hx : s.objectOf j = x at hc
  cases hc with
  | early => cases hs
  | @failed event slot | @failing event slot | @refused event slot => cases slot <;> cases hs
  | filling | waiting | routed | done => cases hs
  | sending hwork =>
    rcases hwork with rfl | rfl
    · cases hs
      exact ⟨_, counts_same rfl rfl rfl rfl fun _ => rfl⟩
    · cases hs
      exact ⟨_, counts_same rfl rfl rfl rfl fun _ => rfl⟩
  | calling hwork =>
    rcases hwork with rfl | ⟨status', rfl, -⟩
    · unfold work at hs
      dsimp only [Option.bind_some] at hs
      split_ifs at hs with hpending
      cases hs
      exact ⟨_, counts_same rfl rfl rfl rfl fun _ => rfl⟩
    · cases hs
      exact ⟨_, counts_same rfl rfl rfl rfl fun _ => rfl⟩
  | @dispatched event o stage routine x hr hneeds =>
    cases hs
    have hroutine : routine.refers = false := by rcases hr with rfl | rfl <;> rfl
    have hi := counts_finish (s := s) (r := r) (o := o)
      (j := { event, slot := some o, submit := .returned, work := .finishing stage, routine })
      (f := fun next => {
        event, slot := some o, submit := .returned, routine
        work := WorkStage.after next })
      rfl (by rw [← hx] at hneeds; exact hneeds) hroutine
    unfold WorkStage.after at hi
    exact ⟨_, hi⟩

theorem routine_counts (h : s.Inv) (hj : s.jobs r = some j) (hs : s.routine r j = some s') :
    ∃ j', Counts r j j' s s' := by
  obtain ⟨holds, hc, -⟩ := h.jobs r j hj
  generalize s.ledger r = l at hc
  generalize hx : s.objectOf j = x at hc
  have hrunning : ∀ {routine : RoutineStage} {event o submit work}, routine.Running →
      s.routine r { event, slot := some o, submit, work, routine } = some s' →
        ∃ j', Counts r { event, slot := some o, submit, work, routine } j' s s' := by
    intro routine event o submit work hr hs
    have href : ∀ routine' : RoutineStage, ({ event, slot := some o, submit, work, routine } :
        Job).refers = true := by
      intro routine'
      have htrue : routine.refers = true := by cases hr <;> rfl
      simp [Job.refers, htrue]
    cases hr with
    | driver => cases hs
    | entered | storing | swapping =>
      cases hs
      exact ⟨_, counts_same rfl rfl rfl rfl fun _ => href .idle⟩
  cases hc with
  | early => cases hs
  | @failed event slot | @failing event slot | @refused event slot => cases slot <;> cases hs
  | filling | sending => cases hs
  | calling hw hf hr =>
    rcases hr with ⟨hr, -⟩ | ⟨rfl, -⟩
    · exact hrunning hr hs
    · cases hs
  | dispatched hr => rcases hr with rfl | rfl <;> cases hs
  | waiting hr => exact hrunning hr hs
  | @routed event o stage x hneeds =>
    cases hs
    have hi := counts_finish (s := s) (r := r) (o := o)
      (j := { event, slot := some o, submit := .returned, work := .returned,
              routine := .finishing stage })
      (f := fun next => {
        event, slot := some o, submit := .returned, work := .returned
        routine := RoutineStage.after next })
      rfl (by rw [← hx] at hneeds; exact hneeds) rfl
    unfold RoutineStage.after at hi
    exact ⟨_, hi⟩
  | done hr => rcases hr with rfl | rfl <;> cases hs

theorem Inv.idle_of_submit (h : s.Inv) (hj : s.jobs r = some j) (hs : j.submit ≠ .returned) :
    j.work = .idle ∧ j.routine = .idle := by
  obtain ⟨holds, hc, -⟩ := h.jobs r j hj
  generalize s.ledger r = l at hc
  generalize s.objectOf j = x at hc
  cases hc with
  | early | filling | failed | failing | refused => exact ⟨rfl, rfl⟩
  | sending | calling | dispatched | waiting | routed | done => exact absurd rfl hs

theorem submit_returned {ok : Bool} (h : j.submit = .returned) : s.submit r j ok = none := by
  obtain ⟨event, slot, stage, work, routine⟩ := j
  cases h
  cases slot <;> rfl

theorem counted_init : Counted {} where
  actives r j hj := by cases hj
  slots r := iff_of_false (fun h => by cases h) fun h => by
    obtain ⟨⟨j, hj⟩, -⟩ := h
    cases hj
  nodup := List.nodup_nil

theorem step_counted {a : Action} (h : s.Inv) (hc : s.Counted) (hs : s.step a = some s') :
    s'.Counted := by
  cases a with
  | post r event =>
    simp only [step] at hs
    split_ifs at hs with hpost
    cases hs
    have hnotin : r ∉ s.slots := fun hin => by
      obtain ⟨⟨j, hj⟩, -⟩ := (hc.slots r).mp hin
      rw [hpost.2] at hj
      cases hj
    refine ⟨fun r' x hx href => ?_, fun r' => ?_, List.nodup_cons.mpr ⟨hnotin, hc.nodup⟩⟩
    · rcases update_some hx with ⟨rfl, rfl⟩ | ⟨hr, hx⟩
      · cases href
      · exact hc.actives r' x hx href
    · show r' ∈ r :: s.slots ↔ (∃ j, Function.update s.jobs r _ r' = some j) ∧ _
      by_cases hr : r' = r
      · subst hr
        refine iff_of_true List.mem_cons_self ⟨⟨_, Function.update_self _ _ _⟩, ?_⟩
        exact congrArg Ledger.slotReleased (h.fresh r' hpost.2)
      · rw [Function.update_of_ne hr, List.mem_cons]
        exact (or_iff_right hr).trans (hc.slots r')
  | submit r ok =>
    obtain ⟨j, hj, hs⟩ := Option.bind_eq_some_iff.mp hs
    by_cases hret : j.submit = .returned
    · rw [submit_returned hret] at hs
      cases hs
    · obtain ⟨hwork, hroutine⟩ := h.idle_of_submit hj hret
      obtain ⟨j', hcounts⟩ := submit_counts hwork hroutine hs
      exact hc.counts hj hcounts
  | work r status =>
    obtain ⟨j, hj, hs⟩ := Option.bind_eq_some_iff.mp hs
    obtain ⟨j', hcounts⟩ := work_counts h hj hs
    exact hc.counts hj hcounts
  | complete r io =>
    obtain ⟨j, hj, hs⟩ := Option.bind_eq_some_iff.mp hs
    obtain ⟨o, ho, hs⟩ := Option.bind_eq_some_iff.mp hs
    dsimp only at hs
    split_ifs at hs with hdriver
    cases hs
    have href : j.refers = true := by simp [Job.refers, hdriver, RoutineStage.refers]
    exact hc.counts hj (counts_same rfl rfl rfl rfl fun _ => href)
  | routine r =>
    obtain ⟨j, hj, hs⟩ := Option.bind_eq_some_iff.mp hs
    obtain ⟨j', hcounts⟩ := routine_counts h hj hs
    exact hc.counts hj hcounts
  | deactivate =>
    cases hs
    exact ⟨hc.actives, hc.slots, hc.nodup⟩
  | beginClose =>
    simp only [step] at hs
    split_ifs at hs
    cases hs
    exact ⟨hc.actives, hc.slots, hc.nodup⟩
  | detach =>
    simp only [step] at hs
    split_ifs at hs
    cases hs
    exact ⟨hc.actives, hc.slots, hc.nodup⟩
  | destroy =>
    simp only [step] at hs
    split_ifs at hs
    split at hs
    · cases hs
    · cases hs
      exact ⟨hc.actives, hc.slots, hc.nodup⟩

/-- A step that uses an object is of a job with a reference. -/
theorem Counted.active_of_uses {a : Action} (hc : s.Counted) (hs : s.step a = some s')
    (hu : s.Uses a r o) : r ∈ s.actives := by
  cases a with
  | submit r' ok =>
    obtain ⟨rfl, j, hj, -, huses⟩ := hu
    exact hc.actives r' j hj (by simp [Job.refers, SubmitStage.refers_of_uses huses])
  | work r' status =>
    obtain ⟨rfl, j, hj, -, huses⟩ := hu
    exact hc.actives r' j hj (by simp [Job.refers, WorkStage.refers_of_uses huses])
  | complete r' io =>
    obtain ⟨rfl, j, hj, hslot⟩ := hu
    simp only [step, hj, Option.bind_some, hslot] at hs
    split_ifs at hs with hdriver
    exact hc.actives r' j hj (by simp [Job.refers, hdriver, RoutineStage.refers])
  | routine r' =>
    obtain ⟨rfl, j, hj, -, huses⟩ := hu
    exact hc.actives r' j hj (by simp [Job.refers, RoutineStage.refers_of_uses huses])
  | post | deactivate | beginClose | detach | destroy => cases hu

end Transport

open Transport

/-- **A slot request is completed once.**  In every state of every run: nothing has been completed
or released twice, and no null request was completed; a job at rest has had everything done once,
and a job that is not has a next step; an object is used by the job that has it, which the runtime
waits for; the slot references are those of the jobs that have yet to release theirs. -/
theorem slot_request_once {as : List Action} {s : Transport}
    (h : runFrom Transport.step {} as = some s) :
    s.nullCompleted = false ∧
      (∀ r, (s.ledger r).Bounded) ∧
      (∀ r j, s.jobs r = some j → j.AtRest → (s.ledger r).Settled) ∧
      (∀ r j, s.jobs r = some j → ¬ j.AtRest → ∃ a s', a.job = some r ∧ s.step a = some s') ∧
      (∀ a s' r o, s.step a = some s' → s.Uses a r o →
        (s.objects o).holder = some r ∧ r ∈ s.actives) ∧
      ∀ r, r ∈ s.slots ↔ (∃ j, s.jobs r = some j) ∧ (s.ledger r).slotReleased = 0 := by
  have hstep : ∀ (s : Transport) a s', s.Inv ∧ s.Counted → s.step a = some s' → s'.Inv ∧ s'.Counted :=
    fun s a s' hs ha => ⟨step_inv s a s' hs.1 ha, step_counted hs.1 hs.2 ha⟩
  obtain ⟨hi, hc⟩ : s.Inv ∧ s.Counted := run_inv hstep ⟨inv_init, counted_init⟩ h
  refine ⟨hi.null, fun r => ?_, fun r j hj hrest => ?_, fun r j hj hrest => hi.progress hj hrest,
    fun a s' r o hs hu => ⟨hi.holder_of_uses hs hu, hc.active_of_uses hs hu⟩, hc.slots⟩
  · cases hj : s.jobs r with
    | none =>
      rw [hi.fresh r hj]
      exact ⟨by decide, by decide, by decide, by decide⟩
    | some j =>
      obtain ⟨holds, hcoh, -⟩ := hi.jobs r j hj
      exact hcoh.bounded
  · obtain ⟨holds, hcoh, -⟩ := hi.jobs r j hj
    exact hcoh.settled hrest

/-- Two slots are posted.  The completion routine of the first comes after the dispatcher; that of
the second, for which the object of the first serves again, comes before. -/
def twoPosts : List Action :=
  .post 0 none :: List.replicate 7 (.submit 0 true) ++ List.replicate 4 (.work 0 none) ++
    .complete 0 ⟨0, 100⟩ :: List.replicate 8 (.routine 0) ++
    .post 1 (some 3) :: List.replicate 8 (.submit 1 true) ++ List.replicate 2 (.work 1 none) ++
    .complete 1 ⟨0, 100⟩ :: List.replicate 3 (.routine 1) ++ List.replicate 7 (.work 1 (some 0))

theorem twoPosts_settled : ∃ s, runFrom Transport.step {} twoPosts = some s ∧
    (s.ledger 0).Settled ∧ (s.ledger 1).Settled := by
  obtain ⟨s, hs, hrest⟩ := exists_run Transport.step {} twoPosts
    (fun s => decide ((∃ j ∈ s.jobs 0, j.AtRest) ∧ ∃ j ∈ s.jobs 1, j.AtRest)) (by decide)
  obtain ⟨⟨j, hj, hrest⟩, j', hj', hrest'⟩ := of_decide_eq_true hrest
  have honce := (slot_request_once hs).2.2.1
  exact ⟨s, hs, honce 0 j hj hrest, honce 1 j' hj' hrest'⟩

end YumeDisk.Kmdf.SlotTransport
