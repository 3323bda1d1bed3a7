import YumeDisk.Lib.Run
import YumeDisk.Miniport.Places

/-!
# What a drain copies after it has let go of the lock

`DiskDrainReadSlots` and `DiskDrainWriteSlots` reserve a request for a slot under the queue lock,
release it, and then copy from the request and its `Srb->DataBuffer`.  Here the copy is a step of its
own, between the reservation and the thread's next turn.  A request is completed and freed only by
the thread that has taken it off its list, so a copy is sound when the request is still linked.

* `Drains.step`: the device, with the copies.
* `Device.taken`: the requests that a section takes off their lists.
* `linked_of_not_taken`: one section.
* `no_dead_use`: runs.
-/

namespace YumeDisk.Miniport

/-- The range is accepted for the request and is the last that it gets. -/
def WriteAckRange.finishes (range : WriteAckRange) (request : WriteRequest) : Bool :=
  range.seqCount ≠ 0 && range.endSeq ≤ request.totalSeq && range.endSeq ≤ request.nextIssueSeq &&
    !(range.seqs.any fun seq => request.ackedBitmap.getD seq false) &&
    (!ntSuccess range.ioStatus || request.ackedCount + range.seqCount == request.totalSeq)

namespace QueueState

/-- The request that a read ack takes off its list. -/
def ackedRead (q : QueueState) (eventId : Nat) : Option ReadRequest :=
  (q.pendingReads.findIdx? fun request => request.eventId = eventId).bind fun i =>
    q.pendingReads[i]?

/-- The request that a range takes off its list. -/
def finishedWrite (q : QueueState) (range : WriteAckRange) : Option WriteRequest :=
  ((q.pendingWrites.findIdx? fun request => request.eventId = range.eventId).bind fun i =>
    q.pendingWrites[i]?).filter fun request =>
      range.finishes (initializeWriteRequest request q.writeSlotPayloadBytes).1

end QueueState

/-- A request on a list. -/
structure Linked where
  slotType : SlotType
  target : Nat
  srb : Nat
deriving DecidableEq, Repr

namespace Device

/-- The request is on the list. -/
def links (d : Device) (x : Linked) : Prop := x.srb ∈ d.held (.queue x.slotType x.target)

instance (d : Device) (x : Linked) : Decidable (d.links x) :=
  inferInstanceAs (Decidable (_ ∈ _))

/-- Everything that is on a list. -/
def allLinked (d : Device) (slotType : SlotType) (target : Nat) : List Linked :=
  (d.held (.queue slotType target)).map (Linked.mk slotType target)

/-- The requests that a section takes off their lists. -/
def taken (d : Device) : Action → List Linked
  | .readAck t ack =>
    (((d.queue t).ackedRead ack.eventId).map fun request => ⟨.read, t, request.srb⟩).toList
  | .run th =>
    match d.tasks th with
    | some (.ackWrites t _ (range :: _) _ _ _) =>
      (((d.queue t).finishedWrite range).map fun request => ⟨.write, t, request.srb⟩).toList
    | some (.sweepReads _ (t :: _)) => d.allLinked .read t
    | some (.sweepWrites _ t _ _) => d.allLinked .write t
    | some (.freeQueuedState _ (t :: _)) => d.allLinked .read t ++ d.allLinked .write t
    | _ => []
  | _ => []

/-- The request that a thread at `task` reserves. -/
def reserves (d : Device) : Task → Option Linked
  | .drainReads t _ =>
    (d.queue t).reserveRead.map fun (_, request, _) => ⟨.read, t, request.srb⟩
  | .drainWrites t _ =>
    (d.queue t).reserveWrite.2.map fun (request, _, _) => ⟨.write, t, request.srb⟩
  | _ => none

end Device

/-- A request that a thread has reserved, and is still to copy from. -/
structure Reservation where
  thread : Nat
  request : Linked
deriving DecidableEq, Repr

/-- An event or a fragment that was built, and whether its request was linked then. -/
structure Built where
  request : Linked
  linked : Bool
deriving DecidableEq, Repr

structure Drains where
  device : Device := {}
  reserved : List Reservation := []
  built : List Built := []

namespace Drains

open Device (Action)

/-- The copy of a thread that has a reservation. -/
def copy (s : Drains) (r : Reservation) : Drains :=
  { s with
    reserved := s.reserved.erase r
    built := s.built ++ [{ request := r.request, linked := decide (s.device.links r.request) }] }

/-- A thread takes its next step; one with a reservation copies first. -/
def run (s : Drains) (th : Nat) : Option Drains :=
  match s.reserved.find? fun r => r.thread = th with
  | some r => some (s.copy r)
  | none =>
    (s.device.tasks th).map fun task =>
      { s with
        device := s.device.runTask th task
        reserved := s.reserved ++
          ((s.device.reserves task).map fun request => { thread := th, request }).toList }

def step (s : Drains) : Action → Option Drains
  | .run th => s.run th
  | a => (s.device.step a).map fun device => { s with device }

/-- **No dead use**: what was built was built from linked requests, and so will be what is
reserved. -/
structure NoDeadUse (s : Drains) : Prop where
  reserved : ∀ r ∈ s.reserved, s.device.links r.request
  built : ∀ b ∈ s.built, b.linked = true

/-- The condition on a step: it takes no request off its list that a thread has reserved and is
still to copy from. -/
def Unhurried (s : Drains) (a : Action) : Prop :=
  ∀ r ∈ s.reserved, r.request ∉ s.device.taken a

instance (s : Drains) (a : Action) : Decidable (s.Unhurried a) :=
  inferInstanceAs (Decidable (∀ r ∈ s.reserved, _))

end Drains

/-! ## One section -/

namespace QueueState

variable {q q' : QueueState} {srb : Nat}

/-- What is not taken out stays. -/
theorem mem_map_eraseIdx {α : Type} {f : α → Nat} {xs : List α} {i : Nat} {x : α}
    (h : xs[i]? = some x) (hne : srb ≠ f x) (hmem : srb ∈ xs.map f) :
    srb ∈ (xs.eraseIdx i).map f := by
  have hperm := (cons_eraseIdx_perm h).map f
  rw [← hperm.mem_iff, List.map_cons, List.mem_cons] at hmem
  exact hmem.resolve_left hne

theorem takeRead_links {eventId : Nat} {request : ReadRequest}
    (h : q.takeRead eventId = some (q', request)) (hmem : srb ∈ q.readSrbs)
    (hnot : ∀ old, q.ackedRead eventId = some old → srb ≠ old.srb) : srb ∈ q'.readSrbs := by
  obtain ⟨i, hfind, h⟩ := Option.bind_eq_some_iff.mp h
  obtain ⟨old, hold, h⟩ := Option.map_eq_some_iff.mp h
  cases h
  refine mem_map_eraseIdx hold (hnot request ?_) hmem
  simp only [ackedRead, hfind, Option.bind_some, hold]

theorem Accepts.finishedWrite {range : WriteAckRange} {i : Nat} {old request : WriteRequest}
    (h : q.Accepts range i old request)
    (hlast : ¬ ntSuccess range.ioStatus = true ∨
      (request.setAcked range).ackedCount = request.totalSeq) :
    q.finishedWrite range = some old := by
  have hclear : (range.seqs.any fun seq => request.ackedBitmap.getD seq false) = false := by
    rw [List.any_eq_false]
    intro seq hseq
    rw [h.clear seq hseq]
    exact Bool.false_ne_true
  have hfinishes : range.finishes request = true := by
    have hlast : (!ntSuccess range.ioStatus ||
        request.ackedCount + range.seqCount == request.totalSeq) = true := by
      rw [Bool.or_eq_true, Bool.not_eq_true', beq_iff_eq]
      exact hlast.imp Bool.eq_false_iff.mpr id
    simp only [WriteAckRange.finishes, hclear, hlast, Bool.not_false, Bool.and_true,
      Bool.and_eq_true, decide_eq_true_eq]
    exact ⟨⟨h.seqCount, h.total⟩, h.issued⟩
  unfold QueueState.finishedWrite
  rw [h.first, Option.bind_some, h.found, Option.filter_some, ← h.initialized, hfinishes]
  rfl

theorem ackRange_links (range : WriteAckRange) (hmem : srb ∈ q.writeSrbs)
    (hnot : ∀ old, q.finishedWrite range = some old → srb ≠ old.srb) :
    srb ∈ (q.ackRange range).1.writeSrbs := by
  have hdrop : ∀ {i old request}, q.Accepts range i old request → q.finishedWrite range = some old →
      srb ∈ (q.dropWrite i).writeSrbs := by
    intro i old request h hold
    rw [writeSrbs, (dropWrite_srbs q i).2]
    exact mem_map_eraseIdx h.found (hnot old hold) hmem
  have hout := ackRange_outcome q range
  have hperm := (ackRange_srbs q range).2
  generalize q.ackRange range = out at hout hperm
  cases hout with
  | rejected requests status hstatus hinit => exact hperm.mem_iff.mpr hmem
  | failed i old request h hio => exact hdrop h (h.finishedWrite (.inl hio))
  | finished i old request h hio hall => exact hdrop h (h.finishedWrite (.inr hall))
  | kept i old request h hio hsome => exact hperm.mem_iff.mpr hmem

end QueueState

namespace Device

open QueueState

variable {d d' : Device} {x : Linked}

theorem links_of_held_eq (hheld : d'.held = d.held) (h : d.links x) : d'.links x := by
  unfold links
  rw [hheld]
  exact h

theorem links_setQueue {t : Nat} {q : QueueState} (h : d.links x)
    (hread : x.slotType = .read → x.target = t → x.srb ∈ (d.queue t).readSrbs → x.srb ∈ q.readSrbs)
    (hwrite : x.slotType = .write → x.target = t → x.srb ∈ (d.queue t).writeSrbs →
      x.srb ∈ q.writeSrbs) :
    (d.setQueue t q).links x := by
  obtain ⟨s, u, srb⟩ := x
  unfold links
  by_cases ht : u = t
  · subst ht
    rw [held_setQueue_self]
    cases s with
    | read => exact hread rfl rfl h
    | write => exact hwrite rfl rfl h
  · rw [held_setQueue_of_ne d t q fun s hs => ht (Place.queue.inj hs).2]
    exact h

/-- A section that leaves the lists with the same requests. -/
theorem links_setQueue_same {t : Nat} {q : QueueState}
    (hq : q.readSrbs = (d.queue t).readSrbs ∧ q.writeSrbs = (d.queue t).writeSrbs)
    (h : d.links x) : (d.setQueue t q).links x := by
  refine links_setQueue h (fun _ _ hx => ?_) fun _ _ hx => ?_
  · rw [hq.1]
    exact hx
  · rw [hq.2]
    exact hx

theorem links_completeRead {request : ReadRequest} {status : NtStatus} (h : d.links x) :
    (d.completeReadRequest request status).links x := by
  unfold completeReadRequest
  split <;> exact h

theorem links_completeWrite {request : WriteRequest} (h : d.links x) :
    (d.completeWriteRequest request).links x := by
  unfold completeWriteRequest
  split <;> exact h

theorem mem_allLinked {slotType : SlotType} {t : Nat} (h : d.links x) (hs : x.slotType = slotType)
    (ht : x.target = t) : x ∈ d.allLinked slotType t := by
  obtain ⟨s, u, srb⟩ := x
  obtain rfl : s = slotType := hs
  obtain rfl : u = t := ht
  exact List.mem_map_of_mem h

theorem ne_of_not_taken {α : Type} {o : Option α} {f : α → Linked} (hnot : x ∉ (o.map f).toList)
    {y : α} (hy : o = some y) : x ≠ f y := by
  rintro rfl
  rw [hy] at hnot
  exact hnot List.mem_cons_self

/-- **A section leaves on its list what it does not take.** -/
theorem advance_links {th : Nat} {task : Task} (hth : d.tasks th = some task) (h : d.links x)
    (hnot : x ∉ d.taken (.run th)) : (d.advance task).1.links x := by
  simp only [taken, hth] at hnot
  cases task with
  | insertRead t request =>
    refine links_setQueue h (fun _ _ hx => ?_) fun _ _ hx => hx
    rw [readSrbs, insertRead, List.map_append]
    exact List.mem_append_left _ hx
  | insertWrite t request =>
    refine links_setQueue h (fun _ _ hx => hx) fun _ _ hx => ?_
    rw [writeSrbs, insertWrite, List.map_append]
    exact List.mem_append_left _ hx
  | insertReadSlot t slot => exact links_setQueue_same ⟨rfl, rfl⟩ h
  | insertWriteSlot t slot payloadBytes =>
    unfold advance
    dsimp only
    split
    · exact h
    · next q hq => exact links_setQueue_same (insertWriteSlot_srbs hq) h
  | drainReads t srb =>
    unfold advance
    dsimp only
    split
    · exact h
    · next hq => exact links_setQueue_same (reserveRead_srbs hq) h
  | drainWrites t srb =>
    have hq := (d.queue t).reserveWrite_srbs
    unfold advance
    dsimp only
    split
    · next hr =>
      rw [hr] at hq
      exact links_setQueue_same hq h
    · next hr =>
      rw [hr] at hq
      exact links_setQueue_same hq h
  | setPending srb => exact h
  | checkPending srb =>
    unfold advance
    dsimp only
    split <;> exact h
  | completeRead request status => exact links_completeRead h
  | ackWrites t index ranges payloadCapacity failures deferred =>
    cases ranges with
    | nil => exact h
    | cons range ranges =>
      have hack : (d.setQueue t ((d.queue t).ackRange range).1).links x := by
        refine links_setQueue h (fun _ _ hx => ?_) fun hs ht hx => ?_
        · rw [((d.queue t).ackRange_srbs range).1]
          exact hx
        · refine ackRange_links range hx fun old hold hsrb => ne_of_not_taken hnot hold ?_
          obtain ⟨s, u, srb⟩ := x
          cases hs
          cases ht
          cases hsrb
          rfl
      unfold advance
      dsimp only
      split_ifs <;> exact hack
  | completeDeferred deferred =>
    cases deferred with
    | nil => exact h
    | cons request deferred => exact links_completeWrite h
  | deactivate closeSession targets =>
    cases targets with
    | nil => exact h
    | cons t targets => exact links_of_held_eq (held_deactivateTarget d t) h
  | sweepReads sweep targets =>
    cases targets with
    | nil => exact h
    | cons t targets =>
      exact links_setQueue h (fun hs ht _ => absurd (mem_allLinked h hs ht) hnot) fun _ _ hx => hx
  | sweepWrites sweep t targets reads =>
    exact links_setQueue h (fun _ _ hx => hx) fun hs ht _ => absurd (mem_allLinked h hs ht) hnot
  | completeSwept sweep targets reads writes =>
    cases reads with
    | cons request reads => exact links_completeRead h
    | nil =>
      cases writes with
      | cons request writes => exact links_completeWrite h
      | nil => exact h
  | freeQueuedState closeSession targets =>
    cases targets with
    | nil => exact h
    | cons t targets =>
      rw [List.mem_append, not_or] at hnot
      exact links_setQueue h (fun hs ht _ => absurd (mem_allLinked h hs ht) hnot.1)
        fun hs ht _ => absurd (mem_allLinked h hs ht) hnot.2

theorem links_setTask {th : Nat} {task : Option Task} (h : d.links x) :
    (d.setTask th task).links x := h

/-- **A step leaves on its list what it does not take.** -/
theorem linked_of_not_taken {a : Action} (h : d.links x) (hnot : x ∉ d.taken a)
    (hs : d.step a = some d') : d'.links x := by
  have hspawn : ∀ {d₁ : Device} (task : Task), d₁.links x → (d₁.spawn task).links x :=
    fun _ h => h
  cases a with
  | createDisk t sectorSize sectorCount =>
    cases hs
    unfold createDisk
    split_ifs
    · exact h
    · exact h
    · exact links_of_held_eq (held_setDisk rfl) h
  | queueRead t lba blockCount dataLength allocated =>
    cases hs
    unfold queueReadSrb
    split_ifs
    · exact h
    · exact h
    · exact h
    · exact hspawn _ h
  | queueWrite t lba blockCount dataLength allocated =>
    cases hs
    unfold queueWriteSrb
    split_ifs
    · exact h
    · exact h
    · dsimp only
      split
      · exact hspawn _ h
      · exact h
  | submitSlot t slotType slot =>
    cases hs
    unfold submitSlot
    split
    · exact h
    · split
      · exact h
      · cases slotType with
        | read => dsimp only; split <;> [exact h; exact hspawn _ h]
        | write => dsimp only; split <;> [exact h; exact hspawn _ h]
  | cancelSlot t slotType slotId =>
    cases hs
    unfold cancelSlot
    split
    · exact h
    · cases slotType with
      | read => exact links_setQueue_same (cancelReadSlot_srbs _ _) h
      | write => exact links_setQueue_same (cancelWriteSlot_srbs _ _) h
  | readAck t ack =>
    cases hs
    unfold readAck
    split
    · exact h
    · split
      · exact h
      · next q request hq =>
        refine hspawn _ (links_setQueue h (fun hs ht hx => ?_) fun _ _ hx => ?_)
        · refine takeRead_links hq hx fun old hold hsrb => ne_of_not_taken hnot hold ?_
          obtain ⟨s, u, srb⟩ := x
          cases hs
          cases ht
          cases hsrb
          rfl
        · rw [(takeRead_srbs hq).2]
          exact hx
  | writeAckBatch t ranges payloadCapacity =>
    cases hs
    unfold writeAckBatch
    split
    · exact h
    · exact hspawn _ h
  | removeDisk t =>
    cases hs
    have hdeactivated := links_of_held_eq (held_deactivateTarget d t) h
    unfold removeDisk
    split
    · next hd =>
      rw [hd] at hdeactivated
      exact hspawn _ hdeactivated
    · next hd =>
      rw [hd] at hdeactivated
      exact hdeactivated
  | removeAllDisks closeSession =>
    cases hs
    exact hspawn _ h
  | reset target =>
    cases target with
    | none =>
      cases hs
      exact hspawn _ h
    | some t =>
      cases hs
      split
      · exact h
      · exact hspawn _ h
  | run th =>
    obtain ⟨task, hth, rfl⟩ := Option.map_eq_some_iff.mp hs
    exact links_setTask (advance_links hth h hnot)

/-- What is reserved is on its list. -/
theorem links_of_reserves {th : Nat} {task : Task} (h : d.reserves task = some x) :
    (d.runTask th task).links x := by
  refine links_setTask ?_
  cases task with
  | drainReads t srb =>
    obtain ⟨⟨q, request, slot⟩, hq, rfl⟩ := Option.map_eq_some_iff.mp h
    obtain ⟨i, hi, -⟩ := reserveRead_spec hq
    have hmem : request.srb ∈ (d.queue t).readSrbs := List.mem_map_of_mem (List.mem_of_getElem? hi)
    unfold advance
    dsimp only
    rw [hq]
    exact links_setQueue_same (reserveRead_srbs hq) hmem
  | drainWrites t srb =>
    obtain ⟨⟨request, seq, slot⟩, hq, rfl⟩ := Option.map_eq_some_iff.mp h
    have hsrbs := (d.queue t).reserveWrite_srbs
    have hout := reserveWrite_outcome (d.queue t)
    unfold advance
    dsimp only
    generalize (d.queue t).reserveWrite = out at hout hq hsrbs
    cases hout with
    | idle requests hinit => cases hq
    | reserved requests hinit i request' slot' slots hrequest hseq hslots =>
      cases hq
      have hmem : request.srb ∈ (d.queue t).writeSrbs := by
        rw [← hsrbs.2]
        have hset := map_set_eq (f := WriteRequest.srb)
          (y := { request with nextIssueSeq := request.nextIssueSeq + 1 }) hrequest rfl
        show request.srb ∈ (requests.set i _).map WriteRequest.srb
        rw [hset]
        exact List.mem_map_of_mem (List.mem_of_getElem? hrequest)
      exact links_setQueue_same hsrbs hmem
  | _ => cases h

end Device

namespace Drains

open Device (Action)

variable {s s' : Drains}

/-- **One step**, if it is unhurried. -/
theorem step_noDeadUse {a : Action} (h : NoDeadUse s) (hG : s.Unhurried a)
    (hs : s.step a = some s') : NoDeadUse s' := by
  have hdevice : ∀ {d' : Device}, s.device.step a = some d' →
      ∀ r ∈ s.reserved, d'.links r.request :=
    fun hd r hr => Device.linked_of_not_taken (h.reserved r hr) (hG r hr) hd
  cases a with
  | run th =>
    change s.run th = some s' at hs
    unfold run at hs
    split at hs
    · next r hr =>
      cases hs
      have hmem : r ∈ s.reserved := List.mem_of_find?_eq_some hr
      refine ⟨fun r' hr' => h.reserved r' (List.mem_of_mem_erase hr'), fun b hb => ?_⟩
      rcases List.mem_append.mp hb with hb | hb
      · exact h.built b hb
      · obtain rfl := List.mem_singleton.mp hb
        exact decide_eq_true (h.reserved r hmem)
    · obtain ⟨task, hth, rfl⟩ := Option.map_eq_some_iff.mp hs
      refine ⟨fun r hr => ?_, h.built⟩
      rcases List.mem_append.mp hr with hr | hr
      · refine hdevice ?_ r hr
        show (s.device.tasks th).map _ = _
        rw [hth]
        rfl
      · rw [Option.mem_toList, Option.map_eq_some_iff] at hr
        obtain ⟨x, hx, rfl⟩ := hr
        exact Device.links_of_reserves hx
  | _ =>
    simp only [step] at hs
    obtain ⟨d', hd, rfl⟩ := Option.map_eq_some_iff.mp hs
    exact ⟨hdevice hd, h.built⟩

/-! ## Runs -/

/-- A device with no disks. -/
def init : Drains := {}

/-- **Nothing is built from a request that is not linked**, in a run whose steps are unhurried. -/
theorem no_dead_use {as : List Action} (hG : Lib.StepsMeet step Unhurried init as)
    (h : Lib.runFrom step init as = some s) : NoDeadUse s :=
  Lib.run_inv_of_guard (fun _ _ _ h hG hs => step_noDeadUse h hG hs) as init s ⟨nofun, nofun⟩ hG h

/-- The device does what it does when the copies are made in no time. -/
theorem device_run {as : List Action} (h : Lib.runFrom step s as = some s') :
    ∃ bs, bs.Sublist as ∧ Lib.runFrom Device.step s.device bs = some s'.device := by
  induction as generalizing s with
  | nil =>
    cases h
    exact ⟨[], .refl _, rfl⟩
  | cons a as ih =>
    obtain ⟨t, ht, h⟩ := Lib.runFrom_cons h
    obtain ⟨bs, hsub, hbs⟩ := ih h
    have hcases : t.device = s.device ∨ s.device.step a = some t.device := by
      cases a with
      | run th =>
        change s.run th = some t at ht
        unfold run at ht
        split at ht
        · cases ht
          exact .inl rfl
        · obtain ⟨task, hth, rfl⟩ := Option.map_eq_some_iff.mp ht
          exact .inr (congrArg (Option.map (s.device.runTask th)) hth)
      | _ =>
        simp only [step] at ht
        obtain ⟨d, hd, rfl⟩ := Option.map_eq_some_iff.mp ht
        exact .inr hd
    rcases hcases with heq | hstep
    · exact ⟨bs, hsub.cons a, heq ▸ hbs⟩
    · refine ⟨a :: bs, hsub.cons_cons a, ?_⟩
      unfold Lib.runFrom
      rw [hstep]
      exact hbs

/-- The second fragment of a write is reserved; the first is acked with a failure, which completes
and frees the request; then the second is copied. -/
def siblingFailsRun : List Action :=
  [.createDisk 0 512 100, .submitSlot 0 .write ⟨7, 1, 4096, 560⟩, .run 0, .run 0,
    .submitSlot 0 .write ⟨8, 2, 8192, 560⟩, .run 1, .run 1,
    .queueWrite 0 0 2 1024 true, .run 2, .run 2, .run 2, .run 2,
    .writeAckBatch 0 [⟨1, 0, 1, -1⟩] 1000, .run 3, .run 3, .run 3, .run 2]

theorem sibling_fails_dead_use :
    ∃ s, Lib.runFrom step init siblingFailsRun = some s ∧ ¬ NoDeadUse s ∧
      s.device.completed = [⟨0, -1, 0⟩] := by
  obtain ⟨s, hs, hp⟩ := Lib.exists_run step init siblingFailsRun
    (fun s => decide (s.built = [⟨⟨.write, 0, 0⟩, true⟩, ⟨⟨.write, 0, 0⟩, false⟩] ∧
      s.device.completed = [⟨0, -1, 0⟩])) (by decide)
  obtain ⟨hbuilt, hdone⟩ := of_decide_eq_true hp
  refine ⟨s, hs, fun h => ?_, hdone⟩
  have hlinked := h.built ⟨⟨.write, 0, 0⟩, false⟩ (by rw [hbuilt]; decide)
  cases hlinked

/-- A read and a write are copied and then acked; a second read is copied and then reset. -/
def unhurriedRun : List Action :=
  [.createDisk 0 512 100, .submitSlot 0 .read ⟨7, 1, 4096, 32⟩, .run 0, .run 0,
    .queueRead 0 0 1 512 true, .run 1, .run 1, .run 1, .run 1, .run 1, .run 1,
    .readAck 0 ⟨1, 512, 8192, 0⟩, .run 2,
    .submitSlot 0 .write ⟨8, 2, 4096, 560⟩, .run 3, .run 3,
    .queueWrite 0 8 1 512 true, .run 4, .run 4, .run 4, .run 4, .run 4, .run 4,
    .writeAckBatch 0 [⟨2, 0, 1, 0⟩] 1000, .run 5, .run 5, .run 5,
    .submitSlot 0 .read ⟨9, 3, 4096, 32⟩, .run 6, .run 6,
    .queueRead 0 0 1 512 true, .run 7, .run 7, .run 7, .run 7, .run 7, .run 7,
    .reset (some 0), .run 8, .run 8, .run 8]

theorem unhurriedRun_noDeadUse :
    ∃ s, Lib.runFrom step init unhurriedRun = some s ∧ NoDeadUse s ∧ s.built.length = 3 := by
  obtain ⟨s, hs, hp⟩ := Lib.exists_run step init unhurriedRun
    (fun s => decide (s.built.length = 3)) (by decide)
  have hG : Lib.StepsMeet step Unhurried init unhurriedRun := by decide
  exact ⟨s, hs, no_dead_use hG hs, of_decide_eq_true hp⟩

end Drains

end YumeDisk.Miniport
