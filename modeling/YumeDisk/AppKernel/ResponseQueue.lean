import Mathlib.Algebra.Group.Nat.Defs
import YumeDisk.AppKernel.ReadPlane
import YumeDisk.Lib.Reach
import YumeDisk.Lib.Ring

/-!
# The queues of a session (`AppKernel/src/event/ak_event.c`)

Responses and session notices wait in rings that are doubled when they are full.  An event says that
there is something to take.

* `Ring.push`, `Ring.pop`, `Ring.grow`: the operations of a ring, in 32 bits.
* `EventSession.step`: the two queues of a session, with the thread that reports it broken.
* `Ring.push_spec`, `Ring.pop_spec`: what an operation does to the items.
* `queues_fifo`: **the queues are FIFO queues**, while no sum of a push wraps.
  `EventSession.Powers.run`: none does when the capacities are powers of two.
-/

namespace YumeDisk.AppKernel

open Lib Miniport

/-! ## Rings -/

/-- `ResponseQueue` and `SessionNoticeQueue`; `signalled` is the state of the wait event. -/
structure Ring (α : Type) where
  items : Nat → α
  capacity : UInt32
  head : UInt32 := 0
  count : UInt32 := 0
  initialCapacity : UInt32
  signalled : Bool := false

/-- `AK_STATUS_NO_MORE_ENTRIES`. -/
def statusNoMoreEntries : NtStatus := -2147483622

namespace Ring

variable {α : Type}

/-- `AkResponseQueueInitialize`, `AkSessionNoticeQueueInitialize`: whether there is memory, and the
status of the event. -/
def initialized (zero : α) (initialCapacity : UInt32) (allocated : Bool) (event : NtStatus) :
    Except NtStatus (Ring α) :=
  if initialCapacity = 0 then throw statusInvalidParameter
  else if !allocated then throw statusInsufficientResources
  else if event ≠ statusSuccess then throw event
  else return { items := fun _ => zero, capacity := initialCapacity, initialCapacity }

/-- `AkResponseQueueGrowLocked`, `AkSessionNoticeQueueGrowLocked`; `fallback` is the capacity when
there is none yet. -/
def grow (zero : α) (fallback : UInt32) (r : Ring α) (allocated : Bool) :
    Except NtStatus (Ring α) :=
  if r.capacity ≠ 0 ∧ r.capacity > 0xFFFFFFFF / 2 then throw statusInsufficientResources
  else
    let newCapacity :=
      if r.capacity = 0 then if r.initialCapacity = 0 then fallback else r.initialCapacity
      else r.capacity * 2
    if !allocated then throw statusInsufficientResources
    else
      let newItems (index : Nat) : α :=
        if index < r.count.toNat then
          r.items ((r.head + UInt32.ofNat index) % r.capacity).toNat
        else zero
      return { r with items := newItems, capacity := newCapacity, head := 0 }

/-- The section of `AkResponseQueuePush` and `AkSessionNoticeQueuePush`. -/
def push (zero : α) (fallback : UInt32) (r : Ring α) (x : α) (allocated : Bool) :
    Except NtStatus (Ring α) := do
  let r ← if r.count = r.capacity then r.grow zero fallback allocated else pure r
  let tail := (r.head + r.count) % r.capacity
  return { r with
    items := Function.update r.items tail.toNat x, count := r.count + 1, signalled := true }

/-- `AkResponseQueuePopLocked`, `AkSessionNoticeQueuePopLocked`. -/
def pop (r : Ring α) : Except NtStatus (α × Ring α) :=
  if r.count = 0 then throw statusNoMoreEntries
  else
    let count := r.count - 1
    return (r.items r.head.toNat,
      { r with
        head := (r.head + 1) % r.capacity
        count
        signalled := if count = 0 then false else r.signalled })

end Ring

/-! ## A session -/

/-- `AK_RESPONSE`. -/
structure Response where
  type : Nat := 0
  targetId : Nat := 0
  diskRuntimeId : Nat := 0
  eventId : Nat := 0
  totalSeq : Nat := 0
  flags : Nat := 0
  status : NtStatus := 0
deriving DecidableEq, Repr

/-- `AK_SESSION_NOTICE`. -/
structure SessionNotice where
  type : Nat := 0
  flags : Nat := 0
  status : NtStatus := 0
deriving DecidableEq, Repr

/-- `AkSessionNoticeBroken`. -/
def sessionNoticeBroken : Nat := 0

/-- A queue with what was put into it and what was taken out of it. -/
structure Logged (α : Type) where
  ring : Ring α
  accepted : List α := []
  taken : List α := []

/-- The parts of `AK_SESSION` that the queues use. -/
structure EventSession where
  responses : Logged Response
  notices : Logged SessionNotice
  brokenQueued : Bool := false
  /-- The threads inside `AkSessionNoticeQueuePushBroken`, after its first section. -/
  reporting : List NtStatus := []
  broken : Bool := false
  lastError : NtStatus := 0
  transportReady : Bool := true
  heartbeatRunning : Bool := true
  responsesQueued : Nat := 0
  responsesDropped : Nat := 0
  sessionNoticesQueued : Nat := 0
  sessionNoticesDropped : Nat := 0
  protocolFailures : Nat := 0

namespace EventSession

/-- The session is broken by a queue that cannot grow. -/
def setBroken (s : EventSession) (status : NtStatus) : EventSession :=
  { s with
    protocolFailures := s.protocolFailures + 1
    broken := true, lastError := status, transportReady := false, heartbeatRunning := false }

/-- The section of `AkResponseQueuePush`. -/
def pushResponse (s : EventSession) (response : Response) (allocated : Bool) : EventSession :=
  match s.responses.ring.push {} 16 response allocated with
  | .ok ring =>
    { s with
      responses := { s.responses with ring, accepted := s.responses.accepted ++ [response] }
      responsesQueued := s.responsesQueued + 1 }
  | .error status => { s with responsesDropped := s.responsesDropped + 1 }.setBroken status

/-- `AkSessionNoticeQueuePush`. -/
def pushNotice (s : EventSession) (notice : SessionNotice) (allocated : Bool) : EventSession :=
  match s.notices.ring.push {} 4 notice allocated with
  | .ok ring =>
    { s with
      notices := { s.notices with ring, accepted := s.notices.accepted ++ [notice] }
      sessionNoticesQueued := s.sessionNoticesQueued + 1 }
  | .error status =>
    { s with sessionNoticesDropped := s.sessionNoticesDropped + 1 }.setBroken status

inductive Action
  | pushResponse (response : Response) (allocated : Bool)
  /-- `AkResponsePoll`. -/
  | pollResponse
  /-- `AkSessionNoticeQueuePush` of a notice that is no Broken notice. -/
  | pushNotice (notice : SessionNotice) (allocated : Bool)
  /-- `AkSessionNoticePoll`. -/
  | pollNotice
  /-- The first section of `AkSessionNoticeQueuePushBroken`. -/
  | reportBroken (status : NtStatus)
  /-- The rest of it, by one of its threads. -/
  | pushBroken (thread : Nat) (allocated : Bool)
deriving DecidableEq, Repr

def step (s : EventSession) : Action → Option EventSession
  | .pushResponse response allocated => some (s.pushResponse response allocated)
  | .pollResponse =>
    match s.responses.ring.pop with
    | .ok (response, ring) =>
      some { s with
        responses := { s.responses with ring, taken := s.responses.taken ++ [response] } }
    | .error _ => some s
  | .pushNotice notice allocated =>
    if notice.type = sessionNoticeBroken then none else some (s.pushNotice notice allocated)
  | .pollNotice =>
    match s.notices.ring.pop with
    | .ok (notice, ring) =>
      some { s with notices := { s.notices with ring, taken := s.notices.taken ++ [notice] } }
    | .error _ => some s
  | .reportBroken status =>
    if s.brokenQueued then some s
    else some { s with brokenQueued := true, reporting := s.reporting ++ [status] }
  | .pushBroken thread allocated =>
    (s.reporting[thread]?).map fun status =>
      { s with reporting := s.reporting.eraseIdx thread }.pushNotice
        { type := sessionNoticeBroken, status } allocated

/-- `AkSessionOpen`, when both queues could be made. -/
def opened (responseCapacity noticeCapacity : UInt32) : Except NtStatus EventSession := do
  let responses ← Ring.initialized {} responseCapacity true statusSuccess
  let notices ← Ring.initialized {} noticeCapacity true statusSuccess
  return { responses := { ring := responses }, notices := { ring := notices } }

end EventSession

/-! ## The operations of a ring -/

namespace Ring

variable {α : Type} {r r' : Ring α} {zero x : α} {fallback : UInt32} {allocated : Bool}

/-- The items, in the order in which they came. -/
def contents (r : Ring α) : List α :=
  window r.items r.capacity.toNat r.head.toNat r.count.toNat

structure Valid (r : Ring α) : Prop where
  head : r.head.toNat < r.capacity.toNat
  count : r.count.toNat ≤ r.capacity.toNat
  event : r.signalled = decide (r.count ≠ 0)

/-- The sum of a push does not wrap; a full ring is moved to the start first. -/
def Fits (r : Ring α) : Prop :=
  r.count = r.capacity ∨ r.head.toNat + r.count.toNat < 2 ^ 32

instance (r : Ring α) : Decidable r.Fits := inferInstanceAs (Decidable (_ ∨ _))

/-- In a ring of at most `2^31` places the sum cannot wrap. -/
theorem Valid.fits (h : r.Valid) (hcapacity : r.capacity.toNat ≤ 2 ^ 31) : r.Fits := by
  have hhead := h.head
  have hcount := h.count
  exact .inr (by omega)

theorem Valid.contents_eq_nil (h : r.Valid) : r.contents = [] ↔ r.signalled = false := by
  rw [← List.length_eq_zero_iff, contents, length_window, h.event]
  simp [← UInt32.toNat_inj]

theorem toNat_add {a b : UInt32} (h : a.toNat + b.toNat < 2 ^ 32) :
    (a + b).toNat = a.toNat + b.toNat := by
  rw [UInt32.toNat_add, Nat.mod_eq_of_lt h]

/-- **A growth** moves the items to the start of an array with room. -/
theorem grow_spec (h : r.Valid) (hg : r.grow zero fallback allocated = .ok r') :
    r'.contents = r.contents ∧ r'.head = 0 ∧ r'.count = r.count ∧ r'.signalled = r.signalled ∧
      r'.capacity.toNat = 2 * r.capacity.toNat := by
  have hhead := h.head
  have hcount := h.count
  have hne : r.capacity ≠ 0 := fun hzero => by
    rw [hzero] at hhead
    exact absurd hhead (by simp)
  unfold grow at hg
  rw [if_neg (c := r.capacity = 0) hne] at hg
  split_ifs at hg with hbig
  all_goals cases hg
  have hsmall : r.capacity.toNat ≤ 2147483647 := by
    by_contra hlarge
    refine hbig ⟨hne, ?_⟩
    rw [gt_iff_lt, UInt32.lt_iff_toNat_lt]
    show 2147483647 < _
    omega
  have hdouble : (r.capacity * 2).toNat = 2 * r.capacity.toNat := by
    rw [UInt32.toNat_mul, show (2 : UInt32).toNat = 2 from rfl]
    omega
  refine ⟨?_, rfl, rfl, rfl, hdouble⟩
  refine window_grow (show r.count.toNat ≤ (r.capacity * 2).toNat by omega) fun i hlt => ?_
  have hi : i < r.count.toNat := hlt
  have hindex : (UInt32.ofNat i).toNat = i := by
    rw [UInt32.toNat_ofNat']
    omega
  dsimp only
  rw [if_pos hi, UInt32.toNat_mod, toNat_add (by rw [hindex]; omega), hindex]

/-- The ring after an item was put at its end. -/
def put (r : Ring α) (x : α) : Ring α :=
  { r with
    items := Function.update r.items ((r.head + r.count) % r.capacity).toNat x
    count := r.count + 1
    signalled := true }

theorem put_spec (hhead : r.head.toNat < r.capacity.toNat) (hroom : r.count.toNat < r.capacity.toNat)
    (hfits : r.head.toNat + r.count.toNat < 2 ^ 32) (x : α) :
    (r.put x).Valid ∧ (r.put x).contents = r.contents ++ [x] := by
  have hmax : r.capacity.toNat < 2 ^ 32 := r.capacity.toNat_lt
  have hnext : (r.count + 1).toNat = r.count.toNat + 1 :=
    toNat_add (by rw [UInt32.toNat_one]; omega)
  constructor
  · refine ⟨hhead, ?_, ?_⟩
    · show (r.count + 1).toNat ≤ r.capacity.toNat
      omega
    · show true = decide (r.count + 1 ≠ 0)
      rw [eq_comm, decide_eq_true_iff]
      intro hzero
      rw [hzero] at hnext
      exact absurd hnext (by simp)
  · show window _ r.capacity.toNat r.head.toNat (r.count + 1).toNat = _
    rw [hnext, put, UInt32.toNat_mod, toNat_add hfits]
    exact window_push r.items hroom x

/-- **A push** puts the item at the end. -/
theorem push_spec (h : r.Valid) (hfits : r.Fits)
    (hp : r.push zero fallback x allocated = .ok r') :
    r'.Valid ∧ r'.contents = r.contents ++ [x] := by
  have hhead := h.head
  have hcount := h.count
  unfold push at hp
  by_cases hfull : r.count = r.capacity
  · rw [if_pos hfull] at hp
    cases hg : r.grow zero fallback allocated with
    | error status =>
      rw [hg] at hp
      cases hp
    | ok r₁ =>
      rw [hg] at hp
      obtain rfl : r₁.put x = r' := Except.ok.inj hp
      obtain ⟨hcontents, hhead₁, hcount₁, -, hcapacity⟩ := grow_spec h hg
      have hzero : r₁.head.toNat = 0 := by rw [hhead₁]; rfl
      have hmax : r₁.capacity.toNat < 2 ^ 32 := r₁.capacity.toNat_lt
      have hspec := put_spec (r := r₁) (by omega) (by rw [hcount₁]; omega)
        (by rw [hcount₁]; omega) x
      rwa [hcontents] at hspec
  · rw [if_neg hfull] at hp
    obtain rfl : r.put x = r' := Except.ok.inj hp
    have hne : r.count.toNat ≠ r.capacity.toNat := fun heq => hfull (UInt32.toNat_inj.1 heq)
    exact put_spec hhead (by omega) (hfits.resolve_left hfull) x

/-- **A poll** takes the first item. -/
theorem pop_spec (h : r.Valid) (hp : r.pop = .ok (x, r')) :
    r'.Valid ∧ r.contents = x :: r'.contents := by
  have hhead := h.head
  have hcount := h.count
  have hmax : r.capacity.toNat < 2 ^ 32 := r.capacity.toNat_lt
  unfold pop at hp
  split_ifs at hp with hempty
  cases hp
  have hne : r.count.toNat ≠ 0 := fun heq => hempty (UInt32.toNat_inj.1 heq)
  have hprev : (r.count - 1).toNat = r.count.toNat - 1 := by
    rw [UInt32.toNat_sub_of_le _ _ (by rw [UInt32.le_iff_toNat_le, UInt32.toNat_one]; omega)]
    rfl
  have hnext : ((r.head + 1) % r.capacity).toNat = (r.head.toNat + 1) % r.capacity.toNat := by
    rw [UInt32.toNat_mod, toNat_add (by rw [UInt32.toNat_one]; omega)]
    rfl
  constructor
  · refine ⟨?_, ?_, ?_⟩
    · show ((r.head + 1) % r.capacity).toNat < _
      rw [hnext]
      exact Nat.mod_lt _ (by omega)
    · show (r.count - 1).toNat ≤ r.capacity.toNat
      omega
    · show (if r.count - 1 = 0 then false else r.signalled) = decide (r.count - 1 ≠ 0)
      rw [h.event]
      by_cases hlast : r.count - 1 = 0 <;> simp [hlast, hempty]
  · show window _ _ _ _ = _ :: window r.items r.capacity.toNat ((r.head + 1) % r.capacity).toNat
      (r.count - 1).toNat
    rw [hnext, hprev, ← window_pop r.items hhead]
    congr 1
    omega

/-- A push leaves the capacity or doubles it. -/
theorem push_capacity (h : r.Valid) (hp : r.push zero fallback x allocated = .ok r') :
    r'.capacity = r.capacity ∨ r'.capacity.toNat = 2 * r.capacity.toNat := by
  unfold push at hp
  by_cases hfull : r.count = r.capacity
  · rw [if_pos hfull] at hp
    cases hg : r.grow zero fallback allocated with
    | error status =>
      rw [hg] at hp
      cases hp
    | ok r₁ =>
      rw [hg] at hp
      cases hp
      exact .inr (grow_spec h hg).2.2.2.2
  · rw [if_neg hfull] at hp
    cases hp
    exact .inl rfl

/-- The capacity is a power of two. -/
def Power (r : Ring α) : Prop := ∃ k, r.capacity.toNat = 2 ^ k

theorem Power.fits (hpower : r.Power) (h : r.Valid) : r.Fits := by
  obtain ⟨k, hk⟩ := hpower
  have hlt : k < 32 := (Nat.pow_lt_pow_iff_right (by decide)).mp (hk ▸ r.capacity.toNat_lt)
  exact h.fits (hk ▸ Nat.pow_le_pow_right (by decide) (Nat.le_of_lt_succ hlt))

theorem Power.push (hpower : r.Power) (h : r.Valid)
    (hp : r.push zero fallback x allocated = .ok r') : r'.Power := by
  obtain ⟨k, hk⟩ := hpower
  rcases push_capacity h hp with heq | heq
  · exact ⟨k, heq ▸ hk⟩
  · exact ⟨k + 1, by rw [heq, hk, pow_succ, Nat.mul_comm]⟩

theorem pop_capacity (hp : r.pop = .ok (x, r')) : r'.capacity = r.capacity := by
  unfold pop at hp
  split_ifs at hp
  cases hp
  rfl

theorem initialized_spec {initialCapacity : UInt32} {event : NtStatus}
    (hi : initialized zero initialCapacity allocated event = .ok r) :
    r.Valid ∧ r.contents = [] := by
  unfold initialized at hi
  split_ifs at hi with hzero
  all_goals cases hi
  refine ⟨⟨?_, Nat.zero_le _, rfl⟩, rfl⟩
  have hne : initialCapacity.toNat ≠ 0 := fun heq => hzero (UInt32.toNat_inj.1 heq)
  show 0 < initialCapacity.toNat
  omega

end Ring

/-! ## Runs -/

/-- **The log of a FIFO queue**: what was taken, and then what is there, is what was put in, in the
order in which it was put in. -/
structure Logged.Fifo {α : Type} (q : Logged α) : Prop where
  order : q.taken ++ q.ring.contents = q.accepted
  event : q.ring.signalled = true ↔ q.ring.contents ≠ []

/-- What the invariant of a queue says. -/
structure Logged.Inv {α : Type} (q : Logged α) : Prop where
  valid : q.ring.Valid
  order : q.taken ++ q.ring.contents = q.accepted

theorem Logged.Inv.fifo {α : Type} {q : Logged α} (h : q.Inv) : q.Fifo where
  order := h.order
  event := by
    rw [Ne, h.valid.contents_eq_nil, Bool.not_eq_false]

theorem Logged.Inv.push {α : Type} {q : Logged α} {zero x : α} {fallback : UInt32}
    {allocated : Bool} {ring : Ring α} (h : q.Inv) (hfits : q.ring.Fits)
    (hp : q.ring.push zero fallback x allocated = .ok ring) :
    Logged.Inv { q with ring, accepted := q.accepted ++ [x] } := by
  obtain ⟨hvalid, hcontents⟩ := Ring.push_spec h.valid hfits hp
  refine ⟨hvalid, ?_⟩
  show q.taken ++ ring.contents = q.accepted ++ [x]
  rw [hcontents, ← List.append_assoc, h.order]

theorem Logged.Inv.pop {α : Type} {q : Logged α} {x : α} {ring : Ring α} (h : q.Inv)
    (hp : q.ring.pop = .ok (x, ring)) : Logged.Inv { q with ring, taken := q.taken ++ [x] } := by
  obtain ⟨hvalid, hcontents⟩ := Ring.pop_spec h.valid hp
  refine ⟨hvalid, ?_⟩
  show q.taken ++ [x] ++ ring.contents = q.accepted
  rw [← h.order, hcontents, List.append_assoc]
  rfl

namespace EventSession

/-- The notices that say that the session is broken, and the threads that are about to queue one. -/
def brokenCount (s : EventSession) : Nat :=
  s.notices.accepted.countP (fun notice => notice.type = sessionNoticeBroken) + s.reporting.length

/-- **The queues are right.** -/
structure QueuesRight (s : EventSession) : Prop where
  responses : s.responses.Fifo
  notices : s.notices.Fifo
  brokenOnce :
    s.notices.accepted.countP (fun notice => notice.type = sessionNoticeBroken) ≤ 1

/-- No sum of the push that is made wraps. -/
def Fits (s : EventSession) : Action → Prop
  | .pushResponse .. => s.responses.ring.Fits
  | .pushNotice .. | .pushBroken .. => s.notices.ring.Fits
  | _ => True

instance (s : EventSession) : DecidablePred s.Fits := fun a => by
  cases a <;> unfold Fits <;> infer_instance

structure Inv (s : EventSession) : Prop where
  responses : s.responses.Inv
  notices : s.notices.Inv
  broken : s.brokenCount ≤ if s.brokenQueued then 1 else 0

variable {s s' : EventSession}

theorem Inv.queuesRight (h : s.Inv) : s.QueuesRight where
  responses := h.responses.fifo
  notices := h.notices.fifo
  brokenOnce := by
    have hbroken := h.broken
    unfold brokenCount at hbroken
    split_ifs at hbroken <;> omega

theorem Inv.pushResponse (h : s.Inv) (hfits : s.responses.ring.Fits) (response : Response)
    (allocated : Bool) : (s.pushResponse response allocated).Inv := by
  unfold EventSession.pushResponse
  split
  · next hp => exact ⟨h.responses.push hfits hp, h.notices, h.broken⟩
  · exact ⟨h.responses, h.notices, h.broken⟩

/-- A notice is queued: what it adds to the Broken notices is bounded. -/
theorem Inv.pushNotice (hresponses : s.responses.Inv) (hnotices : s.notices.Inv)
    (hfits : s.notices.ring.Fits) (notice : SessionNotice) (allocated : Bool)
    (hbroken : s.brokenCount + (if notice.type = sessionNoticeBroken then 1 else 0) ≤
      if s.brokenQueued then 1 else 0) : (s.pushNotice notice allocated).Inv := by
  unfold EventSession.pushNotice
  split
  · next hp =>
    refine ⟨hresponses, hnotices.push hfits hp, ?_⟩
    show (s.notices.accepted ++ [notice]).countP _ + s.reporting.length ≤ _
    rw [List.countP_append, List.countP_singleton]
    unfold brokenCount at hbroken
    simp only [decide_eq_true_eq] at hbroken ⊢
    omega
  · exact ⟨hresponses, hnotices, by unfold brokenCount at hbroken; exact Nat.le_of_add_right_le hbroken⟩

theorem Inv.step (h : s.Inv) {a : Action} (hfits : s.Fits a) (hs : s.step a = some s') :
    s'.Inv := by
  cases a with
  | pushResponse response allocated =>
    cases hs
    exact h.pushResponse hfits response allocated
  | pollResponse =>
    simp only [EventSession.step] at hs
    split at hs
    · next hp =>
      cases hs
      exact ⟨h.responses.pop hp, h.notices, h.broken⟩
    · cases hs
      exact h
  | pushNotice notice allocated =>
    simp only [EventSession.step] at hs
    split_ifs at hs with htype
    cases hs
    refine Inv.pushNotice h.responses h.notices hfits notice allocated ?_
    rw [if_neg htype]
    exact h.broken
  | pollNotice =>
    simp only [EventSession.step] at hs
    split at hs
    · next hp =>
      cases hs
      exact ⟨h.responses, h.notices.pop hp, h.broken⟩
    · cases hs
      exact h
  | reportBroken status =>
    simp only [EventSession.step] at hs
    split_ifs at hs with hqueued
    · cases hs
      exact h
    · cases hs
      refine ⟨h.responses, h.notices, ?_⟩
      have hbroken := h.broken
      rw [if_neg hqueued] at hbroken
      unfold brokenCount at hbroken ⊢
      simp only [List.length_append, List.length_singleton, if_true]
      omega
  | pushBroken thread allocated =>
    simp only [EventSession.step] at hs
    obtain ⟨status, hthread, rfl⟩ := Option.map_eq_some_iff.1 hs
    have hlt : thread < s.reporting.length := (List.getElem?_eq_some_iff.1 hthread).1
    let s₁ : EventSession := { s with reporting := s.reporting.eraseIdx thread }
    refine Inv.pushNotice (s := s₁) h.responses h.notices hfits _ allocated ?_
    have hbroken := h.broken
    unfold brokenCount at hbroken ⊢
    rw [if_pos rfl, show s₁.reporting = s.reporting.eraseIdx thread from rfl,
      List.length_eraseIdx_of_lt hlt]
    show s.notices.accepted.countP _ + (s.reporting.length - 1) + 1 ≤ _
    exact Nat.le_trans (by omega) hbroken

/-- Both queues have a power of two of places. -/
def Powers (s : EventSession) : Prop := s.responses.ring.Power ∧ s.notices.ring.Power

theorem Powers.fits (hpowers : s.Powers) (h : s.Inv) (a : Action) : s.Fits a := by
  cases a with
  | pushResponse => exact hpowers.1.fits h.responses.valid
  | pushNotice | pushBroken => exact hpowers.2.fits h.notices.valid
  | _ => trivial

theorem Powers.pushNotice (hpowers : s.Powers) (h : s.notices.Inv) (notice : SessionNotice)
    (allocated : Bool) : (s.pushNotice notice allocated).Powers := by
  unfold EventSession.pushNotice
  split
  · next hp => exact ⟨hpowers.1, hpowers.2.push h.valid hp⟩
  · exact hpowers

theorem Powers.step {a : Action} (hpowers : s.Powers) (h : s.Inv) (hs : s.step a = some s') :
    s'.Powers := by
  cases a with
  | pushResponse response allocated =>
    cases hs
    unfold EventSession.pushResponse
    split
    · next hp => exact ⟨hpowers.1.push h.responses.valid hp, hpowers.2⟩
    · exact hpowers
  | pollResponse =>
    simp only [EventSession.step] at hs
    split at hs <;> cases hs
    · next hp => exact ⟨by unfold Ring.Power; rw [Ring.pop_capacity hp]; exact hpowers.1, hpowers.2⟩
    · exact hpowers
  | pushNotice notice allocated =>
    simp only [EventSession.step] at hs
    split_ifs at hs
    cases hs
    exact hpowers.pushNotice h.notices notice allocated
  | pollNotice =>
    simp only [EventSession.step] at hs
    split at hs <;> cases hs
    · next hp => exact ⟨hpowers.1, by unfold Ring.Power; rw [Ring.pop_capacity hp]; exact hpowers.2⟩
    · exact hpowers
  | reportBroken status =>
    simp only [EventSession.step] at hs
    split_ifs at hs <;> cases hs <;> exact hpowers
  | pushBroken thread allocated =>
    simp only [EventSession.step] at hs
    obtain ⟨status, -, rfl⟩ := Option.map_eq_some_iff.1 hs
    let s₁ : EventSession := { s with reporting := s.reporting.eraseIdx thread }
    exact Powers.pushNotice (s := s₁) hpowers h.notices _ allocated

/-- **Queues with a power of two of places fit**, in every run. -/
theorem Powers.run (as : List Action) : ∀ {s : EventSession}, s.Powers → s.Inv →
    StepsMeet EventSession.step Fits s as := by
  induction as with
  | nil => exact fun _ _ => trivial
  | cons a as ih =>
    intro s hpowers h
    have hfits := hpowers.fits h a
    exact ⟨hfits, fun s' hs => ih (hpowers.step h hs) (h.step hfits hs)⟩
end EventSession

/-- **The queues of a session are FIFO queues**, in every run in which no sum of a push wraps; the
event says whether there is something, and at most one Broken notice is queued. -/
theorem queues_fifo (responseCapacity noticeCapacity : UInt32) (s₀ s : EventSession)
    (as : List EventSession.Action)
    (hopened : EventSession.opened responseCapacity noticeCapacity = .ok s₀)
    (hG : StepsMeet EventSession.step EventSession.Fits s₀ as)
    (h : runFrom EventSession.step s₀ as = some s) : s.QueuesRight := by
  have hinit : s₀.Inv := by
    unfold EventSession.opened at hopened
    cases hr : Ring.initialized ({} : Response) responseCapacity true statusSuccess with
    | error status =>
      rw [hr] at hopened
      cases hopened
    | ok responses =>
      cases hn : Ring.initialized ({} : SessionNotice) noticeCapacity true statusSuccess with
      | error status =>
        rw [hr, hn] at hopened
        cases hopened
      | ok notices =>
        rw [hr, hn] at hopened
        cases hopened
        obtain ⟨hvalid, hempty⟩ := Ring.initialized_spec hr
        obtain ⟨hvalid', hempty'⟩ := Ring.initialized_spec hn
        exact ⟨⟨hvalid, hempty⟩, ⟨hvalid', hempty'⟩, Nat.le_refl 0⟩
  exact (run_inv_of_guard (fun _ _ _ hi hf hs => EventSession.Inv.step hi hf hs) as s₀ s hinit hG
    h).queuesRight

/-- Two responses in a queue of one place, one of them taken; two threads report the session
broken. -/
def doubledRun : List EventSession.Action :=
  [.pushResponse { eventId := 1 } true, .pushResponse { eventId := 2 } false,
    .pushResponse { eventId := 2 } true, .pollResponse, .pushResponse { eventId := 3 } true,
    .reportBroken statusUnsuccessful, .reportBroken statusUnsuccessful, .pushBroken 0 true]

/-- A session whose queues have one place. -/
def smallSession : EventSession where
  responses := { ring := { items := fun _ => {}, capacity := 1, initialCapacity := 1 } }
  notices := { ring := { items := fun _ => {}, capacity := 1, initialCapacity := 1 } }

theorem queues_fifo_doubled :
    ∃ s, runFrom EventSession.step smallSession doubledRun = some s ∧ s.QueuesRight ∧
      s.responses.accepted.length = 3 := by
  obtain ⟨s, hs, hq⟩ := exists_run EventSession.step smallSession doubledRun
    (fun s => decide (s.responses.accepted.length = 3)) (by decide)
  exact ⟨s, hs, queues_fifo 1 1 smallSession s doubledRun rfl (by decide) hs,
    of_decide_eq_true hq⟩

/-! ## A queue with more than `2^31` places -/

namespace EventSession

/-- The responses are in an empty ring of `2^32 - 1` places, with its head at `n`. -/
structure HugeAt (n : Nat) (s : EventSession) : Prop where
  capacity : s.responses.ring.capacity = 0xFFFFFFFF
  head : s.responses.ring.head.toNat = n
  count : s.responses.ring.count = 0

theorem pushResponse_of_room {s : EventSession} (response : Response)
    (h : s.responses.ring.count ≠ s.responses.ring.capacity) :
    (s.pushResponse response true).responses = { s.responses with
      ring := s.responses.ring.put response
      accepted := s.responses.accepted ++ [response] } := by
  have hp : s.responses.ring.push {} 16 response true = .ok (s.responses.ring.put response) := by
    rw [Ring.push, if_neg h]
    rfl
  rw [pushResponse, hp]

/-- A response comes and is taken: the head moves on. -/
theorem HugeAt.next {n : Nat} {s : EventSession} (h : HugeAt n s) (hn : n + 1 < 0xFFFFFFFF) :
    Reaches step s (HugeAt (n + 1)) := by
  have hroom : s.responses.ring.count ≠ s.responses.ring.capacity := by
    rw [h.count, h.capacity]
    decide
  have hpush := pushResponse_of_room {} hroom
  refine .after (a := .pushResponse {} true) rfl ?_
  generalize s.pushResponse {} true = t at hpush
  have hcount : t.responses.ring.count = 1 := by
    rw [hpush]
    show s.responses.ring.count + 1 = 1
    rw [h.count]
    rfl
  have hpop : t.responses.ring.pop = .ok (t.responses.ring.items t.responses.ring.head.toNat,
      { t.responses.ring with
        head := (t.responses.ring.head + 1) % t.responses.ring.capacity
        count := t.responses.ring.count - 1
        signalled := if t.responses.ring.count - 1 = 0 then false else t.responses.ring.signalled }) := by
    rw [Ring.pop, if_neg (by rw [hcount]; decide)]
    rfl
  refine .after (a := .pollResponse) (by simp only [step, hpop]; rfl) (.here ⟨?_, ?_, ?_⟩)
  · show t.responses.ring.capacity = _
    rw [hpush]
    exact h.capacity
  · show ((t.responses.ring.head + 1) % t.responses.ring.capacity).toNat = _
    rw [hpush]
    show ((s.responses.ring.head + 1) % s.responses.ring.capacity).toNat = _
    rw [h.capacity, UInt32.toNat_mod, Ring.toNat_add (by rw [h.head, UInt32.toNat_one]; omega),
      h.head]
    exact Nat.mod_eq_of_lt hn
  · show t.responses.ring.count - 1 = 0
    rw [hcount]
    rfl

/-- The third of three items is put over the second. -/
theorem contents_put_three {α : Type} (r : Ring α) (hcapacity : r.capacity = 0xFFFFFFFF)
    (hhead : r.head = 0xFFFFFFFE) (hcount : r.count = 0) (a b c : α) :
    (((r.put a).put b).put c).contents = [a, c, r.items 1] := by
  obtain ⟨items, capacity, head, count, initialCapacity, signalled⟩ := r
  subst hcapacity hhead hcount
  have hfirst : ((0xFFFFFFFE + 0 : UInt32) % 0xFFFFFFFF).toNat = 4294967294 := by decide
  have hsecond : ((0xFFFFFFFE + (0 + 1) : UInt32) % 0xFFFFFFFF).toNat = 0 := by decide
  have hthird : ((0xFFFFFFFE + (0 + 1 + 1) : UInt32) % 0xFFFFFFFF).toNat = 0 := by decide
  simp only [Ring.contents, Ring.put, hfirst, hsecond, hthird]
  show window _ 4294967295 4294967294 3 = _
  simp [window, List.range_succ]

/-- What is left when the third of three responses was put over the second. -/
def Lost (s : EventSession) : Prop :=
  ∃ x before, s.responses.ring.contents = [{ eventId := 1 }, { eventId := 3 }, x] ∧
    s.responses.accepted = before ++ [{ eventId := 1 }, { eventId := 2 }, { eventId := 3 }]

theorem Lost.not_queuesRight {s : EventSession} (h : s.Lost) : ¬s.QueuesRight := by
  intro hright
  obtain ⟨x, before, hcontents, haccepted⟩ := h
  have horder := hright.responses.order
  rw [hcontents, haccepted] at horder
  have htail := (List.append_inj' horder rfl).2
  simp at htail

/-- **Three more responses**: the third is put over the second. -/
theorem HugeAt.lost {s : EventSession} (h : HugeAt 0xFFFFFFFE s) : Reaches step s Lost := by
  obtain ⟨hcapacity, hhead, hcount⟩ := h
  have hheadEq : s.responses.ring.head = 0xFFFFFFFE := UInt32.toNat_inj.1 hhead
  have hfirst := pushResponse_of_room (s := s) { eventId := 1 }
    (by rw [hcount, hcapacity]; decide)
  refine .after (a := .pushResponse { eventId := 1 } true) rfl ?_
  generalize s.pushResponse { eventId := 1 } true = s₁ at hfirst
  have hsecond := pushResponse_of_room (s := s₁) { eventId := 2 } (by
    rw [hfirst]
    show s.responses.ring.count + 1 ≠ s.responses.ring.capacity
    rw [hcount, hcapacity]
    decide)
  refine .after (a := .pushResponse { eventId := 2 } true) rfl ?_
  generalize s₁.pushResponse { eventId := 2 } true = s₂ at hsecond
  have hthird := pushResponse_of_room (s := s₂) { eventId := 3 } (by
    rw [hsecond, hfirst]
    show s.responses.ring.count + 1 + 1 ≠ s.responses.ring.capacity
    rw [hcount, hcapacity]
    decide)
  refine .after (a := .pushResponse { eventId := 3 } true) rfl (.here ?_)
  generalize s₂.pushResponse { eventId := 3 } true = s₃ at hthird
  refine ⟨s.responses.ring.items 1, s.responses.accepted, ?_, ?_⟩
  · rw [hthird, hsecond, hfirst]
    exact contents_put_three _ hcapacity hheadEq hcount _ _ _
  · rw [hthird, hsecond, hfirst]
    simp

end EventSession

/-- A queue of `2^32 - 1` places loses a response. -/
theorem huge_queue_loses :
    ¬∀ responseCapacity noticeCapacity s₀ s as,
      EventSession.opened responseCapacity noticeCapacity = .ok s₀ →
      runFrom EventSession.step s₀ as = some s → s.QueuesRight := by
  intro hall
  let s₀ : EventSession := { smallSession with
    responses := { ring :=
      { items := fun _ => {}, capacity := 0xFFFFFFFF, initialCapacity := 0xFFFFFFFF } } }
  have hmoved : Reaches EventSession.step s₀ (EventSession.HugeAt 0xFFFFFFFE) :=
    Reaches.loop (P := EventSession.HugeAt) ⟨rfl, rfl, rfl⟩ fun n hn _ ht => ht.next (by omega)
  obtain ⟨as, s, hrun, hlost⟩ := hmoved.bind fun _ ht => ht.lost
  exact hlost.not_queuesRight (hall 0xFFFFFFFF 1 s₀ s as rfl hrun)

end YumeDisk.AppKernel
