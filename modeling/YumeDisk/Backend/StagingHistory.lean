import YumeDisk.Backend.StagedBytes
import YumeDisk.Lib.Run

/-!
# What a read returns over a history of the staging store

The staging store and the media under it, while fragments are staged and writes are committed or
rejected in any order.  A commit can fail on the way: `commit_locked` then leaves the record in the
store, and what it had written is on the media.

* `StagedMedia.expected`: what a byte ought to be, from the fragments that were staged and not
  rejected.
* `StagedMedia.StepOk`: the steps after which that is so.
* `reads_kept`: in a run of such steps **every read returns what was staged last**, and no commit
  changes a read.
* `staleRecord_hides`: without them it is not so.
-/

namespace YumeDisk.Backend

open Lib (Bytes readAt writeAt runFrom StepsMeet newest newest_concat newest_eq_none newest_congr
  newest_of_max exists_newest byteAt byteAt_ne_none)
open Miniport (NtStatus statusSuccess statusInvalidParameter)

/-! ## The store and its media -/

/-- A fragment that was staged and not rejected, and whether its write was committed since. -/
structure Staged where
  eventId : Nat
  fragment : StagedFragment
  committed : Bool := false

structure StagedMedia where
  store : StagingStore := {}
  media : Nat → UInt8
  /-- The media as it was at the start. -/
  base : Nat → UInt8
  /-- What was staged and not rejected, the oldest first. -/
  log : List Staged := []
  /-- The write whose failed commit last changed the byte, until a commit that succeeds. -/
  torn : Nat → Option Nat := fun _ => none

namespace StagedMedia

def init (base : Nat → UInt8) : StagedMedia := { media := base, base }

inductive Action
  | stage (op : WriteOp) (dataBuffer : Bytes) (diskSizeBytes : Nat)
  | commit (eventId diskSizeBytes : Nat) (write : Nat → Option Nat)
  | reject (eventId : Nat)

/-- `stage_write_locked`, `commit_locked` or `reject_locked`, and what is remembered of it. -/
def step (s : StagedMedia) : Action → Option StagedMedia
  | .stage op dataBuffer diskSizeBytes =>
    let (store, status) := s.store.stageWrite op dataBuffer diskSizeBytes
    let fragment : StagedFragment := {
      seq := op.seq
      diskOffsetBytes := op.offsetBytes
      ordinal := s.store.nextOrdinal
      data := dataBuffer }
    some { s with
      store
      log := if status = statusSuccess then s.log ++ [{ eventId := op.eventId, fragment }]
        else s.log }
  | .commit eventId diskSizeBytes write =>
    let (ok, store, media, writes) := s.store.commit eventId diskSizeBytes write s.media
    some { s with
      store
      media
      log := if ok then
          s.log.map fun r => if r.eventId = eventId then { r with committed := true } else r
        else s.log
      torn := fun x =>
        if ok then
          if writes.any fun w => w.offset ≤ x && x < w.offset + w.length then none else s.torn x
        else if media x ≠ s.media x then some eventId
        else s.torn x }
  | .reject eventId =>
    some { s with
      store := s.store.reject eventId
      log := s.log.filter fun r => r.eventId ≠ eventId || r.committed }

/-- A read: the bytes of the media, with what is staged laid over them. -/
def read (s : StagedMedia) (requestBegin n : Nat) : Bytes :=
  s.store.overlayRead requestBegin (readAt s.media requestBegin n)

/-- What a byte ought to be: what the last of the fragments over it holds. -/
def expected (s : StagedMedia) (x : Nat) : UInt8 :=
  (newest (fun r => r.fragment.byte x) s.log).getD (s.base x)

/-- What the media ought to hold: what the last of the committed fragments over it holds. -/
def settled (s : StagedMedia) (x : Nat) : UInt8 :=
  (newest (fun r => if r.committed then r.fragment.byte x else none) s.log).getD (s.base x)

/-- The steps after which a read is still right.

* A fragment that is staged under a number that is taken covers what it replaces.
* A commit that goes through is of a write over which nothing older is staged, and whose own
  fragments, where they meet, were staged in the order of their numbers.
* A write that is rejected has left nothing on the media. -/
def StepOk (s : StagedMedia) : Action → Prop
  | .stage op dataBuffer diskSizeBytes =>
    s.store.Accepts op dataBuffer diskSizeBytes →
    ∀ f, s.store.get op.eventId op.seq = some f → ∀ x, f.byte x ≠ none →
      byteAt op.offsetBytes dataBuffer x ≠ none
  | .commit eventId diskSizeBytes write =>
    s.store.Goes eventId diskSizeBytes write →
    ∀ seq f, s.store.get eventId seq = some f →
    ∀ eventId' seq' g, s.store.get eventId' seq' = some g →
    (eventId' ≠ eventId ∨ seq < seq') → g.ordinal < f.ordinal →
      ∀ x, f.byte x ≠ none → g.byte x = none
  | .reject eventId => ∀ x, s.torn x ≠ some eventId

/-! ## The invariant -/

/-- What is staged is in the log, and stands for what is open there; what is committed is older,
and on the media. -/
structure Inv (s : StagedMedia) : Prop where
  sorted : s.log.Pairwise fun a b => a.fragment.ordinal < b.fragment.ordinal
  bounded : ∀ r ∈ s.log, r.fragment.ordinal < s.store.nextOrdinal
  staged : ∀ eventId seq f, s.store.get eventId seq = some f →
    f.seq = seq ∧ { eventId, fragment := f } ∈ s.log
  kept : ∀ r ∈ s.log, r.committed = false → ∃ f,
    s.store.get r.eventId r.fragment.seq = some f ∧ r.fragment.ordinal ≤ f.ordinal ∧
      ∀ x, r.fragment.byte x ≠ none → f.byte x ≠ none
  older : ∀ eventId seq f, s.store.get eventId seq = some f → ∀ r ∈ s.log, r.committed = true →
    ∀ x, f.byte x ≠ none → r.fragment.byte x ≠ none → r.fragment.ordinal < f.ordinal
  settled : ∀ x, s.torn x = none → s.media x = s.settled x
  torn : ∀ x eventId, s.torn x = some eventId →
    ∃ seq f, s.store.get eventId seq = some f ∧ f.byte x ≠ none

variable {s s' : StagedMedia}

/-- No two fragments of the log have one ordinal. -/
theorem Inv.entry_eq (h : s.Inv) {a b : Staged} (ha : a ∈ s.log) (hb : b ∈ s.log)
    (hord : a.fragment.ordinal = b.fragment.ordinal) : a = b := by
  have hnodup : (s.log.map fun r => r.fragment.ordinal).Nodup :=
    List.pairwise_map.mpr (h.sorted.imp fun hlt => hlt.ne)
  exact List.inj_on_of_nodup_map hnodup ha hb hord

/-- What is open over a byte, and what is committed, is all that there is over it. -/
theorem Inv.expected_of_unstaged (h : s.Inv) {x : Nat}
    (hx : ∀ f ∈ s.store.fragments, f.byte x = none) : s.expected x = s.settled x := by
  unfold StagedMedia.expected StagedMedia.settled
  rw [newest_congr fun r hr => ?_]
  by_cases hr' : r.committed = true
  · rw [if_pos hr']
  · rw [if_neg hr']
    by_contra hne
    obtain ⟨f, hf, -, hover⟩ := h.kept r hr (Bool.not_eq_true _ ▸ hr')
    exact hover x hne (hx f (StagingStore.mem_fragments.mpr ⟨_, _, hf⟩))

/-- Over a byte at which something is staged the newest of the log is staged, and newest there. -/
theorem Inv.expected_of_staged (h : s.Inv) {x : Nat} {f : StagedFragment}
    (hf : f ∈ s.store.fragments) (hx : f.byte x ≠ none) : ∃ g ∈ s.store.fragments,
      g.byte x = some (s.expected x) ∧ ∀ k ∈ s.store.fragments, k.byte x ≠ none →
        k.ordinal ≤ g.ordinal ∧ (k.ordinal = g.ordinal → k = g) := by
  have hlog : ∀ k ∈ s.store.fragments, ∃ eventId,
      ({ eventId, fragment := k } : Staged) ∈ s.log := by
    intro k hk
    obtain ⟨eventId, seq, hget⟩ := StagingStore.mem_fragments.mp hk
    exact ⟨eventId, (h.staged eventId seq k hget).2⟩
  obtain ⟨eventId, hfl⟩ := hlog f hf
  have hsome : newest (fun r => r.fragment.byte x) s.log ≠ none :=
    fun hnone => hx (newest_eq_none.mp hnone _ hfl)
  obtain ⟨v, hv⟩ := Option.ne_none_iff_exists'.mp hsome
  obtain ⟨r, hr, hrbyte, hmax⟩ :=
    exists_newest (h.sorted.imp fun {a b} hlt => (hlt : a.fragment.ordinal < _).le) hv
  have hopen : r.committed = false := by
    by_contra hcommitted
    obtain ⟨e, seq, hget⟩ := StagingStore.mem_fragments.mp hf
    have hlt := h.older e seq f hget r hr (Bool.not_eq_false _ ▸ hcommitted) x hx
      (by rw [hrbyte]; nofun)
    have hle := hmax _ hfl hx
    dsimp only at hle
    omega
  obtain ⟨g, hg, hle, hover⟩ := h.kept r hr hopen
  have hgx : g.byte x ≠ none := hover x (by rw [hrbyte]; nofun)
  have hgr : ({ eventId := r.eventId, fragment := g } : Staged) = r := by
    have hgl := (h.staged _ _ g hg).2
    exact h.entry_eq hgl hr (le_antisymm (hmax _ hgl hgx) hle)
  have hgf : g = r.fragment := congrArg Staged.fragment hgr
  have hexp : s.expected x = v := by
    unfold StagedMedia.expected
    rw [hv, Option.getD_some]
  refine ⟨g, StagingStore.mem_fragments.mpr ⟨_, _, hg⟩, by rw [hexp, hgf, hrbyte], ?_⟩
  intro k hk hkx
  obtain ⟨e, hkl⟩ := hlog k hk
  rw [hgf]
  refine ⟨hmax _ hkl hkx, fun hord => ?_⟩
  exact congrArg Staged.fragment (h.entry_eq hkl hr hord)

/-- **A read is right** where the invariant holds. -/
theorem Inv.read_eq (h : s.Inv) {requestBegin n : Nat} (hfits : requestBegin + n < u64Modulus) :
    s.read requestBegin n = readAt s.expected requestBegin n := by
  refine StagingStore.overlayRead_eq hfits (fun x hx => ?_) fun x f hf hx =>
    h.expected_of_staged hf hx
  rw [h.expected_of_unstaged hx]
  refine h.settled x (Option.eq_none_iff_forall_not_mem.mpr fun e he => ?_)
  obtain ⟨seq, f, hget, hne⟩ := h.torn x e he
  exact hne (hx f (StagingStore.mem_fragments.mpr ⟨_, _, hget⟩))

/-! ## What each step keeps -/

theorem step_stage (s : StagedMedia) (op : WriteOp) (dataBuffer : Bytes) (diskSizeBytes : Nat) :
    s.step (.stage op dataBuffer diskSizeBytes) = some { s with
      store := (s.store.stageWrite op dataBuffer diskSizeBytes).1
      log := if (s.store.stageWrite op dataBuffer diskSizeBytes).2 = statusSuccess then
          s.log ++ [{
            eventId := op.eventId
            fragment := {
              seq := op.seq
              diskOffsetBytes := op.offsetBytes
              ordinal := s.store.nextOrdinal
              data := dataBuffer } }]
        else s.log } := rfl

/-- The entry of the log after its write was committed. -/
def commitEntry (eventId : Nat) (r : Staged) : Staged :=
  if r.eventId = eventId then { r with committed := true } else r

@[simp] theorem commitEntry_fragment (eventId : Nat) (r : Staged) :
    (commitEntry eventId r).fragment = r.fragment := by
  unfold commitEntry
  split <;> rfl

@[simp] theorem commitEntry_eventId (eventId : Nat) (r : Staged) :
    (commitEntry eventId r).eventId = r.eventId := by
  unfold commitEntry
  split <;> rfl

theorem commitEntry_committed {eventId : Nat} {r : Staged} :
    (commitEntry eventId r).committed = true ↔ r.eventId = eventId ∨ r.committed = true := by
  unfold commitEntry
  by_cases h : r.eventId = eventId
  · rw [if_pos h]
    simp [h]
  · rw [if_neg h]
    simp [h]

/-- A commit that fails. -/
theorem step_commit_failed {eventId diskSizeBytes : Nat} {write : Nat → Option Nat}
    (hfail : (s.store.commit eventId diskSizeBytes write s.media).1 = false) :
    s.step (.commit eventId diskSizeBytes write) = some { s with
      media := (s.store.commit eventId diskSizeBytes write s.media).2.2.1
      torn := fun x =>
        if (s.store.commit eventId diskSizeBytes write s.media).2.2.1 x ≠ s.media x then
          some eventId
        else s.torn x } := by
  have hstore := StagingStore.commit_store s.store s.media hfail
  simp only [step, hfail, hstore, Bool.false_eq_true, if_false]

/-- A commit that succeeds. -/
theorem step_commit_ok {eventId diskSizeBytes : Nat} {write : Nat → Option Nat}
    (hok : (s.store.commit eventId diskSizeBytes write s.media).1 = true) :
    s.step (.commit eventId diskSizeBytes write) = some { s with
      store := (s.store.commit eventId diskSizeBytes write s.media).2.1
      media := (s.store.commit eventId diskSizeBytes write s.media).2.2.1
      log := s.log.map (commitEntry eventId)
      torn := fun x =>
        if (s.store.commit eventId diskSizeBytes write s.media).2.2.2.any fun w =>
            w.offset ≤ x && x < w.offset + w.length then none
        else s.torn x } := by
  simp only [step, hok, if_true]
  rfl

/-- A fragment that is staged is the newest of all. -/
theorem Inv.stage (h : s.Inv) {op : WriteOp} {dataBuffer : Bytes} {diskSizeBytes : Nat}
    (hok : s.StepOk (.stage op dataBuffer diskSizeBytes))
    (hs : s.step (.stage op dataBuffer diskSizeBytes) = some s') : s'.Inv := by
  rw [step_stage] at hs
  obtain rfl := Option.some.inj hs
  rcases s.store.stageWrite_spec op dataBuffer diskSizeBytes with
    ⟨hstore, hstatus⟩ | ⟨hlength, hfits, hstatus, hnext, hget⟩
  · rw [hstore, hstatus, if_neg (by decide)]
    exact { h with }
  · rw [hstatus, if_pos rfl]
    have hcovers := hok (StagingStore.accepts_of_success hstatus)
    generalize hstore : (s.store.stageWrite op dataBuffer diskSizeBytes).1 = store at hnext hget ⊢
    refine ⟨?_, ?_, ?_, ?_, ?_, ?_, ?_⟩
    · refine List.pairwise_append.mpr ⟨h.sorted, List.pairwise_singleton .., fun a ha b hb => ?_⟩
      obtain rfl := List.mem_singleton.mp hb
      exact h.bounded a ha
    · intro r hr
      rw [hnext]
      rcases List.mem_append.mp hr with hr | hr
      · exact Nat.lt_succ_of_lt (h.bounded r hr)
      · obtain rfl := List.mem_singleton.mp hr
        exact Nat.lt_succ_self _
    · intro eventId seq f hf
      rw [hget] at hf
      by_cases hkey : eventId = op.eventId ∧ seq = op.seq
      · rw [if_pos hkey] at hf
        obtain rfl := Option.some.inj hf
        refine ⟨hkey.2.symm, List.mem_append_right _ ?_⟩
        rw [hkey.1]
        exact List.mem_cons_self
      · rw [if_neg hkey] at hf
        obtain ⟨hseq, hmem⟩ := h.staged eventId seq f hf
        exact ⟨hseq, List.mem_append_left _ hmem⟩
    · intro r hr hopen
      rw [hget]
      rcases List.mem_append.mp hr with hr | hr
      · obtain ⟨f, hf, hle, hover⟩ := h.kept r hr hopen
        by_cases hkey : r.eventId = op.eventId ∧ r.fragment.seq = op.seq
        · rw [if_pos hkey]
          rw [hkey.1, hkey.2] at hf
          refine ⟨_, rfl, (h.bounded r hr).le, fun x hx => ?_⟩
          exact hcovers f hf x (hover x hx)
        · rw [if_neg hkey]
          exact ⟨f, hf, hle, hover⟩
      · obtain rfl := List.mem_singleton.mp hr
        exact ⟨_, if_pos ⟨rfl, rfl⟩, le_rfl, fun _ hx => hx⟩
    · intro eventId seq f hf r hr hcommitted x hfx hrx
      have hr : r ∈ s.log := by
        rcases List.mem_append.mp hr with hr | hr
        · exact hr
        · obtain rfl := List.mem_singleton.mp hr
          cases hcommitted
      rw [hget] at hf
      split at hf
      · obtain rfl := Option.some.inj hf
        exact h.bounded r hr
      · exact h.older eventId seq f hf r hr hcommitted x hfx hrx
    · intro x hx
      unfold StagedMedia.settled
      rw [newest_concat]
      exact h.settled x hx
    · intro x eventId hx
      obtain ⟨seq, f, hf, hfx⟩ := h.torn x eventId hx
      by_cases hkey : eventId = op.eventId ∧ seq = op.seq
      · rw [hkey.1, hkey.2] at hf
        exact ⟨seq, _, (hget eventId seq).trans (if_pos hkey), hcovers f hf x hfx⟩
      · exact ⟨seq, f, by rw [hget, if_neg hkey]; exact hf, hfx⟩

/-- A write that is rejected takes what it has staged with it. -/
theorem Inv.reject (h : s.Inv) {eventId : Nat} (hok : s.StepOk (.reject eventId))
    (hs : s.step (.reject eventId) = some s') : s'.Inv := by
  obtain rfl := Option.some.inj hs
  have hget : ∀ e seq, e ≠ eventId →
      (s.store.reject eventId).get e seq = s.store.get e seq :=
    fun e seq hne => (StagingStore.get_reject ..).trans (if_neg hne)
  have hstays : ∀ r : Staged, (decide (r.eventId ≠ eventId) || r.committed) = true ↔
      (r.eventId ≠ eventId ∨ r.committed = true) := by
    intro r
    rw [Bool.or_eq_true, decide_eq_true_eq]
  have hmem : ∀ r, r ∈ s.log.filter (fun r => decide (r.eventId ≠ eventId) || r.committed) ↔
      r ∈ s.log ∧ (r.eventId ≠ eventId ∨ r.committed = true) := by
    intro r
    rw [List.mem_filter, hstays]
  have hstaged : ∀ e seq f, (s.store.reject eventId).get e seq = some f →
      e ≠ eventId ∧ s.store.get e seq = some f := by
    intro e seq f hf
    refine ⟨fun he => ?_, StagingStore.get_of_reject hf⟩
    rw [StagingStore.get_reject, if_pos he] at hf
    cases hf
  refine ⟨h.sorted.filter _, ?_, ?_, ?_, ?_, ?_, ?_⟩
  · intro r hr
    exact h.bounded r ((hmem r).mp hr).1
  · intro e seq f hf
    obtain ⟨hne, hf⟩ := hstaged e seq f hf
    obtain ⟨hseq, hin⟩ := h.staged e seq f hf
    exact ⟨hseq, (hmem _).mpr ⟨hin, .inl hne⟩⟩
  · intro r hr hopen
    obtain ⟨hr, hstay⟩ := (hmem r).mp hr
    have hne : r.eventId ≠ eventId := by
      rcases hstay with hne | hcommitted
      · exact hne
      · rw [hopen] at hcommitted
        cases hcommitted
    rw [hget _ _ hne]
    exact h.kept r hr hopen
  · intro e seq f hf r hr
    exact h.older e seq f (hstaged e seq f hf).2 r ((hmem r).mp hr).1
  · intro x hx
    unfold StagedMedia.settled
    rw [Lib.newest_filter fun r _ hr => ?_]
    · exact h.settled x hx
    · rw [Bool.or_eq_false_iff] at hr
      rw [hr.2]
      rfl
  · intro x e hx
    obtain ⟨seq, f, hf, hfx⟩ := h.torn x e hx
    have hne : e ≠ eventId := fun he => hok x (he ▸ hx)
    exact ⟨seq, f, (hget e seq hne).trans hf, hfx⟩

/-- A commit that fails has changed the media only where the write is still staged. -/
theorem Inv.commit_failed (h : s.Inv) {eventId diskSizeBytes : Nat} {write : Nat → Option Nat}
    (hfail : (s.store.commit eventId diskSizeBytes write s.media).1 = false)
    (hs : s.step (.commit eventId diskSizeBytes write) = some s') : s'.Inv := by
  rw [step_commit_failed hfail] at hs
  obtain rfl := Option.some.inj hs
  refine { h with settled := fun x hx => ?_, torn := fun x e hx => ?_ }
  · dsimp only at hx ⊢
    split at hx
    · cases hx
    · next hsame => exact (not_not.mp hsame).trans (h.settled x hx)
  · dsimp only at hx
    split at hx
    · next hchanged =>
      obtain rfl := Option.some.inj hx
      by_contra hnone
      refine hchanged (StagingStore.commit_outside _ _ fun f hf => ?_)
      obtain ⟨seq, hget⟩ := StagingStore.mem_fragmentsOf.mp hf
      by_contra hne
      exact hnone ⟨seq, f, hget, hne⟩
    · exact h.torn x e hx

/-- **A write that is committed** has its newest fragment over a byte on the media, where it is the
newest of all that was committed. -/
theorem Inv.commit_settled (h : s.Inv) {eventId diskSizeBytes : Nat} {write : Nat → Option Nat}
    (hok : s.StepOk (.commit eventId diskSizeBytes write))
    (hcommit : (s.store.commit eventId diskSizeBytes write s.media).1 = true) {x : Nat}
    {f : StagedFragment} (hf : f ∈ s.store.fragmentsOf eventId) (hx : f.byte x ≠ none) :
    (s.store.commit eventId diskSizeBytes write s.media).2.2.1 x =
      (newest (fun r => if r.committed then r.fragment.byte x else none)
        (s.log.map (commitEntry eventId))).getD (s.base x) := by
  have hclear := hok ((StagingStore.commit_goes ..).mp hcommit)
  have hsome : newest (fun f => f.byte x) (s.store.fragmentsOf eventId) ≠ none :=
    fun hnone => hx (newest_eq_none.mp hnone f hf)
  obtain ⟨v, hv⟩ := Option.ne_none_iff_exists'.mp hsome
  rw [StagingStore.commit_media _ _ hcommit, hv, Option.getD_some]
  obtain ⟨w, hw, hwx, hmax⟩ := exists_newest
    (StagingStore.fragmentsOf_sorted fun seq g hg => (h.staged eventId seq g hg).1) hv
  obtain ⟨seq, hw⟩ := StagingStore.mem_fragmentsOf.mp hw
  have hwne : w.byte x ≠ none := by
    rw [hwx]
    nofun
  obtain ⟨hwseq, hwlog⟩ := h.staged eventId seq w hw
  -- what is open of the write over the byte is no newer than the fragment with the last number
  have hle : ∀ r ∈ s.log, r.eventId = eventId ∨ r.committed = true → r.fragment.byte x ≠ none →
      r.fragment.ordinal ≤ w.ordinal := by
    intro r hr hcommitted hrx
    by_cases hopen : r.committed = true
    · exact (h.older eventId seq w hw r hr hopen x hwne hrx).le
    · obtain ⟨g, hg, hord, hover⟩ := h.kept r hr (Bool.not_eq_true _ ▸ hopen)
      rw [hcommitted.resolve_right hopen] at hg
      refine hord.trans ?_
      have hgle := hmax g (StagingStore.mem_fragmentsOf.mpr ⟨_, hg⟩) (hover x hrx)
      rw [hwseq, (h.staged eventId _ g hg).1] at hgle
      rcases hgle.lt_or_eq with hlt | heq
      · by_contra hnlt
        exact hwne (hclear _ g hg eventId seq w hw (.inr hlt) (by omega) x (hover x hrx))
      · rw [heq, hw] at hg
        exact (congrArg StagedFragment.ordinal (Option.some.inj hg)).ge
  have hhit : ∀ r : Staged,
      (if (commitEntry eventId r).committed then (commitEntry eventId r).fragment.byte x else none) =
        if r.eventId = eventId ∨ r.committed = true then r.fragment.byte x else none := by
    intro r
    rw [commitEntry_fragment]
    exact if_congr commitEntry_committed rfl rfl
  have hmem : ∀ r : Staged,
      (if r.eventId = eventId ∨ r.committed = true then r.fragment.byte x else none) ≠ none →
        (r.eventId = eventId ∨ r.committed = true) ∧ r.fragment.byte x ≠ none := by
    intro r hr
    split at hr
    · next hc => exact ⟨hc, hr⟩
    · exact absurd rfl hr
  have hsorted : s.log.Pairwise fun a b => a.fragment.ordinal ≤ b.fragment.ordinal :=
    h.sorted.imp fun hlt => hlt.le
  rw [Lib.newest_map, newest_congr fun r _ => hhit r,
    newest_of_max hsorted hwlog ((if_pos (.inl rfl)).trans hwx) (fun r hr hne => ?_)
      fun r hr hne hord => ?_]
  · rfl
  · exact hle r hr (hmem r hne).1 (hmem r hne).2
  · rw [h.entry_eq hr hwlog hord]

/-- What was staged for a write that is committed is settled; the rest is as it was. -/
theorem Inv.commit_ok (h : s.Inv) {eventId diskSizeBytes : Nat} {write : Nat → Option Nat}
    (hok : s.StepOk (.commit eventId diskSizeBytes write))
    (hcommit : (s.store.commit eventId diskSizeBytes write s.media).1 = true)
    (hs : s.step (.commit eventId diskSizeBytes write) = some s') : s'.Inv := by
  rw [step_commit_ok hcommit] at hs
  obtain rfl := Option.some.inj hs
  have hstaged : ∀ e seq f,
      (s.store.commit eventId diskSizeBytes write s.media).2.1.get e seq = some f →
        e ≠ eventId ∧ s.store.get e seq = some f := by
    intro e seq f hf
    refine ⟨fun he => ?_, StagingStore.get_commit_some _ _ hf⟩
    rw [he, StagingStore.get_commit_ok _ _ hcommit] at hf
    cases hf
  have hwritten : ∀ x, ((s.store.commit eventId diskSizeBytes write s.media).2.2.2.any fun w =>
      decide (w.offset ≤ x) && decide (x < w.offset + w.length)) = true ↔
        ∃ seq f, s.store.get eventId seq = some f ∧ f.byte x ≠ none := by
    intro x
    rw [List.any_eq_true]
    constructor
    · rintro ⟨w, hw, hin⟩
      obtain ⟨seq, f, hf, rfl, -⟩ := StagingStore.commit_writes _ _ w hw
      exact ⟨seq, f, hf, byteAt_ne_none.mpr (by simpa using hin)⟩
    · rintro ⟨seq, f, hf, hfx⟩
      have hin := byteAt_ne_none.mp hfx
      have hdata : f.data ≠ [] := by
        intro hnil
        rw [hnil, List.length_nil] at hin
        omega
      exact ⟨_, StagingStore.commit_ok _ _ hcommit hf hdata, by simpa using hin⟩
  have hmem : ∀ r, r ∈ s.log.map (commitEntry eventId) ↔
      ∃ r₀ ∈ s.log, commitEntry eventId r₀ = r := fun r => List.mem_map
  refine ⟨?_, ?_, ?_, ?_, ?_, ?_, ?_⟩
  · refine List.pairwise_map.mpr (h.sorted.imp fun hlt => ?_)
    rwa [commitEntry_fragment, commitEntry_fragment]
  · intro r hr
    obtain ⟨r₀, hr₀, rfl⟩ := (hmem r).mp hr
    rw [commitEntry_fragment, StagingStore.commit_nextOrdinal]
    exact h.bounded r₀ hr₀
  · intro e seq f hf
    obtain ⟨hne, hf⟩ := hstaged e seq f hf
    obtain ⟨hseq, hin⟩ := h.staged e seq f hf
    exact ⟨hseq, (hmem _).mpr ⟨_, hin, if_neg hne⟩⟩
  · intro r hr hopen
    obtain ⟨r₀, hr₀, rfl⟩ := (hmem r).mp hr
    obtain ⟨hne, hopen⟩ := not_or.mp fun hc => Bool.false_ne_true
      (hopen.symm.trans (commitEntry_committed.mpr hc))
    obtain ⟨f, hf, hle, hover⟩ := h.kept r₀ hr₀ (Bool.not_eq_true _ ▸ hopen)
    rw [commitEntry_fragment, commitEntry_eventId]
    exact ⟨f, (StagingStore.get_commit_of_ne _ _ hne).trans hf, hle, hover⟩
  · intro e seq f hf r hr hcommitted x hfx hrx
    obtain ⟨hne, hf⟩ := hstaged e seq f hf
    obtain ⟨r₀, hr₀, rfl⟩ := (hmem r).mp hr
    rw [commitEntry_fragment] at hrx ⊢
    by_cases hopen : r₀.committed = true
    · exact h.older e seq f hf r₀ hr₀ hopen x hfx hrx
    · obtain ⟨g, hg, hle, hover⟩ := h.kept r₀ hr₀ (Bool.not_eq_true _ ▸ hopen)
      rw [(commitEntry_committed.mp hcommitted).resolve_right hopen] at hg
      -- nothing older than the write is staged over its bytes, so what is staged there is newer
      have hclear := hok ((StagingStore.commit_goes ..).mp hcommit) _ g hg e seq f hf (.inl hne)
      have hge : ¬ f.ordinal < g.ordinal := fun hlt => hfx (hclear hlt x (hover x hrx))
      have hord : g.ordinal ≠ f.ordinal := fun heq => hne (congrArg Staged.eventId
        (h.entry_eq (h.staged _ _ g hg).2 (h.staged e seq f hf).2 heq)).symm
      omega
  · intro x hx
    by_cases hover : ∃ f ∈ s.store.fragmentsOf eventId, f.byte x ≠ none
    · obtain ⟨f, hf, hfx⟩ := hover
      exact h.commit_settled hok hcommit hf hfx
    · have hnone : ∀ f ∈ s.store.fragmentsOf eventId, f.byte x = none :=
        fun f hf => not_not.mp fun hne => hover ⟨f, hf, hne⟩
      have htorn : s.torn x = none := by
        dsimp only at hx
        split at hx
        · next hany =>
          obtain ⟨seq, f, hf, hfx⟩ := (hwritten x).mp hany
          exact absurd (hnone f (StagingStore.mem_fragmentsOf.mpr ⟨seq, hf⟩)) hfx
        · exact hx
      dsimp only
      rw [StagingStore.commit_outside _ _ hnone, h.settled x htorn]
      unfold StagedMedia.settled
      rw [Lib.newest_map, newest_congr fun r hr => ?_]
      rw [commitEntry_fragment]
      by_cases hopen : r.committed = true
      · rw [if_pos hopen, if_pos (commitEntry_committed.mpr (.inr hopen))]
      · rw [if_neg hopen]
        split
        · next hc =>
          obtain ⟨f, hf, -, hcover⟩ := h.kept r hr (Bool.not_eq_true _ ▸ hopen)
          rw [(commitEntry_committed.mp hc).resolve_right hopen] at hf
          by_contra hne
          exact hcover x (Ne.symm hne) (hnone f (StagingStore.mem_fragmentsOf.mpr ⟨_, hf⟩))
        · rfl
  · intro x e hx
    dsimp only at hx
    split at hx
    · cases hx
    · next hany =>
      obtain ⟨seq, f, hf, hfx⟩ := h.torn x e hx
      have hne : e ≠ eventId := by
        rintro rfl
        exact hany ((hwritten x).mpr ⟨seq, f, hf, hfx⟩)
      exact ⟨seq, f, (StagingStore.get_commit_of_ne _ _ hne).trans hf, hfx⟩

/-- **What a step keeps.** -/
theorem step_inv {a : Action} (h : s.Inv) (hok : s.StepOk a) (hs : s.step a = some s') :
    s'.Inv := by
  cases a with
  | stage op dataBuffer diskSizeBytes => exact h.stage hok hs
  | commit eventId diskSizeBytes write =>
    by_cases hcommit : (s.store.commit eventId diskSizeBytes write s.media).1 = true
    · exact h.commit_ok hok hcommit hs
    · exact h.commit_failed (Bool.not_eq_true _ ▸ hcommit) hs
  | reject eventId => exact h.reject hok hs

theorem inv_init (base : Nat → UInt8) : (init base).Inv where
  sorted := List.Pairwise.nil
  bounded := nofun
  staged := fun eventId seq f hf => by
    rw [show (init base).store = {} from rfl, StagingStore.get_empty] at hf
    cases hf
  kept := nofun
  older := fun _ _ _ _ => nofun
  settled := fun _ _ => rfl
  torn := nofun

/-- A commit leaves what the bytes ought to be. -/
theorem expected_commit {eventId diskSizeBytes : Nat} {write : Nat → Option Nat}
    (hs : s.step (.commit eventId diskSizeBytes write) = some s') : s'.expected = s.expected := by
  by_cases hcommit : (s.store.commit eventId diskSizeBytes write s.media).1 = true
  · rw [step_commit_ok hcommit] at hs
    obtain rfl := Option.some.inj hs
    funext x
    unfold expected
    rw [Lib.newest_map]
    simp only [commitEntry_fragment]
  · rw [step_commit_failed (Bool.not_eq_true _ ▸ hcommit)] at hs
    obtain rfl := Option.some.inj hs
    rfl

/-- **Reads through failing commits.**  In a run whose steps are such, every read returns at each
byte what was staged last over it and not rejected, and a commit, failed or not, changes no read. -/
theorem reads_kept (base : Nat → UInt8) {as : List Action} {s : StagedMedia}
    (hok : StepsMeet step StepOk (init base) as) (hr : runFrom step (init base) as = some s) :
    (∀ requestBegin n, requestBegin + n < u64Modulus →
      s.read requestBegin n = readAt s.expected requestBegin n) ∧
    ∀ eventId diskSizeBytes write s',
      s.StepOk (.commit eventId diskSizeBytes write) →
      s.step (.commit eventId diskSizeBytes write) = some s' →
      ∀ requestBegin n, requestBegin + n < u64Modulus →
        s'.read requestBegin n = s.read requestBegin n := by
  have h : s.Inv := Lib.run_inv_of_guard (fun s a s' h hok hs => step_inv h hok hs) as _ _
    (inv_init base) hok hr
  refine ⟨fun _ _ hfits => h.read_eq hfits, fun eventId diskSizeBytes write s' hok hs _ _ hfits => ?_⟩
  rw [(step_inv h hok hs).read_eq hfits, expected_commit hs, h.read_eq hfits]

/-- A fragment of one byte, the whole of its write. -/
def oneByte (eventId : Nat) : WriteOp where
  eventId
  seq := 0
  totalSeq := 1
  offsetBytes := 0
  dataLength := 1

/-- A write whose commit fails is still what a read returns. -/
theorem reads_kept_failed : ∃ s,
    runFrom step (init fun _ => 0) [.stage (oneByte 1) [1] 512, .commit 1 512 fun _ => some 0] =
      some s ∧
    (∀ requestBegin n, requestBegin + n < u64Modulus →
      s.read requestBegin n = readAt s.expected requestBegin n) ∧
    s.expected 0 = 1 ∧ s.media 0 = 0 := by
  have hok : StepsMeet step StepOk (init fun _ => 0)
      [.stage (oneByte 1) [1] 512, .commit 1 512 fun _ => some 0] := by
    refine Lib.stepsMeet_cons ?_ rfl (Lib.stepsMeet_cons ?_ rfl trivial)
    · intro _ f hf
      rw [show (init fun _ => 0).store = {} from rfl, StagingStore.get_empty] at hf
      cases hf
    · intro hgoes
      have hcommit := (StagingStore.commit_goes _ fun _ => 0).mpr hgoes
      exact absurd hcommit (by decide)
  refine ⟨_, rfl, (reads_kept (fun _ => 0) hok rfl).1, ?_, ?_⟩
  · decide
  · decide

/-- The commit of the first write fails before its first byte; a second write over the same byte is
staged and committed, and is hidden by the first from then on. -/
theorem staleRecord_hides : ∃ s s',
    runFrom step (init fun _ => 0) [.stage (oneByte 1) [1] 512, .commit 1 512 fun _ => some 0,
      .stage (oneByte 2) [2] 512] = some s ∧
    (s.store.commit 2 512 (fun _ => none) s.media).1 = true ∧
    s.step (.commit 2 512 fun _ => none) = some s' ∧
    s.read 0 1 = [2] ∧ s'.read 0 1 = [1] ∧ s'.expected 0 = 2 ∧ s'.media 0 = 2 := by
  refine ⟨_, _, rfl, ?_, rfl, ?_, ?_, ?_, ?_⟩
  · decide
  · refine (StagingStore.overlayRead_sorted (by decide) ?_).trans ?_ <;> decide
  · refine (StagingStore.overlayRead_sorted (by decide) ?_).trans ?_ <;> decide
  · decide
  · decide

end StagedMedia

end YumeDisk.Backend
