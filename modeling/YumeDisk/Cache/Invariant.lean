import Mathlib.Data.Finset.Card
import YumeDisk.Cache.System
import YumeDisk.Cache.ForegroundSpec
import YumeDisk.Cache.WorkerSpec
import YumeDisk.Lib.Update

/-!
# The invariant of the running cache

`Sys.Inv` adds to the invariant of the world what every thread relies on while it has released the
lock: a call that loads a block is the only one, its placeholder waits with the call's patch, and
the bytes it has read are still the right ones.

* `Stepped`: what a step does: the invariant survives, and no temp file in use changes.
* `call_step`, `worker_step`: what a section has to show for its step to be one of these.
* `step_inv`: every step keeps the invariant.  No step can poison the lock.
-/

namespace YumeDisk.Cache

open YumeDisk.Lib

/-- The block that the flush worker is busy with, and how far it is. -/
def WorkerPhase.flush : WorkerPhase → Nat → Option Flush
  | .flushRead b _ => Function.update (fun _ => none) b (some .reading)
  | .flushWrite b _ tempBuffer => Function.update (fun _ => none) b (some (.writing tempBuffer))
  | .flushRemove b => Function.update (fun _ => none) b (some .removing)
  | .flushFinish b flushOk => Function.update (fun _ => none) b (some (.finished flushOk))
  | .running _ | .waiting _ | .exited => fun _ => none

/-- The flush goes to the base of its block. -/
def WorkerPhase.Aligned (blockSize : Nat) : WorkerPhase → Prop
  | .flushRead b base | .flushWrite b base _ => base = b * blockSize
  | _ => True

/-- The phases between the placeholder and the section that completes it. -/
def Phase.loads : Phase → Bool
  | .readRight _ _ | .rightRead _ _ | .readTemp _ | .tempRead _ _ => true
  | _ => false

/-- The call is counted as a foreground dirty eviction waiter. -/
def Phase.waits : Phase → Bool
  | .entering isWaiting | .waiting isWaiting => isWaiting
  | _ => false

/-- What a call relies on between its sections. -/
def CallInv (g : Ghost) (w : World) (op : Op) : Phase → Prop
  | .entering _ | .waiting _ | .returned => True
  | .readRight b base => b = op.blockIndex ∧ base = op.blockIndex * g.blockSize ∧
      w.view op.blockIndex = some (.placeholder g.blockSize .loadingRemote op.patches)
  | .rightRead b result => b = op.blockIndex ∧
      w.view op.blockIndex = some (.placeholder g.blockSize .loadingRemote op.patches) ∧
      LoadResult (w.places g op.blockIndex).right result
  | .readTemp b => b = op.blockIndex ∧
      w.view op.blockIndex = some (.placeholder g.blockSize .rehydrating op.patches)
  | .tempRead b result => b = op.blockIndex ∧
      w.view op.blockIndex = some (.placeholder g.blockSize .rehydrating op.patches) ∧
      LoadResult (w.places g op.blockIndex).logical result

/-- A loading call has its placeholder. -/
theorem CallInv.notReady {g : Ghost} {w : World} {op : Op} {phase : Phase}
    (h : CallInv g w op phase) (hl : phase.loads) :
    ∃ v, w.view op.blockIndex = some v ∧ v.loadState ≠ .ready := by
  cases phase with
  | entering _ | waiting _ | returned => cases hl
  | readRight b base => exact ⟨_, h.2.2, by simp [View.placeholder, View.loading]⟩
  | rightRead b result => exact ⟨_, h.2.1, by simp [View.placeholder, View.loading]⟩
  | readTemp b => exact ⟨_, h.2, by simp [View.placeholder, View.loading]⟩
  | tempRead b result => exact ⟨_, h.2.1, by simp [View.placeholder, View.loading]⟩

/-- A call relies only on the places of the block it loads. -/
theorem CallInv.congr {g g' : Ghost} {w w' : World} {op : Op} {phase : Phase}
    (h : CallInv g w op phase) (hg : g'.blockSize = g.blockSize)
    (hp : phase.loads → w'.places g' op.blockIndex = w.places g op.blockIndex) :
    CallInv g' w' op phase := by
  have hview : phase.loads → w'.view op.blockIndex = w.view op.blockIndex := fun hl =>
    congrArg Places.view (hp hl)
  cases phase with
  | entering _ | waiting _ | returned => trivial
  | readRight b base => exact ⟨h.1, by rw [hg]; exact h.2.1, by rw [hview rfl, hg]; exact h.2.2⟩
  | rightRead b result =>
    exact ⟨h.1, by rw [hview rfl, hg]; exact h.2.1, by rw [hp rfl]; exact h.2.2⟩
  | readTemp b => exact ⟨h.1, by rw [hview rfl, hg]; exact h.2⟩
  | tempRead b result =>
    exact ⟨h.1, by rw [hview rfl, hg]; exact h.2.1, by rw [hp rfl]; exact h.2.2⟩

namespace Sys

/-- What the invariant of the world speaks of, in the state `s` of a run from `right` and `temp`. -/
def ghost (s : Sys) (right : Nat → UInt8) (temp : TempStore) : Ghost where
  blockSize := s.config.blockSizeBytes
  maxFiles := s.config.tempMaxFiles
  stale := temp
  logical := s.logical right
  flush := s.worker.flush

/-- The history and the calls agree. -/
structure HistInv (s : Sys) : Prop where
  wf : WellFormed s.hist
  fresh : ∀ i, s.calls i = none → ∀ op, HistEvent.invoke i op ∉ s.hist
  invoked : ∀ i c, s.calls i = some c → HistEvent.invoke i c.op ∈ s.hist
  pending : ∀ i c, s.calls i = some c → c.phase ≠ .returned →
    ∀ op r, HistEvent.respond i op r ∉ s.hist

structure Inv (right : Nat → UInt8) (temp : TempStore) (s : Sys) : Prop where
  sound : s.poisoned = false
  world : s.world.Inv (s.ghost right temp)
  aligned : s.worker.Aligned s.config.blockSizeBytes
  exited : s.worker = .exited → s.world.state.stopRequested = true
  fits : ∀ i c, s.calls i = some c → c.op.Fits s.config.blockSizeBytes
  call : ∀ i c, s.calls i = some c → CallInv (s.ghost right temp) s.world c.op c.phase
  loader : ∀ i j c d, s.calls i = some c → s.calls j = some d → c.phase.loads → d.phase.loads →
    c.op.blockIndex = d.op.blockIndex → i = j
  loaded : ∀ b, ¬ s.world.NotLoading b →
    ∃ i c, s.calls i = some c ∧ c.phase.loads ∧ c.op.blockIndex = b
  waiters : ∃ waiting : Finset Nat,
    waiting.card = s.world.state.foregroundDirtyEvictionWaiters ∧
      ∀ i, i ∈ waiting ↔ ∃ c, s.calls i = some c ∧ c.phase.waits
  hist : s.HistInv
  legal : Legal applyOp (initialBlocks s.config right) (okResponses s.hist)

/-- What the step `a` from `s` to `s'` does.  Only the removal at the end of a flush touches a temp
file that is in use, and only the end of a flush takes one off the accounts. -/
structure Stepped (right : Nat → UInt8) (temp : TempStore) (s : Sys) (a : Action) (s' : Sys) :
    Prop where
  inv : s'.Inv right temp
  written : ∀ c, c ∈ s'.world.tempFiles →
    (c ∈ s.world.tempFiles ∧ (s'.world.temp c = s.world.temp c ∨ s'.world.temp c = none)) ∨
      s'.world.temp c = some (s'.logical right c)
  in_use : (∀ ok, a ≠ .flushRemove ok) →
    ∀ c, c ∈ s.world.state.activeTempBlocks → s'.world.temp c = s.world.temp c
  kept : a ≠ .flushFinish → ∀ c, c ∈ s.world.tempFiles → c ∈ s'.world.tempFiles
  waits : ∀ i op waiting, s'.calls i = some ⟨op, .waiting waiting⟩ →
    s.calls i = some ⟨op, .waiting waiting⟩ ∨
      ∃ reason, waiting = reason.counted ∧ WaitCause (s'.ghost right temp) s'.world reason

/-- No call but `i` loads block `b`. -/
def Alone (s : Sys) (i b : Nat) : Prop :=
  ∀ j c, j ≠ i → s.calls j = some c → c.phase.loads → c.op.blockIndex ≠ b

variable {right : Nat → UInt8} {temp : TempStore} {s : Sys} {i : Nat} {op : Op} {ph ph' : Phase}

theorem Inv.alone_of_loads (h : s.Inv right temp) (hi : s.calls i = some ⟨op, ph⟩)
    (hl : ph.loads) : s.Alone i op.blockIndex := fun j c hj hc hcl hb =>
  hj (h.loader j i c ⟨op, ph⟩ hc hi hcl hl hb)

theorem Inv.alone_of_notLoading (h : s.Inv right temp) {b : Nat} (hb : s.world.NotLoading b) :
    s.Alone i b := by
  rintro j c - hc hl rfl
  obtain ⟨v, hv, hls⟩ := (h.call j c hc).notReady hl
  exact hls (hb v hv)

theorem Inv.counted (h : s.Inv right temp) (hi : s.calls i = some ⟨op, ph⟩) :
    Counted ph.waits s.world := by
  intro hw
  obtain ⟨S, hcard, hS⟩ := h.waiters
  rw [← hcard, Finset.card_ne_zero]
  exact ⟨i, (hS i).mpr ⟨_, hi, hw⟩⟩

/-! ## History -/

theorem HistInv.setPhase (h : s.HistInv) (hi : s.calls i = some ⟨op, ph⟩) (hret : ph ≠ .returned)
    {w : World} : HistInv ({ s with world := w }.setPhase i op ph') := by
  have hcalls : ∀ j c, Function.update s.calls i (some ⟨op, ph'⟩) j = some c →
      ∃ c', s.calls j = some c' ∧ c'.op = c.op ∧ (j = i ∨ c' = c) := by
    intro j c hj
    rcases update_some hj with ⟨rfl, rfl⟩ | ⟨hji, hj⟩
    · exact ⟨_, hi, rfl, .inl rfl⟩
    · exact ⟨c, hj, rfl, .inr rfl⟩
  refine ⟨h.wf, fun j hj => h.fresh j ?_, fun j c hj => ?_, fun j c hj hp => ?_⟩
  · by_cases hji : j = i
    · subst hji
      simp [Sys.setPhase] at hj
    · simpa [Sys.setPhase, Function.update_of_ne hji] using hj
  · obtain ⟨c', hc', hop, -⟩ := hcalls j c hj
    exact hop ▸ h.invoked j c' hc'
  · obtain ⟨c', hc', -, rfl | rfl⟩ := hcalls j c hj
    · rw [hi] at hc'
      obtain rfl := Option.some.inj hc'
      exact h.pending j _ hi hret
    · exact h.pending j c' hc' hp

theorem HistInv.respond (h : s.HistInv) (hi : s.calls i = some ⟨op, ph⟩) (hret : ph ≠ .returned)
    {w : World} (r : Option Ret) : HistInv ({ s with world := w }.respond i op r) := by
  have hs : HistInv ({ s with world := w }.setPhase i op .returned) := h.setPhase hi hret
  refine ⟨.respond h.wf (h.invoked i _ hi) (h.pending i _ hi hret), fun j hj op' hm => ?_,
    fun j c hj => List.mem_append_left _ (hs.invoked j c hj), fun j c hj hp op' r' hm => ?_⟩
  · rcases List.mem_append.mp hm with hm | hm
    · exact hs.fresh j hj op' hm
    · simp at hm
  · rcases List.mem_append.mp hm with hm | hm
    · exact hs.pending j c hj hp op' r' hm
    · obtain ⟨rfl, -⟩ : j = i ∧ _ := by simpa using hm
      simp only [Sys.respond, Sys.setPhase, Function.update_self] at hj
      obtain rfl := Option.some.inj hj
      exact hp rfl

/-! ## Steps of a call -/

theorem Inv.call_step {s' : Sys} {a : Action} {b : Option Nat} {n : Nat} (h : s.Inv right temp)
    (hi : s.calls i = some ⟨op, ph⟩) (hconfig : s'.config = s.config)
    (hworker : s'.worker = s.worker) (hsound : s'.poisoned = false)
    (hcalls : s'.calls = Function.update s.calls i (some ⟨op, ph'⟩)) (hhist : s'.HistInv)
    (hlegal : Legal applyOp (initialBlocks s'.config right) (okResponses s'.hist))
    (hlands : Lands (s.ghost right temp) (s'.ghost right temp) b n s.world s'.world)
    (hn : n + ph.waits.toNat = s.world.state.foregroundDirtyEvictionWaiters + ph'.waits.toNat)
    (hb : ∀ c, b = some c → s.Alone i c ∧ c = op.blockIndex ∧
      (ph'.loads ∨ s'.world.NotLoading c))
    (hnew : ph'.loads → s.Alone i op.blockIndex)
    (hleave : ph.loads → ph'.loads ∨ b = some op.blockIndex)
    (hwait : ∀ waiting, ph' = .waiting waiting →
      ∃ reason, waiting = reason.counted ∧ WaitCause (s'.ghost right temp) s'.world reason)
    (hcall : CallInv (s'.ghost right temp) s'.world op ph') : s.Stepped right temp a s' := by
  have hcase : ∀ j c, s'.calls j = some c → j = i ∧ c = ⟨op, ph'⟩ ∨ j ≠ i ∧ s.calls j = some c := by
    intro j c hj
    rw [hcalls] at hj
    by_cases hji : j = i
    · subst hji
      rw [Function.update_self] at hj
      exact .inl ⟨rfl, (Option.some.inj hj).symm⟩
    · rw [Function.update_of_ne hji] at hj
      exact .inr ⟨hji, hj⟩
  have hself : s'.calls i = some ⟨op, ph'⟩ := by rw [hcalls, Function.update_self]
  refine ⟨⟨hsound, hlands.inv, by rw [hworker, hconfig]; exact h.aligned,
    fun hq => hlands.changes.stop.trans (h.exited (hworker.symm.trans hq)), fun j c hj => ?_,
    fun j c hj => ?_, fun j k c d hj hk hc hd hbl => ?_, fun c hc => ?_, ?_, hhist, hlegal⟩,
    fun c hc => (hlands.changes.written c hc).imp_right And.right,
    fun _ c hc => hlands.changes.temp c (.inr hc), fun _ => hlands.changes.kept,
    fun j op' waiting hj => ?_⟩
  · rw [hconfig]
    rcases hcase j c hj with ⟨-, rfl⟩ | ⟨-, hj⟩
    · exact h.fits i ⟨op, ph⟩ hi
    · exact h.fits j c hj
  · rcases hcase j c hj with ⟨-, rfl⟩ | ⟨hji, hj⟩
    · exact hcall
    · have hcj := h.call j c hj
      refine hcj.congr (congrArg CacheConfig.blockSizeBytes hconfig) fun hl => ?_
      obtain ⟨v, hv, hls⟩ := hcj.notReady hl
      refine hlands.changes.places _ (fun hbc => (hb _ hbc).1 j c hji hj hl rfl) fun v' hv' => ?_
      obtain rfl := Option.some.inj (hv.symm.trans hv')
      exact hls
  · rcases hcase j c hj with ⟨rfl, rfl⟩ | ⟨hji, hj⟩ <;>
      rcases hcase k d hk with ⟨rfl, rfl⟩ | ⟨hki, hk⟩
    · rfl
    · exact absurd hbl.symm (hnew hc k d hki hk hd)
    · exact absurd hbl (hnew hd j c hji hj hc)
    · exact h.loader j k c d hj hk hc hd hbl
  · by_cases hbc : b = some c
    · obtain ⟨-, rfl, hl | hnl⟩ := hb c hbc
      · exact ⟨i, _, hself, hl, rfl⟩
      · exact absurd hnl hc
    · have hview := (hlands.changes.loading c hbc).resolve_left hc
      obtain ⟨j, d, hj, hl, rfl⟩ := h.loaded c fun hnl => hc fun v hv => hnl v (hview ▸ hv)
      by_cases hji : j = i
      · subst hji
        obtain rfl := Option.some.inj (hi.symm.trans hj)
        exact ⟨j, _, hself, (hleave hl).resolve_right hbc, rfl⟩
      · exact ⟨j, d, by rw [hcalls, Function.update_of_ne hji]; exact hj, hl, rfl⟩
  · obtain ⟨S, hcard, hS⟩ := h.waiters
    have hwi : i ∈ S ↔ ph.waits = true := by
      rw [hS]
      constructor
      · rintro ⟨c, hc, hw⟩
        obtain rfl := Option.some.inj (hi.symm.trans hc)
        exact hw
      · exact fun hw => ⟨_, hi, hw⟩
    have hmem : ∀ j, j ≠ i → ((∃ c, s'.calls j = some c ∧ c.phase.waits = true) ↔ j ∈ S) := by
      intro j hj
      rw [hS, hcalls, Function.update_of_ne hj]
    have hphase : (∃ c, s'.calls i = some c ∧ c.phase.waits = true) ↔ ph'.waits = true := by
      rw [hself]
      simp
    rw [hlands.waiters]
    -- the set of the waiting calls follows the flag of call `i`
    refine ⟨if ph'.waits then insert i S else S.erase i, ?_, fun j => ?_⟩
    · by_cases hm : i ∈ S
      · have hpos : 0 < S.card := Finset.card_pos.mpr ⟨i, hm⟩
        have hw := hwi.mp hm
        cases hw' : ph'.waits with
        | true => simp_all
        | false =>
          rw [if_neg (by simp), Finset.card_erase_of_mem hm]
          simp only [hw, hw', Bool.toNat_true, Bool.toNat_false] at hn
          omega
      · have hw : ph.waits = false := by simpa using fun h' => hm (hwi.mpr h')
        cases hw' : ph'.waits with
        | true =>
          rw [if_pos rfl, Finset.card_insert_of_notMem hm]
          simp only [hw, hw', Bool.toNat_true, Bool.toNat_false] at hn
          omega
        | false =>
          rw [if_neg (by simp), Finset.erase_eq_of_notMem hm]
          simp only [hw, hw', Bool.toNat_false] at hn
          omega
    · by_cases hji : j = i
      · subst hji
        rw [hphase]
        cases ph'.waits <;> simp
      · rw [hmem j hji]
        cases ph'.waits <;> simp [hji]
  · rcases hcase j _ hj with ⟨-, hc⟩ | ⟨-, hj⟩
    · obtain ⟨rfl, rfl⟩ := Call.mk.inj hc
      exact .inr (hwait waiting rfl)
    · exact .inl hj

/-- A section after which the call goes on. -/
theorem Inv.goes_on {w : World} {a : Action} {b : Option Nat} {n : Nat} (h : s.Inv right temp)
    (hi : s.calls i = some ⟨op, ph⟩) (hret : ph ≠ .returned)
    (hlands : Lands (s.ghost right temp) (s.ghost right temp) b n s.world w)
    (hn : n + ph.waits.toNat = s.world.state.foregroundDirtyEvictionWaiters + ph'.waits.toNat)
    (hb : ∀ c, b = some c → s.Alone i c ∧ c = op.blockIndex ∧ (ph'.loads ∨ w.NotLoading c))
    (hnew : ph'.loads → s.Alone i op.blockIndex)
    (hleave : ph.loads → ph'.loads ∨ b = some op.blockIndex)
    (hwait : ∀ waiting, ph' = .waiting waiting →
      ∃ reason, waiting = reason.counted ∧ WaitCause (s.ghost right temp) w reason)
    (hcall : CallInv (s.ghost right temp) w op ph') :
    s.Stepped right temp a ({ s with world := w }.setPhase i op ph') :=
  h.call_step hi rfl rfl h.sound rfl (h.hist.setPhase hi hret) h.legal hlands hn hb hnew hleave hwait
    hcall

/-- A section after which the call returns an error. -/
theorem Inv.fails {w : World} {a : Action} {b : Option Nat} {n : Nat} (h : s.Inv right temp)
    (hi : s.calls i = some ⟨op, ph⟩) (hret : ph ≠ .returned)
    (hlands : Lands (s.ghost right temp) (s.ghost right temp) b n s.world w)
    (hn : n + ph.waits.toNat = s.world.state.foregroundDirtyEvictionWaiters)
    (hb : ∀ c, b = some c → s.Alone i c ∧ c = op.blockIndex ∧ w.NotLoading c)
    (hleave : ph.loads → b = some op.blockIndex) :
    s.Stepped right temp a ({ s with world := w }.respond i op none) := by
  have hok : okResponses ({ s with world := w }.respond i op none).hist = okResponses s.hist := by
    simp [Sys.respond, Sys.setPhase]
  have hghost : ({ s with world := w }.respond i op none).ghost right temp =
      s.ghost right temp := by
    simp only [Sys.ghost, Sys.logical, hok]
    rfl
  exact h.call_step hi rfl rfl h.sound
    (show _ = Function.update s.calls i (some ⟨op, .returned⟩) from rfl) (h.hist.respond hi hret none)
    (hok ▸ h.legal) (hghost ▸ hlands) hn (fun c hc => (hb c hc).imp_right (And.imp_right .inr))
    (nomatch ·) (fun hl => .inr (hleave hl)) (by simp) trivial

/-- A section after which the call returns what the object returns. -/
theorem Inv.succeeds {w : World} {a : Action} {n : Nat} {ret : Ret} (h : s.Inv right temp)
    (hi : s.calls i = some ⟨op, ph⟩) (hret : ph ≠ .returned)
    (hlands : Lands (s.ghost right temp) ((s.ghost right temp).after op) (some op.blockIndex) n
      s.world w)
    (hr : ret = (applyOp (s.logical right) op).2)
    (hn : n + ph.waits.toNat = s.world.state.foregroundDirtyEvictionWaiters)
    (hb : s.Alone i op.blockIndex) (hnl : w.NotLoading op.blockIndex) :
    s.Stepped right temp a ({ s with world := w }.respond i op (some ret)) := by
  have hok : okResponses ({ s with world := w }.respond i op (some ret)).hist =
      okResponses s.hist ++ [(i, op, ret)] := by
    simp [Sys.respond, Sys.setPhase]
  have hghost : ({ s with world := w }.respond i op (some ret)).ghost right temp =
      (s.ghost right temp).after op := by
    simp only [Sys.ghost, Ghost.after, Sys.logical, hok, stateAfter_concat]
    rfl
  refine h.call_step hi rfl rfl h.sound
    (show _ = Function.update s.calls i (some ⟨op, .returned⟩) from rfl) (h.hist.respond hi hret _)
    (hok ▸ legal_concat.mpr ⟨h.legal, hr.symm⟩) (hghost ▸ hlands) hn ?_ (by rintro ⟨⟩)
    (fun _ => .inr rfl) (by simp) trivial
  rintro c hc
  obtain rfl := Option.some.inj hc
  exact ⟨hb, rfl, .inr hnl⟩

/-! ## Steps of the worker -/

/-- The world of a state changes under the worker, which goes to `phase`. -/
theorem Inv.worker_step {w : World} {a : Action} {b : Option Nat} {phase : WorkerPhase}
    (h : s.Inv right temp)
    (hinv : w.Inv { s.ghost right temp with flush := phase.flush })
    (hothers : Others (s.ghost right temp) { s.ghost right temp with flush := phase.flush } b
      s.world w)
    (hwaiters : w.state.foregroundDirtyEvictionWaiters =
      s.world.state.foregroundDirtyEvictionWaiters)
    (hb : ∀ c, b = some c → s.world.NotLoading c ∧ w.NotLoading c)
    (haligned : phase.Aligned s.config.blockSizeBytes)
    (hexit : phase = .exited → s.world.state.stopRequested = true)
    (htemp : (∀ ok, a ≠ .flushRemove ok) →
      ∀ c, c ∈ s.world.state.activeTempBlocks → w.temp c = s.world.temp c)
    (hkept : a ≠ .flushFinish → ∀ c, c ∈ s.world.tempFiles → c ∈ w.tempFiles) :
    s.Stepped right temp a { s with worker := phase, world := w } where
  inv := {
    sound := h.sound
    world := hinv
    aligned := haligned
    exited := fun hq => hothers.stop.trans (hexit hq)
    fits := h.fits
    call := fun i c hi => by
      refine (h.call i c hi).congr rfl fun hl => ?_
      obtain ⟨v, hv, hls⟩ := (h.call i c hi).notReady hl
      refine hothers.places _ (fun hbc => hls ((hb _ hbc).1 v hv)) fun v' hv' => ?_
      obtain rfl := Option.some.inj (hv.symm.trans hv')
      exact hls
    loader := h.loader
    loaded := fun c hc => by
      have hbc : b ≠ some c := fun hbc => hc (hb c hbc).2
      have hview := (hothers.loading c hbc).resolve_left hc
      exact h.loaded c fun hnl => hc fun v hv => hnl v (hview ▸ hv)
    waiters := by
      obtain ⟨S, hcard, hS⟩ := h.waiters
      exact ⟨S, hcard.trans hwaiters.symm, hS⟩
    hist := ⟨h.hist.wf, h.hist.fresh, h.hist.invoked, h.hist.pending⟩
    legal := h.legal }
  written c hc := (hothers.written c hc).imp_right And.right
  in_use := htemp
  kept := hkept
  waits _ _ _ hj := .inl hj

/-- The same for the steps of a flush. -/
theorem Inv.flush_step {w : World} {a : Action} {b : Nat} {f : Option Flush} {q : WorkerPhase}
    (h : s.Inv right temp)
    (hw : WorkerStep (s.ghost right temp) ((s.ghost right temp).withFlush b f) b s.world w)
    (hphase : q.flush = Function.update s.worker.flush b f)
    (haligned : q.Aligned s.config.blockSizeBytes) (hexit : q ≠ .exited)
    (htemp : (∀ ok, a ≠ .flushRemove ok) →
      ∀ c, c ∈ s.world.state.activeTempBlocks → w.temp c = s.world.temp c)
    (hkept : a ≠ .flushFinish → ∀ c, c ∈ s.world.tempFiles → c ∈ w.tempFiles) :
    s.Stepped right temp a { s with worker := q, world := w } := by
  have hg : (s.ghost right temp).withFlush b f =
      { s.ghost right temp with flush := q.flush } := by
    rw [hphase]
    rfl
  rw [hg] at hw
  refine h.worker_step hw.inv hw.others hw.waiters (fun c hc => ?_) haligned (absurd · hexit) htemp hkept
  exact Option.some.inj hc ▸ ⟨hw.not_loading, hw.loaded⟩

/-- A load that failed: its placeholder is gone. -/
theorem Inv.fails_loading {w : World} {a : Action} {e : Fault} (h : s.Inv right temp)
    (hi : s.calls i = some ⟨op, ph⟩) (hret : ph ≠ .returned)
    (hw : SafeError (s.ghost right temp) (some op.blockIndex) s.world e w)
    (halone : s.Alone i op.blockIndex) (hwaits : ph.waits = false) :
    s.Stepped right temp a ({ s with world := w }.respond i op none) := by
  obtain ⟨-, hinv, hframe, hnl⟩ := hw
  refine h.fails hi hret (hframe.lands_same hinv) (by rw [hwaits]; rfl) (fun c hc => ?_)
    fun _ => rfl
  obtain rfl := Option.some.inj hc
  exact ⟨halone, rfl, hnl _ rfl⟩

/-! ## Locked sections -/

theorem locked_ok {α : Type} {m : CacheM α} {k : Sys → Except CacheError α → Sys} {a : α}
    {w : World} (h : m s.world = .ok a w) : s.locked m k = k { s with world := w } (.ok a) := by
  simp only [Sys.locked, h]

theorem locked_error {α : Type} {m : CacheM α} {k : Sys → Except CacheError α → Sys}
    {e : CacheError} {w : World} (h : m s.world = .error (.error e) w) :
    s.locked m k = k { s with world := w } (.error e) := by
  simp only [Sys.locked, h]

/-- A section that cannot panic ends in its thread. -/
theorem locked_cases {α : Type} {m : CacheM α} {k : Sys → Except CacheError α → Sys}
    {Q : α → World → Prop} {E : Fault → World → Prop} {P : Sys → Prop}
    (h : Ends m s.world Q E) (hpanic : ∀ w, ¬E .panic w)
    (hok : ∀ a w, Q a w → P (k { s with world := w } (.ok a)))
    (herr : ∀ e w, E (.error e) w → P (k { s with world := w } (.error e))) :
    P (s.locked m k) := by
  cases hm : m s.world with
  | ok a w =>
    rw [locked_ok hm]
    exact hok a w (h.of_ok hm)
  | error e w =>
    cases e with
    | panic => exact absurd (h.of_error hm) (hpanic w)
    | error e =>
      rw [locked_error hm]
      exact herr e w (h.of_error hm)

/-! ## Unlocked reads -/

theorem readRightBlock_result (s : Sys) (ok : Bool) (offset : Nat) :
    LoadResult (readAt s.world.right offset s.config.blockSizeBytes) (s.readRightBlock ok offset) := by
  unfold Sys.readRightBlock BlockLayout.validateRightIo
  by_cases hbad : offset % s.config.layout.blockSize ≠ 0 ∨
      s.config.blockSizeBytes ≠ s.config.layout.blockSize
  · rw [if_pos hbad]
    exact trivial
  · rw [if_neg hbad]
    cases ok with
    | true => exact rfl
    | false => exact trivial

theorem readBlock_result {temp : TempStore} {ok : Bool} {b len : Nat} {data : Bytes}
    (h : ∀ d, temp.readBlock ok b len = .ok d → d = data) :
    LoadResult data (temp.readBlock ok b len) := by
  cases hr : temp.readBlock ok b len with
  | ok d => exact h d hr
  | error e =>
    obtain ⟨operation, rfl⟩ := TempStore.readBlock_error hr
    exact trivial

/-! ## Every step -/

/-- What a step is: the start of a call, the stop request, a step of a call, or one of the worker. -/
theorem step_cases {a : Action} {s' : Sys} (hs : s.step a = some s') : s.poisoned = false ∧
    ((∃ (i offset k : Nat) (d : Bytes) (m : TouchedBlock → Op),
        (∀ t, (m t).touched = t ∧ (m t).buffer = d) ∧ s.invoke i offset k d m = some s') ∨
      (a = .stop ∧ s' = { s with world := { s.world with
        state := { s.world.state with stopRequested := true } } }) ∨
      (∃ i c, actor a = some i ∧ s.calls i = some c ∧ s.stepCall i c.op c.phase a = some s') ∨
      (actor a = none ∧ s.stepWorker s.worker a = some s')) := by
  unfold Sys.step at hs
  by_cases hp : s.poisoned = true
  · rw [if_pos hp] at hs
    cases hs
  rw [if_neg hp] at hs
  refine ⟨by simpa using hp, ?_⟩
  have hcall : ∀ i, actor a = some i →
      ((s.calls i).bind fun c => s.stepCall i c.op c.phase a) = some s' →
      ∃ i c, actor a = some i ∧ s.calls i = some c ∧ s.stepCall i c.op c.phase a = some s' := by
    intro i ha hs
    obtain ⟨c, hc, hs⟩ := Option.bind_eq_some_iff.mp hs
    exact ⟨i, c, ha, hc, hs⟩
  cases a with
  | readBlock i offset buffer k =>
    exact .inl ⟨i, offset, k, buffer, fun t => .read t buffer, fun _ => ⟨rfl, rfl⟩, hs⟩
  | writeBlock i offset data k =>
    exact .inl ⟨i, offset, k, data, fun t => .write t data, fun _ => ⟨rfl, rfl⟩, hs⟩
  | stop => exact .inr (.inl ⟨rfl, (Option.some.inj hs).symm⟩)
  | lock i _ | wake i | rightRead i _ | tempRead i _ | finish i =>
    exact .inr (.inr (.inl (hcall i rfl hs)))
  | workerLock _ | workerWake _ _ | flushRead _ | flushWrite _ _ | flushRemove _ | flushFinish =>
    exact .inr (.inr (.inr ⟨rfl, hs⟩))

theorem Inv.invoke_inv (h : s.Inv right temp) (hpos : 0 < s.config.blockSizeBytes)
    {a : Action} {offset k : Nat} {d : Bytes} {m : TouchedBlock → Op}
    (hmk : ∀ t, (m t).touched = t ∧ (m t).buffer = d) {s' : Sys}
    (hs : s.invoke i offset k d m = some s') : s.Stepped right temp a s' := by
  unfold Sys.invoke at hs
  split at hs
  · rename_i blocks hfree hblocks
    obtain ⟨t, ht, rfl⟩ := Option.map_eq_some_iff.mp hs
    have hfit : (m t).Fits s.config.blockSizeBytes := by
      unfold Op.Fits
      rw [(hmk t).1, (hmk t).2]
      exact BlockLayout.touchedBlocks_fits hpos hblocks t (List.mem_of_getElem? ht)
    set s' : Sys := { s.setPhase i (m t) (.entering false) with
      hist := s.hist ++ [.invoke i (m t)] } with hs'
    have hghost : s'.ghost right temp = s.ghost right temp := by
      simp only [Sys.ghost, Sys.logical, hs', okResponses_append, okResponses_invoke,
        okResponses_nil, List.append_nil]
      rfl
    have hcase : ∀ {j c}, s'.calls j = some c →
        j = i ∧ c = ⟨m t, .entering false⟩ ∨ j ≠ i ∧ s.calls j = some c := by
      intro j c hj
      by_cases hji : j = i
      · subst hji
        have : s'.calls j = some ⟨m t, .entering false⟩ := Function.update_self ..
        exact .inl ⟨rfl, Option.some.inj (hj.symm.trans this)⟩
      · exact .inr ⟨hji, (Function.update_of_ne hji ..).symm.trans hj⟩
    refine ⟨⟨h.sound, hghost ▸ h.world, h.aligned, h.exited, fun j c hj => ?_, fun j c hj => ?_,
      fun j l c d hj hl hc hd hb => ?_, fun b hb => ?_, ?_, ⟨?_, ?_, ?_, ?_⟩, ?_⟩,
      fun c hc => .inl ⟨hc, .inl rfl⟩, fun _ _ _ => rfl, fun _ _ => id, fun j op waiting hj => ?_⟩
    · rcases hcase hj with ⟨-, rfl⟩ | ⟨-, hj⟩
      · exact hfit
      · exact h.fits j c hj
    · rcases hcase hj with ⟨-, rfl⟩ | ⟨-, hj⟩
      · trivial
      · rw [hghost]
        exact h.call j c hj
    · rcases hcase hj with ⟨-, rfl⟩ | ⟨-, hj⟩
      · cases hc
      · rcases hcase hl with ⟨-, rfl⟩ | ⟨-, hl⟩
        · cases hd
        · exact h.loader j l c d hj hl hc hd hb
    · obtain ⟨j, c, hj, hl, hop⟩ := h.loaded b hb
      refine ⟨j, c, ?_, hl, hop⟩
      rwa [show s'.calls j = s.calls j from Function.update_of_ne (by
        rintro rfl
        cases hfree.symm.trans hj) ..]
    · obtain ⟨S, hcard, hS⟩ := h.waiters
      refine ⟨S, hcard, fun j => ?_⟩
      rw [hS]
      by_cases hji : j = i
      · subst hji
        have : s'.calls j = some ⟨m t, .entering false⟩ := Function.update_self ..
        simp [this, hfree, Phase.waits]
      · rw [show s'.calls j = s.calls j from Function.update_of_ne hji ..]
    · exact .invoke h.hist.wf (h.hist.fresh i hfree)
    · intro j hj op hm
      have hji : j ≠ i := by
        rintro rfl
        simp [hs', Sys.setPhase] at hj
      rcases List.mem_append.mp hm with hm | hm
      · exact h.hist.fresh j ((Function.update_of_ne hji ..).symm.trans hj) op hm
      · obtain ⟨rfl, -⟩ : j = i ∧ _ := by simpa using hm
        exact hji rfl
    · intro j c hj
      rcases hcase hj with ⟨rfl, rfl⟩ | ⟨-, hj⟩
      · exact List.mem_append_right _ (by simp)
      · exact List.mem_append_left _ (h.hist.invoked j c hj)
    · intro j c hj hp op r hm
      have hmem : HistEvent.respond j op r ∈ s.hist := by simpa [hs'] using hm
      rcases hcase hj with ⟨hji, -⟩ | ⟨-, hj⟩
      · exact h.hist.fresh i hfree op (h.hist.wf.invoke_mem (hji ▸ hmem))
      · exact h.hist.pending j c hj hp op r hmem
    · have hok : okResponses s'.hist = okResponses s.hist := by simp [hs']
      exact hok ▸ h.legal
    · rcases hcase hj with ⟨-, hc⟩ | ⟨-, hj⟩
      · cases hc
      · exact .inl hj
  · cases hs

theorem Inv.stepCall_inv (h : s.Inv right temp) (hi : s.calls i = some ⟨op, ph⟩) {a : Action}
    {s' : Sys} (hs : s.stepCall i op ph a = some s') : s.Stepped right temp a s' := by
  have hfit : op.Fits s.config.blockSizeBytes := h.fits i _ hi
  have hcall : CallInv (s.ghost right temp) s.world op ph := h.call i _ hi
  have hcount := h.counted hi
  cases ph with
  | entering waiting =>
    cases a with
    | lock j outcome =>
      obtain rfl := Option.some.inj hs
      have hret : Phase.entering waiting ≠ .returned := by simp
      have hn : s.world.otherWaiters waiting + (Phase.entering waiting).waits.toNat =
        s.world.state.foregroundDirtyEvictionWaiters := otherWaiters_add hcount
      refine locked_cases (loopTop_spec h.world rfl rfl outcome hfit hcount)
        (fun _ hp => hp.1.ne_panic rfl) (fun next w hw => ?_)
        fun e w hw => h.fails hi hret hw.2 hn (by simp) (nomatch ·)
      cases next with
      | ret ret =>
        obtain ⟨hr, hnl, hlands, hnl'⟩ := hw
        exact h.succeeds hi hret hlands hr hn (h.alone_of_notLoading hnl) hnl'
      | wait waiting' =>
        obtain ⟨hlands, hcause⟩ := hw
        refine h.goes_on hi hret hlands ?_ (by simp) (nomatch ·) (nomatch ·) (fun waiting'' hw => ?_)
          trivial
        · rw [← hn]
          simp only [Phase.waits]
          omega
        · obtain rfl := Phase.waiting.inj hw
          exact hcause
      | readRight b base =>
        obtain ⟨rfl, rfl, hnl, hlands, hv⟩ := hw
        refine h.goes_on hi hret hlands (by rw [hn]; rfl) (fun c hc => ?_)
          (fun _ => h.alone_of_notLoading hnl) (nomatch ·) (by simp) ⟨rfl, rfl, hv⟩
        obtain rfl := Option.some.inj hc
        exact ⟨h.alone_of_notLoading hnl, rfl, .inl rfl⟩
      | readTemp b =>
        obtain ⟨rfl, hnl, hlands, hv⟩ := hw
        refine h.goes_on hi hret hlands (by rw [hn]; rfl) (fun c hc => ?_)
          (fun _ => h.alone_of_notLoading hnl) (nomatch ·) (by simp) ⟨rfl, hv⟩
        obtain rfl := Option.some.inj hc
        exact ⟨h.alone_of_notLoading hnl, rfl, .inl rfl⟩
    | _ => cases hs
  | waiting waiting =>
    cases a with
    | wake j =>
      obtain rfl := Option.some.inj hs
      have hret : Phase.waiting waiting ≠ .returned := by simp
      refine locked_cases (afterWait_spec h.world hcount) (fun _ hp => hp.1.ne_panic rfl)
        (fun _ w hw => ?_) fun e w hw =>
          h.fails hi hret hw.2 (otherWaiters_add hcount) (by simp) (nomatch ·)
      obtain rfl : w = s.world := hw
      exact h.goes_on (b := none) hi hret ((Frame.refl ..).lands_same h.world) rfl (by simp)
        (nomatch ·) (nomatch ·) (by simp) trivial
    | _ => cases hs
  | readRight b base =>
    cases a with
    | rightRead j ok =>
      obtain rfl := Option.some.inj hs
      obtain ⟨rfl, rfl, hv⟩ := hcall
      refine h.goes_on (w := s.world) (b := none) hi (by simp)
        ((Frame.refl ..).lands_same h.world) rfl (by simp)
        (fun _ => h.alone_of_loads hi rfl) (fun _ => .inl rfl) (by simp) ⟨rfl, hv, ?_⟩
      exact readRightBlock_result s ok _
    | _ => cases hs
  | readTemp b =>
    cases a with
    | tempRead j ok =>
      obtain rfl := Option.some.inj hs
      obtain ⟨rfl, hv⟩ := hcall
      refine h.goes_on (w := s.world) (b := none) hi (by simp)
        ((Frame.refl ..).lands_same h.world) rfl (by simp)
        (fun _ => h.alone_of_loads hi rfl) (fun _ => .inl rfl) (by simp) ⟨rfl, hv, ?_⟩
      obtain ⟨-, hflush, hback⟩ := (h.world.places op.blockIndex).rehydrating_of hv
      exact readBlock_result fun d hd => hback.read (by simp [hflush]) rfl hd
    | _ => cases hs
  | rightRead b result =>
    cases a with
    | finish j =>
      obtain rfl := Option.some.inj hs
      obtain ⟨rfl, hv, hres⟩ := hcall
      have hret : Phase.rightRead op.blockIndex result ≠ .returned := by simp
      have halone := h.alone_of_loads hi rfl
      exact locked_cases (finishLoad_spec h.world hfit hv hres) (fun _ hp => hp.2.1.ne_panic rfl)
        (fun ret w hw => h.succeeds hi hret (hw.frame.lands_same hw.inv) hw.ret rfl halone hw.loaded)
        fun e w hw => h.fails_loading hi hret hw.2 halone rfl
    | _ => cases hs
  | tempRead b result =>
    cases a with
    | finish j =>
      obtain rfl := Option.some.inj hs
      obtain ⟨rfl, hv, hres⟩ := hcall
      have hret : Phase.tempRead op.blockIndex result ≠ .returned := by simp
      have halone := h.alone_of_loads hi rfl
      exact locked_cases (finishTempLoad_spec h.world hfit hv hres) (fun _ hp => hp.2.1.ne_panic rfl)
        (fun ret w hw => h.succeeds hi hret (hw.frame.lands_same hw.inv) hw.ret rfl halone hw.loaded)
        fun e w hw => h.fails_loading hi hret hw.2 halone rfl
    | _ => cases hs
  | returned => cases hs

theorem Inv.stepWorker_inv (h : s.Inv right temp) {a : Action} {s' : Sys}
    (hs : s.stepWorker s.worker a = some s') : s.Stepped right temp a s' := by
  -- an iteration of the inner loop, from a phase in which no block is being flushed
  have hiter : ∀ (scanDue : Bool) (outcome : TempWrite), s.worker.flush = (fun _ => none) →
      s.Stepped right temp a
        (s.locked (workerIteration s.config scanDue outcome) afterWorkerIteration) := by
    intro scanDue outcome hidle
    have hquiet : ∀ {w : World} {q : WorkerPhase}, q.flush = (fun _ => none) →
        q.Aligned s.config.blockSizeBytes →
        (q = .exited → s.world.state.stopRequested = true) →
        w.Inv (s.ghost right temp) ∧ Frame (s.ghost right temp) (s.ghost right temp) none s.world w →
        s.Stepped right temp a { s with worker := q, world := w } := by
      rintro w q hphase haligned hexit ⟨hinv, hframe⟩
      have hg : s.ghost right temp = { s.ghost right temp with flush := q.flush } := by
        rw [hphase, ← hidle]
        rfl
      refine h.worker_step (b := none) (hg ▸ hinv) ?_ hframe.waiters (by simp) haligned hexit
        (fun _ c hc => hframe.temp c (.inr hc)) fun _ => hframe.kept
      rw [← hg]
      exact hframe.toOthers
    refine locked_cases (workerIteration_spec h.world (fun b => congrFun hidle b) rfl rfl scanDue
      outcome) (fun _ hp => hp) (fun n w hw => ?_) fun _ _ hw => hw.elim
    cases n with
    | stopped =>
      obtain ⟨rfl, hstop⟩ : w = s.world ∧ _ := hw
      exact hquiet (w := s.world) (q := .exited) rfl trivial (fun _ => hstop) ⟨h.world, .refl ..⟩
    | wait scanDue => exact hquiet (q := .waiting scanDue) rfl trivial (by rintro ⟨⟩) hw
    | action act =>
      cases act with
      | snapshotCreated => exact hquiet (q := .running true) rfl trivial (by rintro ⟨⟩) hw
      | flushTemp b base =>
        obtain ⟨rfl, hw, hframe⟩ := hw
        exact h.flush_step (q := .flushRead b _) hw (by rw [hidle]; rfl) rfl (by simp)
          (fun _ c hc => hframe.temp c (.inr hc)) fun _ => hframe.kept
  have haligned := h.aligned
  have hworld := h.world
  cases hw : s.worker with
  | running scanDue =>
    rw [hw] at hs
    cases a with
    | workerLock outcome =>
      obtain rfl := Option.some.inj hs
      exact hiter scanDue outcome (by rw [hw]; rfl)
    | _ => cases hs
  | waiting scanDue =>
    rw [hw] at hs
    cases a with
    | workerWake timedOut outcome =>
      obtain rfl := Option.some.inj hs
      exact hiter _ outcome (by rw [hw]; rfl)
    | _ => cases hs
  | flushRead b base =>
    rw [hw] at hs haligned
    have hf : (s.ghost right temp).flush b = some .reading := by
      simp [Sys.ghost, hw, WorkerPhase.flush]
    cases a with
    | flushRead ok =>
      simp only [Sys.stepWorker] at hs
      split at hs <;> obtain rfl := Option.some.inj hs
      · rename_i d hd
        refine h.flush_step (w := s.world) (flushStep_spec (b := b) (f := some (.writing d)) hworld
          (by simp [hf]) (by simp) rfl (fun _ _ => ⟨rfl, rfl⟩) (.inl rfl)
          (fun t ht => ⟨ht.length, fun _ => ?_, ?_, by simp, by simp⟩) fun hl => ?_)
          (by simp [hw, WorkerPhase.flush]) haligned (by simp) (fun _ _ _ => rfl) fun _ _ => id
        · exact ht.kept (by simp [World.places, hf])
        · rintro d' hd'
          obtain rfl : d = d' := by simpa using hd'
          exact ht.read (by simp [World.places, hf]) rfl hd
        · obtain ⟨data, hdata, -⟩ := TempStore.readBlock_ok hd
          cases hl.temp.symm.trans hdata
      · refine h.flush_step (w := s.world) (flushStep_spec (b := b) (f := some (.finished false)) hworld
          (by simp [hf]) (by simp) rfl (fun _ _ => ⟨rfl, rfl⟩) (.inl rfl)
          (fun t ht => ⟨ht.length, fun _ => ?_, by simp, by simp, by simp⟩)
          fun hl => ⟨hl.temp, .inr (.inr rfl)⟩)
          (by simp [hw, WorkerPhase.flush]) trivial (by simp) (fun _ _ _ => rfl) fun _ _ => id
        exact ht.kept (by simp [World.places, hf])
    | _ => cases hs
  | flushWrite b base tempBuffer =>
    rw [hw] at hs haligned
    have hf : (s.ghost right temp).flush b = some (.writing tempBuffer) := by
      simp [Sys.ghost, hw, WorkerPhase.flush]
    obtain rfl : base = b * s.config.blockSizeBytes := haligned
    have hlen : tempBuffer.length = s.config.blockSizeBytes := (hworld.places b).length_of_writing hf
    have hlost : ¬ (s.world.places (s.ghost right temp) b).Lost := fun hl => by
      simpa [World.places, hf] using hl.flush
    -- whatever the write left in its range, the other blocks are as they were
    have hother : ∀ left : Bytes, left.length ≤ s.config.blockSizeBytes → ∀ c, c ≠ b →
        s.world.temp c = s.world.temp c ∧
          readAt (writeAt s.world.right (b * s.config.blockSizeBytes) left)
            (c * s.config.blockSizeBytes) s.config.blockSizeBytes =
          readAt s.world.right (c * s.config.blockSizeBytes) s.config.blockSizeBytes := by
      intro left hle c hc
      refine ⟨rfl, readAt_writeAt_disjoint ?_⟩
      have hd : b * s.config.blockSizeBytes + s.config.blockSizeBytes ≤
          c * s.config.blockSizeBytes ∨
          c * s.config.blockSizeBytes + s.config.blockSizeBytes ≤ b * s.config.blockSizeBytes :=
        block_disjoint (Ne.symm hc)
      omega
    cases a with
    | flushWrite ok torn =>
      simp only [Sys.stepWorker] at hs
      rcases s.writeRightBlock_cases ok (b * s.config.blockSizeBytes) tempBuffer torn with
        hr | ⟨left, hle, hr⟩
      · rw [hr] at hs
        obtain rfl := Option.some.inj hs
        refine h.flush_step (flushStep_spec (b := b) (f := some .removing) hworld
          (by simp [hf]) (by simp) rfl (hother tempBuffer hlen.le) (.inl rfl)
          (fun t ht => ⟨ht.length, fun _ => ?_, by simp, fun _ => ?_, by simp⟩)
          fun hl => absurd hl hlost) (by simp [hw, WorkerPhase.flush]) trivial (by simp) (fun _ _ _ => rfl)
          fun _ _ => id
        · exact ht.kept (by simp [World.places, hf])
        · obtain rfl := ht.copied tempBuffer hf
          show readAt (writeAt s.world.right (b * s.config.blockSizeBytes) tempBuffer)
            (b * s.config.blockSizeBytes) s.config.blockSizeBytes = tempBuffer
          rw [← hlen]
          exact readAt_writeAt_same ..
      · rw [hr] at hs
        obtain rfl := Option.some.inj hs
        refine h.flush_step (flushStep_spec (b := b) (f := some (.finished false)) hworld
          (by simp [hf]) (by simp) rfl (hother left (hle.trans hlen.le)) (.inl rfl)
          (fun t ht => ⟨ht.length, fun _ => ?_, by simp, by simp, by simp⟩)
          fun hl => absurd hl hlost) (by simp [hw, WorkerPhase.flush]) trivial (by simp) (fun _ _ _ => rfl)
          fun _ _ => id
        exact ht.kept (by simp [World.places, hf])
    | _ => cases hs
  | flushRemove b =>
    rw [hw] at hs
    have hf : (s.ghost right temp).flush b = some .removing := by
      simp [Sys.ghost, hw, WorkerPhase.flush]
    have hlost : ¬ (s.world.places (s.ghost right temp) b).Lost := fun hl => by
      simpa [World.places, hf] using hl.flush
    cases a with
    | flushRemove ok =>
      obtain rfl := Option.some.inj hs
      refine h.flush_step (flushStep_spec (b := b) (f := some (.finished ok)) hworld (by simp [hf])
        (by simp) rfl (fun c hc => ⟨?_, rfl⟩) ?_
        (fun t ht => ⟨ht.length, fun hok => ?_, by simp, by simp, fun hok => ?_⟩)
        fun hl => absurd hl hlost) (by simp [hw, WorkerPhase.flush]) trivial (by simp)
        (fun hne => absurd rfl (hne ok)) fun _ _ => id
      · cases ok with
        | false => rfl
        | true => exact Function.update_of_ne hc ..
      · cases ok with
        | false => exact .inl rfl
        | true => exact .inr (Function.update_self ..)
      · cases ok with
        | false => exact ht.kept (by simp [World.places, hf])
        | true => simp at hok
      · cases ok with
        | false => simp at hok
        | true => exact ⟨Function.update_self .., ht.written hf⟩
    | _ => cases hs
  | flushFinish b flushOk =>
    rw [hw] at hs
    have hf : (s.ghost right temp).flush b = some (.finished flushOk) := by
      simp [Sys.ghost, hw, WorkerPhase.flush]
    cases a with
    | flushFinish =>
      obtain rfl := Option.some.inj hs
      exact locked_cases (finishFlush_spec hworld hf) (fun _ hp => hp)
        (fun _ w hw' => h.flush_step (q := .running true) hw'.1
          (by simp [hw, WorkerPhase.flush]) trivial (by simp) (fun _ c _ => congrFun hw'.2.1 c)
          (fun hne => absurd rfl hne)) fun _ _ hp => hp.elim
    | _ => cases hs
  | exited =>
    rw [hw] at hs
    cases a <;> cases hs

/-- **Every step** keeps the invariant. -/
theorem step_inv (h : s.Inv right temp) {a : Action} {s' : Sys} (hs : s.step a = some s') :
    s.Stepped right temp a s' := by
  have hpos : 0 < s.config.blockSizeBytes := by
    have := h.world.wf.size_pos
    rwa [h.world.size] at this
  obtain ⟨-, ⟨i, offset, k, d, m, hmk, hs⟩ | ⟨rfl, rfl⟩ | ⟨i, c, -, hi, hs⟩ | ⟨-, hs⟩⟩ :=
    step_cases hs
  · exact h.invoke_inv hpos hmk hs
  · exact ⟨⟨h.sound, ⟨h.world.wf, h.world.size, h.world.places, h.world.bound, h.world.active,
      h.world.files⟩, h.aligned, fun _ => rfl, h.fits, fun i c hi => (h.call i c hi).congr rfl fun _ => rfl,
      h.loader, h.loaded, h.waiters, ⟨h.hist.wf, h.hist.fresh, h.hist.invoked, h.hist.pending⟩,
      h.legal⟩, fun c hc => .inl ⟨hc, .inl rfl⟩, fun _ _ _ => rfl, fun _ _ => id,
      fun _ _ _ hj => .inl hj⟩
  · exact h.stepCall_inv hi hs
  · exact h.stepWorker_inv hs

/-! ## What a step of one thread leaves alone -/

/-- `t` is `s` up to call `i` and the history. -/
structure SameButCall (i : Nat) (s t : Sys) : Prop where
  config : t.config = s.config
  world : t.world = s.world
  worker : t.worker = s.worker
  calls : ∀ j, j ≠ i → t.calls j = s.calls j

/-- `t` is `s` up to the worker. -/
structure SameButWorker (s t : Sys) : Prop where
  config : t.config = s.config
  world : t.world = s.world
  calls : t.calls = s.calls

theorem sameButCall_setPhase : SameButCall i s (s.setPhase i op ph) :=
  ⟨rfl, rfl, rfl, fun _ hj => Function.update_of_ne hj ..⟩

theorem sameButCall_respond (r : Option Ret) : SameButCall i s (s.respond i op r) :=
  ⟨rfl, rfl, rfl, fun _ hj => Function.update_of_ne hj ..⟩

theorem afterLoopTop_same (t : Sys) (r : Except CacheError Next) :
    SameButCall i t (afterLoopTop i op t r) := by
  unfold afterLoopTop
  split <;> first | exact sameButCall_setPhase | exact sameButCall_respond _

theorem afterWaiting_same (waiting : Bool) (t : Sys) (r : Except CacheError Unit) :
    SameButCall i t (afterWaiting i op waiting t r) := by
  unfold afterWaiting
  split <;> first | exact sameButCall_setPhase | exact sameButCall_respond _

theorem afterFinish_same (t : Sys) (r : Except CacheError Ret) :
    SameButCall i t (afterFinish i op t r) := by
  unfold afterFinish
  split <;> exact sameButCall_respond _

theorem afterWorkerIteration_same (t : Sys) (r : Except CacheError WorkerNext) :
    SameButWorker t (afterWorkerIteration t r) := by
  unfold afterWorkerIteration
  split <;> exact ⟨rfl, rfl, rfl⟩

theorem afterFlushFinish_same (t : Sys) (r : Except CacheError Unit) :
    SameButWorker t (afterFlushFinish t r) := by
  unfold afterFlushFinish
  split <;> exact ⟨rfl, rfl, rfl⟩

theorem invoke_same {offset k : Nat} {d : Bytes} {m : TouchedBlock → Op} {s' : Sys}
    (hs : s.invoke i offset k d m = some s') : s.calls i = none ∧ SameButCall i s s' := by
  unfold Sys.invoke at hs
  split at hs
  · next hfree _ =>
    obtain ⟨t, -, rfl⟩ := Option.map_eq_some_iff.mp hs
    exact ⟨hfree, rfl, rfl, rfl, fun _ hj => Function.update_of_ne hj ..⟩
  · cases hs

theorem locked_call {α : Type} {m : CacheM α} {k : Sys → Except CacheError α → Sys}
    (hk : ∀ t r, SameButCall i t (k t r)) : (s.locked m k).config = s.config ∧
      (s.locked m k).worker = s.worker ∧ ∀ j, j ≠ i → (s.locked m k).calls j = s.calls j := by
  unfold Sys.locked
  split
  · exact ⟨(hk ..).config, (hk ..).worker, (hk ..).calls⟩
  · exact ⟨(hk ..).config, (hk ..).worker, (hk ..).calls⟩
  · exact ⟨rfl, rfl, fun _ _ => rfl⟩

theorem locked_worker {α : Type} {m : CacheM α} {k : Sys → Except CacheError α → Sys}
    (hk : ∀ t r, SameButWorker t (k t r)) :
    (s.locked m k).config = s.config ∧ (s.locked m k).calls = s.calls := by
  unfold Sys.locked
  split
  · exact ⟨(hk ..).config, (hk ..).calls⟩
  · exact ⟨(hk ..).config, (hk ..).calls⟩
  · exact ⟨rfl, rfl⟩

/-- A step of call `i` leaves the configuration, the worker and the other calls. -/
theorem stepCall_same {a : Action} {s' : Sys} (hs : s.stepCall i op ph a = some s') :
    s'.config = s.config ∧ s'.worker = s.worker ∧ ∀ j, j ≠ i → s'.calls j = s.calls j := by
  unfold Sys.stepCall at hs
  split at hs
  case h_7 => cases hs
  all_goals obtain rfl := Option.some.inj hs
  · exact locked_call afterLoopTop_same
  · exact locked_call (afterWaiting_same _)
  · exact ⟨rfl, rfl, sameButCall_setPhase.calls⟩
  · exact ⟨rfl, rfl, sameButCall_setPhase.calls⟩
  · exact locked_call afterFinish_same
  · exact locked_call afterFinish_same

/-- A step of the worker leaves the configuration and the calls. -/
theorem stepWorker_same {a : Action} {phase : WorkerPhase} {s' : Sys}
    (hs : s.stepWorker phase a = some s') : s'.config = s.config ∧ s'.calls = s.calls := by
  unfold Sys.stepWorker at hs
  split at hs
  case h_7 => cases hs
  · obtain rfl := Option.some.inj hs
    exact locked_worker afterWorkerIteration_same
  · obtain rfl := Option.some.inj hs
    exact locked_worker afterWorkerIteration_same
  · split at hs <;> obtain rfl := Option.some.inj hs <;> exact ⟨rfl, rfl⟩
  · split at hs <;> obtain rfl := Option.some.inj hs <;> exact ⟨rfl, rfl⟩
  · obtain rfl := Option.some.inj hs
    exact ⟨rfl, rfl⟩
  · obtain rfl := Option.some.inj hs
    exact locked_worker afterFlushFinish_same

theorem step_config {a : Action} {s' : Sys} (hs : s.step a = some s') : s'.config = s.config := by
  obtain ⟨-, ⟨i, offset, k, d, m, -, hs⟩ | ⟨-, rfl⟩ | ⟨i, c, -, -, hs⟩ | ⟨-, hs⟩⟩ := step_cases hs
  · exact (invoke_same hs).2.config
  · rfl
  · exact (stepCall_same hs).1
  · exact (stepWorker_same hs).1

/-! ## Runs -/

/-- The state in which a run starts. -/
def fresh (config : CacheConfig) (right : Nat → UInt8) (temp : TempStore) : Sys where
  config := config
  world := {
    state := { resident := {
      blockSize := config.blockSizeBytes
      fifoCapacity := config.fifoCapacityBlocks
      lruCapacity := config.lruCapacityBlocks } }
    temp, right }
  calls := fun _ => none
  worker := .running false
  poisoned := false
  hist := []

/-- What `build` checks and returns. -/
theorem build_eq {config : CacheConfig} {s : Sys} (h : build config right temp = .ok s) :
    0 < config.tempMaxFiles ∧ 0 < config.blockSizeBytes ∧ 0 < config.fifoCapacityBlocks ∧
      0 < config.lruCapacityBlocks ∧ s = fresh config right temp := by
  unfold build at h
  by_cases hmax : config.tempMaxFiles = 0
  · rw [if_pos hmax] at h
    cases h
  rw [if_neg hmax] at h
  obtain ⟨layout, hl, h₁⟩ := except_of_bind_ok h
  obtain ⟨resident, hr, h₂⟩ := except_of_bind_ok h₁
  obtain rfl := Except.ok.inj h₂
  unfold BlockLayout.new at hl
  by_cases hbs : config.blockSizeBytes = 0
  · rw [if_pos hbs] at hl
    cases hl
  rw [if_neg hbs] at hl
  obtain rfl := Except.ok.inj hl
  unfold Resident.new at hr
  by_cases hf : config.fifoCapacityBlocks = 0
  · rw [if_pos hf] at hr
    cases hr
  by_cases hlru : config.lruCapacityBlocks = 0
  · rw [if_neg hf, if_pos hlru] at hr
    cases hr
  rw [if_neg hf, if_neg hlru, if_neg hbs] at hr
  obtain rfl := Except.ok.inj hr
  exact ⟨Nat.pos_of_ne_zero hmax, Nat.pos_of_ne_zero hbs, Nat.pos_of_ne_zero hf,
    Nat.pos_of_ne_zero hlru, rfl⟩

theorem build_ok {config : CacheConfig} {s : Sys} (h : build config right temp = .ok s) :
    s.config = config ∧ s.Inv right temp := by
  obtain ⟨-, hbs, hf, hlru, rfl⟩ := build_eq h
  refine ⟨rfl, rfl, ⟨⟨⟨[], [], ?_⟩, ?_, ?_, ?_⟩, rfl, fun b => ?_, fun b hb => ?_, fun b => ?_, ?_⟩,
    trivial, (nomatch ·), ?_, ?_, ?_, fun b hb => absurd (fun _ hv => nomatch hv) hb, ⟨∅, rfl, ?_⟩,
    ⟨.nil, ?_, ?_, ?_⟩, trivial⟩
  · exact ⟨IndexedList.repr_empty, IndexedList.repr_empty, by simp, by simp,
      fun _ _ _ h => (by cases h), fun _ _ _ h => (by cases h), Nat.zero_le _, Nat.zero_le _,
      fun _ _ h => (by cases h)⟩
  · exact hf
  · exact hlru
  · exact hbs
  · exact .absent rfl rfl ⟨rfl, .inr rfl⟩ rfl
  · rcases hb with hb | hb <;> exact absurd rfl hb
  · refine iff_of_false ?_ (Finset.notMem_empty b)
    rintro (hb | hb)
    · exact absurd rfl hb
    · cases hb
  · exact Nat.zero_le _
  all_goals simp [fresh]

/-- **Every run** of a cache that was built keeps the invariant. -/
theorem run_inv {config : CacheConfig} {s₀ : Sys} {as : List Action}
    (hb : build config right temp = .ok s₀) (hr : runFrom Sys.step s₀ as = some s) :
    s.config = config ∧ s.Inv right temp :=
  Lib.run_inv (I := fun s => s.config = config ∧ s.Inv right temp)
    (fun _ _ _ h hs => ⟨(step_config hs).trans h.1, (step_inv h.2 hs).inv⟩) (build_ok hb) hr

end Sys

end YumeDisk.Cache
