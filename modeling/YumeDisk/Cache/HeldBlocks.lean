import YumeDisk.Cache.Invariant

/-!
# The blocks that the cache holds

A block comes into memory, and from there into a temp file, only through a call that is for it.

* `Sys.Inv.step_held`: a step brings in no block but that of its call.
* `onlyAsked`: **what holds of the blocks that are asked for** holds of all that the cache has, in
  every run.
* `RightIo`: the I/O on the right store that is due; `right_io_block`: it is of a whole block that
  was asked for.
-/

namespace YumeDisk.Cache

open YumeDisk.Lib

/-- Block `b` is in memory, or waits there to be loaded, or is in a temp file. -/
def World.Held (w : World) (b : Nat) : Prop :=
  w.view b ≠ none ∨ w.state.spilledDirty.lookup b ≠ none

variable {g g' : Ghost} {w w' : World} {b c : Nat}

theorem Others.held {o : Option Nat} (h : Others g g' o w w') (hc : o ≠ some c)
    (hheld : w'.Held c) : w.Held c := by
  by_contra hno
  obtain ⟨hv, hs⟩ := not_or.mp hno
  have hsame := h.places c hc fun v hv' => absurd (by rw [show w.view c = some v from hv']; simp) hv
  have hview : w'.view c = w.view c := congrArg Places.view hsame
  have hspilled : w'.state.spilledDirty.lookup c = w.state.spilledDirty.lookup c :=
    congrArg Places.spilled hsame
  rcases hheld with hheld | hheld
  · exact hv (hview ▸ hheld)
  · exact hs (hspilled ▸ hheld)

/-- A block that is being flushed has a temp file. -/
theorem World.Inv.accounted_of_flush (h : w.Inv g) (hf : g.flush b ≠ none) :
    (w.places g b).Accounted := by
  rcases (h.places b).flushing_of hf with ⟨-, hs, -⟩ | ⟨v, hv, -, hsnap, -⟩
  · exact .inl (by rw [hs]; simp)
  · exact .inr (by rw [hv]; exact hsnap)

theorem Places.Accounted.held (h : (w.places g b).Accounted) : w.Held b := by
  rcases h with hs | hv
  · exact .inr hs
  · refine .inl fun hn => ?_
    rw [show (w.places g b).view = none from hn] at hv
    cases hv

theorem World.Inv.held_of_flush (h : w.Inv g) (hf : g.flush b ≠ none) : w.Held b :=
  (h.accounted_of_flush hf).held

/-- The flush worker brings in nothing. -/
theorem WorkerStep.held (h : WorkerStep g g' b w w') (hinv : w.Inv g)
    (hf : g.flush b ≠ none ∨ g'.flush b ≠ none) (hheld : w'.Held c) : w.Held c := by
  by_cases hbc : b = c
  · subst hbc
    rcases hf with hf | hf
    · exact hinv.held_of_flush hf
    · have hfile := (World.mem_tempFiles g').mpr (h.inv.accounted_of_flush hf)
      rcases h.others.written b hfile with ⟨hmem, -⟩ | ⟨hne, -⟩
      · exact ((World.mem_tempFiles g).mp hmem).held
      · exact absurd rfl hne
  · exact h.others.held (fun he => hbc (Option.some.inj he)) hheld

namespace Sys

variable {right : Nat → UInt8} {temp : TempStore} {s s' : Sys} {i : Nat} {op : Op} {ph : Phase}
  {a : Action}

/-- The world after a section is what the section left. -/
theorem locked_world {α : Type} {m : CacheM α} {k : Sys → Except CacheError α → Sys}
    {P : World → Prop} (hk : ∀ t r, (k t r).world = t.world)
    (h : Ends m s.world (fun _ w => P w) fun _ w => P w) : P (s.locked m k).world := by
  unfold locked
  cases hm : m s.world with
  | ok a w =>
    rw [hk]
    exact h.of_ok hm
  | error e w =>
    cases e with
    | panic => exact h.of_error hm
    | error e =>
      rw [hk]
      exact h.of_error hm

/-- No block comes in but that of the call. -/
def BringsIn (w : World) (b : Nat) (w' : World) : Prop := ∀ c, w'.Held c → w.Held c ∨ c = b

theorem bringsIn_of_others {o : Option Nat} (h : Others g g' o w w')
    (ho : ∀ c, o = some c → c = b) : BringsIn w b w' := by
  intro c hc
  by_cases hoc : o = some c
  · exact .inr (ho c hoc)
  · exact .inl (h.held hoc hc)

theorem bringsIn_of_lands {o : Option Nat} {n : Nat} (h : Lands g g' o n w w')
    (ho : ∀ c, o = some c → c = b) : BringsIn w b w' :=
  bringsIn_of_others h.changes.toOthers ho

theorem Inv.stepCall_held (h : s.Inv right temp) (hi : s.calls i = some ⟨op, ph⟩)
    (hs : s.stepCall i op ph a = some s') : BringsIn s.world op.blockIndex s'.world := by
  have hfit := h.fits i _ hi
  have hcall : CallInv (s.ghost right temp) s.world op ph := h.call i _ hi
  have hnone : ∀ c, (none : Option Nat) = some c → c = op.blockIndex := nofun
  have hself : ∀ c, some op.blockIndex = some c → c = op.blockIndex := fun c hc =>
    (Option.some.inj hc).symm
  unfold stepCall at hs
  split at hs
  case h_7 => cases hs
  all_goals obtain rfl := Option.some.inj hs
  · -- the loop
    rename_i waiting j outcome
    refine locked_world (fun t r => (afterLoopTop_same t r).world)
      ((loopTop_spec h.world rfl rfl outcome hfit (h.counted hi)).mono (fun next w hw => ?_)
        fun e w hw => bringsIn_of_lands hw.2 hnone)
    cases next with
    | ret ret => exact bringsIn_of_lands hw.2.2.1 hself
    | wait waiting => exact bringsIn_of_lands hw.1 hnone
    | readRight b base => exact bringsIn_of_lands hw.2.2.2.1 hself
    | readTemp b => exact bringsIn_of_lands hw.2.2.1 hself
  · rename_i waiting j
    refine locked_world (fun t r => (afterWaiting_same waiting t r).world)
      ((afterWait_spec h.world (h.counted hi)).mono (fun _ w hw => ?_)
        fun e w hw => bringsIn_of_lands hw.2 hnone)
    obtain rfl : w = s.world := hw
    exact fun c hc => .inl hc
  · exact fun c hc => .inl hc
  · exact fun c hc => .inl hc
  · obtain ⟨rfl, hv, hres⟩ := hcall
    exact locked_world (fun t r => (afterFinish_same t r).world)
      ((finishLoad_spec h.world hfit hv hres).mono
        (fun ret w hw => bringsIn_of_others hw.frame.toOthers hself)
        fun e w hw => bringsIn_of_others hw.2.2.2.1.toOthers hself)
  · obtain ⟨rfl, hv, hres⟩ := hcall
    exact locked_world (fun t r => (afterFinish_same t r).world)
      ((finishTempLoad_spec h.world hfit hv hres).mono
        (fun ret w hw => bringsIn_of_others hw.frame.toOthers hself)
        fun e w hw => bringsIn_of_others hw.2.2.2.1.toOthers hself)

/-- The worker brings in nothing. -/
theorem Inv.stepWorker_held (h : s.Inv right temp) (hs : s.stepWorker s.worker a = some s') :
    ∀ c, s'.world.Held c → s.world.Held c := by
  have hiter : ∀ (scanDue : Bool) (outcome : TempWrite), s.worker.flush = (fun _ => none) →
      ∀ c, (s.locked (workerIteration s.config scanDue outcome)
        afterWorkerIteration).world.Held c → s.world.Held c := by
    intro scanDue outcome hidle
    refine locked_world (P := fun w => ∀ c, w.Held c → s.world.Held c)
      (fun t r => (afterWorkerIteration_same t r).world)
      ((workerIteration_spec h.world (fun b => congrFun hidle b) rfl rfl scanDue outcome).mono
        (fun next w hw => ?_) fun e w hw => hw.elim)
    cases next with
    | stopped => exact fun c hc => hw.1 ▸ hc
    | wait scanDue => exact fun c hc => hw.2.toOthers.held (by rintro ⟨⟩) hc
    | action act =>
      cases act with
      | snapshotCreated => exact fun c hc => hw.2.toOthers.held (by rintro ⟨⟩) hc
      | flushTemp b base =>
        refine fun c hc => hw.2.1.held h.world (.inr ?_) hc
        simp [Ghost.withFlush]
  cases hw : s.worker with
  | running scanDue =>
    rw [hw] at hs
    cases a with
    | workerLock outcome =>
      obtain rfl := Option.some.inj hs
      exact hiter scanDue outcome (by rw [hw]; rfl)
    | _ => cases hs
  | waiting scanDue =>
    rw [hw] at hs
    cases a with
    | workerWake timedOut outcome =>
      obtain rfl := Option.some.inj hs
      exact hiter _ outcome (by rw [hw]; rfl)
    | _ => cases hs
  | flushRead b base =>
    rw [hw] at hs
    cases a with
    | flushRead ok =>
      simp only [stepWorker] at hs
      split at hs <;> obtain rfl := Option.some.inj hs <;> exact fun c hc => hc
    | _ => cases hs
  | flushWrite b base tempBuffer =>
    rw [hw] at hs
    cases a with
    | flushWrite ok torn =>
      simp only [stepWorker] at hs
      split at hs <;> obtain rfl := Option.some.inj hs <;> exact fun c hc => hc
    | _ => cases hs
  | flushRemove b =>
    rw [hw] at hs
    cases a with
    | flushRemove ok =>
      obtain rfl := Option.some.inj hs
      exact fun c hc => hc
    | _ => cases hs
  | flushFinish b flushOk =>
    rw [hw] at hs
    have hf : (s.ghost right temp).flush b = some (.finished flushOk) := by
      simp [Sys.ghost, hw, WorkerPhase.flush]
    cases a with
    | flushFinish =>
      obtain rfl := Option.some.inj hs
      refine locked_world (P := fun w => ∀ c, w.Held c → s.world.Held c)
        (fun t r => (afterFlushFinish_same t r).world)
        ((finishFlush_spec h.world hf).mono
          (fun _ w hw c hc => hw.1.held h.world (.inl (by rw [hf]; rintro ⟨⟩)) hc)
          fun e w hw => hw.elim)
    | _ => cases hs
  | exited =>
    rw [hw] at hs
    cases a <;> cases hs

theorem Inv.step_held (h : s.Inv right temp) (hs : s.step a = some s') {c : Nat}
    (hc : s'.world.Held c) :
    s.world.Held c ∨ ∃ i d, s.calls i = some d ∧ d.op.blockIndex = c := by
  obtain ⟨-, ⟨i, offset, k, d, m, -, hs⟩ | ⟨-, rfl⟩ | ⟨i, d, -, hi, hs⟩ | ⟨-, hs⟩⟩ := step_cases hs
  · exact .inl ((invoke_same hs).2.world ▸ hc)
  · exact .inl hc
  · rcases h.stepCall_held hi hs c hc with hc | rfl
    · exact .inl hc
    · exact .inr ⟨i, d, hi, rfl⟩
  · exact .inl (h.stepWorker_held hs c hc)

/-! ## The operation of a call -/

theorem setPhase_op {c : Call} (hc : (s.setPhase i op ph).calls i = some c) : c.op = op := by
  have hself : (s.setPhase i op ph).calls i = some ⟨op, ph⟩ := Function.update_self ..
  rw [← Option.some.inj (hself.symm.trans hc)]

theorem afterLoopTop_op (t : Sys) (r : Except CacheError Next) {c : Call}
    (hc : (afterLoopTop i op t r).calls i = some c) : c.op = op := by
  unfold afterLoopTop at hc
  split at hc <;> exact setPhase_op hc

theorem afterWaiting_op (waiting : Bool) (t : Sys) (r : Except CacheError Unit) {c : Call}
    (hc : (afterWaiting i op waiting t r).calls i = some c) : c.op = op := by
  unfold afterWaiting at hc
  split at hc <;> exact setPhase_op hc

theorem afterFinish_op (t : Sys) (r : Except CacheError Ret) {c : Call}
    (hc : (afterFinish i op t r).calls i = some c) : c.op = op := by
  unfold afterFinish at hc
  split at hc <;> exact setPhase_op hc

theorem locked_op {α : Type} {m : CacheM α} {k : Sys → Except CacheError α → Sys} {c : Call}
    (hi : s.calls i = some ⟨op, ph⟩)
    (hk : ∀ t r c, (k t r).calls i = some c → c.op = op)
    (hc : (s.locked m k).calls i = some c) : c.op = op := by
  unfold locked at hc
  split at hc
  · exact hk _ _ _ hc
  · exact hk _ _ _ hc
  · exact (congrArg Call.op (Option.some.inj (hi.symm.trans hc))).symm

theorem stepCall_op (hi : s.calls i = some ⟨op, ph⟩) (hs : s.stepCall i op ph a = some s')
    {c : Call} (hc : s'.calls i = some c) : c.op = op := by
  unfold stepCall at hs
  split at hs
  case h_7 => cases hs
  all_goals obtain rfl := Option.some.inj hs
  · exact locked_op hi (fun t r _ => afterLoopTop_op t r) hc
  · exact locked_op hi (fun t r _ => afterWaiting_op _ t r) hc
  · exact setPhase_op hc
  · exact setPhase_op hc
  · exact locked_op hi (fun t r _ => afterFinish_op t r) hc
  · exact locked_op hi (fun t r _ => afterFinish_op t r) hc

/-! ## What is asked for -/

/-- Every block that the request is for satisfies `P`. -/
def Asks (P : Nat → Prop) (s : Sys) : Action → Prop
  | .readBlock _ offset buffer _ => ∀ blocks,
      s.config.layout.touchedBlocks offset buffer.length = .ok blocks → ∀ t ∈ blocks, P t.blockIndex
  | .writeBlock _ offset data _ => ∀ blocks,
      s.config.layout.touchedBlocks offset data.length = .ok blocks → ∀ t ∈ blocks, P t.blockIndex
  | _ => True

/-- The blocks that the calls are for and those that the cache holds satisfy `P`. -/
structure OnlyAsked (P : Nat → Prop) (s : Sys) : Prop where
  calls : ∀ i c, s.calls i = some c → P c.op.blockIndex
  held : ∀ b, s.world.Held b → P b

variable {P : Nat → Prop}

theorem OnlyAsked.invoke {offset k : Nat} {d : Bytes} {m : TouchedBlock → Op}
    (h : OnlyAsked P s) (hmk : ∀ t, (m t).touched = t ∧ (m t).buffer = d)
    (hasks : ∀ blocks, s.config.layout.touchedBlocks offset d.length = .ok blocks →
      ∀ t ∈ blocks, P t.blockIndex) (hs : s.invoke i offset k d m = some s') : OnlyAsked P s' := by
  have hworld := (invoke_same hs).2.world
  refine ⟨fun j c hj => ?_, fun b hb => h.held b (hworld ▸ hb)⟩
  by_cases hji : j = i
  · subst hji
    unfold Sys.invoke at hs
    split at hs
    · rename_i blocks hfree hblocks
      obtain ⟨t, ht, rfl⟩ := Option.map_eq_some_iff.mp hs
      have hop : c.op = m t := @setPhase_op s j (m t) (.entering false) c hj
      have hblock : (m t).blockIndex = t.blockIndex := congrArg TouchedBlock.blockIndex (hmk t).1
      rw [hop, hblock]
      exact hasks blocks hblocks t (List.mem_of_getElem? ht)
    · cases hs
  · rw [(invoke_same hs).2.calls j hji] at hj
    exact h.calls j c hj

/-- A call keeps its operation. -/
theorem stepCall_calls {d : Call} (hi : s.calls i = some d)
    (hs : s.stepCall i d.op d.phase a = some s') {j : Nat} {c : Call} (hj : s'.calls j = some c) :
    ∃ c', s.calls j = some c' ∧ c'.op = c.op := by
  by_cases hji : j = i
  · subst hji
    exact ⟨d, hi, (stepCall_op hi hs hj).symm⟩
  · rw [(stepCall_same hs).2.2 j hji] at hj
    exact ⟨c, hj, rfl⟩

theorem OnlyAsked.step (h : OnlyAsked P s) (hinv : s.Inv right temp) (hasks : Asks P s a)
    (hs : s.step a = some s') : OnlyAsked P s' := by
  have hheld : ∀ b, s'.world.Held b → P b := by
    intro b hb
    rcases hinv.step_held hs hb with hb | ⟨i, d, hi, rfl⟩
    · exact h.held b hb
    · exact h.calls i d hi
  have hkeep : (∀ j c, s'.calls j = some c → ∃ c', s.calls j = some c' ∧ c'.op = c.op) →
      OnlyAsked P s' := by
    refine fun hcalls => ⟨fun j c hj => ?_, hheld⟩
    obtain ⟨c', hc', hop⟩ := hcalls j c hj
    exact hop ▸ h.calls j c' hc'
  unfold Sys.step at hs
  rw [if_neg (by rw [hinv.sound]; exact Bool.false_ne_true)] at hs
  cases a with
  | readBlock i offset buffer k =>
    exact h.invoke (d := buffer) (fun _ => ⟨rfl, rfl⟩) hasks hs
  | writeBlock i offset data k =>
    exact h.invoke (d := data) (fun _ => ⟨rfl, rfl⟩) hasks hs
  | stop =>
    obtain rfl := Option.some.inj hs
    exact hkeep fun j c hj => ⟨c, hj, rfl⟩
  | lock i _ | wake i | rightRead i _ | tempRead i _ | finish i =>
    obtain ⟨d, hi, hs⟩ := Option.bind_eq_some_iff.mp hs
    exact hkeep fun j c hj => stepCall_calls hi hs hj
  | workerLock _ | workerWake _ _ | flushRead _ | flushWrite _ _ | flushRemove _ | flushFinish =>
    exact hkeep fun j c hj => ⟨c, (stepWorker_same hs).2 ▸ hj, rfl⟩

/-! ## The I/O on the right store -/

/-- An I/O of `length` bytes at `offset` of the right store that is due: the read of a call that
loads its block, or the write of a flush. -/
def RightIo (s : Sys) (offset length : Nat) : Prop :=
  (∃ i op b, s.calls i = some ⟨op, .readRight b offset⟩ ∧ length = s.config.blockSizeBytes) ∨
    ∃ b tempBuffer, s.worker = .flushWrite b offset tempBuffer ∧ length = tempBuffer.length

/-- **An I/O on the right store** is of a whole block, one that was asked for. -/
theorem OnlyAsked.rightIo (h : OnlyAsked P s) (hinv : s.Inv right temp) {offset length : Nat}
    (hio : s.RightIo offset length) :
    ∃ b, P b ∧ offset = b * s.config.blockSizeBytes ∧ length = s.config.blockSizeBytes := by
  rcases hio with ⟨i, op, b, hi, hlen⟩ | ⟨b, tempBuffer, hw, hlen⟩
  · obtain ⟨hb, hbase, -⟩ : CallInv _ _ op (.readRight b offset) := hinv.call i _ hi
    exact ⟨op.blockIndex, h.calls i _ hi, hbase, hlen⟩
  · have hf : (s.ghost right temp).flush b = some (.writing tempBuffer) := by
      simp [Sys.ghost, hw, WorkerPhase.flush]
    have haligned := hinv.aligned
    rw [hw] at haligned
    refine ⟨b, h.held b (hinv.world.held_of_flush (by rw [hf]; rintro ⟨⟩)), haligned, ?_⟩
    exact hlen.trans ((hinv.world.places b).length_of_writing hf)

end Sys

section Run

variable {config : CacheConfig} {right : Nat → UInt8} {temp : TempStore} {s₀ s : Sys}
  {as : List Action} {P : Nat → Prop}

/-- **What holds of the blocks that a run asks for** holds of all that its calls are for and of all
that the cache holds. -/
theorem onlyAsked (hb : build config right temp = .ok s₀)
    (hasks : StepsMeet Sys.step (Sys.Asks P) s₀ as) (hr : runFrom Sys.step s₀ as = some s) :
    s.OnlyAsked P := by
  have hstart : s₀.OnlyAsked P := by
    obtain ⟨-, -, -, -, rfl⟩ := Sys.build_eq hb
    refine ⟨fun i c hi => (nomatch hi), fun b hb => ?_⟩
    rcases hb with hb | hb <;> exact absurd rfl hb
  exact (run_inv_of_guard (I := fun s => s.OnlyAsked P ∧ s.Inv right temp)
    (fun s a s' h hG hs => ⟨h.1.step h.2 hG hs, (Sys.step_inv h.2 hs).inv⟩) as s₀ s
    (And.intro hstart (Sys.build_ok hb).2) hasks hr).1

theorem right_io_block (hb : build config right temp = .ok s₀)
    (hasks : StepsMeet Sys.step (Sys.Asks P) s₀ as) (hr : runFrom Sys.step s₀ as = some s)
    {offset length : Nat} (hio : s.RightIo offset length) :
    ∃ b, P b ∧ offset = b * config.blockSizeBytes ∧ length = config.blockSizeBytes := by
  obtain ⟨rfl, hinv⟩ := Sys.run_inv hb hr
  exact (onlyAsked hb hasks hr).rightIo hinv hio

end Run

end YumeDisk.Cache
