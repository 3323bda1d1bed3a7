import YumeDisk.Kmdf.DrainThreads
import YumeDisk.Lib.Run

/-!
# What a drain waits for

A thread that may still come to the runtime holds a reference of the session or of the runtime, and
a close frees the runtime when both counts were zero.  What is left is the last release of a slot:
it has let go of the session, has taken `ActiveCount` to zero, and is to set an event that is part
of the runtime.

* `System.Inv`: what holds in every run whose steps are `System.Settles`.
* `drain_safe`: in such a run **nothing is used after it is gone**; the drains never miss the last
  release; no acquire succeeds late.
* `lateSignal`: a run in which the event is set in memory that was freed.
-/

namespace YumeDisk.Kmdf.Drain

open Lib (Gate GateOp moveThread runFrom StepsMeet mem_moveThread)

namespace Stage

/-- The stage works with the memory of the runtime. -/
def touches : Stage → Bool
  | .markClosing => true
  | .stopping => true
  | .drain c => c = .active
  | .wait c => c = .active
  | .free => true
  | _ => false

/-- The stage comes after the drain of the requests. -/
def afterDrain : Stage → Bool
  | .stop => true
  | .stopping => true
  | .drain c => c ≠ .inFlight
  | .wait c => c ≠ .inFlight
  | .free => true
  | .closeHandle => true
  | _ => false

end Stage

namespace System

/-! ## What is asked of a run -/

/-- A close is under way, at a stage. -/
def Tearing (s : System) (stage : Stage) : Prop :=
  s.watchdog = some (.tear stage) ∨ s.cleanup = some (.tear stage)

/-- The watchdog is closing the session. -/
def watchdogTears (s : System) : Bool :=
  match s.watchdog with
  | some (.tear _) => true
  | _ => false

/-- Nothing is between the decrement that takes `ActiveCount` to zero and its `KeSetEvent`. -/
def NoneSignals (s : System) : Prop := ∀ t ∈ s.threads, t.signals .active = false

instance (s : System) : Decidable s.NoneSignals := List.decidableBAll ..

/-- The runtime is freed when no thread is about to set its event, and the cleanup does not change
the state while the watchdog is closing the session. -/
def Settles (s : System) : Action → Prop
  | .watch _ => s.watchdog = some (.tear .free) → s.NoneSignals
  | .clean => (s.cleanup = some (.tear .free) → s.NoneSignals) ∧
      (s.cleanup = some .change → s.watchdogTears = false)
  | _ => True

instance (s : System) : ∀ a : Action, Decidable (s.Settles a)
  | .watch _ => inferInstanceAs (Decidable (_ → _))
  | .clean => inferInstanceAs (Decidable (_ ∧ _))
  | .acquire => isTrue trivial
  | .look => isTrue trivial
  | .heartbeat => isTrue trivial
  | .run _ _ => isTrue trivial
  | .fire => isTrue trivial

/-! ## What is to hold -/

/-- **Nothing is used after it is gone**: by a request, by a slot, or by the close itself. -/
structure Safe (s : System) : Prop where
  runtime : ∀ t ∈ s.threads, t.touches = true → s.freed = false
  handle : ∀ t ∈ s.threads, t.usesHandle = true → s.miniportHandle = true
  close : ∀ stage, s.Tearing stage → stage.touches = true → s.freed = false
  send : s.Tearing .sending → s.miniportHandle = true

/-- The step is an acquire of the session, for a request or for a slot, that succeeds. -/
def AcquiresSession (s : System) : Action → Prop
  | .acquire => s.locked = false ∧ s.enter = true
  | .run i ok => s.threads[i]? = some .slotRecheck ∧
      (s.advance ok .slotRecheck).2 = some (.readRuntime .slot)
  | _ => False

/-- The step is an acquire of the runtime that succeeds. -/
def AcquiresRuntime (s : System) : Action → Prop
  | .run i ok => ∃ k, s.threads[i]? = some (.recheckRuntime k) ∧
      (s.advance ok (.recheckRuntime k)).2 = some (.pool k)
  | _ => False

/-! ## The invariant -/

/-- The requests were drained. -/
def Drained (s : System) : Prop :=
  s.transportRuntime = false ∨ ∃ stage, s.Tearing stage ∧ stage.afterDrain = true

/-- The runtime was drained too. -/
def Idle (s : System) : Prop := s.freed = true ∨ s.Tearing .free

/-- What a stage may rely on. -/
def Fits (s : System) : Stage → Prop
  | .markClosing => s.transportRuntime = true
  | .sending => s.miniportHandle = true
  | .stopping => s.transportRuntime = false ∧ s.freed = false
  | .drain .active => s.transportRuntime = false ∧ s.freed = false
  | .wait .active => s.transportRuntime = false ∧ s.freed = false
  | .free => s.transportRuntime = false ∧ s.freed = false
  | .drain .pendingSlot => s.transportRuntime = false
  | .wait .pendingSlot => s.transportRuntime = false
  | .closeHandle => s.transportRuntime = false
  | _ => True

structure Inv (s : System) : Prop where
  gates : ∀ c, (s.gate c).Sound (Thread.refs c) (fun t => t.signals c = true) s.threads
  formed : ∀ t ∈ s.threads, t.Formed
  closing : ∀ stage, s.Tearing stage → s.state ≠ .active ∧ s.Fits stage
  ended : s.cleanup = some .done → s.state ≠ .active
  alone : s.watchdogTears = true → ∀ stage, s.cleanup ≠ some (.tear stage)
  gone : s.transportRuntime = false → s.state ≠ .active
  freed : s.freed = true → s.transportRuntime = false
  closed : s.miniportHandle = false → s.transportRuntime = false
  drained : s.Drained → ∀ t ∈ s.threads, t.reach = true → t.refs .inFlight = 0
  idle : s.Idle → ∀ t ∈ s.threads, t.reach = true → t.refs .active = 0
  unused : s.freed = true → ∀ t ∈ s.threads, t.reach = false

variable {s s' : System}

theorem inv_init (sessionId : Nat) : (init sessionId).Inv where
  gates := fun _ => Gate.sound_empty
  formed := nofun
  closing := fun _ h => by rcases h with h | h <;> cases h
  ended := nofun
  alone := nofun
  gone := nofun
  freed := nofun
  closed := nofun
  drained := fun _ => nofun
  idle := fun _ => nofun
  unused := nofun

theorem Inv.not_active_of_drained (h : s.Inv) (hd : s.Drained) : s.state ≠ .active := by
  rcases hd with hgone | ⟨stage, hstage, -⟩
  · exact h.gone hgone
  · exact (h.closing stage hstage).1

theorem Inv.drained_of_idle (h : s.Inv) (hi : s.Idle) : s.Drained := by
  rcases hi with hfreed | hfree
  · exact .inl (h.freed hfreed)
  · exact .inr ⟨.free, hfree, rfl⟩

/-! ## Requests -/

/-- A step of a request or of a slot. -/
theorem Inv.run (h : s.Inv) {i : Nat} {ok : Bool} {t : Thread} (hi : s.threads[i]? = some t) :
    (s.run i ok t).Inv := by
  have hmem := List.mem_of_getElem? hi
  have hnew : ∀ u ∈ moveThread s.threads i (s.advance ok t).2,
      u ∈ s.threads ∨ (s.advance ok t).2 = some u := fun u hu => mem_moveThread hu
  refine { h with
    gates := fun c => ?_
    formed := fun u hu => ?_
    drained := fun hd u hu hreach => ?_
    idle := fun hd u hu hreach => ?_
    unused := fun hd u hu => ?_ }
  · have hstep := (h.gates c).step hi (s.advance_allows ok t c)
    rwa [← applyGate_eq] at hstep
  · rcases hnew u hu with hu | hu
    · exact h.formed u hu
    · exact advance_formed (h.formed t hmem) hu
  · rcases hnew u hu with hu | hu
    · exact h.drained hd u hu hreach
    · obtain ⟨ht, hrefs⟩ := advance_reach (h.not_active_of_drained hd) hu hreach
      exact (hrefs (h.drained hd t hmem ht)).1
  · have hd' : s.Drained := h.drained_of_idle hd
    rcases hnew u hu with hu | hu
    · exact h.idle hd u hu hreach
    · obtain ⟨ht, hrefs⟩ := advance_reach (h.not_active_of_drained hd') hu hreach
      have hle := (hrefs (h.drained hd' t hmem ht)).2
      rw [h.idle hd t hmem ht] at hle
      exact Nat.eq_zero_of_le_zero hle
  · rcases hnew u hu with hu | hu
    · exact h.unused hd u hu
    · by_contra hreach
      obtain ⟨ht, -⟩ := advance_reach (h.gone (h.freed hd)) hu (Bool.not_eq_false _ ▸ hreach)
      rw [h.unused hd t hmem] at ht
      cases ht

/-- A thread that has just started, with no way to the runtime. -/
theorem Inv.look (h : s.Inv) (hs : s.look = some s') : s'.Inv := by
  unfold System.look at hs
  split at hs
  · obtain rfl := Option.some.inj hs
    have hnew : ∀ u ∈ s.threads ++ [.slotLooked], u ∈ s.threads ∨ u = .slotLooked := by
      intro u hu
      rw [List.mem_append, List.mem_singleton] at hu
      exact hu
    refine { h with
      gates := fun c => (h.gates c).spawn rfl
      formed := fun u hu => ?_
      drained := fun hd u hu hreach => ?_
      idle := fun hd u hu hreach => ?_
      unused := fun hd u hu => ?_ }
    · rcases hnew u hu with hu | rfl
      · exact h.formed u hu
      · trivial
    · rcases hnew u hu with hu | rfl
      · exact h.drained hd u hu hreach
      · cases hreach
    · rcases hnew u hu with hu | rfl
      · exact h.idle hd u hu hreach
      · cases hreach
    · rcases hnew u hu with hu | rfl
      · exact h.unused hd u hu
      · rfl
  · exact Option.some.inj hs ▸ h

/-- A request comes in while the session is active, so nothing was drained. -/
theorem Inv.acquire (h : s.Inv) (hs : s.acquire = some s') : s'.Inv := by
  unfold System.acquire at hs
  split at hs
  · cases hs
  · split at hs
    · next henter =>
      obtain rfl := Option.some.inj hs
      have hactive := enter_active henter
      have hnot : ¬ s.Drained := fun hd => h.not_active_of_drained hd hactive
      refine { h with
        gates := fun c => ?_
        formed := fun u hu => ?_
        drained := fun hd => absurd hd hnot
        idle := fun hd => absurd (h.drained_of_idle hd) hnot
        unused := fun hd => absurd (.inl (h.freed hd)) hnot }
      · dsimp only
        rw [applyGate_eq]
        by_cases hc : Counter.inFlight = c
        · subst hc
          refine (h.gates .inFlight).spawn_take ?_
          split <;> rfl
        · simp only [opAt, Option.bind_some, if_neg hc, Option.elim_none]
          refine (h.gates c).spawn ?_
          cases c with
          | inFlight => exact absurd rfl hc
          | _ => split <;> rfl
      · rw [List.mem_append, List.mem_singleton] at hu
        rcases hu with hu | rfl
        · exact h.formed u hu
        · split <;> trivial
    · exact Option.some.inj hs ▸ h

/-! ## Closing -/

/-- A step of a close, which leaves the threads and their gates. -/
theorem Inv.closer (h : s.Inv) (hthreads : s'.threads = s.threads) (hgate : s'.gate = s.gate)
    (hclosing : ∀ stage, s'.Tearing stage → s'.state ≠ .active ∧ s'.Fits stage)
    (hended : s'.cleanup = some .done → s'.state ≠ .active)
    (halone : s'.watchdogTears = true → ∀ stage, s'.cleanup ≠ some (.tear stage))
    (hgone : s'.transportRuntime = false → s'.state ≠ .active)
    (hfreed : s'.freed = true → s'.transportRuntime = false)
    (hclosed : s'.miniportHandle = false → s'.transportRuntime = false)
    (hdrained : s'.Drained → s.Drained ∨ (s.gate .inFlight).count = 0)
    (hidle : s'.Idle → s.Idle ∨ (s.gate .active).count = 0)
    (hunused : s'.freed = true → s.freed = true ∨ s.Idle ∧ s.NoneSignals) : s'.Inv where
  gates := by
    rw [hgate, hthreads]
    exact h.gates
  formed := by
    rw [hthreads]
    exact h.formed
  closing := hclosing
  ended := hended
  alone := halone
  gone := hgone
  freed := hfreed
  closed := hclosed
  drained := fun hd t ht hreach => by
    rw [hthreads] at ht
    rcases hdrained hd with hd | hzero
    · exact h.drained hd t ht hreach
    · exact (h.gates .inFlight).refs_of_zero hzero ht
  idle := fun hd t ht hreach => by
    rw [hthreads] at ht
    rcases hidle hd with hd | hzero
    · exact h.idle hd t ht hreach
    · exact (h.gates .active).refs_of_zero hzero ht
  unused := fun hd t ht => by
    rw [hthreads] at ht
    rcases hunused hd with hd | ⟨hidle, hnone⟩
    · exact h.unused hd t ht
    · by_contra hreach
      have hreach : t.reach = true := Bool.not_eq_false _ ▸ hreach
      rcases Thread.reach_cases (h.formed t ht) hreach with hin | hact | hsignal
      · exact absurd (h.drained (h.drained_of_idle hidle) t ht hreach) hin.ne'
      · exact absurd (h.idle hidle t ht hreach) hact.ne'
      · rw [hnone t ht] at hsignal
        cases hsignal

/-- **One stage after the other**: what each relies on, and when the drains have passed. -/
theorem tear_spec (h : s.Inv) {stage stage' : Stage} {s₁ : System} (hstage : s.Tearing stage)
    (hs : s.tear stage = some (s₁, stage')) :
    (s₁.threads = s.threads ∧ s₁.gate = s.gate ∧ s₁.state = s.state ∧
      s₁.miniportHandle = s.miniportHandle ∧ s₁.watchdog = s.watchdog ∧ s₁.cleanup = s.cleanup) ∧
    s₁.Fits stage' ∧
    (stage'.afterDrain = true → s.Drained ∨ (s.gate .inFlight).count = 0) ∧
    (stage' = .free → (s.gate .active).count = 0) ∧
    (s₁.freed = true → s.freed = true ∨ stage = .free) ∧
    (s₁.freed = true → s₁.transportRuntime = false) ∧
    (s₁.transportRuntime = false → s.Drained) ∧
    (s.transportRuntime = false → s₁.transportRuntime = false) := by
  have hfits := (h.closing stage hstage).2
  have hafter : stage.afterDrain = true → s.Drained := fun ha => .inr ⟨stage, hstage, ha⟩
  cases stage with
  | beginClose =>
    obtain ⟨rfl, rfl⟩ := Prod.mk.inj (Option.some.inj hs)
    refine ⟨⟨rfl, rfl, rfl, rfl, rfl, rfl⟩, ?_, ?_, ?_, .inl, h.freed, .inl, id⟩ <;> split
    · next hruntime => exact hruntime
    all_goals first | trivial | nofun
  | markClosing =>
    obtain ⟨rfl, rfl⟩ := Prod.mk.inj (Option.some.inj hs)
    exact ⟨⟨rfl, rfl, rfl, rfl, rfl, rfl⟩, trivial, nofun, nofun, .inl, h.freed, .inl, id⟩
  | send =>
    obtain ⟨rfl, rfl⟩ := Prod.mk.inj (Option.some.inj hs)
    refine ⟨⟨rfl, rfl, rfl, rfl, rfl, rfl⟩, ?_, ?_, ?_, .inl, h.freed, .inl, id⟩ <;> split
    · next hhandle =>
      rw [Bool.and_eq_true] at hhandle
      exact hhandle.1
    all_goals first | trivial | nofun
  | sending =>
    obtain ⟨rfl, rfl⟩ := Prod.mk.inj (Option.some.inj hs)
    exact ⟨⟨rfl, rfl, rfl, rfl, rfl, rfl⟩, trivial, nofun, nofun, .inl, h.freed, .inl, id⟩
  | drain c =>
    obtain ⟨rfl, rfl⟩ := Prod.mk.inj (Option.some.inj hs)
    refine ⟨⟨rfl, rfl, rfl, rfl, rfl, rfl⟩, ?_, ?_, ?_, .inl, h.freed, .inl, id⟩
    · split
      · cases c with
        | inFlight => trivial
        | pendingSlot => exact hfits
        | active => exact hfits
      · cases c <;> exact hfits
    · intro ha
      cases c with
      | inFlight =>
        split at ha
        · next hzero => exact .inr hzero
        · cases ha
      | _ => exact .inl (hafter rfl)
    · intro hfree
      split at hfree
      · next hzero =>
        cases c with
        | active => exact hzero
        | _ => cases hfree
      · cases hfree
  | wait c =>
    simp only [tear] at hs
    split at hs
    · obtain ⟨rfl, rfl⟩ := Prod.mk.inj (Option.some.inj hs)
      refine ⟨⟨rfl, rfl, rfl, rfl, rfl, rfl⟩, ?_, ?_, nofun, .inl, h.freed, .inl, id⟩
      · cases c <;> exact hfits
      · intro ha
        cases c with
        | inFlight => cases ha
        | _ => exact .inl (hafter rfl)
    · cases hs
  | stop =>
    simp only [tear] at hs
    split at hs
    · next hruntime =>
      obtain ⟨rfl, rfl⟩ := Prod.mk.inj (Option.some.inj hs)
      have hnot : s.freed = false := by
        by_contra hfreed
        rw [h.freed (Bool.not_eq_false _ ▸ hfreed)] at hruntime
        cases hruntime
      exact ⟨⟨rfl, rfl, rfl, rfl, rfl, rfl⟩, ⟨rfl, hnot⟩, fun _ => .inl (hafter rfl), nofun, .inl,
        fun _ => rfl, fun _ => hafter rfl, fun _ => rfl⟩
    · next hruntime =>
      obtain ⟨rfl, rfl⟩ := Prod.mk.inj (Option.some.inj hs)
      have hgone : s.transportRuntime = false := by simpa using hruntime
      exact ⟨⟨rfl, rfl, rfl, rfl, rfl, rfl⟩, hgone, fun _ => .inl (hafter rfl), nofun, .inl, h.freed, .inl, id⟩
  | stopping =>
    obtain ⟨rfl, rfl⟩ := Prod.mk.inj (Option.some.inj hs)
    exact ⟨⟨rfl, rfl, rfl, rfl, rfl, rfl⟩, hfits, fun _ => .inl (hafter rfl), nofun, .inl, h.freed, .inl, id⟩
  | free =>
    obtain ⟨rfl, rfl⟩ := Prod.mk.inj (Option.some.inj hs)
    exact ⟨⟨rfl, rfl, rfl, rfl, rfl, rfl⟩, hfits.1, fun _ => .inl (hafter rfl), nofun, fun _ => .inr rfl,
      fun _ => hfits.1, .inl, id⟩
  | closeHandle => cases hs

/-- **A step of a close** by the one that is closing the session. -/
theorem Inv.tear (h : s.Inv) {stage stage' : Stage} {s₁ : System} (hstage : s.Tearing stage)
    (hs : s.tear stage = some (s₁, stage')) (hsettles : stage = .free → s.NoneSignals)
    {w : Option Watchdog} {c : Option Cleanup}
    (hcloser : ∀ st, ({ s₁ with watchdog := w, cleanup := c } : System).Tearing st → st = stage')
    (halone : ({ s₁ with watchdog := w, cleanup := c } : System).watchdogTears = true →
      ∀ st, c ≠ some (.tear st)) :
    ({ s₁ with watchdog := w, cleanup := c } : System).Inv := by
  obtain ⟨⟨hthreads, hgate, hstate, hhandle, -⟩, hfits, hafter, hfree, hfreed, hgone, hdrained,
    hkept⟩ := tear_spec h hstage hs
  have hclosed := (h.closing stage hstage).1
  refine h.closer hthreads hgate ?_ ?_ halone ?_ hgone ?_ ?_ ?_ ?_
  · intro st hst
    obtain rfl := hcloser st hst
    exact ⟨hstate ▸ hclosed, hfits⟩
  · exact fun _ => hstate ▸ hclosed
  · exact fun _ => hstate ▸ hclosed
  · exact fun hnone => hkept (h.closed (hhandle ▸ hnone))
  · rintro (hruntime | ⟨st, hst, ha⟩)
    · exact .inl (hdrained hruntime)
    · obtain rfl := hcloser st hst
      exact hafter ha
  · rintro (hmemory | hst)
    · rcases hfreed hmemory with hmemory | rfl
      · exact .inl (.inl hmemory)
      · exact .inl (.inr hstage)
    · exact .inr (hfree (hcloser _ hst).symm)
  · intro hmemory
    rcases hfreed hmemory with hmemory | rfl
    · exact .inl hmemory
    · exact .inr ⟨.inr hstage, hsettles rfl⟩

theorem tears_of_watchdog {stage : Stage} (hw : s.watchdog = some (.tear stage)) :
    s.watchdogTears = true := by
  unfold watchdogTears
  rw [hw]

/-- Neither the watchdog nor the cleanup begins to close the session. -/
theorem Inv.waits (h : s.Inv) {timer : Bool} {w : Option Watchdog} {c : Option Cleanup}
    (htears : ∀ stage, ({ s with timer, watchdog := w, cleanup := c } : System).Tearing stage →
      s.Tearing stage)
    (hended : c = some .done → s.cleanup = some .done)
    (halone : ({ s with timer, watchdog := w, cleanup := c } : System).watchdogTears = true →
      ∀ stage, c ≠ some (.tear stage)) :
    ({ s with timer, watchdog := w, cleanup := c } : System).Inv := by
  refine h.closer rfl rfl (fun stage hst => h.closing stage (htears stage hst))
    (fun hdone => h.ended (hended hdone)) halone h.gone h.freed h.closed ?_ ?_ .inl
  · rintro (hgone | ⟨stage, hst, ha⟩)
    · exact .inl (.inl hgone)
    · exact .inl (.inr ⟨stage, htears stage hst, ha⟩)
  · rintro (hfreed | hst)
    · exact .inl (.inl hfreed)
    · exact .inl (.inr (htears _ hst))

/-- The session leaves `Active`, and a close begins. -/
theorem Inv.begins (h : s.Inv) {state : SessionState} (hstate : state ≠ .active)
    {w : Option Watchdog} {c : Option Cleanup}
    (htears : ∀ stage, ({ s with state, watchdog := w, cleanup := c } : System).Tearing stage →
      stage = .beginClose)
    (halone : ({ s with state, watchdog := w, cleanup := c } : System).watchdogTears = true →
      ∀ stage, c ≠ some (.tear stage)) :
    ({ s with state, watchdog := w, cleanup := c } : System).Inv := by
  refine h.closer rfl rfl (fun stage hst => ?_) (fun _ => hstate) halone (fun _ => hstate) h.freed
    h.closed ?_ ?_ .inl
  · obtain rfl := htears stage hst
    exact ⟨hstate, trivial⟩
  · rintro (hgone | ⟨stage, hst, ha⟩)
    · exact .inl (.inl hgone)
    · obtain rfl := htears stage hst
      cases ha
  · rintro (hfreed | hst)
    · exact .inl (.inl hfreed)
    · cases htears _ hst

/-- The handle is closed, by the one that is closing the session. -/
theorem Inv.closesHandle (h : s.Inv) (hstage : s.Tearing .closeHandle) {sessionId : Nat}
    {state : SessionState} (hstate : state ≠ .active) {w : Option Watchdog} {c : Option Cleanup}
    (htears : ∀ stage, ¬ ({ s with
      miniportHandle := false, sessionId, state, watchdog := w, cleanup := c } : System).Tearing
        stage) : ({ s with
      miniportHandle := false, sessionId, state, watchdog := w, cleanup := c } : System).Inv := by
  refine h.closer rfl rfl (fun stage hst => absurd hst (htears stage)) (fun _ => hstate)
    (fun _ stage hc => htears stage (.inr hc)) (fun _ => hstate) h.freed
    (fun _ => (h.closing _ hstage).2) ?_ ?_ .inl
  · rintro (hgone | ⟨stage, hst, -⟩)
    · exact .inl (.inl hgone)
    · exact absurd hst (htears stage)
  · rintro (hfreed | hst)
    · exact .inl (.inl hfreed)
    · exact absurd hst (htears _)

theorem Inv.fire (h : s.Inv) (hs : s.fire = some s') : s'.Inv := by
  unfold System.fire at hs
  split at hs
  · next hfire =>
    obtain rfl := Option.some.inj hs
    refine h.waits ?_ id nofun
    rintro stage (hst | hst)
    · cases hst
    · exact .inr hst
  · cases hs

/-- The cleanup is not closing the session while the watchdog is. -/
theorem Inv.cleanup_of_watchdog (h : s.Inv) {stage : Stage}
    (hw : s.watchdog = some (.tear stage)) (stage' : Stage) : s.cleanup ≠ some (.tear stage') :=
  h.alone (tears_of_watchdog hw) stage'

/-- Nor the watchdog while the cleanup is. -/
theorem Inv.watchdog_of_cleanup (h : s.Inv) {stage : Stage}
    (hc : s.cleanup = some (.tear stage)) (stage' : Stage) : s.watchdog ≠ some (.tear stage') :=
  fun hw => h.cleanup_of_watchdog hw stage hc

/-- The watchdog is through, or not on its way. -/
theorem Inv.watchdogQuiet (h : s.Inv) {timer : Bool} {w : Option Watchdog}
    (hw : ∀ stage, w ≠ some (.tear stage)) : ({ s with timer, watchdog := w } : System).Inv := by
  refine h.waits ?_ id ?_
  · rintro stage (hst | hst)
    · exact absurd hst (hw stage)
    · exact .inr hst
  · intro ht
    unfold watchdogTears at ht
    split at ht
    · next stage heq => exact absurd heq (hw stage)
    · cases ht

/-- A step of the watchdog. -/
theorem Inv.watch (h : s.Inv) {elapsed : Bool} (hsettles : s.Settles (.watch elapsed))
    (hs : s.watch elapsed = some s') : s'.Inv := by
  unfold System.watch at hs
  split at hs
  · cases hs
  · split at hs
    · cases hs
    · split at hs
      · next hexpired =>
        obtain rfl := Option.some.inj hs
        rw [Bool.and_eq_true] at hexpired
        have hidle : ∀ stage, s.cleanup ≠ some (.tear stage) := fun stage hc =>
          (h.closing stage (.inr hc)).1 (enter_active hexpired.1)
        refine h.begins (by decide) ?_ fun _ => hidle
        rintro stage (hst | hst)
        · exact (Watchdog.tear.inj (Option.some.inj hst)).symm
        · exact absurd hst (hidle stage)
      · obtain rfl := Option.some.inj hs
        exact h.watchdogQuiet nofun
  · next hw =>
    obtain rfl := Option.some.inj hs
    refine h.closesHandle (.inl hw) (h.closing _ (.inl hw)).1 ?_
    rintro stage (hst | hst)
    · cases hst
    · exact h.cleanup_of_watchdog hw stage hst
  · next stage _ hw =>
    cases ht : s.tear stage with
    | none =>
      rw [ht] at hs
      cases hs
    | some p =>
      obtain ⟨s₁, stage'⟩ := p
      rw [ht] at hs
      obtain rfl := Option.some.inj hs
      have hsame := (tear_spec h (.inl hw) ht).1.2.2.2.2.2
      refine h.tear (.inl hw) ht (fun hfree => hsettles (hfree ▸ hw)) ?_ fun _ st hc => ?_
      · rintro st (hst | hst)
        · exact (Watchdog.tear.inj (Option.some.inj hst)).symm
        · exact absurd (hsame ▸ hst) (h.cleanup_of_watchdog hw st)
      · exact h.cleanup_of_watchdog hw st (hsame ▸ hc)
  · obtain rfl := Option.some.inj hs
    exact h.watchdogQuiet nofun

/-- A step of the cleanup. -/
theorem Inv.clean (h : s.Inv) (hsettles : s.Settles .clean) (hs : s.clean = some s') : s'.Inv := by
  unfold System.clean at hs
  split at hs
  · obtain rfl := Option.some.inj hs
    refine h.waits ?_ nofun fun _ => nofun
    rintro stage (hst | hst)
    · exact .inl hst
    · cases hst
  · split at hs
    · obtain rfl := Option.some.inj hs
      refine h.waits ?_ nofun fun _ => nofun
      rintro stage (hst | hst)
      · exact .inl hst
      · cases hst
    · cases hs
  · next hc =>
    split at hs
    · cases hs
    · obtain rfl := Option.some.inj hs
      have hw : ∀ stage, s.watchdog ≠ some (.tear stage) := fun stage hw => by
        have htears := hsettles.2 hc
        rw [tears_of_watchdog hw] at htears
        cases htears
      refine h.begins ?_ ?_ fun ht => ?_
      · split <;> decide
      · rintro stage (hst | hst)
        · exact absurd hst (hw stage)
        · exact (Cleanup.tear.inj (Option.some.inj hst)).symm
      · rw [show ({ s with
          state := if s.state = .closed then .closed else .closing
          cleanup := some (.tear .beginClose) } : System).watchdogTears = s.watchdogTears from rfl,
          hsettles.2 hc] at ht
        cases ht
  · next hc =>
    split at hs
    · cases hs
    · obtain rfl := Option.some.inj hs
      refine h.closesHandle (.inr hc) (by decide) ?_
      rintro stage (hst | hst)
      · exact h.watchdog_of_cleanup hc stage hst
      · cases hst
  · next stage _ hc =>
    cases ht : s.tear stage with
    | none =>
      rw [ht] at hs
      cases hs
    | some p =>
      obtain ⟨s₁, stage'⟩ := p
      rw [ht] at hs
      obtain rfl := Option.some.inj hs
      have hsame := (tear_spec h (.inr hc) ht).1.2.2.2.2.1
      have hw : ∀ st, s₁.watchdog ≠ some (.tear st) := fun st hw =>
        h.watchdog_of_cleanup hc st (hsame ▸ hw)
      refine h.tear (.inr hc) ht (fun hfree => hsettles.1 (hfree ▸ hc)) ?_ fun hw' => ?_
      · rintro st (hst | hst)
        · exact absurd hst (hw st)
        · exact (Cleanup.tear.inj (Option.some.inj hst)).symm
      · unfold watchdogTears at hw'
        split at hw'
        · next st heq => exact absurd heq (hw st)
        · cases hw'
  · cases hs

/-- **What a step keeps.** -/
theorem step_inv {a : Action} (h : s.Inv) (hsettles : s.Settles a) (hs : s.step a = some s') :
    s'.Inv := by
  cases a with
  | acquire => exact h.acquire hs
  | look => exact h.look hs
  | heartbeat =>
    simp only [step, heartbeat] at hs
    split at hs
    · cases hs
    · split at hs
      · obtain rfl := Option.some.inj hs
        exact { h with }
      · exact Option.some.inj hs ▸ h
  | run i ok =>
    obtain ⟨t, ht, rfl⟩ := Option.map_eq_some_iff.mp hs
    exact h.run ht
  | fire => exact h.fire hs
  | watch elapsed => exact h.watch hsettles hs
  | clean => exact h.clean hsettles hs

/-! ## What the invariant gives -/

theorem Inv.safe (h : s.Inv) : s.Safe where
  runtime := fun t ht htouches => by
    by_contra hfreed
    have hunused := h.unused (Bool.not_eq_false _ ▸ hfreed) t ht
    rw [Thread.reach_of_touches htouches] at hunused
    cases hunused
  handle := fun t ht huses => by
    by_contra hclosed
    obtain ⟨hreach, hpos⟩ := Thread.reach_of_usesHandle huses
    have hzero := h.drained (.inl (h.closed (Bool.not_eq_true _ ▸ hclosed))) t ht hreach
    exact absurd hzero hpos.ne'
  close := fun stage hstage htouches => by
    have hfits := (h.closing stage hstage).2
    cases stage with
    | markClosing =>
      by_contra hfreed
      have hgone := h.freed (Bool.not_eq_false _ ▸ hfreed)
      rw [show s.transportRuntime = true from hfits] at hgone
      cases hgone
    | drain c | wait c =>
      cases c with
      | active => exact hfits.2
      | _ => cases htouches
    | stopping | free => exact hfits.2
    | _ => cases htouches
  send := fun hstage => (h.closing _ hstage).2

/-- A close does not give the session back, nor the runtime. -/
theorem tear_state {stage stage' : Stage} {s₁ : System} (hs : s.tear stage = some (s₁, stage')) :
    s₁.state = s.state ∧ (s.runtimeState = .closing → s₁.runtimeState = .closing) := by
  cases stage with
  | wait c =>
    simp only [tear] at hs
    split at hs
    · obtain ⟨rfl, -⟩ := Prod.mk.inj (Option.some.inj hs)
      exact ⟨rfl, id⟩
    · cases hs
  | stop =>
    simp only [tear] at hs
    split at hs <;> obtain ⟨rfl, -⟩ := Prod.mk.inj (Option.some.inj hs) <;> exact ⟨rfl, id⟩
  | closeHandle => cases hs
  | markClosing | stopping =>
    obtain ⟨rfl, -⟩ := Prod.mk.inj (Option.some.inj hs)
    exact ⟨rfl, fun _ => rfl⟩
  | _ =>
    obtain ⟨rfl, -⟩ := Prod.mk.inj (Option.some.inj hs)
    exact ⟨rfl, id⟩

/-- **Nothing becomes active again**: neither the session nor its runtime. -/
theorem step_closed {a : Action} (hs : s.step a = some s') :
    (s.state ≠ .active → s'.state ≠ .active) ∧
      (s.runtimeState = .closing → s'.runtimeState = .closing) := by
  cases a with
  | acquire =>
    simp only [step, acquire] at hs
    split at hs
    · cases hs
    · split at hs <;> obtain rfl := Option.some.inj hs <;> exact ⟨id, id⟩
  | look =>
    simp only [step, look] at hs
    split at hs <;> obtain rfl := Option.some.inj hs <;> exact ⟨id, id⟩
  | heartbeat =>
    simp only [step, heartbeat] at hs
    split at hs
    · cases hs
    · split at hs <;> obtain rfl := Option.some.inj hs <;> exact ⟨id, id⟩
  | run i ok =>
    obtain ⟨t, -, rfl⟩ := Option.map_eq_some_iff.mp hs
    exact ⟨id, id⟩
  | fire =>
    simp only [step, fire] at hs
    split at hs
    · obtain rfl := Option.some.inj hs
      exact ⟨id, id⟩
    · cases hs
  | watch elapsed =>
    simp only [step, watch] at hs
    split at hs
    · cases hs
    · split at hs
      · cases hs
      · split at hs <;> obtain rfl := Option.some.inj hs
        · exact ⟨fun _ => nofun, id⟩
        · exact ⟨id, id⟩
    · obtain rfl := Option.some.inj hs
      exact ⟨id, id⟩
    · obtain ⟨⟨s₁, stage'⟩, ht, rfl⟩ := Option.map_eq_some_iff.mp hs
      exact ⟨fun h => (tear_state ht).1 ▸ h, (tear_state ht).2⟩
    · obtain rfl := Option.some.inj hs
      exact ⟨id, id⟩
  | clean =>
    simp only [step, clean] at hs
    split at hs
    · obtain rfl := Option.some.inj hs
      exact ⟨id, id⟩
    · split at hs
      · obtain rfl := Option.some.inj hs
        exact ⟨id, id⟩
      · cases hs
    · split at hs
      · cases hs
      · obtain rfl := Option.some.inj hs
        exact ⟨fun _ => by dsimp only; split <;> decide, id⟩
    · split at hs
      · cases hs
      · obtain rfl := Option.some.inj hs
        exact ⟨fun _ => nofun, id⟩
    · obtain ⟨⟨s₁, stage'⟩, ht, rfl⟩ := Option.map_eq_some_iff.mp hs
      exact ⟨fun h => (tear_state ht).1 ▸ h, (tear_state ht).2⟩
    · cases hs

/-- An acquire that succeeds has found the session active. -/
theorem active_of_acquiresSession {a : Action} (h : s.AcquiresSession a) : s.state = .active := by
  cases a with
  | acquire => exact enter_active h.2
  | run i ok =>
    obtain ⟨-, h⟩ := h
    simp only [advance, Option.some.injEq] at h
    split at h
    · next hcheck =>
      rw [Bool.and_eq_true, Bool.and_eq_true] at hcheck
      exact enter_active hcheck.1.1
    · cases h
  | _ => cases h

theorem running_of_acquiresRuntime {a : Action} (h : s.AcquiresRuntime a) :
    s.runtimeState = .running := by
  cases a with
  | run i ok =>
    obtain ⟨k, -, h⟩ := h
    simp only [advance, Option.some.injEq] at h
    split at h
    · next hrunning => exact of_decide_eq_true hrunning
    · cases h
  | _ => cases h

/-- **The drains of a session.**  In every run whose steps settle: nothing is used after it is
gone; a count of zero with nobody between its two steps is a signalled event; and once the session
or the runtime has left its active state, no acquire of it succeeds. -/
theorem drain_safe (sessionId : Nat) {as : List Action} {s : System}
    (hsettles : StepsMeet step Settles (init sessionId) as)
    (hr : runFrom step (init sessionId) as = some s) :
    s.Safe ∧
    (∀ c, (s.gate c).count = 0 →
      (∀ t ∈ s.threads, t.clears c = false ∧ t.signals c = false) → (s.gate c).zero = true) ∧
    (s.state ≠ .active → ∀ bs t, runFrom step s bs = some t → ∀ a, ¬ t.AcquiresSession a) ∧
    (s.runtimeState ≠ .running → ∀ bs t, runFrom step s bs = some t →
      ∀ a, ¬ t.AcquiresRuntime a) := by
  have h : s.Inv := Lib.run_inv_of_guard (fun _ _ _ h hG hs => step_inv h hG hs) as _ _
    (inv_init sessionId) hsettles hr
  refine ⟨h.safe, fun c hzero hquiet => ?_, fun hstate bs t ht a ha => ?_,
    fun hstate bs t ht a ha => ?_⟩
  · refine (h.gates c).zero_of_quiet hzero fun t ht hsignals => ?_
    rw [(hquiet t ht).2] at hsignals
    cases hsignals
  · have hleft : t.state ≠ .active :=
      Lib.run_inv (I := fun s : System => s.state ≠ .active)
        (fun _ _ _ h hs => (step_closed hs).1 h) hstate ht
    exact hleft (active_of_acquiresSession ha)
  · have hclosing : s.runtimeState = .closing := by
      cases hrt : s.runtimeState with
      | running => exact absurd hrt hstate
      | closing => rfl
    have hleft : t.runtimeState = .closing :=
      Lib.run_inv (I := fun s : System => s.runtimeState = .closing)
        (fun _ _ _ h hs => (step_closed hs).2 h) hclosing ht
    rw [running_of_acquiresRuntime ha] at hleft
    cases hleft

/-! ## Runs -/

/-- A slot is posted, up to the miniport. -/
def postSlot : List Action := .look :: List.replicate 14 (.run 0 true)

/-- It is completed, up to the decrement of `ActiveCount`. -/
def completeSlot : List Action := List.replicate 7 (.run 0 true)

/-- The cleanup, up to the drain of the requests; from there on, up to the end. -/
def cleanUp : List Action := List.replicate 7 .clean
def finishCleanUp : List Action := List.replicate 7 .clean

/-- The slot is completed while the cleanup waits, and has set its last event when the runtime is
freed. -/
theorem drain_safe_slot : ∃ s,
    runFrom step (init 1) (postSlot ++ cleanUp ++ completeSlot ++ [.run 0 true] ++ finishCleanUp) =
      some s ∧ s.cleanup = some .done ∧ s.Safe := by
  have hsettles : StepsMeet step Settles (init 1)
      (postSlot ++ cleanUp ++ completeSlot ++ [.run 0 true] ++ finishCleanUp) := by
    decide
  obtain ⟨s, hr, hdone⟩ := Lib.exists_run step (init 1)
    (postSlot ++ cleanUp ++ completeSlot ++ [.run 0 true] ++ finishCleanUp)
    (fun s => s.cleanup = some .done) (by decide)
  exact ⟨s, hr, of_decide_eq_true hdone, (drain_safe 1 hsettles hr).1⟩

/-- **The last release of a slot** takes `ActiveCount` to zero, the cleanup finds it so and frees
the runtime, and the event that is still to be set was part of it. -/
theorem lateSignal : ∃ s,
    runFrom step (init 1) (postSlot ++ cleanUp ++ completeSlot ++ List.replicate 5 .clean) =
      some s ∧ s.freed = true ∧ .rest [.signal .active] ∈ s.threads ∧ ¬ s.Safe := by
  obtain ⟨s, hr, hp⟩ := Lib.exists_run step (init 1)
    (postSlot ++ cleanUp ++ completeSlot ++ List.replicate 5 .clean)
    (fun s => s.freed && s.threads.contains (.rest [.signal .active])) (by decide)
  rw [Bool.and_eq_true, List.contains_iff_mem] at hp
  refine ⟨s, hr, hp.1, hp.2, fun hsafe => ?_⟩
  have hfreed := hsafe.runtime _ hp.2 rfl
  rw [hp.1] at hfreed
  cases hfreed

end System

end YumeDisk.Kmdf.Drain
