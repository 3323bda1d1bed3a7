import YumeDisk.Kmdf.Session
import YumeDisk.Lib.Run

/-!
# A cleaned session leaves the adapter claimable

* `Claimable`: what is promised once a session has let go of the miniport.
* `Settled`: the condition on a step under which the promise is kept.
* `Inv`, `step_inv`: the invariant, by the stage of the cleanup.
* `claimable_of_settled`: runs.
-/

namespace YumeDisk.Kmdf

open Miniport (maxTargets allTargets)

namespace Adapter

/-- No session has claimed the adapter, and no target is present. -/
structure Clear (a : Adapter) : Prop where
  session : a.currentSessionId = 0
  targets : ∀ t, a.present t = false

/-- The first command of a session claims a clear adapter. -/
theorem Clear.claims {a : Adapter} (h : a.Clear) {sessionId : Nat} (hne : sessionId ≠ 0)
    (command : Command) : (a.claimSession command sessionId).isSome = true := by
  unfold claimSession
  rw [if_neg hne, if_pos h.session]
  split <;> rfl

/-- The adapter is claimed by the session, or by none. -/
def OwnedBy (a : Adapter) (sessionId : Nat) : Prop :=
  a.currentSessionId = 0 ∨ a.currentSessionId = sessionId

variable {a a' : Adapter} {command : Command} {sessionId : Nat}

theorem claimSession_spec (h : a.claimSession command sessionId = some a') :
    a'.present = a.present ∧
      (a' = a ∨ sessionId ≠ 0 ∧ command ≠ .queryScsiInfo ∧ a'.currentSessionId = sessionId) := by
  unfold claimSession at h
  split_ifs at h with hquery hzero hclaimed hother
  · cases h
    exact ⟨rfl, .inl rfl⟩
  · cases h
    exact ⟨rfl, .inr ⟨hzero, hquery, rfl⟩⟩
  · cases h
    exact ⟨rfl, .inl rfl⟩

theorem OwnedBy.claim (h : a.OwnedBy sessionId) (hs : a.claimSession command sessionId = some a') :
    a'.OwnedBy sessionId := by
  rcases (claimSession_spec hs).2 with rfl | ⟨-, -, hclaimed⟩
  · exact h
  · exact .inr hclaimed

/-- A session that owns the adapter is let in. -/
theorem OwnedBy.claims (h : a.OwnedBy sessionId) (hne : sessionId ≠ 0) (command : Command) :
    a.claimSession command sessionId ≠ none := by
  unfold claimSession
  split_ifs with hquery hclaimed hother
  · nofun
  · nofun
  · exact absurd (h.resolve_left hclaimed) hother
  · nofun

theorem setPresent_false {t u : Nat} (h : a.present u = false) :
    (a.setPresent t false).present u = false := by
  by_cases hu : u = t
  · simp [setPresent, hu]
  · simpa [setPresent, Function.update_of_ne hu] using h

theorem setPresent_true {t u : Nat} (hne : u ≠ t) (h : a.present u = false) :
    (a.setPresent t true).present u = false := by
  simpa [setPresent, Function.update_of_ne hne] using h

theorem setPresent_same (a : Adapter) (t : Nat) : (a.setPresent t false).present t = false := by
  simp [setPresent]

theorem Clear.setPresent (h : a.Clear) (t : Nat) : (a.setPresent t false).Clear :=
  ⟨h.session, fun u => setPresent_false (h.targets u)⟩

theorem closeSession_present (c : Bool) : (a.closeSession c).present = a.present := by
  unfold closeSession
  split <;> rfl

theorem closeSession_currentSessionId (c : Bool) :
    (a.closeSession c).currentSessionId = 0 ∨
      (a.closeSession c).currentSessionId = a.currentSessionId := by
  unfold closeSession
  split
  · exact .inl rfl
  · exact .inr rfl

theorem Clear.closeSession (h : a.Clear) (c : Bool) : (a.closeSession c).Clear :=
  ⟨(closeSession_currentSessionId c).elim id fun heq => heq.trans h.session,
    fun t => (congrFun (closeSession_present c) t).trans (h.targets t)⟩

end Adapter

namespace System

/-! ## The promise and its condition -/

/-- When no session holds the miniport, the adapter is clear, and any session can claim it. -/
def Claimable (s : System) : Prop :=
  s.session.miniportHandle = false → s.adapter.Clear

/-- The cleanup message has been handled. -/
def Stage.cleaned : Stage → Bool
  | .beginClose | .send | .claim | .deactivate _ | .reset => false
  | _ => true

/-- The cleanup is still to deactivate the target. -/
def Stage.toDeactivate (target : Nat) : Stage → Bool
  | .beginClose | .send | .claim => true
  | .deactivate targets => targets.contains target
  | _ => false

def cleaned (s : System) : Bool := s.closer.any fun c => Stage.cleaned c.stage

/-- The condition on a step of a request: it claims the adapter before the cleanup message has been
handled, and makes a target present before the cleanup deactivates it. -/
def SettledCall (s : System) : Call → Prop
  | .sending command => command = .queryScsiInfo ∨ s.cleaned = false
  | .slotSending => s.cleaned = false
  | .creating target => ∀ c ∈ s.closer, Stage.toDeactivate target c.stage = true
  | _ => True

instance (s : System) (call : Call) : Decidable (s.SettledCall call) := by
  cases call with
  | sending command => exact inferInstanceAs (Decidable (_ ∨ _))
  | slotSending => exact inferInstanceAs (Decidable (_ = _))
  | creating target => exact inferInstanceAs (Decidable (∀ c ∈ s.closer, _))
  | _ => exact isTrue trivial

/-- The condition on a step; the cleanup message is sent. -/
def Settled (s : System) : Action → Prop
  | .call i => ∀ call ∈ s.calls[i]?, s.SettledCall call
  | .close sent => sent = true
  | _ => True

instance (s : System) (a : Action) : Decidable (s.Settled a) := by
  cases a with
  | call i => exact inferInstanceAs (Decidable (∀ call ∈ s.calls[i]?, s.SettledCall call))
  | close sent => exact inferInstanceAs (Decidable (_ = _))
  | _ => exact isTrue trivial

/-! ## The invariant -/

/-- Nothing of a session can reach the miniport. -/
structure Idle (s : System) : Prop where
  clear : s.adapter.Clear
  calls : ∀ call ∈ s.calls, call = .slotReferenced

/-- The session cannot let requests in. -/
def Unused (s : System) : Prop := s.session.miniportHandle = false ∨ s.session.sessionId = 0

/-- What the adapter is at a stage of the cleanup. -/
def Fits (a : Adapter) : Stage → Prop
  | .deactivate targets => ∀ t, t ∉ targets → a.present t = false
  | .reset => ∀ t, a.present t = false
  | .drain => a.Clear
  | _ => True

/-- The requests are drained. -/
def Stage.drained : Stage → Bool
  | .stop | .drainActive | .drainSlots | .closeHandle => true
  | _ => false

/-- What holds at a stage of the cleanup. -/
structure StageHolds (s : System) (stage : Stage) : Prop where
  fits : Fits s.adapter stage
  claim : stage = .claim → ¬ s.Unused
  idle : Stage.drained stage = true → s.Idle

structure Inv (s : System) : Prop where
  count : s.session.inFlightRequestCount = s.calls.length
  owned : s.adapter.OwnedBy s.session.sessionId
  targets : ∀ t, s.adapter.present t = true → t < maxTargets
  creating : ∀ t, .creating t ∈ s.calls → t < maxTargets
  opened : s.opened = false → s.closer = none ∧ s.session.state ≠ .active
  inactive : s.closer ≠ none → s.session.state ≠ .active
  released : s.closer = none → s.session.state ≠ .active → s.session.miniportHandle = false
  unused : s.Unused → s.Idle
  stage : ∀ c ∈ s.closer, s.StageHolds c.stage

theorem inv_init : Inv init where
  count := rfl
  owned := .inl rfl
  targets := nofun
  creating := nofun
  opened _ := ⟨rfl, nofun⟩
  inactive h := absurd rfl h
  released _ _ := rfl
  unused _ := ⟨⟨rfl, fun _ => rfl⟩, nofun⟩
  stage := nofun

variable {s s' : System}

/-- A request is under way that can reach the miniport, so the session is in use. -/
structure InUse (s : System) : Prop where
  used : ¬ s.Unused
  notDrained : ∀ c ∈ s.closer, ¬ Stage.drained c.stage = true

theorem Inv.inUse (h : Inv s) {i : Nat} {call : Call} (hi : s.calls[i]? = some call)
    (hcall : call ≠ .slotReferenced) : s.InUse := by
  have hidle : ¬ s.Idle := fun hidle => hcall (hidle.calls call (List.mem_of_getElem? hi))
  exact ⟨fun hunused => hidle (h.unused hunused), fun c hc hd => hidle ((h.stage c hc).idle hd)⟩

theorem Inv.inUse_of_enter (h : Inv s) (henter : s.enter = true) :
    s.InUse ∧ s.closer = none := by
  simp only [enter, Bool.and_eq_true, decide_eq_true_eq] at henter
  obtain ⟨⟨hactive, hhandle⟩, hid⟩ := henter
  have hcloser : s.closer = none := by
    by_contra hcloser
    exact h.inactive hcloser hactive
  refine ⟨⟨?_, fun c hc => ?_⟩, hcloser⟩
  · rintro (hunused | hunused)
    · rw [hhandle] at hunused
      cases hunused
    · exact hid hunused
  · rw [hcloser] at hc
    cases hc

/-! ## A request takes a step -/

/-- The counters of a session may change; the rest of it does not. -/
structure SameSession (t t' : Session) : Prop where
  state : t'.state = t.state
  sessionId : t'.sessionId = t.sessionId
  miniportHandle : t'.miniportHandle = t.miniportHandle

/-- **A request steps**, in a session that is in use. -/
theorem Inv.callStep (h : Inv s) (huse : s.InUse) {a : Adapter} {session : Session}
    {calls : List Call} (hsession : SameSession s.session session)
    (hcount : session.inFlightRequestCount = calls.length)
    (howned : a.OwnedBy s.session.sessionId)
    (htargets : ∀ t, a.present t = true → t < maxTargets)
    (hcreating : ∀ t, .creating t ∈ calls → t < maxTargets)
    (hfits : ∀ c ∈ s.closer, Fits s.adapter c.stage → Fits a c.stage) :
    Inv { s with adapter := a, session, calls } := by
  have hunused : ¬ Unused { s with adapter := a, session, calls } := by
    rintro (hn | hn)
    · exact huse.used (.inl (hsession.miniportHandle.symm.trans hn))
    · exact huse.used (.inr (hsession.sessionId.symm.trans hn))
  exact {
    count := hcount
    owned := hsession.sessionId.symm ▸ howned
    targets := htargets
    creating := hcreating
    opened := fun ho => ⟨(h.opened ho).1, hsession.state.symm ▸ (h.opened ho).2⟩
    inactive := fun hc => hsession.state.symm ▸ h.inactive hc
    released := fun hc hs => hsession.miniportHandle.trans (h.released hc (hsession.state ▸ hs))
    unused := fun hn => absurd hn hunused
    stage := fun c hc => ⟨hfits c hc (h.stage c hc).fits, fun _ => hunused,
      fun hd => absurd hd (huse.notDrained c hc)⟩ }

/-- A request that ends. -/
theorem Inv.callEnds (h : Inv s) (huse : s.InUse) {i : Nat} {call : Call}
    (hi : s.calls[i]? = some call) {session : Session} (hsession : SameSession s.session session)
    (hcount : session.inFlightRequestCount = s.session.inFlightRequestCount - 1) :
    Inv { s with session, calls := s.calls.eraseIdx i } := by
  refine h.callStep huse hsession ?_ h.owned h.targets
    (fun t ht => h.creating t (List.mem_of_mem_eraseIdx ht)) fun _ _ => id
  rw [hcount, h.count, List.length_eraseIdx_of_lt (List.getElem?_eq_some_iff.mp hi).1]

/-- A request that goes on. -/
theorem Inv.callGoes (h : Inv s) (huse : s.InUse) {i : Nat} {call : Call} {a : Adapter}
    {session : Session} (hsession : SameSession s.session session)
    (hcount : session.inFlightRequestCount = s.session.inFlightRequestCount)
    (howned : a.OwnedBy s.session.sessionId)
    (htargets : ∀ t, a.present t = true → t < maxTargets)
    (hcreating : ∀ t, call = .creating t → t < maxTargets)
    (hfits : ∀ c ∈ s.closer, Fits s.adapter c.stage → Fits a c.stage) :
    Inv { s with adapter := a, session, calls := s.calls.set i call } := by
  refine h.callStep huse hsession ?_ howned htargets (fun t ht => ?_) hfits
  · rw [hcount, h.count, List.length_set]
  · rcases List.mem_or_eq_of_mem_set ht with ht | ht
    · exact h.creating t ht
    · exact hcreating t ht.symm

/-- A request that only moves on. -/
theorem Inv.callMoves (h : Inv s) (huse : s.InUse) {i : Nat} {call : Call} {session : Session}
    (hsession : SameSession s.session session)
    (hcount : session.inFlightRequestCount = s.session.inFlightRequestCount)
    (hcreating : ∀ t, call = .creating t → t < maxTargets) :
    Inv { s with session, calls := s.calls.set i call } :=
  h.callGoes huse hsession hcount h.owned h.targets hcreating fun _ _ => id

/-- A request that goes on while the transport runs, and ends otherwise. -/
theorem Inv.callChecks (h : Inv s) (huse : s.InUse) {i : Nat} {call call' : Call}
    (hi : s.calls[i]? = some call) {go stop : Session}
    (hstep : s.advance call =
      if s.running = true then ({ s with session := go }, some call')
      else ({ s with session := stop }, none))
    (hgo : SameSession s.session go)
    (hgoCount : go.inFlightRequestCount = s.session.inFlightRequestCount)
    (hstop : SameSession s.session stop)
    (hstopCount : stop.inFlightRequestCount = s.session.inFlightRequestCount - 1)
    (hcreating : ∀ t, call' = .creating t → t < maxTargets) : Inv (s.runCall i call) := by
  unfold System.runCall
  rw [hstep]
  by_cases hrunning : s.running = true
  · rw [if_pos hrunning]
    exact h.callMoves huse hgo hgoCount hcreating
  · rw [if_neg hrunning]
    exact h.callEnds huse hi hstop hstopCount

theorem SameSession.refl (t : Session) : SameSession t t := ⟨rfl, rfl, rfl⟩

theorem not_cleaned {c : Closer} (hc : c ∈ s.closer) (h : s.cleaned = false) :
    Stage.cleaned c.stage = false := by
  unfold cleaned at h
  rw [Option.mem_def.mp hc] at h
  exact h

theorem fits_of_present {a a' : Adapter} {stage : Stage} (hpresent : a'.present = a.present)
    (hstage : Stage.cleaned stage = false) (h : Fits a stage) : Fits a' stage := by
  cases stage with
  | deactivate targets => exact fun t ht => (congrFun hpresent t).trans (h t ht)
  | reset => exact fun t => (congrFun hpresent t).trans (h t)
  | drain => cases hstage
  | _ => trivial

/-- **A request is let in by the miniport** before the cleanup message has been handled. -/
theorem Inv.claims (h : Inv s) (huse : s.InUse) {i : Nat} {call : Call} {command : Command}
    {a : Adapter} (hclaim : s.adapter.claimSession command s.session.sessionId = some a)
    (hG : command = .queryScsiInfo ∨ s.cleaned = false)
    (hcreating : ∀ t, call = .creating t → t < maxTargets) :
    Inv { s with adapter := a, calls := s.calls.set i call } := by
  obtain ⟨hpresent, hsame⟩ := Adapter.claimSession_spec hclaim
  refine h.callGoes huse (.refl _) rfl (h.owned.claim hclaim)
    (fun t ht => h.targets t (hpresent ▸ ht)) hcreating fun c hc hf => ?_
  rcases hsame with rfl | ⟨-, hne, -⟩
  · exact hf
  · exact fits_of_present hpresent (not_cleaned hc (hG.resolve_left hne)) hf

theorem fits_setPresent_false {a : Adapter} {t : Nat} {stage : Stage} (h : Fits a stage) :
    Fits (a.setPresent t false) stage := by
  cases stage with
  | deactivate targets => exact fun u hu => Adapter.setPresent_false (h u hu)
  | reset => exact fun u => Adapter.setPresent_false (h u)
  | drain => exact Adapter.Clear.setPresent h t
  | _ => trivial

theorem fits_setPresent_true {a : Adapter} {t : Nat} {stage : Stage}
    (hstage : Stage.toDeactivate t stage = true) (h : Fits a stage) :
    Fits (a.setPresent t true) stage := by
  cases stage with
  | deactivate targets =>
    intro u hu
    refine Adapter.setPresent_true ?_ (h u hu)
    rintro rfl
    exact hu (List.contains_iff_mem.mp hstage)
  | beginClose => trivial
  | send => trivial
  | claim => trivial
  | _ => cases hstage

theorem fits_closeSession {a : Adapter} {stage : Stage} (close : Bool) (h : Fits a stage) :
    Fits (a.closeSession close) stage := by
  have hpresent := Adapter.closeSession_present (a := a) close
  cases stage with
  | deactivate targets => exact fun t ht => (congrFun hpresent t).trans (h t ht)
  | reset => exact fun t => (congrFun hpresent t).trans (h t)
  | drain => exact Adapter.Clear.closeSession h close
  | _ => trivial

theorem present_setPresent {a : Adapter} {t u : Nat} {p : Bool}
    (h : (a.setPresent t p).present u = true) : u = t ∨ a.present u = true := by
  by_cases hu : u = t
  · exact .inl hu
  · right
    simpa [Adapter.setPresent, Function.update_of_ne hu] using h

theorem Inv.removes (h : Inv s) (huse : s.InUse) {i : Nat} {call : Call} (t : Nat)
    (hcreating : ∀ t, call = .creating t → t < maxTargets) :
    Inv { s with adapter := s.adapter.setPresent t false, calls := s.calls.set i call } := by
  refine h.callGoes huse (.refl _) rfl h.owned (fun u hu => h.targets u ?_) hcreating
    fun _ _ => fits_setPresent_false
  by_contra hfalse
  rw [Bool.not_eq_true] at hfalse
  rw [Adapter.setPresent_false hfalse] at hu
  cases hu

/-- A slot request whose second look fails. -/
theorem Inv.dropReferenced (h : Inv s) {i : Nat} {call : Call} (hi : s.calls[i]? = some call)
    {session : Session} (hsession : SameSession s.session session)
    (hcount : session.inFlightRequestCount = s.session.inFlightRequestCount - 1) :
    Inv { s with session, calls := s.calls.eraseIdx i } := by
  have hidle : s.Idle → Idle { s with session, calls := s.calls.eraseIdx i } := fun hidle =>
    ⟨hidle.clear, fun call hc => hidle.calls call (List.mem_of_mem_eraseIdx hc)⟩
  have hunused : Unused { s with session, calls := s.calls.eraseIdx i } → s.Unused :=
    Or.imp hsession.miniportHandle.symm.trans hsession.sessionId.symm.trans
  exact {
    count := by
      show session.inFlightRequestCount = (s.calls.eraseIdx i).length
      rw [hcount, h.count, List.length_eraseIdx_of_lt (List.getElem?_eq_some_iff.mp hi).1]
    owned := hsession.sessionId.symm ▸ h.owned
    targets := h.targets
    creating := fun t ht => h.creating t (List.mem_of_mem_eraseIdx ht)
    opened := fun ho => ⟨(h.opened ho).1, hsession.state.symm ▸ (h.opened ho).2⟩
    inactive := fun hc => hsession.state.symm ▸ h.inactive hc
    released := fun hc hs => hsession.miniportHandle.trans (h.released hc (hsession.state ▸ hs))
    unused := fun hn => hidle (h.unused (hunused hn))
    stage := fun c hc => ⟨(h.stage c hc).fits, fun hs hn => (h.stage c hc).claim hs (hunused hn),
      fun hd => hidle ((h.stage c hc).idle hd)⟩ }

/-- **The next step of a request**, if it is settled. -/
theorem Inv.runCall (h : Inv s) {i : Nat} {call : Call} (hi : s.calls[i]? = some call)
    (hG : s.SettledCall call) : Inv (s.runCall i call) := by
  by_cases hreferenced : call = .slotReferenced
  · subst hreferenced
    unfold System.runCall advance
    dsimp only
    by_cases henter : s.enter = true
    · split
      · next heq =>
        split at heq <;> cases heq
        exact h.dropReferenced hi ⟨rfl, rfl, rfl⟩ rfl
      · next heq =>
        split at heq <;> cases heq
        exact h.callMoves (h.inUse_of_enter henter).1 (.refl _) rfl nofun
    · rw [if_neg (by simp [henter])]
      exact h.dropReferenced hi ⟨rfl, rfl, rfl⟩ rfl
  · have huse := h.inUse hi hreferenced
    cases call with
    | acquired command =>
      unfold System.runCall advance
      dsimp only
      split
      · next heq =>
        split at heq <;> cases heq
        exact h.callEnds huse hi ⟨rfl, rfl, rfl⟩ rfl
      · next heq =>
        split at heq <;> cases heq
        exact h.callMoves huse ⟨rfl, rfl, rfl⟩ rfl nofun
    | sending command =>
      unfold System.runCall advance
      dsimp only
      cases hclaim : s.adapter.claimSession command s.session.sessionId with
      | none => exact h.callMoves huse (.refl _) rfl nofun
      | some a => exact h.claims huse hclaim hG nofun
    | handling command =>
      cases command with
      | createDisk t =>
        unfold System.runCall advance
        dsimp only
        split
        · next heq => split at heq <;> cases heq
        · next heq =>
          split at heq
          · cases heq
            exact h.callMoves huse (.refl _) rfl nofun
          · next hfree =>
            cases heq
            refine h.callMoves huse (.refl _) rfl fun u hu => ?_
            cases hu
            simp only [Bool.or_eq_true, decide_eq_true_eq, not_or] at hfree
            omega
      | removeDisk t => exact h.removes huse t nofun
      | queryKmdfInfo => exact h.callMoves huse (.refl _) rfl nofun
      | queryScsiInfo => exact h.callMoves huse (.refl _) rfl nofun
      | removeAllDisks close => exact h.callMoves huse (.refl _) rfl nofun
      | other => exact h.callMoves huse (.refl _) rfl nofun
    | creating t =>
      have ht := h.creating t (List.mem_of_getElem? hi)
      refine h.callGoes huse (.refl _) rfl h.owned (fun u hu => ?_) nofun
        fun c hc => fits_setPresent_true (hG c hc)
      rcases present_setPresent hu with rfl | hu
      · exact ht
      · exact h.targets u hu
    | removing close targets =>
      cases targets with
      | nil =>
        refine h.callGoes huse (.refl _) rfl ?_ (fun t ht => h.targets t ?_) nofun
          fun _ _ => fits_closeSession close
        · rcases Adapter.closeSession_currentSessionId (a := s.adapter) close with hz | heq
          · exact .inl hz
          · exact h.owned.imp heq.trans heq.trans
        · rwa [Adapter.closeSession_present] at ht
      | cons t targets => exact h.removes huse t nofun
    | returned => exact h.callMoves huse ⟨rfl, rfl, rfl⟩ rfl nofun
    | leaving => exact h.callEnds huse hi ⟨rfl, rfl, rfl⟩ rfl
    | slotReferenced => exact absurd rfl hreferenced
    | slotAcquired => exact h.callChecks huse hi rfl ⟨rfl, rfl, rfl⟩ rfl ⟨rfl, rfl, rfl⟩ rfl nofun
    | slotRequested => exact h.callChecks huse hi rfl (.refl _) rfl ⟨rfl, rfl, rfl⟩ rfl nofun
    | slotQueued => exact h.callChecks huse hi rfl (.refl _) rfl ⟨rfl, rfl, rfl⟩ rfl nofun
    | slotSending =>
      unfold System.runCall advance
      dsimp only
      cases hclaim : s.adapter.claimSession .other s.session.sessionId with
      | none => exact h.callMoves huse (.refl _) rfl nofun
      | some a => exact h.claims huse hclaim (.inr hG) nofun
    | slotPosted => exact h.callEnds huse hi ⟨rfl, rfl, rfl⟩ rfl

/-! ## The cleanup takes a step -/

/-- A cleanup moves on, and may change the adapter or the session's counters. -/
theorem Inv.closeStep (h : Inv s) {c : Closer} (hc : s.closer = some c) {a : Adapter}
    {session : Session} {stage : Stage} (hsession : SameSession s.session session)
    (hcount : session.inFlightRequestCount = s.session.inFlightRequestCount)
    (howned : a.OwnedBy s.session.sessionId)
    (htargets : ∀ t, a.present t = true → t < maxTargets)
    (hclear : s.Unused → s.adapter.Clear → a.Clear)
    (hfits : Fits a stage) (hclaim : stage = .claim → ¬ s.Unused)
    (hidle : Stage.drained stage = true → a.Clear ∧ ∀ call ∈ s.calls, call = .slotReferenced) :
    Inv { s with adapter := a, session, closer := some { c with stage } } := by
  have hunused : Unused { s with adapter := a, session, closer := some { c with stage } } →
      s.Unused :=
    Or.imp hsession.miniportHandle.symm.trans hsession.sessionId.symm.trans
  exact {
    count := hcount.trans h.count
    owned := hsession.sessionId.symm ▸ howned
    targets := htargets
    creating := h.creating
    opened := fun ho => absurd hc (by rw [(h.opened ho).1]; nofun)
    inactive := fun _ => hsession.state.symm ▸ h.inactive (by rw [hc]; nofun)
    released := nofun
    unused := fun hn => ⟨hclear (hunused hn) (h.unused (hunused hn)).clear,
      (h.unused (hunused hn)).calls⟩
    stage := fun c' hc' => by
      cases hc'
      exact ⟨hfits, fun hs hn => hclaim hs (hunused hn),
        fun hd => ⟨(hidle hd).1, (hidle hd).2⟩⟩ }

/-- A cleanup that only moves on. -/
theorem Inv.closeMoves (h : Inv s) {c : Closer} (hc : s.closer = some c) {session : Session}
    {stage : Stage} (hsession : SameSession s.session session)
    (hcount : session.inFlightRequestCount = s.session.inFlightRequestCount)
    (hfits : Fits s.adapter stage) (hclaim : stage = .claim → ¬ s.Unused)
    (hidle : Stage.drained stage = true → s.Idle) :
    Inv { s with session, closer := some { c with stage } } :=
  h.closeStep hc hsession hcount h.owned h.targets (fun _ => id) hfits hclaim fun hd =>
    ⟨(hidle hd).clear, (hidle hd).calls⟩

/-- **The next step of a cleanup** whose message is sent. -/
theorem Inv.close (h : Inv s) {c : Closer} (hc : s.closer = some c)
    (hs : s.close true c = some s') : Inv s' := by
  obtain ⟨hfits, hclaim, hidle⟩ := h.stage c hc
  obtain ⟨watchdog, stage⟩ := c
  unfold System.close at hs
  cases stage with
  | beginClose =>
    cases hs
    exact h.closeMoves hc ⟨rfl, rfl, rfl⟩ rfl trivial nofun nofun
  | send =>
    dsimp only at hs
    split at hs
    · next hnot =>
      cases hs
      have hunused : s.Unused := by
        simp only [Bool.not_true, Bool.or_false, Bool.or_eq_true, Bool.not_eq_true',
          decide_eq_true_eq] at hnot
        exact hnot
      exact h.closeMoves hc (.refl _) rfl (h.unused hunused).clear nofun nofun
    · next hsend =>
      cases hs
      refine h.closeMoves hc (.refl _) rfl trivial (fun _ hunused => hsend ?_) nofun
      simpa [Unused] using hunused
  | claim =>
    dsimp only at hs
    have hne : s.session.sessionId ≠ 0 := fun hz => hclaim rfl (.inr hz)
    cases ha : s.adapter.claimSession (.removeAllDisks true) s.session.sessionId with
    | none => exact absurd ha (h.owned.claims hne _)
    | some a =>
      rw [ha] at hs
      cases hs
      obtain ⟨hpresent, -⟩ := Adapter.claimSession_spec ha
      refine h.closeStep hc (.refl _) rfl (h.owned.claim ha)
        (fun t ht => h.targets t (hpresent ▸ ht)) (fun hunused => absurd hunused (hclaim rfl))
        (fun t ht => ?_) nofun nofun
      rw [hpresent]
      by_contra hp
      exact ht (List.mem_range.mpr (h.targets t (by simpa using hp)))
  | deactivate targets =>
    cases targets with
    | nil =>
      cases hs
      exact h.closeMoves hc (.refl _) rfl (fun t => hfits t List.not_mem_nil) nofun nofun
    | cons t targets =>
      cases hs
      refine h.closeStep hc (.refl _) rfl h.owned (fun u hu => h.targets u ?_)
        (fun _ hclear => hclear.setPresent t) (fun u hu => ?_) nofun nofun
      · by_contra hfalse
        rw [Bool.not_eq_true] at hfalse
        rw [Adapter.setPresent_false hfalse] at hu
        cases hu
      · by_cases hut : u = t
        · rw [hut]
          exact Adapter.setPresent_same _ _
        · refine Adapter.setPresent_false (hfits u fun hmem => ?_)
          rcases List.mem_cons.mp hmem with hmem | hmem
          · exact hut hmem
          · exact hu hmem
  | reset =>
    cases hs
    have hclear : (s.adapter.closeSession true).Clear := ⟨rfl, hfits⟩
    exact h.closeStep hc (.refl _) rfl (.inl rfl) (fun t ht => h.targets t ht)
      (fun _ _ => hclear) hclear nofun nofun
  | drain =>
    dsimp only at hs
    split at hs
    · cases hs
    · next hzero =>
      cases hs
      have hcalls : s.calls = [] := List.length_eq_zero_iff.mp (h.count ▸ not_not.mp hzero)
      exact h.closeMoves hc (.refl _) rfl trivial nofun fun _ => ⟨hfits, by rw [hcalls]; nofun⟩
  | stop =>
    cases hs
    exact h.closeMoves hc ⟨rfl, rfl, rfl⟩ rfl trivial nofun fun _ => hidle rfl
  | drainActive =>
    dsimp only at hs
    split at hs
    · cases hs
    · cases hs
      exact h.closeMoves hc (.refl _) rfl trivial nofun fun _ => hidle rfl
  | drainSlots =>
    dsimp only at hs
    split at hs
    · cases hs
    · cases hs
      exact h.closeMoves hc (.refl _) rfl trivial nofun fun _ => hidle rfl
  | closeHandle =>
    have hinactive := h.inactive (by rw [hc]; nofun)
    have hidle := hidle rfl
    dsimp only at hs
    split at hs
    · cases hs
      exact {
        count := h.count
        owned := h.owned
        targets := h.targets
        creating := h.creating
        opened := fun ho => absurd hc (by rw [(h.opened ho).1]; nofun)
        inactive := fun hn => absurd rfl hn
        released := fun _ _ => rfl
        unused := fun _ => ⟨hidle.clear, hidle.calls⟩
        stage := nofun }
    · cases hs
      exact {
        count := h.count
        owned := .inl hidle.clear.session
        targets := h.targets
        creating := h.creating
        opened := fun _ => ⟨rfl, nofun⟩
        inactive := fun hn => absurd rfl hn
        released := fun _ _ => rfl
        unused := fun _ => ⟨hidle.clear, hidle.calls⟩
        stage := nofun }

/-! ## Runs -/

/-- A cleanup starts. -/
theorem Inv.startClose (h : Inv s) (hopened : s.opened = true) (watchdog : Bool)
    (state : SessionState) (hstate : state ≠ .active) :
    Inv { s with
      session := { s.session with state }
      closer := some { watchdog, stage := .beginClose } } where
  count := h.count
  owned := h.owned
  targets := h.targets
  creating := h.creating
  opened ho := absurd (hopened.symm.trans ho) nofun
  inactive _ := hstate
  released := nofun
  unused hn := ⟨(h.unused hn).clear, (h.unused hn).calls⟩
  stage c hc := by
    cases hc
    exact ⟨trivial, nofun, nofun⟩

/-- **One step**, if it is settled. -/
theorem step_inv {a : Action} (h : Inv s) (hG : s.Settled a) (hs : s.step a = some s') :
    Inv s' := by
  cases a with
  | tryOpen sessionId =>
    change s.tryOpen sessionId = some s' at hs
    unfold tryOpen at hs
    split at hs
    · cases hs
    · next hopened =>
      cases hs
      obtain ⟨hcloser, hstate⟩ := h.opened (by simpa using hopened)
      have hidle := h.unused (.inl (h.released hcloser hstate))
      exact {
        count := rfl
        owned := .inl hidle.clear.session
        targets := h.targets
        creating := nofun
        opened := nofun
        inactive := fun hn => absurd hcloser hn
        released := fun _ hn => absurd rfl hn
        unused := fun _ => ⟨hidle.clear, nofun⟩
        stage := fun c hc => absurd hc (by rw [show s.closer = none from hcloser]; nofun) }
  | acquire command =>
    cases hs
    unfold acquire
    split
    · next henter =>
      obtain ⟨huse, hcloser⟩ := h.inUse_of_enter henter
      refine h.callStep huse ⟨rfl, rfl, rfl⟩ ?_ h.owned h.targets (fun t ht => ?_) fun _ _ => id
      · show s.session.inFlightRequestCount + 1 = _
        rw [h.count, List.length_append, List.length_singleton]
      · rcases List.mem_append.mp ht with ht | ht
        · exact h.creating t ht
        · cases List.mem_singleton.mp ht
    · exact h
  | referenceSlot =>
    cases hs
    have hidle : s.Idle → s.referenceSlot.Idle := by
      refine fun hidle => ⟨hidle.clear, fun call hcall => ?_⟩
      rcases List.mem_append.mp hcall with hcall | hcall
      · exact hidle.calls call hcall
      · exact List.mem_singleton.mp hcall
    exact {
      count := by
        show s.session.inFlightRequestCount + 1 = (s.calls ++ [Call.slotReferenced]).length
        rw [h.count, List.length_append, List.length_singleton]
      owned := h.owned
      targets := h.targets
      creating := fun t ht => by
        rcases List.mem_append.mp ht with ht | ht
        · exact h.creating t ht
        · cases List.mem_singleton.mp ht
      opened := h.opened
      inactive := h.inactive
      released := h.released
      unused := fun hn => hidle (h.unused hn)
      stage := fun c hc => ⟨(h.stage c hc).fits, (h.stage c hc).claim,
        fun hd => hidle ((h.stage c hc).idle hd)⟩ }
  | call i =>
    obtain ⟨call, hi, rfl⟩ := Option.map_eq_some_iff.mp hs
    exact h.runCall hi (hG call hi)
  | watchdog =>
    change s.watchdog = some s' at hs
    unfold watchdog at hs
    split at hs
    · next hcond =>
      cases hs
      refine h.startClose ?_ true .locked nofun
      by_contra ho
      have hstate := (h.opened (by simpa using ho)).2
      simp only [enter, Bool.and_eq_true, decide_eq_true_eq] at hcond
      exact hstate hcond.2.1.1
    · cases hs
  | cleanup =>
    change s.cleanup = some s' at hs
    unfold cleanup at hs
    split at hs
    · next hcond =>
      cases hs
      refine h.startClose hcond.1 false _ ?_
      split <;> nofun
    · cases hs
  | close sent =>
    obtain ⟨c, hc, hs⟩ := Option.bind_eq_some_iff.mp hs
    obtain rfl : sent = true := hG
    exact h.close hc hs

/-- **A session that is gone leaves the adapter claimable**, in a run whose steps are settled. -/
theorem claimable_of_settled {as : List Action} (hG : Lib.StepsMeet step Settled init as)
    (h : Lib.runFrom step init as = some s) : Claimable s := by
  have hinv := Lib.run_inv_of_guard (fun _ _ _ h hG hs => step_inv h hG hs) as init s inv_init hG h
  exact fun hhandle => (hinv.unused (.inl hhandle)).clear

/-- The steps of a cleanup from its start to the end of its message. -/
def closeMessage : List Action := List.replicate (maxTargets + 5) (.close true)

/-- A `CreateDisk` has its command buffer when the handle is closed, and reaches the miniport after
the cleanup message. -/
def lateClaimRun : List Action :=
  [.tryOpen 7, .acquire (.createDisk 0), .call 0, .cleanup] ++ closeMessage ++
    [.call 0, .call 0, .call 0, .call 0, .call 0] ++ List.replicate 5 (.close true)

theorem late_claim_keeps_adapter :
    ∃ s, Lib.runFrom step init lateClaimRun = some s ∧ s.opened = false ∧ ¬ Claimable s ∧
      s.adapter.present 0 = true ∧ s.adapter.claimSession .other 8 = none := by
  obtain ⟨s, hs, hp⟩ := Lib.exists_run step init lateClaimRun
    (fun s => decide (s.opened = false ∧ s.session.miniportHandle = false ∧
      s.adapter.present 0 = true ∧ (s.adapter.claimSession .other 8).isNone = true))
    (by decide +kernel)
  obtain ⟨hopened, hhandle, hpresent, hclaim⟩ := of_decide_eq_true hp
  refine ⟨s, hs, hopened, fun h => ?_, hpresent, Option.isNone_iff_eq_none.mp hclaim⟩
  rw [(h hhandle).targets 0] at hpresent
  cases hpresent

/-- A disk is created and a slot posted; the watchdog cleans the session, and then its close. -/
def settledRun : List Action :=
  [.tryOpen 7, .acquire (.createDisk 0), .call 0, .call 0, .call 0, .call 0, .call 0, .call 0,
    .referenceSlot, .call 0, .call 0, .call 0, .call 0, .call 0, .watchdog] ++ closeMessage ++
    [.call 0] ++ List.replicate 5 (.close true) ++ [.cleanup] ++ List.replicate 7 (.close true)

theorem settledRun_claimable :
    ∃ s, Lib.runFrom step init settledRun = some s ∧ Claimable s ∧ s.opened = false := by
  obtain ⟨s, hs, hp⟩ := Lib.exists_run step init settledRun
    (fun s => decide (s.opened = false)) (by decide +kernel)
  have hG : Lib.StepsMeet step Settled init settledRun := by decide +kernel
  exact ⟨s, hs, claimable_of_settled hG hs, of_decide_eq_true hp⟩

end System

end YumeDisk.Kmdf
