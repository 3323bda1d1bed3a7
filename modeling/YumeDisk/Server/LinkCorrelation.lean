import Mathlib.Data.List.Nodup
import YumeDisk.Server.StorerLink

/-!
# Responses and the calls that they are for

* `Correlated`: a response goes to the call whose request id it carries, and to it once; no channel
  is closed twice or sent on when closed; when `Serve` is over no call stays waiting.
* `CorrelationInv`: where the channel of a call is: in the pending map, in the hands of
  `handleResponse`, or filled or closed.
* `link_correlated`: it holds in every run.
-/

namespace YumeDisk.Server

open YumeDisk.Lib

/-! ## Calls with a channel -/

namespace Caller

/-- The call has drawn its request id. -/
def numbered (c : Caller) : Bool := c.kind ≠ .notice && c.stage ≠ .numbering

/-- The call has put its channel in the pending map. -/
def linked (c : Caller) : Bool := c.numbered && c.stage ≠ .adding

/-- The call is to get a response, or to give up. -/
def expects (c : Caller) : Bool :=
  c.linked &&
    match c.stage with
    | .forgetting _ | .returned _ => false
    | _ => true

end Caller

/-- A stage that notices do not have. -/
def CallStage.roundTrip : CallStage → Bool
  | .numbering | .adding | .waiting | .forgetting _ => true
  | _ => false

/-- The request has been written, at least in part. -/
def CallStage.late : CallStage → Bool
  | .payload | .waiting => true
  | .unlocking written => written
  | _ => false

namespace StorerLink

/-! ## Statement -/

structure Correlated (s : StorerLink) : Prop where
  /-- Response `n` goes to a call whose id it carries, -/
  own : ∀ n t, (n, t) ∈ s.delivered →
    ∃ c, s.callers t = some c ∧ s.inbound[n]? = some c.header.requestID
  /-- which is the call that returns it, -/
  returned : ∀ t c n, s.callers t = some c → c.stage = .returned (.response n) →
    (n, t) ∈ s.delivered
  /-- and goes there once. -/
  once : (s.delivered.map Prod.fst).Nodup
  notPanicked : s.panicked = false
  /-- `handleResponse` is not blocked by a full channel. -/
  unblocked : ∀ t n, s.serve = .sending t n → (s.send t n).isSome = true
  /-- When `Serve` is over, a waiting call can return. -/
  released : s.serve = .finished → ∀ t c, s.callers t = some c → c.stage = .waiting →
    (s.advance t).isSome = true

/-! ## The invariant -/

/-- `closePending` is done. -/
def swept (s : StorerLink) : Prop := s.serve = .notifying ∨ s.serve = .finished

/-- The deferred `Close` of `Serve` is done. -/
def connClosed (s : StorerLink) : Prop :=
  s.serve = .disconnectingRoutes ∨ s.serve = .removing ∨ s.serve = .sweeping ∨ s.swept


structure CorrelationInv (s : StorerLink) : Prop where
  id_le : ∀ t c, s.callers t = some c → c.numbered = true → c.header.requestID ≤ s.nextRequestID
  id_inj : ∀ t u c d, s.callers t = some c → s.callers u = some d → c.numbered = true →
    d.numbered = true → c.header.requestID = d.header.requestID → t = u
  kind : ∀ t c, s.callers t = some c → c.stage.roundTrip = true → c.kind ≠ .notice
  pendingNodup : (s.pending.map Prod.fst).Nodup
  pending : ∀ id t, (id, t) ∈ s.pending → s.chans t = {} ∧
    ∃ c, s.callers t = some c ∧ c.linked = true ∧ c.header.requestID = id
  sending : ∀ t n, s.serve = .sending t n → s.chans t = {} ∧ n + 1 = s.inbound.length ∧
    (∀ id, (id, t) ∉ s.pending) ∧ (∀ u, (n, u) ∉ s.delivered) ∧
    (∀ u, (s.chans u).buffer ≠ some n) ∧
    ∃ c, s.callers t = some c ∧ c.linked = true ∧ s.inbound[n]? = some c.header.requestID
  closingChan : ∀ t, s.serve = .closingChan t → (s.chans t).closed = false ∧
    (∀ id, (id, t) ∉ s.pending) ∧ ∃ c, s.callers t = some c ∧ c.linked = true
  chan : ∀ t, s.chans t ≠ {} → ∃ c, s.callers t = some c ∧ c.linked = true
  buffer : ∀ t n, (s.chans t).buffer = some n → (∀ u, (n, u) ∉ s.delivered) ∧
    (∀ u, (s.chans u).buffer = some n → u = t) ∧
    ∃ c, s.callers t = some c ∧ c.linked = true ∧ s.inbound[n]? = some c.header.requestID
  expects : ∀ t c, s.callers t = some c → c.expects = true →
    (c.header.requestID, t) ∈ s.pending ∨ (∃ n, s.serve = .sending t n) ∨ s.chans t ≠ {}
  closed : s.connClosed → s.connOpen = false
  late : s.swept → ∀ id t, (id, t) ∈ s.pending → ∀ c, s.callers t = some c → c.stage.late = false
  delivered : ∀ n t, (n, t) ∈ s.delivered →
    ∃ c, s.callers t = some c ∧ c.linked = true ∧ c.stage = .returned (.response n) ∧
      s.inbound[n]? = some c.header.requestID
  returned : ∀ t c n, s.callers t = some c → c.stage = .returned (.response n) →
    (n, t) ∈ s.delivered
  once : (s.delivered.map Prod.fst).Nodup
  notPanicked : s.panicked = false

namespace CorrelationInv

variable {s s' : StorerLink} {t : Nat} {c c' : Caller}

theorem correlated (h : CorrelationInv s) : s.Correlated where
  own n t hmem := by
    obtain ⟨c, hc, -, -, hid⟩ := h.delivered n t hmem
    exact ⟨c, hc, hid⟩
  returned := h.returned
  once := h.once
  notPanicked := h.notPanicked
  unblocked t n hs := by
    obtain ⟨hchan, -⟩ := h.sending t n hs
    simp [send, hchan]
  released hs t c hc hst := by
    have hexp : c.expects = true := by
      simp [Caller.expects, Caller.linked, Caller.numbered, hst, h.kind t c hc (by rw [hst]; rfl)]
    have hchan : s.chans t ≠ {} := by
      rcases h.expects t c hc hexp with hp | ⟨n, hn⟩ | hchan
      · have := h.late (.inr hs) _ t hp c hc
        rw [hst] at this
        cases this
      · rw [hs] at hn
        cases hn
      · exact hchan
    unfold advance
    rw [hc, Option.bind_some]
    simp only [hst]
    obtain ⟨⟨buffer, closed⟩, hch⟩ : ∃ ch, s.chans t = ch := ⟨_, rfl⟩
    rw [hch] at hchan ⊢
    cases buffer with
    | some n => rfl
    | none =>
      cases closed with
      | true => rfl
      | false => exact absurd rfl hchan

/-! ## Steps of a call -/

/-- A call moves on, and no channel does. -/
theorem move_inv (h : CorrelationInv s) (hc : s.callers t = some c)
    (hcallers : s'.callers = Function.update s.callers t (some c'))
    (hserve : s'.serve = s.serve) (hopen : s'.connOpen = s.connOpen)
    (hnext : s'.nextRequestID = s.nextRequestID) (hpending : s'.pending = s.pending)
    (hchans : s'.chans = s.chans) (hpanic : s'.panicked = s.panicked)
    (hinbound : s'.inbound = s.inbound) (hdelivered : s'.delivered = s.delivered)
    (hid : c'.header.requestID = c.header.requestID) (hnum : c'.numbered = c.numbered)
    (hlinked : c'.linked = c.linked) (hexp : c'.expects = true → c.expects = true)
    (hkind : c'.stage.roundTrip = true → c'.kind ≠ .notice)
    (hlate : s.connOpen = false → c.stage.late = false → c'.stage.late = false)
    (hret : ∀ n, c.stage ≠ .returned (.response n))
    (hret' : ∀ n, c'.stage ≠ .returned (.response n)) : CorrelationInv s' := by
  have hself : s'.callers t = some c' := by rw [hcallers, Function.update_self]
  have hother : ∀ u, u ≠ t → s'.callers u = s.callers u := fun u hu => by
    rw [hcallers, Function.update_of_ne hu]
  -- every call of the new state stands for one of the old state
  have hback : ∀ u d, s'.callers u = some d → ∃ e, s.callers u = some e ∧
      d.header.requestID = e.header.requestID ∧ d.numbered = e.numbered ∧ d.linked = e.linked ∧
      (d.expects = true → e.expects = true) := by
    intro u d hd
    by_cases hu : u = t
    · subst hu
      obtain rfl := Option.some.inj (hself.symm.trans hd)
      exact ⟨c, hc, hid, hnum, hlinked, hexp⟩
    · exact ⟨d, (hother u hu).symm.trans hd, rfl, rfl, rfl, id⟩
  have hforth : ∀ u d, s.callers u = some d → ∃ e, s'.callers u = some e ∧
      e.header.requestID = d.header.requestID ∧ e.linked = d.linked := by
    intro u d hd
    by_cases hu : u = t
    · subst hu
      obtain rfl := Option.some.inj (hc.symm.trans hd)
      exact ⟨c', hself, hid, hlinked⟩
    · exact ⟨d, (hother u hu).trans hd, rfl, rfl⟩
  have hswept : s'.swept → s.swept := fun hs => by rwa [swept, hserve] at hs
  refine ⟨fun u d hd hn => ?_, fun u v d e hd he hn hm heq => ?_, fun u d hd hst => ?_, ?_,
    fun id u hu => ?_, fun u n hs => ?_, fun u hs => ?_, fun u hu => ?_, fun u n hu => ?_,
    fun u d hd he => ?_, fun hs => ?_, fun hs id u hu d hd => ?_, fun n u hu => ?_,
    fun u d n hd hst => ?_, ?_, hpanic.trans h.notPanicked⟩
  · obtain ⟨e, he, h₁, h₂, -, -⟩ := hback u d hd
    rw [h₁, hnext]
    exact h.id_le u e he (h₂ ▸ hn)
  · obtain ⟨d', hd', h₁, h₂, -, -⟩ := hback u d hd
    obtain ⟨e', he', h₃, h₄, -, -⟩ := hback v e he
    exact h.id_inj u v d' e' hd' he' (h₂ ▸ hn) (h₄ ▸ hm) (h₁ ▸ h₃ ▸ heq)
  · by_cases hu : u = t
    · subst hu
      obtain rfl := Option.some.inj (hself.symm.trans hd)
      exact hkind hst
    · exact h.kind u d ((hother u hu).symm.trans hd) hst
  · rw [hpending]
    exact h.pendingNodup
  · rw [hpending] at hu
    obtain ⟨hch, d, hd, hl, hid'⟩ := h.pending id u hu
    obtain ⟨e, he, h₁, h₂⟩ := hforth u d hd
    exact ⟨by rw [hchans, hch], e, he, h₂.trans hl, h₁.trans hid'⟩
  · rw [hserve] at hs
    obtain ⟨hch, hlen, hp, hdel, hbuf, d, hd, hl, hid'⟩ := h.sending u n hs
    obtain ⟨e, he, h₁, h₂⟩ := hforth u d hd
    rw [hchans, hpending, hinbound, hdelivered]
    exact ⟨hch, hlen, hp, hdel, hbuf, e, he, h₂.trans hl, h₁ ▸ hid'⟩
  · rw [hserve] at hs
    obtain ⟨hcl, hp, d, hd, hl⟩ := h.closingChan u hs
    obtain ⟨e, he, -, h₂⟩ := hforth u d hd
    rw [hchans, hpending]
    exact ⟨hcl, hp, e, he, h₂.trans hl⟩
  · rw [hchans] at hu
    obtain ⟨d, hd, hl⟩ := h.chan u hu
    obtain ⟨e, he, -, h₂⟩ := hforth u d hd
    exact ⟨e, he, h₂.trans hl⟩
  · rw [hchans] at hu
    obtain ⟨hdel, hone, d, hd, hl, hid'⟩ := h.buffer u n hu
    obtain ⟨e, he, h₁, h₂⟩ := hforth u d hd
    rw [hchans, hdelivered, hinbound]
    exact ⟨hdel, hone, e, he, h₂.trans hl, h₁ ▸ hid'⟩
  · obtain ⟨e, he', h₁, -, -, h₄⟩ := hback u d hd
    rw [h₁, hpending, hserve, hchans]
    exact h.expects u e he' (h₄ he)
  · rw [hopen]
    refine h.closed ?_
    rwa [connClosed, swept, hserve] at hs
  · rw [hpending] at hu
    by_cases hut : u = t
    · subst hut
      obtain rfl := Option.some.inj (hself.symm.trans hd)
      exact hlate (h.closed (.inr (.inr (.inr (hswept hs))))) (h.late (hswept hs) id u hu c hc)
    · exact h.late (hswept hs) id u hu d ((hother u hut).symm.trans hd)
  · rw [hdelivered] at hu
    obtain ⟨d, hd, hl, hst, hid'⟩ := h.delivered n u hu
    by_cases hut : u = t
    · subst hut
      obtain rfl := Option.some.inj (hc.symm.trans hd)
      exact absurd hst (hret n)
    · rw [hinbound]
      exact ⟨d, (hother u hut).trans hd, hl, hst, hid'⟩
  · rw [hdelivered]
    by_cases hut : u = t
    · subst hut
      obtain rfl := Option.some.inj (hself.symm.trans hd)
      exact absurd hst (hret' n)
    · exact h.returned u d n ((hother u hut).symm.trans hd) hst
  · rw [hdelivered]
    exact h.once

theorem chan_of_unlinked (h : CorrelationInv s)
    (ht : ∀ c, s.callers t = some c → c.linked = false) : s.chans t = {} := by
  by_contra hne
  obtain ⟨c, hc, hl⟩ := h.chan t hne
  rw [ht c hc] at hl
  cases hl

theorem pending_of_unlinked (h : CorrelationInv s)
    (ht : ∀ c, s.callers t = some c → c.linked = false) (id : Nat) : (id, t) ∉ s.pending := by
  intro hmem
  obtain ⟨-, c, hc, hl, -⟩ := h.pending id t hmem
  rw [ht c hc] at hl
  cases hl

/-- A call without a channel begins, or draws its id. -/
theorem unlinked_inv (h : CorrelationInv s) (ht : ∀ c, s.callers t = some c → c.linked = false)
    (hcallers : s'.callers = Function.update s.callers t (some c'))
    (hserve : s'.serve = s.serve) (hopen : s'.connOpen = s.connOpen)
    (hnext : s.nextRequestID ≤ s'.nextRequestID) (hpending : s'.pending = s.pending)
    (hchans : s'.chans = s.chans) (hpanic : s'.panicked = s.panicked)
    (hinbound : s'.inbound = s.inbound) (hdelivered : s'.delivered = s.delivered)
    (hid : c'.numbered = true →
      s.nextRequestID < c'.header.requestID ∧ c'.header.requestID ≤ s'.nextRequestID)
    (hl : c'.linked = false) (hkind : c'.stage.roundTrip = true → c'.kind ≠ .notice)
    (hret : ∀ n, c'.stage ≠ .returned (.response n)) : CorrelationInv s' := by
  have hself : s'.callers t = some c' := by rw [hcallers, Function.update_self]
  have hother : ∀ u, u ≠ t → s'.callers u = s.callers u := fun u hu => by
    rw [hcallers, Function.update_of_ne hu]
  have hforth : ∀ u d, s.callers u = some d → d.linked = true → s'.callers u = some d := by
    intro u d hd hdl
    refine (hother u fun hu => ?_).trans hd
    subst hu
    rw [ht d hd] at hdl
    cases hdl
  have hback : ∀ u d, s'.callers u = some d → d = c' ∧ u = t ∨ s.callers u = some d ∧ u ≠ t := by
    intro u d hd
    by_cases hu : u = t
    · subst hu
      exact .inl ⟨(Option.some.inj (hself.symm.trans hd)).symm, rfl⟩
    · exact .inr ⟨(hother u hu).symm.trans hd, hu⟩
  refine ⟨fun u d hd hn => ?_, fun u v d e hd he hn hm heq => ?_, fun u d hd hst => ?_, ?_,
    fun id u hu => ?_, fun u n hs => ?_, fun u hs => ?_, fun u hu => ?_, fun u n hu => ?_,
    fun u d hd he => ?_, fun hs => ?_, fun hs id u hu d hd => ?_, fun n u hu => ?_,
    fun u d n hd hst => ?_, ?_, hpanic.trans h.notPanicked⟩
  · rcases hback u d hd with ⟨rfl, -⟩ | ⟨hd, -⟩
    · exact (hid hn).2
    · exact Nat.le_trans (h.id_le u d hd hn) hnext
  · rcases hback u d hd with ⟨rfl, rfl⟩ | ⟨hd, -⟩ <;> rcases hback v e he with ⟨rfl, rfl⟩ | ⟨he, -⟩
    · rfl
    · have := h.id_le v e he hm
      have := (hid hn).1
      omega
    · have := h.id_le u d hd hn
      have := (hid hm).1
      omega
    · exact h.id_inj u v d e hd he hn hm heq
  · rcases hback u d hd with ⟨rfl, -⟩ | ⟨hd, -⟩
    · exact hkind hst
    · exact h.kind u d hd hst
  · rw [hpending]
    exact h.pendingNodup
  · rw [hpending] at hu
    obtain ⟨hch, d, hd, hdl, hid'⟩ := h.pending id u hu
    exact ⟨by rw [hchans, hch], d, hforth u d hd hdl, hdl, hid'⟩
  · rw [hserve] at hs
    obtain ⟨hch, hlen, hp, hdel, hbuf, d, hd, hdl, hid'⟩ := h.sending u n hs
    rw [hchans, hpending, hinbound, hdelivered]
    exact ⟨hch, hlen, hp, hdel, hbuf, d, hforth u d hd hdl, hdl, hid'⟩
  · rw [hserve] at hs
    obtain ⟨hcl, hp, d, hd, hdl⟩ := h.closingChan u hs
    rw [hchans, hpending]
    exact ⟨hcl, hp, d, hforth u d hd hdl, hdl⟩
  · rw [hchans] at hu
    obtain ⟨d, hd, hdl⟩ := h.chan u hu
    exact ⟨d, hforth u d hd hdl, hdl⟩
  · rw [hchans] at hu
    obtain ⟨hdel, hone, d, hd, hdl, hid'⟩ := h.buffer u n hu
    rw [hchans, hdelivered, hinbound]
    exact ⟨hdel, hone, d, hforth u d hd hdl, hdl, hid'⟩
  · rw [hpending, hserve, hchans]
    rcases hback u d hd with ⟨rfl, -⟩ | ⟨hd, -⟩
    · rw [Caller.expects, hl] at he
      cases he
    · exact h.expects u d hd he
  · rw [hopen]
    refine h.closed ?_
    rwa [connClosed, swept, hserve] at hs
  · rw [hpending] at hu
    rcases hback u d hd with ⟨rfl, rfl⟩ | ⟨hd, -⟩
    · exact absurd hu (h.pending_of_unlinked ht id)
    · exact h.late (by rwa [swept, hserve] at hs) id u hu d hd
  · rw [hdelivered] at hu
    obtain ⟨d, hd, hdl, hst, hid'⟩ := h.delivered n u hu
    rw [hinbound]
    exact ⟨d, hforth u d hd hdl, hdl, hst, hid'⟩
  · rw [hdelivered]
    rcases hback u d hd with ⟨rfl, -⟩ | ⟨hd, -⟩
    · exact absurd hst (hret n)
    · exact h.returned u d n hd hst
  · rw [hdelivered]
    exact h.once

/-- A call puts its channel in the pending map. -/
theorem add_inv (h : CorrelationInv s) (hc : s.callers t = some c) (hst : c.stage = .adding) :
    CorrelationInv { s.setStage t c .locking with
      pending := (c.header.requestID, t) :: (s.deletePending c.header.requestID).pending } := by
  have hkind := h.kind t c hc (by rw [hst]; rfl)
  have hunl : ∀ d, s.callers t = some d → d.linked = false := fun d hd => by
    obtain rfl := Option.some.inj (hc.symm.trans hd)
    simp [Caller.linked, hst]
  have hnum : c.numbered = true := by simp [Caller.numbered, hst, hkind]
  have hfresh : ∀ u, (c.header.requestID, u) ∉ s.pending := by
    intro u hu
    obtain ⟨-, d, hd, hdl, hid⟩ := h.pending _ u hu
    obtain rfl := h.id_inj u t d c hd hc (by simpa using (Bool.and_eq_true_iff.mp hdl).1) hnum hid
    exact h.pending_of_unlinked hunl _ hu
  have hdelete : (s.deletePending c.header.requestID).pending = s.pending := by
    refine List.filter_eq_self.mpr fun p hp => decide_eq_true fun heq => ?_
    exact hfresh p.2 (heq ▸ hp)
  rw [hdelete]
  have hself := setStage_self s t c .locking
  have hother : ∀ u, u ≠ t → (s.setStage t c .locking).callers u = s.callers u :=
    fun u hu => setStage_of_ne s hu
  have hforth : ∀ u d, s.callers u = some d → d.linked = true →
      (s.setStage t c .locking).callers u = some d := by
    intro u d hd hdl
    refine (hother u fun hu => ?_).trans hd
    subst hu
    rw [hunl d hd] at hdl
    cases hdl
  have hback : ∀ u d, (s.setStage t c .locking).callers u = some d →
      d = { c with stage := .locking } ∧ u = t ∨ s.callers u = some d ∧ u ≠ t := by
    intro u d hd
    by_cases hu : u = t
    · subst hu
      exact .inl ⟨(Option.some.inj (hself.symm.trans hd)).symm, rfl⟩
    · exact .inr ⟨(hother u hu).symm.trans hd, hu⟩
  have hnot : ∀ u d, s.callers u = some d → d.linked = true → u ≠ t := by
    rintro u d hd hdl rfl
    rw [hunl d hd] at hdl
    cases hdl
  refine ⟨fun u d hd hn => ?_, fun u v d e hd he hn hm heq => ?_, fun u d hd hst' => ?_, ?_,
    fun id u hu => ?_, fun u n hs => ?_, fun u hs => ?_, fun u hu => ?_, fun u n hu => ?_,
    fun u d hd he => ?_, h.closed, fun hs id u hu d hd => ?_, fun n u hu => ?_,
    fun u d n hd hst' => ?_, h.once, h.notPanicked⟩
  · rcases hback u d hd with ⟨rfl, -⟩ | ⟨hd, -⟩
    · exact h.id_le t c hc hnum
    · exact h.id_le u d hd hn
  · rcases hback u d hd with ⟨rfl, rfl⟩ | ⟨hd', -⟩ <;>
      rcases hback v e he with ⟨rfl, rfl⟩ | ⟨he', -⟩
    · rfl
    · exact h.id_inj u v c e hc he' hnum hm heq
    · exact h.id_inj u v d c hd' hc hn hnum heq
    · exact h.id_inj u v d e hd' he' hn hm heq
  · rcases hback u d hd with ⟨rfl, -⟩ | ⟨hd, -⟩
    · cases hst'
    · exact h.kind u d hd hst'
  · refine List.nodup_cons.mpr ⟨fun hmem => ?_, h.pendingNodup⟩
    obtain ⟨⟨id, u⟩, hu, rfl⟩ := List.mem_map.mp hmem
    exact hfresh u hu
  · rcases List.mem_cons.mp hu with heq | hu
    · cases heq
      refine ⟨h.chan_of_unlinked hunl, _, hself, ?_, rfl⟩
      simp [Caller.linked, Caller.numbered, hkind]
    · obtain ⟨hch, d, hd, hdl, hid⟩ := h.pending id u hu
      exact ⟨hch, d, hforth u d hd hdl, hdl, hid⟩
  · obtain ⟨hch, hlen, hp, hdel, hbuf, d, hd, hdl, hid⟩ := h.sending u n hs
    refine ⟨hch, hlen, fun id hmem => ?_, hdel, hbuf, d, hforth u d hd hdl, hdl, hid⟩
    rcases List.mem_cons.mp hmem with heq | hmem
    · exact hnot u d hd hdl (Prod.mk.inj heq).2
    · exact hp id hmem
  · obtain ⟨hcl, hp, d, hd, hdl⟩ := h.closingChan u hs
    refine ⟨hcl, fun id hmem => ?_, d, hforth u d hd hdl, hdl⟩
    rcases List.mem_cons.mp hmem with heq | hmem
    · exact hnot u d hd hdl (Prod.mk.inj heq).2
    · exact hp id hmem
  · obtain ⟨d, hd, hdl⟩ := h.chan u hu
    exact ⟨d, hforth u d hd hdl, hdl⟩
  · obtain ⟨hdel, hone, d, hd, hdl, hid⟩ := h.buffer u n hu
    exact ⟨hdel, hone, d, hforth u d hd hdl, hdl, hid⟩
  · rcases hback u d hd with ⟨rfl, rfl⟩ | ⟨hd, -⟩
    · exact .inl (List.mem_cons_self ..)
    · exact (h.expects u d hd he).imp (List.mem_cons_of_mem _) id
  · rcases hback u d hd with ⟨rfl, rfl⟩ | ⟨hd, hne⟩
    · rfl
    · rcases List.mem_cons.mp hu with heq | hu
      · exact absurd (Prod.mk.inj heq).2 hne
      · exact h.late hs id u hu d hd
  · obtain ⟨d, hd, hdl, hst', hid⟩ := h.delivered n u hu
    exact ⟨d, hforth u d hd hdl, hdl, hst', hid⟩
  · rcases hback u d hd with ⟨rfl, -⟩ | ⟨hd, -⟩
    · cases hst'
    · exact h.returned u d n hd hst'

/-- A call takes its response from the channel. -/
theorem receive_inv (h : CorrelationInv s) (hc : s.callers t = some c) (hst : c.stage = .waiting)
    {n : Nat} (hbuf : (s.chans t).buffer = some n) :
    CorrelationInv { s.setStage t c (.returned (.response n)) with
      chans := Function.update s.chans t { s.chans t with buffer := none }
      delivered := s.delivered ++ [(n, t)] } := by
  obtain ⟨hfresh, hone, c', hc', hl, hid⟩ := h.buffer t n hbuf
  obtain rfl := Option.some.inj (hc.symm.trans hc')
  have hself := setStage_self s t c (.returned (.response n))
  have hother : ∀ u, u ≠ t → (s.setStage t c (.returned (.response n))).callers u = s.callers u :=
    fun u hu => setStage_of_ne s hu
  have hl' : Caller.linked { c with stage := .returned (.response n) } = true := by
    simpa [Caller.linked, Caller.numbered, hst] using hl
  have hforth : ∀ u d, s.callers u = some d → d.linked = true →
      ∃ e, (s.setStage t c (.returned (.response n))).callers u = some e ∧ e.linked = true ∧
        e.header.requestID = d.header.requestID := by
    intro u d hd hdl
    by_cases hu : u = t
    · subst hu
      obtain rfl := Option.some.inj (hc.symm.trans hd)
      exact ⟨_, hself, hl', rfl⟩
    · exact ⟨d, (hother u hu).trans hd, hdl, rfl⟩
  have hback : ∀ u d, (s.setStage t c (.returned (.response n))).callers u = some d →
      ∃ e, s.callers u = some e ∧ d.header.requestID = e.header.requestID ∧
        (d.numbered = true → e.numbered = true) ∧ (u ≠ t → d = e) ∧
          (u = t → d.stage = .returned (.response n)) := by
    intro u d hd
    by_cases hu : u = t
    · subst hu
      obtain rfl := Option.some.inj (hself.symm.trans hd)
      exact ⟨c, hc, rfl, fun _ => (Bool.and_eq_true_iff.mp hl).1, fun hu => absurd rfl hu,
        fun _ => rfl⟩
    · exact ⟨d, (hother u hu).symm.trans hd, rfl, id, fun _ => rfl, fun h => absurd h hu⟩
  have hne : ∀ u, s.chans u = {} → u ≠ t := by
    rintro u hu rfl
    rw [hu] at hbuf
    cases hbuf
  have hchan : ∀ u, u ≠ t →
      Function.update s.chans t { s.chans t with buffer := none } u = s.chans u :=
    fun u hu => Function.update_of_ne hu ..
  have hmem : ∀ m u, (m, u) ∈ s.delivered ++ [(n, t)] → (m, u) ∈ s.delivered ∨ m = n ∧ u = t := by
    intro m u hu
    rcases List.mem_append.mp hu with hu | hu
    · exact .inl hu
    · exact .inr (Prod.mk.inj (List.mem_singleton.mp hu))
  refine ⟨fun u d hd hn => ?_, fun u v d e hd he hn hm heq => ?_, fun u d hd hst' => ?_,
    h.pendingNodup, fun id u hu => ?_, fun u m hs => ?_, fun u hs => ?_, fun u hu => ?_,
    fun u m hu => ?_, fun u d hd he => ?_, h.closed, fun hs id u hu d hd => ?_,
    fun m u hu => ?_, fun u d m hd hst' => ?_, ?_, h.notPanicked⟩
  · obtain ⟨e, he, hid', hnum, -⟩ := hback u d hd
    rw [hid']
    exact h.id_le u e he (hnum hn)
  · obtain ⟨d', hd', h₁, h₂, -⟩ := hback u d hd
    obtain ⟨e', he', h₃, h₄, -⟩ := hback v e he
    exact h.id_inj u v d' e' hd' he' (h₂ hn) (h₄ hm) (h₁ ▸ h₃ ▸ heq)
  · obtain ⟨e, he, -, -, hsame, hstage⟩ := hback u d hd
    by_cases hu : u = t
    · rw [hstage hu] at hst'
      cases hst'
    · exact h.kind u d (hsame hu ▸ he) hst'
  · obtain ⟨hch, d, hd, hdl, hid'⟩ := h.pending id u hu
    obtain ⟨e, he, hel, heid⟩ := hforth u d hd hdl
    exact ⟨(hchan u (hne u hch)).trans hch, e, he, hel, heid.trans hid'⟩
  · obtain ⟨hch, hlen, hp, hdel, hb, d, hd, hdl, hid'⟩ := h.sending u m hs
    obtain ⟨e, he, hel, heid⟩ := hforth u d hd hdl
    refine ⟨(hchan u (hne u hch)).trans hch, hlen, hp, fun v hv => ?_, fun v hv => ?_, e, he, hel,
      heid ▸ hid'⟩
    · rcases hmem m v hv with hv | ⟨rfl, -⟩
      · exact hdel v hv
      · exact hb t hbuf
    · by_cases hvt : v = t
      · subst hvt
        simp at hv
      · exact hb v (by rw [← hchan v hvt]; exact hv)
  · obtain ⟨hcl, hp, d, hd, hdl⟩ := h.closingChan u hs
    obtain ⟨e, he, hel, -⟩ := hforth u d hd hdl
    refine ⟨?_, hp, e, he, hel⟩
    by_cases hut : u = t
    · subst hut
      simpa using hcl
    · rw [← hcl]
      exact congrArg Chan.closed (hchan u hut)
  · by_cases hut : u = t
    · subst hut
      exact ⟨_, hself, hl'⟩
    · obtain ⟨d, hd, hdl⟩ := h.chan u (by rw [← hchan u hut]; exact hu)
      exact ⟨d, (hother u hut).trans hd, hdl⟩
  · by_cases hut : u = t
    · subst hut
      simp at hu
    · have hu' : (s.chans u).buffer = some m := by rw [← hchan u hut]; exact hu
      obtain ⟨hdel, hone', d, hd, hdl, hid'⟩ := h.buffer u m hu'
      refine ⟨fun v hv => ?_, fun v hv => ?_, d, (hother u hut).trans hd, hdl, hid'⟩
      · rcases hmem m v hv with hv | ⟨rfl, -⟩
        · exact hdel v hv
        · exact hut (hone u hu')
      · by_cases hvt : v = t
        · subst hvt
          simp at hv
        · exact hone' v (by rw [← hchan v hvt]; exact hv)
  · obtain ⟨e, he', -, -, hsame, hstage⟩ := hback u d hd
    by_cases hut : u = t
    · simp [Caller.expects, hstage hut] at he
    · rcases h.expects u d (hsame hut ▸ he') he with hp | hs | hch
      · exact .inl hp
      · exact .inr (.inl hs)
      · exact .inr (.inr (by rw [← hchan u hut] at hch; exact hch))
  · obtain ⟨e, he', -, -, hsame, hstage⟩ := hback u d hd
    by_cases hut : u = t
    · rw [hstage hut]
      rfl
    · exact h.late hs id u hu d (hsame hut ▸ he')
  · rcases hmem m u hu with hu | ⟨rfl, rfl⟩
    · obtain ⟨d, hd, hdl, hst', hid'⟩ := h.delivered m u hu
      by_cases hut : u = t
      · subst hut
        obtain rfl := Option.some.inj (hc.symm.trans hd)
        rw [hst] at hst'
        cases hst'
      · exact ⟨d, (hother u hut).trans hd, hdl, hst', hid'⟩
    · exact ⟨_, hself, hl', rfl, hid⟩
  · obtain ⟨e, he, -, -, hsame, hstage⟩ := hback u d hd
    by_cases hut : u = t
    · rw [hstage hut] at hst'
      cases hst'
      exact List.mem_append_right _ (by rw [hut]; exact List.mem_singleton_self _)
    · exact List.mem_append_left _ (h.returned u d m (hsame hut ▸ he) hst')
  · show ((s.delivered ++ [(n, t)]).map Prod.fst).Nodup
    rw [List.map_append]
    refine List.nodup_append.mpr ⟨h.once, by simp, fun a ha b hb => ?_⟩
    obtain ⟨⟨m, u⟩, hu, rfl⟩ := List.mem_map.mp ha
    obtain rfl : b = n := by simpa using hb
    rintro rfl
    exact hfresh u hu

/-! ## Steps that move no call -/

theorem getElem?_of_prefix {l l' : List Nat} (h : l <+: l') {n x : Nat} (hx : l[n]? = some x) :
    l'[n]? = some x := by
  obtain ⟨r, rfl⟩ := h
  rw [List.getElem?_append_left (List.getElem?_eq_some_iff.mp hx).1]
  exact hx

/-- A step of the loop, or the end of a pending entry. -/
theorem serve_inv (h : CorrelationInv s) (hcallers : s'.callers = s.callers)
    (hnext : s'.nextRequestID = s.nextRequestID) (hdelivered : s'.delivered = s.delivered)
    (hpanic : s'.panicked = false) (hpending : s'.pending.Sublist s.pending)
    (hinbound : s.inbound <+: s'.inbound)
    (hchans : ∀ id t, (id, t) ∈ s'.pending → s'.chans t = {})
    (hsending : ∀ t n, s'.serve = .sending t n → s'.chans t = {} ∧ n + 1 = s'.inbound.length ∧
      (∀ id, (id, t) ∉ s'.pending) ∧ (∀ u, (n, u) ∉ s.delivered) ∧
      (∀ u, (s'.chans u).buffer ≠ some n) ∧
      ∃ c, s.callers t = some c ∧ c.linked = true ∧ s'.inbound[n]? = some c.header.requestID)
    (hclosing : ∀ t, s'.serve = .closingChan t → (s'.chans t).closed = false ∧
      (∀ id, (id, t) ∉ s'.pending) ∧ ∃ c, s.callers t = some c ∧ c.linked = true)
    (hchan : ∀ t, s'.chans t ≠ {} → ∃ c, s.callers t = some c ∧ c.linked = true)
    (hbuffer : ∀ t n, (s'.chans t).buffer = some n → (∀ u, (n, u) ∉ s.delivered) ∧
      (∀ u, (s'.chans u).buffer = some n → u = t) ∧
      ∃ c, s.callers t = some c ∧ c.linked = true ∧ s'.inbound[n]? = some c.header.requestID)
    (hexpects : ∀ t c, s.callers t = some c → c.expects = true →
      (c.header.requestID, t) ∈ s'.pending ∨ (∃ n, s'.serve = .sending t n) ∨ s'.chans t ≠ {})
    (hclosed : s'.connClosed → s'.connOpen = false)
    (hlate : s'.swept → ∀ id t, (id, t) ∈ s'.pending → ∀ c, s.callers t = some c →
      c.stage.late = false) : CorrelationInv s' := by
  refine ⟨?_, ?_, ?_, ?_, fun id t ht => ?_, ?_, ?_, ?_, ?_, ?_, hclosed, ?_, fun n t ht => ?_, ?_, ?_,
    hpanic⟩
  · rw [hcallers, hnext]
    exact h.id_le
  · rw [hcallers]
    exact h.id_inj
  · rw [hcallers]
    exact h.kind
  · exact (hpending.map Prod.fst).nodup h.pendingNodup
  · rw [hcallers]
    exact ⟨hchans id t ht, (h.pending id t (hpending.subset ht)).2⟩
  · rw [hcallers, hdelivered]
    exact hsending
  · rw [hcallers]
    exact hclosing
  · rw [hcallers]
    exact hchan
  · rw [hcallers, hdelivered]
    exact hbuffer
  · rw [hcallers]
    exact hexpects
  · rw [hcallers]
    exact hlate
  · rw [hdelivered] at ht
    obtain ⟨c, hc, hl, hst, hid⟩ := h.delivered n t ht
    rw [hcallers]
    exact ⟨c, hc, hl, hst, getElem?_of_prefix hinbound hid⟩
  · rw [hcallers, hdelivered]
    exact h.returned
  · rw [hdelivered]
    exact h.once

/-- The loop moves on, and no channel is in its hands. -/
theorem quiet_inv (h : CorrelationInv s) (hcallers : s'.callers = s.callers)
    (hnext : s'.nextRequestID = s.nextRequestID) (hdelivered : s'.delivered = s.delivered)
    (hpanic : s'.panicked = s.panicked) (hpending : s'.pending = s.pending)
    (hinbound : s'.inbound = s.inbound) (hchans : s'.chans = s.chans)
    (hfrom : ∀ t n, s.serve ≠ .sending t n)
    (hto : ∀ t n, s'.serve ≠ .sending t n ∧ s'.serve ≠ .closingChan t)
    (hclosed : s'.connClosed → s'.connOpen = false) (hswept : s'.swept → s.swept) :
    CorrelationInv s' := by
  refine h.serve_inv hcallers hnext hdelivered (hpanic.trans h.notPanicked)
    (hpending ▸ List.Sublist.refl _) (hinbound ▸ List.prefix_refl _) (fun id t ht => ?_)
    (fun t n hs => absurd hs (hto t n).1) (fun t hs => absurd hs (hto t 0).2) ?_ ?_ ?_ hclosed ?_
  · rw [hchans]
    exact (h.pending id t (hpending ▸ ht)).1
  · rw [hchans]
    exact h.chan
  · rw [hchans, hinbound]
    exact h.buffer
  · intro t c hc he
    rw [hpending, hchans]
    rcases h.expects t c hc he with hp | ⟨n, hn⟩ | hch
    · exact .inl hp
    · exact absurd hn (hfrom t n)
    · exact .inr (.inr hch)
  · rw [hpending]
    exact fun hs => h.late (hswept hs)

/-- A pending entry of a call that expects nothing is deleted. -/
theorem delete_inv (h : CorrelationInv s) {id : Nat}
    (hexp : ∀ t c, (id, t) ∈ s.pending → s.callers t = some c → c.expects = false) :
    CorrelationInv (s.deletePending id) := by
  have hsub : (s.deletePending id).pending.Sublist s.pending := List.filter_sublist
  refine h.serve_inv rfl rfl rfl h.notPanicked hsub (List.prefix_refl _)
    (fun id t ht => (h.pending id t (hsub.subset ht)).1) (fun t n hs => ?_) (fun t hs => ?_)
    h.chan h.buffer (fun t c hc he => ?_) h.closed fun hs id t ht => h.late hs id t (hsub.subset ht)
  · obtain ⟨hch, hlen, hp, hrest⟩ := h.sending t n hs
    exact ⟨hch, hlen, fun id' hmem => hp id' (hsub.subset hmem), hrest⟩
  · obtain ⟨hcl, hp, hrest⟩ := h.closingChan t hs
    exact ⟨hcl, fun id' hmem => hp id' (hsub.subset hmem), hrest⟩
  · rcases h.expects t c hc he with hp | hs
    · refine .inl (List.mem_filter.mpr ⟨hp, decide_eq_true fun heq => ?_⟩)
      rw [hexp t c (heq ▸ hp) hc] at he
      cases he
    · exact .inr hs

theorem pending_caller (h : CorrelationInv s) {id u : Nat} {d : Caller} (hu : (id, u) ∈ s.pending)
    (hd : s.callers u = some d) : d.linked = true ∧ d.header.requestID = id := by
  obtain ⟨-, e, he, hl, hid⟩ := h.pending id u hu
  obtain rfl := Option.some.inj (hd.symm.trans he)
  exact ⟨hl, hid⟩

theorem numbered_of_linked (hl : c.linked = true) : c.numbered = true :=
  (Bool.and_eq_true_iff.mp hl).1

/-- A call gives up. -/
theorem forget_inv (h : CorrelationInv s) (hc : s.callers t = some c) {timedOut : Bool}
    (hst : c.stage = .forgetting timedOut) (result : CallResult)
    (hres : ∀ n, result ≠ .response n) :
    CorrelationInv ((s.deletePending c.header.requestID).setStage t c (.returned result)) := by
  have hexp : c.expects = false := by simp [Caller.expects, hst]
  have hdel : CorrelationInv (s.deletePending c.header.requestID) := by
    refine h.delete_inv fun u d hu hd => ?_
    obtain ⟨hl, hid⟩ := h.pending_caller hu hd
    have hnum : c.numbered = true := by
      simp [Caller.numbered, hst, h.kind t c hc (by rw [hst]; rfl)]
    obtain rfl := h.id_inj u t d c hd hc (numbered_of_linked hl) hnum hid
    obtain rfl := Option.some.inj (hc.symm.trans hd)
    exact hexp
  refine hdel.move_inv (c := c) hc rfl rfl rfl rfl rfl rfl rfl rfl rfl rfl ?_ ?_ ?_ nofun
    (fun _ _ => rfl) (by simp [hst]) (by simpa using hres)
  · simp [Caller.numbered, hst]
  · simp [Caller.linked, Caller.numbered, hst]
  · simp [Caller.expects]

/-- `handleResponse` takes the channel of a pending call, or none. -/
theorem take_inv (h : CorrelationInv s) (hst : s.serve = .reading) (header : Header) :
    CorrelationInv (s.takePending header) := by
  have hsub : (s.takePending header).pending.Sublist s.pending := List.filter_sublist
  have hin : s.inbound <+: (s.takePending header).inbound := List.prefix_append _ _
  have hget : (s.takePending header).inbound[s.inbound.length]? = some header.requestID := by
    simp [takePending]
  have hmem : ∀ t n, (s.takePending header).serve = .sending t n →
      (header.requestID, t) ∈ s.pending ∧ n = s.inbound.length := by
    intro t n hs
    simp only [takePending] at hs
    split at hs
    · next id u hfind =>
      cases hs
      have hid : id = header.requestID := by simpa using List.find?_some hfind
      exact ⟨hid ▸ List.mem_of_find?_eq_some hfind, rfl⟩
    · cases hs
  have hold : ∀ n x, s.inbound[n]? = some x → n < s.inbound.length := fun n x hx =>
    (List.getElem?_eq_some_iff.mp hx).1
  refine h.serve_inv rfl rfl rfl h.notPanicked hsub hin
    (fun id t ht => (h.pending id t (hsub.subset ht)).1) (fun t n hs => ?_) (fun t hs => ?_) h.chan
    (fun t n hb => ?_) (fun t c hc he => ?_) (fun hs => ?_) (fun hs => ?_)
  · obtain ⟨hp, rfl⟩ := hmem t n hs
    obtain ⟨hch, c, hc, hl, hid⟩ := h.pending _ t hp
    refine ⟨hch, by simp [takePending], fun id hid' => ?_, fun u hu => ?_, fun u hu => ?_, c, hc, hl,
      by rw [hget, hid]⟩
    · obtain ⟨hin', hne⟩ := List.mem_filter.mp hid'
      exact of_decide_eq_true hne ((h.pending_caller hin' hc).2.symm.trans hid)
    · obtain ⟨d, -, -, -, hx⟩ := h.delivered _ u hu
      exact Nat.lt_irrefl _ (hold _ _ hx)
    · obtain ⟨-, -, d, -, -, hx⟩ := h.buffer u _ hu
      exact Nat.lt_irrefl _ (hold _ _ hx)
  · simp only [takePending] at hs
    split at hs <;> cases hs
  · obtain ⟨hdel, hone, d, hd, hl, hx⟩ := h.buffer t n hb
    exact ⟨hdel, hone, d, hd, hl, getElem?_of_prefix hin hx⟩
  · rcases h.expects t c hc he with hp | ⟨n, hn⟩ | hch
    · by_cases hid : c.header.requestID = header.requestID
      · refine .inr (.inl ⟨s.inbound.length, ?_⟩)
        obtain ⟨u, hfind⟩ : ∃ u, s.pending.find? (fun p => p.1 = header.requestID) =
            some (header.requestID, u) := by
          have hsome : (s.pending.find? fun p => p.1 = header.requestID).isSome :=
            List.find?_isSome.mpr ⟨_, hp, by simpa using hid⟩
          obtain ⟨⟨id, u⟩, hfind⟩ := Option.isSome_iff_exists.mp hsome
          have : id = header.requestID := by simpa using List.find?_some hfind
          exact ⟨u, this ▸ hfind⟩
        have hu := List.mem_of_find?_eq_some hfind
        obtain ⟨-, d, hd, hdl, hdid⟩ := h.pending _ u hu
        have hcl : c.linked = true := (Bool.and_eq_true_iff.mp he).1
        obtain rfl := h.id_inj u t d c hd hc (numbered_of_linked hdl) (numbered_of_linked hcl)
          (hdid.trans hid.symm)
        simp [takePending, hfind]
      · exact .inl (List.mem_filter.mpr ⟨hp, decide_eq_true hid⟩)
    · rw [hst] at hn
      cases hn
    · exact .inr (.inr hch)
  · simp only [connClosed, swept, takePending] at hs
    split at hs <;> simp at hs
  · simp only [swept, takePending] at hs
    split at hs <;> simp at hs

/-- `handleResponse` sends the response. -/
theorem send_inv (h : CorrelationInv s) {n : Nat} (hst : s.serve = .sending t n)
    (hs : s.send t n = some s') : CorrelationInv { s' with serve := .closingChan t } := by
  obtain ⟨hch, hlen, hp, hdel, hbuf, c, hc, hl, hid⟩ := h.sending t n hst
  simp only [send, hch] at hs
  cases hs
  have hchan : ∀ u, u ≠ t → Function.update s.chans t { buffer := some n } u = s.chans u :=
    fun u hu => Function.update_of_ne hu ..
  refine h.serve_inv rfl rfl rfl h.notPanicked (List.Sublist.refl _) (List.prefix_refl _)
    (fun id u hu => ?_) nofun (fun u hs => ?_) (fun u hu => ?_) (fun u m hu => ?_)
    (fun u d hd he => ?_) (fun hs => ?_) (fun hs => ?_)
  · refine (hchan u fun hut => ?_).trans (h.pending id u hu).1
    exact hp id (hut ▸ hu)
  · cases hs
    exact ⟨by simp, hp, c, hc, hl⟩
  · by_cases hut : u = t
    · exact hut ▸ ⟨c, hc, hl⟩
    · exact h.chan u (by rw [← hchan u hut]; exact hu)
  · by_cases hut : u = t
    · subst hut
      obtain rfl : n = m := by simpa using hu
      refine ⟨hdel, fun v hv => ?_, c, hc, hl, hid⟩
      by_contra hvt
      exact hbuf v (by rw [← hchan v hvt]; exact hv)
    · obtain ⟨hdel', hone, d, hd, hdl, hx⟩ := h.buffer u m (by rw [← hchan u hut]; exact hu)
      refine ⟨hdel', fun v hv => ?_, d, hd, hdl, hx⟩
      by_cases hvt : v = t
      · subst hvt
        obtain rfl : n = m := by simpa using hv
        exact absurd (by rw [← hchan u hut]; exact hu) (hbuf u)
      · exact hone v (by rw [← hchan v hvt]; exact hv)
  · by_cases hut : u = t
    · exact .inr (.inr (by simp [hut]))
    · rcases h.expects u d hd he with hp | ⟨m, hm⟩ | hch
      · exact .inl hp
      · rw [hst] at hm
        cases hm
        exact absurd rfl hut
      · exact .inr (.inr (by rw [← hchan u hut] at hch; exact hch))
  · simp [connClosed, swept] at hs
  · simp [swept] at hs

/-- The channels of the calls in `ts` are closed. -/
theorem close_inv (h : CorrelationInv s) (ts : Nat → Prop)
    (hlinked : ∀ t, ts t → ∃ c, s.callers t = some c ∧ c.linked = true)
    (hin : ∀ t, ¬ ts t → s'.chans t = s.chans t)
    (hclosed : ∀ t, ts t → s'.chans t = { s.chans t with closed := true })
    (hcallers : s'.callers = s.callers) (hnext : s'.nextRequestID = s.nextRequestID)
    (hdelivered : s'.delivered = s.delivered) (hpanic : s'.panicked = false)
    (hinbound : s'.inbound = s.inbound) (hpending : s'.pending.Sublist s.pending)
    (hkeep : ∀ id t, (id, t) ∈ s'.pending → ¬ ts t)
    (hgone : ∀ id t, (id, t) ∈ s.pending → (id, t) ∈ s'.pending ∨ ts t)
    (hfrom : ∀ t n, s.serve ≠ .sending t n)
    (hto : ∀ t n, s'.serve ≠ .sending t n ∧ s'.serve ≠ .closingChan t)
    (hconn : s'.connClosed → s'.connOpen = false)
    (hlate : s'.swept → s'.pending = []) : CorrelationInv s' := by
  have hbuf : ∀ t, (s'.chans t).buffer = (s.chans t).buffer := by
    intro t
    by_cases ht : ts t
    · rw [hclosed t ht]
    · rw [hin t ht]
  refine h.serve_inv hcallers hnext hdelivered hpanic hpending (hinbound ▸ List.prefix_refl _)
    (fun id t ht => ?_) (fun t n hs => absurd hs (hto t n).1) (fun t hs => absurd hs (hto t 0).2)
    (fun t ht => ?_) (fun t n ht => ?_) (fun t c hc he => ?_) hconn fun hs id t ht => ?_
  · rw [hin t (hkeep id t ht)]
    exact (h.pending id t (hpending.subset ht)).1
  · by_cases hts : ts t
    · exact hlinked t hts
    · exact h.chan t (hin t hts ▸ ht)
  · rw [hbuf] at ht
    obtain ⟨hdel, hone, hrest⟩ := h.buffer t n ht
    rw [hinbound]
    exact ⟨hdel, fun u hu => hone u (hbuf u ▸ hu), hrest⟩
  · by_cases hts : ts t
    · exact .inr (.inr (by rw [hclosed t hts]; simp))
    · rcases h.expects t c hc he with hp | ⟨n, hn⟩ | hch
      · exact .inl ((hgone _ t hp).resolve_right hts)
      · exact absurd hn (hfrom t n)
      · exact .inr (.inr (by rw [hin t hts]; exact hch))
  · rw [hlate hs] at ht
    cases ht

/-- `handleResponse` closes the channel. -/
theorem closeChan_inv (h : CorrelationInv s) (hst : s.serve = .closingChan t) :
    CorrelationInv { s.closeChan t with serve := .reading } := by
  obtain ⟨hopen, hp, hlinked⟩ := h.closingChan t hst
  rw [closeChan, if_neg (by simp [hopen])]
  refine h.close_inv (· = t) (by rintro _ rfl; exact hlinked)
    (fun u hu => Function.update_of_ne hu ..) (by rintro _ rfl; exact Function.update_self ..) rfl rfl
    rfl h.notPanicked rfl (List.Sublist.refl _) ?_ (fun _ _ hu => .inl hu) (by simp [hst]) (by simp)
    (by simp [connClosed, swept]) (by simp [swept])
  rintro id _ hu rfl
  exact hp id hu

/-- What `closePending` does to open and empty channels. -/
theorem closePending_eq (ps : List (Nat × Nat)) (s : StorerLink) (hnd : (ps.map Prod.snd).Nodup)
    (hopen : ∀ p ∈ ps, (s.chans p.2).closed = false) :
    ∃ chans, ps.foldl (fun s p => s.closeChan p.2) s = { s with chans } ∧
      ∀ t, chans t = if t ∈ ps.map Prod.snd then { s.chans t with closed := true } else s.chans t := by
  induction ps generalizing s with
  | nil => exact ⟨s.chans, rfl, fun _ => rfl⟩
  | cons p ps ih =>
    rw [List.map_cons, List.nodup_cons] at hnd
    have hp := hopen p (List.mem_cons_self ..)
    have hclose : s.closeChan p.2 =
        { s with chans := Function.update s.chans p.2 { s.chans p.2 with closed := true } } :=
      if_neg (by simp [hp])
    have hne : ∀ q ∈ ps, q.2 ≠ p.2 := fun q hq heq => hnd.1 (List.mem_map.mpr ⟨q, hq, heq⟩)
    obtain ⟨chans, hfold, hchans⟩ := ih (s.closeChan p.2) hnd.2 fun q hq => by
      rw [hclose]
      show (Function.update s.chans p.2 _ q.2).closed = false
      rw [Function.update_of_ne (hne q hq)]
      exact hopen q (List.mem_cons_of_mem _ hq)
    refine ⟨chans, by rw [List.foldl_cons, hfold, hclose], fun t => ?_⟩
    rw [hchans, hclose]
    by_cases ht : t = p.2
    · subst ht
      rw [if_neg hnd.1, if_pos (by simp)]
      exact Function.update_self ..
    · have hupdate : Function.update s.chans p.2 { s.chans p.2 with closed := true } t = s.chans t :=
        Function.update_of_ne ht ..
      simp only [List.map_cons, List.mem_cons, ht, false_or, hupdate]

/-- `closePending` at the end of `Serve`. -/
theorem sweep_inv (h : CorrelationInv s) (hst : s.serve = .sweeping) :
    CorrelationInv { s.closePending with serve := .notifying } := by
  have hnd : (s.pending.map Prod.snd).Nodup := by
    rw [List.nodup_map_iff_inj_on (h.pendingNodup.of_map _)]
    rintro ⟨id, t⟩ hp ⟨id', u⟩ hq (rfl : t = u)
    obtain ⟨-, c, hc, -, hid⟩ := h.pending id t hp
    rw [← hid, (h.pending_caller hq hc).2]
  obtain ⟨chans, hfold, hchans⟩ := closePending_eq s.pending { s with pending := [] } hnd
    fun p hp => congrArg Chan.closed (h.pending p.1 p.2 hp).1
  rw [closePending, hfold]
  refine h.close_inv (· ∈ s.pending.map Prod.snd) (fun t ht => ?_)
    (fun t ht => (hchans t).trans (if_neg ht)) (fun t ht => (hchans t).trans (if_pos ht)) rfl rfl rfl
    h.notPanicked rfl (List.nil_sublist _) nofun (fun id t ht => .inr (List.mem_map.mpr ⟨_, ht, rfl⟩))
    (by simp [hst]) (by simp) (fun _ => h.closed (.inr (.inr (.inl hst)))) fun _ => rfl
  obtain ⟨⟨id, u⟩, hu, rfl⟩ := List.mem_map.mp ht
  obtain ⟨-, c, hc, hl, -⟩ := h.pending id u hu
  exact ⟨c, hc, hl⟩

/-! ## Every step -/

/-- One step of a call. -/
theorem advance_inv (h : CorrelationInv s) (hs : s.advance t = some s') : CorrelationInv s' := by
  obtain ⟨c, hc, hs⟩ := Option.bind_eq_some_iff.mp hs
  cases hst : c.stage with
  | numbering =>
    simp only [hst] at hs
    cases hs
    refine h.unlinked_inv (fun d hd => ?_) rfl rfl rfl (Nat.le_succ _) rfl rfl rfl rfl rfl
      (fun _ => ⟨Nat.lt_succ_self _, Nat.le_refl _⟩) ?_ (fun _ => ?_) nofun
    · obtain rfl := Option.some.inj (hc.symm.trans hd)
      simp [Caller.linked, Caller.numbered, hst]
    · simp [Caller.linked]
    · exact h.kind t c hc (by rw [hst]; rfl)
  | adding =>
    simp only [hst] at hs
    cases hs
    exact h.add_inv hc hst
  | locking =>
    simp only [hst] at hs
    split at hs
    · cases hs
      exact h.move_inv hc rfl rfl rfl rfl rfl rfl rfl rfl rfl rfl (by simp [Caller.numbered, hst])
        (by simp [Caller.linked, Caller.numbered, hst])
        (by simp [Caller.expects, Caller.linked, Caller.numbered, hst]) nofun (fun _ _ => rfl)
        (by simp [hst]) nofun
    · cases hs
  | header =>
    simp only [hst] at hs
    split at hs
    · next hw =>
      cases hs
      exact h.move_inv hc rfl rfl rfl rfl rfl rfl rfl rfl rfl rfl (by simp [Caller.numbered, hst])
        (by simp [Caller.linked, Caller.numbered, hst])
        (by simp [Caller.expects, Caller.linked, Caller.numbered, hst]) nofun (by simp [hw.2])
        (by simp [hst]) nofun
    · cases hs
      exact h.move_inv hc rfl rfl rfl rfl rfl rfl rfl rfl rfl rfl (by simp [Caller.numbered, hst])
        (by simp [Caller.linked, Caller.numbered, hst])
        (by simp [Caller.expects, Caller.linked, Caller.numbered, hst]) nofun (fun _ _ => rfl)
        (by simp [hst]) nofun
  | payload =>
    simp only [hst] at hs
    split at hs <;>
    · cases hs
      exact h.move_inv hc rfl rfl rfl rfl rfl rfl rfl rfl rfl rfl (by simp [Caller.numbered, hst])
        (by simp [Caller.linked, Caller.numbered, hst])
        (by simp [Caller.expects, Caller.linked, Caller.numbered, hst]) nofun
        (by simp [hst, CallStage.late]) (by simp [hst]) nofun
  | unlocking written =>
    simp only [hst] at hs
    cases hs
    by_cases hn : c.kind = .notice
    · rw [if_pos hn]
      refine h.move_inv hc rfl rfl rfl rfl rfl rfl rfl rfl rfl rfl (by simp [Caller.numbered, hn])
        (by simp [Caller.linked, Caller.numbered, hn])
        (by simp [Caller.expects, Caller.linked, Caller.numbered, hn]) nofun (fun _ _ => rfl)
        (by simp [hst]) fun n => ?_
      cases written <;> nofun
    · rw [if_neg hn]
      cases written with
      | true =>
        exact h.move_inv hc rfl rfl rfl rfl rfl rfl rfl rfl rfl rfl (by simp [Caller.numbered, hst])
          (by simp [Caller.linked, Caller.numbered, hst])
          (by simp [Caller.expects, Caller.linked, Caller.numbered, hst]) (fun _ => hn)
          (by simp [hst, CallStage.late]) (by simp [hst]) nofun
      | false =>
        exact h.move_inv hc rfl rfl rfl rfl rfl rfl rfl rfl rfl rfl (by simp [Caller.numbered, hst])
          (by simp [Caller.linked, Caller.numbered, hst])
          (by simp [Caller.expects, Caller.linked, Caller.numbered, hst]) (fun _ => hn)
          (fun _ _ => rfl) (by simp [hst]) nofun
  | waiting =>
    simp only [hst] at hs
    split at hs
    · next n _ hch =>
      cases hs
      exact h.receive_inv hc hst (by rw [hch])
    · cases hs
      exact h.move_inv hc rfl rfl rfl rfl rfl rfl rfl rfl rfl rfl (by simp [Caller.numbered, hst])
        (by simp [Caller.linked, Caller.numbered, hst])
        (by simp [Caller.expects, Caller.linked, Caller.numbered, hst]) nofun (fun _ _ => rfl)
        (by simp [hst]) nofun
    · cases hs
  | forgetting timedOut =>
    simp only [hst] at hs
    cases hs
    refine h.forget_inv hc hst _ fun n => ?_
    cases timedOut <;> nofun
  | returned result =>
    simp only [hst] at hs
    cases hs

/-- One step of `serveFrames` or of `Serve`. -/
theorem advanceServe_inv {gatewayToken : Bytes} {diskFree : Bool} (h : CorrelationInv s)
    (hs : s.advanceServe gatewayToken diskFree = some s') : CorrelationInv s' := by
  unfold advanceServe at hs
  cases hst : s.serve with
  | reading | finished =>
    simp only [hst] at hs
    cases hs
  | registering header body =>
    simp only [hst] at hs
    cases hs
    exact h.quiet_inv rfl rfl rfl rfl rfl rfl rfl (by simp [hst]) (by simp)
      (by simp [connClosed, swept]) (by simp [swept])
  | respondHeader payload accepted =>
    simp only [hst] at hs
    split at hs <;>
    · cases hs
      exact h.quiet_inv rfl rfl rfl rfl rfl rfl rfl (by simp [hst]) (by simp)
        (by simp [connClosed, swept]) (by simp [swept])
  | respondPayload payload accepted =>
    simp only [hst] at hs
    split at hs
    · cases hs
      cases accepted <;>
      exact h.quiet_inv rfl rfl rfl rfl rfl rfl rfl (by simp [hst]) (by simp)
        (by simp [connClosed, swept]) (by simp [swept])
    · cases hs
      exact h.quiet_inv rfl rfl rfl rfl rfl rfl rfl (by simp [hst]) (by simp)
        (by simp [connClosed, swept]) (by simp [swept])
  | marking =>
    simp only [hst] at hs
    cases hs
    exact h.quiet_inv rfl rfl rfl rfl rfl rfl rfl (by simp [hst]) (by simp)
      (by simp [connClosed, swept]) (by simp [swept])
  | sending t n =>
    simp only [hst] at hs
    obtain ⟨u, hu, rfl⟩ := Option.map_eq_some_iff.mp hs
    exact h.send_inv hst hu
  | closingChan t =>
    simp only [hst] at hs
    cases hs
    exact h.closeChan_inv hst
  | closingConn =>
    simp only [hst] at hs
    cases hs
    exact h.quiet_inv rfl rfl rfl rfl rfl rfl rfl (by simp [hst]) (by simp) (fun _ => rfl)
      (by simp [swept])
  | disconnectingRoutes =>
    simp only [hst] at hs
    cases hs
    exact h.quiet_inv rfl rfl rfl rfl rfl rfl rfl (by simp [hst]) (by simp)
      (fun _ => h.closed (.inl hst)) (by simp [swept])
  | removing =>
    simp only [hst] at hs
    cases hs
    exact h.quiet_inv rfl rfl rfl rfl rfl rfl rfl (by simp [hst]) (by simp)
      (fun _ => h.closed (.inr (.inl hst))) (by simp [swept])
  | sweeping =>
    simp only [hst] at hs
    cases hs
    exact h.sweep_inv hst
  | notifying =>
    simp only [hst] at hs
    cases hs
    exact h.quiet_inv rfl rfl rfl rfl rfl rfl rfl (by simp [hst]) (by simp)
      (fun _ => h.closed (.inr (.inr (.inr (.inl hst))))) (fun _ => .inl hst)

/-- `serveFrames` reads a frame. -/
theorem read_inv (h : CorrelationInv s) (hst : s.serve = .reading) (payload : Bytes) :
    CorrelationInv (s.read payload) := by
  have hquiet : ∀ stage : ServeStage, (∀ t n, stage ≠ .sending t n ∧ stage ≠ .closingChan t) →
      ¬ connClosed { s with serve := stage } → CorrelationInv { s with serve := stage } :=
    fun stage hto hconn => h.quiet_inv rfl rfl rfl rfl rfl rfl rfl (by simp [hst]) hto
      (fun hc => absurd hc hconn) fun hc => absurd (.inr (.inr (.inr hc))) hconn
  unfold read
  split
  · exact hquiet _ (by simp) (by simp [connClosed, swept])
  · next header _ =>
    dsimp only
    split
    · split
      · rcases handleNotice_cases header (payload.drop headerSize) with hn | hn | ⟨p, hn, -⟩
        all_goals
          rw [hn]
          exact hquiet _ (by simp) (by simp [connClosed, swept])
      · split <;> exact hquiet _ (by simp) (by simp [connClosed, swept])
    · split
      · exact hquiet _ (by simp) (by simp [connClosed, swept])
      · exact h.take_inv hst header

/-- **One step** of the link. -/
theorem step {gatewayToken : Bytes} (h : CorrelationInv s) (a : LinkAction)
    (hs : s.step gatewayToken a = some s') : CorrelationInv s' := by
  cases a with
  | call t kind header body =>
    simp only [StorerLink.step] at hs
    split at hs
    · next hc =>
      cases hs
      refine h.unlinked_inv (fun d hd => ?_) rfl rfl rfl (Nat.le_refl _) rfl rfl rfl rfl rfl
        ?_ ?_ ?_ ?_
      · rw [hc.1] at hd
        cases hd
      all_goals by_cases hn : kind = .notice <;> simp [Caller.linked, Caller.numbered, CallStage.roundTrip, hn]
    · cases hs
  | advance t => exact h.advance_inv hs
  | timeout t =>
    obtain ⟨c, hc, hs⟩ := Option.bind_eq_some_iff.mp hs
    split at hs
    · next hw =>
      cases hs
      exact h.move_inv hc rfl rfl rfl rfl rfl rfl rfl rfl rfl rfl (by simp [Caller.numbered, hw])
        (by simp [Caller.linked, Caller.numbered, hw]) (by simp [Caller.expects]) (by simp [hw.1])
        (fun _ _ => rfl) (by simp [hw.2]) nofun
    · cases hs
  | read payload =>
    simp only [StorerLink.step] at hs
    split at hs
    · next hst =>
      cases hs
      exact h.read_inv hst payload
    · cases hs
  | readError =>
    simp only [StorerLink.step] at hs
    split at hs
    · next hst =>
      cases hs
      exact h.quiet_inv rfl rfl rfl rfl rfl rfl rfl (by simp [hst]) (by simp)
        (by simp [connClosed, swept]) (by simp [swept])
    · cases hs
  | advanceServe diskFree => exact h.advanceServe_inv hs
  | closeConn =>
    cases hs
    exact h.serve_inv rfl rfl rfl h.notPanicked (List.Sublist.refl _) (List.prefix_refl _)
      (fun id t ht => (h.pending id t ht).1) h.sending h.closingChan h.chan h.buffer h.expects
      (fun _ => rfl) h.late

end CorrelationInv

theorem correlationInv_init : CorrelationInv {} where
  id_le := nofun
  id_inj _ _ _ _ h := by cases h
  kind := nofun
  pendingNodup := List.nodup_nil
  pending := nofun
  sending := nofun
  closingChan := nofun
  chan _ h := absurd rfl h
  buffer := nofun
  expects := nofun
  closed h := by simp [connClosed, swept] at h
  late := nofun
  delivered := nofun
  returned := nofun
  once := List.nodup_nil
  notPanicked := rfl

/-- **Responses are correlated** in every run of the link. -/
theorem link_correlated {gatewayToken : Bytes} {as : List LinkAction} {s : StorerLink}
    (h : runFrom (step gatewayToken) {} as = some s) : s.Correlated :=
  (run_inv (fun _ a _ hi hs => CorrelationInv.step hi a hs) correlationInv_init h).correlated

/-- One call gets its response; the other adds its channel after `closePending`. -/
def lateAddRun : List LinkAction :=
  registering ++ accepting ++ [.call 0 .request openHeader [], .call 1 .request openHeader []] ++
    List.replicate 6 (.advance 0) ++
    [.read (encodeHeader { opCode := 3, flags := flagResponse, requestID := 1 }),
      .advanceServe true, .advance 0, .advanceServe true, .advance 1, .readError] ++
    List.replicate 4 (.advanceServe true) ++ .advance 1 :: .advanceServe true ::
    List.replicate 4 (.advance 1)

theorem lateAddRun_correlated : ∃ s, runFrom (step [116]) {} lateAddRun = some s ∧
    s.serve = .finished ∧ (s.callers 0).map Caller.stage = some (.returned (.response 0)) ∧
    (s.callers 1).map Caller.stage = some (.returned .writeError) ∧ s.Correlated := by
  obtain ⟨s, hs, hp⟩ := exists_run (step [116]) {} lateAddRun
    (fun s => decide (s.serve = .finished ∧
      (s.callers 0).map Caller.stage = some (.returned (.response 0)) ∧
      (s.callers 1).map Caller.stage = some (.returned .writeError))) (by decide)
  obtain ⟨hserve, h0, h1⟩ := of_decide_eq_true hp
  exact ⟨s, hs, hserve, h0, h1, link_correlated hs⟩

end StorerLink

end YumeDisk.Server
