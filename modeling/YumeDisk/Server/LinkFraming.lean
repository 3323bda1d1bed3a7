import YumeDisk.Server.StorerLink

/-!
# The frames that a storer reads from its link

`serveFrames` writes its responses without `writeMu`, which the callers hold, and the route is
visible to the callers before the response that accepts the registration is written.

* `Framed`: the storer has read whole frames, and none of a caller before that response.
* `Alone`: the condition on a step: a header is written only while no other frame is under way and
  no acceptance is due.
* `framed_of_alone`: the runs that meet it are framed; `overlapped_frames` and `early_request` are two
  that are not.
-/

namespace YumeDisk.Server.StorerLink

open YumeDisk.Lib

/-! ## Statement -/

def framesOf (log : List Sent) : Bytes := (log.map Sent.payload).flatMap frame

/-- The header of a frame has been written, and its payload has not. -/
def HeaderOut (s : StorerLink) (payload : Bytes) : Prop :=
  (∃ accepted, s.serve = .respondPayload payload accepted) ∨
    ∃ t c, s.callers t = some c ∧ c.stage = .payload ∧ c.payload = payload

/-- The response that accepts the registration has been written. -/
def Accepted (log : List Sent) : Prop := ∃ payload, ⟨.serve true, payload⟩ ∈ log

/-- **The storer reads whole frames**, in the order in which they were written, then at most a
header; and the frames of the callers come after the response that accepts the registration. -/
structure Framed (s : StorerLink) : Prop where
  bytes : ∃ tail, s.received = framesOf s.log ++ tail ∧
    (tail = [] ∨ ∃ payload, PayloadInRange payload ∧ tail = frameHeader payload ∧
      (s.HeaderOut payload ∨ s.connOpen = false))
  range : ∀ x ∈ s.log, PayloadInRange x.payload
  registerFirst : ∀ before t payload after, s.log = before ++ ⟨.call t, payload⟩ :: after →
    Accepted before

/-- `serveFrames` is inside a frame, or the response that accepts the registration is due. -/
def serveDue (s : StorerLink) : Bool :=
  match s.serve with
  | .respondPayload .. => true
  | .respondHeader _ accepted => accepted
  | _ => false

/-- The caller that holds `writeMu` is inside its frame. -/
def callerMid (s : StorerLink) : Bool :=
  s.writeMu.any fun t => (s.callers t).any fun c => c.stage = .payload

/-- `serveFrames` is about to write a header. -/
def serveStarts (s : StorerLink) : Bool :=
  match s.serve with
  | .respondHeader .. => true
  | _ => false

/-- The condition on a step. -/
def Alone (s : StorerLink) : LinkAction → Prop
  | .advance t => ∀ c ∈ s.callers t, c.stage = .header → PayloadInRange c.payload →
      s.connOpen = true → s.serveDue = false
  | .advanceServe _ => s.serveStarts = true → s.connOpen = true → s.callerMid = false
  | _ => True

instance (s : StorerLink) : ∀ a, Decidable (s.Alone a)
  | .advance t => inferInstanceAs (Decidable (∀ c ∈ s.callers t, _))
  | .advanceServe _ => inferInstanceAs (Decidable (_ → _ → _))
  | .call .. | .timeout _ | .read _ | .readError | .closeConn => isTrue trivial

/-- The storer reads the payloads in the order in which they were written. -/
theorem Framed.read {s : StorerLink} (h : s.Framed) {reads : List Bytes} (hreads : Whole reads)
    (hflatten : reads.flatten = s.received) : ∃ rest,
    readTimes (readFrame maxPayloadSize) s.log.length reads =
      .ok (s.log.map Sent.payload, rest) := by
  obtain ⟨tail, hrec, -⟩ := h.bytes
  have hrange : ∀ p ∈ s.log.map Sent.payload, PayloadInRange p := by
    intro p hp
    obtain ⟨x, hx, rfl⟩ := List.mem_map.mp hp
    exact h.range x hx
  obtain ⟨rest, hread, -⟩ := readFrames_frames hrange hreads (hflatten.trans hrec)
  rw [List.length_map] at hread
  exact ⟨rest, hread⟩

/-- The first frame is a response of `serveFrames`. -/
theorem Framed.head_sender {s : StorerLink} (h : s.Framed) {x : Sent} {log : List Sent}
    (hlog : s.log = x :: log) : ∃ accepted, x.sender = .serve accepted := by
  obtain ⟨sender, payload⟩ := x
  cases sender with
  | serve accepted => exact ⟨accepted, rfl⟩
  | call t =>
    obtain ⟨_, hmem⟩ := h.registerFirst [] t payload log hlog
    cases hmem

/-! ## The invariant -/

/-- What of the last frame is out. -/
def Tail (s : StorerLink) (tail : Bytes) : Prop :=
  (tail = [] ∧ ∀ payload, ¬ s.HeaderOut payload) ∨
    ∃ payload, s.HeaderOut payload ∧ tail = frameHeader payload

structure FrameInv (s : StorerLink) : Prop where
  held : ∀ t c, s.callers t = some c → c.stage.critical = true → s.writeMu = some t
  exclusive : s.connOpen = true → ∀ payload accepted, s.serve = .respondPayload payload accepted →
    ∀ t c, s.callers t = some c → c.stage ≠ .payload
  headerRange : ∀ payload, s.HeaderOut payload → PayloadInRange payload
  range : ∀ x ∈ s.log, PayloadInRange x.payload
  bytes : ∃ tail, s.received = framesOf s.log ++ tail ∧ (s.connOpen = true → s.Tail tail) ∧
    (tail = [] ∨ ∃ payload, PayloadInRange payload ∧ tail = frameHeader payload)
  registerFirst : ∀ before t payload after, s.log = before ++ ⟨.call t, payload⟩ :: after →
    Accepted before
  caller : ∀ t c, s.callers t = some c → s.routed = true
  writing : ∀ t c, s.callers t = some c → c.stage = .payload → Accepted s.log
  routed : s.routed = true → s.connOpen = true → Accepted s.log ∨
    ∃ payload, s.serve = .respondHeader payload true ∨ s.serve = .respondPayload payload true
  accepting : (∃ payload, s.serve = .respondHeader payload true ∨
    s.serve = .respondPayload payload true) ∨ s.serve = .marking ∨ s.registered = true →
      s.routed = true
  response : ∀ payload accepted, s.serve = .respondHeader payload accepted → PayloadInRange payload

namespace FrameInv

variable {s s' : StorerLink}

theorem framed (h : FrameInv s) : s.Framed where
  bytes := by
    obtain ⟨tail, hrec, hopen, hclosed⟩ := h.bytes
    refine ⟨tail, hrec, ?_⟩
    cases ho : s.connOpen with
    | true =>
      rcases hopen ho with ⟨hnil, -⟩ | ⟨p, hp, htail⟩
      · exact .inl hnil
      · exact .inr ⟨p, h.headerRange p hp, htail, .inl hp⟩
    | false =>
      rcases hclosed with hnil | ⟨p, hp, htail⟩
      · exact .inl hnil
      · exact .inr ⟨p, hp, htail, .inr rfl⟩
  range := h.range
  registerFirst := h.registerFirst

/-- A step that writes nothing. -/
structure Quiet (s s' : StorerLink) : Prop where
  received : s'.received = s.received
  log : s'.log = s.log
  connOpen : s'.connOpen = true → s.connOpen = true
  serve : ∀ payload accepted, s'.serve = .respondPayload payload accepted →
    s.serve = .respondPayload payload accepted
  serveOut : s'.connOpen = true → ∀ payload accepted, s.serve = .respondPayload payload accepted →
    s'.serve = .respondPayload payload accepted
  caller : ∀ t c, s'.callers t = some c → c.stage = .payload → s.callers t = some c
  callerOut : s'.connOpen = true → ∀ t c, s.callers t = some c → c.stage = .payload →
    s'.callers t = some c

theorem Quiet.headerOut (hq : Quiet s s') {payload : Bytes} (h : s'.HeaderOut payload) :
    s.HeaderOut payload := by
  rcases h with ⟨a, ha⟩ | ⟨t, c, hc, hst, hp⟩
  · exact .inl ⟨a, hq.serve _ _ ha⟩
  · exact .inr ⟨t, c, hq.caller t c hc hst, hst, hp⟩

theorem Quiet.headerOut_iff (hq : Quiet s s') (ho : s'.connOpen = true) {payload : Bytes} :
    s'.HeaderOut payload ↔ s.HeaderOut payload := by
  refine ⟨hq.headerOut, fun h => ?_⟩
  rcases h with ⟨a, ha⟩ | ⟨t, c, hc, hst, hp⟩
  · exact .inl ⟨a, hq.serveOut ho _ _ ha⟩
  · exact .inr ⟨t, c, hq.callerOut ho t c hc hst, hst, hp⟩

theorem quiet (h : FrameInv s) (hq : Quiet s s')
    (hheld : ∀ t c, s'.callers t = some c → c.stage.critical = true → s'.writeMu = some t)
    (hcaller : ∀ t c, s'.callers t = some c → s'.routed = true)
    (hrouted : s'.routed = true → s'.connOpen = true → Accepted s'.log ∨
      ∃ payload, s'.serve = .respondHeader payload true ∨ s'.serve = .respondPayload payload true)
    (haccepting : (∃ payload, s'.serve = .respondHeader payload true ∨
      s'.serve = .respondPayload payload true) ∨ s'.serve = .marking ∨ s'.registered = true →
        s'.routed = true)
    (hresponse : ∀ payload accepted, s'.serve = .respondHeader payload accepted →
      PayloadInRange payload) : FrameInv s' where
  held := hheld
  exclusive ho payload accepted hserve t c hc hst :=
    h.exclusive (hq.connOpen ho) payload accepted (hq.serve _ _ hserve) t c (hq.caller t c hc hst) hst
  headerRange payload hp := h.headerRange payload (hq.headerOut hp)
  range := hq.log ▸ h.range
  bytes := by
    obtain ⟨tail, hrec, hopen, htail⟩ := h.bytes
    refine ⟨tail, by rw [hq.received, hq.log, hrec], fun ho => ?_, htail⟩
    rcases hopen (hq.connOpen ho) with ⟨hnil, hnone⟩ | ⟨p, hp, heq⟩
    · exact .inl ⟨hnil, fun p hp => hnone p (hq.headerOut hp)⟩
    · exact .inr ⟨p, (hq.headerOut_iff ho).mpr hp, heq⟩
  registerFirst := hq.log ▸ h.registerFirst
  caller := hcaller
  writing t c hc hst := hq.log ▸ h.writing t c (hq.caller t c hc hst) hst
  routed := hrouted
  accepting := haccepting
  response := hresponse

/-- A caller moves to a stage outside its frame. -/
theorem caller_inv (h : FrameInv s) {t : Nat} {c c' : Caller} (hc : s.callers t = some c)
    (hcallers : s'.callers = Function.update s.callers t (some c'))
    (hrec : s'.received = s.received) (hlog : s'.log = s.log) (hopen : s'.connOpen = s.connOpen)
    (hserve : s'.serve = s.serve) (hrouted : s'.routed = s.routed)
    (hregistered : s'.registered = s.registered)
    (hout : c.stage = .payload → s.connOpen = false) (hin : c'.stage ≠ .payload)
    (hself : c'.stage.critical = true → s'.writeMu = some t)
    (hmutex : ∀ u d, u ≠ t → s.callers u = some d → d.stage.critical = true →
      s'.writeMu = s.writeMu) : FrameInv s' := by
  have hself' : s'.callers t = some c' := by rw [hcallers, Function.update_self]
  have hother : ∀ u, u ≠ t → s'.callers u = s.callers u := fun u hu => by
    rw [hcallers, Function.update_of_ne hu]
  refine h.quiet ⟨hrec, hlog, fun ho => hopen ▸ ho, fun _ _ hs => hserve ▸ hs,
    fun _ _ _ hs => hserve ▸ hs, fun u d hd hst => ?_, fun ho u d hd hst => ?_⟩
    (fun u d hd hst => ?_) (fun u d hd => ?_) ?_ ?_ (hserve ▸ h.response)
  · by_cases hu : u = t
    · subst hu
      obtain rfl := Option.some.inj (hself'.symm.trans hd)
      exact absurd hst hin
    · rw [← hother u hu]
      exact hd
  · by_cases hu : u = t
    · subst hu
      obtain rfl := Option.some.inj (hc.symm.trans hd)
      rw [hopen, hout hst] at ho
      cases ho
    · rw [hother u hu]
      exact hd
  · by_cases hu : u = t
    · subst hu
      obtain rfl := Option.some.inj (hself'.symm.trans hd)
      exact hself hst
    · rw [hother u hu] at hd
      rw [hmutex u d hu hd hst]
      exact h.held u d hd hst
  · rw [hrouted]
    by_cases hu : u = t
    · exact h.caller t c hc
    · rw [hother u hu] at hd
      exact h.caller u d hd
  · rw [hrouted, hopen, hlog, hserve]
    exact h.routed
  · rw [hserve, hrouted, hregistered]
    exact h.accepting

/-- The loop moves on without a `Write`. -/
theorem serve_inv (h : FrameInv s) (hcallers : s'.callers = s.callers)
    (hmutex : s'.writeMu = s.writeMu) (hrec : s'.received = s.received) (hlog : s'.log = s.log)
    (hopen : s'.connOpen = true → s.connOpen = true)
    (hout : ∀ payload accepted, s.serve = .respondPayload payload accepted → s'.connOpen = false)
    (hin : ∀ payload accepted, s'.serve ≠ .respondPayload payload accepted)
    (hmono : s.routed = true → s'.routed = true)
    (hrouted : s'.routed = true → s'.connOpen = true → Accepted s'.log ∨
      ∃ payload, s'.serve = .respondHeader payload true ∨ s'.serve = .respondPayload payload true)
    (haccepting : (∃ payload, s'.serve = .respondHeader payload true ∨
      s'.serve = .respondPayload payload true) ∨ s'.serve = .marking ∨ s'.registered = true →
        s'.routed = true)
    (hresponse : ∀ payload accepted, s'.serve = .respondHeader payload accepted →
      PayloadInRange payload) : FrameInv s' := by
  refine h.quiet ⟨hrec, hlog, hopen, fun p a hs => absurd hs (hin p a), fun ho p a hs => ?_,
    fun t c hc _ => hcallers ▸ hc, fun _ t c hc _ => hcallers ▸ hc⟩ ?_ ?_ hrouted haccepting hresponse
  · rw [hout p a hs] at ho
    cases ho
  · rw [hcallers, hmutex]
    exact h.held
  · intro t c hc
    exact hmono (h.caller t c (hcallers ▸ hc))

/-! ## Writes -/

variable {t : Nat} {c : Caller}

/-- No header is out. -/
theorem bytes_of_none (h : FrameInv s) (ho : s.connOpen = true) (hnone : ∀ p, ¬ s.HeaderOut p) :
    s.received = framesOf s.log := by
  obtain ⟨tail, hrec, hopen, -⟩ := h.bytes
  rcases hopen ho with ⟨rfl, -⟩ | ⟨p, hp, -⟩
  · rw [hrec, List.append_nil]
  · exact absurd hp (hnone p)

/-- The header of `payload` is out, and of no other. -/
theorem bytes_of_out (h : FrameInv s) (ho : s.connOpen = true) (payload : Bytes)
    (hout : s.HeaderOut payload) (hone : ∀ p, s.HeaderOut p → p = payload) :
    s.received = framesOf s.log ++ frameHeader payload := by
  obtain ⟨tail, hrec, hopen, -⟩ := h.bytes
  rcases hopen ho with ⟨-, hnone⟩ | ⟨p, hp, rfl⟩
  · exact absurd hout (hnone payload)
  · rw [hrec, hone p hp]

theorem framesOf_append (log : List Sent) (x : Sent) :
    framesOf (log ++ [x]) = framesOf log ++ frameHeader x.payload ++ x.payload := by
  simp [framesOf, frame]

theorem accepted_append {log : List Sent} (h : Accepted log) (x : Sent) : Accepted (log ++ [x]) := by
  obtain ⟨payload, hmem⟩ := h
  exact ⟨payload, List.mem_append_left _ hmem⟩

/-- One more frame in the log. -/
theorem registerFirst_append {log : List Sent} {x : Sent}
    (h : ∀ before t payload after, log = before ++ ⟨.call t, payload⟩ :: after → Accepted before)
    (hx : ∀ t, x.sender = .call t → Accepted log) {before after : List Sent} {t : Nat}
    {payload : Bytes} (heq : log ++ [x] = before ++ ⟨.call t, payload⟩ :: after) :
    Accepted before := by
  rcases List.eq_nil_or_concat after with rfl | ⟨rest, y, rfl⟩
  · obtain ⟨rfl, rfl⟩ := List.append_inj' heq rfl |>.imp id List.singleton_inj.mp
    exact hx t rfl
  · rw [List.concat_eq_append, ← List.cons_append, ← List.append_assoc] at heq
    obtain ⟨hlog, -⟩ := List.append_inj' heq rfl
    exact h before t payload rest hlog

theorem one_payload (h : FrameInv s) {u : Nat} {d : Caller} (hc : s.callers t = some c)
    (hst : c.stage.critical = true) (hd : s.callers u = some d) (hdst : d.stage.critical = true) :
    u = t :=
  Option.some.inj ((h.held u d hd hdst).symm.trans (h.held t c hc hst))

/-- A caller writes the header of its frame. -/
theorem callerHeader_inv (h : FrameInv s) (hc : s.callers t = some c) (hst : c.stage = .header)
    (hrange : PayloadInRange c.payload) (ho : s.connOpen = true)
    (hserve : ∀ payload accepted, s.serve ≠ .respondPayload payload accepted)
    (hdue : ∀ payload, s.serve ≠ .respondHeader payload true) :
    FrameInv { s.setStage t c .payload with
      received := s.received ++ frameHeader c.payload } := by
  have hcrit : c.stage.critical = true := by rw [hst]; rfl
  have hself := setStage_self s t c .payload
  have hother : ∀ u, u ≠ t → (s.setStage t c .payload).callers u = s.callers u :=
    fun u hu => setStage_of_ne s hu
  have hnone : ∀ p, ¬ s.HeaderOut p := by
    rintro p (⟨a, ha⟩ | ⟨u, d, hd, hdst, -⟩)
    · exact hserve p a ha
    · obtain rfl := h.one_payload hc hcrit hd (by rw [hdst]; rfl)
      obtain rfl := Option.some.inj (hc.symm.trans hd)
      rw [hst] at hdst
      cases hdst
  have hout : ∀ p, HeaderOut { s.setStage t c .payload with
      received := s.received ++ frameHeader c.payload } p ↔ p = c.payload := by
    intro p
    constructor
    · rintro (⟨a, ha⟩ | ⟨u, d, hd, hdst, rfl⟩)
      · exact absurd ha (hserve p a)
      · by_cases hu : u = t
        · subst hu
          obtain rfl := Option.some.inj (hself.symm.trans hd)
          rfl
        · exact absurd (.inr ⟨u, d, (hother u hu).symm.trans hd, hdst, rfl⟩) (hnone d.payload)
    · rintro rfl
      exact .inr ⟨t, _, hself, rfl, rfl⟩
  have haccepted : Accepted s.log := by
    rcases h.routed (h.caller t c hc) ho with hacc | ⟨p, hp | hp⟩
    · exact hacc
    · exact absurd hp (hdue p)
    · exact absurd hp (hserve p true)
  refine ⟨fun u d hd hdst => ?_, fun _ p a hs => absurd hs (hserve p a), fun p hp => ?_, h.range,
    ⟨frameHeader c.payload, ?_, fun _ => .inr ⟨_, (hout _).mpr rfl, rfl⟩,
      .inr ⟨_, hrange, rfl⟩⟩, h.registerFirst, fun u d hd => ?_, fun _ _ _ _ => haccepted,
    fun _ _ => .inl haccepted, h.accepting, h.response⟩
  · by_cases hu : u = t
    · exact hu ▸ h.held t c hc hcrit
    · exact h.held u d ((hother u hu).symm.trans hd) hdst
  · rw [(hout p).mp hp]
    exact hrange
  · exact congrArg (· ++ frameHeader c.payload) (h.bytes_of_none ho hnone)
  · exact h.caller t c hc

/-- A caller writes the payload of its frame. -/
theorem callerPayload_inv (h : FrameInv s) (hc : s.callers t = some c) (hst : c.stage = .payload)
    (ho : s.connOpen = true) :
    FrameInv { s.setStage t c (.unlocking true) with
      received := s.received ++ c.payload
      log := s.log ++ [⟨.call t, c.payload⟩] } := by
  have hcrit : c.stage.critical = true := by rw [hst]; rfl
  have hself := setStage_self s t c (.unlocking true)
  have hother : ∀ u, u ≠ t → (s.setStage t c (.unlocking true)).callers u = s.callers u :=
    fun u hu => setStage_of_ne s hu
  have hserve : ∀ p a, s.serve ≠ .respondPayload p a := fun p a hs =>
    h.exclusive ho p a hs t c hc hst
  have hmid : ∀ u d, s.callers u = some d → d.stage = .payload → u = t := fun u d hd hdst =>
    h.one_payload hc hcrit hd (by rw [hdst]; rfl)
  have hmid' : ∀ u d, (s.setStage t c (.unlocking true)).callers u = some d →
      d.stage ≠ .payload := by
    intro u d hd hdst
    by_cases hu : u = t
    · subst hu
      obtain rfl := Option.some.inj (hself.symm.trans hd)
      cases hdst
    · exact hu (hmid u d ((hother u hu).symm.trans hd) hdst)
  have hrec := h.bytes_of_out ho c.payload (.inr ⟨t, c, hc, hst, rfl⟩) (by
    rintro p (⟨a, ha⟩ | ⟨u, d, hd, hdst, rfl⟩)
    · exact absurd ha (hserve p a)
    · obtain rfl := hmid u d hd hdst
      rw [Option.some.inj (hc.symm.trans hd)])
  have hnone : ∀ p, ¬ HeaderOut { s.setStage t c (.unlocking true) with
      received := s.received ++ c.payload
      log := s.log ++ [⟨.call t, c.payload⟩] } p := by
    rintro p (⟨a, ha⟩ | ⟨u, d, hd, hdst, -⟩)
    · exact hserve p a ha
    · exact hmid' u d hd hdst
  refine ⟨fun u d hd hdst => ?_, fun _ p a hs => absurd hs (hserve p a),
    fun p hp => absurd hp (hnone p), fun x hx => ?_, ⟨[], ?_, fun _ => .inl ⟨rfl, hnone⟩, .inl rfl⟩,
    fun _ _ _ _ => registerFirst_append h.registerFirst fun _ _ => h.writing t c hc hst,
    fun _ _ _ => h.caller t c hc, fun u d hd hdst => absurd hdst (hmid' u d hd), fun _ _ => .inl ?_,
    h.accepting, h.response⟩
  · by_cases hu : u = t
    · exact hu ▸ h.held t c hc hcrit
    · exact h.held u d ((hother u hu).symm.trans hd) hdst
  · rcases List.mem_append.mp hx with hx | hx
    · exact h.range x hx
    · obtain rfl := List.mem_singleton.mp hx
      exact h.headerRange _ (.inr ⟨t, c, hc, hst, rfl⟩)
  · show s.received ++ c.payload = framesOf _ ++ []
    rw [hrec, framesOf_append, List.append_nil]
  · exact accepted_append (h.writing t c hc hst) _

/-- `serveFrames` writes the header of a response. -/
theorem serveHeader_inv (h : FrameInv s) {payload : Bytes} {accepted : Bool}
    (hs : s.serve = .respondHeader payload accepted) (hrange : PayloadInRange payload)
    (ho : s.connOpen = true) (hmid : ∀ t c, s.callers t = some c → c.stage ≠ .payload) :
    FrameInv { s with
      serve := .respondPayload payload accepted
      received := s.received ++ frameHeader payload } := by
  have hnone : ∀ p, ¬ s.HeaderOut p := by
    rintro p (⟨a, ha⟩ | ⟨u, d, hd, hdst, -⟩)
    · rw [hs] at ha
      cases ha
    · exact hmid u d hd hdst
  have hout : ∀ p, HeaderOut { s with
      serve := .respondPayload payload accepted
      received := s.received ++ frameHeader payload } p → p = payload := by
    rintro p (⟨a, ha⟩ | ⟨u, d, hd, hdst, -⟩)
    · cases ha
      rfl
    · exact absurd hdst (hmid u d hd)
  refine ⟨h.held, fun _ _ _ _ => hmid, fun p hp => hout p hp ▸ hrange, h.range,
    ⟨frameHeader payload, ?_, fun _ => .inr ⟨payload, .inl ⟨accepted, rfl⟩, rfl⟩,
      .inr ⟨payload, hrange, rfl⟩⟩, h.registerFirst, h.caller, h.writing, fun hr hopen => ?_, ?_,
    nofun⟩
  · show s.received ++ _ = _
    rw [h.bytes_of_none ho hnone]
  · rcases h.routed hr hopen with hacc | ⟨p, hp | hp⟩
    · exact .inl hacc
    · rw [hs] at hp
      cases hp
      exact .inr ⟨payload, .inr rfl⟩
    · rw [hs] at hp
      cases hp
  · rintro (⟨p, hp | hp⟩ | hp | hp)
    · cases hp
    · cases hp
      exact h.accepting (.inl ⟨payload, .inl hs⟩)
    · cases hp
    · exact h.accepting (.inr (.inr hp))

/-- `serveFrames` writes the payload of a response. -/
theorem servePayload_inv (h : FrameInv s) {payload : Bytes} {accepted : Bool}
    (hs : s.serve = .respondPayload payload accepted) (ho : s.connOpen = true) :
    FrameInv { s with
      serve := if accepted then .marking else .reading
      received := s.received ++ payload
      log := s.log ++ [⟨.serve accepted, payload⟩] } := by
  have hmid := h.exclusive ho payload accepted hs
  have hstage : ∀ p a, (if accepted then ServeStage.marking else .reading) ≠ .respondPayload p a ∧
      (if accepted then ServeStage.marking else .reading) ≠ .respondHeader p a := by
    cases accepted <;> simp
  have hrec := h.bytes_of_out ho payload (.inl ⟨accepted, hs⟩) (by
    rintro p (⟨a, ha⟩ | ⟨u, d, hd, hdst, -⟩)
    · rw [hs] at ha
      cases ha
      rfl
    · exact absurd hdst (hmid u d hd))
  have hnone : ∀ p, ¬ HeaderOut { s with
      serve := if accepted then .marking else .reading
      received := s.received ++ payload
      log := s.log ++ [⟨.serve accepted, payload⟩] } p := by
    rintro p (⟨a, ha⟩ | ⟨u, d, hd, hdst, -⟩)
    · exact (hstage p a).1 ha
    · exact hmid u d hd hdst
  refine ⟨h.held, fun _ _ _ _ => hmid, fun p hp => absurd hp (hnone p), fun x hx => ?_,
    ⟨[], ?_, fun _ => .inl ⟨rfl, hnone⟩, .inl rfl⟩,
    fun _ _ _ _ => registerFirst_append h.registerFirst (by rintro _ ⟨⟩), h.caller,
    fun u d hd hdst => absurd hdst (hmid u d hd), fun hr hopen => .inl ?_, ?_,
    fun p a hp => absurd hp (hstage p a).2⟩
  · rcases List.mem_append.mp hx with hx | hx
    · exact h.range x hx
    · obtain rfl := List.mem_singleton.mp hx
      exact h.headerRange _ (.inl ⟨accepted, hs⟩)
  · show s.received ++ payload = framesOf _ ++ []
    rw [hrec, framesOf_append, List.append_nil]
  · rcases h.routed hr hopen with hacc | ⟨p, hp | hp⟩
    · exact accepted_append hacc _
    · rw [hs] at hp
      cases hp
    · rw [hs] at hp
      cases hp
      exact ⟨payload, by simp⟩
  · rintro (⟨p, hp | hp⟩ | hp | hp)
    · exact absurd hp (hstage p true).2
    · exact absurd hp (hstage p true).1
    · cases accepted with
      | true => exact h.accepting (.inl ⟨payload, .inr hs⟩)
      | false => cases hp
    · exact h.accepting (.inr (.inr hp))

/-! ## Every step -/

/-- One step of a caller. -/
theorem advance_inv (h : FrameInv s) (hG : s.Alone (.advance t)) (hs : s.advance t = some s') :
    FrameInv s' := by
  obtain ⟨c, hc, hs⟩ := Option.bind_eq_some_iff.mp hs
  cases hst : c.stage with
  | numbering =>
    simp only [hst] at hs
    cases hs
    exact h.caller_inv hc rfl rfl rfl rfl rfl rfl rfl (by simp [hst]) nofun nofun fun _ _ _ _ _ => rfl
  | adding =>
    simp only [hst] at hs
    cases hs
    exact h.caller_inv hc rfl rfl rfl rfl rfl rfl rfl (by simp [hst]) nofun nofun fun _ _ _ _ _ => rfl
  | locking =>
    simp only [hst] at hs
    by_cases hfree : s.writeMu = none
    · rw [if_pos hfree] at hs
      cases hs
      refine h.caller_inv hc rfl rfl rfl rfl rfl rfl rfl (by simp [hst]) nofun (fun _ => rfl)
        fun u d _ hd hdst => ?_
      rw [h.held u d hd hdst] at hfree
      cases hfree
    · rw [if_neg hfree] at hs
      cases hs
  | header =>
    simp only [hst] at hs
    by_cases hw : PayloadInRange c.payload ∧ s.connOpen = true
    · rw [if_pos hw] at hs
      cases hs
      have hdue := hG c hc hst hw.1 hw.2
      exact h.callerHeader_inv hc hst hw.1 hw.2 (fun p a hp => by simp [serveDue, hp] at hdue)
        fun p hp => by simp [serveDue, hp] at hdue
    · rw [if_neg hw] at hs
      cases hs
      exact h.caller_inv hc rfl rfl rfl rfl rfl rfl rfl (by simp [hst]) nofun
        (fun _ => h.held t c hc (by rw [hst]; rfl)) fun _ _ _ _ _ => rfl
  | payload =>
    simp only [hst] at hs
    cases ho : s.connOpen with
    | true =>
      rw [if_pos ho] at hs
      cases hs
      exact h.callerPayload_inv hc hst ho
    | false =>
      rw [if_neg (by simp [ho])] at hs
      cases hs
      exact h.caller_inv hc rfl rfl rfl rfl rfl rfl rfl (fun _ => ho) nofun
        (fun _ => h.held t c hc (by rw [hst]; rfl)) fun _ _ _ _ _ => rfl
  | unlocking written =>
    simp only [hst] at hs
    cases hs
    refine h.caller_inv hc rfl rfl rfl rfl rfl rfl rfl (by simp [hst]) ?_ ?_ fun u d hu hd hdst => ?_
    · dsimp only
      split
      · nofun
      · split <;> nofun
    · dsimp only
      split
      · nofun
      · split <;> nofun
    · exact absurd (h.one_payload hc (by rw [hst]; rfl) hd hdst) hu
  | waiting =>
    simp only [hst] at hs
    split at hs
    · cases hs
      exact h.caller_inv hc rfl rfl rfl rfl rfl rfl rfl (by simp [hst]) nofun nofun
        fun _ _ _ _ _ => rfl
    · cases hs
      exact h.caller_inv hc rfl rfl rfl rfl rfl rfl rfl (by simp [hst]) nofun nofun
        fun _ _ _ _ _ => rfl
    · cases hs
  | forgetting timedOut =>
    simp only [hst] at hs
    cases hs
    exact h.caller_inv hc rfl rfl rfl rfl rfl rfl rfl (by simp [hst]) nofun nofun fun _ _ _ _ _ => rfl
  | returned result =>
    simp only [hst] at hs
    cases hs

theorem closeChan_link (s : StorerLink) (t : Nat) :
    ∃ chans panicked, s.closeChan t = { s with chans, panicked } := by
  unfold closeChan
  split
  · exact ⟨_, _, rfl⟩
  · exact ⟨_, _, rfl⟩

/-- `closePending` leaves the rest of the link alone. -/
theorem closePending_link (s : StorerLink) :
    ∃ chans panicked, s.closePending = { s with chans, panicked, pending := [] } := by
  unfold closePending
  suffices hfold : ∀ (ps : List (Nat × Nat)) (s : StorerLink),
      ∃ chans panicked, ps.foldl (fun s p => s.closeChan p.2) s = { s with chans, panicked } by
    obtain ⟨chans, panicked, hs⟩ := hfold s.pending { s with pending := [] }
    exact ⟨chans, panicked, hs⟩
  intro ps
  induction ps with
  | nil => exact fun s => ⟨_, _, rfl⟩
  | cons p ps ih =>
    intro s
    obtain ⟨chans, panicked, hs⟩ := closeChan_link s p.2
    obtain ⟨chans', panicked', hs'⟩ := ih (s.closeChan p.2)
    exact ⟨chans', panicked', by rw [List.foldl_cons, hs', hs]⟩

/-- The loop moves on, and neither reads, writes nor registers. -/
theorem serveOn_inv (h : FrameInv s) (hcallers : s'.callers = s.callers)
    (hmutex : s'.writeMu = s.writeMu) (hrec : s'.received = s.received) (hlog : s'.log = s.log)
    (hopen : s'.connOpen = true → s.connOpen = true) (hrouted : s'.routed = s.routed)
    (hregistered : s'.registered = s.registered)
    (hfrom : s'.connOpen = true → ∀ p a, s.serve ≠ .respondPayload p a ∧ s.serve ≠ .respondHeader p true)
    (hto : ∀ p a, s'.serve ≠ .respondPayload p a ∧ s'.serve ≠ .respondHeader p a)
    (hmark : s'.serve ≠ .marking) : FrameInv s' := by
  refine h.serve_inv hcallers hmutex hrec hlog hopen (fun p a hs => ?_) (fun p a => (hto p a).1)
    (fun hr => hrouted ▸ hr) (fun hr ho => ?_) ?_ fun p a hs => absurd hs (hto p a).2
  · cases ho : s'.connOpen with
    | true => exact absurd hs (hfrom ho p a).1
    | false => rfl
  · rw [hlog]
    rcases h.routed (hrouted ▸ hr) (hopen ho) with hacc | ⟨p, hp | hp⟩
    · exact .inl hacc
    · exact absurd hp (hfrom ho p true).2
    · exact absurd hp (hfrom ho p true).1
  · rintro (⟨p, hp | hp⟩ | hp | hp)
    · exact absurd hp (hto p true).2
    · exact absurd hp (hto p true).1
    · exact absurd hp hmark
    · exact hrouted ▸ h.accepting (.inr (.inr (hregistered ▸ hp)))

theorem registerGate_range (gatewayToken : Bytes) (header : Header) (body : Bytes)
    (diskFree : Bool) : PayloadInRange (registerGate gatewayToken header body diskFree).1 := by
  unfold registerGate
  split
  · exact buildErrorResponse_range _ _
  · split
    · exact buildErrorResponse_range _ _
    · split
      · exact buildErrorResponse_range _ _
      · split
        · exact buildErrorResponse_range _ _
        · exact buildErrorResponse_range header statusOK

/-- One step of `serveFrames` or of `Serve`. -/
theorem advanceServe_inv {gatewayToken : Bytes} {diskFree : Bool} (h : FrameInv s)
    (hG : s.Alone (.advanceServe diskFree)) (hs : s.advanceServe gatewayToken diskFree = some s') :
    FrameInv s' := by
  unfold advanceServe at hs
  cases hst : s.serve with
  | reading | finished =>
    simp only [hst] at hs
    cases hs
  | registering header body =>
    simp only [hst] at hs
    cases hs
    obtain ⟨⟨response, accepted⟩, hgate⟩ :
        ∃ r, registerGate gatewayToken header body diskFree = r := ⟨_, rfl⟩
    have hrange := registerGate_range gatewayToken header body diskFree
    rw [hgate] at hrange ⊢
    refine h.serve_inv rfl rfl rfl rfl id (by simp [hst]) nofun (fun hr => by simp [hr])
      (fun hr ho => ?_) ?_ fun p a hp => ?_
    · cases accepted with
      | true => exact .inr ⟨_, .inl rfl⟩
      | false =>
        replace hr : s.routed = true := (Bool.or_false _).symm.trans hr
        rcases h.routed hr ho with hacc | ⟨p, hp | hp⟩
        · exact .inl hacc
        · rw [hst] at hp
          cases hp
        · rw [hst] at hp
          cases hp
    · rintro (⟨p, hp | hp⟩ | hp | hp)
      · cases hp
        exact Bool.or_true _
      · cases hp
      · cases hp
      · simp [h.accepting (.inr (.inr hp))]
    · cases hp
      exact hrange
  | respondHeader payload accepted =>
    simp only [hst] at hs
    by_cases hw : PayloadInRange payload ∧ s.connOpen = true
    · rw [if_pos hw] at hs
      cases hs
      have hmid := hG (by simp [serveStarts, hst]) hw.2
      refine h.serveHeader_inv hst hw.1 hw.2 fun t c hc hcst => ?_
      simp [callerMid, h.held t c hc (by rw [hcst]; rfl), hc, hcst] at hmid
    · rw [if_neg hw] at hs
      cases hs
      have ho : s.connOpen = false := by
        simpa [h.response payload accepted hst] using hw
      exact h.serveOn_inv rfl rfl rfl rfl id rfl rfl (by simp [ho]) (by simp) nofun
  | respondPayload payload accepted =>
    simp only [hst] at hs
    cases ho : s.connOpen with
    | true =>
      rw [if_pos ho] at hs
      cases hs
      exact h.servePayload_inv hst ho
    | false =>
      rw [if_neg (by simp [ho])] at hs
      cases hs
      exact h.serveOn_inv rfl rfl rfl rfl id rfl rfl (by simp [ho]) (by simp) nofun
  | marking =>
    simp only [hst] at hs
    cases hs
    refine h.serve_inv rfl rfl rfl rfl id (by simp [hst]) nofun id (fun hr ho => ?_) ?_ nofun
    · rcases h.routed hr ho with hacc | ⟨p, hp | hp⟩
      · exact .inl hacc
      · rw [hst] at hp
        cases hp
      · rw [hst] at hp
        cases hp
    · exact fun _ => h.accepting (.inr (.inl hst))
  | sending t n =>
    simp only [hst] at hs
    obtain ⟨u, hu, rfl⟩ := Option.map_eq_some_iff.mp hs
    unfold send at hu
    split at hu
    · cases hu
      exact h.serveOn_inv rfl rfl rfl rfl id rfl rfl (by simp [hst]) (by simp) nofun
    · split at hu
      · cases hu
        exact h.serveOn_inv rfl rfl rfl rfl id rfl rfl (by simp [hst]) (by simp) nofun
      · cases hu
  | closingChan t =>
    simp only [hst] at hs
    cases hs
    obtain ⟨chans, panicked, hu⟩ := closeChan_link s t
    rw [hu]
    exact h.serveOn_inv rfl rfl rfl rfl id rfl rfl (by simp [hst]) (by simp) nofun
  | closingConn =>
    simp only [hst] at hs
    cases hs
    exact h.serveOn_inv rfl rfl rfl rfl nofun rfl rfl nofun (by simp) nofun
  | disconnectingRoutes | removing | notifying =>
    simp only [hst] at hs
    cases hs
    exact h.serveOn_inv rfl rfl rfl rfl id rfl rfl (by simp [hst]) (by simp) nofun
  | sweeping =>
    simp only [hst] at hs
    cases hs
    obtain ⟨chans, panicked, hu⟩ := closePending_link s
    rw [hu]
    exact h.serveOn_inv rfl rfl rfl rfl id rfl rfl (by simp [hst]) (by simp) nofun

/-- `serveFrames` reads a frame. -/
theorem read_inv (h : FrameInv s) (hst : s.serve = .reading) (payload : Bytes) :
    FrameInv (s.read payload) := by
  unfold read
  split
  · exact h.serveOn_inv rfl rfl rfl rfl id rfl rfl (by simp [hst]) (by simp) nofun
  · next header _ =>
    dsimp only
    split
    · split
      · rcases handleNotice_cases header (payload.drop headerSize) with hn | hn | ⟨p, hn, hp⟩
        · rw [hn]
          exact h.serveOn_inv rfl rfl rfl rfl id rfl rfl (by simp [hst]) (by simp) nofun
        · rw [hn]
          exact h.serveOn_inv rfl rfl rfl rfl id rfl rfl (by simp [hst]) (by simp) nofun
        · rw [hn]
          refine h.serve_inv rfl rfl rfl rfl id (by simp [hst]) nofun id (fun hr ho => ?_) ?_
            fun q a hq => ?_
          · rcases h.routed hr ho with hacc | ⟨q, hq | hq⟩
            · exact .inl hacc
            · rw [hst] at hq
              cases hq
            · rw [hst] at hq
              cases hq
          · rintro (⟨q, hq | hq⟩ | hq | hq)
            · cases hq
            · cases hq
            · cases hq
            · exact h.accepting (.inr (.inr hq))
          · cases hq
            exact hp
      · split
        · exact h.serveOn_inv rfl rfl rfl rfl id rfl rfl (by simp [hst]) (by simp) nofun
        · exact h.serveOn_inv rfl rfl rfl rfl id rfl rfl (by simp [hst]) (by simp) nofun
    · split
      · exact h.serveOn_inv rfl rfl rfl rfl id rfl rfl (by simp [hst]) (by simp) nofun
      · refine h.serveOn_inv rfl rfl rfl rfl id rfl rfl (by simp [hst]) (fun p a => ?_) ?_
        · unfold takePending
          dsimp only
          split <;> simp
        · unfold takePending
          dsimp only
          split <;> nofun

/-- A call begins. -/
theorem call_inv (h : FrameInv s) {kind : CallKind} {header : Header} {body : Bytes}
    {stage : CallStage} (hnew : s.callers t = none) (hrouted : s.routed = true)
    (hstage : stage ≠ .payload ∧ stage.critical = false) :
    FrameInv { s with
      callers := Function.update s.callers t (some ⟨kind, header, body, stage⟩) } := by
  have hother : ∀ u d, Function.update s.callers t (some ⟨kind, header, body, stage⟩) u = some d →
      d = ⟨kind, header, body, stage⟩ ∨ s.callers u = some d := by
    intro u d hd
    by_cases hu : u = t
    · subst hu
      rw [Function.update_self] at hd
      exact .inl (Option.some.inj hd).symm
    · rw [Function.update_of_ne hu] at hd
      exact .inr hd
  refine h.quiet ⟨rfl, rfl, id, fun _ _ => id, fun _ _ _ => id, fun u d hd hst => ?_,
    fun _ u d hd _ => ?_⟩ (fun u d hd hst => ?_) (fun _ _ _ => hrouted) h.routed h.accepting h.response
  · rcases hother u d hd with rfl | hd
    · exact absurd hst hstage.1
    · exact hd
  · refine (Function.update_of_ne (fun hu => ?_) ..).trans hd
    rw [hu, hnew] at hd
    cases hd
  · rcases hother u d hd with rfl | hd
    · rw [hstage.2] at hst
      cases hst
    · exact h.held u d hd hst

/-- **One step** of the link. -/
theorem step {gatewayToken : Bytes} (h : FrameInv s) (a : LinkAction) (hG : s.Alone a)
    (hs : s.step gatewayToken a = some s') : FrameInv s' := by
  cases a with
  | call t kind header body =>
    simp only [StorerLink.step] at hs
    split at hs
    · next hc =>
      cases hs
      have hrouted : s.routed = true := by
        cases kind with
        | heartbeat => exact h.accepting (.inr (.inr hc.2))
        | request | notice => exact (Bool.and_eq_true_iff.mp hc.2).2
      refine h.call_inv hc.1 hrouted ?_
      split <;> exact ⟨nofun, rfl⟩
    · cases hs
  | advance t => exact h.advance_inv hG hs
  | timeout t =>
    obtain ⟨c, hc, hs⟩ := Option.bind_eq_some_iff.mp hs
    split at hs
    · next hw =>
      cases hs
      exact h.caller_inv hc rfl rfl rfl rfl rfl rfl rfl (by simp [hw.2]) nofun nofun
        fun _ _ _ _ _ => rfl
    · cases hs
  | read payload =>
    simp only [StorerLink.step] at hs
    split at hs
    · next hst =>
      cases hs
      exact h.read_inv hst payload
    · cases hs
  | readError =>
    simp only [StorerLink.step] at hs
    split at hs
    · next hst =>
      cases hs
      exact h.serveOn_inv rfl rfl rfl rfl id rfl rfl (by simp [hst]) (by simp) nofun
    · cases hs
  | advanceServe diskFree => exact h.advanceServe_inv hG hs
  | closeConn =>
    cases hs
    exact h.quiet ⟨rfl, rfl, nofun, fun _ _ => id, nofun, fun _ _ hc _ => hc, nofun⟩ h.held h.caller
      (fun _ => nofun) h.accepting h.response

end FrameInv

theorem frameInv_init : FrameInv {} where
  held := nofun
  exclusive := nofun
  headerRange _ hp := by
    rcases hp with ⟨_, hp⟩ | ⟨_, _, hp, -⟩ <;> cases hp
  range := nofun
  bytes := ⟨[], rfl, fun _ => .inl ⟨rfl, by rintro p (⟨_, hp⟩ | ⟨_, _, hp, -⟩) <;> cases hp⟩, .inl rfl⟩
  registerFirst before t payload after h := by simp at h
  caller := nofun
  writing := nofun
  routed := nofun
  accepting h := by
    rcases h with ⟨_, hp | hp⟩ | hp | hp <;> cases hp
  response := nofun

/-- **Framing of the link**: as long as each header goes out alone and after the acceptance. -/
theorem framed_of_alone {gatewayToken : Bytes} {as : List LinkAction} {s : StorerLink}
    (hr : runFrom (step gatewayToken) {} as = some s)
    (hG : StepsMeet (step gatewayToken) Alone {} as) : s.Framed :=
  (run_inv_of_guard (fun _ a _ h hG hs => FrameInv.step h a hG hs) as {} s frameInv_init hG
    hr).framed

/-! ## Two runs that are not framed -/

/-- A session is opened while the acceptance is due. -/
def earlyRun : List LinkAction :=
  registering ++ .call 0 .request openHeader [] :: List.replicate 5 (.advance 0) ++ accepting

/-- **A request overtakes the acceptance** of the registration. -/
theorem early_request : ∃ s, runFrom (step [116]) {} earlyRun = some s ∧ s.connOpen = true ∧
    ¬ s.Framed := by
  obtain ⟨s, hs, hp⟩ := exists_run (step [116]) {} earlyRun
    (fun s => decide (s.connOpen = true ∧ s.log.map Sent.sender = [.call 0, .serve true]))
    (by decide)
  obtain ⟨ho, hlog⟩ := of_decide_eq_true hp
  refine ⟨s, hs, ho, fun h => ?_⟩
  obtain ⟨x, log, hx, hsender, -⟩ := List.map_eq_cons_iff.mp hlog
  obtain ⟨accepted, ha⟩ := h.head_sender hx
  rw [hsender] at ha
  cases ha

/-- A request goes out between the header and the payload of the acceptance. -/
def mixedRun : List LinkAction :=
  registering ++ [.advanceServe true, .call 0 .request openHeader []] ++
    List.replicate 6 (.advance 0) ++ [.advanceServe true, .advanceServe true]

/-- **The frames mix**: all writes are through, and the bytes are no frames. -/
theorem overlapped_frames : ∃ s, runFrom (step [116]) {} mixedRun = some s ∧ s.connOpen = true ∧
    s.serve = .reading ∧ ¬ s.Framed := by
  obtain ⟨s, hs, hp⟩ := exists_run (step [116]) {} mixedRun
    (fun s => decide (s.connOpen = true ∧ s.serve = .reading ∧ s.received ≠ []) &&
      (readTimes (readFrame maxPayloadSize) s.log.length [s.received]).toOption.all fun r =>
        r.1 ≠ s.log.map Sent.payload)
    (by decide)
  obtain ⟨hp, hread⟩ := Bool.and_eq_true_iff.mp hp
  obtain ⟨ho, hserve, hne⟩ := of_decide_eq_true hp
  refine ⟨s, hs, ho, hserve, fun h => ?_⟩
  have hwhole : Whole [s.received] := List.forall_mem_singleton.mpr hne
  obtain ⟨rest, htail⟩ := h.read hwhole (List.flatten_singleton ..)
  rw [htail] at hread
  simp [Except.toOption] at hread

/-! ## A run that is framed -/

/-- A storer sends a request of its own after the registration. -/
def strayRequest : LinkAction := .read (encodeHeader { opCode := 3, requestID := 7 })

def aloneRun : List LinkAction :=
  registering ++ accepting ++ .call 0 .request openHeader [] :: List.replicate 6 (.advance 0) ++
    [strayRequest, .advanceServe true, .advanceServe true]

theorem aloneRun_framed : ∃ s, runFrom (step [116]) {} aloneRun = some s ∧
    s.log.map Sent.sender = [.serve true, .call 0, .serve false] ∧ s.Framed := by
  obtain ⟨s, hs, hp⟩ := exists_run (step [116]) {} aloneRun
    (fun s => decide (s.log.map Sent.sender = [.serve true, .call 0, .serve false]))
    (by decide)
  exact ⟨s, hs, of_decide_eq_true hp, framed_of_alone hs (by decide)⟩

end YumeDisk.Server.StorerLink
