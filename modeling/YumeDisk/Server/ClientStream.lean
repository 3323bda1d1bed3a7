import Mathlib.Data.List.Nodup
import Mathlib.Logic.Function.Basic
import YumeDisk.Lib.Run
import YumeDisk.Server.Frame

/-!
# The bytes that go to one client (`transport/runtime.go`, `gateway/runtime.go`, `whole_runtime.go`)

Responses go through `transport.Runtime.WritePayload`, under `writeMu` of the transport runtime;
notices go through `NotifySessionClosed` and `NotifySessionDataChanged`, under the `write` mutex of
the client's entry in `clientConns`.  The gateway and the whole storer have the same two paths.
`WriteFrame` makes two `Write` calls, the header and the payload.

A thread is one call that sends one payload.  A `Write` is atomic; it fails from when the connection
is closed on.

`Framed`: the client has received whole frames, each of one send that wrote it, then at most the
header of a send in progress or cut off by the close.  The two mutexes do not exclude each other, so
it does not hold of every run (`mixed_frames`).  It holds as long as no header is written while the
other kind is between header and payload (`framed_of_separate`).
-/

namespace YumeDisk.Server

open YumeDisk.Lib

/-- Who sends, and under which mutex. -/
inductive Kind where
  | response
  | notice
deriving DecidableEq, Repr

inductive Stage where
  | locking
  | header
  | payload
  | unlocking (written : Bool)
  | closing
  | done (written : Bool)
deriving DecidableEq, Repr

/-- Between the two `Write` calls. -/
def Stage.mid : Stage → Bool
  | .payload => true
  | _ => false

/-- `WriteFrame` has returned nil. -/
def Stage.wrote : Stage → Bool
  | .unlocking written | .done written => written
  | _ => false

/-- `WriteFrame` has returned an error. -/
def Stage.failed : Stage → Bool
  | .unlocking written | .done written => !written
  | .closing => true
  | _ => false

/-- The mutex of the sender is held. -/
def Stage.critical : Stage → Bool
  | .header | .payload | .unlocking _ => true
  | _ => false

structure Writer where
  kind : Kind
  payload : Bytes
  stage : Stage
deriving DecidableEq, Repr

structure ClientStream where
  /-- `transport.Runtime.conn` is not nil. -/
  runtimeOpen : Bool := true
  /-- The connection is in `clientConns`. -/
  registered : Bool := true
  connOpen : Bool := true
  mutex : Kind → Option Nat := fun _ => none
  threads : Nat → Option Writer := fun _ => none
  received : Bytes := []

inductive StreamAction where
  | send (t : Nat) (kind : Kind) (payload : Bytes)
  | lock (t : Nat)
  | write (t : Nat)
  | unlock (t : Nat)
  | closeOnError (t : Nat)
  | closeRuntime
  | unregister
  | closeConn
deriving Repr

namespace ClientStream

def setStage (s : ClientStream) (t : Nat) (w : Writer) (stage : Stage) : ClientStream :=
  { s with threads := Function.update s.threads t (some { w with stage }) }

/-- The `Write` that thread `t` is at; `WriteFrame` checks the size before the first. -/
def writeStep (s : ClientStream) (t : Nat) (w : Writer) : Option ClientStream :=
  match w.stage with
  | .header =>
    if PayloadInRange w.payload ∧ s.connOpen then
      some { s.setStage t w .payload with received := s.received ++ frameHeader w.payload }
    else
      some (s.setStage t w (.unlocking false))
  | .payload =>
    if s.connOpen then
      some { s.setStage t w (.unlocking true) with received := s.received ++ w.payload }
    else
      some (s.setStage t w (.unlocking false))
  | _ => none

def step (s : ClientStream) : StreamAction → Option ClientStream
  | .send t kind payload =>
    if s.threads t = none ∧ (kind = .notice → s.registered) then
      some { s with threads := Function.update s.threads t (some ⟨kind, payload, .locking⟩) }
    else
      none
  | .lock t =>
    (s.threads t).bind fun w =>
      if w.stage = .locking ∧ s.mutex w.kind = none then
        let s := { s with mutex := Function.update s.mutex w.kind (some t) }
        -- `WritePayload` finds no connection once the runtime is closed
        if w.kind = .response ∧ !s.runtimeOpen then
          some (s.setStage t w (.unlocking false))
        else
          some (s.setStage t w .header)
      else
        none
  | .write t => (s.threads t).bind fun w => s.writeStep t w
  | .unlock t =>
    (s.threads t).bind fun w =>
      match w.stage with
      | .unlocking written =>
        let s := { s with mutex := Function.update s.mutex w.kind none }
        -- a notice closes the connection it could not write to
        if w.kind = .notice ∧ !written then
          some (s.setStage t w .closing)
        else
          some (s.setStage t w (.done written))
      | _ => none
  | .closeOnError t =>
    (s.threads t).bind fun w =>
      if w.stage = .closing then
        some { s.setStage t w (.done false) with connOpen := false }
      else
        none
  | .closeRuntime => some { s with runtimeOpen := false, connOpen := false }
  | .unregister => some { s with registered := false }
  | .closeConn => some { s with connOpen := false }

/-! ## Framing -/

/-- Thread `t` is between the header and the payload `p`. -/
def Mid (s : ClientStream) (t : Nat) (p : Bytes) : Prop :=
  ∃ w, s.threads t = some w ∧ w.payload = p ∧ w.stage.mid

/-- Thread `t` has written the whole frame of `p`. -/
def Wrote (s : ClientStream) (t : Nat) (p : Bytes) : Prop :=
  ∃ w, s.threads t = some w ∧ w.payload = p ∧ w.stage.wrote

/-- Thread `t` has failed to write the frame of `p`. -/
def Failed (s : ClientStream) (t : Nat) (p : Bytes) : Prop :=
  ∃ w, s.threads t = some w ∧ w.payload = p ∧ w.stage.failed

/-- The frames of the sends `fs`, in order. -/
def framesOf (fs : List (Nat × Bytes)) : Bytes := (fs.map Prod.snd).flatMap frame

/-- **The client's bytes are whole frames**, one for each send that wrote its frame, then at most
the header of a send that is not through, or that the close has cut off. -/
def Framed (s : ClientStream) : Prop :=
  ∃ (fs : List (Nat × Bytes)) (tail : Bytes), s.received = framesOf fs ++ tail ∧
    (fs.map Prod.fst).Nodup ∧ (∀ t p, (t, p) ∈ fs ↔ s.Wrote t p) ∧
    (∀ x ∈ fs, PayloadInRange x.2) ∧
    (tail = [] ∨ ∃ t p, tail = frameHeader p ∧ (s.Mid t p ∨ s.connOpen = false ∧ s.Failed t p))

/-! ## Two mutexes are not one -/

/-- A notice goes out between the header and the payload of a response. -/
def mixedRun : List StreamAction :=
  [.send 0 .response [1], .send 1 .notice [2, 3], .lock 0, .lock 1, .write 0, .write 1, .write 1,
    .write 0, .unlock 0, .unlock 1]

/-- **The frames mix**: all sends are through, and the client's bytes are no frames of theirs. -/
theorem mixed_frames : ∃ s, runFrom step {} mixedRun = some s ∧ s.connOpen = true ∧
    (∀ t w, s.threads t = some w → w.stage = .done true) ∧ ¬s.Framed := by
  obtain ⟨s, hs, hp⟩ := exists_run step {} mixedRun
    (fun s => decide (s.received = [0, 0, 0, 1, 2, 3, 1] ∧ s.connOpen = true)) (by decide)
  obtain ⟨hrec, ho⟩ := of_decide_eq_true hp
  have hthreads : ∀ t w, s.threads t = some w →
      w = ⟨.response, [1], .done true⟩ ∨ w = ⟨.notice, [2, 3], .done true⟩ := by
    intro t w hw
    obtain rfl := Option.some.inj hs
    by_cases h0 : t = 0
    · subst h0
      exact .inl (Option.some.inj hw).symm
    · by_cases h1 : t = 1
      · subst h1
        exact .inr (Option.some.inj hw).symm
      · simp [setStage, Function.update_of_ne h0, Function.update_of_ne h1] at hw
  refine ⟨s, hs, ho, fun t w hw => ?_, ?_⟩
  · rcases hthreads t w hw with rfl | rfl <;> rfl
  · rintro ⟨fs, tail, hdata, -, hwrote, -, htail⟩
    have hnil : tail = [] := by
      rcases htail with htail | ⟨t, p, -, ⟨w, hw, -, hm⟩ | ⟨hc, -⟩⟩
      · exact htail
      · rcases hthreads t w hw with rfl | rfl <;> cases hm
      · exact absurd (ho.symm.trans hc) (by simp)
    rw [hrec, hnil, List.append_nil] at hdata
    cases fs with
    | nil => cases hdata
    | cons x fs =>
      obtain ⟨w, hw, hp, -⟩ := (hwrote x.1 x.2).mp (by simp)
      -- the first frame would be that of the response or that of the notice
      rcases hthreads x.1 w hw with rfl | rfl <;>
      · simp [framesOf, ← hp, frame, frameHeader, putUint16] at hdata

/-! ## The invariant of the separated runs -/

/-- The mutex of a critical section is held. -/
def Held (s : ClientStream) : Prop :=
  ∀ t w, s.threads t = some w → w.stage.critical → s.mutex w.kind = some t

structure Inv (s : ClientStream) : Prop where
  held : s.Held
  one_mid : s.connOpen → ∀ t u p q, s.Mid t p → s.Mid u q → t = u
  range : ∀ t p, s.Mid t p ∨ s.Wrote t p → PayloadInRange p
  data : ∃ fs : List (Nat × Bytes), (fs.map Prod.fst).Nodup ∧ (∀ t p, (t, p) ∈ fs ↔ s.Wrote t p) ∧
    (s.connOpen → (∀ t p, s.Mid t p → s.received = framesOf fs ++ frameHeader p) ∧
      ((∀ t p, ¬s.Mid t p) → s.received = framesOf fs)) ∧
    (s.connOpen = false → s.received = framesOf fs ∨
      ∃ t p, (s.Mid t p ∨ s.Failed t p) ∧ s.received = framesOf fs ++ frameHeader p)

theorem Inv.framed {s : ClientStream} (h : s.Inv) : s.Framed := by
  obtain ⟨fs, hnd, hw, hopen, hclosed⟩ := h.data
  have hrange : ∀ x ∈ fs, PayloadInRange x.2 := fun x hx =>
    h.range x.1 x.2 (.inr ((hw x.1 x.2).mp hx))
  cases ho : s.connOpen with
  | true =>
    by_cases hm : ∃ t p, s.Mid t p
    · obtain ⟨t, p, hm⟩ := hm
      exact ⟨fs, _, (hopen ho).1 t p hm, hnd, hw, hrange, .inr ⟨t, p, rfl, .inl hm⟩⟩
    · refine ⟨fs, [], ?_, hnd, hw, hrange, .inl rfl⟩
      rw [List.append_nil]
      exact (hopen ho).2 fun t p ht => hm ⟨t, p, ht⟩
  | false =>
    rcases hclosed ho with hr | ⟨t, p, ht, hr⟩
    · exact ⟨fs, [], by rw [List.append_nil]; exact hr, hnd, hw, hrange, .inl rfl⟩
    · exact ⟨fs, _, hr, hnd, hw, hrange, .inr ⟨t, p, rfl, ht.imp id fun hf => ⟨ho, hf⟩⟩⟩

/-- A step that writes no byte and moves no thread into or out of a frame. -/
structure Quiet (s s' : ClientStream) : Prop where
  received : s'.received = s.received
  connOpen : s'.connOpen → s.connOpen
  mid : ∀ t p, s'.Mid t p ↔ s.Mid t p
  wrote : ∀ t p, s'.Wrote t p ↔ s.Wrote t p
  failed : ∀ t p, s.Failed t p → s'.Failed t p

theorem Inv.quiet {s s' : ClientStream} (h : s.Inv) (hq : Quiet s s') (hheld : s'.Held) :
    s'.Inv := by
  obtain ⟨fs, hnd, hw, hopen, hclosed⟩ := h.data
  refine ⟨hheld, fun ho t u p q ht hu => ?_, fun t p ht => ?_, fs, hnd, fun t p => ?_,
    fun ho => ⟨fun t p ht => ?_, fun hn => ?_⟩, fun ho => ?_⟩
  · exact h.one_mid (hq.connOpen ho) t u p q ((hq.mid t p).mp ht) ((hq.mid u q).mp hu)
  · exact h.range t p (ht.imp (hq.mid t p).mp (hq.wrote t p).mp)
  · rw [hw, hq.wrote]
  · rw [hq.received]
    exact (hopen (hq.connOpen ho)).1 t p ((hq.mid t p).mp ht)
  · rw [hq.received]
    exact (hopen (hq.connOpen ho)).2 fun t p ht => hn t p ((hq.mid t p).mpr ht)
  · rw [hq.received]
    cases hs : s.connOpen with
    | false =>
      rcases hclosed hs with hr | ⟨t, p, ht, hr⟩
      · exact .inl hr
      · exact .inr ⟨t, p, ht.imp (hq.mid t p).mpr (hq.failed t p), hr⟩
    | true =>
      by_cases hm : ∃ t p, s.Mid t p
      · obtain ⟨t, p, hm⟩ := hm
        exact .inr ⟨t, p, .inl ((hq.mid t p).mpr hm), (hopen hs).1 t p hm⟩
      · exact .inl ((hopen hs).2 fun t p ht => hm ⟨t, p, ht⟩)

/-! ## Steps of one thread -/

section Thread

variable {s s' : ClientStream} {t : Nat} {w : Writer} {st : Stage} {p : Bytes}

theorem mid_iff (hw : s.threads t = some w) : s.Mid t p ↔ w.payload = p ∧ w.stage.mid := by
  simp [Mid, hw]

theorem wrote_iff (hw : s.threads t = some w) : s.Wrote t p ↔ w.payload = p ∧ w.stage.wrote := by
  simp [Wrote, hw]

theorem failed_iff (hw : s.threads t = some w) :
    s.Failed t p ↔ w.payload = p ∧ w.stage.failed := by
  simp [Failed, hw]

/-- `s'` is `s` with thread `t` moved from `w` to stage `st`. -/
structure Moves (s s' : ClientStream) (t : Nat) (w : Writer) (st : Stage) : Prop where
  before : s.threads t = some w
  after : s'.threads t = some { w with stage := st }
  other : ∀ u, u ≠ t → s'.threads u = s.threads u

theorem moves_of_threads (hw : s.threads t = some w)
    (h : s'.threads = Function.update s.threads t (some { w with stage := st })) :
    Moves s s' t w st :=
  ⟨hw, by rw [h, Function.update_self], fun _ hu => by rw [h, Function.update_of_ne hu]⟩

theorem Moves.mid_other (h : Moves s s' t w st) {u : Nat} (hu : u ≠ t) :
    s'.Mid u p ↔ s.Mid u p := by
  simp only [Mid, h.other u hu]

theorem Moves.wrote_other (h : Moves s s' t w st) {u : Nat} (hu : u ≠ t) :
    s'.Wrote u p ↔ s.Wrote u p := by
  simp only [Wrote, h.other u hu]

theorem Moves.failed_other (h : Moves s s' t w st) {u : Nat} (hu : u ≠ t) :
    s'.Failed u p ↔ s.Failed u p := by
  simp only [Failed, h.other u hu]

/-- A thread that moves outside its frame writes nothing. -/
theorem Moves.quiet (h : Moves s s' t w st) (hrec : s'.received = s.received)
    (hopen : s'.connOpen → s.connOpen) (hmid : st.mid = w.stage.mid)
    (hwrote : st.wrote = w.stage.wrote) (hfailed : w.stage.failed → st.failed) :
    Quiet s s' := by
  refine ⟨hrec, hopen, fun u p => ?_, fun u p => ?_, fun u p hf => ?_⟩
  all_goals by_cases hu : u = t
  · rw [hu, mid_iff h.after, mid_iff h.before, hmid]
  · exact h.mid_other hu
  · rw [hu, wrote_iff h.after, wrote_iff h.before, hwrote]
  · exact h.wrote_other hu
  · rw [hu] at hf ⊢
    rw [failed_iff h.before] at hf
    exact (failed_iff h.after).mpr ⟨hf.1, hfailed hf.2⟩
  · exact (h.failed_other hu).mpr hf

/-- The mutexes of a state in which one thread has moved. -/
theorem Held.moves (hs : s.Held) (h : Moves s s' t w st)
    (hself : st.critical → s'.mutex w.kind = some t)
    (hmutex : ∀ u v, u ≠ t → s.threads u = some v → v.stage.critical →
      s'.mutex v.kind = s.mutex v.kind) : s'.Held := by
  intro u v hv hc
  by_cases hu : u = t
  · subst hu
    obtain rfl := Option.some.inj (h.after.symm.trans hv)
    exact hself hc
  · rw [h.other u hu] at hv
    rw [hmutex u v hu hv hc]
    exact hs u v hv hc

end Thread

/-! ## Every step -/

/-- A header is written only while no frame of the other kind is between its two `Write` calls. -/
def Separate (s : ClientStream) : StreamAction → Prop
  | .write t => ∀ w u v, s.threads t = some w → w.stage = .header → s.connOpen →
      s.threads u = some v → v.stage.mid → v.kind = w.kind
  | _ => True

section Step

variable {s s' : ClientStream} {t : Nat} {w : Writer}

theorem Inv.header_inv (h : s.Inv) (hw : s.threads t = some w) (hst : w.stage = .header)
    (hrange : PayloadInRange w.payload) (ho : s.connOpen)
    (hsep : ∀ u v, s.threads u = some v → v.stage.mid → v.kind = w.kind) :
    Inv { s.setStage t w .payload with received := s.received ++ frameHeader w.payload } := by
  have hm : Moves s { s.setStage t w .payload with
      received := s.received ++ frameHeader w.payload } t w .payload := moves_of_threads hw rfl
  have hlock := h.held t w hw (by rw [hst]; rfl)
  -- whoever is in a frame holds the same mutex, and that is thread `t`
  have hnone : ∀ u p, ¬s.Mid u p := by
    rintro u p ⟨v, hv, -, hmid⟩
    have hkind := hsep u v hv hmid
    have hu := h.held u v hv (by revert hmid; cases v.stage <;> simp [Stage.mid, Stage.critical])
    rw [hkind, hlock] at hu
    obtain rfl := Option.some.inj hu
    obtain rfl := Option.some.inj (hw.symm.trans hv)
    rw [hst] at hmid
    cases hmid
  have hmid : ∀ {u p}, Mid { s.setStage t w .payload with
      received := s.received ++ frameHeader w.payload } u p → u = t ∧ p = w.payload := by
    intro u p hu
    by_cases hut : u = t
    · subst hut
      exact ⟨rfl, ((mid_iff hm.after).mp hu).1.symm⟩
    · exact absurd ((hm.mid_other hut).mp hu) (hnone u p)
  have hwrote : ∀ u p, Wrote { s.setStage t w .payload with
      received := s.received ++ frameHeader w.payload } u p ↔ s.Wrote u p := by
    intro u p
    by_cases hut : u = t
    · subst hut
      rw [wrote_iff hm.after, wrote_iff hw, hst]
      simp [Stage.wrote]
    · exact hm.wrote_other hut
  obtain ⟨fs, hnd, hfs, hopen, -⟩ := h.data
  have hrec := (hopen ho).2 fun u p => hnone u p
  refine ⟨h.held.moves hm (fun _ => hlock) (fun _ _ _ _ _ => rfl), fun _ u v p q hu hv => ?_,
    fun u p hu => ?_, fs, hnd, fun u p => ?_, fun _ => ⟨fun u p hu => ?_, fun hn => ?_⟩,
    fun hc => ?_⟩
  · rw [(hmid hu).1, (hmid hv).1]
  · rcases hu with hu | hu
    · exact (hmid hu).2 ▸ hrange
    · exact h.range u p (.inr ((hwrote u p).mp hu))
  · rw [hfs, hwrote]
  · rw [(hmid hu).2, ← hrec]
  · exact absurd ⟨_, hm.after, rfl, rfl⟩ (hn t w.payload)
  · exact absurd (ho.symm.trans hc) (by simp)

theorem Inv.payload_inv (h : s.Inv) (hw : s.threads t = some w) (hst : w.stage = .payload)
    (ho : s.connOpen) :
    Inv { s.setStage t w (.unlocking true) with received := s.received ++ w.payload } := by
  have hm : Moves s { s.setStage t w (.unlocking true) with
      received := s.received ++ w.payload } t w (.unlocking true) := moves_of_threads hw rfl
  have hself : s.Mid t w.payload := (mid_iff hw).mpr ⟨rfl, by rw [hst]; rfl⟩
  have hnone : ∀ u p, ¬Mid { s.setStage t w (.unlocking true) with
      received := s.received ++ w.payload } u p := by
    intro u p hu
    by_cases hut : u = t
    · subst hut
      exact absurd ((mid_iff hm.after).mp hu).2 (by simp [Stage.mid])
    · exact hut (h.one_mid ho u t p _ ((hm.mid_other hut).mp hu) hself)
  have hwrote : ∀ u p, Wrote { s.setStage t w (.unlocking true) with
      received := s.received ++ w.payload } u p ↔ s.Wrote u p ∨ u = t ∧ p = w.payload := by
    intro u p
    by_cases hut : u = t
    · subst hut
      rw [wrote_iff hm.after, wrote_iff hw, hst]
      simp [Stage.wrote, eq_comm]
    · rw [hm.wrote_other hut]
      simp [hut]
  obtain ⟨fs, hnd, hfs, hopen, -⟩ := h.data
  have hrec := (hopen ho).1 t _ hself
  have hfresh : t ∉ fs.map Prod.fst := by
    intro hmem
    obtain ⟨⟨u, p⟩, hup, rfl⟩ := List.mem_map.mp hmem
    have := ((wrote_iff hw).mp ((hfs u p).mp hup)).2
    rw [hst] at this
    cases this
  refine ⟨h.held.moves hm (fun _ => h.held t w hw (by rw [hst]; rfl)) (fun _ _ _ _ _ => rfl),
    fun _ u v p q hu => absurd hu (hnone u p), fun u p hu => ?_,
    fs ++ [(t, w.payload)], ?_, fun u p => ?_,
    fun _ => ⟨fun u p hu => absurd hu (hnone u p), fun _ => ?_⟩, fun hc => ?_⟩
  · rcases hu with hu | hu
    · exact absurd hu (hnone u p)
    · rcases (hwrote u p).mp hu with hu | ⟨rfl, rfl⟩
      · exact h.range u p (.inr hu)
      · exact h.range u _ (.inl hself)
  · rw [List.map_append]
    refine List.nodup_append.mpr ⟨hnd, by simp, ?_⟩
    intro a ha b hb
    obtain rfl : b = t := by simpa using hb
    exact fun hab => hfresh (hab ▸ ha)
  · rw [hwrote, ← hfs]
    simp
  · show s.received ++ w.payload = _
    rw [hrec]
    simp [framesOf, frame]
  · exact absurd (ho.symm.trans hc) (by simp)

/-- A `Write` on a closed connection, or of a payload out of range. -/
theorem Inv.write_failed (h : s.Inv) (hw : s.threads t = some w)
    (hst : w.stage = .header ∨ w.stage = .payload ∧ s.connOpen = false) :
    (s.setStage t w (.unlocking false)).Inv := by
  have hm : Moves s (s.setStage t w (.unlocking false)) t w (.unlocking false) :=
    moves_of_threads hw rfl
  have hheld : (s.setStage t w (.unlocking false)).Held := by
    refine h.held.moves hm (fun _ => h.held t w hw ?_) (fun _ _ _ _ _ => rfl)
    rcases hst with hst | ⟨hst, -⟩ <;> rw [hst] <;> rfl
  rcases hst with hst | ⟨hst, ho⟩
  · exact h.quiet (hm.quiet rfl id (by rw [hst]; rfl) (by rw [hst]; rfl)
      (by rw [hst]; simp [Stage.failed])) hheld
  · obtain ⟨fs, hnd, hfs, -, hclosed⟩ := h.data
    have hwrote : ∀ u p, (s.setStage t w (.unlocking false)).Wrote u p ↔ s.Wrote u p := by
      intro u p
      by_cases hut : u = t
      · subst hut
        rw [wrote_iff hm.after, wrote_iff hw, hst]
        simp [Stage.wrote]
      · exact hm.wrote_other hut
    refine ⟨hheld, fun hc => absurd (ho.symm.trans hc) (by simp), fun u p hu => ?_, fs, hnd,
      fun u p => ?_, fun hc => absurd (ho.symm.trans hc) (by simp), fun _ => ?_⟩
    · by_cases hut : u = t
      · subst hut
        rw [mid_iff hm.after, wrote_iff hm.after] at hu
        simp [Stage.mid, Stage.wrote] at hu
      · exact h.range u p (hu.imp (hm.mid_other hut).mp (hm.wrote_other hut).mp)
    · rw [hfs, hwrote]
    · refine (hclosed ho).imp id ?_
      rintro ⟨u, p, hu, hrec⟩
      refine ⟨u, p, ?_, hrec⟩
      by_cases hut : u = t
      · subst hut
        right
        rw [failed_iff hm.after]
        exact ⟨hu.elim (fun h' => ((mid_iff hw).mp h').1) fun h' => ((failed_iff hw).mp h').1, rfl⟩
      · exact hu.imp (hm.mid_other hut).mpr (hm.failed_other hut).mpr

/-- A step that touches no thread. -/
theorem Inv.flags (h : s.Inv) (hthreads : s'.threads = s.threads) (hmutex : s'.mutex = s.mutex)
    (hrec : s'.received = s.received) (hopen : s'.connOpen → s.connOpen) : s'.Inv := by
  refine h.quiet ⟨hrec, hopen, ?_, ?_, ?_⟩ ?_
  · simp [Mid, hthreads]
  · simp [Wrote, hthreads]
  · simp [Failed, hthreads]
  · intro t w
    rw [hthreads, hmutex]
    exact h.held t w

/-- **Every separate step** keeps the invariant. -/
theorem step_inv (s : ClientStream) (a : StreamAction) (s' : ClientStream) (h : s.Inv)
    (hsep : s.Separate a) (hs : s.step a = some s') : s'.Inv := by
  cases a with
  | send t kind payload =>
    by_cases hc : s.threads t = none ∧ (kind = .notice → s.registered)
    · obtain rfl := Option.some.inj ((if_pos hc).symm.trans hs)
      have hnew : ∀ u, u ≠ t → Function.update s.threads t (some ⟨kind, payload, .locking⟩) u =
          s.threads u := fun u hu => Function.update_of_ne hu ..
      refine h.quiet ⟨rfl, id, fun u p => ?_, fun u p => ?_, fun u p hf => ?_⟩ fun u v hv hcr => ?_
      all_goals by_cases hu : u = t
      · simp [Mid, hu, hc.1, Stage.mid]
      · simp [Mid, hnew u hu]
      · simp [Wrote, hu, hc.1, Stage.wrote]
      · simp [Wrote, hnew u hu]
      · simp [Failed, hu, hc.1] at hf
      · simpa [Failed, hnew u hu] using hf
      · subst hu
        have hv' : some (⟨kind, payload, .locking⟩ : Writer) = some v :=
          (Function.update_self (f := s.threads) ..).symm.trans hv
        obtain rfl := Option.some.inj hv'
        cases hcr
      · exact h.held u v ((hnew u hu).symm.trans hv) hcr
    · cases (if_neg hc).symm.trans hs
  | lock t =>
    obtain ⟨w, hw, hs⟩ := Option.bind_eq_some_iff.mp hs
    by_cases hc : w.stage = .locking ∧ s.mutex w.kind = none
    · rw [if_pos hc] at hs
      have hmutex : ∀ u v, u ≠ t → s.threads u = some v → v.stage.critical →
          Function.update s.mutex w.kind (some t) v.kind = s.mutex v.kind := by
        intro u v hu hv hcr
        refine Function.update_of_ne (fun hk => ?_) ..
        have := h.held u v hv hcr
        rw [hk, hc.2] at this
        cases this
      by_cases hr : w.kind = .response ∧ !s.runtimeOpen
      · rw [if_pos hr] at hs
        obtain rfl := Option.some.inj hs
        have hm : Moves s (setStage { s with mutex := Function.update s.mutex w.kind (some t) } t w
            (.unlocking false)) t w (.unlocking false) := moves_of_threads hw rfl
        exact h.quiet (hm.quiet rfl id (by rw [hc.1]; rfl) (by rw [hc.1]; rfl)
          (by rw [hc.1]; simp [Stage.failed]))
          (h.held.moves hm (fun _ => Function.update_self ..) hmutex)
      · rw [if_neg hr] at hs
        obtain rfl := Option.some.inj hs
        have hm : Moves s (setStage { s with mutex := Function.update s.mutex w.kind (some t) } t w
            .header) t w .header := moves_of_threads hw rfl
        exact h.quiet (hm.quiet rfl id (by rw [hc.1]; rfl) (by rw [hc.1]; rfl)
          (by rw [hc.1]; simp [Stage.failed]))
          (h.held.moves hm (fun _ => Function.update_self ..) hmutex)
    · rw [if_neg hc] at hs
      cases hs
  | write t =>
    obtain ⟨w, hw, hs⟩ := Option.bind_eq_some_iff.mp hs
    unfold writeStep at hs
    cases hst : w.stage with
    | header =>
      simp only [hst] at hs
      by_cases hc : PayloadInRange w.payload ∧ s.connOpen
      · rw [if_pos hc] at hs
        obtain rfl := Option.some.inj hs
        exact h.header_inv hw hst hc.1 hc.2 fun u v hv hmid => hsep w u v hw hst hc.2 hv hmid
      · rw [if_neg hc] at hs
        obtain rfl := Option.some.inj hs
        exact h.write_failed hw (.inl hst)
    | payload =>
      simp only [hst] at hs
      by_cases ho : s.connOpen = true
      · rw [if_pos ho] at hs
        obtain rfl := Option.some.inj hs
        exact h.payload_inv hw hst ho
      · rw [if_neg ho] at hs
        obtain rfl := Option.some.inj hs
        exact h.write_failed hw (.inr ⟨hst, by simpa using ho⟩)
    | locking | unlocking _ | closing | done _ => simp [hst] at hs
  | unlock t =>
    obtain ⟨w, hw, hs⟩ := Option.bind_eq_some_iff.mp hs
    cases hst : w.stage with
    | unlocking written =>
      simp only [hst] at hs
      have hheld := h.held t w hw (by rw [hst]; rfl)
      have hmutex : ∀ u v, u ≠ t → s.threads u = some v → v.stage.critical →
          Function.update s.mutex w.kind none v.kind = s.mutex v.kind := by
        intro u v hu hv hcr
        refine Function.update_of_ne (fun hk => hu ?_) ..
        have := h.held u v hv hcr
        rw [hk, hheld] at this
        exact (Option.some.inj this).symm
      by_cases hc : w.kind = .notice ∧ !written
      · rw [if_pos hc] at hs
        obtain rfl := Option.some.inj hs
        have hm : Moves s (setStage { s with mutex := Function.update s.mutex w.kind none } t w
            .closing) t w .closing := moves_of_threads hw rfl
        obtain rfl : written = false := by simpa using hc.2
        exact h.quiet (hm.quiet rfl id (by rw [hst]; rfl) (by rw [hst]; rfl) fun _ => rfl)
          (h.held.moves hm (nomatch ·) hmutex)
      · rw [if_neg hc] at hs
        obtain rfl := Option.some.inj hs
        have hm : Moves s (setStage { s with mutex := Function.update s.mutex w.kind none } t w
            (.done written)) t w (.done written) := moves_of_threads hw rfl
        exact h.quiet (hm.quiet rfl id (by rw [hst]; rfl) (by rw [hst]; rfl) (by rw [hst]; exact id))
          (h.held.moves hm (nomatch ·) hmutex)
    | locking | header | payload | closing | done _ => simp [hst] at hs
  | closeOnError t =>
    obtain ⟨w, hw, hs⟩ := Option.bind_eq_some_iff.mp hs
    by_cases hst : w.stage = .closing
    · rw [if_pos hst] at hs
      obtain rfl := Option.some.inj hs
      have hm : Moves s { s.setStage t w (.done false) with connOpen := false } t w (.done false) :=
        moves_of_threads hw rfl
      exact h.quiet (hm.quiet rfl (nomatch ·) (by rw [hst]; rfl) (by rw [hst]; rfl) fun _ => rfl)
        (h.held.moves hm (nomatch ·) (fun _ _ _ _ _ => rfl))
    · rw [if_neg hst] at hs
      cases hs
  | closeRuntime =>
    obtain rfl := Option.some.inj hs
    exact h.flags rfl rfl rfl (nomatch ·)
  | unregister =>
    obtain rfl := Option.some.inj hs
    exact h.flags rfl rfl rfl id
  | closeConn =>
    obtain rfl := Option.some.inj hs
    exact h.flags rfl rfl rfl (nomatch ·)

end Step

theorem init_inv : Inv {} := by
  refine ⟨fun t w hw => (by cases hw), fun _ t u p q ht => ?_, fun t p ht => ?_, [], by simp,
    fun t p => ?_, fun _ => ⟨fun t p ht => ?_, fun _ => rfl⟩, fun h => (by cases h)⟩
  · simp [Mid] at ht
  · simp [Mid, Wrote] at ht
  · simp [Wrote]
  · simp [Mid] at ht

/-- **Framing of the separate runs**: as long as no header goes out inside a frame of the other
kind, the client receives whole frames. -/
theorem framed_of_separate {as : List StreamAction} {s : ClientStream}
    (hr : runFrom step {} as = some s) (hsep : StepsMeet step Separate {} as) : s.Framed :=
  (run_inv_of_guard step_inv as {} s init_inv hsep hr).framed

/-- A response and a notice, one after the other. -/
def separateRun : List StreamAction :=
  [.send 0 .response [1], .lock 0, .write 0, .write 0, .unlock 0,
    .send 1 .notice [2, 3], .lock 1, .write 1, .write 1, .unlock 1]

theorem separateRun_framed : ∃ s, runFrom step {} separateRun = some s ∧
    s.received = [0, 0, 1, 0, 1, 2, 3] ∧ s.Framed := by
  refine ⟨_, rfl, rfl, framed_of_separate (show runFrom step {} separateRun = some _ from rfl) ?_⟩
  refine stepsMeet_cons trivial rfl (stepsMeet_cons trivial rfl (stepsMeet_cons ?_ rfl
    (stepsMeet_cons ?_ rfl (stepsMeet_cons trivial rfl (stepsMeet_cons trivial rfl
      (stepsMeet_cons trivial rfl (stepsMeet_cons ?_ rfl (stepsMeet_cons ?_ rfl
        (stepsMeet_cons trivial rfl trivial)))))))))
  -- at each `Write`: no other thread is between its header and its payload
  all_goals
    intro w u v hw hst _ hv hm
    obtain rfl := Option.some.inj hw
    by_cases h0 : u = 0
    · subst h0
      obtain rfl := Option.some.inj hv
      first | rfl | cases hm
    · by_cases h1 : u = 1
      · subst h1
        first
        | cases (show none = some v from hv)
        | obtain rfl := Option.some.inj hv
          rfl
      · simp [setStage, Function.update_of_ne h0, Function.update_of_ne h1] at hv

end ClientStream

end YumeDisk.Server
