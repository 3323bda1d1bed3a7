import Mathlib.Data.List.Nodup
import YumeDisk.Server.StorerSession

/-!
# One session at a time

* `ExclusiveSafety`: one record, which is there until it is closing and its I/Os are over.
* `StepSafety`: what a step lets begin.
* `Unwrapped`: the condition on a step: no counter of the manager wraps.
* `exclusive_safety`: the runs that meet it are safe; `wrapped_removed` is one that is not.
-/

namespace YumeDisk.Server.StorerSession

open YumeDisk.Lib

/-! ## Statement -/

structure ExclusiveSafety (s : Service) : Prop where
  oneRecord : s.manager.items.length ≤ 1
  ids : s.opened.Nodup ∧ 0 ∉ s.opened
  /-- A record is gone exactly when it is closing and no I/O is in flight. -/
  removed : ∀ id ∈ s.opened,
    s.manager.find id = none ↔ id ∈ s.marked ∧ s.outstanding id = 0
  /-- The I/Os in flight are of one session. -/
  oneSession : ∀ io ∈ s.ios, ∀ io' ∈ s.ios, io.released = false → io'.released = false →
    io.record.id = io'.record.id
  /-- The storage is accessed under a lease. -/
  leased : ∀ io ∈ s.ios, io.stage = .accessing → io.released = false

structure StepSafety (s s' : Service) : Prop where
  /-- No I/O begins on a session that is closing. -/
  begins : ∀ io, s'.ios = s.ios ++ [io] → io.record.id ∈ s.opened ∧ io.record.id ∉ s.marked
  /-- A session is opened when every I/O is over. -/
  opens : ∀ id, s'.opened = s.opened ++ [id] → ∀ io ∈ s.ios, io.released = true

/-- No counter wraps: neither the ids of the sessions nor the I/Os in flight of one session. -/
def Unwrapped (s : Service) : Action → Prop
  | .open .. => s.opened.length + 1 < 2 ^ 64
  | .begin sessionID .. => s.outstanding sessionID + 1 < 2 ^ 32
  | _ => True

instance (s : Service) (a : Action) : Decidable (Unwrapped s a) := by
  cases a <;> unfold Unwrapped <;> infer_instance

/-! ## The manager with one record -/

namespace ManagerState

variable {m : ManagerState} {e : ManagedRecord} {id : UInt64}

theorem find_single (h : m.items = [e]) :
    m.find id = if e.record.id = id then some e else none := by
  simp [find, h, List.find?_cons]
  split <;> simp_all

theorem put_items (h : m.items = [e]) {e' : ManagedRecord} (hid : e'.record.id = e.record.id) :
    (m.put e').items = [e'] := by
  simp [put, delete, h, hid]

theorem delete_items (h : m.items = [e]) : (m.delete e.record.id).items = [] := by
  simp [delete, h]

theorem closeLocked_of_ne (h : m.items = [e]) (hid : e.record.id ≠ id) :
    m.closeLocked id = m := by
  unfold closeLocked
  rw [find_single h, if_neg hid]

theorem closeLocked_nextID (m : ManagerState) (id : UInt64) :
    (m.closeLocked id).nextID = m.nextID := by
  unfold closeLocked
  split
  · rfl
  · split <;> rfl

/-- The record is removed, or marked while I/Os are in flight. -/
theorem closeLocked_items (h : m.items = [e]) :
    (m.closeLocked e.record.id).items =
      if e.inFlight = 0 then [] else [{ e with record := { e.record with closing := true } }] := by
  unfold closeLocked
  rw [find_single h, if_pos rfl]
  dsimp only
  split
  · exact delete_items h
  · exact put_items h rfl

theorem closeConnection_single (h : m.items = [e]) (connection : UInt64) :
    m.closeConnection connection =
      if e.record.connection = connection then m.closeLocked e.record.id else m := by
  unfold closeConnection
  rw [h]
  by_cases hc : e.record.connection = connection <;> simp [hc]

theorem beginIO_ok (h : m.items = [e]) {m' : ManagerState} {record : Record}
    (hb : m.beginIO id = .ok (m', record)) :
    e.record.id = id ∧ record = e.record ∧ e.record.closing = false ∧
      m' = m.put { e with inFlight := e.inFlight + 1 } := by
  unfold beginIO at hb
  rw [find_single h] at hb
  by_cases hid : e.record.id = id
  · rw [if_pos hid] at hb
    by_cases hc : e.record.closing = true
    · simp only [hc, if_true] at hb
      cases hb
    · simp only [hc] at hb
      cases hb
      exact ⟨hid, rfl, by simpa using hc, rfl⟩
  · rw [if_neg hid] at hb
    cases hb

/-- The last I/O of a closing record removes it. -/
theorem endIO_items (h : m.items = [e]) (hpos : 0 < e.inFlight) :
    (m.endIO e.record.id).items =
      if e.record.closing = true ∧ e.inFlight - 1 = 0 then []
      else [{ e with inFlight := e.inFlight - 1 }] := by
  unfold endIO
  rw [find_single h, if_pos rfl]
  simp only [gt_iff_lt, hpos, if_true]
  split
  · exact delete_items h
  · exact put_items h rfl

theorem endIO_nextID (m : ManagerState) (id : UInt64) : (m.endIO id).nextID = m.nextID := by
  unfold endIO
  split
  · rfl
  · dsimp only
    split <;> split <;> rfl

theorem mem_items (h : m.items = [e]) : e ∈ m.items := h ▸ List.mem_singleton_self e

end ManagerState

/-! ## The I/Os of a session -/

section Outstanding

variable {s s' : Service} {k : Nat} {io io' : Io} {id : UInt64}

theorem outstanding_eq_zero : s.outstanding id = 0 ↔
    ∀ io ∈ s.ios, io.released = false → io.record.id ≠ id := by
  simp only [Service.outstanding, List.countP_eq_zero, decide_eq_true_eq, not_and,
    Bool.not_eq_true', Bool.not_eq_false]
  refine ⟨fun h io hio hr hid => ?_, fun h io hio hid => ?_⟩
  · rw [h io hio hid] at hr
    cases hr
  · cases hr : io.released with
    | true => rfl
    | false => exact absurd hid (h io hio hr)

theorem outstanding_append (hios : s'.ios = s.ios ++ [io]) (hr : io.released = false) :
    s'.outstanding io.record.id = s.outstanding io.record.id + 1 := by
  simp [Service.outstanding, hios, hr]

theorem outstanding_set (hk : s.ios[k]? = some io) (hios : s'.ios = s.ios.set k io')
    (hid : io'.record.id = io.record.id) (hr : io'.released = io.released) :
    s'.outstanding id = s.outstanding id := by
  obtain ⟨hlt, hget⟩ := List.getElem?_eq_some_iff.mp hk
  have hpos : (decide (io.record.id = id ∧ (!io.released) = true)) = true →
      0 < s.outstanding id := fun hp => List.countP_pos_iff.mpr ⟨io, List.mem_of_getElem? hk, hp⟩
  simp only [Service.outstanding, hios, List.countP_set hlt, hget, hid, hr] at hpos ⊢
  split
  · next hp =>
    have := hpos hp
    omega
  · omega

theorem outstanding_release (hk : s.ios[k]? = some io) (hr : io.released = false)
    (hios : s'.ios = s.ios.set k { io with released := true }) :
    s'.outstanding io.record.id + 1 = s.outstanding io.record.id := by
  obtain ⟨hlt, hget⟩ := List.getElem?_eq_some_iff.mp hk
  have hpos : 0 < s.outstanding io.record.id :=
    List.countP_pos_iff.mpr ⟨io, List.mem_of_getElem? hk, by simp [hr]⟩
  simp only [Service.outstanding, hios, List.countP_set hlt, hget, hr] at hpos ⊢
  show _ - 1 + 0 + 1 = _
  omega

theorem mem_set_ios (hios : s'.ios = s.ios.set k io') {x : Io}
    (hx : x ∈ s'.ios) : x = io' ∨ x ∈ s.ios := by
  rw [hios] at hx
  exact (List.mem_or_eq_of_mem_set hx).symm

end Outstanding

/-! ## The invariant -/

structure RecordInv (s : Service) (e : ManagedRecord) : Prop where
  inFlight : e.inFlight.toNat = s.outstanding e.record.id
  closing : e.record.closing = true ↔ e.record.id ∈ s.marked
  drains : e.record.closing = true → s.outstanding e.record.id ≠ 0
  opened : e.record.id ∈ s.opened

structure Inv (s : Service) : Prop where
  items : s.manager.items = [] ∨ ∃ e, s.manager.items = [e] ∧ RecordInv s e
  next : s.manager.nextID.toNat = s.opened.length
  nodup : s.opened.Nodup
  opened : ∀ id ∈ s.opened, id ≠ 0 ∧ id.toNat ≤ s.opened.length
  marked : ∀ id ∈ s.marked, id ∈ s.opened
  gone : ∀ id ∈ s.opened, (∀ e ∈ s.manager.items, e.record.id ≠ id) → id ∈ s.marked
  live : ∀ io ∈ s.ios, io.released = false → ∃ e ∈ s.manager.items, e.record.id = io.record.id
  leased : ∀ io ∈ s.ios, io.stage = .accessing → io.released = false

namespace Inv

variable {s s' : Service} {e : ManagedRecord}

theorem safety (h : Inv s) : ExclusiveSafety s where
  oneRecord := by
    rcases h.items with hm | ⟨e, hm, -⟩ <;> rw [hm] <;> simp
  ids := ⟨h.nodup, fun h0 => (h.opened 0 h0).1 rfl⟩
  removed id hid := by
    rcases h.items with hm | ⟨e, hm, he⟩
    · refine ⟨fun _ => ⟨h.gone id hid (by simp [hm]), outstanding_eq_zero.mpr ?_⟩,
        fun _ => by simp [ManagerState.find, hm]⟩
      intro io hio hr
      obtain ⟨e, he, -⟩ := h.live io hio hr
      simp [hm] at he
    · rw [ManagerState.find_single hm]
      by_cases heq : e.record.id = id
      · subst heq
        rw [if_pos rfl]
        refine ⟨nofun, fun ⟨hmark, hzero⟩ => ?_⟩
        exact absurd hzero (he.drains (he.closing.mpr hmark))
      · rw [if_neg heq]
        refine ⟨fun _ => ⟨h.gone id hid (by simp [hm, heq]), outstanding_eq_zero.mpr ?_⟩,
          fun _ => rfl⟩
        intro io hio hr hio_id
        obtain ⟨e', he', hid'⟩ := h.live io hio hr
        obtain rfl : e' = e := by simpa [hm] using he'
        exact heq (hid'.trans hio_id)
  oneSession io hio io' hio' hr hr' := by
    obtain ⟨e, he, hid⟩ := h.live io hio hr
    obtain ⟨e', he', hid'⟩ := h.live io' hio' hr'
    rcases h.items with hm | ⟨e₀, hm, -⟩
    · simp [hm] at he
    · obtain rfl : e = e₀ := by simpa [hm] using he
      obtain rfl : e' = e := by simpa [hm] using he'
      exact hid.symm.trans hid'
  leased := h.leased

/-- A session is opened. -/
theorem open_inv (h : Inv s) (hm : s.manager.items = []) (connection : UInt64)
    (metadata : Metadata) (hG : s.opened.length + 1 < 2 ^ 64) :
    Inv { s with
      manager := (s.manager.storeLocked { connection, metadata }).1
      opened := s.opened ++ [(s.manager.storeLocked { connection, metadata }).2.id] } := by
  have hnext : (s.manager.nextID + 1).toNat = s.opened.length + 1 := by
    rw [UInt64.toNat_add, h.next]
    show (s.opened.length + 1) % 2 ^ 64 = _
    omega
  have hne : s.manager.nextID + 1 ≠ 0 := by
    intro h0
    rw [h0] at hnext
    cases hnext
  have hid : s.manager.nextSessionIDLocked = s.manager.nextID + 1 := if_neg hne
  have hfresh : s.manager.nextID + 1 ∉ s.opened := by
    intro hmem
    have := (h.opened _ hmem).2
    omega
  have hreleased : ∀ io ∈ s.ios, io.released = true := by
    intro io hio
    cases hr : io.released with
    | true => rfl
    | false =>
      obtain ⟨e, he, -⟩ := h.live io hio hr
      simp [hm] at he
  have hzero : ∀ id, s.outstanding id = 0 := fun id => outstanding_eq_zero.mpr fun io hio hr => by
    rw [hreleased io hio] at hr
    cases hr
  simp only [ManagerState.storeLocked, hid]
  refine ⟨.inr ⟨_, by simp [ManagerState.put, ManagerState.delete, hm]; rfl, ?_⟩, ?_, ?_, ?_, ?_,
    ?_, ?_, h.leased⟩
  · refine ⟨(hzero _).symm, ⟨nofun, fun hmark => ?_⟩, nofun, by simp⟩
    exact absurd (h.marked _ hmark) hfresh
  · show (s.manager.nextID + 1).toNat = (s.opened ++ [_]).length
    rw [hnext, List.length_append, List.length_singleton]
  · exact List.nodup_append.mpr ⟨h.nodup, by simp, by
      rintro a ha b hb rfl
      obtain rfl : a = s.manager.nextID + 1 := by simpa using hb
      exact hfresh ha⟩
  · intro id hmem
    rw [List.length_append, List.length_singleton]
    rcases List.mem_append.mp hmem with hmem | hmem
    · have := h.opened id hmem
      exact ⟨this.1, by omega⟩
    · obtain rfl : id = s.manager.nextID + 1 := by simpa using hmem
      exact ⟨hne, by omega⟩
  · exact fun id hmem => List.mem_append_left _ (h.marked id hmem)
  · intro id hmem hnone
    rcases List.mem_append.mp hmem with hmem | hmem
    · exact h.gone id hmem (by simp [hm])
    · obtain rfl : id = s.manager.nextID + 1 := by simpa using hmem
      simp [ManagerState.put] at hnone
  · intro io hio hr
    rw [hreleased io hio] at hr
    cases hr

/-- A close that finds the record, or does not. -/
theorem close_inv (h : Inv s) (p : Record → Bool) {m : ManagerState}
    (hm : ∀ e, s.manager.items = [e] →
      m = if p e.record then s.manager.closeLocked e.record.id else s.manager)
    (hnil : s.manager.items = [] → m = s.manager) :
    Inv { s with manager := m, marked := s.marked ++ s.closes p } := by
  rcases h.items with hitems | ⟨e, hitems, he⟩
  · have hcl : s.closes p = [] := by simp [Service.closes, hitems]
    rw [hcl, List.append_nil, hnil hitems]
    exact h
  rw [hm e hitems]
  cases hp : p e.record with
  | false =>
    have hcl : s.closes p = [] := by simp [Service.closes, hitems, hp]
    rw [hcl, List.append_nil]
    exact h
  | true =>
    have hcl : s.closes p = [e.record.id] := by simp [Service.closes, hitems, hp]
    rw [hcl, if_pos rfl]
    have hmarked : ∀ id ∈ s.marked ++ [e.record.id], id ∈ s.opened := by
      intro id hmem
      rcases List.mem_append.mp hmem with hmem | hmem
      · exact h.marked id hmem
      · obtain rfl : id = e.record.id := by simpa using hmem
        exact he.opened
    have hgone : ∀ id ∈ s.opened, id ≠ e.record.id → id ∈ s.marked ++ [e.record.id] := by
      intro id hmem hne
      exact List.mem_append_left _ (h.gone id hmem (by simp [hitems, hne.symm]))
    have hnext : (s.manager.closeLocked e.record.id).nextID.toNat = s.opened.length := by
      rw [ManagerState.closeLocked_nextID]
      exact h.next
    have hclose := ManagerState.closeLocked_items hitems
    by_cases hzero : e.inFlight = 0
    · rw [if_pos hzero] at hclose
      have hout : s.outstanding e.record.id = 0 := by rw [← he.inFlight, hzero]; rfl
      refine ⟨.inl hclose, hnext, h.nodup, h.opened, hmarked, ?_, ?_, h.leased⟩
      · intro id hmem _
        by_cases hne : id = e.record.id
        · exact List.mem_append_right _ (by simp [hne])
        · exact hgone id hmem hne
      · intro io hio hr
        obtain ⟨e', he', hid⟩ := h.live io hio hr
        obtain rfl : e' = e := by simpa [hitems] using he'
        exact absurd hid.symm (outstanding_eq_zero.mp hout io hio hr)
    · rw [if_neg hzero] at hclose
      have hout : s.outstanding e.record.id ≠ 0 := by
        rw [← he.inFlight]
        intro h0
        exact hzero (UInt32.toNat_inj.mp h0)
      refine ⟨.inr ⟨_, hclose, he.inFlight, ?_, fun _ => hout, he.opened⟩, hnext, h.nodup,
        h.opened, hmarked, ?_, ?_, h.leased⟩
      · simp
      · intro id hmem hne
        exact hgone id hmem fun heq => hne _ (ManagerState.mem_items hclose) heq.symm
      · intro io hio hr
        obtain ⟨e', he', hid⟩ := h.live io hio hr
        obtain rfl : e' = e := by simpa [hitems] using he'
        exact ⟨_, ManagerState.mem_items hclose, hid⟩

/-- An I/O begins. -/
theorem begin_inv (h : Inv s) (hitems : s.manager.items = [e]) (hclosing : e.record.closing = false)
    {io : Io} (hrec : io.record = e.record) (hr : io.released = false)
    (hG : s.outstanding e.record.id + 1 < 2 ^ 32) :
    Inv { s with
      manager := s.manager.put { e with inFlight := e.inFlight + 1 }
      ios := s.ios ++ [io] } := by
  obtain ⟨e₀, he₀, he⟩ : ∃ e, s.manager.items = [e] ∧ RecordInv s e := by
    rcases h.items with hm | hm
    · simp [hm] at hitems
    · exact hm
  obtain rfl : e₀ = e := by simpa [he₀] using hitems
  have hput : (s.manager.put { e₀ with inFlight := e₀.inFlight + 1 }).items =
      [{ e₀ with inFlight := e₀.inFlight + 1 }] := ManagerState.put_items hitems rfl
  have hout : Service.outstanding { s with
      manager := s.manager.put { e₀ with inFlight := e₀.inFlight + 1 }
      ios := s.ios ++ [io] } e₀.record.id = s.outstanding e₀.record.id + 1 := by
    rw [← hrec]
    exact outstanding_append rfl hr
  refine ⟨.inr ⟨_, hput, ?_, he.closing, ?_, he.opened⟩, h.next, h.nodup, h.opened, h.marked, ?_,
    ?_, ?_⟩
  · show (e₀.inFlight + 1).toNat = Service.outstanding _ e₀.record.id
    rw [hout, UInt32.toNat_add, he.inFlight]
    show (s.outstanding e₀.record.id + 1) % 2 ^ 32 = _
    omega
  · intro _
    show Service.outstanding _ e₀.record.id ≠ 0
    rw [hout]
    omega
  · intro id hmem hne
    refine h.gone id hmem fun e' he' heq => ?_
    obtain rfl : e' = e₀ := by simpa [hitems] using he'
    exact hne _ (ManagerState.mem_items hput) heq
  · intro x hx hxr
    refine ⟨_, ManagerState.mem_items hput, ?_⟩
    rcases List.mem_append.mp hx with hx | hx
    · obtain ⟨e', he', hid⟩ := h.live x hx hxr
      obtain rfl : e' = e₀ := by simpa [hitems] using he'
      exact hid
    · obtain rfl : x = io := by simpa using hx
      exact congrArg Record.id hrec.symm
  · intro x hx hxs
    rcases List.mem_append.mp hx with hx | hx
    · exact h.leased x hx hxs
    · obtain rfl : x = io := by simpa using hx
      exact hr

/-- A call moves on with its lease. -/
theorem set_inv (h : Inv s) {k : Nat} {io io' : Io} (hk : s.ios[k]? = some io)
    (hrec : io'.record = io.record) (hr : io'.released = io.released)
    (hstage : io'.stage = .accessing → io.released = false) :
    Inv { s with ios := s.ios.set k io' } := by
  have hout : ∀ id, Service.outstanding { s with ios := s.ios.set k io' } id = s.outstanding id :=
    fun id => outstanding_set hk rfl (by rw [hrec]) hr
  refine ⟨?_, h.next, h.nodup, h.opened, h.marked, h.gone, ?_, ?_⟩
  · rcases h.items with hm | ⟨e, hm, he⟩
    · exact .inl hm
    · refine .inr ⟨e, hm, ?_, he.closing, ?_, he.opened⟩
      · rw [hout]
        exact he.inFlight
      · rw [hout]
        exact he.drains
  · intro x hx hxr
    rcases mem_set_ios rfl hx with rfl | hx
    · rw [hrec]
      exact h.live io (List.mem_of_getElem? hk) (hr ▸ hxr)
    · exact h.live x hx hxr
  · intro x hx hxs
    rcases mem_set_ios rfl hx with rfl | hx
    · exact hr.trans (hstage hxs)
    · exact h.leased x hx hxs

/-- A lease is released. -/
theorem release_inv (h : Inv s) {k : Nat} {io : Io} (hk : s.ios[k]? = some io)
    (hr : io.released = false) (hstage : io.stage ≠ .accessing) :
    Inv { s with
      manager := s.manager.endIO io.record.id
      ios := s.ios.set k { io with released := true } } := by
  have hmem := List.mem_of_getElem? hk
  obtain ⟨e, he, hid⟩ := h.live io hmem hr
  obtain ⟨e₀, hitems, hrec⟩ : ∃ e, s.manager.items = [e] ∧ RecordInv s e := by
    rcases h.items with hm | hm
    · simp [hm] at he
    · exact hm
  obtain rfl : e = e₀ := by simpa [hitems] using he
  have hout : Service.outstanding { s with
      manager := s.manager.endIO io.record.id
      ios := s.ios.set k { io with released := true } } io.record.id + 1 =
      s.outstanding io.record.id := outstanding_release hk hr rfl
  rw [← hid] at hout ⊢
  have hin := hrec.inFlight
  have hpos : 0 < e.inFlight := UInt32.lt_iff_toNat_lt.mpr (by
    show 0 < e.inFlight.toNat
    omega)
  have hsub : (e.inFlight - 1).toNat = e.inFlight.toNat - 1 :=
    UInt32.toNat_sub_of_le _ _ (UInt32.le_iff_toNat_le.mpr (by
      show 1 ≤ e.inFlight.toNat
      omega))
  have hend := ManagerState.endIO_items hitems hpos
  have hnext : (s.manager.endIO e.record.id).nextID.toNat = s.opened.length := by
    rw [ManagerState.endIO_nextID]
    exact h.next
  have hleased : ∀ x ∈ s.ios.set k { io with released := true }, x.stage = .accessing →
      x.released = false := by
    intro x hx hxs
    rcases (List.mem_or_eq_of_mem_set hx).symm with rfl | hx
    · exact absurd hxs hstage
    · exact h.leased x hx hxs
  have hlive : ∀ x ∈ s.ios.set k { io with released := true }, x.released = false →
      x.record.id = e.record.id := by
    intro x hx hxr
    rcases (List.mem_or_eq_of_mem_set hx).symm with rfl | hx
    · cases hxr
    · obtain ⟨e', he', hid'⟩ := h.live x hx hxr
      obtain rfl : e' = e := by simpa [hitems] using he'
      exact hid'.symm
  by_cases hc : e.record.closing = true ∧ e.inFlight - 1 = 0
  · rw [if_pos hc] at hend
    refine ⟨.inl hend, hnext, h.nodup, h.opened, h.marked, ?_, ?_, hleased⟩
    · intro id hopened _
      by_cases heq : e.record.id = id
      · exact heq ▸ hrec.closing.mp hc.1
      · exact h.gone id hopened (by simp [hitems, heq])
    · intro x hx hxr
      have hzero : (e.inFlight - 1).toNat = 0 := by rw [hc.2]; rfl
      have hnone := outstanding_eq_zero.mp (show Service.outstanding { s with
        manager := s.manager.endIO e.record.id
        ios := s.ios.set k { io with released := true } } e.record.id = 0 by omega) x hx hxr
      exact absurd (hlive x hx hxr) hnone
  · rw [if_neg hc] at hend
    refine ⟨.inr ⟨_, hend, ?_, hrec.closing, ?_, hrec.opened⟩, hnext, h.nodup, h.opened, h.marked,
      ?_, ?_, hleased⟩
    · show (e.inFlight - 1).toNat = Service.outstanding _ e.record.id
      omega
    · intro hclosing hzero
      refine hc ⟨hclosing, UInt32.toNat_inj.mp ?_⟩
      have hzero : Service.outstanding _ e.record.id = 0 := hzero
      show (e.inFlight - 1).toNat = 0
      omega
    · intro id hopened hne
      refine h.gone id hopened fun e' he' heq => ?_
      obtain rfl : e' = e := by simpa [hitems] using he'
      exact hne _ (ManagerState.mem_items hend) heq
    · intro x hx hxr
      exact ⟨_, ManagerState.mem_items hend, (hlive x hx hxr).symm⟩

/-- **One step** of any call. -/
theorem step (h : Inv s) (a : Action) (hG : Unwrapped s a) (hs : s.step a = some s') : Inv s' := by
  cases a with
  | «open» connection metadata =>
    simp only [Service.step, ManagerState.openExclusive] at hs
    by_cases hlen : s.manager.items.length > 0
    · rw [if_pos hlen] at hs
      cases hs
      exact h
    · rw [if_neg hlen] at hs
      cases hs
      exact h.open_inv (List.eq_nil_of_length_eq_zero (by omega)) connection metadata hG
  | close sessionID =>
    cases hs
    refine h.close_inv (·.id = sessionID) (fun e hm => ?_) fun hm => ?_
    · by_cases hid : e.record.id = sessionID
      · simp [hid]
      · simp [hid, ManagerState.closeLocked_of_ne hm hid]
    · simp [ManagerState.closeLocked, ManagerState.find, hm]
  | closeConnection connection =>
    cases hs
    refine h.close_inv (·.connection = connection) (fun e hm => ?_) fun hm => ?_
    · rw [ManagerState.closeConnection_single hm]
      simp
    · simp [ManagerState.closeConnection, hm]
  | begin sessionID write offset length =>
    simp only [Service.step] at hs
    cases hb : s.manager.beginIO sessionID with
    | error e =>
      rw [hb] at hs
      cases hs
      exact h
    | ok r =>
      obtain ⟨m, record⟩ := r
      rw [hb] at hs
      cases hs
      rcases h.items with hm | ⟨e, hm, -⟩
      · simp [ManagerState.beginIO, ManagerState.find, hm] at hb
      · obtain ⟨hid, rfl, hc, rfl⟩ := ManagerState.beginIO_ok hm hb
        exact h.begin_inv hm hc rfl rfl (hid ▸ hG)
  | access k =>
    obtain ⟨io, hk, hs⟩ := Option.bind_eq_some_iff.mp hs
    by_cases hc : io.stage = .begun ∧ !io.released
    · rw [if_pos hc] at hs
      have hr : io.released = false := by simpa using hc.2
      cases hcheck : io.check with
      | ok u =>
        simp only [hcheck] at hs
        cases hs
        exact h.set_inv hk rfl rfl fun _ => hr
      | error e =>
        simp only [hcheck] at hs
        cases hs
        exact h.set_inv hk rfl rfl fun _ => hr
    · rw [if_neg hc] at hs
      cases hs
  | accessed k =>
    obtain ⟨io, hk, hs⟩ := Option.bind_eq_some_iff.mp hs
    by_cases hc : io.stage = .accessing
    · rw [if_pos hc] at hs
      cases hs
      exact h.set_inv hk rfl rfl nofun
    · rw [if_neg hc] at hs
      cases hs
  | release k =>
    obtain ⟨io, hk, hs⟩ := Option.bind_eq_some_iff.mp hs
    by_cases hstage : io.stage = .accessing
    · rw [if_pos hstage] at hs
      cases hs
    · rw [if_neg hstage] at hs
      cases hr : io.released with
      | true =>
        rw [hr, if_pos rfl] at hs
        cases hs
        exact h
      | false =>
        rw [hr, if_neg (by simp)] at hs
        cases hs
        exact h.release_inv hk hr hstage

/-- A step opens a session when there is no record, lets an I/O begin on the record, or neither. -/
theorem step_cases {a : Action} (h : Inv s) (hs : s.step a = some s') :
    (s.manager.items = [] ∧ s'.ios = s.ios) ∨
    (∃ e io, s.manager.items = [e] ∧ e.record.closing = false ∧ io.record = e.record ∧
      s'.ios = s.ios ++ [io] ∧ s'.opened = s.opened) ∨
    s'.ios.length = s.ios.length ∧ s'.opened = s.opened := by
  cases a with
  | «open» connection metadata =>
    simp only [Service.step, ManagerState.openExclusive] at hs
    by_cases hlen : s.manager.items.length > 0
    · rw [if_pos hlen] at hs
      cases hs
      exact .inr (.inr ⟨rfl, rfl⟩)
    · rw [if_neg hlen] at hs
      cases hs
      exact .inl ⟨List.eq_nil_of_length_eq_zero (by omega), rfl⟩
  | close _ | closeConnection _ =>
    cases hs
    exact .inr (.inr ⟨rfl, rfl⟩)
  | begin sessionID write offset length =>
    simp only [Service.step] at hs
    cases hb : s.manager.beginIO sessionID with
    | error e =>
      rw [hb] at hs
      cases hs
      exact .inr (.inr ⟨rfl, rfl⟩)
    | ok r =>
      obtain ⟨m, record⟩ := r
      rw [hb] at hs
      cases hs
      rcases h.items with hm | ⟨e, hm, -⟩
      · simp [ManagerState.beginIO, ManagerState.find, hm] at hb
      · obtain ⟨-, rfl, hc, -⟩ := ManagerState.beginIO_ok hm hb
        exact .inr (.inl ⟨e, _, hm, hc, rfl, rfl, rfl⟩)
  | access k =>
    obtain ⟨io, hk, hs⟩ := Option.bind_eq_some_iff.mp hs
    split at hs
    · split at hs <;>
      · cases hs
        exact .inr (.inr ⟨List.length_set, rfl⟩)
    · cases hs
  | accessed k =>
    obtain ⟨io, hk, hs⟩ := Option.bind_eq_some_iff.mp hs
    split at hs
    · cases hs
      exact .inr (.inr ⟨List.length_set, rfl⟩)
    · cases hs
  | release k =>
    obtain ⟨io, hk, hs⟩ := Option.bind_eq_some_iff.mp hs
    split at hs
    · cases hs
    · split at hs
      · cases hs
        exact .inr (.inr ⟨rfl, rfl⟩)
      · cases hs
        exact .inr (.inr ⟨List.length_set, rfl⟩)

theorem stepSafety (h : Inv s) {a : Action} (hs : s.step a = some s') : StepSafety s s' := by
  have hgrow : ∀ {α : Type} {l : List α} {x : α}, l ≠ l ++ [x] := by simp
  constructor
  · intro io hio
    rcases h.step_cases hs with ⟨-, hios⟩ | ⟨e, io', hm, hc, hrec, hios, -⟩ | ⟨hlen, -⟩
    · exact absurd (hios.symm.trans hio) hgrow
    · obtain rfl : io' = io := by simpa using hios.symm.trans hio
      obtain ⟨e₀, hm₀, he⟩ : ∃ e, s.manager.items = [e] ∧ RecordInv s e := by
        rcases h.items with hnil | hm
        · simp [hnil] at hm
        · exact hm
      obtain rfl : e₀ = e := by simpa [hm₀] using hm
      rw [hrec]
      refine ⟨he.opened, fun hmark => ?_⟩
      rw [he.closing.mpr hmark] at hc
      cases hc
    · rw [hio, List.length_append, List.length_singleton] at hlen
      omega
  · intro id hid io hio
    rcases h.step_cases hs with ⟨hm, -⟩ | ⟨_, _, _, _, _, _, hopened⟩ | ⟨-, hopened⟩
    · by_contra hr
      obtain ⟨e, he, -⟩ := h.live io hio (by simpa using hr)
      simp [hm] at he
    · exact absurd (hopened.symm.trans hid) hgrow
    · exact absurd (hopened.symm.trans hid) hgrow

end Inv

theorem inv_init : Inv {} where
  items := .inl rfl
  next := rfl
  nodup := List.nodup_nil
  opened := nofun
  marked := nofun
  gone := nofun
  live := nofun
  leased := nofun

/-- **Sessions are exclusive**, in every run in which no counter wraps: in the state that it reaches,
and in the next step. -/
theorem exclusive_safety {as : List Action} {s : Service}
    (h : runFrom Service.step {} as = some s) (hG : StepsMeet Service.step Unwrapped {} as) :
    ExclusiveSafety s ∧ ∀ a s', s.step a = some s' → StepSafety s s' := by
  have hi : Inv s := run_inv_of_guard (fun _ a _ hi hG hs => hi.step a hG hs) as {} s inv_init hG h
  exact ⟨hi.safety, fun a s' hs => hi.stepSafety hs⟩

/-! ## A counter that wraps -/

def writableDisk : Metadata := { diskSizeBytes := 4096, readOnly := false }

def firstRecord : Record := { id := 1, connection := 7, metadata := writableDisk }

def firstRead : Io := { record := firstRecord, write := false, offset := 0, length := 512 }

/-- The session of connection 7, with `n` reads that have begun. -/
def busy (n : Nat) : Service where
  manager := { nextID := 1, items := [⟨firstRecord, .ofNat n⟩] }
  ios := List.replicate n firstRead
  opened := [1]

theorem busy_begin (n : Nat) : (busy n).step (.begin 1 false 0 512) = some (busy (n + 1)) := by
  simp [Service.step, busy, ManagerState.beginIO, ManagerState.find, ManagerState.put,
    ManagerState.delete, firstRecord, firstRead, List.replicate_succ', pure, Except.pure]

theorem run_busy (n k : Nat) :
    runFrom Service.step (busy k) (List.replicate n (.begin 1 false 0 512)) =
      some (busy (k + n)) := by
  induction n generalizing k with
  | zero => rfl
  | succ n ih =>
    rw [List.replicate_succ, runFrom, busy_begin]
    exact (ih (k + 1)).trans (by rw [Nat.add_right_comm, Nat.add_assoc])

theorem busy_close {n : Nat} (h : UInt32.ofNat n = 0) :
    (busy n).step (.close 1) =
      some { busy n with manager := { nextID := 1 }, marked := [1] } := by
  simp [Service.step, busy, ManagerState.closeLocked, ManagerState.find, ManagerState.delete,
    Service.closes, firstRecord, h]

/-- A session is opened, `n` reads begin, and it is closed. -/
def closedBusy (n : Nat) : List Action :=
  .open 7 writableDisk :: (List.replicate n (.begin 1 false 0 512) ++ [.close 1])

theorem run_closedBusy {n : Nat} (h : UInt32.ofNat n = 0) :
    runFrom Service.step {} (closedBusy n) =
      some { busy n with manager := { nextID := 1 }, marked := [1] } := by
  have hopen : Service.step {} (.open 7 writableDisk) = some (busy 0) := rfl
  rw [closedBusy, runFrom, hopen]
  dsimp only
  rw [runFrom_append, run_busy, Nat.zero_add, Option.bind_some, runFrom, busy_close h]
  rfl

/-- **The count of I/Os wraps**: the record is removed with 2^32 reads in flight. -/
theorem wrapped_removed : ∃ s, runFrom Service.step {} (closedBusy (2 ^ 32)) = some s ∧
    ¬ ExclusiveSafety s := by
  refine ⟨_, run_closedBusy (by decide), fun h => ?_⟩
  have hzero := ((h.removed 1 (List.mem_singleton_self _)).mp rfl).2
  exact outstanding_eq_zero.mp hzero firstRead
    (List.mem_replicate.mpr ⟨Nat.pos_iff_ne_zero.mp (Nat.two_pow_pos 32), rfl⟩) rfl rfl

/-- A session is closed twice while it writes, and opened again when the write is over. -/
def drainedRun : List Action :=
  [.open 7 writableDisk, .begin 1 true 0 512, .access 0, .close 1, .closeConnection 7,
    .open 8 writableDisk, .begin 1 false 0 512, .accessed 0, .release 0, .release 0,
    .open 8 writableDisk, .begin 2 false 0 512]

theorem drainedRun_safe : ∃ s, runFrom Service.step {} drainedRun = some s ∧
    s.opened = [1, 2] ∧ s.ios.length = 2 ∧ ExclusiveSafety s := by
  obtain ⟨s, hs, hp⟩ := exists_run Service.step {} drainedRun
    (fun s => decide (s.opened = [1, 2] ∧ s.ios.length = 2)) (by decide)
  obtain ⟨hopened, hios⟩ := of_decide_eq_true hp
  exact ⟨s, hs, hopened, hios, (exclusive_safety hs (by decide)).1⟩

end YumeDisk.Server.StorerSession
