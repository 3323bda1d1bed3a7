import Mathlib.Data.List.Nodup
import YumeDisk.Server.StorerSession

/-!
# Any number of sessions at once (`session/manager.go`, `session/shared.go`)

* `ManagerState.Distinct`: the records are under the ids that they carry.
* `ManagerState.Live`: a session that is there and not closing; what each operation leaves of them.
-/

namespace YumeDisk.Server.StorerSession.ManagerState

variable {m m' : ManagerState} {e : ManagedRecord} {id sessionID : UInt64}

/-- No two items have one id. -/
def Distinct (m : ManagerState) : Prop := (m.items.map (·.record.id)).Nodup

/-- The session is there and not closing. -/
def Live (m : ManagerState) (id : UInt64) : Prop :=
  ∃ e ∈ m.items, e.record.id = id ∧ e.record.closing = false

theorem mem_of_find (h : m.find id = some e) : e ∈ m.items ∧ e.record.id = id :=
  ⟨List.mem_of_find?_eq_some h, by simpa using List.find?_some h⟩

theorem mem_delete : e ∈ (m.delete id).items ↔ e ∈ m.items ∧ e.record.id ≠ id := by
  simp [delete]

theorem mem_put {x : ManagedRecord} :
    e ∈ (m.put x).items ↔ e = x ∨ e ∈ m.items ∧ e.record.id ≠ x.record.id := by
  simp [put, delete]

theorem Distinct.eq (h : m.Distinct) {e' : ManagedRecord} (he : e ∈ m.items) (he' : e' ∈ m.items)
    (hid : e.record.id = e'.record.id) : e = e' := List.inj_on_of_nodup_map h he he' hid

theorem Distinct.delete (h : m.Distinct) (id : UInt64) : (m.delete id).Distinct :=
  h.sublist (List.filter_sublist.map _)

theorem Distinct.put (h : m.Distinct) (x : ManagedRecord) : (m.put x).Distinct := by
  refine List.nodup_cons.mpr ⟨fun hmem => ?_, h.delete x.record.id⟩
  obtain ⟨e, he, hid⟩ := List.mem_map.mp hmem
  exact (mem_delete.mp he).2 hid

theorem live_delete : (m.delete sessionID).Live id ↔ id ≠ sessionID ∧ m.Live id := by
  unfold Live
  simp only [mem_delete]
  constructor
  · rintro ⟨e, ⟨he, hne⟩, rfl, hclosing⟩
    exact ⟨hne, e, he, rfl, hclosing⟩
  · rintro ⟨hne, e, he, rfl, hclosing⟩
    exact ⟨e, ⟨he, hne⟩, rfl, hclosing⟩

theorem live_put {x : ManagedRecord} : (m.put x).Live id ↔
    id = x.record.id ∧ x.record.closing = false ∨ id ≠ x.record.id ∧ m.Live id := by
  unfold Live
  simp only [mem_put]
  constructor
  · rintro ⟨e, rfl | ⟨he, hne⟩, rfl, hclosing⟩
    · exact .inl ⟨rfl, hclosing⟩
    · exact .inr ⟨hne, e, he, rfl, hclosing⟩
  · rintro (⟨rfl, hclosing⟩ | ⟨hne, e, he, rfl, hclosing⟩)
    · exact ⟨x, .inl rfl, rfl, hclosing⟩
    · exact ⟨e, .inr ⟨he, hne⟩, rfl, hclosing⟩

/-- A record is put back that is as open as it was. -/
theorem live_put_same (h : m.Distinct) (he : e ∈ m.items) {x : ManagedRecord}
    (hid : x.record.id = e.record.id) (hclosing : x.record.closing = e.record.closing) :
    (m.put x).Live id ↔ m.Live id := by
  rw [live_put]
  by_cases hx : id = x.record.id
  · constructor
    · rintro (⟨-, hc⟩ | ⟨hne, -⟩)
      · exact ⟨e, he, (hx.trans hid).symm, hclosing ▸ hc⟩
      · exact absurd hx hne
    · rintro ⟨e', he', rfl, hc⟩
      obtain rfl := h.eq he' he (hx.trans hid)
      exact .inl ⟨hx, hclosing.trans hc⟩
  · simp [hx]

theorem live_closeLocked : (m.closeLocked sessionID).Live id ↔ id ≠ sessionID ∧ m.Live id := by
  unfold closeLocked
  split
  · next hnone =>
    refine ⟨fun hlive => ⟨?_, hlive⟩, And.right⟩
    rintro rfl
    obtain ⟨e, he, hid, -⟩ := hlive
    exact absurd hid (by simpa using List.find?_eq_none.mp hnone e he)
  · next entry hfind =>
    obtain ⟨-, rfl⟩ := mem_of_find hfind
    split_ifs
    · exact live_delete
    · rw [live_put]
      simp

theorem distinct_closeLocked (h : m.Distinct) (sessionID : UInt64) :
    (m.closeLocked sessionID).Distinct := by
  unfold closeLocked
  split
  · exact h
  · split_ifs
    · exact h.delete _
    · exact h.put _

theorem closeConnection_induct {P : ManagerState → Prop} (h : P m)
    (hstep : ∀ m id, P m → P (m.closeLocked id)) (connection : UInt64) :
    P (m.closeConnection connection) := by
  unfold closeConnection
  exact List.foldlRecOn _ _ h fun m hm e _ => hstep m e.record.id hm

/-- A close adds no record, and changes none but for its mark. -/
theorem closeLocked_sub (m : ManagerState) (sessionID : UInt64) :
    ∀ e ∈ (m.closeLocked sessionID).items,
      ∃ e' ∈ m.items, e.record.metadata = e'.record.metadata := by
  intro e he
  unfold closeLocked at he
  split at he
  · exact ⟨e, he, rfl⟩
  · next entry hfind =>
    split_ifs at he
    · exact ⟨e, (mem_delete.mp he).1, rfl⟩
    · rcases mem_put.mp he with rfl | ⟨he, -⟩
      · exact ⟨entry, (mem_of_find hfind).1, rfl⟩
      · exact ⟨e, he, rfl⟩

theorem live_closeConnection {connection : UInt64} : (m.closeConnection connection).Live id ↔
    (∀ e ∈ m.items, e.record.connection = connection → e.record.id ≠ id) ∧ m.Live id := by
  have hfold : ∀ (es : List ManagedRecord) (m : ManagerState),
      (es.foldl (fun m entry => m.closeLocked entry.record.id) m).Live id ↔
        (∀ e ∈ es, e.record.id ≠ id) ∧ m.Live id := by
    intro es
    induction es with
    | nil => simp
    | cons e es ih =>
      intro m
      rw [List.foldl_cons, ih, live_closeLocked, List.forall_mem_cons]
      tauto
  unfold closeConnection
  rw [hfold]
  simp only [List.mem_filter, decide_eq_true_eq, and_imp]

theorem beginIO_some {record : Record} (h : ManagerState.beginIO m sessionID = .ok (m', record)) :
    ∃ entry ∈ m.items, entry.record = record ∧ record.closing = false ∧
      m' = m.put { entry with inFlight := entry.inFlight + 1 } := by
  unfold beginIO at h
  split at h
  · cases h
  · next entry hfind =>
    split_ifs at h with hclosing
    obtain ⟨rfl, rfl⟩ := Prod.mk.inj (Except.ok.inj h)
    exact ⟨entry, (mem_of_find hfind).1, rfl, by simpa using hclosing, rfl⟩

/-- The end of an I/O leaves the sessions that are live. -/
theorem endIO_spec (h : m.Distinct) (sessionID : UInt64) :
    (ManagerState.endIO m sessionID).Distinct ∧
      (∀ id, (ManagerState.endIO m sessionID).Live id ↔ m.Live id) ∧
      ∀ e ∈ (ManagerState.endIO m sessionID).items, ∃ e' ∈ m.items, e.record = e'.record := by
  unfold endIO
  split
  · exact ⟨h, fun _ => Iff.rfl, fun e he => ⟨e, he, rfl⟩⟩
  · next entry hfind =>
    obtain ⟨hmem, rfl⟩ := mem_of_find hfind
    set entry' := if entry.inFlight > 0 then { entry with inFlight := entry.inFlight - 1 }
      else entry with hentry
    have hrecord : entry'.record = entry.record := by
      rw [hentry]
      split_ifs <;> rfl
    dsimp only
    split_ifs with hdone
    · refine ⟨h.delete _, fun id => ?_, fun e he => ⟨e, (mem_delete.mp he).1, rfl⟩⟩
      rw [live_delete]
      refine ⟨And.right, fun hlive => ⟨?_, hlive⟩⟩
      rintro rfl
      obtain ⟨e, he, hid, hclosing⟩ := hlive
      obtain rfl := h.eq he hmem hid
      rw [hrecord, hclosing] at hdone
      exact absurd hdone.1 Bool.false_ne_true
    · refine ⟨h.put _, fun id => ?_, fun e he => ?_⟩
      · exact live_put_same h hmem (by rw [hrecord]) (by rw [hrecord])
      · rcases mem_put.mp he with rfl | ⟨he, -⟩
        · exact ⟨entry, hmem, hrecord⟩
        · exact ⟨e, he, rfl⟩

end YumeDisk.Server.StorerSession.ManagerState
