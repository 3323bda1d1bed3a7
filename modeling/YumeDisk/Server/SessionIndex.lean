import YumeDisk.Server.Registries
import YumeDisk.Lib.Update

/-!
# The indexes of the session registry (`gateway/client/session/registry.go`)

`Sessions.Indexed`: every record is under its own id, and the ids by client connection and by route
are those of the records, each once.  Every operation keeps it, so `closeConnection` and
`closeRouteConnection` take exactly the records of the connection (`closeConnection_items`,
`closeRouteConnection_items`, `mem_closeRouteConnection`).  `Sessions.Mapped`: so is the index by
upstream session, as long as no upstream session is registered twice.
-/

namespace YumeDisk.Server

/-! ## Sets of ids -/

theorem nodup_insertID {ids : List Nat} (h : ids.Nodup) (id : Nat) : (insertID ids id).Nodup := by
  unfold insertID
  by_cases hid : id ∈ ids
  · rwa [if_pos hid]
  · rw [if_neg hid]
    exact List.nodup_append.mpr ⟨h, List.nodup_singleton id,
      fun x hx y hy hxy => hid (List.mem_singleton.mp hy ▸ hxy ▸ hx)⟩

theorem nodup_deleteID {ids : List Nat} (h : ids.Nodup) (id : Nat) : (deleteID ids id).Nodup :=
  h.filter _

namespace Sessions

/-- An index holds the ids of the records with its key, each once. -/
structure Exact (items : Nat → Option Record) (key : Record → Nat) (index : Nat → List Nat) :
    Prop where
  mem : ∀ k id, id ∈ index k ↔ ∃ r, items id = some r ∧ key r = k
  nodup : ∀ k, (index k).Nodup

section Exact

variable {items : Nat → Option Record} {key : Record → Nat} {index : Nat → List Nat}

theorem Exact.insert (h : Exact items key index) {id : Nat} (hnew : items id = none) (r : Record) :
    Exact (Function.update items id (some r)) key
      (Function.update index (key r) (insertID (index (key r)) id)) where
  mem k x := by
    have hold : x = id → x ∉ index k := by
      rintro rfl hx
      obtain ⟨r', hr', -⟩ := (h.mem k x).mp hx
      rw [hnew] at hr'
      cases hr'
    by_cases hk : k = key r
    · subst hk
      rw [Function.update_self, mem_insertID]
      by_cases hx : x = id
      · subst hx
        simp
      · rw [Function.update_of_ne hx, ← h.mem, or_iff_left hx]
    · rw [Function.update_of_ne hk]
      by_cases hx : x = id
      · subst hx
        rw [Function.update_self]
        refine ⟨fun hmem => absurd hmem (hold rfl), ?_⟩
        rintro ⟨r', hr', hkey⟩
        obtain rfl := Option.some.inj hr'
        exact absurd hkey.symm hk
      · rw [Function.update_of_ne hx, h.mem]
  nodup k := by
    by_cases hk : k = key r
    · subst hk
      rw [Function.update_self]
      exact nodup_insertID (h.nodup _) id
    · rw [Function.update_of_ne hk]
      exact h.nodup k

theorem Exact.delete (h : Exact items key index) {id : Nat} {r : Record}
    (hr : items id = some r) :
    Exact (Function.update items id none) key
      (Function.update index (key r) (deleteID (index (key r)) id)) where
  mem k x := by
    by_cases hx : x = id
    · subst hx
      rw [Function.update_self]
      refine ⟨fun hmem => ?_, fun ⟨_, hr', _⟩ => nomatch hr'⟩
      by_cases hk : k = key r
      · subst hk
        rw [Function.update_self, mem_deleteID] at hmem
        exact absurd rfl hmem.2
      · rw [Function.update_of_ne hk, h.mem] at hmem
        obtain ⟨r', hr', hkey⟩ := hmem
        obtain rfl := Option.some.inj (hr.symm.trans hr')
        exact absurd hkey.symm hk
    · rw [Function.update_of_ne hx, ← h.mem]
      by_cases hk : k = key r
      · subst hk
        rw [Function.update_self, mem_deleteID, and_iff_left hx]
      · rw [Function.update_of_ne hk]
  nodup k := by
    by_cases hk : k = key r
    · subst hk
      rw [Function.update_self]
      exact nodup_deleteID (h.nodup _) id
    · rw [Function.update_of_ne hk]
      exact h.nodup k

/-- The ids under one key are taken, and their records with them. -/
theorem Exact.drop (h : Exact items key index) (k : Nat) :
    Exact (fun id => if id ∈ index k then none else items id) key
      (Function.update index k []) where
  mem k' id := by
    by_cases hid : id ∈ index k
    · rw [if_pos hid]
      refine ⟨fun hmem => ?_, fun ⟨_, hr, _⟩ => nomatch hr⟩
      obtain ⟨r, hr, hkey⟩ := (h.mem k id).mp hid
      by_cases hk : k' = k
      · rw [hk, Function.update_self] at hmem
        cases hmem
      · rw [Function.update_of_ne hk, h.mem, hr] at hmem
        obtain ⟨r', hr', hkey'⟩ := hmem
        obtain rfl := Option.some.inj hr'
        exact absurd (hkey'.symm.trans hkey) hk
    · rw [if_neg hid]
      by_cases hk : k' = k
      · rw [hk, Function.update_self, ← h.mem]
        exact ⟨fun hmem => (nomatch hmem), fun hmem => absurd hmem hid⟩
      · rw [Function.update_of_ne hk, h.mem]
  nodup k' := by
    by_cases hk : k' = k
    · rw [hk, Function.update_self]
      exact List.nodup_nil
    · rw [Function.update_of_ne hk]
      exact h.nodup k'

/-- The records that are left have another key. -/
theorem Exact.dropped (h : Exact items key index) (k id : Nat) :
    (if id ∈ index k then none else items id) = (items id).filter (key · ≠ k) := by
  rw [ite_congr (propext (h.mem k id)) (fun _ => rfl) fun _ => rfl]
  cases items id with
  | none => simp
  | some r => by_cases hk : key r = k <;> simp [Option.filter, hk]

theorem Exact.mem_records (h : Exact items key index) {k : Nat} {r : Record} :
    r ∈ (index k).filterMap items ↔ ∃ id, items id = some r ∧ key r = k := by
  rw [List.mem_filterMap]
  constructor
  · rintro ⟨id, hid, hr⟩
    obtain ⟨r', hr', hk⟩ := (h.mem k id).mp hid
    obtain rfl := Option.some.inj (hr.symm.trans hr')
    exact ⟨id, hr, hk⟩
  · rintro ⟨id, hr, hk⟩
    exact ⟨id, (h.mem k id).mpr ⟨r, hr, hk⟩, hr⟩

/-- No record is taken twice. -/
theorem Exact.nodup_records (h : Exact items key index) (hid : ∀ id r, items id = some r → r.id = id)
    (k : Nat) : (((index k).filterMap items).map Record.id).Nodup := by
  refine List.Nodup.sublist ?_ (h.nodup k)
  rw [List.map_filterMap]
  generalize index k = ids
  induction ids with
  | nil => exact List.Sublist.slnil
  | cons id ids ih =>
    cases hr : items id with
    | none => rw [List.filterMap_cons_none (by simp [hr])]; exact ih.cons _
    | some r =>
      rw [List.filterMap_cons_some (b := id) (by simp [hr, hid id r hr])]
      exact ih.cons_cons _

end Exact

/-! ## The registry -/

structure Indexed (r : Sessions) : Prop where
  keyed : ∀ id x, r.items id = some x → x.id = id ∧ id ≤ gatewaySessionBaseID + r.nextID
  conn : Exact r.items Record.clientConnectionID r.byConn
  route : Exact r.items Record.routeConnectionID r.byRoute

theorem indexed_init : Indexed {} where
  keyed id x h := by cases h
  conn := ⟨fun k id => by simp, fun k => List.nodup_nil⟩
  route := ⟨fun k id => by simp, fun k => List.nodup_nil⟩

namespace Indexed

variable {r : Sessions}

theorem fresh (h : r.Indexed) : r.items (gatewaySessionBaseID + (r.nextID + 1)) = none := by
  cases hx : r.items (gatewaySessionBaseID + (r.nextID + 1)) with
  | none => rfl
  | some x =>
    have := (h.keyed _ x hx).2
    omega

theorem openSession (h : r.Indexed) (x : Record) : (r.openSession x).1.Indexed where
  keyed id y hy := by
    change Function.update r.items _ _ id = some y at hy
    change _ ∧ id ≤ gatewaySessionBaseID + (r.nextID + 1)
    rcases Lib.update_some hy with ⟨hid, rfl⟩ | ⟨hid, hy⟩
    · exact ⟨hid.symm, hid.le⟩
    · obtain ⟨hk, hle⟩ := h.keyed id y hy
      exact ⟨hk, by omega⟩
  conn := h.conn.insert h.fresh { x with id := gatewaySessionBaseID + (r.nextID + 1) }
  route := h.route.insert h.fresh { x with id := gatewaySessionBaseID + (r.nextID + 1) }

theorem close (h : r.Indexed) (id : Nat) : (r.close id).Indexed := by
  unfold Sessions.close
  cases hx : r.items id with
  | none => exact h
  | some x =>
    refine ⟨fun y z hz => ?_, h.conn.delete hx, h.route.delete hx⟩
    obtain ⟨hy, hz⟩ := Lib.update_none hz
    exact h.keyed y z hz

end Indexed

theorem close_items (r : Sessions) (id x : Nat) :
    (r.close id).items x = if x = id then none else r.items x := by
  unfold close
  cases hid : r.items id with
  | none =>
    by_cases hx : x = id
    · rw [if_pos hx, hx]
      exact hid
    · rw [if_neg hx]
  | some y => exact Function.update_apply _ _ _ _

@[simp] theorem close_nextID (r : Sessions) (id : Nat) : (r.close id).nextID = r.nextID := by
  unfold close
  split <;> rfl

/-- A session that the storer closes is closed as any other. -/
theorem closeRouteSession_cases (r : Sessions) (e u : Nat) :
    r.closeRouteSession e u = (r, none) ∨
      ∃ id, r.byUpstream e u = some id ∧ r.closeRouteSession e u = (r.close id, r.items id) := by
  unfold closeRouteSession
  cases r.byUpstream e u with
  | none => exact .inl rfl
  | some id => exact .inr ⟨id, rfl, rfl⟩

/-! ## All the sessions of a connection -/

section CloseOf

variable (r : Sessions) (id : Nat)

theorem closeOfConnection_items (x : Nat) :
    (r.closeOfConnection id).items x = if x = id then none else r.items x := by
  unfold closeOfConnection
  cases hid : r.items id with
  | none =>
    by_cases hx : x = id
    · rw [if_pos hx, hx]
      exact hid
    · rw [if_neg hx]
  | some y => exact Function.update_apply _ _ _ _

theorem closeOfRoute_items (x : Nat) :
    (r.closeOfRoute id).items x = if x = id then none else r.items x := by
  unfold closeOfRoute
  cases hid : r.items id with
  | none =>
    by_cases hx : x = id
    · rw [if_pos hx, hx]
      exact hid
    · rw [if_neg hx]
  | some y => exact Function.update_apply _ _ _ _

variable {r}

theorem closeOfConnection_frame :
    (r.closeOfConnection id).byConn = r.byConn ∧ (r.closeOfConnection id).nextID = r.nextID := by
  unfold closeOfConnection
  split <;> exact ⟨rfl, rfl⟩

theorem closeOfRoute_frame :
    (r.closeOfRoute id).byRoute = r.byRoute ∧ (r.closeOfRoute id).nextID = r.nextID := by
  unfold closeOfRoute
  split <;> exact ⟨rfl, rfl⟩

theorem closeOfConnection_route (h : Exact r.items Record.routeConnectionID r.byRoute) :
    Exact (r.closeOfConnection id).items Record.routeConnectionID
      (r.closeOfConnection id).byRoute := by
  unfold closeOfConnection
  cases hid : r.items id with
  | none => exact h
  | some y => exact h.delete hid

theorem closeOfRoute_conn (h : Exact r.items Record.clientConnectionID r.byConn) :
    Exact (r.closeOfRoute id).items Record.clientConnectionID (r.closeOfRoute id).byConn := by
  unfold closeOfRoute
  cases hid : r.items id with
  | none => exact h
  | some y => exact h.delete hid

/-- Ids that are taken one after the other. -/
theorem foldl_items {f : Sessions → Nat → Sessions}
    (hf : ∀ r id x, (f r id).items x = if x = id then none else r.items x) (ids : List Nat)
    (r : Sessions) (x : Nat) :
    (ids.foldl f r).items x = if x ∈ ids then none else r.items x := by
  induction ids generalizing r with
  | nil => rfl
  | cons id ids ih =>
    rw [List.foldl_cons, ih, hf]
    by_cases hx : x ∈ ids
    · rw [if_pos hx, if_pos (List.mem_cons_of_mem _ hx)]
    · by_cases hid : x = id
      · simp [hid]
      · simp [hx, hid]

theorem foldl_keeps {f : Sessions → Nat → Sessions} {P : Sessions → Prop}
    (hf : ∀ r id, P r → P (f r id)) (ids : List Nat) {r : Sessions} (h : P r) :
    P (ids.foldl f r) := by
  induction ids generalizing r with
  | nil => exact h
  | cons id ids ih => exact ih (hf r id h)

@[simp] theorem closeConnection_nextID (r : Sessions) (c : Nat) :
    (r.closeConnection c).1.nextID = r.nextID :=
  foldl_keeps (P := fun t => t.nextID = r.nextID)
    (fun _ id ht => (closeOfConnection_frame id).2.trans ht) (r.byConn c) rfl

@[simp] theorem closeRouteConnection_nextID (r : Sessions) (e : Nat) :
    (r.closeRouteConnection e).1.nextID = r.nextID :=
  foldl_keeps (P := fun t => t.nextID = r.nextID)
    (fun _ id ht => (closeOfRoute_frame id).2.trans ht) (r.byRoute e) rfl

end CloseOf

namespace Indexed

variable {r : Sessions} (h : r.Indexed)

include h

/-- **A client that is closed has no session left**; the others stay. -/
theorem closeConnection_items (c id : Nat) :
    (r.closeConnection c).1.items id = (r.items id).filter (·.clientConnectionID ≠ c) := by
  rw [← h.conn.dropped c id]
  exact foldl_items closeOfConnection_items _ r id

/-- **A route that is closed has no session left**; the others stay. -/
theorem closeRouteConnection_items (e id : Nat) :
    (r.closeRouteConnection e).1.items id = (r.items id).filter (·.routeConnectionID ≠ e) := by
  rw [← h.route.dropped e id]
  exact foldl_items closeOfRoute_items _ r id

theorem closeConnection (c : Nat) : (r.closeConnection c).1.Indexed := by
  have hitems : (r.closeConnection c).1.items =
      fun id => if id ∈ r.byConn c then none else r.items id :=
    funext fun id => foldl_items closeOfConnection_items _ r id
  have hframe := foldl_keeps (P := fun t => t.byConn = r.byConn ∧ t.nextID = r.nextID)
    (fun t id ht => ⟨(closeOfConnection_frame id).1.trans ht.1,
      (closeOfConnection_frame id).2.trans ht.2⟩) (r.byConn c) ⟨rfl, rfl⟩
  refine ⟨fun id x hx => ?_, ?_, ?_⟩
  · rw [h.closeConnection_items] at hx
    obtain ⟨hk, hle⟩ := h.keyed id x (Option.filter_eq_some_iff.mp hx).1
    exact ⟨hk, hle.trans (Nat.add_le_add_left hframe.2.ge _)⟩
  · rw [hitems]
    show Exact _ _ (Function.update (List.foldl closeOfConnection r (r.byConn c)).byConn c [])
    rw [hframe.1]
    exact h.conn.drop c
  · exact foldl_keeps (P := fun t => Exact t.items Record.routeConnectionID t.byRoute)
      (fun t id => closeOfConnection_route id) (r.byConn c) h.route

theorem closeRouteConnection (e : Nat) : (r.closeRouteConnection e).1.Indexed := by
  have hitems : (r.closeRouteConnection e).1.items =
      fun id => if id ∈ r.byRoute e then none else r.items id :=
    funext fun id => foldl_items closeOfRoute_items _ r id
  have hframe := foldl_keeps (P := fun t => t.byRoute = r.byRoute ∧ t.nextID = r.nextID)
    (fun t id ht => ⟨(closeOfRoute_frame id).1.trans ht.1, (closeOfRoute_frame id).2.trans ht.2⟩)
    (r.byRoute e) ⟨rfl, rfl⟩
  refine ⟨fun id x hx => ?_, ?_, ?_⟩
  · rw [h.closeRouteConnection_items] at hx
    obtain ⟨hk, hle⟩ := h.keyed id x (Option.filter_eq_some_iff.mp hx).1
    exact ⟨hk, hle.trans (Nat.add_le_add_left hframe.2.ge _)⟩
  · exact foldl_keeps (P := fun t => Exact t.items Record.clientConnectionID t.byConn)
      (fun t id => closeOfRoute_conn id) (r.byRoute e) h.conn
  · rw [hitems]
    show Exact _ _ (Function.update (List.foldl closeOfRoute r (r.byRoute e)).byRoute e [])
    rw [hframe.1]
    exact h.route.drop e

/-- The records that the teardown of a route takes. -/
theorem mem_closeRouteConnection {e : Nat} {x : Record} :
    x ∈ (r.closeRouteConnection e).2 ↔ r.items x.id = some x ∧ x.routeConnectionID = e := by
  rw [show (r.closeRouteConnection e).2 = (r.byRoute e).filterMap r.items from rfl,
    h.route.mem_records]
  constructor
  · rintro ⟨id, hx, he⟩
    rw [(h.keyed id x hx).1]
    exact ⟨hx, he⟩
  · rintro ⟨hx, he⟩
    exact ⟨x.id, hx, he⟩

theorem mem_closeConnection {c : Nat} {x : Record} :
    x ∈ (r.closeConnection c).2 ↔ r.items x.id = some x ∧ x.clientConnectionID = c := by
  rw [show (r.closeConnection c).2 = (r.byConn c).filterMap r.items from rfl,
    h.conn.mem_records]
  constructor
  · rintro ⟨id, hx, hc⟩
    rw [(h.keyed id x hx).1]
    exact ⟨hx, hc⟩
  · rintro ⟨hx, hc⟩
    exact ⟨x.id, hx, hc⟩

theorem nodup_closeRouteConnection (e : Nat) :
    ((r.closeRouteConnection e).2.map Record.id).Nodup :=
  h.route.nodup_records (fun id x hx => (h.keyed id x hx).1) e

end Indexed

/-! ## The index by upstream session -/

/-- The index by upstream session is exact; so no two records have the same one. -/
def Mapped (r : Sessions) : Prop :=
  ∀ e u id, r.byUpstream e u = some id ↔
    ∃ x, r.items id = some x ∧ x.routeConnectionID = e ∧ x.upstreamSessionID = u

namespace Mapped

variable {r : Sessions}

theorem unique (h : r.Mapped) {id id' : Nat} {x x' : Record} (hx : r.items id = some x)
    (hx' : r.items id' = some x') (he : x.routeConnectionID = x'.routeConnectionID)
    (hu : x.upstreamSessionID = x'.upstreamSessionID) : id = id' := by
  have h₁ := (h _ _ id).mpr ⟨x, hx, rfl, rfl⟩
  have h₂ := (h _ _ id').mpr ⟨x', hx', he.symm, hu.symm⟩
  exact Option.some.inj (h₁.symm.trans h₂)

theorem openSession (h : r.Mapped) (hi : r.Indexed) (x : Record)
    (hnew : r.byUpstream x.routeConnectionID x.upstreamSessionID = none) :
    (r.openSession x).1.Mapped := by
  intro e u id
  show Function.update r.byUpstream x.routeConnectionID (Function.update
    (r.byUpstream x.routeConnectionID) x.upstreamSessionID
      (some (gatewaySessionBaseID + (r.nextID + 1)))) e u = some id ↔
    ∃ y, Function.update r.items (gatewaySessionBaseID + (r.nextID + 1)) (some
      { x with id := gatewaySessionBaseID + (r.nextID + 1) }) id = some y ∧ _
  set new := gatewaySessionBaseID + (r.nextID + 1) with hnewID
  have hitems : ∀ y, r.items new ≠ some y := fun y hy => by
    rw [hi.fresh] at hy
    cases hy
  by_cases heu : e = x.routeConnectionID ∧ u = x.upstreamSessionID
  · obtain ⟨rfl, rfl⟩ := heu
    rw [Function.update_self, Function.update_self]
    constructor
    · rintro hid
      obtain rfl := Option.some.inj hid
      exact ⟨_, Function.update_self _ _ _, rfl, rfl⟩
    · rintro ⟨y, hy, hye, hyu⟩
      by_cases hid : id = new
      · rw [hid]
      · rw [Function.update_of_ne hid] at hy
        have := (h _ _ id).mpr ⟨y, hy, hye, hyu⟩
        rw [hnew] at this
        cases this
  · have hold : Function.update r.byUpstream x.routeConnectionID (Function.update
        (r.byUpstream x.routeConnectionID) x.upstreamSessionID (some new)) e u =
          r.byUpstream e u := by
      by_cases he : e = x.routeConnectionID
      · subst he
        rw [Function.update_self, Function.update_of_ne fun hu => heu ⟨rfl, hu⟩]
      · rw [Function.update_of_ne he]
    rw [hold, h]
    refine exists_congr fun y => ?_
    by_cases hid : id = new
    · rw [hid, Function.update_self]
      refine ⟨fun hy => absurd hy.1 (hitems y), ?_⟩
      rintro ⟨hy, hye, hyu⟩
      obtain rfl := Option.some.inj hy
      exact absurd ⟨hye.symm, hyu.symm⟩ heu
    · rw [Function.update_of_ne hid]

/-- A record is taken, and its place in the index. -/
theorem delete {items : Nat → Option Record} {byUpstream : Nat → Nat → Option Nat}
    (h : ∀ e u id, byUpstream e u = some id ↔
      ∃ x, items id = some x ∧ x.routeConnectionID = e ∧ x.upstreamSessionID = u)
    {id : Nat} {x : Record} (hx : items id = some x) (e u id' : Nat) :
    Function.update byUpstream x.routeConnectionID
      (Function.update (byUpstream x.routeConnectionID) x.upstreamSessionID none) e u = some id' ↔
    ∃ y, Function.update items id none id' = some y ∧ y.routeConnectionID = e ∧
      y.upstreamSessionID = u := by
  by_cases heu : e = x.routeConnectionID ∧ u = x.upstreamSessionID
  · obtain ⟨rfl, rfl⟩ := heu
    rw [Function.update_self, Function.update_self]
    refine ⟨fun h => (nomatch h), ?_⟩
    rintro ⟨y, hy, hye, hyu⟩
    obtain ⟨hid, hy⟩ := Lib.update_none hy
    have h₁ := (h _ _ id').mpr ⟨y, hy, hye, hyu⟩
    have h₂ := (h _ _ id).mpr ⟨x, hx, rfl, rfl⟩
    exact absurd (Option.some.inj (h₁.symm.trans h₂)) hid
  · have hold : Function.update byUpstream x.routeConnectionID (Function.update
        (byUpstream x.routeConnectionID) x.upstreamSessionID none) e u = byUpstream e u := by
      by_cases he : e = x.routeConnectionID
      · subst he
        rw [Function.update_self, Function.update_of_ne fun hu => heu ⟨rfl, hu⟩]
      · rw [Function.update_of_ne he]
    rw [hold, h]
    refine exists_congr fun y => ?_
    by_cases hid : id' = id
    · rw [hid, Function.update_self, hx]
      refine ⟨?_, fun hy => nomatch hy.1⟩
      rintro ⟨hy, hye, hyu⟩
      obtain rfl := Option.some.inj hy
      exact absurd ⟨hye.symm, hyu.symm⟩ heu
    · rw [Function.update_of_ne hid]

theorem close (h : r.Mapped) (id : Nat) : (r.close id).Mapped := by
  unfold Sessions.close
  cases hx : r.items id with
  | none => exact h
  | some x => exact delete h hx

theorem closeOfConnection (h : r.Mapped) (id : Nat) : (r.closeOfConnection id).Mapped := by
  unfold Sessions.closeOfConnection
  cases hx : r.items id with
  | none => exact h
  | some x => exact delete h hx

theorem closeOfRoute (h : r.Mapped) (id : Nat) : (r.closeOfRoute id).Mapped := by
  unfold Sessions.closeOfRoute
  cases hx : r.items id with
  | none => exact h
  | some x => exact delete h hx

theorem closeConnection (h : r.Mapped) (c : Nat) : (r.closeConnection c).1.Mapped :=
  foldl_keeps (P := Mapped) (fun _ id ht => ht.closeOfConnection id) (r.byConn c) h

theorem closeRouteConnection (h : r.Mapped) (e : Nat) : (r.closeRouteConnection e).1.Mapped :=
  foldl_keeps (P := Mapped) (fun _ id ht => ht.closeOfRoute id) (r.byRoute e) h

end Mapped

theorem mapped_init : Mapped {} := by
  intro e u id
  refine ⟨fun h => (nomatch h), ?_⟩
  rintro ⟨x, hx, -⟩
  cases hx

end Sessions

end YumeDisk.Server
