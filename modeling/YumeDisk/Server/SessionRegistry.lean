import YumeDisk.Lib.Nested
import YumeDisk.Lib.Run
import YumeDisk.Server.SessionIndex

/-!
# The session registry with its inner maps (`gateway/client/session/registry.go`)

The registry is a map of records and three maps of maps over it.  `Registry.sessions` forgets which
inner maps are there; each operation does to the rest what the operation of `Sessions` does.

* `Registry.openSession`, `Registry.close`, ...: the operations.
* `Registry.Consistent`: the four maps have the same records, and no inner map is empty.
* `registry_consistent`: **the result**, for every sequence of operations.
-/

namespace YumeDisk.Server

open YumeDisk.Lib

structure Registry where
  nextID : Nat := 0
  items : Nat → Option Record := fun _ => none
  byConn : Nested Nat Nat Unit := fun _ => none
  byRoute : Nested Nat Nat Unit := fun _ => none
  /-- By route, the upstream sessions and their ids. -/
  byUpstream : Nested Nat Nat Nat := fun _ => none

namespace Registry

variable (r : Registry)

/-- `Open`; it gives the record its id. -/
def openSession (record : Record) : Registry × Nat :=
  -- as a `uint64` it is 0 only after `2 ^ 63` sessions
  let id := gatewaySessionBaseID + (r.nextID + 1)
  let record := { record with id }
  ({ nextID := r.nextID + 1
     items := Function.update r.items id (some record)
     byConn := r.byConn.put record.clientConnectionID id ()
     byRoute := r.byRoute.put record.routeConnectionID id ()
     byUpstream := r.byUpstream.put record.routeConnectionID record.upstreamSessionID id }, id)

/-- `Lookup`. -/
def lookup (id : Nat) : Option Record := r.items id

/-- `Close`. -/
def close (id : Nat) : Registry × Option Record :=
  match r.items id with
  | none => (r, none)
  | some record =>
    ({ r with
       items := Function.update r.items id none
       byConn := r.byConn.remove record.clientConnectionID id
       byRoute := r.byRoute.remove record.routeConnectionID id
       byUpstream := r.byUpstream.remove record.routeConnectionID record.upstreamSessionID },
      some record)

/-- `CloseRouteSession`. -/
def closeRouteSession (routeConnectionID upstreamSessionID : Nat) : Registry × Option Record :=
  match r.byUpstream.find? routeConnectionID upstreamSessionID with
  | none => (r, none)
  | some id => r.close id

/-- One round of the loop of `CloseConnection`. -/
def closeOfConnection (acc : Registry × List Record) (id : Nat) : Registry × List Record :=
  match acc.1.items id with
  | none => acc
  | some record =>
    ({ acc.1 with
       items := Function.update acc.1.items id none
       byRoute := acc.1.byRoute.remove record.routeConnectionID id
       byUpstream := acc.1.byUpstream.remove record.routeConnectionID record.upstreamSessionID },
      acc.2 ++ [record])

/-- `CloseConnection`; the ids are those of `collectClientSessionIDs`. -/
def closeConnection (connectionID : Nat) : Registry × List Record :=
  let (r, records) := (r.byConn.keys connectionID).foldl closeOfConnection (r, [])
  ({ r with byConn := r.byConn.drop connectionID }, records)

/-- One round of the loop of `CloseRouteConnection`. -/
def closeOfRoute (acc : Registry × List Record) (id : Nat) : Registry × List Record :=
  match acc.1.items id with
  | none => acc
  | some record =>
    ({ acc.1 with
       items := Function.update acc.1.items id none
       byConn := acc.1.byConn.remove record.clientConnectionID id
       byUpstream := acc.1.byUpstream.remove record.routeConnectionID record.upstreamSessionID },
      acc.2 ++ [record])

/-- `CloseRouteConnection`; the ids are those of `collectRouteSessionIDs`. -/
def closeRouteConnection (routeConnectionID : Nat) : Registry × List Record :=
  let (r, records) := (r.byRoute.keys routeConnectionID).foldl closeOfRoute (r, [])
  ({ r with byRoute := r.byRoute.drop routeConnectionID }, records)

end Registry

inductive RegistryAction where
  | openSession (record : Record)
  | lookup (id : Nat)
  | close (id : Nat)
  | closeRouteSession (routeConnectionID upstreamSessionID : Nat)
  | closeConnection (connectionID : Nat)
  | closeRouteConnection (routeConnectionID : Nat)

namespace Registry

def step (r : Registry) : RegistryAction → Option Registry
  | .openSession record => some (r.openSession record).1
  | .lookup _ => some r
  | .close id => some (r.close id).1
  | .closeRouteSession e u => some (r.closeRouteSession e u).1
  | .closeConnection c => some (r.closeConnection c).1
  | .closeRouteConnection e => some (r.closeRouteConnection e).1

/-- No record is opened with the route and the upstream session of a live one. -/
def PairsUnique (r : Registry) : RegistryAction → Prop
  | .openSession record => ∀ id x, r.items id = some x →
    ¬ (x.routeConnectionID = record.routeConnectionID ∧
      x.upstreamSessionID = record.upstreamSessionID)
  | _ => True

/-- The four maps have exactly the same records, and no inner map is empty or has a key twice. -/
structure Consistent (r : Registry) : Prop where
  keyed : ∀ id x, r.items id = some x → x.id = id
  conn : ∀ c id, id ∈ r.byConn.keys c ↔ ∃ x, r.items id = some x ∧ x.clientConnectionID = c
  route : ∀ e id, id ∈ r.byRoute.keys e ↔ ∃ x, r.items id = some x ∧ x.routeConnectionID = e
  upstream : ∀ e u id, (u, id) ∈ r.byUpstream.entries e ↔
    ∃ x, r.items id = some x ∧ x.routeConnectionID = e ∧ x.upstreamSessionID = u
  conn_tidy : r.byConn.Tidy
  route_tidy : r.byRoute.Tidy
  upstream_tidy : r.byUpstream.Tidy

/-- An operation takes exactly the records that satisfy `P`, and returns each of them once. -/
structure Takes (r : Registry) (P : Record → Prop) [DecidablePred P]
    (closed : Registry × List Record) : Prop where
  mem : ∀ x, x ∈ closed.2 ↔ (∃ id, r.items id = some x) ∧ P x
  nodup : closed.2.Nodup
  items : ∀ id, closed.1.items id = (r.items id).filter fun x => ¬ P x

/-! ## The registry without its inner maps -/

/-- The ids and the records. -/
def sessions (r : Registry) : Sessions where
  nextID := r.nextID
  items := r.items
  byConn := r.byConn.keys
  byRoute := r.byRoute.keys
  byUpstream := r.byUpstream.find?

section Sessions

theorem keys_put_eq (m : Nested Nat Nat Unit) (k id : Nat) :
    (m.put k id ()).keys = Function.update m.keys k (insertID (m.keys k) id) := by
  funext k'
  rw [Nested.keys_put, Function.update_apply]
  rfl

theorem keys_remove_eq (m : Nested Nat Nat Unit) (k id : Nat) :
    (m.remove k id).keys = Function.update m.keys k (deleteID (m.keys k) id) := by
  funext k'
  rw [Nested.keys_remove, Function.update_apply]
  rfl

theorem keys_drop_eq (m : Nested Nat Nat Unit) (k : Nat) :
    (m.drop k).keys = Function.update m.keys k [] := by
  funext k'
  rw [Nested.keys_drop, Function.update_apply]

/-- What is found in a map of maps after one of its places has changed. -/
theorem find_update_eq {m m' : Nested Nat Nat Nat} {e u : Nat} {v : Option Nat}
    (h : ∀ e' u', m'.find? e' u' = if e' = e ∧ u' = u then v else m.find? e' u') :
    m'.find? = Function.update m.find? e (Function.update (m.find? e) u v) := by
  funext e' u'
  rw [h, Function.update_apply]
  by_cases he : e' = e
  · subst he
    rw [if_pos rfl, Function.update_apply]
    by_cases hu : u' = u
    · rw [if_pos hu, if_pos ⟨rfl, hu⟩]
    · rw [if_neg hu, if_neg fun h => hu h.2]
  · rw [if_neg he, if_neg fun h => he h.1]

variable (r : Registry)

theorem sessions_openSession (x : Record) :
    (r.openSession x).1.sessions = (r.sessions.openSession x).1 := by
  simp only [sessions, openSession, Sessions.openSession, keys_put_eq,
    find_update_eq (Nested.find?_put r.byUpstream x.routeConnectionID x.upstreamSessionID _)]

theorem sessions_close (id : Nat) : (r.close id).1.sessions = r.sessions.close id := by
  unfold close Sessions.close
  cases hid : r.items id with
  | none => simp only [sessions, hid]
  | some x =>
    simp only [sessions, hid, keys_remove_eq,
      find_update_eq (Nested.find?_remove r.byUpstream x.routeConnectionID x.upstreamSessionID)]

theorem sessions_closeOfConnection (acc : Registry × List Record) (id : Nat) :
    (closeOfConnection acc id).1.sessions = acc.1.sessions.closeOfConnection id := by
  unfold closeOfConnection Sessions.closeOfConnection
  cases hid : acc.1.items id with
  | none => simp only [sessions, hid]
  | some x =>
    simp only [sessions, hid, keys_remove_eq,
      find_update_eq (Nested.find?_remove acc.1.byUpstream x.routeConnectionID x.upstreamSessionID)]

theorem sessions_closeOfRoute (acc : Registry × List Record) (id : Nat) :
    (closeOfRoute acc id).1.sessions = acc.1.sessions.closeOfRoute id := by
  unfold closeOfRoute Sessions.closeOfRoute
  cases hid : acc.1.items id with
  | none => simp only [sessions, hid]
  | some x =>
    simp only [sessions, hid, keys_remove_eq,
      find_update_eq (Nested.find?_remove acc.1.byUpstream x.routeConnectionID x.upstreamSessionID)]

/-- A loop over the ids of an index does to the sessions what its rounds do. -/
theorem sessions_foldl {f : Registry × List Record → Nat → Registry × List Record}
    {g : Sessions → Nat → Sessions} (hf : ∀ acc id, (f acc id).1.sessions = g acc.1.sessions id)
    (ids : List Nat) (acc : Registry × List Record) :
    (ids.foldl f acc).1.sessions = ids.foldl g acc.1.sessions := by
  induction ids generalizing acc with
  | nil => rfl
  | cons id ids ih => rw [List.foldl_cons, List.foldl_cons, ih, hf]

/-- The records of a loop that takes every id it comes to. -/
theorem records_foldl {f : Registry × List Record → Nat → Registry × List Record}
    (hitems : ∀ acc id x, (f acc id).1.items x = if x = id then none else acc.1.items x)
    (hrecords : ∀ acc id, (f acc id).2 = acc.2 ++ (acc.1.items id).toList) {ids : List Nat}
    (hnodup : ids.Nodup) (acc : Registry × List Record) :
    (ids.foldl f acc).2 = acc.2 ++ ids.filterMap acc.1.items := by
  induction ids generalizing acc with
  | nil => rw [List.foldl_nil, List.filterMap_nil, List.append_nil]
  | cons id ids ih =>
    obtain ⟨hid, hnodup⟩ := List.nodup_cons.mp hnodup
    have hrest : ids.filterMap (f acc id).1.items = ids.filterMap acc.1.items := by
      refine List.filterMap_congr fun x hx => ?_
      rw [hitems, if_neg fun h : x = id => hid (h ▸ hx)]
    rw [List.foldl_cons, ih hnodup, hrest, hrecords, List.append_assoc]
    cases h : acc.1.items id with
    | none => rw [List.filterMap_cons_none h]; rfl
    | some x => rw [List.filterMap_cons_some h]; rfl

theorem closeOfConnection_records (acc : Registry × List Record) (id : Nat) :
    (closeOfConnection acc id).2 = acc.2 ++ (acc.1.items id).toList := by
  unfold closeOfConnection
  cases hid : acc.1.items id with
  | none => exact (List.append_nil _).symm
  | some x => rfl

theorem closeOfRoute_records (acc : Registry × List Record) (id : Nat) :
    (closeOfRoute acc id).2 = acc.2 ++ (acc.1.items id).toList := by
  unfold closeOfRoute
  cases hid : acc.1.items id with
  | none => exact (List.append_nil _).symm
  | some x => rfl

variable {r}

theorem sessions_closeConnection (c : Nat) :
    (r.closeConnection c).1.sessions = (r.sessions.closeConnection c).1 := by
  have hloop := sessions_foldl sessions_closeOfConnection (r.byConn.keys c) (r, [])
  set closed := (r.byConn.keys c).foldl closeOfConnection (r, []) with hclosed
  have hdrop : (r.closeConnection c).1.sessions =
      { closed.1.sessions with byConn := (closed.1.byConn.drop c).keys } := rfl
  rw [hdrop, keys_drop_eq, hloop, show closed.1.byConn.keys = closed.1.sessions.byConn from rfl,
    hloop]
  rfl

theorem sessions_closeRouteConnection (e : Nat) :
    (r.closeRouteConnection e).1.sessions = (r.sessions.closeRouteConnection e).1 := by
  have hloop := sessions_foldl sessions_closeOfRoute (r.byRoute.keys e) (r, [])
  set closed := (r.byRoute.keys e).foldl closeOfRoute (r, []) with hclosed
  have hdrop : (r.closeRouteConnection e).1.sessions =
      { closed.1.sessions with byRoute := (closed.1.byRoute.drop e).keys } := rfl
  rw [hdrop, keys_drop_eq, hloop, show closed.1.byRoute.keys = closed.1.sessions.byRoute from rfl,
    hloop]
  rfl

theorem records_closeConnection (h : r.byConn.Tidy) (c : Nat) :
    (r.closeConnection c).2 = (r.sessions.closeConnection c).2 :=
  (records_foldl (fun acc id x =>
      (congrFun (congrArg Sessions.items (sessions_closeOfConnection acc id)) x).trans
        (Sessions.closeOfConnection_items acc.1.sessions id x))
    closeOfConnection_records (h.nodup c) (r, [])).trans (List.nil_append _)

theorem records_closeRouteConnection (h : r.byRoute.Tidy) (e : Nat) :
    (r.closeRouteConnection e).2 = (r.sessions.closeRouteConnection e).2 :=
  (records_foldl (fun acc id x =>
      (congrFun (congrArg Sessions.items (sessions_closeOfRoute acc id)) x).trans
        (Sessions.closeOfRoute_items acc.1.sessions id x))
    closeOfRoute_records (h.nodup e) (r, [])).trans (List.nil_append _)

end Sessions

/-! ## The inner maps -/

structure Tidy (r : Registry) : Prop where
  conn : r.byConn.Tidy
  route : r.byRoute.Tidy
  upstream : r.byUpstream.Tidy

theorem tidy_init : Tidy {} :=
  ⟨Nested.tidy_empty, Nested.tidy_empty, Nested.tidy_empty⟩

section Tidy

variable {r : Registry}

theorem Tidy.openSession (h : r.Tidy) (x : Record) : (r.openSession x).1.Tidy :=
  ⟨h.conn.put _ _ _, h.route.put _ _ _, h.upstream.put _ _ _⟩

theorem Tidy.close (h : r.Tidy) (id : Nat) : (r.close id).1.Tidy := by
  unfold Registry.close
  cases r.items id with
  | none => exact h
  | some x => exact ⟨h.conn.remove _ _, h.route.remove _ _, h.upstream.remove _ _⟩

theorem Tidy.closeOfConnection {acc : Registry × List Record} (h : acc.1.Tidy) (id : Nat) :
    (closeOfConnection acc id).1.Tidy := by
  unfold Registry.closeOfConnection
  cases acc.1.items id with
  | none => exact h
  | some x => exact ⟨h.conn, h.route.remove _ _, h.upstream.remove _ _⟩

theorem Tidy.closeOfRoute {acc : Registry × List Record} (h : acc.1.Tidy) (id : Nat) :
    (closeOfRoute acc id).1.Tidy := by
  unfold Registry.closeOfRoute
  cases acc.1.items id with
  | none => exact h
  | some x => exact ⟨h.conn.remove _ _, h.route, h.upstream.remove _ _⟩

theorem Tidy.foldl {f : Registry × List Record → Nat → Registry × List Record}
    (hf : ∀ acc id, acc.1.Tidy → (f acc id).1.Tidy) (ids : List Nat)
    {acc : Registry × List Record} (h : acc.1.Tidy) : (ids.foldl f acc).1.Tidy := by
  induction ids generalizing acc with
  | nil => exact h
  | cons id ids ih => exact ih (hf acc id h)

theorem Tidy.closeConnection (h : r.Tidy) (c : Nat) : (r.closeConnection c).1.Tidy := by
  have hloop : ((r.byConn.keys c).foldl Registry.closeOfConnection (r, [])).1.Tidy :=
    Tidy.foldl (fun _ id hacc => hacc.closeOfConnection id) _ h
  exact ⟨hloop.conn.drop c, hloop.route, hloop.upstream⟩

theorem Tidy.closeRouteConnection (h : r.Tidy) (e : Nat) : (r.closeRouteConnection e).1.Tidy := by
  have hloop : ((r.byRoute.keys e).foldl Registry.closeOfRoute (r, [])).1.Tidy :=
    Tidy.foldl (fun _ id hacc => hacc.closeOfRoute id) _ h
  exact ⟨hloop.conn, hloop.route.drop e, hloop.upstream⟩

end Tidy

/-! ## Every sequence of operations -/

structure Inv (r : Registry) : Prop where
  indexed : r.sessions.Indexed
  mapped : r.sessions.Mapped
  tidy : r.Tidy

theorem inv_init : Inv {} := ⟨Sessions.indexed_init, Sessions.mapped_init, tidy_init⟩

variable {r r' : Registry}

theorem Inv.close (h : r.Inv) (id : Nat) : (r.close id).1.Inv where
  indexed := sessions_close r id ▸ h.indexed.close id
  mapped := sessions_close r id ▸ h.mapped.close id
  tidy := h.tidy.close id

theorem Inv.step {a : RegistryAction} (h : r.Inv) (hguard : r.PairsUnique a)
    (hs : r.step a = some r') : r'.Inv := by
  cases a with
  | openSession x =>
    cases hs
    refine ⟨?_, ?_, h.tidy.openSession x⟩
    · rw [sessions_openSession]
      exact h.indexed.openSession x
    · rw [sessions_openSession]
      refine h.mapped.openSession h.indexed x ?_
      cases hfound : r.sessions.byUpstream x.routeConnectionID x.upstreamSessionID with
      | none => rfl
      | some id =>
        obtain ⟨y, hy, he, hu⟩ := (h.mapped _ _ _).mp hfound
        exact absurd ⟨he, hu⟩ (hguard id y hy)
  | lookup id =>
    cases hs
    exact h
  | close id =>
    cases hs
    exact h.close id
  | closeRouteSession e u =>
    cases hs
    unfold closeRouteSession
    cases r.byUpstream.find? e u with
    | none => exact h
    | some id => exact h.close id
  | closeConnection c =>
    cases hs
    refine ⟨?_, ?_, h.tidy.closeConnection c⟩
    · rw [sessions_closeConnection]
      exact h.indexed.closeConnection c
    · rw [sessions_closeConnection]
      exact h.mapped.closeConnection c
  | closeRouteConnection e =>
    cases hs
    refine ⟨?_, ?_, h.tidy.closeRouteConnection e⟩
    · rw [sessions_closeRouteConnection]
      exact h.indexed.closeRouteConnection e
    · rw [sessions_closeRouteConnection]
      exact h.mapped.closeRouteConnection e

theorem Inv.consistent (h : r.Inv) : r.Consistent where
  keyed id x hx := (h.indexed.keyed id x hx).1
  conn := h.indexed.conn.mem
  route := h.indexed.route.mem
  upstream e u id := by
    rw [h.tidy.upstream.mem_entries]
    exact h.mapped e u id
  conn_tidy := h.tidy.conn
  route_tidy := h.tidy.route
  upstream_tidy := h.tidy.upstream

/-- A record is where its id says. -/
theorem Inv.exists_item (h : r.Inv) {x : Record} : r.items x.id = some x ↔ ∃ id, r.items id = some x :=
  ⟨fun hx => ⟨x.id, hx⟩, fun ⟨id, hx⟩ => by rwa [(h.indexed.keyed id x hx).1]⟩

theorem Inv.takes_closeConnection (h : r.Inv) (c : Nat) :
    r.Takes (·.clientConnectionID = c) (r.closeConnection c) where
  mem x := by
    rw [records_closeConnection h.tidy.conn, h.indexed.mem_closeConnection]
    exact and_congr_left' h.exists_item
  nodup := by
    rw [records_closeConnection h.tidy.conn]
    exact .of_map _ (h.indexed.conn.nodup_records (fun id x hx => (h.indexed.keyed id x hx).1) c)
  items id := by
    rw [show (r.closeConnection c).1.items = (r.closeConnection c).1.sessions.items from rfl,
      sessions_closeConnection, h.indexed.closeConnection_items]
    rfl

theorem Inv.takes_closeRouteConnection (h : r.Inv) (e : Nat) :
    r.Takes (·.routeConnectionID = e) (r.closeRouteConnection e) where
  mem x := by
    rw [records_closeRouteConnection h.tidy.route, h.indexed.mem_closeRouteConnection]
    exact and_congr_left' h.exists_item
  nodup := by
    rw [records_closeRouteConnection h.tidy.route]
    exact .of_map _ (h.indexed.nodup_closeRouteConnection e)
  items id := by
    rw [show (r.closeRouteConnection e).1.items = (r.closeRouteConnection e).1.sessions.items from
      rfl, sessions_closeRouteConnection, h.indexed.closeRouteConnection_items]
    rfl

/-- **The four maps agree** after every sequence of operations, and closing a connection or a route
takes exactly its records. -/
theorem registry_consistent {as : List RegistryAction} (hguard : StepsMeet step PairsUnique {} as)
    (h : runFrom step {} as = some r) :
    r.Consistent ∧ (∀ c, r.Takes (·.clientConnectionID = c) (r.closeConnection c)) ∧
      ∀ e, r.Takes (·.routeConnectionID = e) (r.closeRouteConnection e) := by
  have hinv : r.Inv := run_inv_of_guard (fun _ _ _ hi hg hs => Inv.step hi hg hs) as {} r inv_init
    hguard h
  exact ⟨hinv.consistent, hinv.takes_closeConnection, hinv.takes_closeRouteConnection⟩

/-- Two sessions of a client on two routes; the storer closes one, and the client goes. -/
def twoRoutes : List RegistryAction :=
  [.openSession { clientConnectionID := 1, routeConnectionID := 2, upstreamSessionID := 5 },
    .openSession { clientConnectionID := 1, routeConnectionID := 3, upstreamSessionID := 5 },
    .closeRouteSession 2 5, .closeConnection 1]

theorem twoRoutes_consistent : ∃ r, runFrom step {} twoRoutes = some r ∧ r.nextID = 2 ∧
    r.Consistent := by
  have hguard : StepsMeet step PairsUnique {} twoRoutes := by
    refine stepsMeet_cons nofun rfl (stepsMeet_cons (fun id x hx => ?_) rfl ?_)
    · have hx := (Function.update_apply _ _ _ _).symm.trans hx
      split_ifs at hx
      cases hx
      decide
    · exact stepsMeet_cons trivial rfl (stepsMeet_cons trivial rfl trivial)
  obtain ⟨r, hr, hp⟩ := exists_run step {} twoRoutes (fun r => r.nextID = 2) (by decide)
  exact ⟨r, hr, of_decide_eq_true hp, (registry_consistent hguard hr).1⟩

end Registry

end YumeDisk.Server
