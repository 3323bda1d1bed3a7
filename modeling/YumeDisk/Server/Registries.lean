import Mathlib.Data.List.Nodup
import Mathlib.Logic.Function.Basic
import YumeDisk.Server.Auth
import YumeDisk.Lib.Update

/-!
# The registries of the gateway

* `Routes` (`route/registry.go`): the storer connection that serves each disk.  `registered` is the
  last registration of a disk, as it was registered.
* `Grants` (`gateway/client/auth/registry.go`): the auth ids that a client may open a session with.
  The two indexes hold every grant, so `closeDisk` and `closeConnection` leave none behind
  (`closeDisk_items`, `closeConnection_items`).
* `Sessions` (`gateway/client/session/registry.go`): the open sessions.

Each operation is one section under the registry's mutex.  The counters are unbounded.
-/

namespace YumeDisk.Server

open YumeDisk.Lib

/-! ## Routes -/

structure Entry where
  diskID : DiskID
  authVerifier : Bytes
  routeTarget : String
  connectionID : Nat
  connected : Bool
deriving DecidableEq, Repr

inductive RegisterError where
  | requiresDiskID
  | requiresRouteTarget
  | mustBeConnected
  | alreadyRegistered
deriving DecidableEq, Repr

/-- The map of `route.Registry`, each entry under its disk id. -/
structure Routes where
  items : List Entry := []
deriving DecidableEq, Repr

namespace Routes

def find (r : Routes) (diskID : DiskID) : Option Entry := r.items.find? (·.diskID = diskID)

def register (r : Routes) (entry : Entry) : Except RegisterError Routes :=
  if entry.diskID = [] then
    throw .requiresDiskID
  else if entry.routeTarget = "" then
    throw .requiresRouteTarget
  else if !entry.connected then
    throw .mustBeConnected
  else if (r.find entry.diskID).any fun existing =>
      existing.connected && existing.connectionID != entry.connectionID then
    throw .alreadyRegistered
  else
    return { items := entry :: r.items.filter (·.diskID ≠ entry.diskID) }

def lookupRoute (r : Routes) (diskID : DiskID) : Option Entry :=
  (r.find diskID).filter (·.connected)

/-- The registry, and the entries that are no longer connected. -/
def disconnectConnection (r : Routes) (connectionID : Nat) : Routes × List Entry :=
  ({ items := r.items.map fun entry =>
      if entry.connectionID ≠ connectionID then entry else { entry with connected := false } },
    (r.items.filter (·.connectionID = connectionID)).map fun entry =>
      { entry with connected := false })

/-- The last registration of the disk, as it was registered. -/
def registered (r : Routes) (diskID : DiskID) : Option Entry :=
  (r.find diskID).map fun entry => { entry with connected := true }

theorem registered_of_lookupRoute {r : Routes} {d : DiskID} {e : Entry}
    (h : r.lookupRoute d = some e) :
    r.registered d = some e ∧ e.connected = true ∧ e.diskID = d := by
  obtain ⟨hf, hc⟩ := Option.filter_eq_some_iff.mp h
  refine ⟨?_, hc, ?_⟩
  · obtain ⟨_, _, _, _, connected⟩ := e
    obtain rfl : connected = true := hc
    simp [registered, hf]
  · simpa using List.find?_some hf

theorem registered_register_of_ne {r r' : Routes} {e : Entry} {d : DiskID}
    (h : r.register e = .ok r') (hd : d ≠ e.diskID) : r'.registered d = r.registered d := by
  unfold register at h
  split_ifs at h with h₁ h₂ h₃ h₄
  cases h
  have hfind : (r.items.filter (·.diskID ≠ e.diskID)).find? (·.diskID = d) =
      r.items.find? (·.diskID = d) := by
    rw [List.find?_filter]
    congr 1
    funext x
    by_cases hx : x.diskID = d
    · simp [hx, hd]
    · simp [hx]
  unfold registered find
  rw [List.find?_cons_of_neg (by simpa using fun he => hd he.symm), hfind]

/-- A disconnect does not change who registered last. -/
theorem registered_disconnectConnection (r : Routes) (c : Nat) (d : DiskID) :
    (r.disconnectConnection c).1.registered d = r.registered d := by
  unfold registered find disconnectConnection
  rw [List.find?_map]
  have hkey : ((fun e : Entry => decide (e.diskID = d)) ∘ fun entry : Entry =>
      if entry.connectionID ≠ c then entry else { entry with connected := false }) =
        fun e => decide (e.diskID = d) := by
    funext e
    simp only [Function.comp]
    split <;> rfl
  rw [hkey, Option.map_map]
  congr 1
  funext e
  simp only [Function.comp]
  split <;> rfl

end Routes

/-! ## Sets of ids -/

/-- `ids` with `id`, as a set. -/
def insertID (ids : List Nat) (id : Nat) : List Nat := if id ∈ ids then ids else ids ++ [id]

/-- `delete(ids, id)`. -/
def deleteID (ids : List Nat) (id : Nat) : List Nat := ids.filter (· ≠ id)

theorem mem_insertID {ids : List Nat} {id x : Nat} : x ∈ insertID ids id ↔ x ∈ ids ∨ x = id := by
  unfold insertID
  by_cases h : id ∈ ids
  · rw [if_pos h]
    exact ⟨.inl, fun hx => hx.elim (fun hx => hx) fun hx => hx ▸ h⟩
  · rw [if_neg h]
    simp

theorem mem_deleteID {ids : List Nat} {id x : Nat} : x ∈ deleteID ids id ↔ x ∈ ids ∧ x ≠ id := by
  simp [deleteID]

/-! ## Grants -/

structure Grant where
  id : Nat
  clientConnection : Nat
  diskID : DiskID
  /-- Nanoseconds. -/
  expiresAt : Nat
deriving DecidableEq, Repr

/-- `proto.Status` of a refused auth id. -/
inductive GrantStatus where
  | authIDInvalid
  | authIDExpired
deriving DecidableEq, Repr

/-- The grants by id, and the ids by connection and by disk. -/
structure Grants where
  nextID : Nat := 0
  items : Nat → Option Grant := fun _ => none
  byConn : Nat → List Nat := fun _ => []
  byDisk : DiskID → List Nat := fun _ => []
  keyed : ∀ id g, items id = some g → g.id = id ∧ id ≤ nextID := by simp
  conn_index : ∀ c id, id ∈ byConn c ↔ ∃ g, items id = some g ∧ g.clientConnection = c := by simp
  disk_index : ∀ d id, id ∈ byDisk d ↔ ∃ g, items id = some g ∧ g.diskID = d := by simp

namespace Grants

section Index

variable {κ : Type} [DecidableEq κ] {items : Nat → Option Grant} {index : κ → List Nat}
  {f : Grant → κ}

/-- An index stays exact when a new grant is put under its id and into the index. -/
theorem index_insert (h : ∀ k id, id ∈ index k ↔ ∃ g, items id = some g ∧ f g = k) {id : Nat}
    (hnew : items id = none) (g : Grant) (k : κ) (x : Nat) :
    x ∈ Function.update index (f g) (insertID (index (f g)) id) k ↔
      ∃ g', Function.update items id (some g) x = some g' ∧ f g' = k := by
  have hold : x ∈ index k → x ≠ id := by
    rintro hx rfl
    obtain ⟨g', hg', -⟩ := (h k x).mp hx
    rw [hnew] at hg'
    cases hg'
  by_cases hx : x = id
  · subst hx
    by_cases hk : k = f g
    · simp [hk, mem_insertID]
    · simp only [Function.update_of_ne hk, Function.update_self, Option.some.injEq]
      exact ⟨fun hx => absurd rfl (hold hx), fun ⟨g', hg', hk'⟩ => absurd (hg' ▸ hk'.symm) hk⟩
  · rw [Function.update_of_ne hx, ← h k x]
    by_cases hk : k = f g
    · subst hk
      simp [mem_insertID, hx]
    · rw [Function.update_of_ne hk]

/-- An index stays exact when a grant is taken from its id and from the index. -/
theorem index_delete (h : ∀ k id, id ∈ index k ↔ ∃ g, items id = some g ∧ f g = k) {id : Nat}
    {g : Grant} (hg : items id = some g) (k : κ) (x : Nat) :
    x ∈ Function.update index (f g) (deleteID (index (f g)) id) k ↔
      ∃ g', Function.update items id none x = some g' ∧ f g' = k := by
  by_cases hx : x = id
  · subst hx
    by_cases hk : k = f g
    · simp [hk, mem_deleteID]
    · have : x ∉ index k := by
        rw [h k x, hg]
        rintro ⟨g', hg', hk'⟩
        exact hk (Option.some.inj hg' ▸ hk'.symm)
      simp [Function.update_of_ne hk, this]
  · rw [Function.update_of_ne hx, ← h k x]
    by_cases hk : k = f g
    · subst hk
      simp [mem_deleteID, hx]
    · rw [Function.update_of_ne hk]

end Index

theorem fresh (r : Grants) : r.items (r.nextID + 1) = none := by
  cases h : r.items (r.nextID + 1) with
  | none => rfl
  | some g =>
    have := (r.keyed _ g h).2
    omega

/-- `Issue`; nothing else reads the counter. -/
def issue (r : Grants) (connectionID : Nat) (diskID : DiskID) (expiresAt : Nat) : Grants × Nat :=
  let id := r.nextID + 1
  ({ nextID := id
     items := Function.update r.items id (some ⟨id, connectionID, diskID, expiresAt⟩)
     byConn := Function.update r.byConn connectionID (insertID (r.byConn connectionID) id)
     byDisk := Function.update r.byDisk diskID (insertID (r.byDisk diskID) id)
     keyed := by
       intro x g hx
       rcases update_some hx with ⟨rfl, rfl⟩ | ⟨h, hx⟩
       · exact ⟨rfl, le_refl _⟩
       · obtain ⟨hid, hle⟩ := r.keyed x g hx
         exact ⟨hid, by omega⟩
     conn_index := index_insert (f := Grant.clientConnection) r.conn_index r.fresh
       ⟨id, connectionID, diskID, expiresAt⟩
     disk_index := index_insert (f := Grant.diskID) r.disk_index r.fresh
       ⟨id, connectionID, diskID, expiresAt⟩ },
    id)

def removeLocked (r : Grants) (id : Nat) : Grants :=
  match hid : r.items id with
  | none => r
  | some item =>
    { nextID := r.nextID
      items := Function.update r.items id none
      byConn := Function.update r.byConn item.clientConnection
        (deleteID (r.byConn item.clientConnection) id)
      byDisk := Function.update r.byDisk item.diskID (deleteID (r.byDisk item.diskID) id)
      keyed := by
        intro x g hx
        obtain ⟨h, hx⟩ := update_none hx
        exact r.keyed x g hx
      conn_index := index_delete r.conn_index hid
      disk_index := index_delete r.disk_index hid }

/-- `Lookup` and `LookupDisk` at time `now`; an expired grant is removed. -/
def lookupDisk (r : Grants) (now id connectionID : Nat) : Grants × Except GrantStatus DiskID :=
  match r.items id with
  | none => (r, throw .authIDInvalid)
  | some item =>
    if item.clientConnection ≠ connectionID then
      (r, throw .authIDInvalid)
    else if item.expiresAt ≤ now then
      (r.removeLocked id, throw .authIDExpired)
    else
      (r, return item.diskID)

/-- `Consume` and `ConsumeDisk`. -/
def consumeDisk (r : Grants) (id : Nat) : Grants × Option DiskID :=
  match r.items id with
  | none => (r, none)
  | some item => (r.removeLocked id, some item.diskID)

def closeConnection (r : Grants) (connectionID : Nat) : Grants :=
  (r.byConn connectionID).foldl removeLocked r

def closeDisk (r : Grants) (diskID : DiskID) : Grants :=
  (r.byDisk diskID).foldl removeLocked r

/-! What each operation does to the map. -/

@[simp] theorem removeLocked_nextID (r : Grants) (id : Nat) :
    (r.removeLocked id).nextID = r.nextID := by
  unfold removeLocked
  split <;> rfl

theorem removeLocked_items (r : Grants) (id x : Nat) :
    (r.removeLocked id).items x = if x = id then none else r.items x := by
  unfold removeLocked
  split
  · next h =>
    by_cases hx : x = id
    · rw [if_pos hx, hx, h]
    · rw [if_neg hx]
  · by_cases hx : x = id
    · rw [if_pos hx, hx]
      simp
    · rw [if_neg hx]
      simp [Function.update_of_ne hx]

theorem removeLocked_narrows {r : Grants} {id x : Nat} {g : Grant}
    (h : (r.removeLocked id).items x = some g) : r.items x = some g := by
  rw [removeLocked_items] at h
  split at h
  · cases h
  · exact h

/-- A lookup finds a grant of this connection that has not expired, or drops it if it has. -/
theorem lookupDisk_cases (r : Grants) (now id c : Nat) :
    (∃ g, r.items id = some g ∧ g.clientConnection = c ∧ now < g.expiresAt ∧
      r.lookupDisk now id c = (r, .ok g.diskID)) ∨
    (∃ status, r.lookupDisk now id c = (r, .error status)) ∨
    ∃ status, r.lookupDisk now id c = (r.removeLocked id, .error status) := by
  unfold lookupDisk
  cases hg : r.items id with
  | none => exact .inr (.inl ⟨_, rfl⟩)
  | some g =>
    by_cases hc : g.clientConnection ≠ c
    · simp only [if_pos hc]
      exact .inr (.inl ⟨_, rfl⟩)
    · by_cases ht : g.expiresAt ≤ now
      · simp only [if_neg hc, if_pos ht]
        exact .inr (.inr ⟨_, rfl⟩)
      · simp only [if_neg hc, if_neg ht]
        exact .inl ⟨g, rfl, not_not.mp hc, not_le.mp ht, rfl⟩

@[simp] theorem foldl_removeLocked_nextID (ids : List Nat) (r : Grants) :
    (ids.foldl removeLocked r).nextID = r.nextID := by
  induction ids generalizing r with
  | nil => rfl
  | cons id ids ih => rw [List.foldl_cons, ih, removeLocked_nextID]

theorem foldl_removeLocked_items (ids : List Nat) (r : Grants) (x : Nat) :
    (ids.foldl removeLocked r).items x = if x ∈ ids then none else r.items x := by
  induction ids generalizing r with
  | nil => rfl
  | cons id ids ih =>
    rw [List.foldl_cons, ih, removeLocked_items]
    by_cases hx : x ∈ ids
    · rw [if_pos hx, if_pos (List.mem_cons_of_mem _ hx)]
    · by_cases hid : x = id
      · simp [hid]
      · simp [hx, hid]

@[simp] theorem closeDisk_nextID (r : Grants) (d : DiskID) :
    (r.closeDisk d).nextID = r.nextID :=
  foldl_removeLocked_nextID _ r

@[simp] theorem closeConnection_nextID (r : Grants) (c : Nat) :
    (r.closeConnection c).nextID = r.nextID :=
  foldl_removeLocked_nextID _ r

/-- **A disk that is closed has no grant left**; the others stay. -/
theorem closeDisk_items (r : Grants) (d : DiskID) (x : Nat) :
    (r.closeDisk d).items x = (r.items x).filter fun g => g.diskID ≠ d := by
  rw [closeDisk, foldl_removeLocked_items]
  simp only [r.disk_index]
  cases r.items x with
  | none => simp
  | some g => by_cases hd : g.diskID = d <;> simp [Option.filter, hd]

/-- **A connection that is closed has no grant left**; the others stay. -/
theorem closeConnection_items (r : Grants) (c x : Nat) :
    (r.closeConnection c).items x = (r.items x).filter fun g => g.clientConnection ≠ c := by
  rw [closeConnection, foldl_removeLocked_items]
  simp only [r.conn_index]
  cases r.items x with
  | none => simp
  | some g => by_cases hc : g.clientConnection = c <;> simp [Option.filter, hc]

end Grants

/-! ## Sessions -/

def gatewaySessionBaseID : Nat := 2 ^ 63

structure Record where
  id : Nat := 0
  clientConnectionID : Nat
  routeConnectionID : Nat
  upstreamSessionID : Nat
deriving DecidableEq, Repr

structure Sessions where
  nextID : Nat := 0
  items : Nat → Option Record := fun _ => none
  byConn : Nat → List Nat := fun _ => []
  byRoute : Nat → List Nat := fun _ => []
  byUpstream : Nat → Nat → Option Nat := fun _ _ => none

namespace Sessions

/-- `Open`; it gives the record its id. -/
def openSession (r : Sessions) (record : Record) : Sessions × Nat :=
  let id := gatewaySessionBaseID + (r.nextID + 1)
  ({ nextID := r.nextID + 1
     items := Function.update r.items id (some { record with id })
     byConn := Function.update r.byConn record.clientConnectionID
       (insertID (r.byConn record.clientConnectionID) id)
     byRoute := Function.update r.byRoute record.routeConnectionID
       (insertID (r.byRoute record.routeConnectionID) id)
     byUpstream := Function.update r.byUpstream record.routeConnectionID
       (Function.update (r.byUpstream record.routeConnectionID) record.upstreamSessionID
         (some id)) }, id)

/-- `LookupOwned`. -/
def lookupOwned (r : Sessions) (id clientConnectionID : Nat) : Option Record :=
  (r.items id).filter (·.clientConnectionID = clientConnectionID)

/-- `LookupRouteSession`. -/
def lookupRouteSession (r : Sessions) (routeConnectionID upstreamSessionID : Nat) :
    Option Record :=
  (r.byUpstream routeConnectionID upstreamSessionID).bind r.items

/-- `Close`. -/
def close (r : Sessions) (id : Nat) : Sessions :=
  match r.items id with
  | none => r
  | some record =>
    { r with
      items := Function.update r.items id none
      byConn := Function.update r.byConn record.clientConnectionID
        (deleteID (r.byConn record.clientConnectionID) id)
      byRoute := Function.update r.byRoute record.routeConnectionID
        (deleteID (r.byRoute record.routeConnectionID) id)
      byUpstream := Function.update r.byUpstream record.routeConnectionID
        (Function.update (r.byUpstream record.routeConnectionID) record.upstreamSessionID none) }

/-- `CloseRouteSession`. -/
def closeRouteSession (r : Sessions) (routeConnectionID upstreamSessionID : Nat) :
    Sessions × Option Record :=
  match r.byUpstream routeConnectionID upstreamSessionID with
  | none => (r, none)
  | some id => (r.close id, r.items id)

/-- One round of the loop of `CloseConnection`. -/
def closeOfConnection (r : Sessions) (id : Nat) : Sessions :=
  match r.items id with
  | none => r
  | some record =>
    { r with
      items := Function.update r.items id none
      byRoute := Function.update r.byRoute record.routeConnectionID
        (deleteID (r.byRoute record.routeConnectionID) id)
      byUpstream := Function.update r.byUpstream record.routeConnectionID
        (Function.update (r.byUpstream record.routeConnectionID) record.upstreamSessionID none) }

def closeConnection (r : Sessions) (connectionID : Nat) : Sessions × List Record :=
  let closed := (r.byConn connectionID).foldl closeOfConnection r
  ({ closed with byConn := Function.update closed.byConn connectionID [] },
    (r.byConn connectionID).filterMap r.items)

/-- One round of the loop of `CloseRouteConnection`. -/
def closeOfRoute (r : Sessions) (id : Nat) : Sessions :=
  match r.items id with
  | none => r
  | some record =>
    { r with
      items := Function.update r.items id none
      byConn := Function.update r.byConn record.clientConnectionID
        (deleteID (r.byConn record.clientConnectionID) id)
      byUpstream := Function.update r.byUpstream record.routeConnectionID
        (Function.update (r.byUpstream record.routeConnectionID) record.upstreamSessionID none) }

def closeRouteConnection (r : Sessions) (routeConnectionID : Nat) : Sessions × List Record :=
  let closed := (r.byRoute routeConnectionID).foldl closeOfRoute r
  ({ closed with byRoute := Function.update closed.byRoute routeConnectionID [] },
    (r.byRoute routeConnectionID).filterMap r.items)

end Sessions

end YumeDisk.Server
