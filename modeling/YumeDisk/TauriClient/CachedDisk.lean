import YumeDisk.Backend.StagingHistory
import YumeDisk.Cache.FlatStore
import YumeDisk.TauriClient.NetworkMedia

/-!
# A network disk, from its staging store to its cache (`BackendRust/src/runtime.rs`)

The callbacks of AppKernel on a disk whose medium has the cache.  `host_read_bytes` holds the lock
of the runtime for reading: it asks the medium, and lays what is staged over the bytes that it
gets.  `host_stage_write`, a commit and a reject hold it for writing.  The blocks of a request, and
the flush worker, take their steps in between.

* `CachedDisk.step`: the steps, in any order.
* `CachedDisk.staged`: the steps of the staging store that a history holds.
* `cached_disk`: **the disk is the staging store over an array of bytes**.
-/

namespace YumeDisk.TauriClient.Network

open Lib (Bytes readAt writeAt runFrom StepsMeet)
open YumeDisk.Backend (MediaWrite StagedFragment StagedMedia StagingStore WriteOp rangeFits)
open Cache (FlatAction FlatCall FlatEvent FlatStore)

/-- A commit that runs. -/
structure Committing where
  eventId : Nat
  /-- The fragments that are not written; the first one may be on its way. -/
  rest : List StagedFragment
  index : Nat := 0

inductive DiskEvent where
  /-- A `host_read_bytes` has succeeded. -/
  | read (offset length : Nat) (bytes : Bytes)
  /-- A `host_stage_write`, a commit or a reject has returned. -/
  | staged (action : StagedMedia.Action)

structure CachedDisk where
  diskSizeBytes : Nat
  staging : StagingStore := {}
  medium : FlatStore
  /-- The reads that the medium has answered: their offsets and buffers. -/
  overlays : List (Nat × Bytes) := []
  commit : Option Committing := none
  events : List DiskEvent := []

inductive DiskAction where
  | readBytes (offset : Nat) (buffer : Bytes)
  /-- `overlay_read_locked` of the read `n`. -/
  | overlay (n : Nat)
  | stageWrite (op : WriteOp) (dataBuffer : Bytes)
  | commit (eventId : Nat)
  /-- The loop of the commit goes on to its next fragment, or ends. -/
  | fragment
  | reject (eventId : Nat)
  /-- A step in the medium. -/
  | medium (a : FlatAction)

namespace CachedDisk

/-- Someone holds the lock of the runtime. -/
def locked (s : CachedDisk) : Bool :=
  !s.medium.readers.isEmpty || !s.overlays.isEmpty || s.commit.isSome

/-- `commit_locked` returns `false`: the write of fragment `index` has stopped after `written`
bytes. -/
def commitFailed (s : CachedDisk) (c : Committing) (written : Nat) : CachedDisk :=
  { s with
    commit := none
    events := s.events ++ [.staged (.commit c.eventId s.diskSizeBytes
      (Function.update (fun _ => none) c.index (some written)))] }

/-- `commit_locked` returns `true`. -/
def commitDone (s : CachedDisk) (c : Committing) : CachedDisk :=
  { s with
    staging := { s.staging with writes := s.staging.writes.erase c.eventId }
    commit := none
    events := s.events ++ [.staged (.commit c.eventId s.diskSizeBytes fun _ => none)] }

/-- The first fragment is done. -/
def fragmentDone (s : CachedDisk) (c : Committing) : CachedDisk :=
  { s with commit := some { c with rest := c.rest.tail, index := c.index + 1 } }

/-- A call of the medium has returned. -/
def returned (s : CachedDisk) : Option FlatEvent → CachedDisk
  | some (.read offset buffer) => { s with overlays := (offset, buffer) :: s.overlays }
  | some (.wrote _ _) => (s.commit.map s.fragmentDone).getD s
  | some (.writeFailed _ _ written) => (s.commit.map fun c => s.commitFailed c written).getD s
  | some (.readFailed _ _) | none => s

/-- A step in the medium. -/
def inMedium (s : CachedDisk) (a : FlatAction) : Option CachedDisk :=
  (s.medium.step a).map fun medium =>
    ({ s with medium } : CachedDisk).returned (medium.events.drop s.medium.events.length).head?

def step (s : CachedDisk) : DiskAction → Option CachedDisk
  | .readBytes offset buffer =>
    if buffer = [] then
      some { s with events := s.events ++ [.read offset 0 []] }
    else if s.commit.isSome then
      none
    else if !rangeFits offset buffer.length s.diskSizeBytes then
      some s
    else
      match validateRange s.diskSizeBytes offset buffer.length with
      | .error _ => some s
      | .ok _ => s.inMedium (.readLocked offset buffer)
  | .overlay n =>
    s.overlays[n]?.map fun (offset, buffer) => { s with
      overlays := s.overlays.eraseIdx n
      events := s.events ++ [.read offset buffer.length (s.staging.overlayRead offset buffer)] }
  | .stageWrite op dataBuffer =>
    if s.locked then none
    else some { s with
      staging := (s.staging.stageWrite op dataBuffer s.diskSizeBytes).1
      events := s.events ++ [.staged (.stage op dataBuffer s.diskSizeBytes)] }
  | .commit eventId =>
    if s.locked then none
    else
      match s.staging.writes[eventId]? with
      | none => some { s with
          events := s.events ++ [.staged (.commit eventId s.diskSizeBytes fun _ => none)] }
      | some record => some { s with
          commit := some { eventId, rest := record.fragments.toList.map Prod.snd } }
  | .fragment =>
    match s.commit, s.medium.writer with
    | some c, none =>
      match c.rest with
      | [] => some (s.commitDone c)
      | fragment :: _ =>
        if !rangeFits fragment.diskOffsetBytes fragment.data.length s.diskSizeBytes then
          some (s.commitFailed c 0)
        else if fragment.data = [] then
          some (s.fragmentDone c)
        else
          match validateRange s.diskSizeBytes fragment.diskOffsetBytes fragment.data.length with
          | .error _ => some (s.commitFailed c 0)
          | .ok _ => s.inMedium (.writeLocked fragment.diskOffsetBytes fragment.data)
    | _, _ => none
  | .reject eventId =>
    if s.locked then none
    else some { s with
      staging := s.staging.reject eventId
      events := s.events ++ [.staged (.reject eventId)] }
  | .medium a =>
    match a with
    | .readLocked .. | .writeLocked .. => none
    | .reader .. | .writer .. | .worker .. | .stop => s.inMedium a

/-- The steps of the staging store in a history. -/
def staged (events : List DiskEvent) : List StagedMedia.Action :=
  events.filterMap fun
    | .staged action => some action
    | .read .. => none

/-! ## The invariant -/

variable {right : Nat → UInt8} {temp : Cache.TempStore} {s s' : CachedDisk} {t t' : StagedMedia}

/-- The loop of the commit, from where it is. -/
def loop (s : CachedDisk) (c : Committing) (write : Nat → Option Nat) (media : Nat → UInt8) :
    Bool × (Nat → UInt8) × List MediaWrite :=
  StagingStore.commitLoop c.eventId s.diskSizeBytes write c.index c.rest media

/-- The media of `t` are those of the disk; a commit that runs has come from there to where it is
in its loop, whatever it meets from now on. -/
def Follows (s : CachedDisk) (right : Nat → UInt8) (t : StagedMedia) : Prop :=
  match s.commit with
  | none => t.media = s.medium.content right
  | some c => ∃ record writes, t.store.writes[c.eventId]? = some record ∧
      ∀ write, (∀ i < c.index, write i = none) →
        StagingStore.commitLoop c.eventId s.diskSizeBytes write 0
            (record.fragments.toList.map Prod.snd) t.media =
          (s.loop c write (s.medium.content right)).map id (Prod.map id (writes ++ ·))

/-- What the medium has given to a read. -/
def Answered (content : Nat → UInt8) (offset : Nat) (buffer : Bytes) : Prop :=
  buffer = readAt content offset buffer.length ∧
    (buffer.length = 0 ∨ offset + buffer.length < 2 ^ 64)

/-- A read has returned what the staging store lays over its media. -/
def Legal (right : Nat → UInt8) (before : List DiskEvent) (e : DiskEvent) : Prop :=
  ∀ offset length bytes, e = .read offset length bytes →
    (∃ t, runFrom StagedMedia.step (StagedMedia.init right) (staged before) = some t ∧
      bytes = t.read offset length) ∧ (length = 0 ∨ offset + length < 2 ^ 64)

/-- The medium writes the first fragment of the commit that runs. -/
def Writes (s : CachedDisk) (request : Nat × Bytes) : Prop :=
  ∃ c f rest, s.commit = some c ∧ c.rest = f :: rest ∧ request = (f.diskOffsetBytes, f.data) ∧
    rangeFits f.diskOffsetBytes f.data.length s.diskSizeBytes = true ∧ f.data ≠ []

structure Inv (right : Nat → UInt8) (temp : Cache.TempStore) (s : CachedDisk) : Prop where
  medium : s.medium.Inv right temp
  follows : ∃ t, runFrom StagedMedia.step (StagedMedia.init right) (staged s.events) = some t ∧
    t.store = s.staging ∧ s.Follows right t
  overlays : ∀ r ∈ s.overlays, Answered (s.medium.content right) r.1 r.2
  alone : s.commit ≠ none → s.medium.readers = [] ∧ s.overlays = []
  writer : ∀ w, s.medium.writer.map FlatCall.request = some w → s.Writes w
  legal : Lib.EachAfter (Legal right) s.events

/-! ## Steps of the staging store -/

theorem staged_concat (events : List DiskEvent) (a : StagedMedia.Action) :
    staged (events ++ [.staged a]) = staged events ++ [a] := by
  rw [staged, List.filterMap_append]
  rfl

theorem staged_read (events : List DiskEvent) (offset length : Nat) (bytes : Bytes) :
    staged (events ++ [.read offset length bytes]) = staged events := by
  rw [staged, List.filterMap_append]
  exact List.append_nil _

theorem run_concat {base : Nat → UInt8} {as : List StagedMedia.Action} {a : StagedMedia.Action}
    (h : runFrom StagedMedia.step (StagedMedia.init base) as = some t) (ha : t.step a = some t') :
    runFrom StagedMedia.step (StagedMedia.init base) (as ++ [a]) = some t' := by
  rw [Lib.runFrom_append, h, Option.bind_some, runFrom, ha]
  rfl

/-- Something has happened in the staging store while no one else held the lock. -/
theorem inv_staged {a : StagedMedia.Action} {staging : StagingStore}
    (hmedium : s.medium.Inv right temp)
    (hrun : runFrom StagedMedia.step (StagedMedia.init right) (staged s.events) = some t)
    (hstep : t.step a = some t') (hstore : t'.store = staging)
    (hmedia : t'.media = s.medium.content right) (hwriter : s.medium.writer = none)
    (hoverlays : s.overlays = []) (hlegal : Lib.EachAfter (Legal right) s.events) :
    ({ s with staging, commit := none, events := s.events ++ [.staged a] } : CachedDisk).Inv
      right temp where
  medium := hmedium
  follows := ⟨t', (congrArg _ (staged_concat _ _)).trans (run_concat hrun hstep), hstore, hmedia⟩
  overlays := fun r hr => by
    rw [hoverlays] at hr
    cases hr
  alone := fun hne => absurd rfl hne
  writer := fun w hw => by
    rw [hwriter] at hw
    cases hw
  legal := Lib.eachAfter_concat hlegal nofun

theorem commit_eq {store : StagingStore} {eventId size : Nat} {write : Nat → Option Nat}
    {media : Nat → UInt8} {record : YumeDisk.Backend.StagedWriteRecord}
    (h : store.writes[eventId]? = some record) :
    (store.commit eventId size write media).1 =
        (StagingStore.commitLoop eventId size write 0 (record.fragments.toList.map Prod.snd)
          media).1 ∧
      (store.commit eventId size write media).2.2.1 =
        (StagingStore.commitLoop eventId size write 0 (record.fragments.toList.map Prod.snd)
          media).2.1 ∧
      (store.commit eventId size write media).2.1 =
        if (StagingStore.commitLoop eventId size write 0 (record.fragments.toList.map Prod.snd)
          media).1 then { store with writes := store.writes.erase eventId } else store := by
  unfold StagingStore.commit
  rw [h]
  exact ⟨rfl, rfl, rfl⟩

theorem Follows.keep (h : s.Follows right t) {medium : FlatStore}
    (hcontent : medium.content right = s.medium.content right) :
    ({ s with medium } : CachedDisk).Follows right t := by
  unfold Follows loop at h ⊢
  dsimp only
  rw [hcontent]
  exact h

/-- The commit that runs fails at its fragment. -/
theorem Follows.failed {c : Committing} (hc : s.commit = some c) (h : s.Follows right t)
    {write : Nat → Option Nat} (hwrite : ∀ i < c.index, write i = none) {media : Nat → UInt8}
    {writes : List MediaWrite}
    (hloop : s.loop c write (s.medium.content right) = (false, media, writes)) :
    ∃ t', t.step (.commit c.eventId s.diskSizeBytes write) = some t' ∧ t'.store = t.store ∧
      t'.media = media := by
  unfold Follows at h
  rw [hc] at h
  obtain ⟨record, before, hrecord, hall⟩ := h
  have heq := hall write hwrite
  rw [hloop] at heq
  obtain ⟨hok, hmedia, -⟩ := @commit_eq _ _ s.diskSizeBytes write t.media _ hrecord
  rw [heq] at hok hmedia
  exact ⟨_, StagedMedia.step_commit_failed hok, rfl, hmedia⟩

/-- The commit that runs has come to its end. -/
theorem Follows.done {c : Committing} (hc : s.commit = some c) (hrest : c.rest = [])
    (h : s.Follows right t) :
    ∃ t', t.step (.commit c.eventId s.diskSizeBytes fun _ => none) = some t' ∧
      t'.store = { t.store with writes := t.store.writes.erase c.eventId } ∧
        t'.media = s.medium.content right := by
  unfold Follows at h
  rw [hc] at h
  obtain ⟨record, before, hrecord, hall⟩ := h
  have heq := hall (fun _ => none) fun _ _ => rfl
  rw [loop, hrest] at heq
  obtain ⟨hok, hmedia, hstore⟩ := @commit_eq _ _ s.diskSizeBytes (fun _ => none) t.media _ hrecord
  rw [heq] at hok hmedia hstore
  exact ⟨_, StagedMedia.step_commit_ok hok, hstore, hmedia⟩

/-- What a fragment adds to the writes of its commit. -/
def written (eventId : Nat) (f : StagedFragment) : List MediaWrite :=
  if f.data = [] then [] else [⟨eventId, f.diskOffsetBytes, f.data.length⟩]

/-- A round of the loop that goes well. -/
theorem loop_next {c : Committing} {f : StagedFragment} {rest : List StagedFragment}
    {write : Nat → Option Nat} {media : Nat → UInt8} (hrest : c.rest = f :: rest)
    (hfits : rangeFits f.diskOffsetBytes f.data.length s.diskSizeBytes = true)
    (hnone : write c.index = none) : s.loop c write media =
      (StagingStore.commitLoop c.eventId s.diskSizeBytes write (c.index + 1) rest
        (writeAt media f.diskOffsetBytes f.data)).map id
          (Prod.map id (written c.eventId f ++ ·)) := by
  rw [loop, written, hrest, StagingStore.commitLoop, hfits, Bool.not_true,
    if_neg Bool.false_ne_true]
  by_cases hempty : f.data = []
  · rw [if_pos hempty, if_pos hempty, hempty, Lib.writeAt_nil]
    rfl
  · rw [if_neg hempty, if_neg hempty, hnone]
    rfl

/-- The commit goes on to its next fragment. -/
theorem Follows.next {c : Committing} {f : StagedFragment} {rest : List StagedFragment}
    (hc : s.commit = some c) (hrest : c.rest = f :: rest) (h : s.Follows right t)
    (hfits : rangeFits f.diskOffsetBytes f.data.length s.diskSizeBytes = true)
    {medium : FlatStore}
    (hmedium : medium.content right = writeAt (s.medium.content right) f.diskOffsetBytes f.data) :
    (({ s with medium } : CachedDisk).fragmentDone c).Follows right t := by
  unfold Follows at h
  rw [hc] at h
  obtain ⟨record, before, hrecord, hall⟩ := h
  refine ⟨record, before ++ written c.eventId f, hrecord, fun write hwrite => ?_⟩
  refine (hall write fun i hi => hwrite i (Nat.lt_succ_of_lt hi)).trans ?_
  rw [loop_next hrest hfits (hwrite c.index (Nat.lt_succ_self _)), ← hmedium]
  show _ = (StagingStore.commitLoop c.eventId s.diskSizeBytes write (c.index + 1) c.rest.tail
    (medium.content right)).map id (Prod.map id _)
  rw [hrest]
  simp only [Prod.map, id_eq, List.append_assoc, List.tail_cons]

/-! ## Steps of the disk -/

/-- A disk whose medium has changed, but not what is in it. -/
theorem Inv.quiet (h : s.Inv right temp) {medium : FlatStore} (hmedium : medium.Inv right temp)
    (hcontent : medium.content right = s.medium.content right)
    (hreaders : s.commit ≠ none → medium.readers = [])
    (hwriter : medium.writer.map FlatCall.request = s.medium.writer.map FlatCall.request) :
    ({ s with medium } : CachedDisk).Inv right temp where
  medium := hmedium
  follows := by
    obtain ⟨t, hrun, hstore, hfollows⟩ := h.follows
    exact ⟨t, hrun, hstore, hfollows.keep hcontent⟩
  overlays := fun r hr => by
    show Answered (medium.content right) r.1 r.2
    rw [hcontent]
    exact h.overlays r hr
  alone := fun hne => ⟨hreaders hne, (h.alone hne).2⟩
  writer := fun w hw => h.writer w (hwriter ▸ hw)
  legal := h.legal

/-- The medium has answered a read. -/
theorem Inv.answered (h : s.Inv right temp) (hcommit : s.commit = none) {offset : Nat}
    {buffer : Bytes} (hread : Answered (s.medium.content right) offset buffer) :
    ({ s with overlays := (offset, buffer) :: s.overlays } : CachedDisk).Inv right temp :=
  { h with
    overlays := List.forall_mem_cons.mpr ⟨hread, h.overlays⟩
    alone := fun hne => absurd hcommit hne }

/-- The commit that runs is over. -/
theorem Inv.failed (h : s.Inv right temp) {c : Committing} (hc : s.commit = some c)
    {medium : FlatStore} (hmedium : medium.Inv right temp) (hwriter : medium.writer = none)
    {n : Nat}
    (hloop : ∃ writes, s.loop c (Function.update (fun _ => none) c.index (some n))
      (s.medium.content right) = (false, medium.content right, writes)) :
    (({ s with medium } : CachedDisk).commitFailed c n).Inv right temp := by
  obtain ⟨writes, hloop⟩ := hloop
  obtain ⟨t, hrun, hstore, hfollows⟩ := h.follows
  obtain ⟨t', hstep, hstore', hmedia⟩ := hfollows.failed hc
    (fun i hi => Function.update_of_ne (Nat.ne_of_lt hi) ..) hloop
  exact @inv_staged right temp { s with medium } t t' _ _ hmedium hrun hstep
    (hstore'.trans hstore) hmedia hwriter (h.alone (by rw [hc]; nofun)).2 h.legal

theorem Inv.done (h : s.Inv right temp) {c : Committing} (hc : s.commit = some c)
    (hrest : c.rest = []) (hwriter : s.medium.writer = none) : (s.commitDone c).Inv right temp := by
  obtain ⟨t, hrun, hstore, hfollows⟩ := h.follows
  obtain ⟨t', hstep, hstore', hmedia⟩ := hfollows.done hc hrest
  exact inv_staged h.medium hrun hstep (hstore ▸ hstore') hmedia hwriter
    (h.alone (by rw [hc]; nofun)).2 h.legal

/-- The commit goes on to its next fragment. -/
theorem Inv.next (h : s.Inv right temp) {c : Committing} {f : StagedFragment}
    {rest : List StagedFragment} (hc : s.commit = some c) (hrest : c.rest = f :: rest)
    (hfits : rangeFits f.diskOffsetBytes f.data.length s.diskSizeBytes = true)
    {medium : FlatStore} (hmedium : medium.Inv right temp) (hwriter : medium.writer = none)
    (hreaders : medium.readers = [])
    (hcontent : medium.content right =
      writeAt (s.medium.content right) f.diskOffsetBytes f.data) :
    (({ s with medium } : CachedDisk).fragmentDone c).Inv right temp where
  medium := hmedium
  follows := by
    obtain ⟨t, hrun, hstore, hfollows⟩ := h.follows
    exact ⟨t, hrun, hstore, hfollows.next hc hrest hfits hcontent⟩
  overlays := fun r hr => by
    rw [show (({ s with medium } : CachedDisk).fragmentDone c).overlays = [] from
      (h.alone (by rw [hc]; nofun)).2] at hr
    cases hr
  alone := fun _ => ⟨hreaders, (h.alone (by rw [hc]; nofun)).2⟩
  writer := fun w hw => by
    rw [show (({ s with medium } : CachedDisk).fragmentDone c).medium.writer = none from
      hwriter] at hw
    cases hw
  legal := h.legal

/-- A step in the medium, other than the start of a call. -/
theorem Inv.inMedium (h : s.Inv right temp) {a : FlatAction}
    (hread : ∀ offset buffer, a ≠ .readLocked offset buffer)
    (hwrite : ∀ offset data, a ≠ .writeLocked offset data) (hs : s.inMedium a = some s') :
    s'.Inv right temp := by
  obtain ⟨medium, hstep, rfl⟩ := Option.map_eq_some_iff.mp hs
  have hmedium := FlatStore.step_inv _ _ _ h.medium hstep
  rcases h.medium.change hstep hread hwrite with ⟨hevents, hreaders, hwriter⟩ |
    ⟨call, e, hcall, he, hevents, hwriter⟩ | ⟨call, e, hcall, he, hevents, hwriter, hreaders⟩
  · rw [hevents, List.drop_length, List.head?_nil]
    refine h.quiet hmedium ?_ (fun hne => hreaders (h.alone hne).1) hwriter
    unfold FlatStore.content
    rw [hevents]
  · have hcommit : s.commit = none := by
      by_contra hne
      rw [(h.alone hne).1] at hcall
      cases hcall
    have hcontent : medium.content right = s.medium.content right := by
      rw [FlatStore.content_of_events hevents]
      rcases he with rfl | rfl <;> rfl
    have hquiet := h.quiet hmedium hcontent (fun hne => absurd hcommit hne) (by rw [hwriter])
    rw [hevents, List.drop_left, List.head?_cons]
    rcases he with rfl | rfl
    · refine hquiet.answered hcommit ⟨?_, h.medium.reader_fits hcall⟩
      have hlegal := (hevents ▸ hmedium.legal).last call.offset call.buffer rfl
      exact hlegal.trans (congrArg (fun m => readAt m _ _) hcontent.symm)
    · exact hquiet
  · obtain ⟨c, f, rest, hc, hrest, hreq, hfits, hne⟩ :=
      h.writer call.request (by rw [hcall]; rfl)
    obtain ⟨hoffset, hbuffer⟩ := Prod.mk.inj hreq
    have hempty := (h.alone (by rw [hc]; nofun)).1
    have hcontent := FlatStore.content_of_events hevents right
    rw [hevents, List.drop_left, List.head?_cons]
    rcases he with rfl | ⟨n, rfl⟩
    · simp only [returned, hc, Option.map_some, Option.getD_some]
      refine h.next hc hrest hfits hmedium hwriter (hreaders.trans hempty) ?_
      rw [hcontent, ← hoffset, ← hbuffer]
      rfl
    · simp only [returned, hc, Option.map_some, Option.getD_some]
      refine h.failed hc hmedium hwriter
        ⟨[⟨c.eventId, f.diskOffsetBytes, f.data.length⟩], ?_⟩
      rw [loop, hrest, StagingStore.commitLoop, hfits, Bool.not_true, if_neg Bool.false_ne_true,
        if_neg hne, Function.update_self, hcontent]
      show _ = (false, writeAt _ call.offset (call.buffer.take n), _)
      rw [show call.offset = _ from hoffset, show call.buffer = _ from hbuffer]

/-- A read asks the medium. -/
theorem Inv.readLocked (h : s.Inv right temp) (hcommit : s.commit = none) {offset : Nat}
    {buffer : Bytes} (hs : s.inMedium (.readLocked offset buffer) = some s') :
    s'.Inv right temp := by
  obtain ⟨medium, hstep, rfl⟩ := Option.map_eq_some_iff.mp hs
  have hmedium := FlatStore.step_inv _ _ _ h.medium hstep
  obtain ⟨hnone, hnone', hevents⟩ := FlatStore.change_readLocked hstep
  have hcontent : medium.content right = s.medium.content right := by
    rcases hevents with hevents | hevents
    · unfold FlatStore.content
      rw [hevents]
    · rw [FlatStore.content_of_events hevents]
      rfl
  have hquiet := h.quiet hmedium hcontent (fun hne => absurd hcommit hne) (by rw [hnone, hnone'])
  rcases hevents with hevents | hevents
  · rw [hevents, List.drop_length, List.head?_nil]
    exact hquiet
  · rw [hevents, List.drop_left, List.head?_cons]
    exact hquiet

/-- The commit hands its fragment to the medium. -/
theorem Inv.writeLocked (h : s.Inv right temp) {c : Committing} {f : StagedFragment}
    {rest : List StagedFragment} (hc : s.commit = some c) (hrest : c.rest = f :: rest)
    (hfits : rangeFits f.diskOffsetBytes f.data.length s.diskSizeBytes = true) (hne : f.data ≠ [])
    (hs : s.inMedium (.writeLocked f.diskOffsetBytes f.data) = some s') : s'.Inv right temp := by
  obtain ⟨medium, hstep, rfl⟩ := Option.map_eq_some_iff.mp hs
  have hmedium := FlatStore.step_inv _ _ _ h.medium hstep
  obtain ⟨hreaders, ⟨hevents, hwriter⟩ | ⟨hevents, hwriter⟩⟩ := FlatStore.change_writeLocked hstep
  · rw [hevents, List.drop_length, List.head?_nil]
    have hcontent : medium.content right = s.medium.content right := by
      unfold FlatStore.content
      rw [hevents]
    obtain ⟨t, hrun, hstore, hfollows⟩ := h.follows
    refine { h with medium := hmedium, follows := ⟨t, hrun, hstore, ?_⟩, overlays := ?_,
                    alone := fun hne => ⟨hreaders, (h.alone hne).2⟩, writer := ?_ }
    · exact hfollows.keep hcontent
    · intro r hr
      show Answered (medium.content right) r.1 r.2
      rw [hcontent]
      exact h.overlays r hr
    · intro w hw
      obtain rfl := Option.some.inj (hwriter.symm.trans hw)
      exact ⟨c, f, rest, hc, hrest, rfl, hfits, hne⟩
  · rw [hevents, List.drop_left, List.head?_cons]
    simp only [returned, hc, Option.map_some, Option.getD_some]
    refine h.failed hc hmedium hwriter ⟨[⟨c.eventId, f.diskOffsetBytes, f.data.length⟩], ?_⟩
    rw [loop, hrest, StagingStore.commitLoop, hfits, Bool.not_true, if_neg Bool.false_ne_true,
      if_neg hne, Function.update_self, FlatStore.content_of_events hevents]
    rfl

theorem locked_eq_false (h : s.locked = false) :
    s.medium.readers = [] ∧ s.overlays = [] ∧ s.commit = none := by
  simp only [locked, Bool.or_eq_false_iff, Bool.not_eq_false', List.isEmpty_iff,
    Option.isSome_eq_false_iff, Option.isNone_iff_eq_none] at h
  exact ⟨h.1.1, h.1.2, h.2⟩

/-- Where no one holds the lock, the staging store is over what is in the medium. -/
theorem Inv.unlocked (h : s.Inv right temp) (hlocked : s.locked = false) :
    s.medium.writer = none ∧ s.overlays = [] ∧ s.commit = none ∧
      ∃ t, runFrom StagedMedia.step (StagedMedia.init right) (staged s.events) = some t ∧
        t.store = s.staging ∧ t.media = s.medium.content right := by
  obtain ⟨-, hoverlays, hcommit⟩ := locked_eq_false hlocked
  refine ⟨?_, hoverlays, hcommit, ?_⟩
  · by_contra hne
    obtain ⟨call, hcall⟩ := Option.ne_none_iff_exists'.mp hne
    obtain ⟨c, -, -, hc, -⟩ := h.writer call.request (by rw [hcall]; rfl)
    rw [hcommit] at hc
    cases hc
  · obtain ⟨t, hrun, hstore, hfollows⟩ := h.follows
    unfold Follows at hfollows
    rw [hcommit] at hfollows
    exact ⟨t, hrun, hstore, hfollows⟩

/-- One round of the loop of a commit. -/
theorem Inv.fragment (h : s.Inv right temp) (hs : s.step .fragment = some s') :
    s'.Inv right temp := by
  simp only [step] at hs
  split at hs
  case h_2 => cases hs
  next c hc hwriter =>
  have hempty := (h.alone (by rw [hc]; nofun)).1
  split at hs
  · next hrest =>
    obtain rfl := Option.some.inj hs
    exact h.done hc hrest hwriter
  · next f rest hrest =>
    split_ifs at hs with hfits hdata
    · obtain rfl := Option.some.inj hs
      refine h.failed hc h.medium hwriter ⟨[], ?_⟩
      rw [loop, hrest, StagingStore.commitLoop, if_pos hfits]
    · obtain rfl := Option.some.inj hs
      have hfits : rangeFits f.diskOffsetBytes f.data.length s.diskSizeBytes = true := by
        simpa using hfits
      refine h.next hc hrest hfits h.medium hwriter hempty ?_
      rw [hdata, Lib.writeAt_nil]
    · have hfits : rangeFits f.diskOffsetBytes f.data.length s.diskSizeBytes = true := by
        simpa using hfits
      split at hs
      · obtain rfl := Option.some.inj hs
        refine h.failed hc h.medium hwriter ⟨[⟨c.eventId, f.diskOffsetBytes, f.data.length⟩], ?_⟩
        rw [loop, hrest, StagingStore.commitLoop, hfits, Bool.not_true,
          if_neg Bool.false_ne_true, if_neg hdata, Function.update_self]
        show (false, writeAt _ _ [], _) = _
        rw [Lib.writeAt_nil]
      · exact h.writeLocked hc hrest hfits hdata hs

/-- **A step of the disk.** -/
theorem step_inv (s : CachedDisk) (a : DiskAction) (s' : CachedDisk) (h : s.Inv right temp)
    (hs : s.step a = some s') : s'.Inv right temp := by
  -- what the staging store does while no one holds the lock
  have hstaged : ∀ {a : StagedMedia.Action} {staging : StagingStore}, s.locked = false →
      (∀ t : StagedMedia, t.store = s.staging → ∃ t', t.step a = some t' ∧ t'.store = staging ∧
        t'.media = t.media) →
      ({ s with staging, events := s.events ++ [.staged a] } : CachedDisk).Inv right temp := by
    intro a staging hlocked hstep
    obtain ⟨hwriter, hoverlays, hcommit, t, hrun, hstore, hmedia⟩ := h.unlocked hlocked
    obtain ⟨t', ht, hstore', hmedia'⟩ := hstep t hstore
    have hinv := inv_staged h.medium hrun ht hstore' (hmedia'.trans hmedia) hwriter hoverlays
      h.legal
    rw [← hcommit] at hinv
    exact hinv
  cases a with
  | readBytes offset buffer =>
    simp only [step] at hs
    split_ifs at hs with hempty hbusy hfits
    · obtain rfl := Option.some.inj hs
      obtain ⟨t, hrun, hstore, hfollows⟩ := h.follows
      refine { h with
        follows := ⟨t, (congrArg _ (staged_read ..)).trans hrun, hstore, hfollows⟩
        legal := Lib.eachAfter_concat h.legal ?_ }
      intro offset' length bytes he
      obtain ⟨rfl, rfl, rfl⟩ := DiskEvent.read.inj he
      exact ⟨⟨t, hrun, rfl⟩, .inl rfl⟩
    · obtain rfl := Option.some.inj hs
      exact h
    · split at hs
      · obtain rfl := Option.some.inj hs
        exact h
      · exact h.readLocked (by simpa using hbusy) hs
  | overlay n =>
    obtain ⟨⟨offset, buffer⟩, hget, rfl⟩ := Option.map_eq_some_iff.mp hs
    have hmem := List.mem_of_getElem? hget
    obtain ⟨hbuffer, hfits⟩ := h.overlays _ hmem
    obtain ⟨t, hrun, hstore, hfollows⟩ := h.follows
    have hmedia : t.media = s.medium.content right := by
      have hcommit : s.commit = none := by
        by_contra hne
        rw [(h.alone hne).2] at hmem
        cases hmem
      unfold Follows at hfollows
      rw [hcommit] at hfollows
      exact hfollows
    exact {
      medium := h.medium
      follows := ⟨t, (congrArg _ (staged_read ..)).trans hrun, hstore, hfollows⟩
      overlays := fun r hr => h.overlays r (List.mem_of_mem_eraseIdx hr)
      alone := fun hne => ⟨(h.alone hne).1, by
        show s.overlays.eraseIdx n = []
        rw [(h.alone hne).2]
        rfl⟩
      writer := h.writer
      legal := Lib.eachAfter_concat h.legal fun offset' length bytes he => by
        obtain ⟨rfl, rfl, rfl⟩ := DiskEvent.read.inj he
        refine ⟨⟨t, hrun, ?_⟩, hfits⟩
        rw [StagedMedia.read, hmedia, hstore]
        exact congrArg _ hbuffer }
  | stageWrite op dataBuffer =>
    simp only [step] at hs
    split_ifs at hs with hlocked
    obtain rfl := Option.some.inj hs
    exact hstaged (by simpa using hlocked) fun t hstore =>
      ⟨_, StagedMedia.step_stage .., hstore ▸ rfl, rfl⟩
  | commit eventId =>
    simp only [step] at hs
    split_ifs at hs with hlocked
    have hlocked : s.locked = false := by simpa using hlocked
    split at hs <;> obtain rfl := Option.some.inj hs
    · next hnone =>
      refine hstaged hlocked fun t hstore => ?_
      have hcommit : t.store.commit eventId s.diskSizeBytes (fun _ => none) t.media =
          (true, t.store, t.media, []) := by
        unfold StagingStore.commit
        rw [hstore, hnone]
      refine ⟨_, StagedMedia.step_commit_ok (by rw [hcommit]), ?_, ?_⟩
      · show (StagingStore.commit ..).2.1 = _
        rw [hcommit, hstore]
      · show (StagingStore.commit ..).2.2.1 = _
        rw [hcommit]
    · next record hrecord =>
      obtain ⟨hwriter, hoverlays, hcommit, t, hrun, hstore, hmedia⟩ := h.unlocked hlocked
      exact {
        medium := h.medium
        follows := ⟨t, hrun, hstore, record, [], hstore ▸ hrecord, fun write _ => by
          rw [hmedia]
          rfl⟩
        overlays := h.overlays
        alone := fun _ => ⟨(locked_eq_false hlocked).1, hoverlays⟩
        writer := fun w hw => by
          rw [show s.medium.writer = none from hwriter] at hw
          cases hw
        legal := h.legal }
  | fragment => exact h.fragment hs
  | reject eventId =>
    simp only [step] at hs
    split_ifs at hs with hlocked
    obtain rfl := Option.some.inj hs
    exact hstaged (by simpa using hlocked) fun t hstore => ⟨_, rfl, hstore ▸ rfl, rfl⟩
  | medium a =>
    cases a with
    | readLocked | writeLocked => cases hs
    | reader | writer | worker | stop =>
      exact h.inMedium (fun _ _ heq => by cases heq) (fun _ _ heq => by cases heq) hs

theorem inv_init {config : Cache.CacheConfig} {cache : Cache.Sys}
    (hb : Cache.build config right temp = .ok cache) (diskSizeBytes : Nat) :
    ({ diskSizeBytes, medium := { cache } } : CachedDisk).Inv right temp where
  medium := FlatStore.inv_init hb
  follows := ⟨StagedMedia.init right, rfl, rfl, rfl⟩
  overlays := nofun
  alone := fun hne => absurd rfl hne
  writer := nofun
  legal := Lib.eachAfter_nil

/-- **The disk is the staging store over an array of bytes.**  In every run, with any number of
reads at the same time, their blocks and those of the commits taken one by one, the flush worker
next to them and whatever fails, a read that succeeds returns what a staging store over an array of
bytes would return, after the stagings, commits and rejects that came before it.  So, where these
are as `StagedMedia.StepOk` says, it returns what was staged last and not rejected. -/
theorem cached_disk {config : Cache.CacheConfig} {cache : Cache.Sys}
    (hb : Cache.build config right temp = .ok cache) {diskSizeBytes : Nat} {as : List DiskAction}
    (hr : runFrom step { diskSizeBytes, medium := { cache } } as = some s) :
    ∀ before offset length bytes after, s.events = before ++ .read offset length bytes :: after →
      ∃ t, runFrom StagedMedia.step (StagedMedia.init right) (staged before) = some t ∧
        bytes = t.read offset length ∧
        (StepsMeet StagedMedia.step StagedMedia.StepOk (StagedMedia.init right) (staged before) →
          bytes = readAt t.expected offset length) := by
  intro before offset length bytes after heq
  obtain ⟨⟨t, hrun, rfl⟩, hfits⟩ := (Lib.run_inv step_inv (inv_init hb diskSizeBytes) hr).legal
    before _ after heq offset length bytes rfl
  refine ⟨t, hrun, rfl, fun hok => ?_⟩
  rcases hfits with rfl | hfits
  · rfl
  · have hinv : t.Inv := Lib.run_inv_of_guard (fun _ _ _ h hok hs => StagedMedia.step_inv h hok hs)
      _ _ _ (StagedMedia.inv_init right) hok hrun
    exact hinv.read_eq hfits

/-- A write is staged, read, and then torn by its commit: block 0 is written, block 1 is not. -/
def tornCommit : List DiskAction :=
  [.stageWrite ⟨1, 0, 1, 1, 3⟩ [7, 8, 9], .readBytes 1 [0, 0], .medium (.reader 0 (.next 0)),
    .medium (.reader 0 (.block (.lock 0 .written))),
    .medium (.reader 0 (.block (.rightRead 0 true))), .medium (.reader 0 (.block (.finish 0))),
    .medium (.reader 0 (.next 1)), .medium (.reader 0 (.block (.lock 1 .written))),
    .medium (.reader 0 (.block (.rightRead 1 true))), .medium (.reader 0 (.block (.finish 1))),
    .medium (.reader 0 .ret), .overlay 0, .commit 1, .fragment, .medium (.writer (.next 2)),
    .medium (.writer (.block (.lock 2 .written))),
    .medium (.writer (.block (.rightRead 2 true))), .medium (.writer (.block (.finish 2))),
    .medium (.writer (.next 3)), .medium (.writer (.block (.lock 3 .written))),
    .medium (.writer (.block (.rightRead 3 false))), .medium (.writer (.block (.finish 3)))]

/-- What was staged, a read of it, and a commit that stops after one byte. -/
def tornEvents : List DiskEvent → Bool
  | [.staged (.stage op data 4), .read 1 2 _, .staged (.commit 1 4 write)] =>
    decide (op = ⟨1, 0, 1, 1, 3⟩) && decide (data = [7, 8, 9]) && decide (write 0 = some 1)
  | _ => false

/-- The read has what is staged; the commit stops after one byte. -/
theorem cached_disk_torn : ∃ (cache : Cache.Sys) (s : CachedDisk) (write : Nat → Option Nat),
    runFrom step { diskSizeBytes := 4, medium := { cache } } tornCommit = some s ∧
    s.events = [.staged (.stage ⟨1, 0, 1, 1, 3⟩ [7, 8, 9] 4), .read 1 2 [7, 8],
      .staged (.commit 1 4 write)] ∧ write 0 = some 1 := by
  obtain ⟨cache, hb⟩ : ∃ cache, Cache.build ⟨1, 1, 2, 1⟩ UInt8.ofNat (fun _ => none) = .ok cache :=
    ⟨_, rfl⟩
  obtain ⟨-, -, -, -, heq⟩ := Cache.Sys.build_eq hb
  obtain ⟨s, hs, hp⟩ := Lib.exists_run step { diskSizeBytes := 4, medium := { cache } } tornCommit
    (fun s => tornEvents s.events) (by subst heq; decide +kernel)
  unfold tornEvents at hp
  split at hp
  · next op data bytes write hevents =>
    simp only [Bool.and_eq_true, decide_eq_true_eq] at hp
    obtain ⟨⟨rfl, rfl⟩, hwrite⟩ := hp
    obtain ⟨t, hrun, -, hread⟩ := cached_disk hb hs _ 1 2 bytes [.staged (.commit 1 4 write)]
      (hevents.trans rfl : s.events = [.staged _] ++ _ :: _)
    obtain rfl := Option.some.inj hrun
    have hbytes := hread (Lib.stepsMeet_cons (fun _ f hf => by
      rw [show (StagedMedia.init UInt8.ofNat).store = {} from rfl, StagingStore.get_empty] at hf
      cases hf) rfl trivial)
    have hexpected : bytes = [7, 8] := hbytes.trans (by decide)
    exact ⟨cache, s, write, hs, hexpected ▸ hevents, hwrite⟩
  · cases hp

end CachedDisk

end YumeDisk.TauriClient.Network
