import YumeDisk.Backend.DiskPlane

/-!
# What the store and the media hold of a write

* `Fits`: a fragment that ends inside the disk, where it is staged.
* `Secured`: a fragment that was staged is in the store until its write has been handled.
* `DiskPlane.Inv`, `step_inv`: the invariant, and one step.
-/

namespace YumeDisk.Backend

open Lib (Bytes)
open Miniport AppKernel
open WritePlane (Carried Placed Tallied)

namespace DiskPlane

/-- The fragment is staged inside the disk. -/
def Fits (disk : DiskMetadata) (header : WriteSlotPayload) : Prop :=
  rangeFits (disk.offsetBytes header.lba) header.dataLength disk.diskSizeBytes = true

/-- The writes whose final response the signal loop has handled. -/
def handledEvents (s : DiskPlane) : List Nat :=
  (s.plane.track.responses.take s.handled).map WriteFinal.eventId

/-- What is staged is the fragment of a slot. -/
structure Stages (disk : DiskMetadata) (target : WriteTarget) (header : WriteSlotPayload)
    (fragment : StagedFragment) : Prop where
  carried : Carried target header
  offset : fragment.diskOffsetBytes = disk.offsetBytes header.lba
  data : fragment.data = header.data
  length : header.data.length = header.dataLength
  fits : Fits disk header

/-- **What is known of a fragment that AppKernel takes for staged.** -/
def Secured (s : DiskPlane) (key : Nat × Nat) : Prop :=
  (∃ header, Carried s.plane.target header ∧ (header.eventId, header.seq) = key ∧
    Fits s.disk header) ∧
  (key.1 ∈ s.handledEvents ∨ ∃ header fragment, (header.eventId, header.seq) = key ∧
    Stages s.disk s.plane.target header fragment ∧
      s.staging.get key.1 key.2 = some fragment)

/-- A range of the media is that of a fragment of a committed write. -/
structure Wrote (s : DiskPlane) (w : MediaWrite) : Prop where
  committed : ∃ x ∈ s.plane.track.responses, x.eventId = w.eventId ∧ x.committed = true
  fragment : ∃ header, Carried s.plane.target header ∧ header.eventId = w.eventId ∧
    w.offset = s.disk.offsetBytes header.lba ∧ w.length = header.dataLength

/-- The fragment has been written to the media. -/
def WroteFragment (s : DiskPlane) (eventId seq : Nat) : Prop :=
  ∃ header, Carried s.plane.target header ∧ (header.eventId, header.seq) = (eventId, seq) ∧
    (header.dataLength ≠ 0 → ∃ w ∈ s.writes, w.eventId = eventId ∧
      w.offset = s.disk.offsetBytes header.lba ∧ w.length = header.dataLength)

/-- What a read was answered from. -/
def Answers (disk : DiskMetadata) (r : ReadDone) : Prop :=
  r.touched = if r.blockCount * disk.sectorSize ≠ 0 ∧
    rangeFits (disk.offsetBytes r.lba) (r.blockCount * disk.sectorSize) disk.diskSizeBytes = true
  then some (disk.offsetBytes r.lba, r.blockCount * disk.sectorSize) else none

structure Inv (dataBuffer : Nat → Bytes) (s : DiskPlane) : Prop where
  placed : Placed dataBuffer s.plane
  tallied : Tallied s.Secured s.plane
  sector : s.plane.target.sectorSize = s.disk.sectorSize
  shapes : ∀ request ∈ s.plane.target.requests,
    request.totalBytes = request.blockCount * s.disk.sectorSize
  staged : ∀ eventId seq fragment, s.staging.get eventId seq = some fragment →
    ∃ header, (header.eventId, header.seq) = (eventId, seq) ∧
      Stages s.disk s.plane.target header fragment
  writes : ∀ w ∈ s.writes, s.Wrote w
  commits : ∀ eventId, (eventId, true) ∈ s.commits →
    ∃ x ∈ s.plane.track.responses, x.eventId = eventId ∧ x.committed = true ∧
      ∀ request ∈ s.plane.target.requests, request.eventId = eventId →
        ∀ seq < request.totalSeq, s.WroteFragment eventId seq
  reads : ∀ r ∈ s.reads, Answers s.disk r

variable {dataBuffer : Nat → Bytes} {s s' : DiskPlane}

/-! ## The plane goes on -/

/-- What a section of the write plane leaves of a disk. -/
structure Grows (s s' : DiskPlane) : Prop where
  disk : s'.disk = s.disk
  target : WriteTarget.Advances s.plane.target s'.plane.target
  responses : s.plane.track.responses <+: s'.plane.track.responses

theorem Stages.grows {header : WriteSlotPayload} {fragment : StagedFragment}
    (h : Stages s.disk s.plane.target header fragment) (hg : Grows s s') :
    Stages s'.disk s'.plane.target header fragment :=
  ⟨h.carried.advances hg.target, hg.disk ▸ h.offset, h.data, h.length, hg.disk ▸ h.fits⟩

theorem mem_take_mono {α : Type} {xs ys : List α} (h : xs <+: ys) {n : Nat} {x : α}
    (hx : x ∈ xs.take n) : x ∈ ys.take n := by
  obtain ⟨zs, rfl⟩ := h
  rw [List.take_append]
  exact List.mem_append_left _ hx

theorem handledEvents_grows (hg : Grows s s') (hhandled : s.handled ≤ s'.handled) {eventId : Nat}
    (h : eventId ∈ s.handledEvents) : eventId ∈ s'.handledEvents := by
  obtain ⟨x, hx, rfl⟩ := List.mem_map.mp h
  refine List.mem_map_of_mem (mem_take_mono hg.responses ?_)
  exact List.take_subset_take_left _ hhandled hx

/-- The store is as it was. -/
theorem Secured.grows {key : Nat × Nat} (h : s.Secured key) (hg : Grows s s')
    (hhandled : s'.handled = s.handled) (hstaging : s'.staging = s.staging) : s'.Secured key := by
  obtain ⟨⟨header, hc, hkey, hfits⟩, hrest⟩ := h
  refine ⟨⟨header, hc.advances hg.target, hkey, hg.disk ▸ hfits⟩, ?_⟩
  rcases hrest with hdone | ⟨header', fragment, hkey', hstages, hget⟩
  · exact .inl (handledEvents_grows hg hhandled.ge hdone)
  · exact .inr ⟨header', fragment, hkey', hstages.grows hg, hstaging ▸ hget⟩

theorem Wrote.grows {w : MediaWrite} (h : s.Wrote w) (hg : Grows s s') : s'.Wrote w := by
  obtain ⟨⟨x, hx, hrest⟩, header, hc, he, ho, hl⟩ := h
  exact ⟨⟨x, hg.responses.subset hx, hrest⟩, header, hc.advances hg.target, he, hg.disk ▸ ho, hl⟩

theorem WroteFragment.grows {eventId seq : Nat} (h : s.WroteFragment eventId seq) (hg : Grows s s')
    (hwrites : s.writes ⊆ s'.writes) : s'.WroteFragment eventId seq := by
  obtain ⟨header, hc, hkey, hw⟩ := h
  refine ⟨header, hc.advances hg.target, hkey, fun hne => ?_⟩
  obtain ⟨w, hmem, he, ho, hl⟩ := hw hne
  exact ⟨w, hwrites hmem, he, hg.disk ▸ ho, hl⟩

/-- The requests of a target keep what they were admitted with. -/
theorem origin_eq {x y : WriteRequest} (h : WriteTarget.origin x = WriteTarget.origin y) :
    x.eventId = y.eventId ∧ x.baseLba = y.baseLba ∧ x.blockCount = y.blockCount ∧
      x.totalBytes = y.totalBytes := by
  simp only [WriteTarget.origin, Prod.mk.injEq] at h
  exact h.2

/-- The fragments of a committed write are those of its request, whenever it is looked at. -/
theorem Inv.commits_grows (h : Inv dataBuffer s) (hg : Grows s s')
    (hplaced : Placed dataBuffer s'.plane) (hwrites : s.writes ⊆ s'.writes) {eventId : Nat}
    (hcommit : (eventId, true) ∈ s.commits) :
    ∃ x ∈ s'.plane.track.responses, x.eventId = eventId ∧ x.committed = true ∧
      ∀ request ∈ s'.plane.target.requests, request.eventId = eventId →
        ∀ seq < request.totalSeq, s'.WroteFragment eventId seq := by
  obtain ⟨x, hx, he, hc, hall⟩ := h.commits eventId hcommit
  refine ⟨x, hg.responses.subset hx, he, hc, fun request' hr' he' seq hseq => ?_⟩
  have hann := (h.tallied.ledger.responses x hx).announced
  have htotal' := (hann.advances hg.target).request hplaced.target hr' (he'.trans he.symm)
  obtain ⟨y, hy, hye, -⟩ := hann
  obtain ⟨request, hr, hre⟩ := h.placed.issues.owned y hy
  have hann := (h.tallied.ledger.responses x hx).announced
  have htotal := hann.request h.placed.target hr (hre.trans hye)
  exact (hall request hr ((hre.trans hye).trans he) seq (by omega)).grows hg hwrites

/-- The store, the media and the signal loop are as they were. -/
theorem Inv.moved (h : Inv dataBuffer s) (hg : Grows s s') (hplaced : Placed dataBuffer s'.plane)
    (htallied : Tallied s.Secured s'.plane)
    (hsector : s'.plane.target.sectorSize = s.plane.target.sectorSize)
    (hshapes : ∀ request ∈ s'.plane.target.requests,
      request.totalBytes = request.blockCount * s.disk.sectorSize)
    (hstaging : s'.staging = s.staging) (hhandled : s'.handled = s.handled)
    (hwrites : s'.writes = s.writes) (hcommits : s'.commits = s.commits)
    (hreads : ∀ r ∈ s'.reads, Answers s.disk r) : Inv dataBuffer s' where
  placed := hplaced
  tallied := htallied.mono fun _ hkey => hkey.grows hg hhandled hstaging
  sector := by rw [hsector, hg.disk]; exact h.sector
  shapes := by rw [hg.disk]; exact hshapes
  staged eventId seq fragment hget := by
    obtain ⟨header, hkey, hstages⟩ := h.staged eventId seq fragment (hstaging ▸ hget)
    exact ⟨header, hkey, hstages.grows hg⟩
  writes w hw := (h.writes w (hwrites ▸ hw)).grows hg
  commits eventId hc := h.commits_grows hg hplaced (hwrites ▸ fun _ => id) (hcommits ▸ hc)
  reads := by rw [hg.disk]; exact hreads

/-- **A section of the write plane**; a WRITE is admitted with the length of its blocks. -/
theorem Inv.plane (h : Inv dataBuffer s) {a : WritePlane.Action} {plane : WritePlane}
    (hs : s.plane.step dataBuffer a = some plane)
    (hstage : ∀ k status enqueued, a = .stage k status enqueued → ∀ slot,
      s.plane.staging[k]? = some slot → slot.decided = some status)
    (hwrite : ∀ lba blockCount dataLength, a = .driver (.queueWrite lba blockCount dataLength) →
      dataLength.toNat = blockCount * s.disk.sectorSize) : Inv dataBuffer { s with plane } := by
  have hframe := WritePlane.step_frame hs
  have hplaced := WritePlane.step_placed h.placed hs
  have hadv : WriteTarget.Advances s.plane.target plane.target := by
    rcases hframe.target with heq | ⟨b, hb, -⟩
    · exact heq ▸ .refl _
    · exact WriteTarget.step_advances hb
  have hg : Grows s { s with plane } := ⟨rfl, hadv, WritePlane.step_responses hs⟩
  have htallied := WritePlane.step_tallied h.tallied h.placed
    (fun k status enqueued ha slot hslot hstatus => by
      have hd := hstage k status enqueued ha slot hslot
      rw [hd] at hstatus
      exact h.tallied.slots slot (List.mem_of_getElem? hslot) (hd.trans (congrArg some hstatus))) hs
  refine h.moved hg hplaced htallied ?_ (fun request hr => ?_) rfl rfl rfl rfl h.reads
  · rcases hframe.target with heq | ⟨b, hb, -⟩
    · exact congrArg WriteTarget.sectorSize heq
    · exact (WriteTarget.step_kept hb).1
  · rcases hframe.target with heq | ⟨b, hb, hqueue⟩
    · exact h.shapes request (heq ▸ hr)
    · rcases WriteTarget.step_origins hb hr with hold | ⟨lba, count, len, rfl, -, hcount, hbytes⟩
      · obtain ⟨old, hmem, heq⟩ := List.mem_map.mp hold
        obtain ⟨-, -, hcount, hbytes⟩ := origin_eq heq
        rw [← hcount, ← hbytes]
        exact h.shapes old hmem
      · rw [hcount, hbytes]
        exact hwrite _ _ _ (hqueue _ _ _ rfl)

/-! ## The store -/

/-- **A fragment is staged.** -/
theorem Inv.stageWrite (h : Inv dataBuffer s) {k : Nat} (hs : s.stageWrite k = some s') :
    Inv dataBuffer s' := by
  unfold DiskPlane.stageWrite at hs
  split at hs
  · next header hslot =>
    have hmem := List.mem_of_getElem? hslot
    obtain ⟨-, hcarried⟩ := h.placed.headers _ hmem
    have hspec := s.staging.stageWrite_spec (writeOp s.disk header) header.data s.disk.diskSizeBytes
    generalize s.staging.stageWrite (writeOp s.disk header) header.data s.disk.diskSizeBytes = out
      at hs hspec
    obtain ⟨staging, status⟩ := out
    obtain rfl := Option.some.inj hs
    have hplaced : Placed dataBuffer { s.plane with
        staging := s.plane.staging.set k { header, decided := some status } } :=
      h.placed.setDecided hslot rfl
    rcases hspec with ⟨heq, hstatus⟩ | ⟨hlength, hfits, hstatus, -, hget⟩
    · -- nothing was staged
      obtain rfl : staging = s.staging := heq
      obtain rfl : status = statusInvalidParameter := hstatus
      have htallied : Tallied s.Secured { s.plane with
          staging := s.plane.staging.set k { header, decided := some statusInvalidParameter } } :=
        h.tallied.setDecided fun hd => absurd (Option.some.inj hd) (by decide)
      exact h.moved ⟨rfl, .refl _, List.prefix_refl _⟩ hplaced htallied rfl h.shapes rfl rfl rfl rfl
        h.reads
    · change ∀ eventId seq, staging.get eventId seq =
        if eventId = header.eventId ∧ seq = header.seq then _ else _ at hget
      have hself : Stages s.disk s.plane.target header {
          seq := header.seq
          diskOffsetBytes := s.disk.offsetBytes header.lba
          ordinal := s.staging.nextOrdinal
          data := header.data } := ⟨hcarried, rfl, rfl, hlength, hfits⟩
      set s' : DiskPlane := { s with
        staging
        plane := { s.plane with
          staging := s.plane.staging.set k { header, decided := some status } } }
      have hsecured : ∀ key, s.Secured key → Secured s' key := by
        rintro ⟨eventId, seq⟩ ⟨hfit, hrest⟩
        refine ⟨hfit, hrest.imp_right ?_⟩
        rintro ⟨header', fragment, hkey, hstages, hold⟩
        by_cases he : eventId = header.eventId ∧ seq = header.seq
        · refine ⟨header, _, Prod.ext he.1.symm he.2.symm, hself, ?_⟩
          exact (hget eventId seq).trans (if_pos he)
        · exact ⟨header', fragment, hkey, hstages,
            (hget eventId seq).trans ((if_neg he).trans hold)⟩
      have hself' : Secured s' (header.eventId, header.seq) :=
        ⟨⟨header, hcarried, rfl, hfits⟩, .inr ⟨header, _, rfl, hself,
          (hget header.eventId header.seq).trans (if_pos ⟨rfl, rfl⟩)⟩⟩
      have htallied : Tallied s'.Secured s'.plane :=
        (h.tallied.mono hsecured).setDecided fun _ => hself'
      have hg : Grows s s' := ⟨rfl, .refl _, List.prefix_refl _⟩
      refine { h with
        placed := hplaced
        tallied := htallied
        staged := fun eventId seq f hf => ?_
        writes := fun w hw => (h.writes w hw).grows hg
        commits := fun eventId hc => h.commits_grows hg hplaced (fun _ => id) hc }
      have hf := (hget eventId seq).symm.trans hf
      by_cases he : eventId = header.eventId ∧ seq = header.seq
      · rw [if_pos he] at hf
        cases hf
        exact ⟨header, Prod.ext he.1.symm he.2.symm, hself⟩
      · rw [if_neg he] at hf
        exact h.staged eventId seq f hf
  · cases hs

/-- A response more is handled. -/
theorem handledEvents_succ {response : WriteFinal}
    (hr : s.plane.track.responses[s.handled]? = some response) (eventId : Nat) :
    eventId ∈ (s.plane.track.responses.take (s.handled + 1)).map WriteFinal.eventId ↔
      eventId ∈ s.handledEvents ∨ eventId = response.eventId := by
  rw [List.take_add_one, hr, Option.toList_some, List.map_append, List.mem_append,
    List.map_singleton, List.mem_singleton]
  rfl

/-- The store loses nothing but the write whose response is handled. -/
theorem Secured.respond {key : Nat × Nat} (h : s.Secured key) {response : WriteFinal}
    (hr : s.plane.track.responses[s.handled]? = some response) (hplane : s'.plane = s.plane)
    (hdisk : s'.disk = s.disk) (hhandled : s'.handled = s.handled + 1)
    (hget : ∀ eventId seq, eventId ≠ response.eventId →
      s'.staging.get eventId seq = s.staging.get eventId seq) : s'.Secured key := by
  obtain ⟨⟨header, hc, hkey, hfits⟩, hrest⟩ := h
  refine ⟨⟨header, hplane ▸ hc, hkey, hdisk ▸ hfits⟩, ?_⟩
  have hmem : key.1 ∈ s'.handledEvents ↔ key.1 ∈ s.handledEvents ∨ key.1 = response.eventId := by
    unfold handledEvents
    rw [hplane, hhandled]
    exact handledEvents_succ hr key.1
  by_cases he : key.1 = response.eventId
  · exact .inl (hmem.mpr (.inr he))
  · rcases hrest with hdone | ⟨header', fragment, hkey', hstages, hold⟩
    · exact .inl (hmem.mpr (.inl hdone))
    · refine .inr ⟨header', fragment, hkey', ?_, (hget _ _ he).trans hold⟩
      exact hstages.grows ⟨hdisk, hplane ▸ .refl _, hplane ▸ List.prefix_refl _⟩

/-- A response is handled: the store keeps the other writes, and what went to the media is of this
write. -/
theorem Inv.handled (h : Inv dataBuffer s) {response : WriteFinal}
    (hr : s.plane.track.responses[s.handled]? = some response) (hplane : s'.plane = s.plane)
    (hdisk : s'.disk = s.disk) (hhandled : s'.handled = s.handled + 1)
    (hreads : s'.reads = s.reads)
    (hget : ∀ eventId seq, eventId ≠ response.eventId →
      s'.staging.get eventId seq = s.staging.get eventId seq)
    (hsome : ∀ eventId seq f, s'.staging.get eventId seq = some f →
      s.staging.get eventId seq = some f)
    (hwrites : ∀ w ∈ s'.writes, w ∈ s.writes ∨ s.Wrote w) (hsub : s.writes ⊆ s'.writes)
    (hcommits : ∀ eventId, (eventId, true) ∈ s'.commits → (eventId, true) ∈ s.commits ∨
      eventId = response.eventId ∧ response.committed = true ∧
        ∀ request ∈ s.plane.target.requests, request.eventId = eventId →
          ∀ seq < request.totalSeq, s'.WroteFragment eventId seq) : Inv dataBuffer s' := by
  have hg : Grows s s' := ⟨hdisk, hplane ▸ .refl _, hplane ▸ List.prefix_refl _⟩
  have hplaced : Placed dataBuffer s'.plane := hplane ▸ h.placed
  refine {
    placed := hplaced
    tallied := ?_
    sector := by rw [hplane, hdisk]; exact h.sector
    shapes := by rw [hplane, hdisk]; exact h.shapes
    staged := fun eventId seq f hf => ?_
    writes := fun w hw => ?_
    commits := fun eventId hc => ?_
    reads := by rw [hreads, hdisk]; exact h.reads }
  · rw [hplane]
    exact h.tallied.mono fun key hkey => hkey.respond hr hplane hdisk hhandled hget
  · obtain ⟨header, hkey, hstages⟩ := h.staged eventId seq f (hsome eventId seq f hf)
    exact ⟨header, hkey, hstages.grows hg⟩
  · rcases hwrites w hw with hw | hw
    · exact (h.writes w hw).grows hg
    · exact hw.grows hg
  · rcases hcommits eventId hc with hc | ⟨rfl, hcommitted, hall⟩
    · exact h.commits_grows hg hplaced hsub hc
    · rw [hplane]
      exact ⟨response, List.mem_of_getElem? hr, rfl, hcommitted, hall⟩

/-- **The fragments of a committed write are in the store** when its response is handled. -/
theorem Inv.stored (h : Inv dataBuffer s) {response : WriteFinal}
    (hr : s.plane.track.responses[s.handled]? = some response) (hc : response.committed = true)
    {request : WriteRequest} (hmem : request ∈ s.plane.target.requests)
    (he : request.eventId = response.eventId) {seq : Nat} (hseq : seq < request.totalSeq) :
    ∃ header fragment, (header.eventId, header.seq) = (response.eventId, seq) ∧
      Stages s.disk s.plane.target header fragment ∧
        s.staging.get response.eventId seq = some fragment := by
  have hgood := h.tallied.all_good h.placed (List.mem_of_getElem? hr) hc hmem he seq hseq
  rcases hgood.2 with hdone | hstored
  · -- it would have had a response before
    obtain ⟨x, hx, hxe⟩ := List.mem_map.mp hdone
    obtain ⟨j, hj⟩ := List.getElem?_of_mem hx
    have hlt : j < s.handled := by
      have := (List.getElem?_eq_some_iff.mp hj).1
      rw [List.length_take] at this
      omega
    rw [List.getElem?_take_of_lt hlt] at hj
    have := h.tallied.final_once hr hj hc hxe
    omega
  · exact hstored

/-- **The signal loop handles a response.** -/
theorem Inv.respond (h : Inv dataBuffer s) {write : Nat → Option Nat}
    (hs : s.respond write = some s') : Inv dataBuffer s' := by
  obtain ⟨response, hr, heq⟩ := Option.map_eq_some_iff.mp hs
  split at heq
  · next hcommitted =>
    have hget : ∀ eventId seq, eventId ≠ response.eventId →
        (s.staging.commit response.eventId s.disk.diskSizeBytes write s.media).2.1.get eventId seq =
          s.staging.get eventId seq := fun _ _ he => s.staging.get_commit_of_ne s.media he
    have hsome : ∀ eventId seq f, (s.staging.commit response.eventId s.disk.diskSizeBytes write
        s.media).2.1.get eventId seq = some f → s.staging.get eventId seq = some f :=
      fun _ _ _ hf => s.staging.get_commit_some s.media hf
    have hwrites : ∀ w ∈ (s.staging.commit response.eventId s.disk.diskSizeBytes write
        s.media).2.2.2, ∃ seq f, _ ∧ _ ∧ _ := s.staging.commit_writes s.media
    have hok : ∀ hok : (s.staging.commit response.eventId s.disk.diskSizeBytes write
        s.media).1 = true, ∀ seq f, s.staging.get response.eventId seq = some f → f.data ≠ [] →
          _ ∈ _ := fun hok seq f hf hdata => s.staging.commit_ok s.media hok hf hdata
    generalize s.staging.commit response.eventId s.disk.diskSizeBytes write s.media = out
      at heq hget hwrites hok hsome
    obtain ⟨ok, staging, media, writes⟩ := out
    dsimp only at heq hget hwrites hok hsome
    subst heq
    refine h.handled hr rfl rfl rfl rfl hget hsome (fun w hw => ?_)
      (fun _ => List.mem_append_left _) fun eventId hc => ?_
    · refine (List.mem_append.mp hw).imp_right fun hw => ?_
      obtain ⟨seq, f, hf, rfl, -⟩ := hwrites w hw
      obtain ⟨header, hkey, hstages⟩ := h.staged _ _ _ hf
      refine ⟨⟨response, List.mem_of_getElem? hr, rfl, hcommitted⟩, header, hstages.carried,
        (Prod.mk.inj hkey).1, hstages.offset, ?_⟩
      show f.data.length = _
      rw [hstages.data, hstages.length]
    · rcases List.mem_append.mp hc with hc | hc
      · exact .inl hc
      · obtain ⟨rfl, rfl⟩ := Prod.mk.inj (List.mem_singleton.mp hc)
        refine .inr ⟨rfl, hcommitted, fun request hmem he seq hseq => ?_⟩
        obtain ⟨header, f, hkey, hstages, hf⟩ := h.stored hr hcommitted hmem he hseq
        refine ⟨header, hstages.carried, hkey, fun hne => ?_⟩
        have hdata : f.data ≠ [] := by
          intro hnil
          have hlen := hstages.length
          rw [← hstages.data, hnil] at hlen
          exact hne hlen.symm
        refine ⟨_, List.mem_append_right _ (hok rfl seq f hf hdata), rfl, hstages.offset, ?_⟩
        show f.data.length = _
        rw [hstages.data, hstages.length]
  · subst heq
    exact h.handled hr rfl rfl rfl rfl
      (fun eventId seq he => (s.staging.get_reject _ _ _).trans (if_neg he))
      (fun _ _ _ hf => StagingStore.get_of_reject hf) (fun _ => .inl) (fun _ => id)
      fun _ => .inl

/-! ## Runs -/

/-- A read is answered from the bytes of its blocks, if they end inside the disk. -/
theorem answers_hostReadBytes (s : DiskPlane) {lba blockCount dataLength : Nat}
    (hlength : blockCount * s.disk.sectorSize = dataLength) (result : MediaRead) :
    Answers s.disk (s.hostReadBytes lba blockCount dataLength result) := by
  subst hlength
  unfold Answers hostReadBytes
  dsimp only
  by_cases hzero : blockCount * s.disk.sectorSize = 0
  · rw [if_pos hzero]
    dsimp only
    rw [if_neg fun hne => hne.1 hzero]
  · rw [if_neg hzero]
    by_cases hfits : rangeFits (s.disk.offsetBytes lba) (blockCount * s.disk.sectorSize)
        s.disk.diskSizeBytes = true
    · rw [hfits, Bool.not_true, if_neg Bool.false_ne_true]
      cases result <;> (dsimp only; rw [if_pos ⟨hzero, hfits⟩])
    · rw [Bool.not_eq_true] at hfits
      rw [hfits, Bool.not_false, if_pos rfl]
      dsimp only
      rw [if_neg fun hne => by rw [hfits] at hne; exact Bool.false_ne_true hne.2]

/-- **One step.** -/
theorem step_inv {a : Action} (h : Inv dataBuffer s) (hs : s.step dataBuffer a = some s') :
    Inv dataBuffer s' := by
  unfold step at hs
  split at hs
  · -- a WRITE
    split at hs
    · cases hs
    · split at hs
      · cases hs
      · next lba blockCount hparse =>
        obtain ⟨plane, hplane, rfl⟩ := Option.map_eq_some_iff.mp hs
        refine h.plane hplane nofun fun lba' count' len' heq => ?_
        cases heq
        exact (parseReadWriteCdb_some hparse).2.symm
  · -- a READ
    split at hs
    · cases hs
    · split at hs
      · cases hs
      · next lba blockCount hparse =>
        cases hs
        refine h.moved ⟨rfl, .refl _, List.prefix_refl _⟩ h.placed h.tallied rfl h.shapes rfl rfl
          rfl rfl fun r hr => ?_
        rcases List.mem_append.mp hr with hr | hr
        · exact h.reads r hr
        · obtain rfl := List.mem_singleton.mp hr
          exact s.answers_hostReadBytes (parseReadWriteCdb_some hparse).2 _
  · cases hs
  · cases hs
  · next a hqueue hstage =>
    obtain ⟨plane, hplane, rfl⟩ := Option.map_eq_some_iff.mp hs
    refine h.plane hplane (fun k status enqueued heq => ?_) fun lba count len heq => ?_
    · exact absurd heq (hstage k status enqueued)
    · exact absurd heq (hqueue lba count len)
  · exact h.stageWrite hs
  · split at hs
    · next header status hslot =>
      obtain ⟨plane, hplane, rfl⟩ := Option.map_eq_some_iff.mp hs
      refine h.plane (a := .stage _ status _) hplane
        (fun k' status' enqueued' heq slot hslot' => ?_) nofun
      cases heq
      obtain rfl := Option.some.inj (hslot.symm.trans hslot')
      rfl
    · cases hs
  · exact h.respond hs

theorem inv_init (dataBuffer : Nat → Bytes) (disk : DiskMetadata) (media : Nat → UInt8) :
    Inv dataBuffer (init disk media) where
  placed := WritePlane.placed_init dataBuffer disk.params disk.queueDepth
  tallied := WritePlane.tallied_init _ disk.params disk.queueDepth
  sector := rfl
  shapes := nofun
  staged := fun eventId seq f hf => by
    rw [show (init disk media).staging = {} from rfl, StagingStore.get_empty] at hf
    cases hf
  writes := nofun
  commits := nofun
  reads := nofun

end DiskPlane

end YumeDisk.Backend
