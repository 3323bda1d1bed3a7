import YumeDisk.Backend.DiskInv

/-!
# What a command touches of the media

The driver does not compare the blocks of a command with the size of the disk; AppKernel multiplies
the LBA of a read, or of each fragment of a write, by the sector size in 64 bits; the backend checks
the bytes that come out.

* `Bounded`: what is promised of a command.
* `Aliases`: the commands whose product wraps around into the disk.
* `disk_bounds`: the promise holds of a command, in every run, unless it aliases.
* `readOfFirstSector_touches`: a read far outside a disk that is answered from its first sector.
-/

namespace YumeDisk.Backend

open Lib (Bytes)
open Miniport AppKernel
open WritePlane (Carried)

/-- The blocks are those of the disk. -/
def DiskMetadata.Inside (disk : DiskMetadata) (lba blockCount : Nat) : Prop :=
  ∀ x, lba ≤ x → x < lba + blockCount → x < disk.sectorCount

/-- The bytes of the blocks. -/
def DiskMetadata.Extent (disk : DiskMetadata) (lba blockCount b : Nat) : Prop :=
  lba * disk.sectorSize ≤ b ∧ b < (lba + blockCount) * disk.sectorSize

/-- The blocks are not all those of the disk, but the bytes that their product wraps around to
are. -/
def DiskMetadata.Aliases (disk : DiskMetadata) (lba blockCount : Nat) : Prop :=
  disk.sectorCount < lba + blockCount ∧ 0 < blockCount ∧
    disk.offsetBytes lba + blockCount * disk.sectorSize ≤ disk.diskSizeBytes

/-- The read was answered from the byte. -/
def ReadDone.Touches (r : ReadDone) (b : Nat) : Prop :=
  ∃ offset length, r.touched = some (offset, length) ∧ offset ≤ b ∧ b < offset + length

namespace DiskPlane

/-- The write has gone to the byte. -/
def WriteTouches (s : DiskPlane) (eventId b : Nat) : Prop :=
  ∃ w ∈ s.writes, w.eventId = eventId ∧ w.offset ≤ b ∧ b < w.offset + w.length

/-- A command whose blocks are not those of the disk touches nothing; one whose blocks are touches
their bytes and no others, and a write that is committed touches all of them. -/
structure Bounded (s : DiskPlane) (lba blockCount : Nat) : Prop where
  reads : ∀ r ∈ s.reads, r.lba = lba → r.blockCount = blockCount →
    (¬ s.disk.Inside lba blockCount → ∀ b, ¬ r.Touches b) ∧
    (s.disk.Inside lba blockCount → ∀ b, r.Touches b ↔ s.disk.Extent lba blockCount b)
  writes : ∀ request ∈ s.plane.target.requests, request.baseLba = lba →
    request.blockCount = blockCount →
    (¬ s.disk.Inside lba blockCount → ∀ b, ¬ s.WriteTouches request.eventId b) ∧
    (s.disk.Inside lba blockCount →
      (∀ b, s.WriteTouches request.eventId b → s.disk.Extent lba blockCount b) ∧
      ((request.eventId, true) ∈ s.commits →
        ∀ b, s.disk.Extent lba blockCount b → s.WriteTouches request.eventId b))

variable {dataBuffer : Nat → Bytes} {s : DiskPlane} {disk : DiskMetadata} {lba blockCount : Nat}

/-! ## The arithmetic -/

theorem inside_iff (hpos : 0 < blockCount) :
    disk.Inside lba blockCount ↔ lba + blockCount ≤ disk.sectorCount := by
  constructor
  · intro h
    have := h (lba + blockCount - 1) (by omega) (by omega)
    omega
  · intro h x _ hlt
    omega

/-- The product of a block of the disk does not wrap around. -/
theorem offsetBytes_of_le (h : lba ≤ disk.sectorCount) :
    disk.offsetBytes lba = lba * disk.sectorSize := by
  have hle := Nat.mul_le_mul_right disk.sectorSize h
  rw [disk.sectorCount_mul] at hle
  exact Nat.mod_eq_of_lt (hle.trans_lt disk.size_lt)

/-- A range that starts where the blocks do. -/
theorem extent_of_le (h : lba ≤ disk.sectorCount) (b : Nat) :
    disk.Extent lba blockCount b ↔
      disk.offsetBytes lba ≤ b ∧ b < disk.offsetBytes lba + blockCount * disk.sectorSize := by
  rw [offsetBytes_of_le h, ← Nat.add_mul]
  rfl

/-- Where a fragment is staged. -/
theorem offsetBytes_fragment (request : WriteRequest) (seq : Nat)
    (hdvd : disk.sectorSize ∣
      (WriteTarget.fragment disk.sectorSize dataBuffer request seq).byteOffsetInWrite) :
    disk.offsetBytes (WriteTarget.fragment disk.sectorSize dataBuffer request seq).lba =
      (request.baseLba * disk.sectorSize +
        (WriteTarget.fragment disk.sectorSize dataBuffer request seq).byteOffsetInWrite) %
          u64Modulus := by
  show (request.baseLba + seq * request.payloadBytes / disk.sectorSize) % 2 ^ 64 *
    disk.sectorSize % u64Modulus = _
  have hmul : seq * request.payloadBytes / disk.sectorSize * disk.sectorSize =
      seq * request.payloadBytes := Nat.div_mul_cancel hdvd
  rw [u64Modulus, Nat.mod_mul_mod, Nat.add_mul, hmul]
  rfl

/-- **Fragments that all end inside the disk** are staged one after the other. -/
theorem offsets_of_fits (h : Inv dataBuffer s) {request : WriteRequest}
    (hr : request ∈ s.plane.target.requests)
    (hfits : ∀ seq < request.totalSeq,
      Fits s.disk (WriteTarget.fragment s.disk.sectorSize dataBuffer request seq)) :
    (∀ seq < request.totalSeq,
      s.disk.offsetBytes (WriteTarget.fragment s.disk.sectorSize dataBuffer request seq).lba =
        s.disk.offsetBytes request.baseLba +
          (WriteTarget.fragment s.disk.sectorSize dataBuffer request seq).byteOffsetInWrite) ∧
      (0 < request.totalSeq →
        s.disk.offsetBytes request.baseLba + request.totalBytes ≤ s.disk.diskSizeBytes) := by
  have hsafe := h.placed.target.safe.fragmented request hr
  have htiles := hsafe.tiles
  have hsectors := hsafe.sectors
  rw [h.sector] at htiles hsectors
  have hend : ∀ seq < request.totalSeq,
      (request.baseLba * s.disk.sectorSize +
        (WriteTarget.fragment s.disk.sectorSize dataBuffer request seq).byteOffsetInWrite) %
          u64Modulus +
        (WriteTarget.fragment s.disk.sectorSize dataBuffer request seq).dataLength ≤
          s.disk.diskSizeBytes := by
    intro seq hseq
    rw [← offsetBytes_fragment request seq (hsectors seq)]
    exact (rangeFits_iff (s.disk.offsetBytes_lt _) s.disk.size_lt_max).mp (hfits seq hseq)
  have hplaced : ∀ seq < request.totalSeq,
      s.disk.offsetBytes (WriteTarget.fragment s.disk.sectorSize dataBuffer request seq).lba =
        s.disk.offsetBytes request.baseLba +
          (WriteTarget.fragment s.disk.sectorSize dataBuffer request seq).byteOffsetInWrite := by
    intro seq hseq
    rw [offsetBytes_fragment request seq (hsectors seq)]
    exact (htiles (by omega)).unwrapped s.disk.size_lt hend seq hseq
  refine ⟨hplaced, fun hpos => ?_⟩
  obtain ⟨last, hlast⟩ : ∃ last, request.totalSeq = last + 1 := ⟨request.totalSeq - 1, by omega⟩
  have hstop := (htiles hpos).stop last hlast.symm
  have hle := hend last (by omega)
  rw [← offsetBytes_fragment request last (hsectors last), hplaced last (by omega)] at hle
  omega

/-! ## What is promised -/

/-- A byte that a read touches. -/
theorem Inv.read_touches (h : Inv dataBuffer s) {r : ReadDone} (hr : r ∈ s.reads) (b : Nat) :
    r.Touches b ↔ s.disk.offsetBytes r.lba + r.blockCount * s.disk.sectorSize ≤
        s.disk.diskSizeBytes ∧ s.disk.offsetBytes r.lba ≤ b ∧
      b < s.disk.offsetBytes r.lba + r.blockCount * s.disk.sectorSize := by
  have hanswers := h.reads r hr
  have hiff : rangeFits (s.disk.offsetBytes r.lba) (r.blockCount * s.disk.sectorSize)
      s.disk.diskSizeBytes = true ↔ _ := rangeFits_iff (s.disk.offsetBytes_lt _) s.disk.size_lt_max
  unfold Answers at hanswers
  split at hanswers
  · next hfits =>
    constructor
    · rintro ⟨offset, length, heq, hle, hlt⟩
      obtain ⟨rfl, rfl⟩ := Prod.mk.inj (Option.some.inj (hanswers.symm.trans heq))
      exact ⟨hiff.mp hfits.2, hle, hlt⟩
    · rintro ⟨-, hle, hlt⟩
      exact ⟨_, _, hanswers, hle, hlt⟩
  · next hfits =>
    constructor
    · rintro ⟨offset, length, heq, -⟩
      cases hanswers.symm.trans heq
    · rintro ⟨hle, hge, hlt⟩
      exact absurd ⟨by omega, hiff.mpr hle⟩ hfits

/-- The fragments of a write that was committed end inside the disk. -/
theorem Inv.write_fits (h : Inv dataBuffer s) {request : WriteRequest}
    (hr : request ∈ s.plane.target.requests) {x : WriteFinal}
    (hx : x ∈ s.plane.track.responses) (he : request.eventId = x.eventId)
    (hc : x.committed = true) : ∀ seq < request.totalSeq,
      Fits s.disk (WriteTarget.fragment s.disk.sectorSize dataBuffer request seq) := by
  intro seq hseq
  obtain ⟨⟨header, hcarried, hkey, hfits⟩, -⟩ := h.tallied.all_good h.placed hx hc hr he seq hseq
  obtain ⟨request', hr', he', -, hheader⟩ := h.placed.fragment hcarried
  obtain ⟨hxe, rfl⟩ := Prod.mk.inj hkey
  have heq : request' = request :=
    h.placed.target.keys.eq_of_eventId hr' hr (he'.trans (hxe.trans he.symm))
  rw [← h.sector, ← heq, ← hheader]
  exact hfits

/-- A byte that a write has gone to is in a range that the blocks of its command are placed in. -/
theorem Inv.write_touches (h : Inv dataBuffer s) {request : WriteRequest}
    (hr : request ∈ s.plane.target.requests) {b : Nat} (hb : s.WriteTouches request.eventId b) :
    s.disk.offsetBytes request.baseLba + request.totalBytes ≤ s.disk.diskSizeBytes ∧
      s.disk.offsetBytes request.baseLba ≤ b ∧
      b < s.disk.offsetBytes request.baseLba + request.totalBytes := by
  obtain ⟨w, hw, he, hle, hlt⟩ := hb
  obtain ⟨⟨x, hx, hxe, hc⟩, header, hcarried, hhe, hoffset, hlength⟩ := h.writes w hw
  obtain ⟨request', hr', he', hseq, hheader⟩ := h.placed.fragment hcarried
  obtain rfl : request' = request :=
    h.placed.target.keys.eq_of_eventId hr' hr (he'.trans (hhe.trans he))
  obtain ⟨hplaced, hfits⟩ := offsets_of_fits h hr
    (h.write_fits hr hx ((he'.trans hhe).trans hxe.symm) hc)
  have htiles := (h.placed.target.safe.fragmented request' hr).tiles
  rw [h.sector] at htiles hheader
  have hpos : 0 < request'.totalSeq := by omega
  have hoff := hplaced header.seq hseq
  rw [← hheader] at hoff
  have hcover : b - s.disk.offsetBytes request'.baseLba < request'.totalBytes := by
    refine ((htiles hpos).covers hpos _).mpr ⟨header.seq, hseq, ?_⟩
    rw [← hheader]
    omega
  exact ⟨hfits hpos, by omega, by omega⟩

/-- A write that was committed has gone to all the bytes that its blocks are placed in. -/
theorem Inv.commit_touches (h : Inv dataBuffer s) {request : WriteRequest}
    (hr : request ∈ s.plane.target.requests) (hc : (request.eventId, true) ∈ s.commits) {b : Nat}
    (hle : s.disk.offsetBytes request.baseLba ≤ b)
    (hlt : b < s.disk.offsetBytes request.baseLba + request.totalBytes) :
    s.WriteTouches request.eventId b := by
  obtain ⟨x, hx, he, hcommitted, hall⟩ := h.commits _ hc
  have hann := (h.tallied.ledger.responses x hx).announced
  have hpos : 0 < request.totalSeq := by
    obtain ⟨y, hy, hye, -⟩ := hann
    exact (Nat.zero_le _).trans_lt
      (((h.placed.target.safe.fragmented request hr).issued y hy (hye.trans he)).1)
  obtain ⟨hplaced, -⟩ := offsets_of_fits h hr (h.write_fits hr hx he.symm hcommitted)
  have htiles := (h.placed.target.safe.fragmented request hr).tiles hpos
  rw [h.sector] at htiles
  obtain ⟨seq, hseq, hfrom, hto⟩ :=
    (htiles.covers hpos (b - s.disk.offsetBytes request.baseLba)).mp (by omega)
  obtain ⟨header, hcarried, hkey, hw⟩ := hall request hr rfl seq hseq
  obtain ⟨hhe, rfl⟩ := Prod.mk.inj hkey
  obtain ⟨request', hr', he', -, hheader⟩ := h.placed.fragment hcarried
  obtain rfl : request' = request := h.placed.target.keys.eq_of_eventId hr' hr (he'.trans hhe)
  rw [h.sector] at hheader
  rw [← hheader] at hfrom hto
  have hoff := hplaced header.seq hseq
  rw [← hheader] at hoff
  obtain ⟨w, hmem, hwe, hwo, hwl⟩ := hw (by omega)
  exact ⟨w, hmem, hwe, by omega, by omega⟩

/-- **What a command touches**, unless its product wraps around into the disk. -/
theorem Inv.bounded (h : Inv dataBuffer s) (halias : ¬ s.disk.Aliases lba blockCount) :
    s.Bounded lba blockCount where
  reads r hr := by
    rintro rfl rfl
    refine ⟨fun hout b hb => ?_, fun hin b => ?_⟩
    · obtain ⟨hle, hge, hlt⟩ := (h.read_touches hr b).mp hb
      have hpos : 0 < r.blockCount := Nat.pos_of_ne_zero fun hzero => by
        rw [hzero, Nat.zero_mul] at hlt
        omega
      rw [inside_iff hpos] at hout
      exact halias ⟨by omega, hpos, hle⟩
    · rw [h.read_touches hr b]
      by_cases hpos : 0 < r.blockCount
      · rw [inside_iff hpos] at hin
        rw [extent_of_le (by omega)]
        refine and_iff_right ?_
        rw [offsetBytes_of_le (by omega), ← Nat.add_mul, ← s.disk.sectorCount_mul]
        exact Nat.mul_le_mul_right _ hin
      · have hzero : r.blockCount = 0 := by omega
        simp only [DiskMetadata.Extent, hzero, Nat.zero_mul, Nat.add_zero]
        omega
  writes request hr := by
    rintro rfl rfl
    have hbytes := h.shapes request hr
    refine ⟨fun hout b hb => ?_, fun hin => ⟨fun b hb => ?_, fun hc b hb => ?_⟩⟩
    · obtain ⟨hle, hge, hlt⟩ := h.write_touches hr hb
      have hpos : 0 < request.blockCount := Nat.pos_of_ne_zero fun hzero => by
        rw [hzero, Nat.zero_mul] at hbytes
        omega
      rw [inside_iff hpos] at hout
      exact halias ⟨by omega, hpos, hbytes ▸ hle⟩
    · obtain ⟨-, hge, hlt⟩ := h.write_touches hr hb
      have hpos : 0 < request.blockCount := Nat.pos_of_ne_zero fun hzero => by
        rw [hzero, Nat.zero_mul] at hbytes
        omega
      rw [inside_iff hpos] at hin
      rw [extent_of_le (by omega), ← hbytes]
      exact ⟨hge, hlt⟩
    · have hpos : 0 < request.blockCount := Nat.pos_of_ne_zero fun hzero => by
        obtain ⟨hge, hlt⟩ := hb
        rw [hzero, Nat.add_zero] at hlt
        exact absurd hlt (by omega)
      rw [inside_iff hpos] at hin
      rw [extent_of_le (by omega), ← hbytes] at hb
      exact h.commit_touches hr hc hb.1 hb.2

/-! ## Runs -/

/-- A read that was answered is that of the command. -/
theorem hostReadBytes_blocks (s : DiskPlane) (lba blockCount dataLength : Nat)
    (result : MediaRead) :
    (s.hostReadBytes lba blockCount dataLength result).lba = lba ∧
      (s.hostReadBytes lba blockCount dataLength result).blockCount = blockCount := by
  unfold hostReadBytes
  dsimp only
  split
  · exact ⟨rfl, rfl⟩
  · split
    · exact ⟨rfl, rfl⟩
    · split <;> exact ⟨rfl, rfl⟩

/-- A READ whose product wraps around into the disk, and what it is answered from. -/
theorem read_aliases (dataBuffer : Nat → Bytes) {cdb : Cdb} {transferLength : UInt32}
    (hread : readWriteOp (cdbOpcode cdb) = some .read)
    (hparse : parseReadWriteCdb disk.sectorSize cdb transferLength = some (lba, blockCount))
    (halias : disk.Aliases lba blockCount) (media : Nat → UInt8) :
    ∃ s, Lib.runFrom (step dataBuffer) (init disk media) [.read cdb transferLength .ok] = some s ∧
      ∃ r ∈ s.reads, r.lba = lba ∧ r.blockCount = blockCount ∧
        r.Touches (disk.offsetBytes lba) := by
  obtain ⟨-, hpos, hfits⟩ := halias
  obtain ⟨-, hlength⟩ := parseReadWriteCdb_some hparse
  set s : DiskPlane := { init disk media with
    reads := [(init disk media).hostReadBytes lba blockCount transferLength.toNat .ok] } with hs
  have hstep : step dataBuffer (init disk media) (.read cdb transferLength .ok) = some s := by
    have hparse' : parseReadWriteCdb (init disk media).disk.sectorSize cdb transferLength =
        some (lba, blockCount) := hparse
    simp only [step]
    rw [if_neg (not_not.mpr hread), hparse']
    rfl
  have hrun : Lib.runFrom (step dataBuffer) (init disk media) [.read cdb transferLength .ok] =
      some s := by
    unfold Lib.runFrom
    rw [hstep]
    rfl
  have hinv := Lib.run_inv (fun _ _ _ => step_inv) (inv_init dataBuffer disk media) hrun
  have hbytes : 0 < blockCount * disk.sectorSize := Nat.mul_pos hpos disk.sector_pos
  obtain ⟨hlba, hcount⟩ :=
    (init disk media).hostReadBytes_blocks lba blockCount transferLength.toNat .ok
  refine ⟨s, hrun, _, List.mem_singleton_self _, hlba, hcount, ?_⟩
  refine (hinv.read_touches (List.mem_singleton_self _) _).mpr ?_
  rw [hlba, hcount]
  exact ⟨hfits, le_rfl, Nat.lt_add_of_pos_right hbytes⟩

/-- Such a read is not bounded. -/
theorem not_bounded_of_touches {r : ReadDone} (hr : r ∈ s.reads) {b : Nat} (hb : r.Touches b)
    (halias : s.disk.Aliases r.lba r.blockCount) : ¬ s.Bounded r.lba r.blockCount := by
  intro h
  obtain ⟨hlt, hpos, -⟩ := halias
  refine (h.reads r hr rfl rfl).1 (fun hin => ?_) b hb
  rw [inside_iff hpos] at hin
  omega

/-- A step leaves the parameters of the disk. -/
theorem step_disk {s' : DiskPlane} {a : Action} (hs : s.step dataBuffer a = some s') :
    s'.disk = s.disk := by
  unfold step at hs
  split at hs
  · split at hs
    · cases hs
    · split at hs
      · cases hs
      · obtain ⟨plane, -, rfl⟩ := Option.map_eq_some_iff.mp hs
        rfl
  · split at hs
    · cases hs
    · split at hs <;> cases hs
      rfl
  · cases hs
  · cases hs
  · obtain ⟨plane, -, rfl⟩ := Option.map_eq_some_iff.mp hs
    rfl
  · unfold stageWrite at hs
    split at hs <;> cases hs
    rfl
  · split at hs
    · obtain ⟨plane, -, rfl⟩ := Option.map_eq_some_iff.mp hs
      rfl
    · cases hs
  · obtain ⟨response, -, rfl⟩ := Option.map_eq_some_iff.mp hs
    split <;> rfl

theorem run_disk {media : Nat → UInt8} {as : List Action}
    (hrun : Lib.runFrom (step dataBuffer) (init disk media) as = some s) : s.disk = disk :=
  Lib.run_inv (I := fun s => s.disk = disk) (fun _ _ _ hu hs => (step_disk hs).trans hu) rfl hrun

/-- **Disk bounds, end to end.** Whatever the other commands and the order of the steps, what the
blocks of a command say is what is touched for it, if and only if its product does not wrap around
into the disk. -/
theorem disk_bounds {cdb : Cdb} {transferLength : UInt32}
    (hparse : parseReadWriteCdb disk.sectorSize cdb transferLength = some (lba, blockCount)) :
    (∀ dataBuffer media as s, Lib.runFrom (step dataBuffer) (init disk media) as = some s →
      s.Bounded lba blockCount) ↔ ¬ disk.Aliases lba blockCount := by
  constructor
  · intro hall halias
    obtain ⟨hfields, hlength⟩ := parseReadWriteCdb_some hparse
    obtain ⟨read, hread, hfields⟩ := exists_read_of_fields hfields
    have hparse : parseReadWriteCdb disk.sectorSize read transferLength =
        some (lba, blockCount) := by
      unfold parseReadWriteCdb
      rw [hfields]
      exact if_neg (not_not.mpr hlength)
    obtain ⟨s, hrun, r, hr, rfl, rfl, htouches⟩ :=
      read_aliases (fun _ => []) hread hparse halias fun _ => 0
    refine not_bounded_of_touches hr htouches ?_ (hall _ _ _ s hrun)
    rw [run_disk hrun]
    exact halias
  · intro halias dataBuffer media as s hrun
    have hinv := Lib.run_inv (fun _ _ _ => step_inv) (inv_init dataBuffer disk media) hrun
    refine hinv.bounded ?_
    rw [run_disk hrun]
    exact halias

/-- A disk of two sectors. -/
def smallDisk : DiskMetadata where
  sectorSize := 512
  diskSizeBytes := 1024
  readOnly := false
  writeSlotBytes := 4096
  queueDepth := 1
  ackBatchMaxRanges := 1
  sector_pos := by decide
  aligned := by decide
  size_pos := by decide
  sectors := by decide
  sector_lt := by decide
  size_lt := by decide

/-- READ(16) of block `2 ^ 55`. -/
def readFar : Cdb := #v[0x88, 0, 0, 0x80, 0, 0, 0, 0, 0, 0, 0, 0, 0, 1, 0, 0]

/-- READ(16) of both sectors. -/
def readBoth : Cdb := #v[0x88, 0, 0, 0, 0, 0, 0, 0, 0, 0, 0, 0, 0, 2, 0, 0]

/-- **A block far outside the disk is read from its first sector.** -/
theorem readOfFirstSector_touches : ∃ s r,
    Lib.runFrom (step fun _ => []) (init smallDisk fun _ => 0) [.read readFar 512 .ok] = some s ∧
      r ∈ s.reads ∧ r.lba = 2 ^ 55 ∧ r.blockCount = 1 ∧ ¬ s.disk.Inside (2 ^ 55) 1 ∧
      r.Touches 0 ∧ ¬ s.Bounded (2 ^ 55) 1 := by
  have hparse : parseReadWriteCdb smallDisk.sectorSize readFar 512 = some (2 ^ 55, 1) := by
    decide
  have halias : smallDisk.Aliases (2 ^ 55) 1 := by
    unfold DiskMetadata.Aliases
    decide
  obtain ⟨s, hrun, r, hr, hlba, hcount, htouches⟩ :=
    read_aliases _ (by decide) hparse halias fun _ => 0
  have hdisk : s.disk = smallDisk := run_disk hrun
  refine ⟨s, r, hrun, hr, hlba, hcount, ?_, ?_, ?_⟩
  · rw [hdisk, inside_iff Nat.one_pos]
    decide
  · rw [show (0 : Nat) = smallDisk.offsetBytes (2 ^ 55) by decide]
    exact htouches
  · have hnot := not_bounded_of_touches hr htouches
    rw [hlba, hcount, hdisk] at hnot
    exact hnot halias

theorem disk_bounds_readBoth :
    parseReadWriteCdb smallDisk.sectorSize readBoth 1024 = some (0, 2) ∧
      ∀ dataBuffer media as s, Lib.runFrom (step dataBuffer) (init smallDisk media) as = some s →
        s.Bounded 0 2 := by
  have hparse : parseReadWriteCdb smallDisk.sectorSize readBoth 1024 = some (0, 2) := by
    decide
  refine ⟨hparse, (disk_bounds hparse).mpr ?_⟩
  unfold DiskMetadata.Aliases
  decide

end DiskPlane

end YumeDisk.Backend
