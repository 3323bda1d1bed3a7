import Mathlib.Data.Nat.Basic
import YumeDisk.Miniport.Queue

/-!
# The READ and WRITE commands of a target (`scsi/scsi.c`)

* `parseReadWriteCdb`: the LBA and the number of blocks of a command.
* `ReadWriteOp`: what the operation codes are dispatched to.
-/

namespace YumeDisk.Miniport

abbrev Cdb := Vector UInt8 16

def scsiopRead6 : UInt8 := 0x08
def scsiopWrite6 : UInt8 := 0x0A
def scsiopRead : UInt8 := 0x28
def scsiopWrite : UInt8 := 0x2A
def scsiopRead12 : UInt8 := 0xA8
def scsiopWrite12 : UInt8 := 0xAA
def scsiopRead16 : UInt8 := 0x88
def scsiopWrite16 : UInt8 := 0x8A

inductive ReadWriteOp
  | read
  | write
deriving DecidableEq, Repr

/-- The `case` labels of the dispatch. -/
def readWriteOp (opcode : UInt8) : Option ReadWriteOp :=
  if opcode ∈ [scsiopRead6, scsiopRead, scsiopRead12, scsiopRead16] then
    some .read
  else if opcode ∈ [scsiopWrite6, scsiopWrite, scsiopWrite12, scsiopWrite16] then
    some .write
  else
    none

/-- `DiskReadBigEndian32` and `DiskReadBigEndian64`: the bytes, the first the highest. -/
def readBigEndian (bytes : List UInt8) : Nat :=
  bytes.foldl (fun value byte => value * 256 + byte.toNat) 0

/-- The two fields of a command, by its operation code. -/
def readWriteFields (cdb : Cdb) : Option (Nat × Nat) :=
  let opcode := cdb[0]
  if opcode ∈ [scsiopRead6, scsiopWrite6] then
    some (readBigEndian [cdb[1] &&& 0x1f, cdb[2], cdb[3]], if cdb[4] = 0 then 256 else cdb[4].toNat)
  else if opcode ∈ [scsiopRead, scsiopWrite] then
    some (readBigEndian [cdb[2], cdb[3], cdb[4], cdb[5]], readBigEndian [cdb[7], cdb[8]])
  else if opcode ∈ [scsiopRead12, scsiopWrite12] then
    some (readBigEndian [cdb[2], cdb[3], cdb[4], cdb[5]],
      readBigEndian [cdb[6], cdb[7], cdb[8], cdb[9]])
  else if opcode ∈ [scsiopRead16, scsiopWrite16] then
    some (readBigEndian [cdb[2], cdb[3], cdb[4], cdb[5], cdb[6], cdb[7], cdb[8], cdb[9]],
      readBigEndian [cdb[10], cdb[11], cdb[12], cdb[13]])
  else
    none

/-- The operation code of a command. -/
def cdbOpcode (cdb : Cdb) : UInt8 := cdb[0]

/-- `DiskTryParseReadWriteCdb`; the product of two `ULONG` does not wrap around. -/
def parseReadWriteCdb (sectorSize : Nat) (cdb : Cdb) (transferLength : UInt32) :
    Option (Nat × Nat) :=
  match readWriteFields cdb with
  | none => none
  | some (lba, blockCount) =>
    if blockCount * sectorSize ≠ transferLength.toNat then none else some (lba, blockCount)

theorem parseReadWriteCdb_some {sectorSize : Nat} {cdb : Cdb} {transferLength : UInt32}
    {lba blockCount : Nat}
    (h : parseReadWriteCdb sectorSize cdb transferLength = some (lba, blockCount)) :
    readWriteFields cdb = some (lba, blockCount) ∧
      blockCount * sectorSize = transferLength.toNat := by
  unfold parseReadWriteCdb at h
  split at h
  · cases h
  · next hfields =>
    split at h
    · cases h
    · next hlength =>
      cases h
      exact ⟨hfields, not_not.mp hlength⟩

/-- A command of either kind has the fields of a READ. -/
theorem exists_read_of_fields {cdb : Cdb} {fields : Nat × Nat}
    (h : readWriteFields cdb = some fields) :
    ∃ read : Cdb, readWriteOp read[0] = some .read ∧ readWriteFields read = some fields := by
  have hop : ∀ read ∈ [scsiopRead6, scsiopRead, scsiopRead12, scsiopRead16],
      readWriteOp (cdb.set 0 read)[0] = some .read := by
    intro read hread
    rw [Vector.getElem_set_self, readWriteOp, if_pos hread]
  unfold readWriteFields at h
  dsimp only at h
  split at h
  · refine ⟨cdb.set 0 scsiopRead6, hop _ (by decide), ?_⟩
    rw [← h]
    simp [readWriteFields]
  · split at h
    · refine ⟨cdb.set 0 scsiopRead, hop _ (by decide), ?_⟩
      rw [← h]
      simp [readWriteFields,
        show ¬ (scsiopRead = scsiopRead6 ∨ scsiopRead = scsiopWrite6) by decide]
    · split at h
      · refine ⟨cdb.set 0 scsiopRead12, hop _ (by decide), ?_⟩
        rw [← h]
        simp [readWriteFields,
          show ¬ (scsiopRead12 = scsiopRead6 ∨ scsiopRead12 = scsiopWrite6) by decide,
          show ¬ (scsiopRead12 = scsiopRead ∨ scsiopRead12 = scsiopWrite) by decide]
      · split at h
        · refine ⟨cdb.set 0 scsiopRead16, hop _ (by decide), ?_⟩
          rw [← h]
          simp [readWriteFields,
            show ¬ (scsiopRead16 = scsiopRead6 ∨ scsiopRead16 = scsiopWrite6) by decide,
            show ¬ (scsiopRead16 = scsiopRead ∨ scsiopRead16 = scsiopWrite) by decide,
            show ¬ (scsiopRead16 = scsiopRead12 ∨ scsiopRead16 = scsiopWrite12) by decide]
        · cases h

/-- A 16-byte command for one block reads back. -/
example : parseReadWriteCdb 512
    #v[0x88, 0, 0, 0x80, 0, 0, 0, 0, 0, 0, 0, 0, 0, 1, 0, 0] 512 = some (2 ^ 55, 1) := by
  decide

end YumeDisk.Miniport
