import YumeDisk.Cache.State

/-!
# The temp directory (`temp.rs`)

`write_block` writes a file beside the old one, moves the old one away and the new one into place,
and moves the old one back if that fails.  Each call of the file system may fail.

* `WriteFaults`: which calls of `write_block` fail.
* `TempDir.writeBlock`: `write_block` on the files of the directory.
* `WriteFaults.outcome`, `writeBlock_outcome`: what it comes to for the file of the block.
* `write_atomic_iff`: **the result**: the write is atomic unless the way back fails as well.
-/

namespace YumeDisk.Cache

open YumeDisk.Lib

/-- The files of a block: `block-{i}.temp`, `block-{i}.temp.write` and `block-{i}.temp.prev`. -/
inductive TempPath
  | final (blockIndex : Nat)
  | pending (blockIndex : Nat)
  | backup (blockIndex : Nat)
deriving DecidableEq, Repr

abbrev TempDir := TempPath → Option Bytes

/-- Which calls of `write_block` fail, in their order. -/
structure WriteFaults where
  injected : Bool := false
  removePending : Bool := false
  removeBackup : Bool := false
  create : Bool := false
  /-- `write_all` fails when this many bytes are written. -/
  write : Option Nat := none
  removeUnwritten : Bool := false
  sync : Bool := false
  removeUnsynced : Bool := false
  /-- The metadata of the old file cannot be read: `exists` returns `false`. -/
  lookup : Bool := false
  moveAway : Bool := false
  moveIntoPlace : Bool := false
  removeMoved : Bool := false
  restore : Bool := false
  removeRefused : Bool := false
deriving DecidableEq, Repr

namespace TempDir

abbrev M := EStateM CacheError TempDir

/-- The files that `read_block` opens. -/
def store (dir : TempDir) : TempStore := fun b => dir (.final b)

/-- `fs::rename`, and whether it succeeds. -/
def rename (source target : TempPath) (fails : Bool) (dir : TempDir) : Bool × TempDir :=
  match dir source with
  | none => (false, dir)
  | some data =>
    if fails then
      (false, dir)
    else
      (true, Function.update (Function.update dir source none) target (some data))

def removeIfExists (path : TempPath) (fails : Bool) : M Unit :=
  if fails then
    throw (.tempIo "remove temp file")
  else
    modify fun dir => Function.update dir path none

/-- `let _ = …`. -/
def ignore (m : M Unit) : M Unit := fun dir =>
  match m dir with
  | .ok _ dir => .ok () dir
  | .error _ dir => .ok () dir

def writePendingFile (f : WriteFaults) (path : TempPath) (data : Bytes) : M Unit := do
  if f.create then
    throw (.tempIo "create temp file")
  else
    match f.write with
    | some n =>
      modify fun dir => Function.update dir path (some (data.take n))
      ignore (removeIfExists path f.removeUnwritten)
      throw (.tempIo "write temp file")
    | none =>
      modify fun dir => Function.update dir path (some data)
      if f.sync then
        ignore (removeIfExists path f.removeUnsynced)
        throw (.tempIo "sync temp file")
      else
        return ()

/-- `write_block` up to the new file that is not in its place yet. -/
def stage (f : WriteFaults) (blockIndex : Nat) (data : Bytes) : M Unit := do
  if f.injected then
    throw (.tempIo "write temp file")
  else
    removeIfExists (.pending blockIndex) f.removePending
    removeIfExists (.backup blockIndex) f.removeBackup
    writePendingFile f (.pending blockIndex) data

/-- The rest of `write_block`, after `final_path.exists()`. -/
def moveIntoPlace (f : WriteFaults) (blockIndex : Nat) (finalExists : Bool) : M Unit := do
  let dir ← get
  let (replaced, dir) := rename (.pending blockIndex) (.final blockIndex) f.moveIntoPlace dir
  set dir
  if replaced then
    ignore (removeIfExists (.backup blockIndex) f.removeMoved)
  else
    if finalExists then
      modify fun dir => (rename (.backup blockIndex) (.final blockIndex) f.restore dir).2
    ignore (removeIfExists (.pending blockIndex) f.removeRefused)
    throw (.tempIo "rename pending temp file into place")

def writeBlock (f : WriteFaults) (blockIndex : Nat) (data : Bytes) : M Unit := do
  stage f blockIndex data
  let dir ← get
  if (dir (.final blockIndex)).isSome && !f.lookup then
    let (moved, dir) := rename (.final blockIndex) (.backup blockIndex) f.moveAway dir
    set dir
    if !moved then
      throw (.tempIo "rename temp file to backup")
    else
      moveIntoPlace f blockIndex true
  else
    moveIntoPlace f blockIndex false

end TempDir

/-! ## What a write comes to -/

namespace WriteFaults

/-- The new data is on the disk, beside the old. -/
def staged (f : WriteFaults) : Bool :=
  !f.injected && !f.removePending && !f.removeBackup && !f.create && f.write.isNone && !f.sync

/-- How the write of a block ends; `present` tells whether there is an old file. -/
def outcome (f : WriteFaults) (present : Bool) : TempWrite :=
  if !f.staged then .failed
  else if present && !f.lookup then
    if f.moveAway then .failed
    else if !f.moveIntoPlace then .written
    else if f.restore then .lost
    else .failed
  else if f.moveIntoPlace then .failed
  else .written

end WriteFaults

namespace TempDir

section Outcome

variable {f : WriteFaults} {dir : TempDir} {b : Nat} {data : Bytes}

/-- The files that are read do not change. -/
def SameFiles (dir dir' : TempDir) : Prop := dir'.store = dir.store

instance : Std.Refl SameFiles := ⟨fun _ => rfl⟩

instance : IsTrans TempDir SameFiles := ⟨fun _ _ _ h h' => h'.trans h⟩

theorem store_update_of_ne {path : TempPath} (h : ∀ c, path ≠ .final c) (x : Option Bytes) :
    store (Function.update dir path x) = dir.store := by
  funext c
  exact Function.update_of_ne (h c).symm ..

theorem store_update_final (x : Option Bytes) :
    store (Function.update dir (.final b) x) = Function.update dir.store b x := by
  funext c
  by_cases hc : c = b
  · rw [hc, Function.update_self]
    exact Function.update_self ..
  · have hpath : TempPath.final c ≠ .final b := fun he => hc (TempPath.final.inj he)
    rw [Function.update_of_ne hc]
    exact Function.update_of_ne hpath ..

theorem ignore_ok {m : M Unit} (hm : Keeps SameFiles m) (dir : TempDir) :
    ∃ dir', ignore m dir = .ok () dir' ∧ SameFiles dir dir' := by
  have hends := hm dir
  unfold Ends at hends
  cases hrun : m dir with
  | ok a dir' =>
    rw [hrun] at hends
    exact ⟨dir', by rw [ignore, hrun], hends⟩
  | error e dir' =>
    rw [hrun] at hends
    exact ⟨dir', by rw [ignore, hrun], hends⟩

theorem keeps_removeIfExists {path : TempPath} (h : ∀ c, path ≠ .final c) (fails : Bool) :
    Keeps SameFiles (removeIfExists path fails) :=
  keeps_ite (keeps_throw _) (keeps_modify fun _ => store_update_of_ne h _)

theorem keeps_ignore {m : M Unit} (hm : Keeps SameFiles m) : Keeps SameFiles (ignore m) := by
  intro dir
  obtain ⟨dir', hrun, hsame⟩ := ignore_ok hm dir
  exact ends_of_ok hrun hsame

theorem pending_ne_final (c : Nat) : TempPath.pending b ≠ .final c := nofun

theorem backup_ne_final (c : Nat) : TempPath.backup b ≠ .final c := nofun

theorem keeps_update {path : TempPath} (h : ∀ c, path ≠ .final c) (x : Option Bytes) :
    Keeps SameFiles (modify fun dir => Function.update dir path x : M Unit) :=
  keeps_modify fun _ => store_update_of_ne h x

/-- Before the new file is moved, the old one stays. -/
theorem keeps_stage : Keeps SameFiles (stage f b data) := by
  refine keeps_ite (keeps_throw _) ((keeps_removeIfExists pending_ne_final _).bind fun _ =>
    (keeps_removeIfExists backup_ne_final _).bind fun _ => keeps_ite (keeps_throw _) ?_)
  cases f.write with
  | some n =>
    exact (keeps_update pending_ne_final _).bind fun _ =>
      (keeps_ignore (keeps_removeIfExists pending_ne_final _)).bind fun _ => keeps_throw _
  | none =>
    refine (keeps_update pending_ne_final _).bind fun _ => keeps_ite ?_ (keeps_pure _)
    exact (keeps_ignore (keeps_removeIfExists pending_ne_final _)).bind fun _ => keeps_throw _

theorem removeIfExists_ok {path : TempPath} {fails : Bool} {dir' : TempDir}
    (h : removeIfExists path fails dir = .ok () dir') : fails = false := by
  by_cases hfails : fails = true
  · rw [removeIfExists, if_pos hfails, run_throw] at h
    cases h
  · exact Bool.eq_false_iff.mpr hfails

/-- A pending file that is written holds the data. -/
theorem writePendingFile_ok {path : TempPath} {dir' : TempDir}
    (h : writePendingFile f path data dir = .ok () dir') :
    f.create = false ∧ f.write = none ∧ f.sync = false ∧ dir' path = some data := by
  by_cases hcreate : f.create = true
  · rw [writePendingFile, if_pos hcreate, run_throw] at h
    cases h
  rw [writePendingFile, if_neg hcreate] at h
  cases hwrite : f.write with
  | some n =>
    simp only [hwrite, run_modify_bind] at h
    obtain ⟨_, _, -, hthrow⟩ := of_bind_ok h
    cases hthrow
  | none =>
    simp only [hwrite, run_modify_bind] at h
    by_cases hsync : f.sync = true
    · rw [if_pos hsync] at h
      obtain ⟨_, _, -, hthrow⟩ := of_bind_ok h
      cases hthrow
    · rw [if_neg hsync, run_pure] at h
      cases h
      exact ⟨Bool.eq_false_iff.mpr hcreate, rfl, Bool.eq_false_iff.mpr hsync,
        Function.update_self ..⟩

theorem stage_ok {dir' : TempDir} (h : stage f b data dir = .ok () dir') :
    f.staged = true ∧ dir' (.pending b) = some data := by
  by_cases hinjected : f.injected = true
  · rw [stage, if_pos hinjected, run_throw] at h
    cases h
  rw [stage, if_neg hinjected] at h
  obtain ⟨_, _, hpending, h⟩ := of_bind_ok h
  obtain ⟨_, _, hbackup, h⟩ := of_bind_ok h
  obtain ⟨hcreate, hwrite, hsync, hdata⟩ := writePendingFile_ok h
  refine ⟨?_, hdata⟩
  simp [WriteFaults.staged, hinjected, removeIfExists_ok hpending, removeIfExists_ok hbackup,
    hcreate, hwrite, hsync]

theorem stage_of_staged (h : f.staged = true) (b : Nat) (data : Bytes) (dir : TempDir) :
    ∃ dir', stage f b data dir = .ok () dir' := by
  simp only [WriteFaults.staged, Bool.and_eq_true, Bool.not_eq_true', Option.isNone_iff_eq_none]
    at h
  obtain ⟨⟨⟨⟨⟨hinjected, hpending⟩, hbackup⟩, hcreate⟩, hwrite⟩, hsync⟩ := h
  simp only [stage, removeIfExists, writePendingFile, hinjected, hpending, hbackup, hcreate, hwrite,
    hsync, Bool.false_eq_true, if_false, run_modify_bind]
  exact ⟨_, rfl⟩

/-- The new file is beside the old one, or the write has failed. -/
theorem stage_cases :
    (f.staged = true ∧ ∃ dir', stage f b data dir = .ok () dir' ∧ SameFiles dir dir' ∧
      dir' (.pending b) = some data) ∨
    (f.staged = false ∧ ∃ e dir', stage f b data dir = .error e dir' ∧ SameFiles dir dir') := by
  have hkeeps : Keeps SameFiles (stage f b data) := keeps_stage
  cases hrun : stage f b data dir with
  | ok u dir' =>
    obtain ⟨hstaged, hdata⟩ := stage_ok hrun
    exact .inl ⟨hstaged, dir', rfl, (hkeeps dir).of_ok hrun, hdata⟩
  | error e dir' =>
    refine .inr ⟨Bool.eq_false_iff.mpr fun hstaged => ?_, e, dir', rfl, (hkeeps dir).of_error hrun⟩
    obtain ⟨_, hok⟩ := stage_of_staged hstaged b data dir
    exact nomatch hrun.symm.trans hok

theorem rename_fails {source target : TempPath} :
    rename source target true dir = (false, dir) := by
  rw [rename]
  cases dir source <;> rfl

theorem rename_ok {source target : TempPath} {x : Bytes} (h : dir source = some x) :
    rename source target false dir =
      (true, Function.update (Function.update dir source none) target (some x)) := by
  rw [rename, h]
  rfl

/-- What the last renames come to, once the new file is beside the old one. -/
def Moved (f : WriteFaults) (b : Nat) (data : Bytes) (dir : TempDir) (finalExists : Bool) : Prop :=
  (f.moveIntoPlace = false → ∃ dir', moveIntoPlace f b finalExists dir = .ok () dir' ∧
    dir'.store = Function.update dir.store b (some data)) ∧
  (f.moveIntoPlace = true → ∃ e dir', moveIntoPlace f b finalExists dir = .error e dir' ∧
    dir'.store =
      if finalExists && !f.restore then Function.update dir.store b (dir (.backup b))
      else dir.store)

theorem moveIntoPlace_moved (hdata : dir (.pending b) = some data) {finalExists : Bool}
    (hbackup : finalExists = true → (dir (.backup b)).isSome) :
    Moved f b data dir finalExists := by
  constructor
  · intro hmove
    rw [moveIntoPlace, run_get_bind, hmove, rename_ok hdata]
    simp only [run_set_bind, if_true]
    obtain ⟨dir', hrun, hsame⟩ := ignore_ok
      (keeps_removeIfExists (backup_ne_final (b := b)) f.removeMoved)
      (Function.update (Function.update dir (.pending b) none) (.final b) (some data))
    refine ⟨dir', hrun, hsame.trans ?_⟩
    rw [store_update_final, store_update_of_ne pending_ne_final]
  · intro hmove
    rw [moveIntoPlace, run_get_bind, hmove, rename_fails]
    simp only [run_set_bind, Bool.false_eq_true, if_false]
    have hremove := ignore_ok (keeps_removeIfExists (pending_ne_final (b := b)) f.removeRefused)
    by_cases hexists : finalExists = true
    · obtain ⟨old, hold⟩ := Option.isSome_iff_exists.mp (hbackup hexists)
      simp only [hexists, if_true, run_modify_bind, Bool.true_and]
      by_cases hrestore : f.restore = true
      · obtain ⟨dir', hrun, hsame⟩ := hremove dir
        rw [hrestore, rename_fails, bind_ok hrun]
        exact ⟨_, dir', rfl, hsame⟩
      · have hrestore := Bool.eq_false_iff.mpr hrestore
        rw [hrestore, rename_ok hold]
        obtain ⟨dir', hrun, hsame⟩ := hremove
          (Function.update (Function.update dir (.backup b) none) (.final b) (some old))
        rw [bind_ok hrun]
        refine ⟨_, dir', rfl, hsame.trans ?_⟩
        rw [store_update_final, store_update_of_ne backup_ne_final, hold]
        rfl
    · obtain ⟨dir', hrun, hsame⟩ := hremove dir
      simp only [Bool.eq_false_iff.mpr hexists, Bool.false_eq_true, if_false, Bool.false_and]
      rw [bind_ok hrun]
      exact ⟨_, dir', rfl, hsame⟩

/-- **What a write comes to**: the new file, the old one, or none. -/
theorem writeBlock_outcome :
    match f.outcome (dir (.final b)).isSome with
    | .written => ∃ dir', writeBlock f b data dir = .ok () dir' ∧
      dir'.store = Function.update dir.store b (some data)
    | .failed => ∃ e dir', writeBlock f b data dir = .error e dir' ∧ dir'.store = dir.store
    | .lost => ∃ e dir', writeBlock f b data dir = .error e dir' ∧
      dir'.store = Function.update dir.store b none := by
  rcases @stage_cases f dir b data with ⟨hstaged, dir₁, hrun, hsame, hdata⟩ |
    ⟨hstaged, e, dir₁, hrun, hsame⟩
  · have hfinal : dir₁ (.final b) = dir (.final b) := congrFun hsame b
    have hstore : dir₁.store = dir.store := hsame
    rw [WriteFaults.outcome, hstaged, writeBlock, bind_ok hrun, run_get_bind, hfinal]
    simp only [Bool.not_true, Bool.false_eq_true, if_false]
    by_cases hexists : ((dir (.final b)).isSome && !f.lookup) = true
    · obtain ⟨old, hold⟩ := Option.isSome_iff_exists.mp (Bool.and_eq_true .. ▸ hexists).1
      rw [if_pos hexists, if_pos hexists]
      by_cases haway : f.moveAway = true
      · simp only [haway, if_true, rename_fails, run_set_bind, Bool.not_false]
        exact ⟨_, dir₁, rfl, hstore⟩
      · have haway := Bool.eq_false_iff.mpr haway
        simp only [haway, rename_ok (hfinal.trans hold), run_set_bind, Bool.not_true,
          Bool.false_eq_true, if_false]
        set dir₂ : TempDir := Function.update (Function.update dir₁ (.final b) none) (.backup b)
          (some old) with hdir₂
        have hstore₂ : dir₂.store = Function.update dir.store b none := by
          rw [hdir₂, store_update_of_ne backup_ne_final, store_update_final, hstore]
        have hbackup : dir₂ (.backup b) = some old := Function.update_self ..
        have hpending : dir₂ (.pending b) = some data := hdata
        have hmoved : Moved f b data dir₂ true := moveIntoPlace_moved hpending fun _ => by
          rw [hbackup]
          rfl
        obtain ⟨hplaced, hrefused⟩ := hmoved
        by_cases hmove : f.moveIntoPlace = true
        · obtain ⟨e, dir', hrun', hsame'⟩ := hrefused hmove
          by_cases hrestore : f.restore = true
          · rw [if_neg (by simp [hmove]), if_pos hrestore]
            exact ⟨e, dir', hrun', by rw [hsame', hrestore, hstore₂]; rfl⟩
          · rw [if_neg (by simp [hmove]), if_neg hrestore]
            refine ⟨e, dir', hrun', ?_⟩
            rw [hsame', Bool.eq_false_iff.mpr hrestore, hstore₂, hbackup, ← hold]
            exact (Function.update_idem ..).trans (Function.update_eq_self b dir.store)
        · have hmove := Bool.eq_false_iff.mpr hmove
          obtain ⟨dir', hrun', hsame'⟩ := hplaced hmove
          rw [if_pos (by simp [hmove])]
          exact ⟨dir', hrun', by rw [hsame', hstore₂, Function.update_idem]⟩
    · rw [if_neg hexists, if_neg hexists]
      have hmoved : Moved f b data dir₁ false := moveIntoPlace_moved hdata fun h => nomatch h
      obtain ⟨hplaced, hrefused⟩ := hmoved
      by_cases hmove : f.moveIntoPlace = true
      · obtain ⟨e, dir', hrun', hsame'⟩ := hrefused hmove
        rw [if_pos hmove]
        exact ⟨e, dir', hrun', hsame'.trans hstore⟩
      · have hmove := Bool.eq_false_iff.mpr hmove
        obtain ⟨dir', hrun', hsame'⟩ := hplaced hmove
        rw [if_neg (by simp [hmove])]
        exact ⟨dir', hrun', by rw [hsame', hstore]⟩
  · rw [WriteFaults.outcome, hstaged]
    exact ⟨e, dir₁, bind_error hrun, hsame⟩

end Outcome

/-! ## Atomicity -/

/-- A write that succeeds gives the new data to a later read, and one that fails changes no read. -/
def WriteAtomic (f : WriteFaults) (dir : TempDir) (b : Nat) (data : Bytes) : Prop :=
  match writeBlock f b data dir with
  | .ok _ dir' => dir'.store.readBlock true b data.length = .ok data
  | .error _ dir' => ∀ ok len, dir'.store.readBlock ok b len = dir.store.readBlock ok b len

/-- The old file is moved away, and neither the new nor the old one can be moved into place. -/
structure LosesOld (f : WriteFaults) (dir : TempDir) (b : Nat) : Prop where
  staged : f.staged = true
  present : (dir (.final b)).isSome
  lookup : f.lookup = false
  moveAway : f.moveAway = false
  moveIntoPlace : f.moveIntoPlace = true
  restore : f.restore = true

theorem losesOld_iff {f : WriteFaults} {dir : TempDir} {b : Nat} :
    LosesOld f dir b ↔ f.outcome (dir (.final b)).isSome = .lost := by
  constructor
  · intro h
    simp [WriteFaults.outcome, h.staged, h.present, h.lookup, h.moveAway, h.moveIntoPlace,
      h.restore]
  · intro h
    unfold WriteFaults.outcome at h
    split at h
    · cases h
    rename_i hstaged
    split at h
    · rename_i hexists
      obtain ⟨hpresent, hlookup⟩ := Bool.and_eq_true_iff.mp hexists
      split at h
      · cases h
      split at h
      · cases h
      split at h
      · exact ⟨by simpa using hstaged, hpresent, by simpa using hlookup,
          by simpa using ‹¬ f.moveAway = true›, by simpa using ‹¬ (!f.moveIntoPlace) = true›, ‹_›⟩
      · cases h
    · split at h <;> cases h

theorem readBlock_present {temp : TempStore} {b : Nat} {data : Bytes} (h : temp b = some data)
    {len : Nat} (hlen : len ≤ data.length) : temp.readBlock true b len = .ok (data.take len) := by
  simp only [TempStore.readBlock, h, Bool.not_true, Bool.false_eq_true, if_false]
  exact if_neg (not_lt.mpr hlen)

theorem readBlock_absent {temp : TempStore} {b : Nat} (h : temp b = none) (len : Nat) :
    temp.readBlock true b len = .error (.tempIo "open temp file for read") := by
  simp only [TempStore.readBlock, h, Bool.not_true, Bool.false_eq_true, if_false]
  rfl

/-- **The write of a temp file is atomic** exactly unless the file system refuses to move the new
file into place and then to move the old one back. -/
theorem write_atomic_iff (f : WriteFaults) (dir : TempDir) (b : Nat) (data : Bytes) :
    WriteAtomic f dir b data ↔ ¬ LosesOld f dir b := by
  rw [losesOld_iff, WriteAtomic]
  have houtcome := @writeBlock_outcome f dir b data
  cases hcase : f.outcome (dir (.final b)).isSome with
  | written =>
    rw [hcase] at houtcome
    obtain ⟨dir', hrun, hstore⟩ := houtcome
    have hfile : dir'.store b = some data := by rw [hstore, Function.update_self]
    have hread := readBlock_present hfile le_rfl
    rw [List.take_length] at hread
    rw [hrun]
    exact ⟨fun _ h => (nomatch h), fun _ => hread⟩
  | failed =>
    rw [hcase] at houtcome
    obtain ⟨e, dir', hrun, hstore⟩ := houtcome
    rw [hrun]
    exact ⟨fun _ h => (nomatch h), fun _ ok len => by rw [hstore]⟩
  | lost =>
    rw [hcase] at houtcome
    obtain ⟨e, dir', hrun, hstore⟩ := houtcome
    rw [hrun]
    refine ⟨fun hatomic => ?_, fun h => absurd rfl h⟩
    obtain ⟨old, hold⟩ := Option.isSome_iff_exists.mp (losesOld_iff.mpr hcase).present
    have hfile : dir'.store b = none := by rw [hstore, Function.update_self]
    have hread := hatomic true 0
    rw [readBlock_absent hfile, @readBlock_present dir.store b old hold 0 (Nat.zero_le _)] at hread
    cases hread

/-- Block 0 has a file, and the file system refuses the two renames onto its name. -/
def refusedFaults : WriteFaults := { moveIntoPlace := true, restore := true }

def refusedDir : TempDir := fun path => if path = .final 0 then some [1] else none

/-- The old file is gone, although the write has failed. -/
theorem refused_loses_old : ¬ WriteAtomic refusedFaults refusedDir 0 [2] := by
  intro h
  have hread : (Except.error (.tempIo "open temp file for read") : Except CacheError Bytes) =
      .ok [1] := h true 1
  cases hread

end TempDir

/-! ## The writes of the cache -/

/-- **The write of a temp file as the cache sees it** is the one of the directory. -/
theorem writeBlock_refines (f : WriteFaults) (dir : TempDir) (b : Nat) (data : Bytes) (w : World)
    (hw : w.temp = dir.store) :
    match TempStore.writeBlock (f.outcome (dir (.final b)).isSome) b data w with
    | .ok _ w' => ∃ dir', TempDir.writeBlock f b data dir = .ok () dir' ∧ w'.temp = dir'.store
    | .error _ w' => ∃ e dir', TempDir.writeBlock f b data dir = .error e dir' ∧
      w'.temp = dir'.store := by
  have houtcome := @TempDir.writeBlock_outcome f dir b data
  cases hcase : f.outcome (dir (.final b)).isSome with
  | written =>
    rw [hcase] at houtcome
    obtain ⟨dir', hrun, hstore⟩ := houtcome
    exact ⟨dir', hrun, by rw [hstore, ← hw]⟩
  | failed =>
    rw [hcase] at houtcome
    obtain ⟨e, dir', hrun, hstore⟩ := houtcome
    exact ⟨e, dir', hrun, by rw [hstore, ← hw]⟩
  | lost =>
    rw [hcase] at houtcome
    obtain ⟨e, dir', hrun, hstore⟩ := houtcome
    exact ⟨e, dir', hrun, by rw [hstore, ← hw]⟩

end YumeDisk.Cache
