import YumeDisk.Cache.Places

/-!
# The invariant of the guarded state and the stores

`World.Inv g w`: the resident is well formed and the places of every block are in order.  `Frame`
is what a section leaves alone: every block that is not ready and not its own.
-/

namespace YumeDisk.Cache

open YumeDisk.Lib Resident

/-- What the invariant speaks of besides the world. -/
structure Ghost where
  blockSize : Nat
  maxFiles : Nat
  stale : TempStore
  logical : Nat → Bytes
  flush : Nat → Option Flush

namespace World

def view (w : World) (b : Nat) : Option View := w.state.resident.view b

def places (w : World) (g : Ghost) (b : Nat) : Places where
  view := w.view b
  spilled := w.state.spilledDirty.lookup b
  temp := w.temp b
  stale := g.stale b
  right := readAt w.right (b * g.blockSize) g.blockSize
  logical := g.logical b
  flush := g.flush b

/-- The blocks whose temp file is accounted for. -/
def tempFiles (w : World) : Finset Nat :=
  w.state.spilledDirty.keys.toFinset ∪ w.state.resident.snapshotBlocks

theorem mem_tempFiles {w : World} {b : Nat} (g : Ghost) :
    b ∈ w.tempFiles ↔ (w.places g b).Accounted := by
  rw [tempFiles, Finset.mem_union, List.mem_toFinset, ← AList.mem_keys, mem_snapshotBlocks,
    Places.Accounted, ← AList.lookup_isSome, Option.isSome_iff_ne_none, Option.any_eq_true]
  rfl

/-- A thread works on the temp file of `b`: the flush worker, or a call that rehydrates. -/
def Busy (g : Ghost) (w : World) (b : Nat) : Prop :=
  g.flush b ≠ none ∨ (w.view b).map View.loadState = some .rehydrating

structure Inv (g : Ghost) (w : World) : Prop where
  wf : w.state.resident.WF
  size : w.state.resident.blockSize = g.blockSize
  places : ∀ b, (w.places g b).Inv g.blockSize
  /-- The end of every block that is in memory or in a temp file is representable. -/
  bound : ∀ b, w.view b ≠ none ∨ w.state.spilledDirty.lookup b ≠ none →
    b * g.blockSize + g.blockSize < 2 ^ 64
  active : ∀ b, w.Busy g b ↔ b ∈ w.state.activeTempBlocks
  files : w.tempFiles.card ≤ g.maxFiles

/-- What `temp_file_count` counts. -/
theorem Inv.tempFileCount {g : Ghost} {w : World} (h : w.Inv g) :
    w.state.tempFileCount = w.tempFiles.card := by
  have hdisj : Disjoint w.state.spilledDirty.keys.toFinset w.state.resident.snapshotBlocks := by
    rw [Finset.disjoint_left]
    intro b hb hs
    obtain ⟨v, hv, hsnap⟩ := mem_snapshotBlocks.mp hs
    rw [List.mem_toFinset, ← AList.mem_keys, ← AList.lookup_isSome,
      Option.isSome_iff_ne_none] at hb
    rw [(h.places b).not_snapshot_of_spilled hb hv] at hsnap
    cases hsnap
  rw [tempFiles, Finset.card_union_of_disjoint hdisj, card_snapshotBlocks,
    List.toFinset_card_of_nodup w.state.spilledDirty.keys_nodup]
  rfl

end World

/-- No ready entry: nothing but a section of the block's own may change it. -/
def Places.NotReady (p : Places) : Prop := ∀ v, p.view = some v → v.loadState ≠ .ready

/-- Block `b` has no placeholder. -/
def World.NotLoading (w : World) (b : Nat) : Prop := ∀ v, w.view b = some v → v.loadState = .ready

/-- `w'` with `g'` is `w` with `g`, up to block `b` and to the ready blocks. -/
structure Others (g g' : Ghost) (b : Option Nat) (w w' : World) : Prop where
  stop : w'.state.stopRequested = w.state.stopRequested
  active : ∀ c, b ≠ some c → (c ∈ w'.state.activeTempBlocks ↔ c ∈ w.state.activeTempBlocks)
  places : ∀ c, b ≠ some c → (w.places g c).NotReady → w'.places g' c = w.places g c
  loading : ∀ c, b ≠ some c → w'.NotLoading c ∨ w'.view c = w.view c
  logical : ∀ c, b ≠ some c → g'.logical c = g.logical c
  /-- A temp file that is accounted for was so before, unless it is gone, or is new and holds the
  content. -/
  written : ∀ c, c ∈ w'.tempFiles →
    (c ∈ w.tempFiles ∧ (w'.temp c = w.temp c ∨ w'.temp c = none)) ∨
      (b ≠ some c ∧ w'.temp c = some (g'.logical c))

/-- The same for a section that does not end a flush: no temp file in use changes, and none is lost
from the accounts. -/
structure Changes (g g' : Ghost) (b : Option Nat) (w w' : World) : Prop
    extends Others g g' b w w' where
  temp : ∀ c, b = some c ∨ c ∈ w.state.activeTempBlocks → w'.temp c = w.temp c
  kept : ∀ c, c ∈ w.tempFiles → c ∈ w'.tempFiles

/-- The same for a section that leaves the waiters as they are. -/
structure Frame (g g' : Ghost) (b : Option Nat) (w w' : World) : Prop
    extends Changes g g' b w w' where
  waiters : w'.state.foregroundDirtyEvictionWaiters = w.state.foregroundDirtyEvictionWaiters

theorem Frame.refl (g : Ghost) (b : Option Nat) (w : World) : Frame g g b w w where
  stop := rfl
  active _ _ := .rfl
  places _ _ _ := rfl
  loading _ _ := .inr rfl
  logical _ _ := rfl
  written _ hc := .inl ⟨hc, .inl rfl⟩
  temp _ _ := rfl
  kept _ := id
  waiters := rfl

/-- The second of the two writes no temp file. -/
theorem Frame.trans {g g' g'' : Ghost} {b : Option Nat} {w w' w'' : World}
    (h : Frame g g' b w w') (h' : Frame g' g'' b w' w'') (htemp : w''.temp = w'.temp) :
    Frame g g'' b w w'' where
  stop := h'.stop.trans h.stop
  waiters := h'.waiters.trans h.waiters
  active c hc := (h'.active c hc).trans (h.active c hc)
  places c hc hn := by
    have h₁ := h.places c hc hn
    exact (h'.places c hc (h₁ ▸ hn)).trans h₁
  loading c hc := by
    rcases h'.loading c hc with hl | hv
    · exact .inl hl
    · rcases h.loading c hc with hl | hv'
      · exact .inl fun v hv'' => hl v (hv ▸ hv'')
      · exact .inr (hv.trans hv')
  logical c hc := (h'.logical c hc).trans (h.logical c hc)
  written c hc := by
    rcases h'.written c hc with ⟨hc', -⟩ | ht
    · rcases h.written c hc' with ⟨hc, ht⟩ | ⟨hb, ht⟩
      · exact .inl ⟨hc, by rw [htemp]; exact ht⟩
      · exact .inr ⟨hb, by rw [htemp, ht, h'.logical c hb]⟩
    · exact .inr ht
  temp c hc := by
    refine (h'.temp c ?_).trans (h.temp c hc)
    by_cases hb : b = some c
    · exact .inl hb
    · exact .inr ((h.active c hb).mpr (hc.resolve_left hb))
  kept c hc := h'.kept c (h.kept c hc)

/-- A section that leaves block `b` as it was. -/
theorem Frame.weaken {g : Ghost} {b : Nat} {w w' : World} (h : Frame g g none w w')
    (hb : w'.places g b = w.places g b) : Frame g g (some b) w w' where
  stop := h.stop
  waiters := h.waiters
  active c _ := h.active c (by simp)
  places c _ := h.places c (by simp)
  loading c _ := h.loading c (by simp)
  logical c _ := h.logical c (by simp)
  written c hc := by
    by_cases hcb : c = b
    · subst hcb
      refine .inl ⟨?_, .inl (congrArg Places.temp hb)⟩
      rwa [World.mem_tempFiles g, hb, ← World.mem_tempFiles g] at hc
    · exact (h.written c hc).imp_right fun ht => ⟨fun hbc =>
        hcb (Option.some.inj hbc).symm, ht.2⟩
  temp c hc := by
    rcases hc with hbc | hc
    · obtain rfl := Option.some.inj hbc
      exact congrArg Places.temp hb
    · exact h.temp c (.inr hc)
  kept := h.kept

/-- A fault that comes from outside: no panic, and no broken invariant. -/
def Fault.External : Fault → Prop
  | .panic => False
  | .error (.invariantViolation _) => False
  | .error _ => True

/-- A section without an error. -/
def NoFault (_ : Fault) (_ : World) : Prop := False

section Change

variable {g g' : Ghost} {w w' : World} {b : Nat} {v : View} {r : Resident} {f : Nat → Option View}

/-- A change of one block. -/
theorem World.Inv.change (h : w.Inv g) (hwf : w'.state.resident.WF)
    (hsize : w'.state.resident.blockSize = w.state.resident.blockSize)
    (hg : g'.blockSize = g.blockSize) (hmax : g'.maxFiles = g.maxFiles)
    (hother : ∀ c, c ≠ b → w'.places g' c = w.places g c)
    (hb : (w'.places g' b).Inv g.blockSize)
    (hbound : b * g.blockSize + g.blockSize < 2 ^ 64)
    (hact : ∀ c, c ≠ b → (c ∈ w'.state.activeTempBlocks ↔ c ∈ w.state.activeTempBlocks))
    (hbusy : w'.Busy g' b ↔ b ∈ w'.state.activeTempBlocks)
    (hfiles : (w'.places g' b).Accounted →
      (w.places g b).Accounted ∨ w.tempFiles.card < g.maxFiles) : w'.Inv g' where
  wf := hwf
  size := hsize.trans (h.size.trans hg.symm)
  places c := by
    rw [hg]
    by_cases hc : c = b
    · exact hc ▸ hb
    · rw [hother c hc]
      exact h.places c
  bound c hc := by
    rw [hg]
    by_cases hcb : c = b
    · exact hcb ▸ hbound
    · have hp := hother c hcb
      have hv : w'.view c = w.view c := congrArg Places.view hp
      have hs : w'.state.spilledDirty.lookup c = w.state.spilledDirty.lookup c :=
        congrArg Places.spilled hp
      rw [hv, hs] at hc
      exact h.bound c hc
  active c := by
    by_cases hcb : c = b
    · subst hcb
      exact hbusy
    · have hp := hother c hcb
      have hv : w'.view c = w.view c := congrArg Places.view hp
      have hf : g'.flush c = g.flush c := congrArg Places.flush hp
      rw [World.Busy, hv, hf, hact c hcb]
      exact h.active c
  files := by
    have hold : ∀ c, c ∈ w'.tempFiles → c ≠ b → c ∈ w.tempFiles := by
      intro c hc hcb
      rwa [World.mem_tempFiles g', hother c hcb, ← World.mem_tempFiles g] at hc
    rw [hmax]
    by_cases hin : b ∈ w'.tempFiles ∧ b ∉ w.tempFiles
    · obtain ⟨hb', hnot⟩ := hin
      rw [World.mem_tempFiles g] at hnot
      have hlt := (hfiles ((World.mem_tempFiles g').mp hb')).resolve_left hnot
      have hsub : w'.tempFiles ⊆ insert b w.tempFiles := by
        intro c hc
        by_cases hcb : c = b
        · exact hcb ▸ Finset.mem_insert_self ..
        · exact Finset.mem_insert_of_mem (hold c hc hcb)
      calc w'.tempFiles.card ≤ (insert b w.tempFiles).card := Finset.card_le_card hsub
        _ ≤ w.tempFiles.card + 1 := Finset.card_insert_le ..
        _ ≤ g.maxFiles := hlt
    · refine (Finset.card_le_card fun c hc => ?_).trans h.files
      by_cases hcb : c = b
      · subst hcb
        by_contra hnot
        exact hin ⟨hc, hnot⟩
      · exact hold c hc hcb

/-- A change of one block that writes no temp file. -/
theorem others_of_own (hstop : w'.state.stopRequested = w.state.stopRequested)
    (hact : ∀ c, c ≠ b → (c ∈ w'.state.activeTempBlocks ↔ c ∈ w.state.activeTempBlocks))
    (hother : ∀ c, c ≠ b → w'.places g' c = w.places g c)
    (htemp : w'.temp b = w.temp b ∨ w'.temp b = none)
    (hacc : (w'.places g' b).Accounted → (w.places g b).Accounted) :
    Others g g' (some b) w w' := by
  have hne : ∀ c, some b ≠ some c → c ≠ b := fun c hc hcb => hc (by rw [hcb])
  exact {
    stop := hstop
    active := fun c hc => hact c (hne c hc)
    places := fun c hc _ => hother c (hne c hc)
    loading := fun c hc => .inr (congrArg Places.view (hother c (hne c hc)))
    logical := fun c hc => congrArg Places.logical (hother c (hne c hc))
    written := fun c hc => by
      rw [World.mem_tempFiles g'] at hc
      rw [World.mem_tempFiles g]
      by_cases hcb : c = b
      · subst hcb
        exact .inl ⟨hacc hc, htemp⟩
      · rw [hother c hcb] at hc
        exact .inl ⟨hc, .inl (congrArg Places.temp (hother c hcb))⟩ }

/-- A change of one block that keeps its temp file. -/
theorem frame_of_own (hstop : w'.state.stopRequested = w.state.stopRequested)
    (hwaiters : w'.state.foregroundDirtyEvictionWaiters = w.state.foregroundDirtyEvictionWaiters)
    (hact : ∀ c, c ≠ b → (c ∈ w'.state.activeTempBlocks ↔ c ∈ w.state.activeTempBlocks))
    (hother : ∀ c, c ≠ b → w'.places g' c = w.places g c) (htemp : w'.temp b = w.temp b)
    (hacc : (w'.places g' b).Accounted ↔ (w.places g b).Accounted) :
    Frame g g' (some b) w w' where
  toOthers := others_of_own hstop hact hother (.inl htemp) hacc.mp
  waiters := hwaiters
  temp c _ := by
    by_cases hcb : c = b
    · exact hcb ▸ htemp
    · exact congrArg Places.temp (hother c hcb)
  kept c hc := by
    rw [World.mem_tempFiles g']
    rw [World.mem_tempFiles g] at hc
    by_cases hcb : c = b
    · subst hcb
      exact hacc.mpr hc
    · rwa [hother c hcb]

/-- A change of one ready block that no thread works on. -/
theorem frame_of_ready (hv : w.view b = some v) (hls : v.loadState = .ready)
    (hidle : b ∉ w.state.activeTempBlocks)
    (hstop : w'.state.stopRequested = w.state.stopRequested)
    (hwaiters : w'.state.foregroundDirtyEvictionWaiters = w.state.foregroundDirtyEvictionWaiters)
    (hact : w'.state.activeTempBlocks = w.state.activeTempBlocks)
    (hother : ∀ c, c ≠ b → w'.places g c = w.places g c) (hnl : w'.NotLoading b)
    (hkept : (w.places g b).Accounted → (w'.places g b).Accounted)
    (hwritten : (w'.places g b).Accounted →
      ((w.places g b).Accounted ∧ (w'.temp b = w.temp b ∨ w'.temp b = none)) ∨
        w'.temp b = some (g.logical b)) : Frame g g none w w' where
  stop := hstop
  waiters := hwaiters
  active c _ := by rw [hact]
  places c _ hn := by
    refine hother c ?_
    rintro rfl
    exact hn v hv hls
  loading c _ := by
    by_cases hcb : c = b
    · exact .inl (hcb ▸ hnl)
    · exact .inr (congrArg Places.view (hother c hcb))
  logical _ _ := rfl
  written c hc := by
    rw [World.mem_tempFiles g] at hc ⊢
    by_cases hcb : c = b
    · subst hcb
      exact (hwritten hc).imp_right fun ht => ⟨by simp, ht⟩
    · rw [hother c hcb] at hc
      exact .inl ⟨hc, .inl (congrArg Places.temp (hother c hcb))⟩
  temp c hc := by
    rcases hc with hc | hc
    · cases hc
    · refine congrArg Places.temp (hother c ?_)
      rintro rfl
      exact hidle hc
  kept c hc := by
    rw [World.mem_tempFiles g] at hc ⊢
    by_cases hcb : c = b
    · subst hcb
      exact hkept hc
    · rwa [hother c hcb]

/-- The world with another resident. -/
def World.withResident (w : World) (r : Resident) : World :=
  { w with state := { w.state with resident := r } }

/-- The world with another set of active temp blocks. -/
def World.withActive (w : World) (active : Finset Nat) : World :=
  { w with state := { w.state with activeTempBlocks := active } }

/-- A change of one block by a method of the resident, with its place in the active temp blocks. -/
theorem World.Inv.resident (h : w.Inv g) {x : Option View} {l : Bytes} {a : Finset Nat}
    (hr : Holds w.state.resident r (Function.update w.state.resident.view b x))
    (hb : { w.places g b with view := x, logical := l }.Inv g.blockSize)
    (hbound : b * g.blockSize + g.blockSize < 2 ^ 64)
    (hsnap : x.any View.activeSnapshot = (w.view b).any View.activeSnapshot)
    (hact : ∀ c, c ≠ b → (c ∈ a ↔ c ∈ w.state.activeTempBlocks))
    (hbusy : g.flush b ≠ none ∨ x.map View.loadState = some .rehydrating ↔ b ∈ a) :
    ((w.withActive a).withResident r).Inv
        { g with logical := Function.update g.logical b l } ∧
      Frame g { g with logical := Function.update g.logical b l } (some b) w
        ((w.withActive a).withResident r) ∧
      ((w.withActive a).withResident r).places
        { g with logical := Function.update g.logical b l } b =
        { w.places g b with view := x, logical := l } := by
  have hother : ∀ c, c ≠ b → ((w.withActive a).withResident r).places
      { g with logical := Function.update g.logical b l } c = w.places g c := by
    intro c hc
    simp only [World.places, World.view, World.withResident, World.withActive, hr.view,
      Function.update_of_ne hc]
  have hself : ((w.withActive a).withResident r).places
      { g with logical := Function.update g.logical b l } b =
      { w.places g b with view := x, logical := l } := by
    simp only [World.places, World.view, World.withResident, World.withActive, hr.view,
      Function.update_self]
  have hview : ((w.withActive a).withResident r).view b = x := congrArg Places.view hself
  have hacc : (((w.withActive a).withResident r).places
      { g with logical := Function.update g.logical b l } b).Accounted ↔
      (w.places g b).Accounted := by
    rw [hself]
    show _ ∨ x.any View.activeSnapshot = true ↔ _ ∨ (w.view b).any View.activeSnapshot = true
    rw [hsnap]
  exact ⟨h.change hr.wf hr.sizes.1 rfl rfl hother (hself ▸ hb) hbound hact
    (by rw [World.Busy, hview]; exact hbusy) (fun hx => .inl (hacc.mp hx)),
    frame_of_own rfl rfl hact hother rfl hacc, hself⟩

/-- The same, when the active temp blocks stay. -/
theorem World.Inv.resident_same (h : w.Inv g) {x : Option View} {l : Bytes}
    (hr : Holds w.state.resident r (Function.update w.state.resident.view b x))
    (hb : { w.places g b with view := x, logical := l }.Inv g.blockSize)
    (hbound : b * g.blockSize + g.blockSize < 2 ^ 64)
    (hsnap : x.any View.activeSnapshot = (w.view b).any View.activeSnapshot)
    (hls : x.map View.loadState = some .rehydrating ↔
      (w.view b).map View.loadState = some .rehydrating) :
    (w.withResident r).Inv { g with logical := Function.update g.logical b l } ∧
      Frame g { g with logical := Function.update g.logical b l } (some b) w (w.withResident r) ∧
      (w.withResident r).places { g with logical := Function.update g.logical b l } b =
        { w.places g b with view := x, logical := l } :=
  h.resident (a := w.state.activeTempBlocks) hr hb hbound hsnap (fun _ _ => .rfl)
    ((or_congr_right hls).trans (h.active b))

/-- The same, when the content of the block stays. -/
theorem World.Inv.resident' (h : w.Inv g) {x : Option View}
    (hr : Holds w.state.resident r (Function.update w.state.resident.view b x))
    (hb : { w.places g b with view := x }.Inv g.blockSize)
    (hbound : b * g.blockSize + g.blockSize < 2 ^ 64)
    (hsnap : x.any View.activeSnapshot = (w.view b).any View.activeSnapshot)
    (hls : x.map View.loadState = some .rehydrating ↔
      (w.view b).map View.loadState = some .rehydrating) :
    (w.withResident r).Inv g ∧ Frame g g (some b) w (w.withResident r) ∧
      (w.withResident r).places g b = { w.places g b with view := x } := by
  have := h.resident_same hr (l := g.logical b) hb hbound hsnap hls
  rwa [Function.update_eq_self] at this

/-- Dropping clean blocks. -/
theorem World.Inv.drops (h : w.Inv g) (hr : Holds w.state.resident r f)
    (hd : DropsClean w.state.resident.view f b) :
    (w.withResident r).Inv g ∧ Frame g g none w (w.withResident r) ∧
      (w.withResident r).places g b = w.places g b := by
  have hcase : ∀ c, (w.withResident r).places g c = w.places g c ∨
      (c ≠ b ∧ (w.withResident r).places g c = { w.places g c with view := none } ∧
        ∃ v, w.view c = some v ∧ v.Clean) := by
    intro c
    rcases hd c with hc | ⟨hcb, hc, hv⟩
    · left
      simp only [World.places, World.view, World.withResident, hr.view, hc]
    · right
      refine ⟨hcb, ?_, hv⟩
      simp only [World.places, World.view, World.withResident, hr.view, hc]
  have htemp : ∀ c, (w.withResident r).temp c = w.temp c := fun _ => rfl
  have hfiles : (w.withResident r).tempFiles = w.tempFiles := by
    ext c
    rw [World.mem_tempFiles g, World.mem_tempFiles g]
    rcases hcase c with hc | ⟨-, hc, v, hv, hclean⟩
    · rw [hc]
    · rw [hc]
      show _ ∨ (none : Option View).any View.activeSnapshot = true ↔
        _ ∨ (w.view c).any View.activeSnapshot = true
      simp [hv, hclean.no_snapshot]
  refine ⟨⟨hr.wf, hr.sizes.1.trans h.size, fun c => ?_, fun c hc => ?_, fun c => ?_, ?_⟩, {
    stop := rfl
    waiters := rfl
    active := fun _ _ => .rfl
    places := fun c _ hn => ?_
    loading := fun c _ => ?_
    logical := fun _ _ => rfl
    written := fun c hc => .inl ⟨hfiles ▸ hc, .inl (htemp c)⟩
    temp := fun c _ => htemp c
    kept := fun c hc => hfiles ▸ hc }, ?_⟩
  · rcases hcase c with hc | ⟨-, hc, v, hv, hclean⟩
    · rw [hc]
      exact h.places c
    · rw [hc]
      exact (h.places c).drop_clean hv hclean
  · refine h.bound c (hc.imp (fun hv => ?_) id)
    rcases hcase c with hc' | ⟨-, -, v, hv', -⟩
    · have hv' : (w.withResident r).view c = w.view c := congrArg Places.view hc'
      rwa [hv'] at hv
    · rw [hv']
      simp
  · refine Iff.trans (or_congr_right ?_) (h.active c)
    rcases hcase c with hc | ⟨-, hc, v, hv, hclean⟩
    · rw [show (w.withResident r).view c = w.view c from congrArg Places.view hc]
    · rw [show (w.withResident r).view c = none from congrArg Places.view hc, hv]
      simp [hclean.ready]
  · rw [hfiles]
    exact h.files
  · rcases hcase c with hc | ⟨-, -, v, hv, hclean⟩
    · exact hc
    · exact absurd hclean.ready (hn v hv)
  · rcases hcase c with hc | ⟨-, hc, -⟩
    · exact .inr (congrArg Places.view hc)
    · have hv : (w.withResident r).view c = none := congrArg Places.view hc
      exact .inl fun v hv' => by simp [hv] at hv'
  · rcases hcase b with hc | ⟨hne, -⟩
    · exact hc
    · exact absurd rfl hne

/-! ## Temp writes -/

/-- No thread works on the temp file of a block that is not active. -/
theorem World.Inv.not_flushing (h : w.Inv g) (hidle : b ∉ w.state.activeTempBlocks) :
    g.flush b = none := by
  by_contra hf
  exact hidle ((h.active b).mp (.inl hf))

theorem World.Inv.not_busy (h : w.Inv g) (hv : w.view b = some v) (hls : v.loadState = .ready)
    (hf : g.flush b = none) : b ∉ w.state.activeTempBlocks := by
  intro hact
  rcases (h.active b).mpr hact with hfl | hre
  · exact hfl hf
  · simp [hv, hls] at hre

/-- The bytes of a ready block go to its temp file, which becomes its snapshot. -/
theorem snapshot_spec (h : w.Inv g) {e : BlockEntry} (he : w.state.resident.get b = some e)
    (hls : e.state.loadState = .ready) (hidle : b ∉ w.state.activeTempBlocks)
    (hroom : e.state.activeSnapshot = true ∨ w.tempFiles.card < g.maxFiles) :
    ∃ w₁ w', TempStore.writeBlock .written b e.data w = .ok () w₁ ∧
      onResident (markSnapshotWritten b) w₁ = .ok () w' ∧ w'.Inv g ∧ Frame g g none w w' ∧
      w'.view b = some { e.view with activeSnapshot := true, dirtyRanges := [] } ∧
      ∃ e', w'.state.resident.get b = some e' ∧ e'.state.queueRef = e.state.queueRef := by
  have hv : w.view b = some e.view := view_eq_some.mpr ⟨e, he, rfl⟩
  have hf := h.not_flushing hidle
  obtain ⟨r, hr, hh, hq⟩ := markSnapshotWritten_spec h.wf he hls
  set w₁ : World := { w with temp := Function.update w.temp b (some e.data) } with hw₁
  have hother : ∀ c, c ≠ b → (w₁.withResident r).places g c = w.places g c := by
    intro c hc
    simp only [World.places, World.view, World.withResident, hw₁, hh.view,
      Function.update_of_ne hc]
  have hself : (w₁.withResident r).places g b = { w.places g b with
      view := some { e.view with activeSnapshot := true, dirtyRanges := [] }
      temp := some e.view.data } := by
    simp only [World.places, World.view, World.withResident, hw₁, hh.view, Function.update_self,
      BlockEntry.view]
  have hview : (w₁.withResident r).view b = _ := congrArg Places.view hself
  have hready := (h.places b).ready_of hv hls
  have hlen : e.view.data.length = g.blockSize := (h.wf.data_len he).trans h.size
  have hls' : e.view.loadState = .ready := hls
  refine ⟨w₁, w₁.withResident r, rfl, onResident_ok hr, h.change hh.wf hh.sizes.1 rfl rfl hother
    (hself ▸ (h.places b).snapshot hv hls hf hlen) (h.bound b (.inl (by rw [hv]; simp)))
    (fun _ _ => .rfl) ?_ fun _ => hroom.imp_left fun hs => .inr ?_,
    frame_of_ready hv hls hidle rfl rfl rfl hother (fun v hv' => ?_) (fun _ => hself ▸ .inr rfl)
      (fun _ => .inr ?_), hview, hq⟩
  · rw [World.Busy, hview]
    simp only [hf, hls', ne_eq, not_true_eq_false, Option.map_some, Option.some.injEq, reduceCtorEq,
      or_self, false_iff]
    exact hidle
  · show (w.view b).any View.activeSnapshot = true
    rw [hv]
    exact hs
  · obtain rfl := Option.some.inj (hview.symm.trans hv')
    exact hls
  · exact (congrArg Places.temp hself).trans (congrArg some hready.data)

/-- The write of a dirty block to its temp file fails: the file may be lost, the block is not. -/
theorem failed_write_spec (h : w.Inv g) {e : BlockEntry} (he : w.state.resident.get b = some e)
    (hls : e.state.loadState = .ready) (hd : e.state.dirtyRanges ≠ [])
    (hidle : b ∉ w.state.activeTempBlocks) {outcome : TempWrite} (hout : outcome ≠ .written) :
    ∃ reason w', TempStore.writeBlock outcome b e.data w = .error (.error (.tempIo reason)) w' ∧
      w'.Inv g ∧ Frame g g none w w' := by
  have hv : w.view b = some e.view := view_eq_some.mpr ⟨e, he, rfl⟩
  have hf := h.not_flushing hidle
  cases outcome with
  | written => exact absurd rfl hout
  | failed => exact ⟨_, w, rfl, h, .refl ..⟩
  | lost =>
    set w' : World := { w with temp := Function.update w.temp b none } with hw'
    have hother : ∀ c, c ≠ b → w'.places g c = w.places g c := by
      intro c hc
      simp only [World.places, World.view, hw', Function.update_of_ne hc]
    have hself : w'.places g b = { w.places g b with temp := none } := by
      simp only [World.places, World.view, hw', Function.update_self]
    refine ⟨_, w', rfl, h.change h.wf rfl rfl rfl hother
      (hself ▸ (h.places b).lose hv hls hf hd) (h.bound b (.inl (by rw [hv]; simp)))
      (fun _ _ => .rfl) (h.active b) fun hx => .inl ?_,
      frame_of_ready hv hls hidle rfl rfl rfl hother (fun v hv' => ?_) ?_ fun hx => .inl ⟨?_, .inr ?_⟩⟩
    · rwa [hself] at hx
    · obtain rfl := Option.some.inj (hv.symm.trans hv')
      exact hls
    · intro hx
      rwa [hself]
    · rwa [hself] at hx
    · exact congrArg Places.temp hself

end Change

end YumeDisk.Cache
