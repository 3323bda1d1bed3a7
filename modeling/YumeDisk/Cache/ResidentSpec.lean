import YumeDisk.Cache.Resident

/-!
# What the methods of the resident do

`Queues r xs ys`: the two lists of `r` hold the sequences `xs` and `ys`, every resident block is in
exactly the queue its `queueRef` names, and no queue is over its capacity.  `Resident.WF` hides the
sequences.  Each method has one lemma: from a well formed resident it succeeds, leaves it well
formed, and changes the entries of `blocks` as stated.  None of them can return an error or panic.
-/

namespace YumeDisk.Cache.Resident

open YumeDisk.Lib

/-- The lists of `r` hold `xs` and `ys`, and agree with the entries. -/
structure Queues (r : Resident) (xs ys : List (ListNodeId × Nat)) : Prop where
  fifo : r.fifo.Repr xs
  lru : r.lru.Repr ys
  fifo_block : ∀ x ∈ xs, ∃ e, r.get x.2 = some e ∧ e.state.queueRef = .fifo x.1
  lru_block : ∀ y ∈ ys, ∃ e, r.get y.2 = some e ∧ e.state.queueRef = .lru y.1
  in_fifo : ∀ b e n, r.get b = some e → e.state.queueRef = .fifo n → (n, b) ∈ xs
  in_lru : ∀ b e n, r.get b = some e → e.state.queueRef = .lru n → (n, b) ∈ ys
  fifo_le : xs.length ≤ r.fifoCapacity
  lru_le : ys.length ≤ r.lruCapacity
  data_len : ∀ b e, r.get b = some e → e.data.length = r.blockSize

/-- A resident that `TwoQueueResident::new` and the methods can produce. -/
structure WF (r : Resident) : Prop where
  queues : ∃ xs ys, Queues r xs ys
  fifo_pos : 0 < r.fifoCapacity
  lru_pos : 0 < r.lruCapacity
  size_pos : 0 < r.blockSize

/-- The sizes never change. -/
def SameSizes (r r' : Resident) : Prop :=
  r'.blockSize = r.blockSize ∧ r'.fifoCapacity = r.fifoCapacity ∧ r'.lruCapacity = r.lruCapacity

theorem SameSizes.refl (r : Resident) : SameSizes r r := ⟨rfl, rfl, rfl⟩

theorem SameSizes.trans {r r' r'' : Resident} (h : SameSizes r r') (h' : SameSizes r' r'') :
    SameSizes r r'' := ⟨h'.1.trans h.1, h'.2.1.trans h.2.1, h'.2.2.trans h.2.2⟩

/-! ## Entries -/

section Get

variable {r : Resident} {b b' : Nat} {e : BlockEntry}

@[simp] theorem get_insert_self (m : HashMap BlockEntry) (f l : IndexedList) (bs fc lc : Nat) :
    get ⟨bs, fc, lc, m.insert b e, f, l⟩ b = some e := AList.lookup_insert _

theorem get_insert_of_ne (m : HashMap BlockEntry) (f l : IndexedList) (bs fc lc : Nat)
    (h : b' ≠ b) : get ⟨bs, fc, lc, m.insert b e, f, l⟩ b' = m.lookup b' :=
  AList.lookup_insert_ne h

@[simp] theorem get_erase_self (m : HashMap BlockEntry) (f l : IndexedList) (bs fc lc : Nat) :
    get ⟨bs, fc, lc, m.erase b, f, l⟩ b = none := AList.lookup_erase _ _

theorem get_erase_of_ne (m : HashMap BlockEntry) (f l : IndexedList) (bs fc lc : Nat)
    (h : b' ≠ b) : get ⟨bs, fc, lc, m.erase b, f, l⟩ b' = m.lookup b' :=
  AList.lookup_erase_ne h

/-- The entry is the new one, or one of another block. -/
theorem of_get_insert {m : HashMap BlockEntry} {f l : IndexedList} {bs fc lc : Nat}
    {e' : BlockEntry} (h : get ⟨bs, fc, lc, m.insert b e, f, l⟩ b' = some e') :
    b' = b ∧ e' = e ∨ m.lookup b' = some e' := by
  by_cases hb : b' = b
  · subst hb
    exact .inl ⟨rfl, (Option.some.inj ((get_insert_self ..).symm.trans h)).symm⟩
  · exact .inr ((get_insert_of_ne _ _ _ _ _ _ hb).symm.trans h)

/-- The entry is one of another block. -/
theorem of_get_erase {m : HashMap BlockEntry} {f l : IndexedList} {bs fc lc : Nat}
    (h : get ⟨bs, fc, lc, m.erase b, f, l⟩ b' = some e) : b' ≠ b ∧ m.lookup b' = some e := by
  by_cases hb : b' = b
  · subst hb
    cases (get_erase_self ..).symm.trans h
  · exact ⟨hb, (get_erase_of_ne _ _ _ _ _ _ hb).symm.trans h⟩

theorem get_eq_some_iff : r.get b = some e ↔ ⟨b, e⟩ ∈ r.blocks.entries := AList.mem_lookup_iff

/-- A quiescent resident holds clean blocks only. -/
theorem isQuiescent_iff : r.isQuiescent ↔ ∀ b e, r.get b = some e → e.isClean := by
  unfold isQuiescent
  rw [List.all_eq_true]
  constructor
  · intro h b e hb
    exact h ⟨b, e⟩ (get_eq_some_iff.mp hb)
  · rintro h ⟨b, e⟩ hm
    exact h b e (get_eq_some_iff.mpr hm)

theorem isClean_iff : e.isClean ↔ e.state.loadState = .ready ∧ e.state.dirtyRanges = [] ∧
    e.state.activeSnapshot = false ∧ e.state.pendingPatches = [] := by
  simp [BlockEntry.isClean, and_assoc]

theorem selectActiveSnapshotBlock_some {p : Nat → Bool}
    (h : r.selectActiveSnapshotBlock p = some b) :
    ∃ e, r.get b = some e ∧ e.state.loadState = .ready ∧ e.state.activeSnapshot ∧ p b := by
  have hm := List.min?_mem h
  obtain ⟨⟨b', e⟩, he, rfl⟩ := List.mem_map.mp hm
  obtain ⟨he, hp⟩ := List.mem_filter.mp he
  exact ⟨e, get_eq_some_iff.mpr he, by simpa [and_assoc] using hp⟩

theorem selectActiveSnapshotBlock_none {p : Nat → Bool} (h : r.selectActiveSnapshotBlock p = none)
    (hb : r.get b = some e) (hls : e.state.loadState = .ready) (hs : e.state.activeSnapshot) :
    ¬ p b := by
  intro hp
  rw [selectActiveSnapshotBlock, List.min?_eq_none_iff, List.map_eq_nil_iff,
    List.filter_eq_nil_iff] at h
  exact h ⟨b, e⟩ (get_eq_some_iff.mp hb) (by simp [hls, hs, hp])

/-- It is the least one. -/
theorem selectActiveSnapshotBlock_le {p : Nat → Bool} {c : Nat}
    (h : r.selectActiveSnapshotBlock p = some b) (hc : r.get c = some e)
    (hls : e.state.loadState = .ready) (hs : e.state.activeSnapshot) (hp : p c) : b ≤ c := by
  refine (List.min?_eq_some_iff.mp h).2 c (List.mem_map.mpr ⟨⟨c, e⟩, ?_, rfl⟩)
  exact List.mem_filter.mpr ⟨get_eq_some_iff.mp hc, by simp [hls, hs, hp]⟩

theorem selectSnapshotCandidate_some {p : Nat → Bool}
    (h : r.selectSnapshotCandidate p = some b) :
    ∃ e, r.get b = some e ∧ e.state.loadState = .ready ∧ e.state.activeSnapshot = false ∧
      e.state.dirtyRanges ≠ [] ∧ e.state.pendingPatches = [] := by
  have hm := List.min?_mem h
  obtain ⟨⟨b', e⟩, he, rfl⟩ := List.mem_map.mp hm
  obtain ⟨he, hp⟩ := List.mem_filter.mp he
  refine ⟨e, get_eq_some_iff.mpr he, ?_⟩
  simp only [Bool.and_eq_true, decide_eq_true_eq, Bool.not_eq_true', List.isEmpty_iff,
    List.isEmpty_eq_false_iff] at hp
  tauto

end Get

/-! ## Changing one entry -/

section Put

variable {r : Resident} {b : Nat} {e e' : BlockEntry} {xs ys : List (ListNodeId × Nat)}

/-- Replacing the entry of a block, in the same queue. -/
theorem Queues.put (h : Queues r xs ys) (hb : r.get b = some e)
    (hq : e'.state.queueRef = e.state.queueRef) (hlen : e'.data.length = e.data.length) :
    Queues { r with blocks := r.blocks.insert b e' } xs ys where
  fifo := h.fifo
  lru := h.lru
  fifo_block x hx := by
    obtain ⟨e₁, h₁, hq₁⟩ := h.fifo_block x hx
    by_cases hxb : x.2 = b
    · rw [hxb, hb] at h₁
      obtain rfl := Option.some.inj h₁
      exact ⟨e', by rw [hxb]; exact get_insert_self .., hq.trans hq₁⟩
    · exact ⟨e₁, (get_insert_of_ne _ _ _ _ _ _ hxb).trans h₁, hq₁⟩
  lru_block x hx := by
    obtain ⟨e₁, h₁, hq₁⟩ := h.lru_block x hx
    by_cases hxb : x.2 = b
    · rw [hxb, hb] at h₁
      obtain rfl := Option.some.inj h₁
      exact ⟨e', by rw [hxb]; exact get_insert_self .., hq.trans hq₁⟩
    · exact ⟨e₁, (get_insert_of_ne _ _ _ _ _ _ hxb).trans h₁, hq₁⟩
  in_fifo c e₁ n hc hn := by
    rcases of_get_insert hc with ⟨rfl, rfl⟩ | hc
    · exact h.in_fifo c e n hb (hq ▸ hn)
    · exact h.in_fifo c e₁ n hc hn
  in_lru c e₁ n hc hn := by
    rcases of_get_insert hc with ⟨rfl, rfl⟩ | hc
    · exact h.in_lru c e n hb (hq ▸ hn)
    · exact h.in_lru c e₁ n hc hn
  fifo_le := h.fifo_le
  lru_le := h.lru_le
  data_len c e₁ hc := by
    rcases of_get_insert hc with ⟨rfl, rfl⟩ | hc
    · exact hlen.trans (h.data_len c e hb)
    · exact h.data_len c e₁ hc

theorem WF.put (h : WF r) (hb : r.get b = some e) (hq : e'.state.queueRef = e.state.queueRef)
    (hlen : e'.data.length = e.data.length) : WF { r with blocks := r.blocks.insert b e' } := by
  obtain ⟨xs, ys, hqs⟩ := h.queues
  exact ⟨⟨xs, ys, hqs.put hb hq hlen⟩, h.fifo_pos, h.lru_pos, h.size_pos⟩

theorem WF.data_len (h : WF r) (hb : r.get b = some e) : e.data.length = r.blockSize := by
  obtain ⟨xs, ys, hqs⟩ := h.queues
  exact hqs.data_len b e hb

/-- A queue names a block once. -/
theorem Queues.fifo_inj (h : Queues r xs ys) {x : ListNodeId × Nat} {n : ListNodeId} (hx : x ∈ xs)
    (hn : (n, x.2) ∈ xs) : x.1 = n := by
  obtain ⟨e₁, h₁, hq₁⟩ := h.fifo_block x hx
  obtain ⟨e₂, h₂, hq₂⟩ := h.fifo_block _ hn
  rw [h₁] at h₂
  obtain rfl := Option.some.inj h₂
  exact QueueRef.fifo.inj (hq₁.symm.trans hq₂)

theorem Queues.lru_inj (h : Queues r xs ys) {y : ListNodeId × Nat} {n : ListNodeId} (hy : y ∈ ys)
    (hn : (n, y.2) ∈ ys) : y.1 = n := by
  obtain ⟨e₁, h₁, hq₁⟩ := h.lru_block y hy
  obtain ⟨e₂, h₂, hq₂⟩ := h.lru_block _ hn
  rw [h₁] at h₂
  obtain rfl := Option.some.inj h₂
  exact QueueRef.lru.inj (hq₁.symm.trans hq₂)

end Put

/-! ## Moving a block between the queues -/

section Move

variable {r : Resident} {b : Nat} {n : ListNodeId} {e : BlockEntry} {l : IndexedList}
  {xs ys zs : List (ListNodeId × Nat)}

/-- `Queues` reads the entries only through `get`. -/
theorem Queues.of_get {r' : Resident} (h : Queues r xs ys) (hg : ∀ b, r'.get b = r.get b)
    (hf : r'.fifo = r.fifo) (hl : r'.lru = r.lru) (hs : SameSizes r r') : Queues r' xs ys where
  fifo := hf ▸ h.fifo
  lru := hl ▸ h.lru
  fifo_block x hx := by rw [hg]; exact h.fifo_block x hx
  lru_block x hx := by rw [hg]; exact h.lru_block x hx
  in_fifo c e₁ n hc := h.in_fifo c e₁ n (hg c ▸ hc)
  in_lru c e₁ n hc := h.in_lru c e₁ n (hg c ▸ hc)
  fifo_le := hs.2.1 ▸ h.fifo_le
  lru_le := hs.2.2 ▸ h.lru_le
  data_len c e₁ hc := hs.1 ▸ h.data_len c e₁ (hg c ▸ hc)

theorem Queues.erase_fifo (h : Queues r (xs ++ (n, b) :: zs) ys) (hl : l.Repr (xs ++ zs)) :
    Queues { r with blocks := r.blocks.erase b, fifo := l } (xs ++ zs) ys := by
  have hmem : ∀ x ∈ xs ++ zs, x ∈ xs ++ (n, b) :: zs := by
    intro x hx
    simp only [List.mem_append, List.mem_cons] at hx ⊢
    tauto
  have hne : ∀ x ∈ xs ++ zs, x.2 ≠ b := by
    rintro ⟨m, c⟩ hx rfl
    obtain rfl := h.fifo_inj (x := (m, c)) (n := n) (hmem _ hx) (by simp)
    exact h.fifo.nodup_split.2 (List.mem_map_of_mem hx)
  obtain ⟨eb, hb, hqb⟩ := h.fifo_block (n, b) (by simp)
  refine ⟨hl, h.lru, fun x hx => ?_, fun y hy => ?_, fun c e₁ m hc hm => ?_, fun c e₁ m hc => ?_,
    ?_, h.lru_le, fun c e₁ hc => ?_⟩
  · rw [get_erase_of_ne _ _ _ _ _ _ (hne x hx)]
    exact h.fifo_block x (hmem x hx)
  · obtain ⟨e₁, h₁, hq₁⟩ := h.lru_block y hy
    have hyb : y.2 ≠ b := by
      intro he
      rw [he, hb] at h₁
      obtain rfl := Option.some.inj h₁
      rw [hqb] at hq₁
      cases hq₁
    rw [get_erase_of_ne _ _ _ _ _ _ hyb]
    exact ⟨e₁, h₁, hq₁⟩
  · obtain ⟨hcb, hc⟩ := of_get_erase hc
    have := h.in_fifo c e₁ m hc hm
    simp only [List.mem_append, List.mem_cons, Prod.mk.injEq] at this ⊢
    tauto
  · exact h.in_lru c e₁ m (of_get_erase hc).2
  · have := h.fifo_le
    simp only [List.length_append, List.length_cons] at this ⊢
    omega
  · exact h.data_len c e₁ (of_get_erase hc).2

theorem Queues.erase_lru (h : Queues r xs (ys ++ (n, b) :: zs)) (hl : l.Repr (ys ++ zs)) :
    Queues { r with blocks := r.blocks.erase b, lru := l } xs (ys ++ zs) := by
  have hmem : ∀ x ∈ ys ++ zs, x ∈ ys ++ (n, b) :: zs := by
    intro x hx
    simp only [List.mem_append, List.mem_cons] at hx ⊢
    tauto
  have hne : ∀ x ∈ ys ++ zs, x.2 ≠ b := by
    rintro ⟨m, c⟩ hx rfl
    obtain rfl := h.lru_inj (y := (m, c)) (n := n) (hmem _ hx) (by simp)
    exact h.lru.nodup_split.2 (List.mem_map_of_mem hx)
  obtain ⟨eb, hb, hqb⟩ := h.lru_block (n, b) (by simp)
  refine ⟨h.fifo, hl, fun x hx => ?_, fun y hy => ?_, fun c e₁ m hc => ?_, fun c e₁ m hc hm => ?_,
    h.fifo_le, ?_, fun c e₁ hc => ?_⟩
  · obtain ⟨e₁, h₁, hq₁⟩ := h.fifo_block x hx
    have hxb : x.2 ≠ b := by
      intro he
      rw [he, hb] at h₁
      obtain rfl := Option.some.inj h₁
      rw [hqb] at hq₁
      cases hq₁
    rw [get_erase_of_ne _ _ _ _ _ _ hxb]
    exact ⟨e₁, h₁, hq₁⟩
  · rw [get_erase_of_ne _ _ _ _ _ _ (hne y hy)]
    exact h.lru_block y (hmem y hy)
  · exact h.in_fifo c e₁ m (of_get_erase hc).2
  · obtain ⟨hcb, hc⟩ := of_get_erase hc
    have := h.in_lru c e₁ m hc hm
    simp only [List.mem_append, List.mem_cons, Prod.mk.injEq] at this ⊢
    tauto
  · have := h.lru_le
    simp only [List.length_append, List.length_cons] at this ⊢
    omega
  · exact h.data_len c e₁ (of_get_erase hc).2

/-- A block that is not resident enters at the back of a queue. -/
theorem Queues.insert_fifo (h : Queues r xs ys) (hb : r.get b = none)
    (hl : l.Repr (xs ++ [(n, b)])) (hq : e.state.queueRef = .fifo n)
    (hlen : e.data.length = r.blockSize) (hroom : xs.length < r.fifoCapacity) :
    Queues { r with blocks := r.blocks.insert b e, fifo := l } (xs ++ [(n, b)]) ys := by
  have hne : ∀ {c e₁}, r.get c = some e₁ → c ≠ b := by
    rintro c e₁ hc rfl
    rw [hb] at hc
    cases hc
  have hget : ∀ {c e₁}, r.get c = some e₁ →
      get { r with blocks := r.blocks.insert b e, fifo := l } c = some e₁ := fun hc =>
    (get_insert_of_ne _ _ _ _ _ _ (hne hc)).trans hc
  refine ⟨hl, h.lru, fun x hx => ?_, fun y hy => ?_, fun c e₁ m hc hm => ?_,
    fun c e₁ m hc hm => ?_, by simpa using Nat.succ_le_of_lt hroom, h.lru_le, fun c e₁ hc => ?_⟩
  · rcases List.mem_append.mp hx with hx | hx
    · obtain ⟨e₁, h₁, hq₁⟩ := h.fifo_block x hx
      exact ⟨e₁, hget h₁, hq₁⟩
    · obtain rfl := List.mem_singleton.mp hx
      exact ⟨e, get_insert_self .., hq⟩
  · obtain ⟨e₁, h₁, hq₁⟩ := h.lru_block y hy
    exact ⟨e₁, hget h₁, hq₁⟩
  · rcases of_get_insert hc with ⟨rfl, rfl⟩ | hc
    · rw [hq] at hm
      obtain rfl := QueueRef.fifo.inj hm
      simp
    · exact List.mem_append_left _ (h.in_fifo c e₁ m hc hm)
  · rcases of_get_insert hc with ⟨rfl, rfl⟩ | hc
    · rw [hq] at hm
      cases hm
    · exact h.in_lru c e₁ m hc hm
  · rcases of_get_insert hc with ⟨rfl, rfl⟩ | hc
    · exact hlen
    · exact h.data_len c e₁ hc

theorem Queues.insert_lru (h : Queues r xs ys) (hb : r.get b = none)
    (hl : l.Repr (ys ++ [(n, b)])) (hq : e.state.queueRef = .lru n)
    (hlen : e.data.length = r.blockSize) (hroom : ys.length < r.lruCapacity) :
    Queues { r with blocks := r.blocks.insert b e, lru := l } xs (ys ++ [(n, b)]) := by
  have hne : ∀ {c e₁}, r.get c = some e₁ → c ≠ b := by
    rintro c e₁ hc rfl
    rw [hb] at hc
    cases hc
  have hget : ∀ {c e₁}, r.get c = some e₁ →
      get { r with blocks := r.blocks.insert b e, lru := l } c = some e₁ := fun hc =>
    (get_insert_of_ne _ _ _ _ _ _ (hne hc)).trans hc
  refine ⟨h.fifo, hl, fun x hx => ?_, fun y hy => ?_, fun c e₁ m hc hm => ?_,
    fun c e₁ m hc hm => ?_, h.fifo_le, by simpa using Nat.succ_le_of_lt hroom, fun c e₁ hc => ?_⟩
  · obtain ⟨e₁, h₁, hq₁⟩ := h.fifo_block x hx
    exact ⟨e₁, hget h₁, hq₁⟩
  · rcases List.mem_append.mp hy with hy | hy
    · obtain ⟨e₁, h₁, hq₁⟩ := h.lru_block y hy
      exact ⟨e₁, hget h₁, hq₁⟩
    · obtain rfl := List.mem_singleton.mp hy
      exact ⟨e, get_insert_self .., hq⟩
  · rcases of_get_insert hc with ⟨rfl, rfl⟩ | hc
    · rw [hq] at hm
      cases hm
    · exact h.in_fifo c e₁ m hc hm
  · rcases of_get_insert hc with ⟨rfl, rfl⟩ | hc
    · rw [hq] at hm
      obtain rfl := QueueRef.lru.inj hm
      simp
    · exact List.mem_append_left _ (h.in_lru c e₁ m hc hm)
  · rcases of_get_insert hc with ⟨rfl, rfl⟩ | hc
    · exact hlen
    · exact h.data_len c e₁ hc

/-- A block of the FIFO goes to the back of the LRU. -/
theorem Queues.move_to_lru {lf : IndexedList} {m : ListNodeId}
    (h : Queues r (xs ++ (n, b) :: zs) ys) (hroom : ys.length < r.lruCapacity)
    (hf : lf.Repr (xs ++ zs)) (hl : l.Repr (ys ++ [(m, b)])) (he : r.get b = some e) :
    Queues { r with
      blocks := r.blocks.insert b { e with state := { e.state with queueRef := .lru m } }
      fifo := lf, lru := l } (xs ++ zs) (ys ++ [(m, b)]) := by
  have h₁ := h.erase_fifo hf
  have h₂ := h₁.insert_lru (e := { e with state := { e.state with queueRef := .lru m } })
    (get_erase_self ..) hl rfl (h.data_len b e he) hroom
  refine h₂.of_get (fun c => ?_) rfl rfl ⟨rfl, rfl, rfl⟩
  by_cases hcb : c = b
  · subst hcb
    rw [get_insert_self, get_insert_self]
  · rw [get_insert_of_ne _ _ _ _ _ _ hcb, get_insert_of_ne _ _ _ _ _ _ hcb]
    exact (AList.lookup_erase_ne hcb).symm

/-- A reordering of the LRU list. -/
theorem Queues.permute_lru (h : Queues r xs ys) (hl : l.Repr zs) (hp : ys.Perm zs) :
    Queues { r with lru := l } xs zs where
  fifo := h.fifo
  lru := hl
  fifo_block := h.fifo_block
  lru_block y hy := h.lru_block y (hp.mem_iff.mpr hy)
  in_fifo := h.in_fifo
  in_lru c e₁ m hc hm := hp.mem_iff.mp (h.in_lru c e₁ m hc hm)
  fifo_le := h.fifo_le
  lru_le := hp.length_eq ▸ h.lru_le
  data_len := h.data_len

end Move

end YumeDisk.Cache.Resident
