import Mathlib.Data.List.Range
import Mathlib.Logic.Relation
import YumeDisk.Cache.IndexedList

/-!
# Runs of the indexed list

The list seen by its callers: a plain sequence of values, each under the handle that `push_back`
gave for it.

* `Sound`: what the links, the slots and the length of a list that holds a sequence are.
* `ListOp.apply_spec`: one operation.
* `refines_sequence`: **a list that is used with live handles is that sequence.**
-/

namespace YumeDisk.Cache.IndexedList

/-- The values in order, with their handles. -/
abbrev Sequence := List (ListNodeId × Nat)

/-- The handles that were returned and not yet removed. -/
def handles (xs : Sequence) : List ListNodeId := xs.map Prod.fst

/-! ## The operations -/

inductive ListOp where
  | pushBack (value : Nat)
  | popFront
  | remove (handle : ListNodeId)
  | moveToBack (handle : ListNodeId)
  | frontValue
  | length
deriving DecidableEq

inductive ListAnswer where
  | handle (id : ListNodeId)
  | value (value : Option Nat)
  | moved (found : Bool)
  /-- `len` and `is_empty`. -/
  | length (len : Nat) (isEmpty : Bool)
deriving DecidableEq

namespace ListOp

/-- The operation on the list; `none` is a failed `unwrap`. -/
def apply (l : IndexedList) : ListOp → Option (ListAnswer × IndexedList)
  | pushBack value => (l.pushBack value).map fun r => (.handle r.1, r.2)
  | popFront => l.popFront.map fun r => (.value r.1, r.2)
  | remove handle => (l.remove handle).map fun r => (.value r.1, r.2)
  | moveToBack handle => (l.moveToBack handle).map fun r => (.moved r.1, r.2)
  | frontValue => some (.value l.frontValue, l)
  | length => some (.length l.len (l.len == 0), l)

/-- The handle that the operation is given is live. -/
def Live (xs : Sequence) : ListOp → Prop
  | remove handle => handle ∈ handles xs
  | moveToBack handle => handle ∈ handles xs
  | _ => True

/-- What a plain sequence answers; a new handle is any that is not live. -/
def Answers (xs : Sequence) : ListOp → ListAnswer → Prop
  | pushBack _, .handle id => id ∉ handles xs
  | popFront, .value v => v = xs.head?.map Prod.snd
  | remove handle, .value v => v = xs.lookup handle
  | moveToBack _, .moved found => found = true
  | frontValue, .value v => v = xs.head?.map Prod.snd
  | length, .length n isEmpty => n = xs.length ∧ isEmpty = xs.isEmpty
  | _, _ => False

/-- The sequence after the operation. -/
def next (xs : Sequence) : ListOp → ListAnswer → Sequence
  | pushBack value, .handle id => xs ++ [(id, value)]
  | popFront, _ => xs.tail
  | remove handle, _ => xs.filter (·.1 ≠ handle)
  | moveToBack handle, _ => xs.filter (·.1 ≠ handle) ++ xs.filter (·.1 = handle)
  | _, _ => xs

end ListOp

/-! ## What holds of the list -/

variable {l : IndexedList} {xs ys : Sequence} {i j : ListNodeId}

/-- Node `i` is linked to node `j`. -/
def Links (l : IndexedList) (i j : ListNodeId) : Prop := ∃ nd, l.node i = some nd ∧ nd.next = some j

/-- Node `j` is linked back to node `i`. -/
def LinksBack (l : IndexedList) (j i : ListNodeId) : Prop :=
  ∃ nd, l.node j = some nd ∧ nd.prev = some i

/-- The list holds `xs`. -/
structure Sound (l : IndexedList) (xs : Sequence) : Prop where
  inverse : ∀ i j, Links l i j ↔ LinksBack l j i
  acyclic : ∀ i, ¬ Relation.TransGen (Links l) i i
  /-- Along the links stand the values of the sequence. -/
  links : ∀ ys x zs, xs = ys ++ x :: zs →
    l.node x.1 = some ⟨x.2, ys.getLast?.map Prod.fst, zs.head?.map Prod.fst⟩
  ends : l.head = xs.head?.map Prod.fst ∧ l.tail = xs.getLast?.map Prod.fst
  len : l.len = l.nodes.countP Option.isSome ∧ l.len = xs.length
  /-- No two values have one slot. -/
  nodup : (handles xs).Nodup
  live : ∀ i, (l.node i).isSome ↔ i ∈ handles xs
  free : l.free.Nodup ∧ ∀ i ∈ l.free, i ∉ handles xs

theorem firstId_eq (xs : Sequence) : firstId xs none = xs.head?.map Prod.fst := by
  cases xs <;> rfl

theorem lastId_eq (xs : Sequence) : lastId none xs = xs.getLast?.map Prod.fst := by
  rcases List.eq_nil_or_concat' xs with rfl | ⟨ys, x, rfl⟩
  · rfl
  · simp

namespace Repr

theorem exists_split (hi : i ∈ handles xs) : ∃ ys v zs, xs = ys ++ (i, v) :: zs := by
  obtain ⟨⟨_, v⟩, hx, rfl⟩ := List.mem_map.mp hi
  obtain ⟨ys, zs, h⟩ := List.append_of_mem hx
  exact ⟨ys, v, zs, h⟩

theorem node_isSome (h : Repr l xs) : (l.node i).isSome ↔ i ∈ handles xs := by
  refine ⟨fun hi => ?_, fun hi => ?_⟩
  · by_contra hno
    rw [h.node_eq_none hno] at hi
    cases hi
  · obtain ⟨x, hx, rfl⟩ := List.mem_map.mp hi
    obtain ⟨q, m, hn⟩ := h.node_mem hx
    rw [node_eq hn]
    rfl

/-- A link goes from one value of the sequence to the one after it. -/
theorem links_iff (h : Repr l xs) :
    Links l i j ↔ ∃ ys v w zs, xs = ys ++ (i, v) :: (j, w) :: zs := by
  constructor
  · rintro ⟨nd, hnd, hnext⟩
    obtain ⟨ys, v, zs, rfl⟩ := exists_split (h.node_isSome.mp (Option.isSome_of_mem hnd))
    obtain rfl := Option.some.inj (hnd.symm.trans (node_eq h.node_at))
    cases zs with
    | nil => cases hnext
    | cons y zs =>
      obtain rfl := Option.some.inj hnext
      exact ⟨ys, v, y.2, zs, rfl⟩
  · rintro ⟨ys, v, w, zs, rfl⟩
    exact ⟨_, node_eq h.node_at, rfl⟩

theorem linksBack_iff (h : Repr l xs) :
    LinksBack l j i ↔ ∃ ys v w zs, xs = ys ++ (i, v) :: (j, w) :: zs := by
  constructor
  · rintro ⟨nd, hnd, hprev⟩
    obtain ⟨ys, w, zs, rfl⟩ := exists_split (h.node_isSome.mp (Option.isSome_of_mem hnd))
    obtain rfl := Option.some.inj (hnd.symm.trans (node_eq h.node_at))
    rcases List.eq_nil_or_concat' ys with rfl | ⟨us, x, rfl⟩
    · cases hprev
    · rw [lastId_concat] at hprev
      obtain rfl := Option.some.inj hprev
      exact ⟨us, x.2, w, zs, by simp⟩
  · rintro ⟨ys, v, w, zs, rfl⟩
    have h' : Repr l ((ys ++ [(i, v)]) ++ (j, w) :: zs) := by simpa using h
    exact ⟨_, node_eq h'.node_at, lastId_concat ..⟩

/-- Along a link the place in the sequence goes up. -/
theorem idxOf_lt (h : Repr l xs) (hl : Links l i j) :
    (handles xs).idxOf i < (handles xs).idxOf j := by
  obtain ⟨ys, v, w, zs, rfl⟩ := h.links_iff.mp hl
  have hnd := h.nodup
  have hi : i ∉ ys.map Prod.fst := by
    intro hm
    simp only [List.map_append, List.map_cons] at hnd
    exact (List.nodup_append.mp hnd).2.2 i hm i List.mem_cons_self rfl
  have hj : j ∉ ys.map Prod.fst ++ [i] := by
    intro hm
    simp only [List.map_append, List.map_cons] at hnd
    rw [show ys.map Prod.fst ++ i :: j :: zs.map Prod.fst =
      (ys.map Prod.fst ++ [i]) ++ j :: zs.map Prod.fst by simp] at hnd
    exact (List.nodup_append.mp hnd).2.2 j hm j List.mem_cons_self rfl
  have hij : i ≠ j := fun he => hj (he ▸ by simp)
  have hi' : (handles (ys ++ (i, v) :: (j, w) :: zs)).idxOf i = ys.length := by
    simp [handles, List.idxOf_append_of_notMem hi]
  have hj' : (handles (ys ++ (i, v) :: (j, w) :: zs)).idxOf j = ys.length + 1 := by
    have hjy : j ∉ ys.map Prod.fst := fun hm => hj (List.mem_append_left _ hm)
    simp [handles, List.idxOf_append_of_notMem hjy, List.idxOf_cons_ne _ hij]
  omega

theorem idxOf_lt_of_transGen (h : Repr l xs) (hl : Relation.TransGen (Links l) i j) :
    (handles xs).idxOf i < (handles xs).idxOf j := by
  induction hl with
  | single hl => exact h.idxOf_lt hl
  | tail _ hl ih => exact ih.trans (h.idxOf_lt hl)

/-- The nodes that are there are those of the sequence. -/
theorem countP_nodes (h : Repr l xs) : l.nodes.countP Option.isSome = xs.length := by
  have hnodes : l.nodes = (List.range l.nodes.length).map l.node := by
    refine List.ext_getElem (by simp) fun i hi _ => ?_
    simp [node, List.getElem?_eq_getElem hi]
  have hperm : ((List.range l.nodes.length).filter fun i => (l.node i).isSome).Perm
      (handles xs) := by
    refine (List.perm_ext_iff_of_nodup (List.nodup_range.filter _) h.nodup).mpr fun i => ?_
    rw [List.mem_filter, h.node_isSome]
    refine ⟨And.right, fun hi => ⟨?_, hi⟩⟩
    obtain ⟨x, hx, rfl⟩ := List.mem_map.mp hi
    obtain ⟨q, m, hn⟩ := h.node_mem hx
    exact List.mem_range.mpr (lt_of_getElem? hn)
  calc l.nodes.countP Option.isSome
      = ((List.range l.nodes.length).filter fun i => (l.node i).isSome).length := by
        conv_lhs => rw [hnodes]
        rw [List.countP_map, List.countP_eq_length_filter]
        rfl
    _ = (handles xs).length := hperm.length_eq
    _ = xs.length := List.length_map _

/-- **The links of a list that holds `xs`.** -/
theorem sound (h : Repr l xs) : Sound l xs where
  inverse i j := h.links_iff.trans h.linksBack_iff.symm
  acyclic i hl := Nat.lt_irrefl _ (h.idxOf_lt_of_transGen hl)
  links ys x zs hxs := by
    subst hxs
    rw [node_eq h.node_at, lastId_eq, firstId_eq]
  ends := ⟨h.head.trans (firstId_eq xs), h.tail.trans (lastId_eq xs)⟩
  len := ⟨h.len.trans h.countP_nodes.symm, h.len⟩
  nodup := h.nodup
  live i := h.node_isSome
  free := by
    refine ⟨h.free_nodup, fun i hi hm => ?_⟩
    obtain ⟨x, hx, rfl⟩ := List.mem_map.mp hm
    obtain ⟨q, m, hn⟩ := h.node_mem hx
    rw [(h.free _).mp hi] at hn
    cases hn

end Repr

/-! ## Runs -/

section Split

variable {v : Nat} {zs : Sequence} (h : (handles (ys ++ (i, v) :: zs)).Nodup)
include h

theorem ne_of_split : ∀ x ∈ ys ++ zs, x.1 ≠ i := by
  unfold handles at h
  rw [List.map_append, List.map_cons, List.nodup_middle, List.nodup_cons, ← List.map_append] at h
  exact fun x hx he => h.1 (List.mem_map.mpr ⟨x, hx, he⟩)

theorem filter_ne_split : (ys ++ (i, v) :: zs).filter (·.1 ≠ i) = ys ++ zs := by
  have hne := ne_of_split h
  rw [List.filter_append, List.filter_cons_of_neg (by simp), ← List.filter_append]
  exact List.filter_eq_self.mpr fun x hx => decide_eq_true (hne x hx)

theorem filter_eq_split : (ys ++ (i, v) :: zs).filter (·.1 = i) = [(i, v)] := by
  have hne := ne_of_split h
  have hnone : ∀ us : Sequence, us ⊆ ys ++ zs → us.filter (·.1 = i) = [] := fun us hus =>
    List.filter_eq_nil_iff.mpr fun x hx => by simpa using hne x (hus hx)
  rw [List.filter_append, List.filter_cons_of_pos (by simp),
    hnone ys (List.subset_append_left _ _), hnone zs (List.subset_append_right _ _),
    List.nil_append]

theorem lookup_split : (ys ++ (i, v) :: zs).lookup i = some v := by
  have hne := ne_of_split h
  have hnone : ys.lookup i = none := List.lookup_eq_none_iff.mpr fun x hx => by
    simpa using (hne x (List.mem_append_left _ hx)).symm
  rw [List.lookup_append, hnone]
  simp

end Split

/-- **One operation** does not fail, answers as the sequence does and holds the next one. -/
theorem ListOp.apply_spec (h : Repr l xs) {op : ListOp} (hlive : op.Live xs) :
    ∃ answer l', op.apply l = some (answer, l') ∧ op.Answers xs answer ∧
      Repr l' (op.next xs answer) := by
  cases op with
  | pushBack value =>
    obtain ⟨id, l', e, hid, h'⟩ := h.pushBack_spec value
    exact ⟨.handle id, l', by rw [apply, e]; rfl, hid, h'⟩
  | popFront =>
    cases xs with
    | nil =>
      refine ⟨.value none, l, ?_, rfl, h⟩
      rw [apply, IndexedList.popFront, h.head]
      rfl
    | cons x xs =>
      obtain ⟨l', e, h'⟩ := h.popFront_spec
      exact ⟨.value (some x.2), l', by rw [apply, e]; rfl, rfl, h'⟩
  | remove handle =>
    obtain ⟨ys, v, zs, rfl⟩ := Repr.exists_split hlive
    obtain ⟨l', e, h'⟩ := h.remove_spec
    refine ⟨.value (some v), l', by rw [apply, e]; rfl, (lookup_split h.nodup).symm, ?_⟩
    rw [next, filter_ne_split h.nodup]
    exact h'
  | moveToBack handle =>
    obtain ⟨ys, v, zs, rfl⟩ := Repr.exists_split hlive
    obtain ⟨l', e, h'⟩ := h.moveToBack_spec
    refine ⟨.moved true, l', by rw [apply, e]; rfl, rfl, ?_⟩
    rw [next, filter_ne_split h.nodup, filter_eq_split h.nodup]
    exact h'
  | frontValue => exact ⟨.value l.frontValue, l, rfl, h.frontValue_eq, h⟩
  | length =>
    refine ⟨.length l.len (l.len == 0), l, rfl, ⟨h.len, ?_⟩, h⟩
    rw [h.len]
    cases xs <;> rfl

/-- The list is sound, and stays so under the operations that are given live handles: each goes
through and answers as the sequence does. -/
def Refines (l : IndexedList) (xs : Sequence) : List ListOp → Prop
  | [] => Sound l xs
  | op :: ops => Sound l xs ∧ (op.Live xs →
      ∃ answer l', op.apply l = some (answer, l') ∧ op.Answers xs answer ∧
        Refines l' (op.next xs answer) ops)

theorem Repr.refines (h : Repr l xs) (ops : List ListOp) : Refines l xs ops := by
  induction ops generalizing l xs with
  | nil => exact h.sound
  | cons op ops ih =>
    refine ⟨h.sound, fun hlive => ?_⟩
    obtain ⟨answer, l', e, hanswer, h'⟩ := ListOp.apply_spec h hlive
    exact ⟨answer, l', e, hanswer, ih h'⟩

/-- **The list is a plain sequence with stable handles**, in every run whose handles are live. -/
theorem refines_sequence (ops : List ListOp) : Refines {} [] ops := repr_empty.refines ops

end YumeDisk.Cache.IndexedList
