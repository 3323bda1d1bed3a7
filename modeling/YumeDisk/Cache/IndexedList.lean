import Mathlib.Data.List.Basic
import Mathlib.Data.List.Nodup

/-!
# The indexed list of the resident queues (`resident/list.rs`)

A doubly linked list whose nodes live in an arena (`nodes`, with a stack `free` of empty places)
and are named by their index.  The operations are the source's; `none` is a failed `unwrap`.

`Repr l xs` says that `l` holds the sequence `xs` of (node, value): the links of `l` run along `xs`
in both directions, and the places outside `xs` are empty and on the free stack.  Each operation
has one lemma that gives its outcome on `xs`, so that no user of the list looks at a link again.
-/

namespace YumeDisk.Cache

/-- `ListNodeId`: the index of a node in the arena. -/
abbrev ListNodeId := Nat

structure ListNode where
  value : Nat
  prev : Option ListNodeId
  next : Option ListNodeId
deriving DecidableEq, Repr

/-- `free` is the source's `Vec` used as a stack, its last element first. -/
structure IndexedList where
  nodes : List (Option ListNode) := []
  free : List Nat := []
  head : Option ListNodeId := none
  tail : Option ListNodeId := none
  len : Nat := 0
deriving Repr

namespace IndexedList

def node (l : IndexedList) (id : ListNodeId) : Option ListNode := (l.nodes[id]?).join

def frontValue (l : IndexedList) : Option Nat :=
  l.head.bind fun id => (l.node id).map ListNode.value

/-- `self.node_mut(id).unwrap()`, changed by `f`. -/
def modifyNode (l : IndexedList) (id : ListNodeId) (f : ListNode → ListNode) :
    Option IndexedList :=
  (l.node id).map fun nd => { l with nodes := l.nodes.set id (some (f nd)) }

def allocNode (l : IndexedList) (value : Nat) : ListNodeId × IndexedList :=
  match l.free with
  | index :: free =>
    (index, { l with free := free, nodes := l.nodes.set index (some ⟨value, none, none⟩) })
  | [] => (l.nodes.length, { l with nodes := l.nodes ++ [some ⟨value, none, none⟩] })

/-- The link out of the left neighbour `prev` (the head of the list if there is none). -/
def setNext (l : IndexedList) (prev next : Option ListNodeId) : Option IndexedList :=
  match prev with
  | some prev => l.modifyNode prev ({ · with next := next })
  | none => some { l with head := next }

/-- The link out of the right neighbour `next` (the tail of the list if there is none). -/
def setPrev (l : IndexedList) (next prev : Option ListNodeId) : Option IndexedList :=
  match next with
  | some next => l.modifyNode next ({ · with prev := prev })
  | none => some { l with tail := prev }

def pushBack (l : IndexedList) (value : Nat) : Option (ListNodeId × IndexedList) := do
  let (id, l) := l.allocNode value
  let oldTail := l.tail
  let l ← l.setNext oldTail (some id)
  let l ← l.modifyNode id ({ · with prev := oldTail, next := none })
  return (id, { l with tail := some id, len := l.len + 1 })

/-- The removed value, if the node was there. -/
def remove (l : IndexedList) (id : ListNodeId) : Option (Option Nat × IndexedList) :=
  match l.node id with
  | none => some (none, l)
  | some nd => do
    let l := { l with nodes := l.nodes.set id none }
    let l ← l.setNext nd.prev nd.next
    let l ← l.setPrev nd.next nd.prev
    return (some nd.value, { l with free := id :: l.free, len := l.len - 1 })

def popFront (l : IndexedList) : Option (Option Nat × IndexedList) :=
  match l.head with
  | none => some (none, l)
  | some head => l.remove head

def moveToBack (l : IndexedList) (id : ListNodeId) : Option (Bool × IndexedList) :=
  if l.tail = some id then some ((l.node id).isSome, l)
  else
    match l.node id with
    | none => some (false, l)
    | some nd => do
      let l ← l.setNext nd.prev nd.next
      -- the tail was excluded above, so a node without a right neighbour needs no link here
      let l ← if nd.next.isSome then l.setPrev nd.next nd.prev else some l
      let oldTail := l.tail
      let l ← l.modifyNode id ({ · with prev := oldTail, next := none })
      let l ← l.setNext oldTail (some id)
      return (true, { l with tail := some id })

/-! ## Segments of the arena -/

section Seg

abbrev Arena := List (Option ListNode)

/-- The first node of a sequence, or what comes after it. -/
def firstId (xs : List (ListNodeId × Nat)) (n : Option ListNodeId) : Option ListNodeId :=
  match xs with
  | [] => n
  | x :: _ => some x.1

/-- The last node of a sequence, or what comes before it. -/
def lastId (p : Option ListNodeId) : List (ListNodeId × Nat) → Option ListNodeId
  | [] => p
  | x :: xs => lastId (some x.1) xs

/-- The nodes of `xs` are linked in order, between the neighbours `p` and `n`. -/
def Seg (a : Arena) (p : Option ListNodeId) : List (ListNodeId × Nat) → Option ListNodeId → Prop
  | [], _ => True
  | x :: xs, n => a[x.1]? = some (some ⟨x.2, p, firstId xs n⟩) ∧ Seg a (some x.1) xs n

@[simp] theorem lastId_concat (p : Option ListNodeId) (xs : List (ListNodeId × Nat))
    (x : ListNodeId × Nat) : lastId p (xs ++ [x]) = some x.1 := by
  induction xs generalizing p with
  | nil => rfl
  | cons y xs ih => exact ih _

theorem lastId_append (p : Option ListNodeId) (xs ys : List (ListNodeId × Nat)) :
    lastId p (xs ++ ys) = lastId (lastId p xs) ys := by
  induction xs generalizing p with
  | nil => rfl
  | cons y xs ih => exact ih _

theorem firstId_append (xs ys : List (ListNodeId × Nat)) (n : Option ListNodeId) :
    firstId (xs ++ ys) n = firstId xs (firstId ys n) := by
  cases xs <;> rfl

theorem seg_append {a : Arena} {xs ys : List (ListNodeId × Nat)} {p n : Option ListNodeId} :
    Seg a p (xs ++ ys) n ↔ Seg a p xs (firstId ys n) ∧ Seg a (lastId p xs) ys n := by
  induction xs generalizing p with
  | nil => simp [Seg, lastId]
  | cons x xs ih => simp only [List.cons_append, Seg, ih, firstId_append, lastId, and_assoc]

/-- A segment reads only its own nodes. -/
theorem seg_congr {a a' : Arena} {xs : List (ListNodeId × Nat)} {p n : Option ListNodeId}
    (h : ∀ x ∈ xs, a'[x.1]? = a[x.1]?) (hs : Seg a p xs n) : Seg a' p xs n := by
  induction xs generalizing p with
  | nil => trivial
  | cons x xs ih =>
    refine ⟨?_, ih (fun y hy => h y (List.mem_cons_of_mem _ hy)) hs.2⟩
    rw [h x (List.mem_cons_self ..)]
    exact hs.1

theorem seg_mem {a : Arena} {xs : List (ListNodeId × Nat)} {p n : Option ListNodeId}
    (hs : Seg a p xs n) {x : ListNodeId × Nat} (hx : x ∈ xs) :
    ∃ q m, a[x.1]? = some (some ⟨x.2, q, m⟩) := by
  induction xs generalizing p with
  | nil => simp at hx
  | cons y xs ih =>
    rcases List.mem_cons.mp hx with rfl | hx
    · exact ⟨_, _, hs.1⟩
    · exact ih hs.2 hx

end Seg

/-! ## Changing one link -/

section Link

variable {l : IndexedList} {xs ys : List (ListNodeId × Nat)} {p n : Option ListNodeId}

theorem node_eq {i : ListNodeId} {nd : ListNode} (h : l.nodes[i]? = some (some nd)) :
    l.node i = some nd := by simp [node, h]

theorem modifyNode_eq {i : ListNodeId} {nd : ListNode} (h : l.nodes[i]? = some (some nd))
    (f : ListNode → ListNode) :
    l.modifyNode i f = some { l with nodes := l.nodes.set i (some (f nd)) } := by
  simp [modifyNode, node_eq h]

theorem lt_of_getElem? {a : Arena} {i : Nat} {o : Option ListNode} (h : a[i]? = some o) :
    i < a.length := (List.getElem?_eq_some_iff.mp h).1

/-- Relinking the right end of a segment: only its last node changes. -/
theorem setNext_spec (hs : Seg l.nodes none xs n) (hnd : (xs.map Prod.fst).Nodup)
    (hh : l.head = firstId xs n) (v : Option ListNodeId) :
    ∃ l', l.setNext (lastId none xs) v = some l' ∧ Seg l'.nodes none xs v ∧
      l'.head = firstId xs v ∧ l'.tail = l.tail ∧ l'.free = l.free ∧ l'.len = l.len ∧
      ∀ i, i ∉ xs.map Prod.fst → l'.nodes[i]? = l.nodes[i]? := by
  rcases List.eq_nil_or_concat' xs with rfl | ⟨zs, x, rfl⟩
  · exact ⟨_, rfl, trivial, rfl, rfl, rfl, rfl, fun _ _ => rfl⟩
  · obtain ⟨h1, h2⟩ := seg_append.mp hs
    have hx := h2.1
    have hne : ∀ y ∈ zs, x.1 ≠ y.1 := by
      intro y hy he
      simp only [List.map_append, List.map_cons, List.map_nil] at hnd
      exact (List.nodup_append.mp hnd).2.2 y.1 (List.mem_map_of_mem hy) x.1 (by simp) he.symm
    rw [lastId_concat]
    refine ⟨_, modifyNode_eq hx _, ?_, ?_, rfl, rfl, rfl, ?_⟩
    · refine seg_append.mpr ⟨seg_congr (fun y hy => ?_) h1, ?_, trivial⟩
      · exact List.getElem?_set_ne (hne y hy)
      · rw [List.getElem?_set_self (lt_of_getElem? hx)]
        rfl
    · rw [show l.head = _ from hh, firstId_append, firstId_append]
      rfl
    · intro i hi
      have : x.1 ≠ i := by
        rintro rfl
        simp at hi
      exact List.getElem?_set_ne this

/-- Relinking the left end of a segment: only its first node changes. -/
theorem setPrev_spec (hs : Seg l.nodes p ys none) (hnd : (ys.map Prod.fst).Nodup)
    (ht : l.tail = lastId p ys) (v : Option ListNodeId) :
    ∃ l', l.setPrev (firstId ys none) v = some l' ∧ Seg l'.nodes v ys none ∧
      l'.tail = lastId v ys ∧ l'.head = l.head ∧ l'.free = l.free ∧ l'.len = l.len ∧
      ∀ i, i ∉ ys.map Prod.fst → l'.nodes[i]? = l.nodes[i]? := by
  cases ys with
  | nil => exact ⟨_, rfl, trivial, rfl, rfl, rfl, rfl, fun _ _ => rfl⟩
  | cons y ys =>
    have hne : ∀ z ∈ ys, y.1 ≠ z.1 := by
      intro z hz he
      exact (List.nodup_cons.mp hnd).1 (he ▸ List.mem_map_of_mem hz)
    refine ⟨_, modifyNode_eq hs.1 _, ⟨?_, seg_congr (fun z hz => ?_) hs.2⟩, ht, rfl, rfl, rfl, ?_⟩
    · rw [List.getElem?_set_self (lt_of_getElem? hs.1)]
    · exact List.getElem?_set_ne (hne z hz)
    · intro i hi
      have : y.1 ≠ i := by
        rintro rfl
        simp at hi
      exact List.getElem?_set_ne this

/-- Linking the neighbours of `x` past it: the nodes outside `xs ++ ys` (that of `x` among them)
do not change. -/
theorem unlink_spec {x : ListNodeId} (h1 : Seg l.nodes none xs (some x))
    (h2 : Seg l.nodes (some x) ys none) (hnd : ((xs ++ ys).map Prod.fst).Nodup)
    (hh : l.head = firstId xs (some x)) (ht : l.tail = lastId (some x) ys) :
    ∃ l₁ l₂, l.setNext (lastId none xs) (firstId ys none) = some l₁ ∧
      l₁.setPrev (firstId ys none) (lastId none xs) = some l₂ ∧
      Seg l₂.nodes none (xs ++ ys) none ∧ l₂.head = firstId (xs ++ ys) none ∧
      l₂.tail = lastId none (xs ++ ys) ∧ l₂.free = l.free ∧ l₂.len = l.len ∧
      ∀ i, i ∉ (xs ++ ys).map Prod.fst → l₂.nodes[i]? = l.nodes[i]? := by
  rw [List.map_append] at hnd
  obtain ⟨hndx, hndy, hdisj⟩ := List.nodup_append.mp hnd
  obtain ⟨l₁, e₁, s₁, hh₁, ht₁, hf₁, hlen₁, hn₁⟩ :=
    setNext_spec h1 hndx hh (firstId ys none)
  have h2' : Seg l₁.nodes (some x) ys none := seg_congr (fun y hy =>
    hn₁ _ fun hm => hdisj _ hm _ (List.mem_map_of_mem hy) rfl) h2
  obtain ⟨l₂, e₂, s₂, ht₂, hh₂, hf₂, hlen₂, hn₂⟩ :=
    setPrev_spec h2' hndy (ht₁.trans ht) (lastId none xs)
  have s₁' : Seg l₂.nodes none xs (firstId ys none) := seg_congr (fun y hy =>
    hn₂ _ fun hm => hdisj _ (List.mem_map_of_mem hy) _ hm rfl) s₁
  refine ⟨l₁, l₂, e₁, e₂, seg_append.mpr ⟨s₁', s₂⟩, ?_, ?_, hf₂.trans hf₁, hlen₂.trans hlen₁, ?_⟩
  · rw [firstId_append]
    exact hh₂.trans hh₁
  · rw [lastId_append]
    exact ht₂
  · intro i hi
    simp only [List.map_append, List.mem_append, not_or] at hi
    rw [hn₂ i hi.2, hn₁ i hi.1]

end Link

/-! ## The sequence a list holds -/

/-- `l` holds the sequence `xs` of nodes and values. -/
structure Repr (l : IndexedList) (xs : List (ListNodeId × Nat)) : Prop where
  nodup : (xs.map Prod.fst).Nodup
  seg : Seg l.nodes none xs none
  head : l.head = firstId xs none
  tail : l.tail = lastId none xs
  len : l.len = xs.length
  live : ∀ i nd, l.nodes[i]? = some (some nd) → i ∈ xs.map Prod.fst
  free_nodup : l.free.Nodup
  free : ∀ i, i ∈ l.free ↔ l.nodes[i]? = some none

theorem repr_empty : Repr {} [] where
  nodup := by simp
  seg := trivial
  head := rfl
  tail := rfl
  len := rfl
  live := by simp
  free_nodup := by simp
  free := by simp

namespace Repr

variable {l : IndexedList} {xs ys : List (ListNodeId × Nat)} {x : ListNodeId × Nat}

theorem node_mem (h : Repr l xs) (hx : x ∈ xs) :
    ∃ q m, l.nodes[x.1]? = some (some ⟨x.2, q, m⟩) := seg_mem h.seg hx

theorem frontValue_eq (h : Repr l xs) : l.frontValue = xs.head?.map Prod.snd := by
  unfold frontValue
  rw [h.head]
  cases xs with
  | nil => rfl
  | cons x xs => simp [firstId, node_eq h.seg.1]

/-- A node that is not of the sequence is not there. -/
theorem node_eq_none (h : Repr l xs) {i : ListNodeId} (hi : i ∉ xs.map Prod.fst) :
    l.node i = none := by
  unfold node
  rcases hn : l.nodes[i]? with _ | _ | nd
  · rfl
  · rfl
  · exact absurd (h.live i nd hn) hi

/-- The node at the joint of two segments knows both neighbours. -/
theorem node_at (h : Repr l (xs ++ x :: ys)) :
    l.nodes[x.1]? = some (some ⟨x.2, lastId none xs, firstId ys none⟩) :=
  (seg_append.mp h.seg).2.1

/-- What the identifiers of a sequence with `x` in the middle say about the rest. -/
theorem nodup_split (h : Repr l (xs ++ x :: ys)) :
    ((xs ++ ys).map Prod.fst).Nodup ∧ x.1 ∉ (xs ++ ys).map Prod.fst := by
  have hnd := h.nodup
  rw [List.map_append, List.map_cons, List.nodup_middle, List.nodup_cons, ← List.map_append] at hnd
  exact ⟨hnd.2, hnd.1⟩

theorem remove_spec (h : Repr l (xs ++ x :: ys)) :
    ∃ l', l.remove x.1 = some (some x.2, l') ∧ Repr l' (xs ++ ys) := by
  obtain ⟨hnd, hx⟩ := h.nodup_split
  obtain ⟨h1, -, h2⟩ := seg_append.mp h.seg
  set l₀ : IndexedList := { l with nodes := l.nodes.set x.1 none } with hl₀
  have hl₀n : ∀ i, x.1 ≠ i → l₀.nodes[i]? = l.nodes[i]? := fun i hi => List.getElem?_set_ne hi
  have hne : ∀ y ∈ xs ++ ys, x.1 ≠ y.1 := fun y hy he => hx (he ▸ List.mem_map_of_mem hy)
  obtain ⟨l₁, l₂, e₁, e₂, hseg, hh, ht, hf, hlen, hout⟩ := unlink_spec (l := l₀)
    (seg_congr (fun y hy => hl₀n _ (hne y (List.mem_append_left _ hy))) h1)
    (seg_congr (fun y hy => hl₀n _ (hne y (List.mem_append_right _ hy))) h2) hnd
    (by rw [show l₀.head = _ from h.head, firstId_append]; rfl)
    (by rw [show l₀.tail = _ from h.tail, lastId_append]; rfl)
  have hx₂ : l₂.nodes[x.1]? = some none := by
    rw [hout x.1 hx]
    exact List.getElem?_set_self (lt_of_getElem? h.node_at)
  refine ⟨{ l₂ with free := x.1 :: l₂.free, len := l₂.len - 1 }, ?_, hnd, hseg, hh, ht, ?_, ?_, ?_, ?_⟩
  · simp only [remove, node_eq h.node_at, ← hl₀, e₁, e₂, Option.bind_eq_bind, Option.bind_some,
      Option.pure_def]
  · simp only [hlen, show l₀.len = _ from h.len, List.length_append, List.length_cons]
    omega
  · intro i nd hi
    by_contra hc
    have hix : x.1 ≠ i := by
      rintro rfl
      rw [hx₂] at hi
      cases hi
    rw [hout i hc, hl₀n i hix] at hi
    have := h.live i nd hi
    simp only [List.map_append, List.map_cons, List.mem_append, List.mem_cons] at this hc
    tauto
  · refine List.nodup_cons.mpr ⟨?_, hf ▸ h.free_nodup⟩
    rw [hf, show l₀.free = l.free from rfl, h.free, h.node_at]
    simp
  · intro i
    show i ∈ x.1 :: l₂.free ↔ l₂.nodes[i]? = some none
    rw [hf, show l₀.free = l.free from rfl, List.mem_cons, h.free]
    by_cases hix : i = x.1
    · subst hix
      simp [hx₂]
    · by_cases hin : i ∈ (xs ++ ys).map Prod.fst
      · obtain ⟨y, hy, rfl⟩ := List.mem_map.mp hin
        obtain ⟨q, m, hq⟩ := seg_mem hseg hy
        have hy' : y ∈ xs ++ x :: ys := by
          simp only [List.mem_append, List.mem_cons] at hy ⊢
          tauto
        obtain ⟨q', m', hq'⟩ := h.node_mem hy'
        rw [hq, hq']
        simp [hix]
      · rw [hout i hin, hl₀n i (Ne.symm hix)]
        simp [hix]

theorem popFront_spec (h : Repr l (x :: xs)) :
    ∃ l', l.popFront = some (some x.2, l') ∧ Repr l' xs := by
  obtain ⟨l', e, hr⟩ := remove_spec (show Repr l ([] ++ x :: xs) from h)
  refine ⟨l', ?_, hr⟩
  rw [popFront, h.head]
  exact e

/-- The tail of the list gets a new right neighbour: the last two steps of `pushBack` and of
`moveToBack`, for a node `i` that is not of the sequence. -/
theorem link_back {i : ListNodeId} {v : Nat} {q m : Option ListNodeId}
    (hnd : (xs.map Prod.fst).Nodup) (hi : i ∉ xs.map Prod.fst) (hs : Seg l.nodes none xs none)
    (hh : l.head = firstId xs none) (hn : l.nodes[i]? = some (some ⟨v, q, m⟩)) :
    ∃ l', l.setNext (lastId none xs) (some i) = some l' ∧ Seg l'.nodes none xs (some i) ∧
      l'.head = firstId (xs ++ [(i, v)]) none ∧ l'.free = l.free ∧ l'.len = l.len ∧
      l'.nodes[i]? = some (some ⟨v, q, m⟩) ∧
      ∀ j, j ∉ xs.map Prod.fst → l'.nodes[j]? = l.nodes[j]? := by
  obtain ⟨l', e, s, hh', -, hf, hlen, hout⟩ := setNext_spec hs hnd hh (some i)
  exact ⟨l', e, s, by rw [hh', firstId_append]; rfl, hf, hlen, (hout i hi).trans hn, hout⟩

/-- From the links to `Repr`: a list whose arena holds `xs ++ [x]` and whose free places are the
empty ones. -/
theorem of_links {x : ListNodeId × Nat} (hnd : ((xs ++ [x]).map Prod.fst).Nodup)
    (hs : Seg l.nodes none xs (some x.1))
    (hx : l.nodes[x.1]? = some (some ⟨x.2, lastId none xs, none⟩))
    (hh : l.head = firstId (xs ++ [x]) none) (ht : l.tail = some x.1)
    (hlen : l.len = xs.length + 1)
    (hlive : ∀ i nd, l.nodes[i]? = some (some nd) → i ∈ (xs ++ [x]).map Prod.fst)
    (hfn : l.free.Nodup) (hf : ∀ i, i ∈ l.free ↔ l.nodes[i]? = some none) :
    Repr l (xs ++ [x]) where
  nodup := hnd
  seg := seg_append.mpr ⟨hs, hx, trivial⟩
  head := hh
  tail := by rw [lastId_concat, ht]
  len := by simp [hlen]
  live := hlive
  free_nodup := hfn
  free := hf

theorem allocNode_spec (h : Repr l xs) (v : Nat) :
    ∃ id l', l.allocNode v = (id, l') ∧ id ∉ xs.map Prod.fst ∧ l'.head = l.head ∧
      l'.tail = l.tail ∧ l'.len = l.len ∧ l'.nodes[id]? = some (some ⟨v, none, none⟩) ∧
      (∀ i, i ≠ id → l'.nodes[i]? = l.nodes[i]?) ∧ l'.free.Nodup ∧
      ∀ i, i ∈ l'.free ↔ i ∈ l.free ∧ i ≠ id := by
  unfold allocNode
  cases hfree : l.free with
  | nil =>
    refine ⟨_, _, rfl, ?_, rfl, rfl, rfl, ?_, ?_, by simp, by simp⟩
    · intro hm
      obtain ⟨y, hy, he⟩ := List.mem_map.mp hm
      obtain ⟨q, m, hq⟩ := h.node_mem hy
      exact absurd (he ▸ lt_of_getElem? hq) (Nat.lt_irrefl l.nodes.length)
    · simp
    · intro i hi
      rcases Nat.lt_or_gt_of_ne hi with hlt | hgt
      · exact List.getElem?_append_left hlt
      · rw [List.getElem?_eq_none (by simp; omega), List.getElem?_eq_none (by omega)]
  | cons j free =>
    have hnd := h.free_nodup
    rw [hfree] at hnd
    obtain ⟨hj, hnd⟩ := List.nodup_cons.mp hnd
    have hnone := (h.free j).mp (by simp [hfree])
    refine ⟨_, _, rfl, ?_, rfl, rfl, rfl, ?_, ?_, hnd, ?_⟩
    · intro hm
      obtain ⟨y, hy, rfl⟩ := List.mem_map.mp hm
      obtain ⟨q, m, hq⟩ := h.node_mem hy
      rw [hq] at hnone
      cases hnone
    · exact List.getElem?_set_self (lt_of_getElem? hnone)
    · intro i hi
      exact List.getElem?_set_ne hi.symm
    · intro i
      simp only [List.mem_cons]
      constructor
      · intro hi
        exact ⟨.inr hi, fun he => hj (he ▸ hi)⟩
      · rintro ⟨rfl | hi, hne⟩
        · exact absurd rfl hne
        · exact hi

theorem pushBack_spec (h : Repr l xs) (v : Nat) :
    ∃ id l', l.pushBack v = some (id, l') ∧ id ∉ xs.map Prod.fst ∧ Repr l' (xs ++ [(id, v)]) := by
  obtain ⟨id, l₁, e₁, hid, hh₁, ht₁, hlen₁, hn₁, hout₁, hfn₁, hf₁⟩ := h.allocNode_spec v
  have hne : ∀ y ∈ xs, y.1 ≠ id := fun y hy he => hid (he ▸ List.mem_map_of_mem hy)
  obtain ⟨l₂, e₂, s₂, hh₂, hf₂, hlen₂, hn₂, hout₂⟩ := link_back (l := l₁) h.nodup hid
    (seg_congr (fun y hy => hout₁ _ (hne y hy)) h.seg) (hh₁.trans h.head) hn₁
  have e₃ := modifyNode_eq hn₂ ({ · with prev := lastId none xs, next := none })
  let nodes := l₂.nodes.set id (some ⟨v, lastId none xs, none⟩)
  refine ⟨id, { l₂ with nodes := nodes, tail := some id, len := l₂.len + 1 }, ?_, hid,
    of_links (x := (id, v)) ?_ ?_ ?_ hh₂ rfl ?_ ?_ ?_ ?_⟩
  · simp only [pushBack, e₁, show l₁.tail = _ from ht₁.trans h.tail, e₂, e₃, Option.bind_eq_bind,
      Option.bind_some, Option.pure_def, nodes]
  · rw [List.map_append]
    refine List.nodup_append.mpr ⟨h.nodup, by simp, ?_⟩
    intro a ha b hb hab
    obtain rfl : b = id := by simpa using hb
    exact hid (hab ▸ ha)
  · exact seg_congr (fun y hy => List.getElem?_set_ne (hne y hy).symm) s₂
  · exact List.getElem?_set_self (lt_of_getElem? hn₂)
  · simp [hlen₂, hlen₁, h.len]
  · intro i nd hi
    simp only [List.map_append, List.mem_append, List.map_cons, List.map_nil, List.mem_singleton]
    by_contra hc
    rw [not_or] at hc
    have hi' : nodes[i]? = some (some nd) := hi
    rw [List.getElem?_set_ne (Ne.symm hc.2), hout₂ i hc.1, hout₁ i hc.2] at hi'
    exact hc.1 (h.live i nd hi')
  · exact hf₂ ▸ hfn₁
  · intro i
    show i ∈ l₂.free ↔ (l₂.nodes.set id _)[i]? = some none
    rw [hf₂, hf₁, h.free]
    by_cases hii : i = id
    · subst hii
      simp [List.getElem?_set_self (lt_of_getElem? hn₂)]
    · rw [List.getElem?_set_ne (Ne.symm hii)]
      by_cases hin : i ∈ xs.map Prod.fst
      · obtain ⟨y, hy, rfl⟩ := List.mem_map.mp hin
        obtain ⟨q, m, hq⟩ := seg_mem s₂ hy
        obtain ⟨q', m', hq'⟩ := h.node_mem hy
        simp [hq, hq']
      · rw [hout₂ i hin, hout₁ i hii]
        simp [hii]

theorem moveToBack_spec (h : Repr l (xs ++ x :: ys)) :
    ∃ l', l.moveToBack x.1 = some (true, l') ∧ Repr l' (xs ++ ys ++ [x]) := by
  obtain ⟨hnd, hx⟩ := h.nodup_split
  obtain ⟨h1, hxn, h2⟩ := seg_append.mp h.seg
  cases ys with
  | nil =>
    -- the node is the tail: nothing moves
    refine ⟨l, ?_, by simpa using h⟩
    rw [moveToBack, if_pos (by rw [h.tail, lastId_concat]), node_eq hxn]
    rfl
  | cons y ys =>
    have htail : l.tail ≠ some x.1 := by
      rw [h.tail, lastId_append]
      rcases List.eq_nil_or_concat' (y :: ys) with he | ⟨zs, z, hz⟩
      · cases he
      · have hzm : z ∈ xs ++ y :: ys := by simp [hz]
        rw [show x :: y :: ys = [x] ++ (y :: ys) from rfl, hz, ← List.append_assoc, lastId_concat]
        intro he
        exact hx (Option.some.inj he ▸ List.mem_map_of_mem hzm)
    obtain ⟨l₁, l₂, e₁, e₂, s₂, hh₂, ht₂, hf₂, hlen₂, hout₂⟩ := unlink_spec h1 h2 hnd
      (by rw [h.head, firstId_append]; rfl) (by rw [h.tail, lastId_append]; rfl)
    have hx₂ := (hout₂ x.1 hx).trans hxn
    let nd : ListNode := ⟨x.2, lastId none (xs ++ y :: ys), none⟩
    set l₃ : IndexedList := { l₂ with nodes := l₂.nodes.set x.1 (some nd) } with hl₃
    have e₃ : l₂.modifyNode x.1 ({ · with prev := lastId none (xs ++ y :: ys), next := none }) =
        some l₃ := modifyNode_eq hx₂ _
    have hout₃ : ∀ i, x.1 ≠ i → l₃.nodes[i]? = l₂.nodes[i]? := fun i hi => List.getElem?_set_ne hi
    have hx₃ : l₃.nodes[x.1]? = some (some ⟨x.2, lastId none (xs ++ y :: ys), none⟩) :=
      List.getElem?_set_self (lt_of_getElem? hx₂)
    have hne : ∀ z ∈ xs ++ y :: ys, x.1 ≠ z.1 := fun z hz he => hx (he ▸ List.mem_map_of_mem hz)
    obtain ⟨l₄, e₄, s₄, hh₄, hf₄, hlen₄, hn₄, hout₄⟩ := link_back (l := l₃) hnd hx
      (seg_congr (fun z hz => hout₃ _ (hne z hz)) s₂) hh₂ hx₃
    refine ⟨{ l₄ with tail := some x.1 }, ?_, of_links ?_ s₄ hn₄ hh₄ rfl ?_ ?_ ?_ ?_⟩
    · rw [moveToBack, if_neg htail, node_eq hxn]
      simp only [e₁, e₂, show (firstId (y :: ys) none).isSome from rfl, if_true, ht₂, e₃, e₄,
        Option.bind_eq_bind, Option.bind_some, Option.pure_def]
    · rw [List.map_append]
      refine List.nodup_append.mpr ⟨hnd, by simp, ?_⟩
      intro a ha b hb hab
      obtain rfl : b = x.1 := by simpa using hb
      exact hx (hab ▸ ha)
    · simp only [hlen₄, show l₃.len = _ from hlen₂, h.len, List.length_append, List.length_cons]
      omega
    · intro i nd hi
      rw [List.map_append, List.mem_append, List.map_cons, List.map_nil, List.mem_singleton]
      by_contra hc
      rw [not_or] at hc
      have hi' : l₄.nodes[i]? = some (some nd) := hi
      rw [hout₄ i hc.1, hout₃ i (Ne.symm hc.2), hout₂ i hc.1] at hi'
      have := h.live i nd hi'
      simp only [List.map_append, List.map_cons, List.mem_append, List.mem_cons] at this hc
      tauto
    · exact hf₄ ▸ hf₂ ▸ h.free_nodup
    · intro i
      show i ∈ l₄.free ↔ l₄.nodes[i]? = some none
      rw [hf₄, show l₃.free = _ from hf₂, h.free]
      by_cases hix : i = x.1
      · subst hix
        simp [hn₄, hxn]
      · by_cases hin : i ∈ (xs ++ y :: ys).map Prod.fst
        · obtain ⟨z, hz, rfl⟩ := List.mem_map.mp hin
          obtain ⟨q, m, hq⟩ := seg_mem s₄ hz
          have hz' : z ∈ xs ++ x :: y :: ys := by
            simp only [List.mem_append, List.mem_cons] at hz ⊢
            tauto
          obtain ⟨q', m', hq'⟩ := h.node_mem hz'
          rw [hq, hq']
          simp
        · rw [hout₄ i hin, hout₃ i (Ne.symm hix), hout₂ i hin]

end Repr

end IndexedList

end YumeDisk.Cache
