import Mathlib.Data.List.Basic
import Mathlib.Data.List.Nodup

/-!
# Linearizability of a history against a sequential object

A history is the sequence of invocations and responses of operations.  A response `none` is a
failure: the operation must then take no effect at all.  `Linearization apply s₀ h lin` says that
`lin` orders exactly the operations of `h` that succeeded, that every one of them returns what the
sequential object returns at its place, and that an operation which responded before another was
invoked comes first.

`linearization_of_responses`: when every successful response is already what the object returns
after the earlier successful responses, the order of the responses is a linearization.
-/

namespace YumeDisk.Lib

/-- An event of a history; a response repeats the operation it answers. -/
inductive HistEvent (ι Op Ret : Type) where
  | invoke (i : ι) (op : Op)
  | respond (i : ι) (op : Op) (r : Option Ret)

/-- `x` stands before `y` in `l`. -/
def Precedes {γ : Type} (l : List γ) (x y : γ) : Prop :=
  ∃ l₁ l₂ l₃, l = l₁ ++ x :: (l₂ ++ y :: l₃)

variable {ι Op Ret S : Type}

/-- The histories in which no identifier is used twice and every response answers an invocation. -/
inductive WellFormed : List (HistEvent ι Op Ret) → Prop where
  | nil : WellFormed []
  | invoke {h i op} : WellFormed h → (∀ op', HistEvent.invoke i op' ∉ h) →
      WellFormed (h ++ [.invoke i op])
  | respond {h i op r} : WellFormed h → HistEvent.invoke i op ∈ h →
      (∀ op' r', HistEvent.respond i op' r' ∉ h) → WellFormed (h ++ [.respond i op r])

/-- The successful responses, in the order in which they were given. -/
def okResponses (h : List (HistEvent ι Op Ret)) : List (ι × Op × Ret) :=
  h.filterMap fun
    | .respond i op (some r) => some (i, op, r)
    | _ => none

section Object

variable (apply : S → Op → S × Ret)

/-- The state of the object after the operations of `l`. -/
def stateAfter (s : S) (l : List (ι × Op × Ret)) : S :=
  l.foldl (fun s x => (apply s x.2.1).1) s

/-- Every operation of `l` returns what the object returns at its place. -/
def Legal (s : S) : List (ι × Op × Ret) → Prop
  | [] => True
  | x :: l => (apply s x.2.1).2 = x.2.2 ∧ Legal (apply s x.2.1).1 l

/-- `lin` is a linearization of the history `h` of the object started in `s₀`. -/
structure Linearization (s₀ : S) (h : List (HistEvent ι Op Ret)) (lin : List (ι × Op × Ret)) :
    Prop where
  nodup : (lin.map Prod.fst).Nodup
  legal : Legal apply s₀ lin
  exact_ok : ∀ i op r, (i, op, r) ∈ lin ↔ HistEvent.respond i op (some r) ∈ h
  realtime : ∀ i op r j op' r', (j, op', r') ∈ lin →
    Precedes h (.respond i op (some r)) (.invoke j op') → Precedes lin (i, op, r) (j, op', r')

variable {apply}

theorem stateAfter_concat (s : S) (l : List (ι × Op × Ret)) (x : ι × Op × Ret) :
    stateAfter apply s (l ++ [x]) = (apply (stateAfter apply s l) x.2.1).1 := by
  simp [stateAfter, List.foldl_append]

theorem legal_concat {s : S} {l : List (ι × Op × Ret)} {x : ι × Op × Ret} :
    Legal apply s (l ++ [x]) ↔
      Legal apply s l ∧ (apply (stateAfter apply s l) x.2.1).2 = x.2.2 := by
  induction l generalizing s with
  | nil => simp [Legal, stateAfter]
  | cons y l ih => simp only [List.cons_append, Legal, ih, and_assoc]; rfl

end Object

/-! ## Successful responses -/

theorem mem_okResponses {h : List (HistEvent ι Op Ret)} {i : ι} {op : Op} {r : Ret} :
    (i, op, r) ∈ okResponses h ↔ HistEvent.respond i op (some r) ∈ h := by
  unfold okResponses
  rw [List.mem_filterMap]
  constructor
  · rintro ⟨e, he, hx⟩
    cases e with
    | invoke j op' => simp at hx
    | respond j op' r' =>
      cases r' with
      | none => simp at hx
      | some r' =>
        obtain ⟨rfl, rfl, rfl⟩ : j = i ∧ op' = op ∧ r' = r := by simpa using hx
        exact he
  · intro he
    exact ⟨_, he, rfl⟩

@[simp] theorem okResponses_append (h h' : List (HistEvent ι Op Ret)) :
    okResponses (h ++ h') = okResponses h ++ okResponses h' := by
  simp [okResponses, List.filterMap_append]

@[simp] theorem okResponses_nil : okResponses ([] : List (HistEvent ι Op Ret)) = [] := rfl

@[simp] theorem okResponses_invoke (i : ι) (op : Op) (h : List (HistEvent ι Op Ret)) :
    okResponses (.invoke i op :: h) = okResponses h := rfl

@[simp] theorem okResponses_ok (i : ι) (op : Op) (r : Ret) (h : List (HistEvent ι Op Ret)) :
    okResponses (.respond i op (some r) :: h) = (i, op, r) :: okResponses h := rfl

@[simp] theorem okResponses_err (i : ι) (op : Op) (h : List (HistEvent ι Op Ret)) :
    okResponses (.respond i op none :: h) = okResponses h := rfl

/-- One successful response leaves no choice. -/
theorem Linearization.eq_singleton {apply : S → Op → S × Ret} {s₀ : S}
    {h : List (HistEvent ι Op Ret)} {lin : List (ι × Op × Ret)} {x : ι × Op × Ret}
    (hlin : Linearization apply s₀ h lin) (hx : okResponses h = [x]) : lin = [x] := by
  refine List.perm_singleton.mp ((List.perm_ext_iff_of_nodup (List.Nodup.of_map _ hlin.nodup)
    (List.nodup_singleton x)).mpr fun ⟨i, op, r⟩ => ?_)
  rw [hlin.exact_ok, ← mem_okResponses, hx]

namespace WellFormed

/-- At most one response for each identifier. -/
theorem okResponses_nodup {h : List (HistEvent ι Op Ret)} (hw : WellFormed h) :
    ((okResponses h).map Prod.fst).Nodup := by
  induction hw with
  | nil => simp
  | invoke _ _ ih => simpa using ih
  | @respond h i op r _ _ hfresh ih =>
    cases r with
    | none => simpa using ih
    | some r =>
      have hi : i ∉ (okResponses h).map Prod.fst := by
        intro hi
        obtain ⟨⟨j, op', r'⟩, hm, rfl⟩ := List.mem_map.mp hi
        exact hfresh op' (some r') (mem_okResponses.mp hm)
      simp only [okResponses_append, okResponses_ok, okResponses_nil, List.map_append,
        List.map_cons, List.map_nil]
      exact List.nodup_append.mpr ⟨ih, by simp, by
        intro a ha b hb
        obtain rfl : b = i := by simpa using hb
        exact fun hab => hi (hab ▸ ha)⟩

/-- A response stands after an invocation of the same operation. -/
theorem invoke_mem {h : List (HistEvent ι Op Ret)} (hw : WellFormed h) {i : ι} {op : Op}
    {r : Option Ret} (hm : HistEvent.respond i op r ∈ h) : HistEvent.invoke i op ∈ h := by
  induction hw with
  | nil => simp at hm
  | invoke _ _ ih =>
    rcases List.mem_append.mp hm with hm | hm
    · exact List.mem_append_left _ (ih hm)
    · simp at hm
  | respond _ hinv _ ih =>
    rcases List.mem_append.mp hm with hm | hm
    · exact List.mem_append_left _ (ih hm)
    · obtain ⟨rfl, rfl, rfl⟩ : i = _ ∧ op = _ ∧ r = _ := by simpa using hm
      exact List.mem_append_left _ hinv

/-- What stands before an invocation holds no response to it. -/
theorem respond_not_before {h : List (HistEvent ι Op Ret)} (hw : WellFormed h) :
    ∀ {a b : List (HistEvent ι Op Ret)} {j : ι} {op op' : Op} {r : Option Ret},
      h = a ++ .invoke j op :: b → HistEvent.respond j op' r ∉ a := by
  induction hw with
  | nil =>
    intro a b j op op' r heq
    simp at heq
  | @invoke h i op₀ hw' hfresh ih =>
    intro a b j op op' r heq ha
    rcases List.eq_nil_or_concat b with rfl | ⟨b', x, rfl⟩
    · obtain ⟨rfl, hx⟩ := List.append_inj' heq rfl
      obtain ⟨rfl, -⟩ : i = j ∧ op₀ = op := by simpa using hx
      exact hfresh op' (hw'.invoke_mem ha)
    · have heq' : h ++ [.invoke i op₀] = (a ++ .invoke j op :: b') ++ [x] := by
        rw [heq]; simp
      obtain ⟨rfl, -⟩ := List.append_inj' heq' rfl
      exact ih rfl ha
  | @respond h i op₀ r₀ _ _ hfresh ih =>
    intro a b j op op' r heq ha
    rcases List.eq_nil_or_concat b with rfl | ⟨b', x, rfl⟩
    · obtain ⟨-, hx⟩ := List.append_inj' heq rfl
      simp at hx
    · have heq' : h ++ [.respond i op₀ r₀] = (a ++ .invoke j op :: b') ++ [x] := by
        rw [heq]; simp
      obtain ⟨rfl, -⟩ := List.append_inj' heq' rfl
      exact ih rfl ha

end WellFormed

/-- **Responses linearize**: if the successful responses are legal in the order in which they were
given, that order is a linearization. -/
theorem linearization_of_responses {apply : S → Op → S × Ret} {s₀ : S}
    {h : List (HistEvent ι Op Ret)} (hw : WellFormed h) (hl : Legal apply s₀ (okResponses h)) :
    Linearization apply s₀ h (okResponses h) where
  nodup := hw.okResponses_nodup
  legal := hl
  exact_ok _ _ _ := mem_okResponses
  realtime := by
    rintro i op r j op' r' hj ⟨h₁, h₂, h₃, rfl⟩
    have hnot : HistEvent.respond j op' (some r') ∉ h₁ ++ .respond i op (some r) :: h₂ :=
      hw.respond_not_before (j := j) (b := h₃) (show _ = _ ++ .invoke j op' :: h₃ by simp)
    have hjr : HistEvent.respond j op' (some r') ∈ h₃ := by
      have hm := mem_okResponses.mp hj
      simp only [List.mem_append, List.mem_cons] at hm hnot
      tauto
    obtain ⟨b₁, b₂, hb⟩ := List.append_of_mem (mem_okResponses.mpr hjr)
    refine ⟨okResponses h₁, okResponses h₂ ++ b₁, b₂, ?_⟩
    simp only [okResponses_append, okResponses_ok, okResponses_invoke, hb, List.append_assoc]

end YumeDisk.Lib
