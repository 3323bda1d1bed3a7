import Mathlib.Data.String.Basic
import Mathlib.Data.List.Count
import Mathlib.Data.List.Dedup
import YumeDisk.TauriClient.MediumSafety

/-!
# What a rescan resolves (`network/runtime_flow/rescan.rs`)

`resolve_server_actions` sorts by `compare_local_disk_id`, which compares two ids by their numbers
if both have one, and by their texts otherwise.

* `orderedOn_iff`: **when that is an order** of the ids of a list.
* `resolveServerActions_perm`: one action for each observation.
* `wins_iff_chosen`, `resolve_eq_of_perm`: what the order is for.
* `count_sessions`: every session is kept, inserted or closed as often as it was found.
* `resolves_iff`: **when a rescan resolves its observations.**
-/

namespace YumeDisk.TauriClient

open Lib

/-! ## The order of the ids -/

/-- `left` is less than `right` for `compareLocalDiskId`. -/
def IdLt (left right : String) : Prop :=
  match parseLocalDiskIdNumber left, parseLocalDiskIdNumber right with
  | some l, some r => l < r ∨ l = r ∧ left < right
  | _, _ => left < right

variable {a b m : String} {ids : List String}

theorem compareLocalDiskId_swap (a b : String) :
    compareLocalDiskId b a = (compareLocalDiskId a b).swap := by
  unfold compareLocalDiskId
  cases parseLocalDiskIdNumber a with
  | none => cases parseLocalDiskIdNumber b <;> exact Std.OrientedOrd.eq_swap
  | some x =>
    cases parseLocalDiskIdNumber b with
    | none => exact Std.OrientedOrd.eq_swap
    | some y =>
      dsimp only
      rw [Std.OrientedOrd.eq_swap (a := y) (b := x), Std.OrientedOrd.eq_swap (a := b) (b := a),
        Ordering.swap_then]

theorem compare_text_lt : compare a b = .lt ↔ a < b := Std.LawfulLTCmp.eq_lt_iff_lt

theorem compareLocalDiskId_eq_lt : compareLocalDiskId a b = .lt ↔ IdLt a b := by
  unfold compareLocalDiskId IdLt
  cases parseLocalDiskIdNumber a with
  | none => cases parseLocalDiskIdNumber b <;> exact compare_text_lt
  | some x =>
    cases parseLocalDiskIdNumber b with
    | none => exact compare_text_lt
    | some y =>
      dsimp only
      rw [Ordering.then_eq_lt, Nat.compare_eq_lt, Nat.compare_eq_eq, compare_text_lt]

theorem eq_of_compareLocalDiskId (h : compareLocalDiskId a b = .eq) : a = b := by
  unfold compareLocalDiskId at h
  revert h
  cases parseLocalDiskIdNumber a with
  | none => cases parseLocalDiskIdNumber b <;> exact Std.LawfulEqOrd.eq_of_compare
  | some x =>
    cases parseLocalDiskIdNumber b with
    | none => exact Std.LawfulEqOrd.eq_of_compare
    | some y => exact fun h => Std.LawfulEqOrd.eq_of_compare (Ordering.then_eq_eq.mp h).2

/-- `m` has no number and stands, by its text, between two numbered ids whose texts are in the other
order than their numbers. -/
def Between (a b m : String) : Prop :=
  match parseLocalDiskIdNumber a, parseLocalDiskIdNumber b, parseLocalDiskIdNumber m with
  | some x, some y, none => x < y ∧ b < m ∧ m < a
  | _, _, _ => False

instance (a b m : String) : Decidable (Between a b m) := by
  unfold Between
  split <;> infer_instance

/-- No id is between two others. -/
def Straight (ids : List String) : Prop := ∀ a ∈ ids, ∀ b ∈ ids, ∀ m ∈ ids, ¬ Between a b m

instance : DecidablePred Straight := fun ids =>
  inferInstanceAs (Decidable (∀ a ∈ ids, ∀ b ∈ ids, ∀ m ∈ ids, ¬ Between a b m))

theorem between_of {x y : Nat} (ha : parseLocalDiskIdNumber a = some x)
    (hb : parseLocalDiskIdNumber b = some y) (hm : parseLocalDiskIdNumber m = none) :
    Between a b m ↔ x < y ∧ b < m ∧ m < a := by
  unfold Between
  rw [ha, hb, hm]

theorem compareLocalDiskId_ne_gt : compareLocalDiskId a b ≠ .gt ↔ ¬ IdLt b a := by
  rw [← compareLocalDiskId_eq_lt, compareLocalDiskId_swap a b]
  cases compareLocalDiskId a b <;> decide

theorem idLt_of_none_left (h : parseLocalDiskIdNumber a = none) : IdLt a b ↔ a < b := by
  unfold IdLt
  rw [h]

theorem idLt_of_none_right (h : parseLocalDiskIdNumber b = none) : IdLt a b ↔ a < b := by
  unfold IdLt
  rw [h]
  cases parseLocalDiskIdNumber a <;> rfl

theorem idLt_of_some {x y : Nat} (ha : parseLocalDiskIdNumber a = some x)
    (hb : parseLocalDiskIdNumber b = some y) : IdLt a b ↔ x < y ∨ x = y ∧ a < b := by
  unfold IdLt
  rw [ha, hb]

/-- What is not less than one that is not less is not less. -/
theorem Straight.not_idLt_trans (h : Straight ids) (ha : a ∈ ids) (hb : b ∈ ids) {c : String}
    (hc : c ∈ ids) (hab : ¬ IdLt b a) (hbc : ¬ IdLt c b) : ¬ IdLt c a := by
  cases hna : parseLocalDiskIdNumber a with
  | none =>
    rw [idLt_of_none_right hna] at hab ⊢
    cases hnb : parseLocalDiskIdNumber b with
    | none =>
      rw [idLt_of_none_right hnb] at hbc
      exact fun hca => hbc (lt_of_lt_of_le hca (not_lt.mp hab))
    | some y =>
      cases hnc : parseLocalDiskIdNumber c with
      | none =>
        rw [idLt_of_none_left hnc] at hbc
        exact fun hca => hbc (lt_of_lt_of_le hca (not_lt.mp hab))
      | some z =>
        rw [idLt_of_some hnc hnb] at hbc
        intro hca
        rcases Nat.lt_trichotomy y z with hyz | rfl | hzy
        · -- the id without a number is between the two
          have hne : a ≠ b := fun he => by rw [he, hnb] at hna; cases hna
          exact h b hb c hc a ha ((between_of hnb hnc hna).mpr
            ⟨hyz, hca, lt_of_le_of_ne (not_lt.mp hab) hne⟩)
        · exact hbc (.inr ⟨rfl, lt_of_lt_of_le hca (not_lt.mp hab)⟩)
        · exact hbc (.inl hzy)
  | some x =>
    cases hnb : parseLocalDiskIdNumber b with
    | none =>
      rw [idLt_of_none_left hnb] at hab
      rw [idLt_of_none_right hnb] at hbc
      cases hnc : parseLocalDiskIdNumber c with
      | none =>
        rw [idLt_of_none_left hnc]
        exact fun hca => hbc (lt_of_lt_of_le hca (not_lt.mp hab))
      | some z =>
        rw [idLt_of_some hnc hna]
        rintro (hzx | ⟨-, hca⟩)
        · have hca : b ≠ a := fun he => by rw [he, hna] at hnb; cases hnb
          have hcb : b ≠ c := fun he => by rw [he, hnc] at hnb; cases hnb
          exact h c hc a ha b hb ((between_of hnc hna hnb).mpr
            ⟨hzx, lt_of_le_of_ne (not_lt.mp hab) hca.symm, lt_of_le_of_ne (not_lt.mp hbc) hcb⟩)
        · exact hbc (lt_of_lt_of_le hca (not_lt.mp hab))
    | some y =>
      rw [idLt_of_some hnb hna] at hab
      cases hnc : parseLocalDiskIdNumber c with
      | none =>
        rw [idLt_of_none_left hnc] at hbc ⊢
        intro hca
        rcases Nat.lt_trichotomy x y with hxy | rfl | hyx
        · have hne : b ≠ c := fun he => by rw [he, hnc] at hnb; cases hnb
          exact h a ha b hb c hc ((between_of hna hnb hnc).mpr
            ⟨hxy, lt_of_le_of_ne (not_lt.mp hbc) hne, hca⟩)
        · exact hab (.inr ⟨rfl, lt_of_le_of_lt (not_lt.mp hbc) hca⟩)
        · exact hab (.inl hyx)
      | some z =>
        rw [idLt_of_some hnc hnb] at hbc
        rw [idLt_of_some hnc hna]
        rintro (hzx | ⟨rfl, hca⟩)
        · rcases Nat.lt_or_ge y x with hyx | hxy
          · exact hab (.inl hyx)
          · exact hbc (.inl (by omega))
        · rcases Nat.lt_trichotomy y z with hyz | rfl | hzy
          · exact hab (.inl hyz)
          · by_cases hba : b < a
            · exact hab (.inr ⟨rfl, hba⟩)
            · exact hbc (.inr ⟨rfl, lt_of_lt_of_le hca (not_lt.mp hba)⟩)
          · exact hbc (.inl hzy)

/-- **When the comparison is an order** of the ids of a list. -/
theorem orderedOn_iff : OrderedOn compareLocalDiskId ids ↔ Straight ids := by
  constructor
  · intro h a ha b hb m hm hbetween
    obtain ⟨x, y, hna, hnb, hnm⟩ : ∃ x y, parseLocalDiskIdNumber a = some x ∧
        parseLocalDiskIdNumber b = some y ∧ parseLocalDiskIdNumber m = none := by
      unfold Between at hbetween
      split at hbetween
      · exact ⟨_, _, ‹_›, ‹_›, ‹_›⟩
      · exact hbetween.elim
    obtain ⟨hxy, hbm, hma⟩ := (between_of hna hnb hnm).mp hbetween
    have hab : compareLocalDiskId a b ≠ .gt := by
      rw [compareLocalDiskId_ne_gt, idLt_of_some hnb hna]
      omega
    have hbm' : compareLocalDiskId b m ≠ .gt := by
      rw [compareLocalDiskId_ne_gt, idLt_of_none_left hnm]
      exact lt_asymm hbm
    refine compareLocalDiskId_ne_gt.mp (h.trans a ha b hb m hm hab hbm') ?_
    rwa [idLt_of_none_left hnm]
  · refine fun h => ⟨fun a _ b _ => compareLocalDiskId_swap a b, fun a ha b hb c hc hab hbc => ?_⟩
    rw [compareLocalDiskId_ne_gt] at hab hbc ⊢
    exact h.not_idLt_trans ha hb hc hab hbc

/-! ## What the actions are to be -/

/-- The candidate that its backend goes to: the only one, or of several the least read-only one. -/
def Chosen (group : List NetworkRescanCandidate) (c : NetworkRescanCandidate) : Prop :=
  group = [c] ∨ c.openedSession.metadata.readOnly ∧ c ∈ group ∧
    ∀ c' ∈ group, c'.openedSession.metadata.readOnly → compareCandidates c c' ≠ .gt

/-- The sessions that an observation has found in the table or has opened. -/
def NetworkRescanObservation.foundSessions :
    NetworkRescanObservation → List OpenedNetworkDiskSession
  | .failure f => f.staleOpenedSession.toList
  | .candidate c => c.staleOpenedSession.toList ++ [c.openedSession]

/-- The action leaves the session of its task where it is. -/
def NetworkResolvedAction.keepsSession (action : NetworkResolvedAction) : Bool :=
  match action.result with
  | .refreshMounted _ => true
  | .setUnmounted _ none => true
  | _ => false

def keptSessions (observations : List NetworkRescanObservation)
    (actions : List NetworkResolvedAction) : List OpenedNetworkDiskSession :=
  ((candidatesOf observations).filter fun c =>
    actions.any fun a => a.task = c.task && a.keepsSession).map (·.openedSession)

def sessionsToClose (actions : List NetworkResolvedAction) : List OpenedNetworkDiskSession :=
  (actions.flatMap (·.sessionsToCleanup)).map (·.openedSession)

/-- The ids of the tasks that were observed. -/
def localDiskIds (observations : List NetworkRescanObservation) : List String :=
  observations.map (·.task.localDiskId)

/-- What `resolve_server_actions` is to make of the observations. -/
structure Resolves (observations : List NetworkRescanObservation) : Prop where
  /-- The comparison is a total order of the ids. -/
  ordered : OrderedOn compareLocalDiskId (localDiskIds observations)
  antisymm : DistinctOn compareLocalDiskId (localDiskIds observations)
  tasks : ((resolveServerActions observations).map (·.task)).Perm
    (observations.map NetworkRescanObservation.task)
  available : ∀ a ∈ resolveServerActions observations, a.Available ↔
    ∃ c ∈ candidatesOf observations, c.task = a.task ∧
      Chosen (groupOf (candidatesOf observations) c) c
  oneAvailable : ∀ a ∈ resolveServerActions observations,
    ∀ a' ∈ resolveServerActions observations, a.Available → a'.Available →
      ∀ c ∈ candidatesOf observations, ∀ c' ∈ candidatesOf observations, c.task = a.task →
        c'.task = a'.task →
          c.openedSession.metadata.backendId = c'.openedSession.metadata.backendId → a = a'
  /-- Every session is in one place. -/
  sessions : ∀ x ∈ observations.flatMap NetworkRescanObservation.foundSessions,
    (keptSessions observations (resolveServerActions observations) ++
      sessionsToInsert (resolveServerActions observations) ++
        sessionsToClose (resolveServerActions observations)).count x = 1
  /-- The order of the observations does not matter. -/
  order : ∀ observations', observations'.Perm observations →
    resolveServerActions observations' = resolveServerActions observations

/-! ## The actions, one for each observation -/

variable {observations : List NetworkRescanObservation}

/-- The observations are failures and candidates. -/
theorem map_observations_perm {β : Type} (f : NetworkRescanObservation → β)
    (observations : List NetworkRescanObservation) :
    (observations.map f).Perm ((failuresOf observations).map (fun x => f (.failure x)) ++
      (candidatesOf observations).map fun c => f (.candidate c)) := by
  induction observations with
  | nil => exact .refl _
  | cons o observations ih =>
    cases o with
    | failure x => exact ih.cons _
    | candidate c => exact (ih.cons _).trans List.perm_middle.symm

theorem resolveGroup_perm (group : List NetworkRescanCandidate) :
    (resolveGroup group).Perm (group.map (resolveCandidate group)) := by
  unfold resolveGroup
  split
  · rename_i c
    rw [List.map_singleton, resolveCandidate, if_pos (.inl rfl)]
  · rename_i hmany
    refine (List.Perm.of_eq (List.map_congr_left fun c _ => ?_)).trans
      ((sortBy_perm compareCandidates group).map (resolveCandidate group))
    unfold resolveCandidate
    by_cases hw : Wins group c
    · rw [if_pos hw, if_pos (hw.resolve_left (hmany c))]
    · rw [if_neg hw, if_neg fun hwin => hw (.inr hwin)]

/-- A list, taken apart by a key. -/
theorem flatMap_filter_perm {α κ : Type} [DecidableEq κ] (f : α → κ) {keys : List κ}
    (hkeys : keys.Nodup) {as : List α} (h : ∀ a ∈ as, f a ∈ keys) :
    (keys.flatMap fun k => as.filter (f · = k)).Perm as := by
  induction keys generalizing as with
  | nil =>
    rw [List.eq_nil_iff_forall_not_mem.mpr fun a ha => nomatch h a ha]
    exact .refl _
  | cons k keys ih =>
    obtain ⟨hk, hkeys⟩ := List.nodup_cons.mp hkeys
    rw [List.flatMap_cons]
    refine List.Perm.trans (List.Perm.append_left _ ?_)
      (List.filter_append_perm (fun a => decide (f a = k)) as)
    have hrest := @ih hkeys (as.filter fun a => !decide (f a = k)) fun a ha => by
      obtain ⟨ha, hne⟩ := List.mem_filter.mp ha
      exact (List.mem_cons.mp (h a ha)).resolve_left (by simpa using hne)
    refine (List.Perm.of_eq ?_).trans hrest
    refine congrArg List.flatten (List.map_congr_left fun k' hk' => ?_)
    rw [List.filter_filter]
    refine List.filter_congr fun a _ => ?_
    by_cases hak : f a = k'
    · have hne : f a ≠ k := fun he => hk (he ▸ hak ▸ hk')
      simp [hak, hak ▸ hne]
    · simp [hak]

/-- The actions before they are sorted. -/
def unsortedActions (observations : List NetworkRescanObservation) : List NetworkResolvedAction :=
  (failuresOf observations).map buildFailureAction ++
    ((backendIdsOf (candidatesOf observations)).map fun backendId =>
      (candidatesOf observations).filter (·.openedSession.metadata.backendId = backendId)).flatMap
        resolveGroup

/-- **One action for each observation.** -/
theorem unsortedActions_perm (observations : List NetworkRescanObservation) :
    (unsortedActions observations).Perm (observations.map (actionOf observations)) := by
  refine List.Perm.trans ?_ (map_observations_perm _ observations).symm
  refine List.Perm.append_left _ ?_
  set candidates := candidatesOf observations with hcandidates
  have hkeys : (backendIdsOf candidates).Nodup := List.nodup_dedup _
  have hmem : ∀ c ∈ candidates, c.openedSession.metadata.backendId ∈ backendIdsOf candidates :=
    fun c hc => List.mem_dedup.mpr (List.mem_mergeSort.mpr (List.mem_map_of_mem hc))
  have hgroups := (flatMap_filter_perm _ hkeys hmem).map
    fun c => resolveCandidate (groupOf candidates c) c
  refine List.Perm.trans ?_ hgroups
  rw [List.flatMap_map, List.map_flatMap]
  refine List.Perm.flatMap_left _ fun backendId _ => ?_
  refine (resolveGroup_perm _).trans (List.Perm.of_eq (List.map_congr_left fun c hc => ?_))
  obtain rfl := of_decide_eq_true (List.mem_filter.mp hc).2
  rfl

theorem resolveServerActions_perm (observations : List NetworkRescanObservation) :
    (resolveServerActions observations).Perm (observations.map (actionOf observations)) :=
  (sortBy_perm compareActions (unsortedActions observations)).trans
    (unsortedActions_perm observations)

theorem mem_resolve_iff {a : NetworkResolvedAction} : a ∈ resolveServerActions observations ↔
    ∃ o ∈ observations, actionOf observations o = a := by
  rw [(resolveServerActions_perm observations).mem_iff, List.mem_map]

/-- The task of a candidate is its own. -/
theorem candidate_ext (h : DistinctTasks (observations.map NetworkRescanObservation.task))
    {c c' : NetworkRescanCandidate} (hc : c ∈ candidatesOf observations)
    (hc' : c' ∈ candidatesOf observations) (hid : c.task.localDiskId = c'.task.localDiskId) :
    c = c' := by
  cases eq_of_task_id h (mem_candidatesOf.mp hc) (mem_candidatesOf.mp hc') hid
  rfl

/-- The action of the task of a candidate is the action of the candidate. -/
theorem eq_actionOf (h : DistinctTasks (observations.map NetworkRescanObservation.task))
    {o : NetworkRescanObservation} (ho : o ∈ observations) {a : NetworkResolvedAction}
    (ha : a ∈ resolveServerActions observations) (hid : a.task = o.task) :
    a = actionOf observations o := by
  obtain ⟨o', ho', rfl⟩ := mem_resolve_iff.mp ha
  rw [actionOf_task] at hid
  rw [eq_of_task_id h ho' ho (congrArg NetworkRescanTask.localDiskId hid)]

/-! ## The winner -/

theorem groupOf_subset (candidates : List NetworkRescanCandidate) (c : NetworkRescanCandidate) :
    groupOf candidates c ⊆ candidates := List.filter_sublist.subset

theorem ordered_candidates {candidates : List NetworkRescanCandidate}
    (hord : OrderedOn compareLocalDiskId (localDiskIds observations))
    (hsub : candidates ⊆ candidatesOf observations) : OrderedOn compareCandidates candidates := by
  refine OrderedOn.of_map (f := fun c : NetworkRescanCandidate => c.task.localDiskId)
    (hord.subset fun id hid => ?_)
  obtain ⟨c, hc, rfl⟩ := List.mem_map.mp hid
  exact List.mem_map.mpr ⟨_, mem_candidatesOf.mp (hsub hc), rfl⟩

theorem distinct_candidates {candidates : List NetworkRescanCandidate}
    (h : DistinctTasks (observations.map NetworkRescanObservation.task))
    (hsub : candidates ⊆ candidatesOf observations) : DistinctOn compareCandidates candidates :=
  fun _ hc _ hc' he => candidate_ext h (hsub hc) (hsub hc') (eq_of_compareLocalDiskId he)

/-- **The candidate that its backend goes to.** -/
theorem wins_iff_chosen (h : DistinctTasks (observations.map NetworkRescanObservation.task))
    (hord : OrderedOn compareLocalDiskId (localDiskIds observations))
    {c : NetworkRescanCandidate} (hc : c ∈ candidatesOf observations) :
    Wins (groupOf (candidatesOf observations) c) c ↔
      Chosen (groupOf (candidatesOf observations) c) c := by
  set group := groupOf (candidatesOf observations) c with hgroup
  have hsub : group ⊆ candidatesOf observations := groupOf_subset _ c
  set readOnly := (sortBy compareCandidates group).filter (·.openedSession.metadata.readOnly)
  have hmem : ∀ {x}, x ∈ readOnly ↔ x ∈ group ∧ x.openedSession.metadata.readOnly := by
    intro x
    rw [List.mem_filter, mem_sortBy]
  have hsub' : readOnly ⊆ candidatesOf observations := fun x hx => hsub (hmem.mp hx).1
  have hmin := @minBy_eq_some _ compareCandidates readOnly c (ordered_candidates hord hsub')
    (distinct_candidates h hsub')
  have hwinner : winnerLocalDiskId (sortBy compareCandidates group) = some c.task.localDiskId ↔
      minBy compareCandidates readOnly = some c := by
    refine ⟨fun hw => ?_, fun hm => congrArg (Option.map _) hm⟩
    obtain ⟨c', hc', hid⟩ := Option.map_eq_some_iff.mp hw
    have hin := ((minBy_eq_some (ordered_candidates hord hsub') (distinct_candidates h hsub')).mp
      hc').1
    rw [← candidate_ext h (hsub' hin) hc hid]
    exact hc'
  refine or_congr Iff.rfl ?_
  rw [hwinner, hmin, hmem]
  constructor
  · rintro ⟨⟨hin, hro⟩, hle⟩
    exact ⟨hro, hin, fun c' hc' hro' => hle c' (hmem.mpr ⟨hc', hro'⟩)⟩
  · rintro ⟨hro, hin, hle⟩
    exact ⟨⟨hin, hro⟩, fun c' hc' => hle c' (hmem.mp hc').1 (hmem.mp hc').2⟩

theorem available_buildAvailableAction (c : NetworkRescanCandidate) :
    (buildAvailableAction c).Available := by
  unfold NetworkResolvedAction.Available buildAvailableAction
  cases c.source with
  | fresh => trivial
  | existing => cases c.task.wasMounted <;> trivial

theorem available_actionOf {c : NetworkRescanCandidate} :
    (actionOf observations (.candidate c)).Available ↔
      Wins (groupOf (candidatesOf observations) c) c := by
  refine ⟨fun h => ?_, fun h => ?_⟩
  · obtain ⟨c', hc', hw⟩ := candidate_of_available h
    cases hc'
    exact hw
  · rw [actionOf, resolveCandidate, if_pos h]
    exact available_buildAvailableAction c

/-- A backend goes to one candidate. -/
theorem chosen_unique (h : DistinctTasks (observations.map NetworkRescanObservation.task))
    (hord : OrderedOn compareLocalDiskId (localDiskIds observations))
    {c c' : NetworkRescanCandidate} (hc : c ∈ candidatesOf observations)
    (hc' : c' ∈ candidatesOf observations)
    (hbackend : c.openedSession.metadata.backendId = c'.openedSession.metadata.backendId)
    (hchosen : Chosen (groupOf (candidatesOf observations) c) c)
    (hchosen' : Chosen (groupOf (candidatesOf observations) c') c') : c = c' := by
  have hgroup : groupOf (candidatesOf observations) c' =
      groupOf (candidatesOf observations) c := by
    unfold groupOf
    rw [hbackend]
  have hmem : c ∈ groupOf (candidatesOf observations) c :=
    List.mem_filter.mpr ⟨hc, decide_eq_true rfl⟩
  have hmem' : c' ∈ groupOf (candidatesOf observations) c :=
    List.mem_filter.mpr ⟨hc', decide_eq_true hbackend.symm⟩
  rw [hgroup] at hchosen'
  rcases hchosen with he | ⟨hro, -, hle⟩
  · rw [he] at hmem'
    exact (List.mem_singleton.mp hmem').symm
  · rcases hchosen' with he' | ⟨hro', -, hle'⟩
    · rw [he'] at hmem
      exact List.mem_singleton.mp hmem
    · have hsub : groupOf (candidatesOf observations) c ⊆ candidatesOf observations :=
        groupOf_subset _ c
      have hordered := ordered_candidates hord hsub
      have hdistinct := distinct_candidates h hsub
      exact hdistinct.eq_of_ne_gt hordered hmem hmem' (hle c' hmem' hro') (hle' c hmem hro)

/-! ## The order of the observations -/

theorem candidatesOf_perm {observations' : List NetworkRescanObservation}
    (hperm : observations'.Perm observations) :
    (candidatesOf observations').Perm (candidatesOf observations) := hperm.filterMap _

theorem chosen_congr {group group' : List NetworkRescanCandidate} (hperm : group'.Perm group)
    (c : NetworkRescanCandidate) : Chosen group' c ↔ Chosen group c := by
  refine or_congr ⟨fun h => ?_, fun h => ?_⟩ ?_
  · rw [h] at hperm
    exact List.perm_singleton.mp hperm.symm
  · rw [h] at hperm
    exact List.perm_singleton.mp hperm
  · simp only [hperm.mem_iff]

theorem actionOf_congr (h : DistinctTasks (observations.map NetworkRescanObservation.task))
    (hord : OrderedOn compareLocalDiskId (localDiskIds observations))
    {observations' : List NetworkRescanObservation} (hperm : observations'.Perm observations)
    {o : NetworkRescanObservation} (ho : o ∈ observations) :
    actionOf observations' o = actionOf observations o := by
  cases o with
  | failure f => rfl
  | candidate c =>
    have hc := mem_candidatesOf.mpr ho
    have h' : DistinctTasks (observations'.map NetworkRescanObservation.task) :=
      ((hperm.map _).map _).nodup_iff.mpr h
    have hord' := hord.subset (hperm.map _).subset
    have hc' := (candidatesOf_perm hperm).mem_iff.mpr hc
    have hwins : Wins (groupOf (candidatesOf observations') c) c ↔
        Wins (groupOf (candidatesOf observations) c) c := by
      rw [wins_iff_chosen h' hord' hc', wins_iff_chosen h hord hc]
      exact chosen_congr ((candidatesOf_perm hperm).filter _) c
    unfold actionOf resolveCandidate
    dsimp only
    by_cases hw : Wins (groupOf (candidatesOf observations) c) c
    · rw [if_pos hw, if_pos (hwins.mpr hw)]
    · rw [if_neg hw, if_neg fun hw' => hw (hwins.mp hw')]

/-- **The order of the observations does not matter.** -/
theorem resolve_eq_of_perm (h : DistinctTasks (observations.map NetworkRescanObservation.task))
    (hord : OrderedOn compareLocalDiskId (localDiskIds observations))
    {observations' : List NetworkRescanObservation} (hperm : observations'.Perm observations) :
    resolveServerActions observations' = resolveServerActions observations := by
  have hunsorted : (unsortedActions observations').Perm (unsortedActions observations) := by
    refine (unsortedActions_perm observations').trans
      (List.Perm.trans ?_ (unsortedActions_perm observations).symm)
    refine (hperm.map _).trans (List.Perm.of_eq (List.map_congr_left fun o ho => ?_))
    exact actionOf_congr h hord hperm ho
  have hord' : OrderedOn compareActions (unsortedActions observations) := by
    refine OrderedOn.of_map (f := fun a : NetworkResolvedAction => a.task.localDiskId)
      (hord.subset fun id hid => ?_)
    obtain ⟨a, ha, rfl⟩ := List.mem_map.mp hid
    obtain ⟨o, ho, rfl⟩ := List.mem_map.mp ((unsortedActions_perm observations).mem_iff.mp ha)
    exact List.mem_map.mpr ⟨o, ho, by rw [actionOf_task]⟩
  refine sortBy_eq_of_perm hord' (fun a ha b hb he => ?_) hunsorted
  obtain ⟨o, ho, rfl⟩ := List.mem_map.mp ((unsortedActions_perm observations).mem_iff.mp ha)
  obtain ⟨o', ho', rfl⟩ := List.mem_map.mp ((unsortedActions_perm observations).mem_iff.mp hb)
  have hid := eq_of_compareLocalDiskId he
  rw [actionOf_task, actionOf_task] at hid
  rw [eq_of_task_id h ho ho' hid]

/-! ## The sessions -/

theorem sessionsToInsert_cons (a : NetworkResolvedAction) (actions : List NetworkResolvedAction) :
    sessionsToInsert (a :: actions) = sessionsToInsert [a] ++ sessionsToInsert actions :=
  List.filterMap_append (l := [a])

theorem sessionsToClose_cons (a : NetworkResolvedAction) (actions : List NetworkResolvedAction) :
    sessionsToClose (a :: actions) =
      a.sessionsToCleanup.map (·.openedSession) ++ sessionsToClose actions :=
  List.map_append

theorem staleCleanup_sessions (stale : Option OpenedNetworkDiskSession) :
    (staleCleanup stale).map (·.openedSession) = stale.toList := by
  cases stale <;> rfl

/-- The sessions of a candidate: one is stale, and the other is kept, inserted or closed. -/
theorem count_candidate (group : List NetworkRescanCandidate) (c : NetworkRescanCandidate)
    (x : OpenedNetworkDiskSession) :
    (NetworkRescanObservation.candidate c).foundSessions.count x =
      (if (resolveCandidate group c).keepsSession then [c.openedSession] else []).count x +
        (sessionsToInsert [resolveCandidate group c]).count x +
          ((resolveCandidate group c).sessionsToCleanup.map (·.openedSession)).count x := by
  unfold resolveCandidate NetworkRescanObservation.foundSessions
  by_cases hw : Wins group c
  · rw [if_pos hw, List.count_append]
    unfold buildAvailableAction NetworkResolvedAction.keepsSession sessionsToInsert
    dsimp only
    rw [staleCleanup_sessions]
    cases c.source with
    | fresh => simp [Nat.add_comm]
    | existing => cases c.task.wasMounted <;> simp [Nat.add_comm]
  · rw [if_neg hw, List.count_append]
    unfold buildBackendConflictAction NetworkResolvedAction.keepsSession sessionsToInsert
    dsimp only
    rw [List.map_append, staleCleanup_sessions, List.count_append]
    simp

/-- The session of the candidate stays where it is. -/
def keepsCandidate (observations : List NetworkRescanObservation) (c : NetworkRescanCandidate) :
    Bool := (actionOf observations (.candidate c)).keepsSession

/-- Every session that was found is kept, inserted or closed. -/
theorem count_found (observations os : List NetworkRescanObservation)
    (x : OpenedNetworkDiskSession) :
    (os.flatMap NetworkRescanObservation.foundSessions).count x =
      (((candidatesOf os).filter (keepsCandidate observations)).map (·.openedSession)).count x +
        (sessionsToInsert (os.map (actionOf observations))).count x +
          (sessionsToClose (os.map (actionOf observations))).count x := by
  induction os with
  | nil => rfl
  | cons o os ih =>
    rw [List.flatMap_cons, List.count_append, ih, List.map_cons, sessionsToInsert_cons,
      sessionsToClose_cons, List.count_append, List.count_append]
    cases o with
    | failure f =>
      have hfound : (NetworkRescanObservation.failure f).foundSessions =
          (buildFailureAction f).sessionsToCleanup.map (·.openedSession) :=
        (staleCleanup_sessions f.staleOpenedSession).symm
      have hinsert : sessionsToInsert [buildFailureAction f] = [] := rfl
      have hcandidates : candidatesOf (.failure f :: os) = candidatesOf os := rfl
      rw [hfound, hcandidates]
      dsimp only [actionOf]
      rw [hinsert, List.count_nil]
      omega
    | candidate c =>
      have hcandidates : candidatesOf (.candidate c :: os) = c :: candidatesOf os := rfl
      have haction : actionOf observations (.candidate c) =
          resolveCandidate (groupOf (candidatesOf observations) c) c := rfl
      rw [count_candidate (groupOf (candidatesOf observations) c) c x, hcandidates, ← haction]
      by_cases hkeeps : keepsCandidate observations c
      · rw [if_pos (show (actionOf observations (.candidate c)).keepsSession from hkeeps),
          List.filter_cons_of_pos (p := keepsCandidate observations) hkeeps, List.map_cons,
          List.count_cons, List.count_cons, List.count_nil]
        omega
      · rw [if_neg (show ¬ (actionOf observations (.candidate c)).keepsSession from hkeeps),
          List.filter_cons_of_neg (p := keepsCandidate observations) hkeeps, List.count_nil]
        omega

/-- **Every session is in one place** if it was found once. -/
theorem count_sessions (h : DistinctTasks (observations.map NetworkRescanObservation.task))
    (x : OpenedNetworkDiskSession) :
    (keptSessions observations (resolveServerActions observations) ++
      sessionsToInsert (resolveServerActions observations) ++
        sessionsToClose (resolveServerActions observations)).count x =
      (observations.flatMap NetworkRescanObservation.foundSessions).count x := by
  have hperm := resolveServerActions_perm observations
  have hkept : keptSessions observations (resolveServerActions observations) =
      ((candidatesOf observations).filter (keepsCandidate observations)).map
        (·.openedSession) := by
    refine congrArg (List.map _) (List.filter_congr fun c hc => ?_)
    have ho := mem_candidatesOf.mp hc
    rw [Bool.eq_iff_iff, List.any_eq_true]
    constructor
    · rintro ⟨a, ha, hkeeps⟩
      obtain ⟨htask, hkeeps⟩ := Bool.and_eq_true_iff.mp hkeeps
      rwa [eq_actionOf h ho ha (of_decide_eq_true htask)] at hkeeps
    · intro hkeeps
      refine ⟨_, mem_resolve_iff.mpr ⟨_, ho, rfl⟩, Bool.and_eq_true_iff.mpr ⟨?_, hkeeps⟩⟩
      exact decide_eq_true (actionOf_task observations (.candidate c))
  rw [count_found observations, hkept, List.count_append, List.count_append]
  have hinsert : (sessionsToInsert (resolveServerActions observations)).count x =
      (sessionsToInsert (observations.map (actionOf observations))).count x :=
    (hperm.filterMap _).count_eq x
  have hclose : (sessionsToClose (resolveServerActions observations)).count x =
      (sessionsToClose (observations.map (actionOf observations))).count x :=
    ((hperm.flatMap_right _).map _).count_eq x
  rw [hinsert, hclose]

/-! ## The resolution -/

/-- **When a rescan resolves its observations**: no id without a number is between two numbered
ones, and no session was found twice. -/
theorem resolves_iff (h : DistinctTasks (observations.map NetworkRescanObservation.task)) :
    Resolves observations ↔ Straight (localDiskIds observations) ∧
      (observations.flatMap NetworkRescanObservation.foundSessions).Nodup := by
  constructor
  · refine fun hr => ⟨orderedOn_iff.mp hr.ordered, List.nodup_iff_count_eq_one.mpr fun x hx => ?_⟩
    rw [← count_sessions h x]
    exact hr.sessions x hx
  · rintro ⟨hstraight, hnodup⟩
    have hord := orderedOn_iff.mpr hstraight
    have havailable : ∀ a ∈ resolveServerActions observations, ∀ c ∈ candidatesOf observations,
        c.task = a.task →
          (a.Available ↔ Chosen (groupOf (candidatesOf observations) c) c) := by
      intro a ha c hc htask
      have haction := eq_actionOf h (mem_candidatesOf.mp hc) ha htask.symm
      rw [haction, available_actionOf, wins_iff_chosen h hord hc]
    refine ⟨hord, fun _ _ _ _ => eq_of_compareLocalDiskId, ?_, fun a ha => ⟨fun hava => ?_, ?_⟩,
      fun a ha a' ha' hava hava' c hc c' hc' htask htask' hbackend => ?_, fun x hx => ?_,
      fun _ hperm => resolve_eq_of_perm h hord hperm⟩
    · refine ((resolveServerActions_perm observations).map _).trans (List.Perm.of_eq ?_)
      rw [List.map_map]
      exact List.map_congr_left fun o _ => actionOf_task observations o
    · obtain ⟨o, ho, rfl⟩ := mem_resolve_iff.mp ha
      obtain ⟨c, rfl, -⟩ := candidate_of_available hava
      have hc := mem_candidatesOf.mpr ho
      have htask := (actionOf_task observations (.candidate c)).symm
      exact ⟨c, hc, htask, (havailable _ ha c hc htask).mp hava⟩
    · rintro ⟨c, hc, htask, hchosen⟩
      exact (havailable a ha c hc htask).mpr hchosen
    · have hchosen := (havailable a ha c hc htask).mp hava
      have hchosen' := (havailable a' ha' c' hc' htask').mp hava'
      obtain rfl : c = c' := chosen_unique h hord hc hc' hbackend hchosen hchosen'
      rw [eq_actionOf h (mem_candidatesOf.mp hc) ha htask.symm,
        eq_actionOf h (mem_candidatesOf.mp hc) ha' htask'.symm]
    · rw [count_sessions h x]
      exact List.nodup_iff_count_eq_one.mp hnodup x hx

/-- Three read-only disks of one backend. -/
def mixedObservation (handle : Nat) (localDiskId : String) : NetworkRescanObservation :=
  .candidate
    { task := ⟨localDiskId, "gateway:1", localDiskId, "", false⟩
      openedSession :=
        { key := ⟨"gateway:1", localDiskId⟩
          session := ⟨handle, 0, "gateway:1", handle⟩
          metadata := ⟨4096, true, List.replicate 16 0⟩ }
      source := .fresh
      staleOpenedSession := none }

def mixedObservations : List NetworkRescanObservation :=
  [mixedObservation 0 "disk-2", mixedObservation 1 "disk-10", mixedObservation 2 "disk-1x"]

/-- The same in another order. -/
def mixedObservations' : List NetworkRescanObservation :=
  [mixedObservation 1 "disk-10", mixedObservation 2 "disk-1x", mixedObservation 0 "disk-2"]

def insertedDisks (observations : List NetworkRescanObservation) : List String :=
  (sessionsToInsert (resolveServerActions observations)).map (·.key.remoteDiskId)

theorem insertedDisks_mixed {observations : List NetworkRescanObservation}
    (h : (candidatesOf observations).map (·.openedSession.metadata.backendId) =
      List.replicate 3 (List.replicate 16 0)) :
    insertedDisks observations = (sessionsToInsert (sortBy compareActions
      ((failuresOf observations).map buildFailureAction ++
        resolveGroup ((candidatesOf observations).filter
          (·.openedSession.metadata.backendId = List.replicate 16 0))))).map
            (·.key.remoteDiskId) := by
  have hbackend : backendIdsOf (candidatesOf observations) = [List.replicate 16 0] := by
    unfold backendIdsOf
    rw [h, List.mergeSort_of_pairwise (by decide)]
    rfl
  show (sessionsToInsert (sortBy compareActions (unsortedActions observations))).map _ = _
  unfold unsortedActions
  rw [hbackend, List.map_singleton, List.flatMap_singleton]

/-- **The order of the observations decides** which disk its backend goes to. -/
theorem resolution_depends_on_order :
    DistinctTasks (mixedObservations.map NetworkRescanObservation.task) ∧
      mixedObservations'.Perm mixedObservations ∧ insertedDisks mixedObservations = ["disk-1x"] ∧
        insertedDisks mixedObservations' = ["disk-2"] ∧ ¬ Resolves mixedObservations := by
  have hdistinct : DistinctTasks (mixedObservations.map NetworkRescanObservation.task) := by
    unfold DistinctTasks
    decide
  have hone : insertedDisks mixedObservations = ["disk-1x"] := by
    rw [insertedDisks_mixed rfl]
    decide +kernel
  have hother : insertedDisks mixedObservations' = ["disk-2"] := by
    rw [insertedDisks_mixed rfl]
    decide +kernel
  have hperm : mixedObservations'.Perm mixedObservations :=
    @List.perm_append_comm _ [_, _] [_]
  refine ⟨hdistinct, hperm, hone, hother, fun h => ?_⟩
  have hsame := congrArg (fun actions => (sessionsToInsert actions).map (·.key.remoteDiskId))
    (h.order _ hperm)
  have heq : ["disk-2"] = ["disk-1x"] := hother.symm.trans (hsame.trans hone)
  exact absurd heq (by decide)

theorem resolves_of_numbers :
    Resolves [mixedObservation 0 "disk-2", mixedObservation 1 "disk-10"] :=
  (resolves_iff (by unfold DistinctTasks; decide)).mpr
    ⟨by decide +kernel, by decide⟩

end YumeDisk.TauriClient
