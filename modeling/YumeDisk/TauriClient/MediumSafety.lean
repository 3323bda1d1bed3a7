import YumeDisk.TauriClient.UniqueMedium

/-!
# One runtime for each medium, in every run

A rescan makes a runtime valid again.  `resolve_server_actions` finds at most one disk of a backend
available; what it finds is committed by the id of the runtime.

* `actionsOk_resolve`: one action for each disk, and one disk available for each remote disk.
* `MediaInv.commit`: the actions are committed.
* `oneRuntimePerMedium_run`: the invariant in every run whose steps meet `MediumGuard`.
-/

namespace YumeDisk.TauriClient

open YumeDisk.Lib

variable {paths : PathApi}

/-! ## Plans -/

theorem map_filterMap_sublist {α β γ : Type} {f : α → Option β} {g : β → γ} {g' : α → γ}
    (h : ∀ a b, f a = some b → g b = g' a) (as : List α) :
    ((as.filterMap f).map g).Sublist (as.map g') := by
  induction as with
  | nil => exact .refl _
  | cons a as ih =>
    cases hf : f a with
    | none =>
      rw [List.filterMap_cons_none hf]
      exact ih.cons _
    | some b =>
      rw [List.filterMap_cons_some hf, List.map_cons, List.map_cons, h a b hf]
      exact ih.cons_cons _

theorem distinctTasks_collect {runtimes : List DiskRuntime}
    (h : (runtimes.map (·.localDiskId)).Nodup) :
    DistinctTasks (collectNetworkRescanTasks runtimes) := by
  unfold DistinctTasks collectNetworkRescanTasks
  refine ((sortBy_perm _ _).map _).nodup_iff.mpr (h.sublist ?_)
  refine map_filterMap_sublist (fun r task htask => ?_) runtimes
  cases hconfig : r.mediaConfig with
  | memory kind capacity =>
    rw [hconfig] at htask
    cases htask
  | file path capacity =>
    rw [hconfig] at htask
    cases htask
  | network a d m c =>
    rw [hconfig] at htask
    obtain rfl := Option.some.inj htask
    rfl

theorem distinctTasks_plans {runtimes : List DiskRuntime}
    (h : (runtimes.map (·.localDiskId)).Nodup) :
    ∀ plan ∈ collectNetworkRescanPlans runtimes, DistinctTasks plan.tasks := by
  intro plan hplan
  obtain ⟨serverAddr, -, rfl⟩ := List.mem_map.mp hplan
  exact (distinctTasks_collect h).sublist (List.filter_sublist.map _)

theorem startRescan_ok {plans : List NetworkRescanServerPlan}
    (h : ∀ plan ∈ plans, DistinctTasks plan.tasks) :
    ∀ rescan, startRescan plans = some rescan → rescan.Ok := by
  intro rescan hstart
  cases plans with
  | nil => cases hstart
  | cons plan plans =>
    obtain rfl := Option.some.inj hstart
    exact ⟨h plan List.mem_cons_self, fun p hp => h p (List.mem_cons_of_mem _ hp)⟩

/-! ## Observations -/

theorem observeFresh_task (task : NetworkRescanTask) (stale : Option OpenedNetworkDiskSession)
    (answer : GatewayAnswer) (s : ClientState) :
    Ends (observeFresh task stale answer) s (fun observation _ => observation.task = task)
      fun _ _ => True := by
  cases answer with
  | noConnection => exact rfl
  | authFailed => exact rfl
  | authenticated connection diskId opens =>
    unfold observeFresh
    dsimp only
    split
    · exact rfl
    · cases opens with
      | failed => exact rfl
      | opened sessionId metadata =>
        refine ends_bind_of_ok (t := s) rfl (ends_bind_of_ok (a := ⟨⟩)
          (t := { s with sessions := (s.sessions.openOn connection task.serverAddr sessionId).2 })
          rfl ?_)
        cases metadata with
        | none => exact ends_bind_of_ok (run_modify _) rfl
        | some metadata => exact rfl

theorem collectTaskObservation_task (task : NetworkRescanTask) (answer : GatewayAnswer)
    (s : ClientState) :
    Ends (collectTaskObservation task answer) s (fun observation _ => observation.task = task)
      fun _ _ => True := by
  refine ends_bind_of_ok (t := s) rfl ?_
  cases s.network.openedSession task.key with
  | none => exact observeFresh_task task none answer s
  | some opened =>
    refine ends_bind_of_ok (a := (s.sessions.ensureUsable opened.session).1)
      (t := { s with sessions := (s.sessions.ensureUsable opened.session).2 }) rfl ?_
    cases (s.sessions.ensureUsable opened.session).1 with
    | true => exact rfl
    | false => exact observeFresh_task task (some opened) answer _

/-- An observation moves a task from those that are left to those that are done. -/
theorem observeTask_spec (rescan : Rescan) (answer : GatewayAnswer) (s : ClientState) :
    Ends (observeTask rescan answer) s
      (fun rescan' t => SameCatalog s t ∧ (rescan.Ok → rescan'.Ok)) fun _ t => SameCatalog s t := by
  unfold observeTask
  cases htasks : rescan.tasks with
  | nil => exact ⟨⟨rfl, rfl, rfl⟩, id⟩
  | cons task tasks =>
    refine Ends.bind ((Ends.and (same_collectTaskObservation task answer s)
      (collectTaskObservation_task task answer s)).mono (fun _ _ h => h) fun _ _ h => h.1)
      fun observation t ht => ?_
    refine ⟨ht.1, fun h => ⟨?_, h.later⟩⟩
    have hall : Rescan.allTasks { rescan with
        tasks := tasks, observations := rescan.observations ++ [observation] } =
        rescan.allTasks := by
      simp [Rescan.allTasks, htasks, ht.2]
    rw [hall]
    exact h.current

/-! ## Actions -/

/-- The candidates of the backend of a candidate. -/
def groupOf (candidates : List NetworkRescanCandidate) (c : NetworkRescanCandidate) :
    List NetworkRescanCandidate :=
  candidates.filter (·.openedSession.metadata.backendId = c.openedSession.metadata.backendId)

/-- A candidate that has its backend to itself, or is the read-only one that is kept. -/
def Wins (group : List NetworkRescanCandidate) (c : NetworkRescanCandidate) : Prop :=
  group = [c] ∨ winnerLocalDiskId (sortBy compareCandidates group) = some c.task.localDiskId

instance (group : List NetworkRescanCandidate) (c : NetworkRescanCandidate) :
    Decidable (Wins group c) := inferInstanceAs (Decidable (_ ∨ _))

def resolveCandidate (group : List NetworkRescanCandidate) (c : NetworkRescanCandidate) :
    NetworkResolvedAction :=
  if Wins group c then buildAvailableAction c else buildBackendConflictAction c

theorem mem_resolveGroup {group : List NetworkRescanCandidate} {a : NetworkResolvedAction}
    (h : a ∈ resolveGroup group) : ∃ c ∈ group, a = resolveCandidate group c := by
  unfold resolveGroup at h
  split at h
  · rename_i c
    refine ⟨c, List.mem_cons_self, ?_⟩
    rw [List.mem_singleton.mp h, resolveCandidate, if_pos (.inl rfl)]
  · rename_i hmany
    obtain ⟨c, hc, rfl⟩ := List.mem_map.mp h
    have hc := mem_sortBy.mp hc
    refine ⟨c, hc, ?_⟩
    unfold resolveCandidate
    by_cases hw : Wins group c
    · rw [if_pos hw, if_pos (hw.resolve_left (hmany c))]
    · rw [if_neg hw, if_neg fun hwin => hw (.inr hwin)]

/-- The action that an observation leads to. -/
def actionOf (observations : List NetworkRescanObservation) :
    NetworkRescanObservation → NetworkResolvedAction
  | .failure f => buildFailureAction f
  | .candidate c => resolveCandidate (groupOf (candidatesOf observations) c) c

theorem mem_candidatesOf {observations : List NetworkRescanObservation}
    {c : NetworkRescanCandidate} :
    c ∈ candidatesOf observations ↔ .candidate c ∈ observations := by
  refine ⟨fun h => ?_, fun h => List.mem_filterMap.mpr ⟨_, h, rfl⟩⟩
  obtain ⟨o, ho, hoc⟩ := List.mem_filterMap.mp h
  cases o with
  | failure f => cases hoc
  | candidate c' => exact Option.some.inj hoc ▸ ho

/-- **Where an action comes from.** -/
theorem mem_resolveServerActions {observations : List NetworkRescanObservation}
    {a : NetworkResolvedAction} (h : a ∈ resolveServerActions observations) :
    ∃ o ∈ observations, a = actionOf observations o := by
  have h := mem_sortBy.mp h
  rcases List.mem_append.mp h with h | h
  · obtain ⟨f, hf, rfl⟩ := List.mem_map.mp h
    obtain ⟨o, ho, hof⟩ := List.mem_filterMap.mp hf
    cases o with
    | failure f' =>
      obtain rfl := Option.some.inj hof
      exact ⟨_, ho, rfl⟩
    | candidate c => cases hof
  · obtain ⟨group, hgroup, ha⟩ := List.mem_flatMap.mp h
    obtain ⟨backendId, -, rfl⟩ := List.mem_map.mp hgroup
    obtain ⟨c, hc, rfl⟩ := mem_resolveGroup ha
    obtain ⟨hmem, hbackend⟩ := List.mem_filter.mp hc
    obtain rfl := of_decide_eq_true hbackend
    exact ⟨_, mem_candidatesOf.mp hmem, rfl⟩

theorem actionOf_task (observations : List NetworkRescanObservation)
    (o : NetworkRescanObservation) : (actionOf observations o).task = o.task := by
  cases o with
  | failure f => rfl
  | candidate c =>
    show (resolveCandidate _ c).task = c.task
    unfold resolveCandidate
    split <;> rfl

/-- Only the candidates that win are found available. -/
theorem candidate_of_available {observations : List NetworkRescanObservation}
    {o : NetworkRescanObservation} (h : (actionOf observations o).Available) :
    ∃ c, o = .candidate c ∧ Wins (groupOf (candidatesOf observations) c) c := by
  cases o with
  | failure f => exact h.elim
  | candidate c =>
    refine ⟨c, rfl, ?_⟩
    by_contra hw
    rw [actionOf, resolveCandidate, if_neg hw] at h
    exact h

/-- The candidates of one remote disk that are kept are of one backend. -/
def CommitGuard (observations : List NetworkRescanObservation) : Prop :=
  ∀ c ∈ candidatesOf observations, ∀ c' ∈ candidatesOf observations,
    Wins (groupOf (candidatesOf observations) c) c →
      Wins (groupOf (candidatesOf observations) c') c' → c.task.key = c'.task.key →
        c.openedSession.metadata.backendId = c'.openedSession.metadata.backendId

theorem eq_of_task_id {observations : List NetworkRescanObservation}
    (h : DistinctTasks (observations.map NetworkRescanObservation.task))
    {o o' : NetworkRescanObservation} (ho : o ∈ observations) (ho' : o' ∈ observations)
    (hid : o.task.localDiskId = o'.task.localDiskId) : o = o' := by
  unfold DistinctTasks at h
  rw [List.map_map] at h
  exact List.inj_on_of_nodup_map h ho ho' hid

/-- **The actions of a plan**: one for each disk, and one disk available for each remote disk. -/
theorem actionsOk_resolve {observations : List NetworkRescanObservation}
    (h : DistinctTasks (observations.map NetworkRescanObservation.task))
    (hguard : CommitGuard observations) : ActionsOk (resolveServerActions observations) := by
  constructor
  · intro a ha b hb hid
    obtain ⟨o, ho, rfl⟩ := mem_resolveServerActions ha
    obtain ⟨o', ho', rfl⟩ := mem_resolveServerActions hb
    rw [actionOf_task, actionOf_task] at hid
    rw [eq_of_task_id h ho ho' hid]
  · intro a ha b hb hava havb hkey
    obtain ⟨o, ho, rfl⟩ := mem_resolveServerActions ha
    obtain ⟨o', ho', rfl⟩ := mem_resolveServerActions hb
    obtain ⟨c, rfl, hw⟩ := candidate_of_available hava
    obtain ⟨c', rfl, hw'⟩ := candidate_of_available havb
    rw [actionOf_task, actionOf_task] at hkey
    have hbackend := hguard c (mem_candidatesOf.mpr ho) c' (mem_candidatesOf.mpr ho') hw hw' hkey
    have hgroup : groupOf (candidatesOf observations) c' =
        groupOf (candidatesOf observations) c := by
      unfold groupOf
      rw [hbackend]
    have hmem : c ∈ groupOf (candidatesOf observations) c :=
      List.mem_filter.mpr ⟨mem_candidatesOf.mpr ho, decide_eq_true rfl⟩
    have hmem' : c' ∈ groupOf (candidatesOf observations) c :=
      List.mem_filter.mpr ⟨mem_candidatesOf.mpr ho', decide_eq_true hbackend.symm⟩
    rw [hgroup] at hw'
    suffices heq : c = c' by rw [heq]
    -- a group of one has one member, and the id of the winner is one
    rcases hw with hw | hw
    · rw [hw] at hmem'
      exact (List.mem_singleton.mp hmem').symm
    · rcases hw' with hw' | hw'
      · rw [hw'] at hmem
        exact List.mem_singleton.mp hmem
      · cases eq_of_task_id h ho ho' (Option.some.inj (hw.symm.trans hw'))
        rfl

/-! ## Commit -/

/-- The runtime `r` after the actions: it is valid only if no action is of it and it was valid, or
an action of it has found its disk available. -/
structure Committed (paths : PathApi) (actions : List NetworkResolvedAction)
    (r r' : DiskRuntime) : Prop where
  localDiskId : r'.localDiskId = r.localDiskId
  mediumKey : r'.mediumKey paths = r.mediumKey paths
  valid : r'.Valid → (r.Valid ∧ ∀ a ∈ actions, a.task.localDiskId ≠ r.localDiskId) ∨
    ∃ a ∈ actions, a.task.localDiskId = r.localDiskId ∧ a.Available

theorem applyRuntimeAction_spec (w : Answers) (a : NetworkResolvedAction) {r : DiskRuntime}
    (backend : Backend) (hid : a.task.localDiskId = r.localDiskId) :
    Committed paths [a] r (applyRuntimeAction w a.result r backend).1 := by
  have havailable : (∀ reason, a.result ≠ .invalid reason) → a.Available := by
    intro h
    unfold NetworkResolvedAction.Available
    split
    · rename_i reason hr
      exact h reason hr
    · trivial
  unfold applyRuntimeAction
  cases hresult : a.result with
  | refreshMounted metadata =>
    exact ⟨rfl, mediumKey_setNetworkCapacity r _, fun _ =>
      .inr ⟨a, List.mem_cons_self, hid, havailable (by rw [hresult]; nofun)⟩⟩
  | setUnmounted metadata opened =>
    exact ⟨rfl, mediumKey_setNetworkUnmounted r _ _, fun _ =>
      .inr ⟨a, List.mem_cons_self, hid, havailable (by rw [hresult]; nofun)⟩⟩
  | invalid reason => exact ⟨rfl, rfl, nofun⟩

/-- One action after others. -/
theorem Committed.cons {a : NetworkResolvedAction} {actions : List NetworkResolvedAction}
    {r r' r'' : DiskRuntime} (h : Committed paths [a] r r') (h' : Committed paths actions r' r'') :
    Committed paths (a :: actions) r r'' := by
  refine ⟨h'.localDiskId.trans h.localDiskId, h'.mediumKey.trans h.mediumKey, fun hv => ?_⟩
  rcases h'.valid hv with ⟨hv', hno⟩ | ⟨b, hb, hid, hava⟩
  · rcases h.valid hv' with ⟨hr, hno'⟩ | ⟨b, hb, hid, hava⟩
    · refine .inl ⟨hr, fun b hb => ?_⟩
      rcases List.mem_cons.mp hb with rfl | hb
      · exact hno' b List.mem_cons_self
      · exact h.localDiskId ▸ hno b hb
    · exact .inr ⟨b, List.mem_cons.mpr (.inl (List.mem_singleton.mp hb)), hid, hava⟩
  · exact .inr ⟨b, List.mem_cons_of_mem _ hb, hid.trans h.localDiskId, hava⟩

theorem committed_of_ne {a : NetworkResolvedAction} {r : DiskRuntime}
    (hne : a.task.localDiskId ≠ r.localDiskId) : Committed paths [a] r r :=
  ⟨rfl, rfl, fun hv => .inl ⟨hv, fun _ hb => List.mem_singleton.mp hb ▸ hne⟩⟩

/-- One action visits the runtime of its id. -/
theorem committed_visitFirst (w : Answers) (a : NetworkResolvedAction) :
    ∀ {rs : List DiskRuntime} {backend : Backend}, (rs.map (·.localDiskId)).Nodup →
      List.Forall₂ (Committed paths [a]) rs
        (visitFirst (·.localDiskId = a.task.localDiskId) (applyRuntimeAction w a.result)
          rs backend).1
  | [], _, _ => .nil
  | r :: rs, backend, h => by
    obtain ⟨hr, hrs⟩ := List.nodup_cons.mp h
    unfold visitFirst
    by_cases hid : r.localDiskId = a.task.localDiskId
    · rw [if_pos (decide_eq_true hid)]
      refine .cons (applyRuntimeAction_spec w a backend hid.symm) (List.forall₂_same.mpr ?_)
      intro x hx
      refine committed_of_ne fun heq => hr ?_
      exact List.mem_map.mpr ⟨x, hx, heq.symm.trans hid.symm⟩
    · rw [if_neg (by simpa using hid)]
      exact .cons (committed_of_ne (Ne.symm hid)) (committed_visitFirst w a hrs)

theorem committed_ids {actions : List NetworkResolvedAction} {rs rs' : List DiskRuntime}
    (h : List.Forall₂ (Committed paths actions) rs rs') :
    rs'.map (·.localDiskId) = rs.map (·.localDiskId) := by
  induction h with
  | nil => rfl
  | cons hr _ ih => rw [List.map_cons, List.map_cons, hr.localDiskId, ih]

theorem committed_trans {a : NetworkResolvedAction} {actions : List NetworkResolvedAction}
    {rs rs' rs'' : List DiskRuntime} (h : List.Forall₂ (Committed paths [a]) rs rs')
    (h' : List.Forall₂ (Committed paths actions) rs' rs'') :
    List.Forall₂ (Committed paths (a :: actions)) rs rs'' := by
  induction h generalizing rs'' with
  | nil =>
    cases h'
    exact .nil
  | cons hr _ ih =>
    cases h' with
    | cons hr' h' => exact .cons (hr.cons hr') (ih h')

/-- What the second section of a commit does to the state. -/
structure CatalogCommits (paths : PathApi) (actions : List NetworkResolvedAction)
    (s s' : ClientState) : Prop where
  runtimes : List.Forall₂ (Committed paths actions) s.store.runtimes s'.store.runtimes
  nextDiskNumber : s'.store.nextDiskNumber = s.store.nextDiskNumber
  pending : s'.catalog.pendingDeletions = s.catalog.pendingDeletions
  holder : s'.holder = s.holder
  rescan : s'.rescan = s.rescan

theorem ends_applyActions (w : Answers) : ∀ (actions : List NetworkResolvedAction)
    {s : ClientState}, (s.store.runtimes.map (·.localDiskId)).Nodup →
      Ends (forEach (fun a => forRuntime a.task.localDiskId (applyRuntimeAction w a.result))
        actions) s (fun _ t => CatalogCommits paths actions s t) fun _ _ => False
  | [], s, _ => ⟨List.forall₂_same.mpr fun r _ => ⟨rfl, rfl, fun hv => .inl ⟨hv, nofun⟩⟩,
      rfl, rfl, rfl, rfl⟩
  | a :: actions, s, h => by
    have hfirst := @committed_visitFirst paths w a s.store.runtimes s.backend h
    refine ends_bind_of_ok (run_modify _) ?_
    refine (ends_applyActions w actions ?_).mono (fun _ t ht => ?_) fun _ _ ht => ht
    · show (List.map _ (visitFirst _ _ _ _).1).Nodup
      rw [committed_ids hfirst]
      exact h
    · exact ⟨committed_trans hfirst ht.runtimes, ht.nextDiskNumber, ht.pending, ht.holder,
        ht.rescan⟩

/-- The runtime that is made valid has the key of its task, or a medium of its own; and the runtimes
of that key that are not invalid have tasks too. -/
def RuntimeGuard (paths : PathApi) (s : ClientState) (actions : List NetworkResolvedAction) :
    Prop :=
  ∀ a ∈ actions, a.Available → ∀ r ∈ s.store.runtimes, r.localDiskId = a.task.localDiskId →
    (∀ k ∈ r.mediumKey paths, ∀ r' ∈ s.store.runtimes, r'.mediumKey paths = some k → r' = r) ∨
    r.mediumKey paths = some (.network a.task.key) ∧
      ∀ r' ∈ s.store.runtimes, r'.heldMedium paths = some (.network a.task.key) →
        ∃ b ∈ actions, b.task.localDiskId = r'.localDiskId

theorem forall₂_mem_right {α β : Type} {R : α → β → Prop} {as : List α} {bs : List β}
    (h : List.Forall₂ R as bs) {b : β} (hb : b ∈ bs) : ∃ a ∈ as, R a b := by
  induction h with
  | nil => cases hb
  | cons hab _ ih =>
    rcases List.mem_cons.mp hb with rfl | hb
    · exact ⟨_, List.mem_cons_self, hab⟩
    · obtain ⟨a, ha, hr⟩ := ih hb
      exact ⟨a, List.mem_cons_of_mem _ ha, hr⟩

/-- A runtime that has been made valid is the only one of its medium. -/
theorem eq_of_available {s : ClientState} {actions : List NetworkResolvedAction}
    (hactions : ActionsOk actions) (hguard : RuntimeGuard paths s actions)
    {a : NetworkResolvedAction} (ha : a ∈ actions) (hava : a.Available) {r₁ r₂ r₂' : DiskRuntime}
    (hr₁ : r₁ ∈ s.store.runtimes) (hid : a.task.localDiskId = r₁.localDiskId)
    (hr₂ : r₂ ∈ s.store.runtimes) (hc₂ : Committed paths actions r₂ r₂') (hv₂ : r₂'.Valid)
    {k : MediumKey} (hk₁ : r₁.mediumKey paths = some k) (hk₂ : r₂.mediumKey paths = some k) :
    r₁.localDiskId = r₂.localDiskId := by
  rcases hguard a ha hava r₁ hr₁ hid.symm with honly | ⟨hkey, hplanned⟩
  · rw [honly k hk₁ r₂ hr₂ hk₂]
  · obtain rfl := Option.some.inj (hk₁.symm.trans hkey)
    rcases hc₂.valid hv₂ with ⟨hvalid, hno⟩ | ⟨b, hb, hbid, hbava⟩
    · obtain ⟨b, hb, hbid⟩ := hplanned r₂ hr₂ (heldMedium_eq_some.mpr ⟨hvalid, hk₂⟩)
      exact absurd hbid (hno b hb)
    · rcases hguard b hb hbava r₂ hr₂ hbid.symm with honly | ⟨hkey₂, -⟩
      · rw [honly _ hk₂ r₁ hr₁ hk₁]
      · have heq : a.task.key = b.task.key := by
          have := hk₂.symm.trans hkey₂
          injection this with this
          injection this
        rw [← hid, ← hbid, hactions.oneAvailable a ha b hb hava hbava heq]

/-- **A commit** keeps the invariant. -/
theorem MediaInv.commit {s t : ClientState} (h : MediaInv paths s)
    {actions : List NetworkResolvedAction} (hactions : ActionsOk actions)
    (hguard : RuntimeGuard paths s actions) (ht : CatalogCommits paths actions s t) :
    MediaInv paths t := by
  have hids := committed_ids ht.runtimes
  have hnodup : (s.store.runtimes.map (·.localDiskId)).Nodup :=
    (List.nodup_append.mp h.ids.nodup).1
  refine ⟨?_, ?_, fun rescan hrescan => h.rescan rescan (ht.rescan ▸ hrescan),
    ht.holder ▸ h.holder⟩
  · have hcatalog : catalogIds t.catalog = catalogIds s.catalog := by
      unfold catalogIds
      rw [ht.pending]
      exact congrArg (· ++ _) hids
    rw [hcatalog, ht.nextDiskNumber]
    exact h.ids
  · refine (oneRuntimePerMedium_iff (hids ▸ hnodup)).mpr fun r₁' hr₁' r₂' hr₂' k hk₁ hk₂ => ?_
    obtain ⟨r₁, hr₁, hc₁⟩ := forall₂_mem_right ht.runtimes hr₁'
    obtain ⟨r₂, hr₂, hc₂⟩ := forall₂_mem_right ht.runtimes hr₂'
    obtain ⟨hv₁, hm₁⟩ := heldMedium_eq_some.mp hk₁
    obtain ⟨hv₂, hm₂⟩ := heldMedium_eq_some.mp hk₂
    rw [hc₁.mediumKey] at hm₁
    rw [hc₂.mediumKey] at hm₂
    refine eq_of_nodup_ids (hids ▸ hnodup) hr₁' hr₂' ?_
    rw [hc₁.localDiskId, hc₂.localDiskId]
    rcases hc₁.valid hv₁ with ⟨hvalid₁, -⟩ | ⟨a, ha, hid, hava⟩
    · rcases hc₂.valid hv₂ with ⟨hvalid₂, -⟩ | ⟨b, hb, hid, hbva⟩
      · have hheld₁ := heldMedium_eq_some.mpr ⟨hvalid₁, hm₁⟩
        have hheld₂ := heldMedium_eq_some.mpr ⟨hvalid₂, hm₂⟩
        rw [(oneRuntimePerMedium_iff hnodup).mp h.one r₁ hr₁ r₂ hr₂ k hheld₁ hheld₂]
      · exact (eq_of_available hactions hguard hb hbva hr₂ hid hr₁ hc₁ hv₁ hm₂ hm₁).symm
    · exact eq_of_available hactions hguard ha hava hr₁ hid hr₂ hc₂ hv₂ hm₁ hm₂

/-! ## Steps -/

/-- The condition under which a step leaves one runtime for each medium: the deletion that is
undone, the candidates that a commit decides between, the runtimes that it makes valid. -/
def MediumGuard (paths : PathApi) (s : ClientState) : Action → Prop
  | .undoDeleteDisk w deletionId => UndoGuard paths s w deletionId
  | .beginCommit => ∀ rescan ∈ s.rescan, CommitGuard rescan.observations
  | .submitBeginCommit =>
    match s.holder with
    | .rescanning rescan => CommitGuard rescan.observations
    | _ => True
  | .finishCommit _ =>
    match s.holder with
    | .committing _ _ actions _ => RuntimeGuard paths s actions
    | _ => True
  | _ => True

section Ends

variable {α : Type} {s s' : ClientState} {P : ClientState → Prop}

theorem final_of_ends {x : ClientM α} (h : Ends x s (fun _ t => P t) fun _ t => P t) :
    P (x.final s) := by
  unfold ClientM.final
  cases hx : x s with
  | ok a t => exact h.of_ok hx
  | error e t => exact h.of_error hx

theorem toHolder_of_ends {x : ClientM Holder}
    (h : Ends x s (fun holder t => P { t with holder := holder })
      fun _ t => P { t with holder := .free }) : P (x.toHolder s) := by
  unfold ClientM.toHolder
  cases hx : x s with
  | ok holder t => exact h.of_ok hx
  | error e t => exact h.of_error hx

theorem command_of_ends {x : ClientM Unit} (h : Ends x s (fun _ t => P t) fun _ t => P t)
    (hs : command s x = some s') : P s' := by
  obtain ⟨-, rfl⟩ := command_cases hs
  exact final_of_ends h

end Ends

theorem media_toHolder {x : ClientM Holder} {s : ClientState}
    (h : Ends x s (fun holder t => MediaInv paths t ∧ holder.Ok) fun _ t => MediaInv paths t) :
    MediaInv paths (x.toHolder s) :=
  toHolder_of_ends (h.mono (fun _ _ ht => ⟨ht.1.ids, ht.1.one, ht.1.rescan, ht.2⟩)
    fun _ _ ht => ⟨ht.ids, ht.one, ht.rescan, trivial⟩)

theorem media_command {x : ClientM Unit} (hx : Keeps (KeepsMedia paths) x) {s s' : ClientState}
    (h : MediaInv paths s) (hs : command s x = some s') : MediaInv paths s' :=
  command_of_ends ((hx s).mono (fun _ _ ht => ht h) fun _ _ ht => ht h) hs

theorem media_final {α : Type} {x : ClientM α} (hx : Keeps SameCatalog x) {s : ClientState}
    (h : MediaInv paths s) : MediaInv paths (x.final s) :=
  final_of_ends ((media_of_same hx s).mono (fun _ _ ht => ht h) fun _ _ ht => ht h)

/-- A section that ends in a holder of which nothing is asked. -/
theorem ends_holder {x : ClientM Holder} (hx : Keeps (KeepsMedia paths) x) {s : ClientState}
    (h : MediaInv paths s)
    (hok : Ends x s (fun holder _ => holder.Ok) fun _ _ => True) :
    Ends x s (fun holder t => MediaInv paths t ∧ holder.Ok) fun _ t => MediaInv paths t :=
  (Ends.and (hx s) hok).mono (fun _ _ ht => ⟨ht.1 h, ht.2⟩) fun _ _ ht => ht.1 h

/-- What is said of the value that a computation returns, whatever the state. -/
theorem ends_value {α β : Type} {x : ClientM α} {f : α → ClientM β} {Q : β → Prop}
    (hf : ∀ a s, Ends (f a) s (fun b _ => Q b) fun _ _ => True) (s : ClientState) :
    Ends (x >>= f) s (fun b _ => Q b) fun _ _ => True := by
  refine Ends.bind (Q := fun _ _ => True) ?_ fun a t _ => hf a t
  unfold Ends
  cases x s <;> trivial

theorem addNetworkDraftItem_ok (w : Answers) (draftId diskName claimCode : String)
    (s : ClientState) :
    Ends (addNetworkDraftItem w draftId diskName claimCode) s (fun holder _ => holder.Ok)
      fun _ _ => True := by
  refine ends_value (fun _ => ends_value fun _ => ends_value fun s => ?_) s
  cases s.network.draft draftId with
  | none => exact fun _ => trivial
  | some draft => exact fun _ => trivial

theorem media_addNetworkDraftItem (w : Answers) (draftId diskName claimCode : String) :
    Keeps (KeepsMedia paths) (addNetworkDraftItem w draftId diskName claimCode) := by
  refine Keeps.bind (media_of_keepsCatalog (keepsCatalog_syncPendingEvents w)) fun _ =>
    Keeps.bind (media_of_same (same_failWhen _ _)) fun _ => Keeps.bind keeps_get fun s => ?_
  cases s.network.draft draftId with
  | none => exact keeps_throw _
  | some draft => exact keeps_pure _

theorem continueAdd_ok (draftId diskName claimCode serverAddr : String) (connection : Nat)
    (stage : AddStage) (answer : AddAnswer) (s : ClientState) :
    Ends (continueAdd draftId diskName claimCode serverAddr connection stage answer) s
      (fun holder _ => holder.Ok) fun _ _ => True := by
  unfold continueAdd
  split
  · exact ends_of_error (run_throw _) trivial
  · exact ends_value (fun _ => ends_value fun _ _ => ends_of_ok (run_pure _) trivial) s
  · exact ends_of_error (run_throw _) trivial
  · exact ends_value (fun _ => ends_value fun _ _ => ends_of_ok (run_pure _) trivial) s
  · exact ends_value (fun _ _ => ends_of_error (run_throw _) trivial) s
  · refine ends_value (fun s' => ?_) s
    split
    · exact ends_value fun _ _ => ends_of_error (run_throw _) trivial
    · exact fun _ => ends_of_ok (run_pure _) trivial
  · refine ends_value (fun s' => ?_) s
    split
    · exact fun _ => ends_of_error (run_throw _) trivial
    · exact ends_value fun _ _ => ends_of_ok (run_pure _) trivial
  · exact ends_of_ok (run_pure _) trivial

theorem submitNetworkDraft_ok (w : Answers) (draftId : String) (s : ClientState) :
    Ends (submitNetworkDraft w draftId) s (fun holder _ => holder.Ok) fun _ _ => True := by
  refine ends_value (fun _ => ends_value fun s => ?_) s
  cases s.network.draft draftId with
  | none => exact fun _ => trivial
  | some draft =>
    refine ends_value fun _ => ends_value fun _ => ends_value fun ids => ends_value fun saved => ?_
    cases saved with
    | ok _ => exact fun _ => trivial
    | error e => exact ends_value fun _ _ => trivial

/-- The plans are made of the disks in the store. -/
theorem ends_finishSubmit {s : ClientState} (h : MediaInv paths s) (draftId : String) :
    Ends (finishSubmit draftId) s (fun holder t => MediaInv paths t ∧ holder.Ok)
      fun _ t => MediaInv paths t := by
  refine ends_bind_of_ok (t := s) rfl ?_
  cases s.network.draft draftId with
  | none => exact ends_of_error (run_throw _) h
  | some draft =>
    refine ends_bind_of_ok (run_modify _) ?_
    have hplans := startRescan_ok
      (distinctTasks_plans (List.nodup_append.mp h.ids.nodup).1)
    cases hstart : startRescan (collectNetworkRescanPlans s.store.runtimes) with
    | none => exact ends_of_ok (run_pure _) ⟨h.of_eq ⟨rfl, rfl, rfl⟩, trivial⟩
    | some rescan => exact ⟨h.of_eq ⟨rfl, rfl, rfl⟩, hplans rescan hstart⟩

theorem ends_startRuntimeRescan {s : ClientState} (h : MediaInv paths s) (w : Answers) :
    Ends (startRuntimeRescan paths w) s
      (fun rescan t => MediaInv paths t ∧ ∀ r, rescan = some r → r.Ok)
      fun _ t => MediaInv paths t := by
  refine Ends.bind ((media_of_keepsCatalog (keepsCatalog_syncPendingEvents w) s).mono
    (fun _ _ ht => ht h) fun _ _ ht => ht h) fun _ t ht => ?_
  refine Ends.bind ((media_rescanLocalRuntimeDisks w t).mono (fun _ _ hu => hu ht)
    fun _ _ hu => hu ht) fun _ u hu => ?_
  refine ends_bind_of_ok (t := u) rfl ?_
  have hv := hu.of_eq (same_saveConfig u w)
  refine ends_bind_of_ok (run_saveClientState w u) ?_
  set v := u.saveConfig w
  cases w.saves with
  | error e => exact ends_of_error (run_throw_bind _) hv
  | ok _ =>
    refine ends_of_ok (t := v) (a := startRescan (collectNetworkRescanPlans u.store.runtimes)) rfl
      ⟨hv, startRescan_ok (distinctTasks_plans (List.nodup_append.mp hu.ids.nodup).1)⟩

/-- A commit begins: the actions are those of the observations. -/
theorem ends_beginCommit {s : ClientState} (h : MediaInv paths s) (background : Bool)
    {rescan : Rescan} (hok : rescan.Ok) (htasks : rescan.tasks = [])
    (hguard : CommitGuard rescan.observations) :
    Ends (beginCommit background rescan) s (fun holder t => MediaInv paths t ∧ holder.Ok)
      fun _ t => MediaInv paths t := by
  refine Ends.bind ((media_of_same (same_commitSessions _) s).mono (fun _ _ ht => ht h)
    fun _ _ ht => ht h) fun _ t ht => ends_of_ok (run_pure _) ⟨ht, ?_, hok.later⟩
  refine actionsOk_resolve ?_ hguard
  have hcurrent := hok.current
  rw [Rescan.allTasks, htasks, List.append_nil] at hcurrent
  exact hcurrent

theorem MediaInv.withRescan {s : ClientState} (h : MediaInv paths s) {rescan : Option Rescan}
    (hr : ∀ r, rescan = some r → r.Ok) : MediaInv paths { s with rescan := rescan } :=
  ⟨h.ids, h.one, hr, h.holder⟩

theorem MediaInv.withHolder {s : ClientState} (h : MediaInv paths s) {holder : Holder}
    (hh : holder.Ok) : MediaInv paths { s with holder := holder } :=
  ⟨h.ids, h.one, h.rescan, hh⟩

/-- The commit ends, and the next plan begins. -/
theorem MediaInv.afterCommit {s : ClientState} (h : MediaInv paths s) (w : Answers)
    (background : Bool) {plans : List NetworkRescanServerPlan}
    (hplans : ∀ plan ∈ plans, DistinctTasks plan.tasks) :
    MediaInv paths (afterCommit s w background plans) := by
  have hstart := startRescan_ok hplans
  unfold TauriClient.afterCommit
  split
  · refine ⟨h.ids, h.one, fun rescan hrescan => ?_, trivial⟩
    cases hsaves : w.saves with
    | ok _ =>
      rw [hsaves] at hrescan
      exact hstart rescan hrescan
    | error e =>
      rw [hsaves] at hrescan
      cases hrescan
  · refine h.withHolder ?_
    cases hs : startRescan plans with
    | none => trivial
    | some rescan => exact hstart rescan hs

/-- **Step lemma.** -/
theorem step_media {s s' : ClientState} {a : Action} (h : MediaInv paths s)
    (hguard : MediumGuard paths s a) (hs : step paths s a = some s') : MediaInv paths s' := by
  cases a with
  | createMemoryDisk w request => exact media_command (media_createMemoryDisk w request) h hs
  | createFileDisk w request => exact media_command (media_createFileDisk w request) h hs
  | createNewFileDisk w files request =>
    exact media_command (media_createNewFileDisk w files request) h hs
  | updateDisk w request =>
    exact media_command (media_of_keepsCatalog (keepsCatalog_updateDisk w request)) h hs
  | mountDisk w localDiskId =>
    exact media_command (media_of_keepsCatalog (keepsCatalog_mountDisk w localDiskId)) h hs
  | ejectDisk w localDiskId =>
    exact media_command (media_of_keepsCatalog (keepsCatalog_ejectDisk w localDiskId)) h hs
  | deleteDisk w localDiskId => exact media_command (media_deleteDisk w localDiskId) h hs
  | undoDeleteDisk w deletionId =>
    exact command_of_ends (media_undoDeleteDisk h hguard) hs
  | commitDeletedDisk deletionId => exact media_command (media_commitDeletedDisk deletionId) h hs
  | restoreClientState w config => exact media_command (media_restoreClientState w config) h hs
  | sync w =>
    exact media_command (media_of_keepsCatalog (keepsCatalog_syncPendingEvents w)) h hs
  | watch w broken =>
    exact media_command (media_of_keepsCatalog (Keeps.bind (keepsCatalog_syncBackendState w broken)
      fun _ => keepsCatalog_syncPendingEvents w)) h hs
  | createNetworkDraft serverAddr connection =>
    obtain rfl := Option.some.inj hs
    exact media_final (same_createNetworkDraft serverAddr connection) h
  | removeNetworkDraftItem draftId remoteDiskId =>
    obtain rfl := Option.some.inj hs
    exact media_final (same_removeNetworkDraftItem draftId remoteDiskId) h
  | disposeNetworkDraft draftId =>
    obtain rfl := Option.some.inj hs
    exact media_final (same_disposeNetworkDraft draftId) h
  | addNetworkDraftItem w draftId diskName claimCode =>
    obtain ⟨-, rfl⟩ := withCatalog_cases hs
    exact media_toHolder (ends_holder (media_addNetworkDraftItem w draftId diskName claimCode) h
      (addNetworkDraftItem_ok w draftId diskName claimCode s))
  | continueAdd answer =>
    obtain ⟨_, _, _, _, _, _, -, rfl⟩ := step_cases hs
    exact media_toHolder (ends_holder (media_of_same (same_continueAdd _ _ _ _ _ _ _)) h
      (continueAdd_ok _ _ _ _ _ _ _ s))
  | submitNetworkDraft w draftId =>
    obtain ⟨-, rfl⟩ := withCatalog_cases hs
    exact media_toHolder (ends_holder (media_submitNetworkDraft w draftId) h
      (submitNetworkDraft_ok w draftId s))
  | finishSubmit =>
    obtain ⟨draft, -, rfl⟩ := step_cases hs
    exact media_toHolder (ends_finishSubmit h _)
  | startRescan w =>
    have hends := ends_startRuntimeRescan h w
    obtain ⟨-, ⟨rescan, t, hx, rfl⟩ | ⟨e, hx⟩⟩ := step_cases hs
    · have ht := hends.of_ok hx
      exact ht.1.withRescan ht.2
    · exact hends.of_error hx
  | rescan answer =>
    obtain ⟨rescan, hrescan, hx⟩ := step_cases hs
    have hends := observeTask_spec rescan answer s
    obtain ⟨rescan', t, hx, rfl⟩ | ⟨e, hx⟩ := hx
    · have ht := hends.of_ok hx
      refine (h.of_eq ht.1).withRescan fun r hr => ?_
      exact Option.some.inj hr ▸ ht.2 (h.rescan rescan hrescan)
    · exact h.of_eq (hends.of_error hx)
  | beginCommit =>
    obtain ⟨rescan, hrescan, htasks, -, rfl⟩ := step_cases hs
    have hnone : MediaInv paths { s with rescan := none } := h.withRescan nofun
    exact media_toHolder (ends_beginCommit hnone true
      (h.rescan rescan hrescan) htasks (hguard rescan hrescan))
  | submitRescan answer =>
    obtain ⟨rescan, hholder, rfl⟩ := step_cases hs
    have hok : rescan.Ok := by
      have := h.holder
      rw [hholder] at this
      exact this
    refine media_toHolder (Ends.bind ((observeTask_spec rescan answer s).mono (fun _ _ ht => ht)
      fun _ _ ht => h.of_eq ht) fun rescan' t ht => ?_)
    exact ends_of_ok (run_pure _) ⟨h.of_eq ht.1, ht.2 hok⟩
  | submitBeginCommit =>
    obtain ⟨rescan, hholder, htasks, rfl⟩ := step_cases hs
    have hok : rescan.Ok := by
      have := h.holder
      rw [hholder] at this
      exact this
    have hcommit : CommitGuard rescan.observations := by
      simp only [MediumGuard, hholder] at hguard
      exact hguard
    exact media_toHolder (ends_beginCommit h false hok htasks hcommit)
  | finishCommit w =>
    obtain ⟨background, opened, actions, plans, hholder, rfl⟩ := step_cases hs
    have hok : ActionsOk actions ∧ ∀ plan ∈ plans, DistinctTasks plan.tasks := by
      have := h.holder
      rw [hholder] at this
      exact this
    let u : ClientState :=
      { s with network := opened.foldl (·.insertOpenedSession ·) s.network }
    have hu : MediaInv paths u := h.of_eq ⟨rfl, rfl, rfl⟩
    refine MediaInv.afterCommit (final_of_ends ?_) w background hok.2
    refine ends_bind_of_ok (t := u) (run_modify _) ?_
    have hnodup := (List.nodup_append.mp hu.ids.nodup).1
    refine (@ends_applyActions paths w actions u hnodup).mono (fun _ t ht => ?_)
      fun _ _ ht => ht.elim
    have hruntime : RuntimeGuard paths s actions := by
      simp only [MediumGuard, hholder] at hguard
      exact hguard
    exact hu.commit hok.1 hruntime ht
  | raise event | invalidate localDiskId | deactivate connection sessionId | terminate handle |
    loseDisks =>
    obtain rfl := Option.some.inj hs
    exact h.of_eq ⟨rfl, rfl, rfl⟩
  | rehash openedSessions =>
    obtain ⟨-, rfl⟩ := step_cases hs
    exact h.of_eq ⟨rfl, rfl, rfl⟩

theorem media_init : MediaInv paths {} where
  ids := ⟨List.nodup_nil, fun _ h => nomatch h⟩
  one := List.nodup_nil
  rescan := nofun
  holder := trivial

/-- **One runtime for each medium** in every state that a run reaches, when its steps meet the
condition. -/
theorem oneRuntimePerMedium_run {s : ClientState} {as : List Action}
    (hrun : runFrom (step paths) {} as = some s)
    (hguard : StepsMeet (step paths) (MediumGuard paths) {} as) :
    OneRuntimePerMedium paths s.store.runtimes :=
  (run_inv_of_guard (fun _ _ _ => step_media) as _ _ media_init hguard hrun).one

/-! ### Two runs -/

instance (s : ClientState) (w : Answers) (deletionId : String) :
    Decidable (UndoGuard paths s w deletionId) := by
  unfold UndoGuard
  infer_instance

instance (observations : List NetworkRescanObservation) : Decidable (CommitGuard observations) := by
  unfold CommitGuard
  infer_instance

instance (action : NetworkResolvedAction) : Decidable action.Available :=
  match h : action.result with
  | .invalid _ => .isFalse (by simp [NetworkResolvedAction.Available, h])
  | .refreshMounted _ => .isTrue (by simp [NetworkResolvedAction.Available, h])
  | .setUnmounted _ _ => .isTrue (by simp [NetworkResolvedAction.Available, h])

instance (s : ClientState) (actions : List NetworkResolvedAction) :
    Decidable (RuntimeGuard paths s actions) := by
  unfold RuntimeGuard
  refine @List.decidableBAll _ _ (fun a => ?_) actions
  exact instDecidableForall

instance (s : ClientState) (a : Action) : Decidable (MediumGuard paths s a) := by
  unfold MediumGuard
  split <;> try infer_instance
  all_goals split <;> infer_instance

instance (runtimes : List DiskRuntime) : Decidable (OneRuntimePerMedium paths runtimes) :=
  inferInstanceAs (Decidable (List.Nodup _))

/-- Absolute paths with no `.` or `..` in them. -/
def plainPaths : PathApi where
  Path := String
  ofText := id
  isAbsolute _ := true
  currentDir := .error ""
  join a b := a ++ b
  components path := [.normal path]
  empty := ""
  push a b := a ++ b
  pop a := a
  display := id
  windows := true

/-- The driver, the file system and the configuration file accept everything. -/
def acceptingAnswers : Answers where
  creates := .ok 0
  probe _ := .ok ⟨1048576, false⟩

def createImage : Action :=
  .createFileDisk acceptingAnswers ⟨"image", "C:\\image.img", false, false⟩

/-- A deletion is undone after the file has been added again. -/
theorem undo_two_runtimes :
    ∃ s, runFrom (step plainPaths) {} [createImage, .deleteDisk acceptingAnswers "disk-1",
        createImage, .undoDeleteDisk acceptingAnswers "deletion-1"] = some s ∧
      ¬ OneRuntimePerMedium plainPaths s.store.runtimes := by
  obtain ⟨s, hs, h⟩ := exists_run (step plainPaths) {} [createImage,
    .deleteDisk acceptingAnswers "disk-1", createImage,
    .undoDeleteDisk acceptingAnswers "deletion-1"]
    (fun s => !decide (OneRuntimePerMedium plainPaths s.store.runtimes)) (by decide +kernel)
  exact ⟨s, hs, by simpa using h⟩

/-- A deletion is undone, and a rescan finds the disk of a server available. -/
def undoThenRescan : List Action :=
  [.restoreClientState {} (.ok [⟨"disk-1", "remote", false, false,
      .network "server" "remote" "" 1048576 true⟩]),
    createImage, .deleteDisk acceptingAnswers "disk-2", .undoDeleteDisk acceptingAnswers "deletion-1",
    .startRescan acceptingAnswers,
    .rescan (.authenticated 0 "remote" (.opened 1 (some ⟨1048576, true, [1]⟩))), .beginCommit,
    .finishCommit acceptingAnswers, .mountDisk acceptingAnswers "disk-2"]

theorem undoThenRescan_oneRuntime :
    ∃ s, runFrom (step plainPaths) {} undoThenRescan = some s ∧
      (s.store.runtimes.filterMap (·.heldMedium plainPaths)).length = 2 ∧
      OneRuntimePerMedium plainPaths s.store.runtimes := by
  obtain ⟨s, hs, h⟩ := exists_run (step plainPaths) {} undoThenRescan
    (fun s => decide ((s.store.runtimes.filterMap (·.heldMedium plainPaths)).length = 2))
    (by decide +kernel)
  exact ⟨s, hs, of_decide_eq_true h, oneRuntimePerMedium_run hs (by decide +kernel)⟩

end YumeDisk.TauriClient
