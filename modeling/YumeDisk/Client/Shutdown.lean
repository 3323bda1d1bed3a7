import YumeDisk.Client.Disconnected

/-!
# Closing the connection (`gateway_connection.rs`, `transport_client.rs`)

`transport.close` puts a close command into the same bounded queue as the requests, and only then
shuts the stream down.  With the queue full and the writer in the socket the closer waits for the
writer, the writer for the other side, and nobody shuts the stream down.

* `LinkInv`: the invariant; `LinkInv.step`.
* `CanDisconnect`: the steps of this side lead to the stream being down and the requests failed.
* `closing_disconnects`: **whoever closes the connection can disconnect it**, in every run in which
  nobody closes it with the queue stuck.
* `full_queue_blocks_close`: a run in which somebody does.
-/

namespace YumeDisk.Client

open Lib (Bytes Reaches runFrom StepsMeet)

namespace GatewayConnection

open Requests

variable {s s' : GatewayConnection}

/-! ## The invariant -/

/-- The thread is in `handle_disconnect`, before it fails the requests. -/
def runsDisconnect : Closer → Bool
  | .closing (some _) | .sendingClose (some _) | .shuttingDown (some _) | .failing _ => true
  | _ => false

/-- The queue has a place, or will have one without the other side. -/
def Room (s : GatewayConnection) : Prop :=
  s.transport.outgoing.length < outboundQueueCapacity ∨ s.transport.writer.isWriting = false ∨
    s.transport.dead = true

/-- Somebody is closing the connection. -/
def Closing (s : GatewayConnection) : Prop := ∃ closer ∈ s.closers, closer ≠ .finished

/-- Nobody uses the transport any more, and nothing waits to be written. -/
structure Quiet (s : GatewayConnection) : Prop where
  reading : s.transport.reading = false
  writer : s.transport.writer = .exited ∨
    s.transport.writer = .receiving ∧ s.transport.outgoing = []
  free : s.isHeld = false

structure LinkInv (s : GatewayConnection) : Prop where
  down : s.DownInv
  bound : s.transport.outgoing.length ≤ outboundQueueCapacity
  queued : WriterCommand.close ∈ s.transport.outgoing → s.transport.connected = false
  exited : s.transport.writer = .exited →
    s.transport.dead = true ∨ s.transport.connected = false
  hears : s.transport.connected = true ∨ s.receiveLoop = .receiving →
    s.transport.reading = true ∨ ∃ error, .error error ∈ s.transport.incoming
  errors : (∃ error, .error error ∈ s.transport.incoming) →
    s.transport.dead = true ∨ s.transport.reading = false
  /-- One thread at most has taken the transport. -/
  one : ∀ (i j : Nat) (x y : Closer), s.closers[i]? = some x → s.closers[j]? = some y →
    x.holds → y.holds → i = j
  room : s.Closing → s.transport.connected = true ∨
    (∃ error, Closer.sendingClose error ∈ s.closers) → s.Room
  closed : s.transport.connected = false → s.transport.dead = true ∨
    (∃ closer ∈ s.closers, closer.holds) ∨ s.Quiet
  started : s.receiveLoop = .left → s.disconnect = .notStarted →
    ∃ error, Closer.starting error ∈ s.closers
  runs : s.disconnect = .closed → ∃ closer ∈ s.closers, runsDisconnect closer

/-- Nobody begins to close the connection, and no request takes the last place of the queue while
somebody does, with the writer in the socket and the queue full. -/
def KeepsRoom (s : GatewayConnection) : LinkAction → Prop
  | .close | .handleDisconnect _ => s.transport.connected = true → s.Room
  | .receive => ∀ payload error, s.NextFrame payload →
    s.requests.dispatchResponse payload = .error error → s.transport.connected = true → s.Room
  | .call c => ∀ call, s.requests.calls[c]? = some call → call.stage = .sending → s.Closing →
    s.transport.outgoing.length + 1 < outboundQueueCapacity ∨
      s.transport.writer.isWriting = false ∨ s.transport.dead = true
  | _ => True

/-- The other side ends the stream when all has been written, unless it is shut down or reset. -/
def EndsQuiet (s : GatewayConnection) : LinkAction → Prop
  | .receive => s.receiveLoop = .receiving → ∀ error incoming,
    s.transport.incoming = .error error :: incoming → s.transport.connected = true →
    s.transport.dead = true ∨ s.transport.writer = .receiving ∧ s.transport.outgoing = [] ∧
      anySending s.requests = false
  | _ => True

theorem isHeld_eq_false : s.isHeld = false ↔ s.transport.connected = false ∧
    anySending s.requests = false ∧ (∀ closer ∈ s.closers, closer.holds = false) ∧
    s.receiveLoop ≠ .receiving := by
  unfold isHeld anySending
  rw [Bool.or_eq_false_iff, Bool.or_eq_false_iff, Bool.or_eq_false_iff, List.any_eq_false,
    List.any_eq_false, decide_eq_false_iff_not]
  simp only [Bool.not_eq_true, and_assoc, ne_eq]

theorem linkInv_init : ({} : GatewayConnection).LinkInv where
  down := downInv_init
  bound := Nat.zero_le _
  queued hmem := absurd hmem List.not_mem_nil
  exited h := by cases h
  hears _ := .inl rfl
  errors := fun ⟨_, hmem⟩ => absurd hmem List.not_mem_nil
  one _ _ _ _ hi := by cases hi
  room := fun ⟨_, hmem, _⟩ => absurd hmem List.not_mem_nil
  closed h := by cases h
  started h := by cases h
  runs h := by cases h

/-! ## Lists of closers -/

theorem mem_set_of_ne {α : Type} {l : List α} {k : Nat} {x y z : α} (hx : x ∈ l)
    (hk : l[k]? = some y) (hne : x ≠ y) : x ∈ l.set k z := by
  obtain ⟨i, hi⟩ := List.mem_iff_getElem?.mp hx
  have hik : k ≠ i := by
    rintro rfl
    exact hne (Option.some.inj (hi.symm.trans hk))
  exact List.mem_iff_getElem?.mpr ⟨i, (List.getElem?_set_ne hik).trans hi⟩

theorem mem_set_self {α : Type} {l : List α} {k : Nat} {y z : α} (hk : l[k]? = some y) :
    z ∈ l.set k z := by
  obtain ⟨hlt, -⟩ := List.getElem?_eq_some_iff.mp hk
  exact List.mem_iff_getElem?.mpr ⟨k, List.getElem?_set_self hlt⟩

theorem exists_set {α : Type} {p : α → Bool} {l : List α} {k : Nat} {y z : α}
    (h : ∃ x ∈ l, p x) (hk : l[k]? = some y) (hyz : p y = true → p z = true) :
    ∃ x ∈ l.set k z, p x := by
  obtain ⟨x, hx, hpx⟩ := h
  by_cases hxy : p y = true
  · exact ⟨z, mem_set_self hk, hyz hxy⟩
  · refine ⟨x, mem_set_of_ne hx hk ?_, hpx⟩
    rintro rfl
    exact hxy hpx

theorem getElem?_set_cases {α : Type} {l : List α} {k i : Nat} {x z : α}
    (h : (l.set k z)[i]? = some x) : k = i ∧ x = z ∨ k ≠ i ∧ l[i]? = some x := by
  rw [List.getElem?_set] at h
  split_ifs at h with hki hlt
  · exact .inl ⟨hki, (Option.some.inj h).symm⟩
  · exact .inr ⟨hki, h⟩

theorem getElem?_concat_cases {α : Type} {l : List α} {i : Nat} {x z : α}
    (h : (l ++ [z])[i]? = some x) : l[i]? = some x ∨ x = z := by
  rw [List.getElem?_append] at h
  split_ifs at h
  · exact .inl h
  · exact .inr (List.mem_singleton.mp (List.mem_of_getElem? h))

/-! ## Its parts -/

section Step

variable {a : LinkAction}

theorem bound_step (h : s.LinkInv) (hs : LinkStep s a s') :
    s'.transport.outgoing.length ≤ outboundQueueCapacity := by
  cases hs with
  | sent _ _ _ _ hroom | sendsClose _ _ _ hroom =>
    show (s.transport.outgoing ++ [_]).length ≤ _
    rw [List.length_append]
    exact hroom
  | took _ outgoing _ hout | stopped outgoing _ hout =>
    have hbound := h.bound
    rw [hout, List.length_cons] at hbound
    exact (Nat.le_succ _).trans hbound
  | _ => exact h.bound

theorem queued_step (h : s.LinkInv) (hs : LinkStep s a s')
    (hin : WriterCommand.close ∈ s'.transport.outgoing) : s'.transport.connected = false := by
  cases hs with
  | sent =>
    refine h.queued ((List.mem_append.mp hin).resolve_right fun hmem => ?_)
    cases List.mem_singleton.mp hmem
  | sendsClose error hk => exact h.down.closers _ (List.mem_of_getElem? hk)
  | took _ outgoing _ hout => exact h.queued (hout ▸ List.mem_cons_of_mem _ hin)
  | stopped outgoing _ hout => exact h.queued (hout ▸ List.mem_cons_self)
  | refused | takes | drained | lost => rfl
  | _ => exact h.queued hin

theorem exited_step (h : s.LinkInv) (hs : LinkStep s a s')
    (hwriter : s'.transport.writer = .exited) :
    s'.transport.dead = true ∨ s'.transport.connected = false := by
  cases hs with
  | stopped outgoing _ hout => exact .inr (h.queued (hout ▸ List.mem_cons_self))
  | failed error hdead => exact .inl hdead
  | left _ _ hfree => exact .inr (isHeld_eq_false.mp hfree).1
  | took | wrote => cases hwriter
  | refused | takes | drained | lost => exact .inr rfl
  | shuts => exact .inl rfl
  | reset => exact .inl (Bool.or_true _)
  | _ => exact h.exited hwriter

theorem hears_step (h : s.LinkInv) (hs : LinkStep s a s')
    (hlive : s'.transport.connected = true ∨ s'.receiveLoop = .receiving) :
    s'.transport.reading = true ∨ ∃ error, .error error ∈ s'.transport.incoming := by
  cases hs with
  | refused => exact h.hears (.inr (hlive.resolve_left nofun))
  | takes => exact h.hears (.inr (hlive.resolve_left nofun))
  | polled _ hup => exact h.hears (.inl hup)
  | dropped _ hdown =>
    rcases hlive with hup | hloop
    · exact absurd (hdown.symm.trans hup) nofun
    · cases hloop
  | drained | lost =>
    rcases hlive with hup | hloop
    · cases hup
    · cases hloop
  | dispatched payload incoming _ hloop hin | misled payload incoming _ _ hloop hin =>
    refine (h.hears (.inr hloop)).imp_right fun ⟨error, hmem⟩ => ⟨error, ?_⟩
    rw [hin] at hmem
    exact (List.mem_cons.mp hmem).resolve_left nofun
  | failed error => exact .inr ⟨error, List.mem_append_right _ List.mem_cons_self⟩
  | read event =>
    cases event with
    | error error => exact .inr ⟨error, List.mem_append_right _ List.mem_cons_self⟩
    | ok payload =>
      left
      have hheld : s.isHeld = true := by
        by_contra hfree
        obtain ⟨hdown, -, -, hloop⟩ := isHeld_eq_false.mp (Bool.eq_false_iff.mpr hfree)
        rcases hlive with hup | hreceiving
        · exact absurd (hdown.symm.trans hup) nofun
        · exact hloop hreceiving
      exact Bool.and_eq_true_iff.mpr ⟨rfl, hheld⟩
  | _ => exact h.hears hlive

theorem errors_step (h : s.LinkInv) (hs : LinkStep s a s')
    (hin : ∃ error, .error error ∈ s'.transport.incoming) :
    s'.transport.dead = true ∨ s'.transport.reading = false := by
  obtain ⟨error, hmem⟩ := hin
  cases hs with
  | lost _ incoming _ hold | dispatched _ incoming _ _ hold | misled _ incoming _ _ _ hold =>
    exact h.errors ⟨error, hold ▸ List.mem_cons_of_mem _ hmem⟩
  | failed _ hdead => exact .inl hdead
  | read event hreading =>
    cases event with
    | error _ => exact .inr rfl
    | ok payload =>
      have hold := (List.mem_append.mp hmem).resolve_right fun hnew => by
        cases List.mem_singleton.mp hnew
      exact .inl ((h.errors ⟨error, hold⟩).resolve_right fun hnot =>
        absurd (hnot.symm.trans hreading) nofun)
  | shuts => exact .inl rfl
  | reset => exact .inl (Bool.or_true _)
  | _ => exact h.errors ⟨error, hmem⟩

/-- The stages of a closer after a step of another thread, or of its own. -/
theorem one_of_set {l : List Closer} {k : Nat} {y z : Closer}
    (h : ∀ (i j : Nat) (x y : Closer), l[i]? = some x → l[j]? = some y → x.holds → y.holds → i = j)
    (hk : l[k]? = some y) (hyz : z.holds = true → y.holds = true ∨ ∀ x ∈ l, x.holds = false) :
    ∀ (i j : Nat) (x x' : Closer), (l.set k z)[i]? = some x → (l.set k z)[j]? = some x' →
      x.holds → x'.holds → i = j := by
  intro i j x x' hi hj hx hx'
  rcases getElem?_set_cases hi with ⟨rfl, rfl⟩ | ⟨-, hi'⟩ <;>
    rcases getElem?_set_cases hj with ⟨rfl, rfl⟩ | ⟨-, hj'⟩
  · rfl
  · rcases hyz hx with hy | hnone
    · exact h _ _ _ _ hk hj' hy hx'
    · exact absurd ((hnone _ (List.mem_of_getElem? hj')).symm.trans hx') nofun
  · rcases hyz hx' with hy | hnone
    · exact h _ _ _ _ hi' hk hx hy
    · exact absurd ((hnone _ (List.mem_of_getElem? hi')).symm.trans hx) nofun
  · exact h _ _ _ _ hi' hj' hx hx'

theorem one_of_concat {l : List Closer} {z : Closer}
    (h : ∀ (i j : Nat) (x y : Closer), l[i]? = some x → l[j]? = some y → x.holds → y.holds → i = j)
    (hz : z.holds = false) :
    ∀ (i j : Nat) (x x' : Closer), (l ++ [z])[i]? = some x → (l ++ [z])[j]? = some x' →
      x.holds → x'.holds → i = j := by
  intro i j x x' hi hj hx hx'
  have hold : ∀ {i : Nat} {x : Closer}, (l ++ [z])[i]? = some x → x.holds = true →
      l[i]? = some x := by
    intro i x hi hx
    refine (getElem?_concat_cases hi).resolve_right ?_
    rintro rfl
    exact absurd (hz.symm.trans hx) nofun
  exact h i j x x' (hold hi hx) (hold hj hx') hx hx'

/-- Who has taken the transport, while it is connected. -/
theorem LinkInv.nobody (h : s.LinkInv) (hup : s.transport.connected = true) :
    ∀ closer ∈ s.closers, closer.holds = false := by
  intro closer hmem
  cases hholds : closer.holds with
  | false => rfl
  | true =>
    have hok := h.down.closers closer hmem
    cases closer with
    | sendingClose | shuttingDown => exact absurd (hok.symm.trans hup) nofun
    | _ => cases hholds

theorem afterClose_holds (error : Option NetworkClientError) :
    (afterClose error).holds = false := by
  cases error <;> rfl

theorem one_step (h : s.LinkInv) (hs : LinkStep s a s') :
    ∀ (i j : Nat) (x y : Closer), s'.closers[i]? = some x → s'.closers[j]? = some y →
      x.holds → y.holds → i = j := by
  have hnew : ∀ {z : Closer}, z.holds = false → ∀ {y : Closer}, z.holds = true →
      y.holds = true ∨ ∀ x ∈ s.closers, x.holds = false :=
    fun hz _ hz' => absurd (hz.symm.trans hz') nofun
  cases hs with
  | opened closer hnew =>
    refine one_of_concat h.one ?_
    rcases hnew with ⟨-, rfl⟩ | ⟨error, -, rfl⟩ <;> rfl
  | takes error hk hup => exact one_of_set h.one hk fun _ => .inr (h.nobody hup)
  | finds error hk => exact one_of_set h.one hk (hnew (afterClose_holds error))
  | sendsClose error hk | skipsClose error hk => exact one_of_set h.one hk fun _ => .inl rfl
  | shuts error hk => exact one_of_set h.one hk (hnew (afterClose_holds error))
  | shutFails error hk => exact one_of_set h.one hk fun _ => .inl rfl
  | starts error hk => exact one_of_set h.one hk (hnew rfl)
  | leaves error hk => exact one_of_set h.one hk (hnew rfl)
  | fails error _ hk => exact one_of_set h.one hk (hnew rfl)
  | resets hk => exact one_of_set h.one hk (hnew rfl)
  | dropped | drained | lost | misled => exact one_of_concat h.one rfl
  | _ => exact h.one

theorem started_step (h : s.LinkInv) (hs : LinkStep s a s') (hloop : s'.receiveLoop = .left)
    (hfirst : s'.disconnect = .notStarted) : ∃ error, Closer.starting error ∈ s'.closers := by
  have hset : ∀ {k : Nat} {y : Closer} (z : Closer), s.closers[k]? = some y →
      (∀ error, y ≠ .starting error) → s.receiveLoop = .left → s.disconnect = .notStarted →
      ∃ error, Closer.starting error ∈ s.closers.set k z := by
    intro k y z hk hne hloop hfirst
    obtain ⟨error, hmem⟩ := h.started hloop hfirst
    exact ⟨error, mem_set_of_ne hmem hk (hne error).symm⟩
  cases hs with
  | opened =>
    obtain ⟨error, hmem⟩ := h.started hloop hfirst
    exact ⟨error, List.mem_append_left _ hmem⟩
  | takes _ hk | finds _ hk | sendsClose _ hk | skipsClose _ hk | shuts _ hk | shutFails _ hk =>
    exact hset _ hk nofun hloop hfirst
  | starts | fails | resets => cases hfirst
  | leaves _ _ hlater => exact absurd hfirst hlater
  | dropped | drained | lost | misled =>
    exact ⟨_, List.mem_append_right _ List.mem_cons_self⟩
  | polled | dispatched => cases hloop
  | _ => exact h.started hloop hfirst

theorem runs_step (h : s.LinkInv) (hs : LinkStep s a s') (hclosed : s'.disconnect = .closed) :
    ∃ closer ∈ s'.closers, runsDisconnect closer := by
  have hconcat : ∀ z, s.disconnect = .closed →
      ∃ closer ∈ s.closers ++ [z], runsDisconnect closer := by
    intro z hclosed
    obtain ⟨closer, hmem, hruns⟩ := h.runs hclosed
    exact ⟨closer, List.mem_append_left _ hmem, hruns⟩
  cases hs with
  | opened | dropped | drained | lost | misled => exact hconcat _ hclosed
  | takes error hk | finds error hk | sendsClose error hk | skipsClose error hk | shuts error hk
  | shutFails error hk =>
    refine exists_set (h.runs hclosed) hk fun hruns => ?_
    cases error with
    | none => cases hruns
    | some error => rfl
  | starts error hk => exact ⟨_, mem_set_self hk, rfl⟩
  | leaves error hk => exact exists_set (h.runs hclosed) hk nofun
  | fails | resets => cases hclosed
  | _ => exact h.runs hclosed

theorem Room.same (h : s.Room) (hout : s'.transport.outgoing = s.transport.outgoing)
    (hwriter : s'.transport.writer = s.transport.writer)
    (hdead : s'.transport.dead = s.transport.dead) : s'.Room := by
  unfold Room at h ⊢
  rw [hout, hwriter, hdead]
  exact h

/-- A thread that has not finished. -/
theorem closing_of {k : Nat} {closer : Closer} (hk : s.closers[k]? = some closer)
    (hne : closer ≠ .finished) : s.Closing := ⟨closer, List.mem_of_getElem? hk, hne⟩

theorem closing_of_sending {error : Option NetworkClientError}
    (hmem : Closer.sendingClose error ∈ s.closers) : s.Closing := ⟨_, hmem, nofun⟩

theorem sendingClose_ne {error : Option NetworkClientError} {z : Closer}
    (hz : z.isSending = false) : Closer.sendingClose error ≠ z := by
  rintro rfl
  cases hz

theorem room_step (h : s.LinkInv) (hG : s.KeepsRoom a) (hs : LinkStep s a s')
    (hclosing : s'.Closing) (hlive : s'.transport.connected = true ∨
      ∃ error, Closer.sendingClose error ∈ s'.closers) : s'.Room := by
  -- a step of a thread that closes, which leaves the queue alone
  have hset : ∀ {k : Nat} {y z : Closer}, s.closers[k]? = some y → y ≠ .finished →
      (s.transport.connected = true ∨ ∃ error, Closer.sendingClose error ∈ s.closers.set k z) →
      z.isSending = false → s.Room := by
    intro k y z hk hne hlive hz
    refine h.room (closing_of hk hne) (hlive.imp_right fun ⟨error, hmem⟩ => ⟨error, ?_⟩)
    exact (List.mem_or_eq_of_mem_set hmem).resolve_right (sendingClose_ne hz)
  have hconcat : ∀ {z : Closer}, (∃ error, Closer.sendingClose error ∈ s.closers ++ [z]) →
      z.isSending = false → s.Room := by
    rintro z ⟨error, hmem⟩ hz
    have hold := (List.mem_append.mp hmem).resolve_right fun hnew =>
      sendingClose_ne hz (List.mem_singleton.mp hnew)
    exact h.room (closing_of_sending hold) (.inr ⟨error, hold⟩)
  cases hs with
  | sent r hcall hstage hwriter hroom =>
    refine (hG _ hcall hstage hclosing).imp_left fun hless => ?_
    show (s.transport.outgoing ++ [_]).length < _
    rw [List.length_append]
    exact hless
  | refused _ hwriter => exact .inr (.inl (congrArg WriterLoop.isWriting hwriter))
  | opened closer hnew =>
    rcases hnew with ⟨rfl, rfl⟩ | ⟨error, rfl, rfl⟩
    · exact Room.same (hlive.elim hG fun hmem => hconcat hmem rfl) rfl rfl rfl
    · exact Room.same (hlive.elim hG fun hmem => hconcat hmem rfl) rfl rfl rfl
  | takes error hk hup => exact Room.same (h.room (closing_of hk nofun) (.inl hup)) rfl rfl rfl
  | finds error hk => exact Room.same (hset hk nofun hlive (afterClose_isSending error)) rfl rfl rfl
  | sendsClose error hk =>
    -- it was the only one
    exfalso
    have hdown : s.transport.connected = false := h.down.closers _ (List.mem_of_getElem? hk)
    obtain ⟨error', hmem⟩ := hlive.resolve_left fun hup => absurd (hdown.symm.trans hup) nofun
    obtain ⟨i, hi⟩ := List.mem_iff_getElem?.mp hmem
    rcases getElem?_set_cases hi with ⟨-, heq⟩ | ⟨hne, hi⟩
    · cases heq
    · exact hne (h.one _ _ _ _ hk hi rfl rfl)
  | skipsClose error hk hwriter => exact .inr (.inl (congrArg WriterLoop.isWriting hwriter))
  | shuts => exact .inr (.inr rfl)
  | shutFails _ _ hbroken => exact .inr (.inr (Bool.or_eq_true_iff.mpr (.inr hbroken)))
  | starts _ hk => exact Room.same (hset hk nofun hlive rfl) rfl rfl rfl
  | leaves _ hk => exact Room.same (hset hk nofun hlive rfl) rfl rfl rfl
  | fails _ _ hk => exact Room.same (hset hk nofun hlive rfl) rfl rfl rfl
  | resets hk => exact Room.same (hset hk nofun hlive rfl) rfl rfl rfl
  | dropped _ hdown =>
    exact Room.same (hconcat (hlive.resolve_left fun hup =>
      absurd (hdown.symm.trans hup) nofun) rfl) rfl rfl rfl
  | drained | lost =>
    exact Room.same (hconcat (hlive.resolve_left nofun) rfl) rfl rfl rfl
  | misled payload incoming _ error hloop hin hbad =>
    have hframe : s.NextFrame payload := ⟨hloop, by rw [hin]; rfl⟩
    exact Room.same (hlive.elim (hG payload error hframe hbad) fun hmem => hconcat hmem rfl)
      rfl rfl rfl
  | took _ outgoing _ hout =>
    have hbound := h.bound
    rw [hout, List.length_cons] at hbound
    exact .inl hbound
  | stopped | wrote | failed | left => exact .inr (.inl rfl)
  | reset => exact .inr (.inr (Bool.or_true _))
  | _ => exact Room.same (h.room hclosing hlive) rfl rfl rfl

/-- A transport that nobody uses stays so. -/
theorem free_step (hfree : s.isHeld = false) (hs : LinkStep s a s') : s'.isHeld = false := by
  obtain ⟨hdown, hcalls, hclosers, hloop⟩ := isHeld_eq_false.mp hfree
  have hset : ∀ {k : Nat} {z : Closer}, z.holds = false →
      ∀ closer ∈ s.closers.set k z, closer.holds = false := by
    intro k z hz closer hmem
    rcases List.mem_or_eq_of_mem_set hmem with hold | rfl
    · exact hclosers closer hold
    · exact hz
  have hconcat : ∀ {z : Closer}, z.holds = false →
      ∀ closer ∈ s.closers ++ [z], closer.holds = false := by
    intro z hz closer hmem
    rcases List.mem_append.mp hmem with hold | hnew
    · exact hclosers closer hold
    · rw [List.mem_singleton.mp hnew]
      exact hz
  have hholder : ∀ {k : Nat} {closer : Closer}, s.closers[k]? = some closer →
      closer.holds = true → False := fun hk hholds =>
    absurd ((hclosers _ (List.mem_of_getElem? hk)).symm.trans hholds) nofun
  cases hs with
  | requests r hcall =>
    have hle := hcall.resolve_left (by rw [hdown]; nofun)
    exact isHeld_eq_false.mpr ⟨hdown, anySending_of_le hcalls hle, hclosers, hloop⟩
  | sent _ hcall hstage =>
    refine absurd (hcalls.symm.trans (List.any_eq_true.mpr
      ⟨_, List.mem_of_getElem? hcall, ?_⟩)) nofun
    rw [hstage]
    rfl
  | refused r hwriter hcall =>
    exact isHeld_eq_false.mpr ⟨rfl, anySending_of_le hcalls hcall, hclosers, hloop⟩
  | opened closer hnew =>
    refine isHeld_eq_false.mpr ⟨hdown, hcalls, hconcat ?_, hloop⟩
    rcases hnew with ⟨-, rfl⟩ | ⟨error, -, rfl⟩ <;> rfl
  | takes _ _ hup | polled _ hup => exact absurd (hdown.symm.trans hup) nofun
  | sendsClose _ hk | skipsClose _ hk | shuts _ hk | shutFails _ hk => exact (hholder hk rfl).elim
  | finds error hk =>
    exact isHeld_eq_false.mpr ⟨hdown, hcalls, hset (afterClose_holds error), hloop⟩
  | starts | leaves | resets => exact isHeld_eq_false.mpr ⟨hdown, hcalls, hset rfl, hloop⟩
  | fails _ _ _ hsame =>
    exact isHeld_eq_false.mpr
      ⟨hdown, anySending_of_le hcalls (sending_congr hsame).le, hset rfl, hloop⟩
  | dropped => exact isHeld_eq_false.mpr ⟨hdown, hcalls, hconcat rfl, nofun⟩
  | drained hreceiving | lost _ _ hreceiving | dispatched _ _ _ hreceiving
  | misled _ _ _ _ hreceiving => exact absurd hreceiving hloop
  | _ => exact isHeld_eq_false.mpr ⟨hdown, hcalls, hclosers, hloop⟩

/-- The stream that nobody uses is still not read and not written. -/
theorem Quiet.step (h : s.Quiet) (hs : LinkStep s a s') : s'.Quiet := by
  have hfree := free_step h.free hs
  obtain ⟨hdown, hcalls, hclosers, hloop⟩ := isHeld_eq_false.mp h.free
  have hholder : ∀ {k : Nat} {closer : Closer}, s.closers[k]? = some closer →
      closer.holds = true → False := fun hk hholds =>
    absurd ((hclosers _ (List.mem_of_getElem? hk)).symm.trans hholds) nofun
  cases hs with
  | sent _ hcall hstage =>
    refine absurd (hcalls.symm.trans (List.any_eq_true.mpr
      ⟨_, List.mem_of_getElem? hcall, ?_⟩)) nofun
    rw [hstage]
    rfl
  | sendsClose _ hk => exact (hholder hk rfl).elim
  | took _ _ hwriter hout | stopped _ hwriter hout =>
    rcases h.writer with hexited | ⟨-, hempty⟩
    · exact absurd (hwriter.symm.trans hexited) nofun
    · exact absurd (hout.symm.trans hempty) nofun
  | wrote hwriter =>
    rcases h.writer with hexited | ⟨hreceiving, -⟩
    · rw [hexited] at hwriter
      cases hwriter
    · rw [hreceiving] at hwriter
      cases hwriter
  | failed | left => exact ⟨h.reading, .inl rfl, hfree⟩
  | read _ hreading => exact absurd (h.reading.symm.trans hreading) nofun
  | drained hreceiving | lost _ _ hreceiving | dispatched _ _ _ hreceiving
  | misled _ _ _ _ hreceiving => exact absurd hreceiving hloop
  | _ => exact ⟨h.reading, h.writer, hfree⟩

/-- A dead stream stays dead. -/
theorem dead_step (hdead : s.transport.dead = true) (hs : LinkStep s a s') :
    s'.transport.dead = true := by
  cases hs with
  | shuts => rfl
  | reset => exact Bool.or_true _
  | _ => exact hdead

/-- Whoever has taken the transport has it till the stream is dead. -/
theorem holder_step (h : ∃ closer ∈ s.closers, closer.holds) (hs : LinkStep s a s') :
    s'.transport.dead = true ∨ ∃ closer ∈ s'.closers, closer.holds := by
  have hconcat : ∀ z, ∃ closer ∈ s.closers ++ [z], closer.holds := by
    intro z
    obtain ⟨closer, hmem, hholds⟩ := h
    exact ⟨closer, List.mem_append_left _ hmem, hholds⟩
  cases hs with
  | opened | dropped | drained | lost | misled => exact .inr (hconcat _)
  | takes error hk | finds error hk | starts error hk | leaves error hk | fails error _ hk
  | resets hk => exact .inr (exists_set h hk nofun)
  | sendsClose error hk | skipsClose error hk => exact .inr (exists_set h hk fun _ => rfl)
  | shuts => exact .inl rfl
  | shutFails _ _ hbroken => exact .inl (Bool.or_eq_true_iff.mpr (.inr hbroken))
  | _ => exact .inr h

theorem closed_step (h : s.LinkInv) (hG : s.EndsQuiet a) (hs : LinkStep s a s')
    (hdown' : s'.transport.connected = false) : s'.transport.dead = true ∨
      (∃ closer ∈ s'.closers, closer.holds) ∨ s'.Quiet := by
  cases hdown : s.transport.connected with
  | false =>
    rcases h.closed hdown with hdead | hholder | hquiet
    · exact .inl (dead_step hdead hs)
    · exact (holder_step hholder hs).imp_right .inl
    · exact .inr (.inr (hquiet.step hs))
  | true =>
    cases hs with
    | refused _ hwriter =>
      exact .inl ((h.exited hwriter).resolve_right fun hnot => absurd (hnot.symm.trans hdown) nofun)
    | takes _ hk => exact .inr (.inl ⟨_, mem_set_self hk, rfl⟩)
    | dropped _ hnot => exact absurd (hnot.symm.trans hdown) nofun
    | drained hloop hin hreading =>
      rcases h.hears (.inr hloop) with hread | ⟨error, hmem⟩
      · exact absurd (hreading.symm.trans hread) nofun
      · rw [hin] at hmem
        exact absurd hmem List.not_mem_nil
    | lost error incoming hloop hin =>
      rcases hG hloop error incoming hin hdown with hdead | ⟨hwriter, hout, hcalls⟩
      · exact .inl hdead
      · rcases h.errors ⟨error, hin ▸ List.mem_cons_self⟩ with hdead | hreading
        · exact .inl hdead
        · refine .inr (.inr ⟨hreading, .inr ⟨hwriter, hout⟩, isHeld_eq_false.mpr
            ⟨rfl, hcalls, fun closer hmem => ?_, nofun⟩⟩)
          rcases List.mem_append.mp hmem with hold | hnew
          · exact h.nobody hdown closer hold
          · rw [List.mem_singleton.mp hnew]
            rfl
    | _ => exact absurd (hdown'.symm.trans hdown) nofun

/-- The queue has room for the close command, and the stream ends when all has been written. -/
def ClosesFreely (s : GatewayConnection) (a : LinkAction) : Prop := s.KeepsRoom a ∧ s.EndsQuiet a

/-- **Step lemma.** -/
theorem LinkInv.step (h : s.LinkInv) (hG : s.ClosesFreely a) (hs : s.step a = some s') :
    s'.LinkInv := by
  have hlink := linkStep_of_step hs
  exact {
    down := h.down.step hs
    bound := bound_step h hlink
    queued := queued_step h hlink
    exited := exited_step h hlink
    hears := hears_step h hlink
    errors := errors_step h hlink
    one := one_step h hlink
    room := room_step h hG.1 hlink
    closed := closed_step h hG.2 hlink
    started := started_step h hlink
    runs := runs_step h hlink }

end Step

/-! ## The way to the disconnect -/

/-- The stream is shut down or reset, or nobody uses it any more and it is closed. -/
def Down (s : GatewayConnection) : Prop :=
  s.transport.dead = true ∨
    s.transport.reading = false ∧ s.transport.writer = .exited ∧ s.isHeld = false

/-- The steps of this side lead to the stream being down and the requests failed. -/
def CanDisconnect (s : GatewayConnection) : Prop :=
  Reaches own s fun t => t.Down ∧ NonePending t.requests

theorem Down.step {a : LinkAction} (h : s.Down) (hs : LinkStep s a s') : s'.Down := by
  rcases h with hdead | ⟨hreading, hexited, hfree⟩
  · exact .inl (dead_step hdead hs)
  · have hquiet : s.Quiet := ⟨hreading, .inl hexited, hfree⟩
    have hquiet' := hquiet.step hs
    refine .inr ⟨hquiet'.reading, ?_, hquiet'.free⟩
    cases hs with
    | took _ _ hwriter | stopped _ hwriter => exact absurd (hwriter.symm.trans hexited) nofun
    | wrote hwriter =>
      rw [hexited] at hwriter
      cases hwriter
    | failed | left => rfl
    | _ => exact hexited

/-- A state on the way, with what is known there. -/
def Way (P : GatewayConnection → Prop) (s : GatewayConnection) : Prop :=
  Reaches own s fun t => t.LinkInv ∧ P t

section Way

variable {P Q : GatewayConnection → Prop} {k : Nat}

theorem Way.here (h : s.LinkInv) (hP : P s) : Way P s := Reaches.here ⟨h, hP⟩

theorem Way.bind (h : Way P s) (hPQ : ∀ t, t.LinkInv → P t → Way Q t) : Way Q s :=
  Reaches.bind h fun t ht => hPQ t ht.1 ht.2

/-- A step of this side. -/
theorem Way.after {a : LinkAction} (h : s.LinkInv) (hs : s.own a = some s') (hG : s.ClosesFreely a)
    (hway : s'.LinkInv → (s.Down → s'.Down) → Way P s') : Way P s := by
  have hstep : s.step a = some s' := by
    unfold own at hs
    split at hs
    · split_ifs at hs
      exact hs
    · split_ifs at hs
      exact hs
  exact Reaches.after hs (hway (h.step hG hstep) fun hdown => hdown.step (linkStep_of_step hstep))

/-- A step of a thread that closes. -/
theorem Way.closer {closer : Closer} (h : s.LinkInv) (hk : s.closers[k]? = some closer)
    (hs : s.stepCloser k (!s.transport.broken) closer = some s')
    (hway : s'.LinkInv → (s.Down → s'.Down) → Way P s') : Way P s :=
  .after h ((own_closer hk).trans hs) ⟨trivial, trivial⟩ hway

theorem setCloser_self {closer closer' : Closer} (hk : s.closers[k]? = some closer) :
    (s.closers.set k closer')[k]? = some closer' := by
  obtain ⟨hlt, -⟩ := List.getElem?_eq_some_iff.mp hk
  exact List.getElem?_set_self hlt

/-- The close command has been sent. -/
def ClosedBy (s : GatewayConnection) (k : Nat) (error : Option NetworkClientError)
    (t : GatewayConnection) : Prop :=
  t.closers[k]? = some (.shuttingDown error) ∧ t.disconnect = s.disconnect ∧ (s.Down → t.Down)

theorem way_skipsClose {error : Option NetworkClientError} (h : s.LinkInv)
    (hk : s.closers[k]? = some (.sendingClose error)) (hwriter : s.transport.writer = .exited) :
    Way (s.ClosedBy k error) s := by
  have hs : s.stepCloser k (!s.transport.broken) (.sendingClose error) =
      some (s.setCloser k (.shuttingDown error)) := if_pos hwriter
  exact .closer h hk hs fun h' hdown => .here h' ⟨setCloser_self hk, rfl, hdown⟩

theorem way_closes_of_room {error : Option NetworkClientError} (h : s.LinkInv)
    (hk : s.closers[k]? = some (.sendingClose error))
    (hroom : s.transport.outgoing.length < outboundQueueCapacity) :
    Way (s.ClosedBy k error) s := by
  by_cases hwriter : s.transport.writer = .exited
  · exact way_skipsClose h hk hwriter
  · have hs : s.stepCloser k (!s.transport.broken) (.sendingClose error) =
        some { s.setCloser k (.shuttingDown error) with
          transport := { s.transport with outgoing := s.transport.outgoing ++ [.close] } } :=
      (if_neg hwriter).trans (if_pos hroom)
    exact .closer h hk hs fun h' hdown => .here h' ⟨setCloser_self hk, rfl, hdown⟩

theorem Way.closedBy {t : GatewayConnection} {error : Option NetworkClientError}
    (hsame : t.disconnect = s.disconnect) (hdown : s.Down → t.Down)
    (hway : Way (t.ClosedBy k error) t) : Way (s.ClosedBy k error) t :=
  hway.bind fun _ hu ⟨hclosed, hsame', hdown'⟩ =>
    .here hu ⟨hclosed, hsame'.trans hsame, fun hd => hdown' (hdown hd)⟩

theorem way_closes_of_receiving {error : Option NetworkClientError} (h : s.LinkInv)
    (hk : s.closers[k]? = some (.sendingClose error)) (hwriter : s.transport.writer = .receiving) :
    Way (s.ClosedBy k error) s := by
  cases hout : s.transport.outgoing with
  | nil =>
    refine way_closes_of_room h hk ?_
    rw [hout]
    decide
  | cons command outgoing =>
    have hbound := h.bound
    rw [hout, List.length_cons] at hbound
    cases command with
    | payload payload =>
      have hs : s.own .take = some (s.setTransport { s.transport with
          writer := .writing payload, outgoing }) := by
        show s.stepTake = _
        unfold stepTake
        rw [hwriter, hout]
      exact .after h hs ⟨trivial, trivial⟩ fun h' hdown =>
        .closedBy rfl hdown (way_closes_of_room h' hk hbound)
    | close =>
      have hs : s.own .take = some (s.setTransport { s.transport with
          writer := .exited, outgoing }) := by
        show s.stepTake = _
        unfold stepTake
        rw [hwriter, hout]
      exact .after h hs ⟨trivial, trivial⟩ fun h' hdown =>
        .closedBy rfl hdown (way_skipsClose h' hk rfl)

/-- **The close command gets into the queue.** -/
theorem way_closes {error : Option NetworkClientError} (h : s.LinkInv)
    (hk : s.closers[k]? = some (.sendingClose error)) : Way (s.ClosedBy k error) s := by
  have hmem := List.mem_of_getElem? hk
  cases hwriter : s.transport.writer with
  | exited => exact way_skipsClose h hk hwriter
  | receiving => exact way_closes_of_receiving h hk hwriter
  | writing payload =>
    rcases h.room (closing_of_sending hmem) (.inr ⟨error, hmem⟩) with hless | hnot | hdead
    · exact way_closes_of_room h hk hless
    · rw [hwriter] at hnot
      cases hnot
    · have hs : s.own (.writeFails .sessionUnavailable) = some (s.setTransport { s.transport with
          writer := .exited
          incoming := s.transport.incoming ++ [.error .sessionUnavailable] }) := by
        show s.stepWriter (some .sessionUnavailable) = _
        unfold stepWriter
        rw [hwriter]
        exact if_pos hdead
      exact .after h hs ⟨trivial, trivial⟩ fun h' hdown =>
        .closedBy rfl hdown (way_skipsClose h' hk rfl)

/-- The stream has been shut down. -/
def ShutBy (s : GatewayConnection) (k : Nat) (error : Option NetworkClientError)
    (t : GatewayConnection) : Prop :=
  t.transport.dead = true ∧ t.disconnect = s.disconnect ∧
    ∀ e, error = some e → t.closers[k]? = some (.failing e)

theorem way_shuts {error : Option NetworkClientError} (h : s.LinkInv)
    (hk : s.closers[k]? = some (.shuttingDown error)) : Way (s.ShutBy k error) s := by
  cases hbroken : s.transport.broken with
  | true =>
    have hs : s.stepCloser k (!s.transport.broken) (.shuttingDown error) =
        some (s.setCloser k (error.elim .finished .failing)) := by
      show (if (!s.transport.broken) = true then _ else
        if s.transport.broken = true then _ else none) = _
      rw [hbroken]
      rfl
    refine .closer h hk hs fun h' _ => .here h' ⟨Bool.or_eq_true_iff.mpr (.inr hbroken), rfl, ?_⟩
    rintro e rfl
    exact setCloser_self hk
  | false =>
    have hs : s.stepCloser k (!s.transport.broken) (.shuttingDown error) =
        some { s.setCloser k (afterClose error) with
          transport := { s.transport with shutdown := true } } := by
      show (if (!s.transport.broken) = true then _ else _) = _
      rw [hbroken]
      rfl
    refine .closer h hk hs fun h' _ => .here h' ⟨rfl, rfl, ?_⟩
    rintro e rfl
    exact setCloser_self hk

/-- **Who has taken the transport shuts the stream down.** -/
theorem way_closes_shuts {error : Option NetworkClientError} (h : s.LinkInv)
    (hk : s.closers[k]? = some (.sendingClose error)) : Way (s.ShutBy k error) s :=
  (way_closes h hk).bind fun _ ht ⟨hclosed, hsame, _⟩ =>
    (way_shuts ht hclosed).bind fun _ hu ⟨hdead, hsame', hfailing⟩ =>
      .here hu ⟨hdead, hsame'.trans hsame, hfailing⟩

theorem way_dead_of_holder (h : s.LinkInv) (hholder : ∃ closer ∈ s.closers, closer.holds) :
    Way (fun t => t.transport.dead = true) s := by
  obtain ⟨closer, hmem, hholds⟩ := hholder
  obtain ⟨k, hk⟩ := List.mem_iff_getElem?.mp hmem
  cases closer with
  | sendingClose error =>
    exact (way_closes_shuts h hk).bind fun _ ht hshut => .here ht hshut.1
  | shuttingDown error => exact (way_shuts h hk).bind fun _ ht hshut => .here ht hshut.1
  | _ => cases hholds

theorem way_takes {error : Option NetworkClientError} (h : s.LinkInv)
    (hk : s.closers[k]? = some (.closing error)) (hup : s.transport.connected = true) :
    Way (s.ShutBy k error) s := by
  have hs : s.stepCloser k (!s.transport.broken) (.closing error) =
      some { s.setCloser k (.sendingClose error) with
        transport := { s.transport with connected := false } } := congrArg some (if_pos hup)
  exact .closer h hk hs fun h' _ => way_closes_shuts h' (setCloser_self hk)

/-! ### The stream goes down -/

/-- Somebody who closes an open connection gets to `transport.close`, or has got there. -/
theorem way_dead_of_closing (h : s.LinkInv) (hclosing : s.Closing)
    (hup : s.transport.connected = true) : Way (fun t => t.transport.dead = true) s := by
  have htake : ∀ {k : Nat} {error : Option NetworkClientError},
      s.closers[k]? = some (.closing error) → Way (fun t => t.transport.dead = true) s :=
    fun hk => (way_takes h hk hup).bind fun _ ht hshut => .here ht hshut.1
  obtain ⟨closer, hmem, hne⟩ := hclosing
  obtain ⟨k, hk⟩ := List.mem_iff_getElem?.mp hmem
  have hok := h.down.closers closer hmem
  cases closer with
  | closing error => exact htake hk
  | sendingClose | shuttingDown | failing => exact absurd (hok.symm.trans hup) nofun
  | resetting => exact absurd (hok.connected.symm.trans hup) nofun
  | finished => exact absurd rfl hne
  | starting error =>
    cases hdisconnect : s.disconnect with
    | notStarted =>
      have hs : s.stepCloser k (!s.transport.broken) (.starting error) =
          some { s.setCloser k (.closing (some error)) with disconnect := .closed } :=
        congrArg some (if_pos hdisconnect)
      exact .closer h hk hs fun h' _ => (way_takes h' (setCloser_self hk) hup).bind
        fun _ ht hshut => .here ht hshut.1
    | closed =>
      -- another thread is in `handle_disconnect`
      obtain ⟨runner, hrunner, hruns⟩ := h.runs hdisconnect
      obtain ⟨j, hj⟩ := List.mem_iff_getElem?.mp hrunner
      have hrunnerOk := h.down.closers runner hrunner
      cases runner with
      | closing error => exact htake hj
      | sendingClose | shuttingDown | failing => exact absurd (hrunnerOk.symm.trans hup) nofun
      | starting | resetting | finished => cases hruns
    | swept => exact absurd ((h.down.swept (.inl hdisconnect)).connected.symm.trans hup) nofun
    | done => exact absurd ((h.down.swept (.inr hdisconnect)).connected.symm.trans hup) nofun

/-- **The stream goes down** when somebody closes the connection. -/
theorem way_down (h : s.LinkInv) (hclosing : s.Closing) : Way Down s := by
  have hdead : Way (fun t => t.transport.dead = true) s → Way Down s :=
    fun hway => hway.bind fun _ ht hdead => .here ht (.inl hdead)
  cases hup : s.transport.connected with
  | true => exact hdead (way_dead_of_closing h hclosing hup)
  | false =>
    rcases h.closed hup with hd | hholder | hquiet
    · exact .here h (.inl hd)
    · exact hdead (way_dead_of_holder h hholder)
    · rcases hquiet.writer with hexited | ⟨hreceiving, hout⟩
      · exact .here h (.inr ⟨hquiet.reading, hexited, hquiet.free⟩)
      · have hs : s.own .writerLeaves =
            some (s.setTransport { s.transport with writer := .exited }) :=
          if_pos ⟨hreceiving, hout, hquiet.free⟩
        exact .after h hs ⟨trivial, trivial⟩ fun h' _ =>
          .here h' (.inr ⟨hquiet.reading, rfl, hquiet.free⟩)

/-! ### The requests fail -/

/-- The stream is down and the requests have been failed. -/
def Over (s : GatewayConnection) : Prop := s.Down ∧ s.disconnect = .swept

theorem way_over_of_failing {error : NetworkClientError} (h : s.LinkInv) (hdown : s.Down)
    (hk : s.closers[k]? = some (.failing error)) : Way Over s := by
  have hs : s.stepCloser k (!s.transport.broken) (.failing error) =
      some { (s.setRequests (s.requests.failAllPending error)).setCloser k .resetting with
        disconnect := .swept } := rfl
  exact .closer h hk hs fun h' hdown' => .here h' ⟨hdown' hdown, rfl⟩

theorem way_over_of_shut {error : NetworkClientError}
    (h : Way (s.ShutBy k (some error)) s) : Way Over s :=
  h.bind fun _ ht ⟨hdead, _, hfailing⟩ => way_over_of_failing ht (.inl hdead) (hfailing error rfl)

theorem way_over_of_runs (h : s.LinkInv) (hdown : s.Down)
    (hruns : ∃ closer ∈ s.closers, runsDisconnect closer) : Way Over s := by
  obtain ⟨closer, hmem, hruns⟩ := hruns
  obtain ⟨k, hk⟩ := List.mem_iff_getElem?.mp hmem
  cases closer with
  | closing error =>
    cases error with
    | none => cases hruns
    | some error =>
      cases hup : s.transport.connected with
      | true => exact way_over_of_shut (way_takes h hk hup)
      | false =>
        have hs : s.stepCloser k (!s.transport.broken) (.closing (some error)) =
            some (s.setCloser k (.failing error)) :=
          congrArg some (if_neg (by rw [hup]; nofun))
        exact .closer h hk hs fun h' hdown' =>
          way_over_of_failing h' (hdown' hdown) (setCloser_self hk)
  | sendingClose error =>
    cases error with
    | none => cases hruns
    | some error => exact way_over_of_shut (way_closes_shuts h hk)
  | shuttingDown error =>
    cases error with
    | none => cases hruns
    | some error => exact way_over_of_shut (way_shuts h hk)
  | failing error => exact way_over_of_failing h hdown hk
  | starting | resetting | finished => cases hruns

theorem way_over_of_starting (h : s.LinkInv) (hdown : s.Down) (hfirst : s.disconnect = .notStarted)
    (hstarting : ∃ error, Closer.starting error ∈ s.closers) : Way Over s := by
  obtain ⟨error, hmem⟩ := hstarting
  obtain ⟨k, hk⟩ := List.mem_iff_getElem?.mp hmem
  have hs : s.stepCloser k (!s.transport.broken) (.starting error) =
      some { s.setCloser k (.closing (some error)) with disconnect := .closed } :=
    congrArg some (if_pos hfirst)
  exact .closer h hk hs fun h' hdown' => way_over_of_runs h' (hdown' hdown)
    ⟨_, mem_set_self hk, rfl⟩

theorem way_over_of_left (h : s.LinkInv) (hdead : s.transport.dead = true)
    (hloop : s.receiveLoop = .left) (hfirst : s.disconnect = .notStarted) : Way Over s :=
  way_over_of_starting h (.inl hdead) hfirst (h.started hloop hfirst)

/-- The receive loop looks at the transport again. -/
theorem way_over_of_polling (h : s.LinkInv) (hdead : s.transport.dead = true)
    (hloop : s.receiveLoop = .polling) (hfirst : s.disconnect = .notStarted)
    (hnext : LinkInv { s with receiveLoop := .receiving } →
      Way Over { s with receiveLoop := .receiving }) : Way Over s := by
  have hfree : s.ClosesFreely .receive :=
    ⟨fun _ _ _ _ _ => .inr (.inr hdead), fun _ _ _ _ _ => .inl hdead⟩
  cases hup : s.transport.connected with
  | true =>
    have hs : s.own .receive = some { s with receiveLoop := .receiving } := by
      show s.stepReceive = _
      unfold stepReceive
      rw [hloop]
      exact congrArg some (if_pos hup)
    exact .after h hs hfree fun h' _ => hnext h'
  | false =>
    have hs : s.own .receive = some (s.leaveLoop .sessionUnavailable) := by
      show s.stepReceive = _
      unfold stepReceive
      rw [hloop]
      exact congrArg some (if_neg (by rw [hup]; nofun))
    exact .after h hs hfree fun h' _ => way_over_of_left h' hdead rfl hfirst

/-- **The receive loop finds a dead stream** and leaves. -/
theorem way_over_of_receiving (n : Nat) : ∀ {s : GatewayConnection}, s.LinkInv →
    s.transport.dead = true → s.receiveLoop = .receiving → s.disconnect = .notStarted →
    s.transport.incoming.length = n → (∃ error, .error error ∈ s.transport.incoming) →
    Way Over s := by
  induction n with
  | zero =>
    rintro s - - - - hlength ⟨error, hmem⟩
    rw [List.length_eq_zero_iff.mp hlength] at hmem
    exact absurd hmem List.not_mem_nil
  | succ n ih =>
    intro s h hdead hloop hfirst hlength herror
    have hfree : s.ClosesFreely .receive :=
      ⟨fun _ _ _ _ _ => .inr (.inr hdead), fun _ _ _ _ _ => .inl hdead⟩
    cases hin : s.transport.incoming with
    | nil =>
      rw [hin] at hlength
      cases hlength
    | cons event incoming =>
      rw [hin, List.length_cons] at hlength
      have hs : s.own .receive = s.stepReceive := rfl
      unfold stepReceive at hs
      rw [hloop, hin] at hs
      cases event with
      | error error => exact .after h hs hfree fun h' _ => way_over_of_left h' hdead rfl hfirst
      | ok payload =>
        have hrest : ∃ error, .error error ∈ incoming := by
          obtain ⟨error, hmem⟩ := herror
          rw [hin] at hmem
          exact ⟨error, (List.mem_cons.mp hmem).resolve_left nofun⟩
        unfold dispatch at hs
        dsimp only at hs
        split at hs
        · exact .after h hs hfree fun h' _ => way_over_of_polling h' hdead rfl hfirst fun h'' =>
            ih h'' hdead rfl hfirst (Nat.succ.inj hlength) hrest
        · exact .after h hs hfree fun h' _ => way_over_of_left h' hdead rfl hfirst

theorem way_over_of_dead (h : s.LinkInv) (hdead : s.transport.dead = true)
    (hloop : s.receiveLoop = .receiving) (hfirst : s.disconnect = .notStarted) : Way Over s := by
  by_cases herror : ∃ error, .error error ∈ s.transport.incoming
  · exact way_over_of_receiving _ h hdead hloop hfirst rfl herror
  · have hreading := (h.hears (.inr hloop)).resolve_right herror
    have hs : s.own (.readFails .sessionUnavailable) = some (s.setTransport { s.transport with
        incoming := s.transport.incoming ++ [.error .sessionUnavailable], reading := false }) := by
      show (if s.transport.dead then s.stepReader (.error .sessionUnavailable) else none) = _
      rw [if_pos hdead]
      unfold stepReader
      exact if_pos hreading
    exact .after h hs ⟨trivial, trivial⟩ fun h' _ => way_over_of_receiving _ h' hdead hloop hfirst
      rfl ⟨_, List.mem_append_right _ List.mem_cons_self⟩

/-- **The requests fail** once the stream is down. -/
theorem way_over (h : s.LinkInv) (hdown : s.Down) :
    Way (fun t => t.Down ∧ NonePending t.requests) s := by
  have hover : Way Over s → Way (fun t => t.Down ∧ NonePending t.requests) s := fun hway =>
    hway.bind fun _ ht hover => .here ht ⟨hover.1, (ht.down.swept (.inl hover.2)).pending⟩
  cases hdisconnect : s.disconnect with
  | swept => exact .here h ⟨hdown, (h.down.swept (.inl hdisconnect)).pending⟩
  | done => exact .here h ⟨hdown, (h.down.swept (.inr hdisconnect)).pending⟩
  | closed => exact hover (way_over_of_runs h hdown (h.runs hdisconnect))
  | notStarted =>
    refine hover ?_
    cases hloop : s.receiveLoop with
    | left => exact way_over_of_starting h hdown hdisconnect (h.started hloop hdisconnect)
    | receiving =>
      rcases hdown with hdead | ⟨-, -, hfree⟩
      · exact way_over_of_dead h hdead hloop hdisconnect
      · exact absurd hloop (isHeld_eq_false.mp hfree).2.2.2
    | polling =>
      rcases hdown with hdead | ⟨hreading, hexited, hfree⟩
      · exact way_over_of_polling h hdead hloop hdisconnect fun h' =>
          way_over_of_dead h' hdead rfl hdisconnect
      · have hup := (isHeld_eq_false.mp hfree).1
        have hs : s.own .receive = some (s.leaveLoop .sessionUnavailable) := by
          show s.stepReceive = _
          unfold stepReceive
          rw [hloop]
          exact congrArg some (if_neg (by rw [hup]; rintro ⟨⟩))
        refine .after h hs ⟨fun _ _ hnext => ?_, fun hreceiving => ?_⟩ fun h' hdown' =>
          way_over_of_starting h' (hdown' (.inr ⟨hreading, hexited, hfree⟩)) hdisconnect
            (h'.started rfl hdisconnect)
        · cases hloop.symm.trans hnext.1
        · cases hloop.symm.trans hreceiving

end Way

/-! ## Runs -/

/-- Whoever is closing the connection can disconnect it. -/
def ClosingDisconnects (s : GatewayConnection) : Prop := s.Closing → s.CanDisconnect

/-- **Whoever closes the connection can disconnect it**, in every run in which nobody closes it with
the queue stuck. -/
theorem closing_disconnects {as : List LinkAction} (hr : runFrom step {} as = some s)
    (hG : StepsMeet step ClosesFreely {} as) : s.ClosingDisconnects := by
  intro hclosing
  have h := Lib.run_inv_of_guard (fun _ _ _ h hG hs => LinkInv.step h hG hs) as _ _
    linkInv_init hG hr
  have hway := (way_down h hclosing).bind fun _ ht hdown => way_over ht hdown
  exact Reaches.bind hway fun _ ht => .here ht.2

/-- One heartbeat waits in the queue when the connection is closed. -/
def closeBehindHeartbeat : List LinkAction := sendHeartbeat 0 ++ [.call 0, .close]

theorem closeBehindHeartbeat_disconnects : ∃ s, runFrom step {} closeBehindHeartbeat = some s ∧
    s.closers = [.closing none] ∧ s.ClosingDisconnects := by
  obtain ⟨s, hr, hclosers⟩ := Lib.exists_run step {} closeBehindHeartbeat
    (fun s => s.closers = [.closing none]) (by decide)
  -- nobody closes the connection while the heartbeat is sent, and the queue has room
  let G : GatewayConnection → LinkAction → Bool := fun s a =>
    match a with
    | .sendRequest _ => true
    | .call _ => s.closers = []
    | .close => s.transport.outgoing.length < outboundQueueCapacity
    | _ => false
  have hG : StepsMeet step (fun s a => G s a = true) {} closeBehindHeartbeat := by decide
  refine ⟨s, hr, of_decide_eq_true hclosers, closing_disconnects hr (hG.mono (I := fun _ => True)
    (fun s a _ h => ?_) (fun _ _ _ _ _ => trivial) trivial)⟩
  cases a with
  | sendRequest => exact ⟨trivial, trivial⟩
  | call c =>
    refine ⟨fun call _ _ ⟨closer, hmem, _⟩ => ?_, trivial⟩
    rw [of_decide_eq_true h] at hmem
    exact absurd hmem List.not_mem_nil
  | close => exact ⟨fun _ => .inl (of_decide_eq_true h), trivial⟩
  | _ => cases h

/-- The connection is closed with the queue full. -/
def closeStuck : List LinkAction := fillQueue ++ [.close, .closer 0 true]

/-- The closer waits for the queue, the queue for the writer, and the writer for the other side. -/
theorem full_queue_blocks_close : ∃ s, runFrom step {} closeStuck = some s ∧
    ¬ s.ClosingDisconnects := by
  obtain ⟨s, hr, hs⟩ := Lib.exists_run step {} closeStuck
    (fun s => s.closers = [.sendingClose none] && s.isStranded 65) (by decide +kernel)
  obtain ⟨hclosers, hstranded⟩ := Bool.and_eq_true_iff.mp hs
  refine ⟨s, hr, fun h => ?_⟩
  have hmem : Closer.sendingClose none ∈ s.closers := by
    rw [of_decide_eq_true hclosers]
    exact List.mem_singleton_self _
  obtain ⟨as, t, ht, hdown, -⟩ := h (closing_of_sending hmem)
  have hstuck := Lib.run_inv (fun _ _ _ h hs => Stranded.own h hs) (stranded_of hstranded) ht
  obtain ⟨payload, hwriter⟩ := hstuck.writer
  rcases hdown with hdead | ⟨-, hexited, -⟩
  · exact absurd (hstuck.alive.symm.trans hdead) nofun
  · exact nomatch hwriter.symm.trans hexited

end GatewayConnection

end YumeDisk.Client
