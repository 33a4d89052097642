import ClaimRelay.Proofs.Manager.Reception
import ClaimRelay.Proofs.Network.Prompt

/-! A network with one manager.  The effort of the manager bounds what it still has to do before time goes
on, and it is less than the number of steps that are taken at one moment. -/

namespace ClaimRelay

namespace Manager

/-- A bound on the steps that have to do with the connection, before time goes on from `now`.  Each kind
of wait weighs more than what it may turn into: a retry that is due waits for the lock, a waiter may begin an
attempt, and an attempt may end with two new dispatchers of two steps each. -/
def Control.effortAt (now : Nat) (c : Control) : Nat :=
  (if c.attempt.isSome then 5 else 0) + 6 * c.queue.length +
    7 * c.timers.countP fun entry => entry.2.due ≤ now

namespace Scene

variable {s t : Scene}

/-- The network whose only manager is that of a scene. -/
def network (s : Scene) : Network := ⟨s.around, [s.manager]⟩

/-- A step that the manager takes without being asked to. -/
inductive Proceeds (s t : Scene) : Prop
  | grant (h : s.grant = some t)
  | finish (h : s.finish = some t)
  | wake {id : Nat} (h : s.wake id = some t)
  | hear (h : s.hear = some t)
  | dispatch {subscription : Nat} {first : Bus.Branch} (h : s.dispatch subscription first = some t)
  | reap (h : s.reap = some t)

theorem onManager_network {i : Nat} {step : Scene → Option Scene} {net : Network}
    (h : s.network.onManager i step = some net) : ∃ t, step s = some t ∧ net = t.network := by
  obtain ⟨m, t, hm, hstep, rfl⟩ := Network.onManager_eq_some h
  obtain ⟨rfl, rfl⟩ : i = 0 ∧ s.manager = m := by
    cases i with
    | zero => exact ⟨rfl, by simpa [network] using hm⟩
    | succ i => simp [network] at hm
  exact ⟨t, hstep, rfl⟩

theorem proceeds_network {net : Network} (h : s.network.Proceeds net) :
    ∃ t, s.Proceeds t ∧ net = t.network := by
  obtain ⟨action, hown, hstep⟩ := h
  cases action with
  | request | release | tick => simp [Network.Action.isOwn] at hown
  | grant i => exact (onManager_network hstep).imp fun t ht => ⟨.grant ht.1, ht.2⟩
  | finish i => exact (onManager_network hstep).imp fun t ht => ⟨.finish ht.1, ht.2⟩
  | wake i id => exact (onManager_network hstep).imp fun t ht => ⟨.wake ht.1, ht.2⟩
  | hear i => exact (onManager_network hstep).imp fun t ht => ⟨.hear ht.1, ht.2⟩
  | dispatch i n first =>
    simp only [Network.step?] at hstep
    exact (onManager_network hstep).imp fun t ht => ⟨.dispatch ht.1, ht.2⟩
  | reap i => exact (onManager_network hstep).imp fun t ht => ⟨.reap ht.1, ht.2⟩

theorem Proceeds.network (h : s.Proceeds t) : s.network.Proceeds t.network := by
  have hmanager {step : Scene → Option Scene} (h : step s = some t) :
      s.network.onManager 0 step = some t.network := by
    unfold Network.onManager
    dsimp only [Scene.network, List.getElem?_cons_zero]
    rw [h]
    rfl
  cases h with
  | grant h => exact ⟨.grant 0, rfl, hmanager h⟩
  | finish h => exact ⟨.finish 0, rfl, hmanager h⟩
  | wake h => exact ⟨.wake 0 _, rfl, hmanager h⟩
  | hear h => exact ⟨.hear 0, rfl, hmanager h⟩
  | @dispatch subscription first h =>
    refine ⟨.dispatch 0 subscription first, rfl, ?_⟩
    simp only [Network.step?]
    exact hmanager h
  | reap h => exact ⟨.reap 0, rfl, hmanager h⟩

/-! ### Effort -/

/-- A bound on the steps of a manager before time goes on, if nothing is reported to it and no message is
published.  All that a dispatcher does then is to start and to end. -/
def effort (s : Scene) : Nat :=
  s.manager.dispatchers.length + s.manager.dispatchers.countP (!·.started) +
    s.manager.effortAt s.around.now

theorem countP_markStarted_le (subscription : Nat) (ds : List Dispatcher) :
    (markStarted subscription ds).countP (!·.started) ≤ ds.countP (!·.started) := by
  rw [markStarted, List.countP_map]
  refine List.countP_mono_left fun d _ h => ?_
  dsimp only [Function.comp] at h
  split at h
  · simp at h
  · exact h

theorem countP_markStarted_lt {d : Dispatcher} {ds : List Dispatcher} (hd : d ∈ ds)
    (hidle : d.started = false) :
    (markStarted d.subscription ds).countP (!·.started) < ds.countP (!·.started) := by
  obtain ⟨front, back, rfl⟩ := List.append_of_mem hd
  have hfront := countP_markStarted_le d.subscription front
  have hback := countP_markStarted_le d.subscription back
  have hsplit : markStarted d.subscription (front ++ d :: back) =
      markStarted d.subscription front ++ { d with started := true } :: markStarted d.subscription back := by
    simp [markStarted]
  rw [hsplit, List.countP_append, List.countP_append, List.countP_cons_of_neg (by simp),
    List.countP_cons_of_pos (by simp [hidle])]
  omega

theorem effort_finishDispatcher_le (s : Scene) (d : Dispatcher) :
    (s.finishDispatcher d).effort ≤ s.effort := by
  refine Nat.add_le_add_right (Nat.add_le_add ?_ ?_) _
  · exact List.length_filter_le ..
  · exact List.filter_sublist.countP_le

theorem effort_finishDispatcher_lt {d : Dispatcher} (hd : d ∈ s.manager.dispatchers) :
    (s.finishDispatcher d).effort < s.effort := by
  refine Nat.add_lt_add_right (Nat.add_lt_add_of_lt_of_le ?_ ?_) _
  · exact List.length_filter_lt_length_iff_exists.mpr ⟨d, hd, by simp⟩
  · exact List.filter_sublist.countP_le

/-- Where no message was published, a dispatcher only starts or ends. -/
theorem dispatch_of_empty {subscription : Nat} {first : Bus.Branch}
    (h : s.dispatch subscription first = some t) (hempty : s.around.bus.channel.tail = 0) :
    t.effort < s.effort ∧ t.around.bus.channel = s.around.bus.channel ∧
      t.around.bus.attempts = s.around.bus.attempts := by
  obtain ⟨d, hd, -, hdispatched⟩ := dispatch_eq_some h
  have hmem := List.mem_of_find?_eq_some hd
  cases hdispatched with
  | starts hidle =>
    let marked : Scene :=
      { s with manager.dispatchers := markStarted d.subscription s.manager.dispatchers }
    let started : Scene := marked.give (dispatchNotice "Notification dispatch started" d)
    have hless : started.effort < s.effort := by
      have hstarted := countP_markStarted_lt hmem hidle
      have hlength : (markStarted d.subscription s.manager.dispatchers).length =
          s.manager.dispatchers.length := List.length_map _
      refine Nat.add_lt_add_right ?_ _
      simp only [started, marked, give]
      omega
    show (started.awaitMessage d).effort < _ ∧ (started.awaitMessage d).around.bus.channel = _ ∧
      (started.awaitMessage d).around.bus.attempts = _
    unfold awaitMessage
    split
    · exact ⟨hless, rfl, rfl⟩
    · exact ⟨Nat.lt_of_le_of_lt (effort_finishDispatcher_le started d) hless, rfl, rfl⟩
  | ends => exact ⟨effort_finishDispatcher_lt hmem, rfl, rfl⟩
  | takes _ hreceive =>
    obtain ⟨sub, place, -, hfound, -⟩ := Bus.receive_message hreceive
    have hlt := (Bus.Channel.search_found (Bus.found?_reaches hfound).2).2.1.lt_tail
    omega
  | skips _ _ hunread =>
    unfold Bus.unread at hunread
    split at hunread
    · exact absurd rfl hunread
    · omega

theorem effort_lt_work (s : Scene) : s.effort < s.network.work := by
  have hdispatchers : s.manager.dispatchers.countP (!·.started) ≤ s.manager.dispatchers.length :=
    List.countP_le_length
  have htimers : s.manager.timers.countP (fun entry => entry.2.due ≤ s.around.now) ≤
      s.manager.timers.length := List.countP_le_length
  simp only [network, Network.work, List.foldl_cons, List.foldl_nil]
  unfold effort Control.effortAt
  split <;> omega

/-! ### Settling -/

/-- `P` holds throughout a prompt run of one manager, which has less to do after each step. -/
structure Settles (P : Scene → Prop) : Prop where
  numbers : ∀ {s}, P s → (s.manager.timers.map (·.1)).Nodup
  proceeds : ∀ {s t}, P s → s.Proceeds t → P t ∧ t.effort < s.effort
  waits : ∀ {s now}, P s → (∀ t, ¬s.Proceeds t) → s.around.now ≤ now →
    (∀ a, s.manager.attempt = some a → now ≤ a.due) →
      (∀ entry ∈ s.manager.timers, now ≤ entry.2.due) → P { s with around.now := now }

theorem Settles.network {P : Scene → Prop} (hs : Settles P) :
    Network.Settles (fun net => ∃ s, P s ∧ net = s.network)
      fun net => net.managers.foldl (fun n m => n + effort ⟨m, net.around⟩) 0 where
  numbers := by
    rintro _ ⟨s, h, rfl⟩ m hm
    obtain rfl := List.mem_singleton.mp hm
    exact hs.numbers h
  proceeds := by
    rintro _ net ⟨s, h, rfl⟩ hstep
    obtain ⟨t, ht, rfl⟩ := proceeds_network hstep
    obtain ⟨hkept, hless⟩ := hs.proceeds h ht
    exact ⟨⟨t, hkept, rfl⟩, by simpa [Scene.network] using hless⟩
  waits := by
    rintro _ now ⟨s, h, rfl⟩ idle forward due
    have hdue {d : Network.Due} (hd : d ∈ Network.managerDues 0 s.manager) : now ≤ d.due :=
      due d (Network.mem_dues.mpr ⟨0, s.manager, rfl, hd⟩)
    refine ⟨_, hs.waits h (fun t ht => idle _ ht.network) forward (fun a ha => ?_) fun entry he => ?_, rfl⟩
    · exact hdue (Network.mem_managerDues.mpr (.inl ⟨a, ha, rfl⟩))
    · exact hdue (Network.mem_managerDues.mpr (.inr ⟨entry.1, entry.2, he, rfl⟩))
  work := by
    rintro _ ⟨s, -, rfl⟩
    simpa [Scene.network] using s.effort_lt_work

end Scene

end Manager

end ClaimRelay
