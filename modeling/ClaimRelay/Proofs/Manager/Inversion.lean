import ClaimRelay.Manager.Serve

/-! What each step of a manager can be.  For every step there is one lemma that names its reason and the
scene that it leads to, and what becomes of a part of the scene is read off from there. -/

namespace ClaimRelay.Manager.Scene

variable {s t : Scene}

/-- The lock goes to the first waiter, while nobody holds it. -/
theorem grant_eq_some (h : s.grant = some t) :
    ∃ w rest, s.manager.attempt = none ∧ s.manager.queue = w :: rest ∧
      t = ({ s with manager.queue := rest } : Scene).serve w := by
  unfold grant at h
  split at h
  · rename_i w rest free hqueue
    exact ⟨w, rest, free, hqueue, (Option.some.inj h).symm⟩
  · simp at h

/-- The first waiter gets the lock as soon as it is free. -/
theorem grant_isSome {w : Waiter} {rest : List Waiter} (free : s.manager.attempt = none)
    (hq : s.manager.queue = w :: rest) : s.grant.isSome := by
  unfold grant
  rw [free, hq]
  rfl

/-- An attempt whose time has come either times out, or the bus answers it. -/
theorem finish_eq_some (h : s.finish = some t) :
    ∃ a free, s.manager.attempt = some a ∧ a.due ≤ s.around.now ∧
      free = ({ s with manager.attempt := none } : Scene) ∧
      (a.timesOut = true ∧
          t = free.endAttempt a.waiter (.error (.timeout s.manager.settings.connectTimeout)) ∨
        a.timesOut = false ∧ t = free.reachBus.2.endAttempt a.waiter free.reachBus.1) := by
  unfold finish at h
  split at h
  · simp at h
  · rename_i a ha
    split at h
    · simp at h
    · rename_i hdue
      refine ⟨a, _, ha, Nat.le_of_not_lt hdue, rfl, ?_⟩
      dsimp only at h
      split at h
      · rename_i htimesOut
        exact .inl ⟨htimesOut, (Option.some.inj h).symm⟩
      · rename_i htimesOut
        exact .inr ⟨by simpa using htimesOut, (Option.some.inj h).symm⟩

/-- A retry whose time has come waits for the lock. -/
theorem wake_eq_some {id : Nat} (h : s.wake id = some t) :
    ∃ timer, s.manager.timers.get? id = some timer ∧ timer.due ≤ s.around.now ∧
      t = { s with
        manager.timers := s.manager.timers.erase id
        manager.queue := s.manager.queue ++ [.retry id] } := by
  unfold wake at h
  split at h
  · simp at h
  · rename_i timer htimer
    split at h
    · simp at h
    · rename_i hdue
      exact ⟨timer, htimer, Nat.le_of_not_lt hdue, (Option.some.inj h).symm⟩

/-- An attempt whose time has come can end. -/
theorem finish_isSome {a : Attempt} (ha : s.manager.attempt = some a) (hdue : a.due ≤ s.around.now) :
    s.finish.isSome := by
  unfold finish
  rw [ha]
  dsimp only
  rw [if_neg (Nat.not_lt.mpr hdue)]
  split <;> rfl

/-- A retry whose time has come can begin to wait for the lock. -/
theorem wake_isSome {id : Nat} {timer : Timer} (htimer : s.manager.timers.get? id = some timer)
    (hdue : timer.due ≤ s.around.now) : (s.wake id).isSome := by
  unfold wake
  rw [htimer]
  dsimp only
  rw [if_neg (Nat.not_lt.mpr hdue)]
  rfl

/-- A manager that listens takes its next event, while no earlier one waits for the lock. -/
theorem hear_eq_some (h : s.hear = some t) :
    ∃ event mail, s.manager.listening = true ∧ s.manager.queue.any Waiter.isEvent = false ∧
      Bus.takeMail s.manager.listener s.around.bus.mail = some (event, mail) ∧
      t = ({ s with around.bus.mail := mail } : Scene).handleEvent event := by
  unfold hear at h
  split at h
  · simp at h
  · rename_i hready
    rw [Bool.or_eq_true, not_or, Bool.not_eq_true, Bool.not_eq_true, Bool.not_eq_false'] at hready
    obtain ⟨hlistening, hevents⟩ := hready
    split at h
    · simp at h
    · rename_i event mail hmail
      exact ⟨event, mail, hlistening, hevents, hmail, (Option.some.inj h).symm⟩

/-- What the dispatcher `d` does in one step, if it looks for `first` first. -/
inductive Dispatched (d : Dispatcher) (first : Bus.Branch) (s : Scene) : Scene → Prop
  | starts (hidle : d.started = false) :
    Dispatched d first s (give
      { s with manager.dispatchers := markStarted d.subscription s.manager.dispatchers }
      (dispatchNotice "Notification dispatch started" d) |>.awaitMessage d)
  | ends {bus : Bus} (hstarted : d.started = true)
      (hreceive : s.around.bus.receive d.subscription first = (.ended, bus)) :
    Dispatched d first s (s.finishDispatcher d)
  | takes {message : Bus.Message} {bus : Bus} (hstarted : d.started = true)
      (hreceive : s.around.bus.receive d.subscription first = (.message message, bus)) :
    Dispatched d first s (({ s with around.bus := bus } : Scene).takeIn d message)
  | skips {bus : Bus} (hstarted : d.started = true)
      (hreceive : s.around.bus.receive d.subscription first = (.pending, bus))
      (hunread : s.around.bus.unread d.subscription ≠ 0) :
    Dispatched d first s { s with around.bus := bus }

theorem dispatch_eq_some {subscription : Nat} {first : Bus.Branch}
    (h : s.dispatch subscription first = some t) :
    ∃ d, s.manager.dispatchers.find? (·.subscription = subscription) = some d ∧
      d.subscription = subscription ∧ Dispatched d first s t := by
  unfold dispatch at h
  split at h
  · simp at h
  · rename_i d hd
    obtain rfl : d.subscription = subscription := by simpa using List.find?_some hd
    refine ⟨d, hd, rfl, ?_⟩
    split at h
    · rename_i hidle
      obtain rfl := Option.some.inj h
      exact .starts (by simpa using hidle)
    · rename_i hstarted
      have hstarted : d.started = true := by simpa using hstarted
      split at h
      · rename_i hreceive
        split at h
        · simp at h
        · rename_i hunread
          obtain rfl := Option.some.inj h
          exact .skips hstarted hreceive hunread
      · rename_i hreceive
        obtain rfl := Option.some.inj h
        exact .ends hstarted hreceive
      · rename_i hreceive
        obtain rfl := Option.some.inj h
        exact .takes hstarted hreceive

/-- A dispatcher without a step has started, and there is nothing left for it to read. -/
theorem dispatch_waiting {subscription : Nat} {first : Bus.Branch}
    (h : s.dispatch subscription first = none) {d : Dispatcher}
    (hd : s.manager.dispatchers.find? (·.subscription = subscription) = some d) :
    d.started = true ∧ s.around.bus.unread subscription = 0 ∧
      ∃ bus, s.around.bus.receive subscription first = (.pending, bus) := by
  unfold dispatch at h
  rw [hd] at h
  dsimp only at h
  split at h
  · simp at h
  · rename_i hstarted
    refine ⟨by simpa using hstarted, ?_⟩
    split at h
    · rename_i bus hreceive
      split at h
      · rename_i hunread
        exact ⟨hunread, bus, hreceive⟩
      · simp at h
    · simp at h
    · simp at h

/-- The manager is released only while its owner holds it. -/
theorem release_eq_or (s : Scene) :
    s.release = s ∨ s.manager.life = .owned ∧ s.release = { s with manager.life := .released } := by
  unfold release
  split
  · rename_i howned
    exact .inr ⟨howned, rfl⟩
  · exact .inl rfl

theorem release_life (s : Scene) : ∃ life, s.release = { s with manager.life := life } := by
  rcases s.release_eq_or with hsame | ⟨-, hreleased⟩
  · exact ⟨s.manager.life, hsame⟩
  · exact ⟨.released, hreleased⟩

/-- A manager ends once it was let go and has nothing to finish.  Its dispatchers end first, and then it
gives up its connection, which is lost unless somebody else holds it. -/
theorem reap_eq_some (h : s.reap = some t) :
    s.manager.life = .released ∧ s.manager.attempt = none ∧ s.manager.queue = [] ∧
      s.manager.timers = [] ∧ ∃ last bus,
        last = (s.manager.dispatchers.filter fun d => some d.connection = s.manager.connection).foldl
          (fun s d => s.endDispatcher d.subscription) s ∧
        (bus = last.around.bus ∨
          ∃ id, last.manager.connection = some id ∧ bus = last.around.bus.discard id) ∧
        t = { last with
          around.bus := bus
          manager.life := .ended
          manager.listening := false
          manager.connection := none } := by
  unfold reap at h
  dsimp only at h
  split at h
  · rename_i hends
    obtain ⟨hreleased, hbusy⟩ := hends
    obtain ⟨free, hqueue, htimers⟩ : s.manager.attempt = none ∧ s.manager.queue = [] ∧
        s.manager.timers = [] := by
      simpa [isBusy, isLocked, and_assoc] using hbusy
    refine ⟨hreleased, free, hqueue, htimers, _, _, rfl, ?_, (Option.some.inj h).symm⟩
    split
    · rename_i hconnection
      split
      · exact .inl rfl
      · exact .inr ⟨_, hconnection, rfl⟩
    · exact .inl rfl
  · simp at h

end ClaimRelay.Manager.Scene
