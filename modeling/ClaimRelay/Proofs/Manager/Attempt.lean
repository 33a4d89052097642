import ClaimRelay.Proofs.Manager.Reception

/-! What an attempt to connect comes to.  A waiter that asks for a connection makes an attempt, which lasts
as long as the bus takes to answer it. -/

namespace ClaimRelay.Manager

/-- A new connection takes no time and sends no message, and has at most one reader of each kind. -/
theorem Reception.renew_spares (r : Reception) (connection : Nat) :
    (r.renew connection).now = r.now ∧ (r.renew connection).channel = r.channel ∧
      ∃ added, (r.renew connection).dispatchers = r.dispatchers ++ added ∧ added.length ≤ 2 := by
  unfold Reception.renew
  split
  · exact ⟨rfl, rfl, _, List.append_assoc .., by simp⟩
  · exact ⟨rfl, rfl, [], (List.append_nil _).symm, by simp⟩

namespace Scene

variable {w : Waiter} {s t : Scene}

/-- A waiter that asks for a connection makes an attempt if the prepared manager wants one and has none. -/
theorem serve_eq_attempt (hw : w.connects = true) (wanted : (s.manager.prepare w).Wanted)
    (missing : ¬(s.manager.prepare w).Provided) :
    ∃ notices, s.serve w = ({
      manager := { s.manager with toControl := { s.manager.prepare w with phase := .connecting } }
      around := { s.around with notices } } : Scene).attempt w := by
  obtain ⟨p, hserve, hmanager, notices, haround⟩ := serve_eq_connect hw wanted.1
  have hcontrol : p.link.control = s.manager.prepare w := congrArg Manager.toControl hmanager
  refine ⟨notices, ?_⟩
  rcases connect_link w p with ⟨-, hidle⟩ | ⟨hattempt, -⟩
  · rw [hcontrol] at hidle
    exact absurd hidle (not_or.mpr ⟨not_not_intro wanted, missing⟩)
  · rw [hserve, hattempt, hmanager, haround]

/-- The attempt that holds the lock while the bus takes `delay` to answer. -/
def pendingAttempt (w : Waiter) (delay : Nat) (s : Scene) : Attempt :=
  let limit := s.manager.settings.connectTimeout.toNat
  ⟨w, s.around.now + min delay limit, limit < delay, s.around.serial⟩

/-- An attempt whose options are in order lasts as long as the bus delays it. -/
theorem attempt_eq (enabled : s.manager.settings.isEnabled = true)
    (found : s.manager.settings.connectOptions.check s.around.files = .ok ()) :
    s.attempt w = match s.around.bus.delay with
      | none => s.begun.reachBus.2.endAttempt w s.begun.reachBus.1
      | some delay => { s.begun with
          around.serial := s.around.serial + 1
          manager.attempt := some (s.pendingAttempt w delay) } := by
  have hservers : s.manager.settings.servers ≠ [] := by simpa [Settings.isEnabled] using enabled
  unfold attempt
  dsimp only
  rw [Bus.beginConnect_fst hservers found]
  cases s.around.bus.delay <;> rfl

/-- An attempt to connect that fails schedules a retry. -/
theorem endAttempt_error_eq (hw : w.replaces = false) (s : Scene) (reason : Bus.Error) :
    ∃ results notices, s.endAttempt w (.error reason) = {
      manager := { s.manager with
        toControl := s.manager.toControl.schedule s.retryTimer
        results }
      around := { s.around with serial := s.around.serial + 1, notices } } := by
  cases w with
  | call ticket call =>
    cases call with
    | reconnect => simp [Waiter.replaces] at hw
    | _ => exact ⟨_, _, rfl⟩
  | retry id => exact ⟨_, _, rfl⟩
  | event event => exact ⟨_, _, rfl⟩

theorem attempts_subscribe (connection : Nat) (s : Scene) (kind : Notification) :
    (s.subscribe connection kind).around.bus.attempts = s.around.bus.attempts := by
  unfold subscribe
  dsimp only
  split
  · rfl
  · split
    · rename_i hsubscribe
      rw [Bus.subscribe_error hsubscribe]
      rfl
    · rename_i hsubscribe
      rw [(Bus.subscribe_ok hsubscribe).2.2]
      rfl

theorem attempts_connected (connection : Nat) (s : Scene) :
    (s.connected connection).around.bus.attempts = s.around.bus.attempts := by
  show (s.subscribeAll connection).around.bus.attempts = _
  unfold subscribeAll
  split
  · show ((s.subscribe connection _).subscribe connection _).around.bus.attempts = _
    rw [attempts_subscribe, attempts_subscribe]
  · rfl

/-- The bus counts attempts as they begin. -/
theorem attempts_endAttempt_ok (hw : w.replaces = false) (s : Scene) (connection : Nat) :
    (s.endAttempt w (.ok connection)).around.bus.attempts = s.around.bus.attempts := by
  cases w with
  | call ticket call =>
    cases call with
    | reconnect => simp [Waiter.replaces] at hw
    | _ => exact attempts_connected connection s
  | retry id => exact attempts_connected connection s
  | event event => exact attempts_connected connection s

/-- What becomes of a scene when an attempt to connect is successful. -/
structure Connects (s t : Scene) : Prop where
  link : t.link = {
    control := { s.link.control with connection := some s.around.bus.nextId, phase := .idle }
    registry := s.link.entering }
  dispatchers : ∃ added, t.manager.dispatchers = s.manager.dispatchers ++ added ∧ added.length ≤ 2
  channel : t.around.bus.channel = s.around.bus.channel
  attempts : t.around.bus.attempts = s.around.bus.attempts
  now : t.around.now = s.around.now

/-- An attempt to connect is successful if the bus refuses neither it nor the subscriptions. -/
theorem reachBus_connects (haccepts : s.around.bus.failing = 0) (hrefusing : s.around.refusing = 0)
    (hw : w.replaces = false) : Connects s (s.reachBus.2.endAttempt w s.reachBus.1) := by
  rw [reachBus_ok (Nat.not_lt.mpr (Nat.le_of_eq haccepts))]
  let entered : Scene := { s with around.bus.toRegistry := s.link.entering }
  show Connects s (entered.endAttempt w (.ok s.around.bus.nextId))
  have hreception := reception_endAttempt_ok (s := entered) hrefusing (isClosed_entering s) w
  obtain ⟨hnow, hchannel, added, hdispatchers, hlength⟩ :=
    entered.reception.renew_spares s.around.bus.nextId
  rw [← hreception] at hnow hchannel hdispatchers
  constructor
  · rw [endAttempt_of_not_replaces hw]
    exact link_connected entered _
  · exact ⟨added, hdispatchers, hlength⟩
  · exact hchannel
  · exact attempts_endAttempt_ok hw entered _
  · exact hnow

end Scene

end ClaimRelay.Manager
