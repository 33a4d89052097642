import ClaimRelay.Manager.Basic

/-! How a manager connects.  Everything here is done by the holder of the lock. -/

namespace ClaimRelay.Manager.Scene

/-- The part of the program that gives the notices below. -/
def source : String := "claim_notify::server"

/-- Gives a notice. -/
def give (s : Scene) (notice : Notice) : Scene :=
  { s with around.notices := notice :: s.around.notices }

/-- Gives a notice about the connection. -/
def note (level : Notice.Level) (text : String) (fields : List (String × String)) (s : Scene) :
    Scene :=
  s.give ⟨level, source, text, fields⟩

/-- Returns a result to a caller. -/
def answer (waiter : Waiter) (result : Result) (s : Scene) : Scene :=
  match waiter with
  | .call ticket _ => { s with manager.results := s.manager.results.put ticket result }
  | _ => s

/-! ### Subscriptions -/

/-- Subscribes to the notifications of a kind. -/
def subscribe (connection : Nat) (s : Scene) (kind : Notification) : Scene :=
  let refused (reason : Bus.Error) (s : Scene) : Scene :=
    s.note .error "Unable to subscribe to claim notifications"
      [("subject", kind.pattern), ("error", reason.message)]
  if 0 < s.around.refusing then
    refused (.client "injected") { s with around.refusing := s.around.refusing - 1 }
  else match s.around.bus.subscribe connection kind.pattern with
    | (.error reason, bus) => refused reason { s with around.bus := bus }
    | (.ok subscription, bus) =>
      { s with
        around.bus := bus
        manager.dispatchers := s.manager.dispatchers ++ [Dispatcher.mk kind subscription connection false] }
      |>.note .debug "Subscribed to claim notifications" [("subject", kind.pattern)]

/-- Subscribes to the notifications of both kinds, if they are to be taken in. -/
def subscribeAll (connection : Nat) (s : Scene) : Scene :=
  if s.manager.settings.primary then Notification.all.foldl (subscribe connection) s else s

/-! ### Retries -/

/-- Schedules a retry. -/
def scheduleRetry (s : Scene) : Scene :=
  let wait := s.manager.settings.reconnectWait
  { s with
    around.serial := s.around.serial + 1
    manager.toControl :=
      s.manager.toControl.schedule (Timer.mk (s.around.now + wait.toNat) s.around.serial) }
  |>.note .info "Bus connect retry scheduled" [("wait_ms", toString wait.toNat)]

/-- Cancels the retry that is pending. -/
def cancelRetry (s : Scene) : Scene :=
  { s with manager.toControl := s.manager.toControl.cancelRetry }

/-! ### Ends of attempts -/

/-- Takes a new connection as the current one. -/
def connected (connection : Nat) (s : Scene) : Scene :=
  let s := s.subscribeAll connection
  { s with manager.connection := some connection, manager.phase := .idle }
  |>.note .info "Connected to claim notification bus"
    [("id", toString connection), ("servers", Text.quoteList s.manager.settings.servers),
     ("primary", toString s.manager.settings.primary)]

/-- Schedules a retry after a failed attempt. -/
def connectFailed (reason : Bus.Error) (s : Scene) : Scene :=
  s.note .error "Failed to connect to claim notification bus"
    [("servers", Text.quoteList s.manager.settings.servers), ("error", reason.message)]
  |>.scheduleRetry

/-- Puts a new connection in the place of the current one, which is closed. -/
def replaced (connection : Nat) (s : Scene) : Scene :=
  let previous := s.manager.connection
  let s := (s.subscribeAll connection).cancelRetry
  { s with
    manager.connection := some connection
    manager.phase := .idle
    around.bus := s.around.bus.closeAny previous }
  |>.note .info "Bus connection replaced" [("id", toString connection)]

/-- Ends an attempt made for `waiter`, and its call. -/
def endAttempt (waiter : Waiter) (result : Except Bus.Error Nat) (s : Scene) : Scene :=
  match waiter, result with
  | .call _ .reconnect, .ok connection =>
    (s.replaced connection).answer waiter (.reconnected (.ok true))
  | .call _ .reconnect, .error reason =>
    s.note .warn "Bus reconnect failed, keeping current connection" [("error", reason.message)]
    |>.answer waiter (.reconnected (.error (.connect reason)))
  | _, .ok connection => (s.connected connection).answer waiter .done
  | _, .error reason => (s.connectFailed reason).answer waiter .done

/-! ### Attempts -/

/-- Makes a connection. -/
def reachBus (s : Scene) : Except Bus.Error Nat × Scene :=
  let (result, bus) :=
    s.around.bus.finishConnect s.manager.settings.connectOptions s.manager.listener
  (result, { s with around.bus := bus })

/-- Makes an attempt for `waiter`.  If it takes time it goes on holding the lock. -/
def attempt (waiter : Waiter) (s : Scene) : Scene :=
  let options := s.manager.settings.connectOptions
  let s := { s with manager.attempts := s.manager.attempts + 1 }
  let (begun, bus) := s.around.bus.beginConnect options s.around.files
  let s := { s with around.bus := bus }
  match begun with
  | .error reason => s.endAttempt waiter (.error reason)
  | .ok none =>
    let (result, s) := s.reachBus
    s.endAttempt waiter result
  | .ok (some delay) =>
    let limit := options.connectTimeout.toNat
    { s with
      around.serial := s.around.serial + 1
      manager.attempt :=
        some (Attempt.mk waiter (s.around.now + min delay limit) (limit < delay) s.around.serial) }

/-- Ends the attempt that holds the lock, if its time has come. -/
def finish (s : Scene) : Option Scene :=
  match s.manager.attempt with
  | none => none
  | some a =>
    if s.around.now < a.due then none
    else
      let s := { s with manager.attempt := none }
      if a.timesOut then
        some (s.endAttempt a.waiter (.error (.timeout s.manager.settings.connectTimeout)))
      else
        let (result, s) := s.reachBus
        some (s.endAttempt a.waiter result)

/-- Connects for `waiter`, unless the manager does not run, has no bus to connect to, is connected
already or is about to retry. -/
def connect (waiter : Waiter) (s : Scene) : Scene :=
  if !s.manager.running then
    (s.note .debug "Server not running, skipping bus connect" []).answer waiter .done
  else if !s.manager.settings.isEnabled then
    if s.manager.disabledNoted then s.answer waiter .done
    else
      { s with manager.disabledNoted := true }
      |>.note .info "No bus servers configured, claim notifications disabled" []
      |>.answer waiter .done
  else if s.manager.connection.isSome || s.manager.retry.isSome then s.answer waiter .done
  else { s with manager.phase := .connecting }.attempt waiter

end ClaimRelay.Manager.Scene
