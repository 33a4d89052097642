import ClaimRelay.Manager.Connect

/-! What a manager does in one step: it answers a call, ends an attempt, hears an event, or takes in
a message.  Each step is `none` when there is nothing to do. -/

namespace ClaimRelay.Manager.Scene

/-! ### Under the lock -/

/-- The exit code after a connection is lost for good. -/
def lossCode : Nat := 1

/-- Stops the manager and says whether it was running. -/
def stop (s : Scene) : Bool × Scene :=
  if !s.manager.running then (false, s)
  else
    let s := { s with
      manager.running := false
      manager.connection := none
      around.bus := s.around.bus.closeAny s.manager.connection }
    (true, s.note .info "Claim notification server stopped" [])

/-- Whether the current connection is closed. -/
def isLost (s : Scene) : Bool :=
  match s.manager.connection with
  | some connection => s.around.bus.isClosed connection
  | none => false

/-- Ends the process if the current connection is lost. -/
def handleClosed (s : Scene) : Scene :=
  if !s.manager.running || !s.isLost then
    s.note .debug "Ignoring closed event for a stopped or replaced connection" []
  else
    let (_, s) := (s.note .error "Claim notification bus connection closed permanently" []).stop
    { s with manager.exits := s.manager.exits ++ [lossCode] }

/-- Publishes a message on the current connection, if there is one. -/
def publish (subject key : String) (payload : List UInt8) (s : Scene) :
    Except Error Unit × Scene :=
  let source := "claim_notify::publisher"
  match s.manager.connection with
  | none =>
    (.ok (), s.give ⟨.info, source, "Skipping claim notification, bus not connected",
      [("key", Notice.keyText key)]⟩)
  | some connection =>
    match s.around.bus.publish connection ⟨subject, payload⟩ with
    | (.error reason, bus) => (.error (.publish subject reason), { s with around.bus := bus })
    | (.ok (), bus) =>
      (.ok (), give { s with around.bus := bus } ⟨.debug, source, "Claim notification sent",
        [("subject", subject), ("bytes", toString payload.length)]⟩)

/-- Answers a call.  A call that connects may go on holding the lock. -/
def serveCall (ticket : Nat) (call : Call) (s : Scene) : Scene :=
  let waiter := Waiter.call ticket call
  match call with
  | .start =>
    let s :=
      if s.manager.running then s
      else
        { s with manager.running := true }
        |>.note .info "Claim notification server started"
          [("primary", toString s.manager.settings.primary)]
    s.connect waiter
  | .connect => s.connect waiter
  | .reconnect =>
    if !s.manager.running || !s.manager.settings.isEnabled then
      s.answer waiter (.reconnected (.ok false))
    else s.attempt waiter
  | .stop =>
    let (result, s) := s.stop
    s.answer waiter (.stopped result)
  | .acquire => s.answer waiter (.acquired s.manager.connection)
  | .publish subject key payload =>
    let (result, s) := s.publish subject key payload
    s.answer waiter (.published result)

/-- Repeats a failed attempt. -/
def serveRetry (id : Nat) (s : Scene) : Scene :=
  let s := { s with manager.retry := none, manager.phase := .idle }
  if s.manager.running then s.connect (.retry id)
  else s.note .debug "Server stopped before retry fired" []

/-- Handles an event that needs the lock. -/
def serveEvent (event : Bus.Event) (s : Scene) : Scene :=
  match event with
  | .closed => s.handleClosed
  | _ =>
    if s.manager.running then s.note .warn "Disconnected from claim notification bus" [] else s

/-- Does what a waiter waits for. -/
def serve (waiter : Waiter) (s : Scene) : Scene :=
  match waiter with
  | .call ticket call => s.serveCall ticket call
  | .retry id => s.serveRetry id
  | .event event => s.serveEvent event

/-! ### Steps -/

/-- Accepts a call.  The first call to start begins to listen to events. -/
def request (ticket : Nat) (call : Call) (s : Scene) : Scene :=
  { s with
    manager.listening := s.manager.listening || call = .start
    manager.queue := s.manager.queue ++ [.call ticket call] }

/-- Gives the lock to the first waiter, if nobody holds it. -/
def grant (s : Scene) : Option Scene :=
  match s.manager.attempt, s.manager.queue with
  | none, waiter :: rest => some ({ s with manager.queue := rest }.serve waiter)
  | _, _ => none

/-- Lets a retry whose time has come wait for the lock. -/
def wake (id : Nat) (s : Scene) : Option Scene :=
  match s.manager.timers.get? id with
  | none => none
  | some timer =>
    if s.around.now < timer.due then none
    else some { s with
      manager.timers := s.manager.timers.erase id
      manager.queue := s.manager.queue ++ [.retry id] }

/-- Handles an event, which may have to wait for the lock first. -/
def handleEvent (event : Bus.Event) (s : Scene) : Scene :=
  match event with
  | .error reason => s.note .warn "Claim notification bus error" [("error", reason)]
  | .reconnected => s.note .warn "Reconnected to claim notification bus" []
  | .discovered found known =>
    s.note .debug "Discovered claim notification bus servers"
      [("discovered", Text.quoteList found), ("known", Text.quoteList known)]
  | .disconnected | .closed =>
    { s with manager.queue := s.manager.queue ++ [.event event] }

/-- Takes the next event, unless an earlier one still waits for the lock. -/
def hear (s : Scene) : Option Scene :=
  if !s.manager.listening || s.manager.queue.any Waiter.isEvent then none
  else match Bus.takeMail s.manager.listener s.around.bus.mail with
    | none => none
    | some (event, mail) => some ({ s with around.bus.mail := mail }.handleEvent event)

/-- Removes a dispatcher, with its subscription. -/
def endDispatcher (subscription : Nat) (s : Scene) : Scene :=
  { s with
    manager.dispatchers := s.manager.dispatchers.filter (·.subscription ≠ subscription)
    around.bus := s.around.bus.unsubscribe subscription }

/-- A notice about a dispatcher. -/
def dispatchNotice (text : String) (d : Dispatcher) : Notice :=
  ⟨.debug, Ingest.source, text, [("kind", Text.quote d.kind.label)]⟩

/-- Ends a dispatcher that has come to the end of its messages. -/
def finishDispatcher (d : Dispatcher) (s : Scene) : Scene :=
  (s.endDispatcher d.subscription).give (dispatchNotice "Notification dispatch ended" d)

/-- Lets a dispatcher wait for its next message, or ends it. -/
def awaitMessage (d : Dispatcher) (s : Scene) : Scene :=
  if s.around.bus.canWait d.subscription then s else s.finishDispatcher d

/-- Takes in a message that a dispatcher has received. -/
def takeIn (d : Dispatcher) (message : Bus.Message) (s : Scene) : Scene :=
  let ((outcome, notices), ingest, store, files) :=
    (Ingest.handle Store.save s.around.now d.kind message.payload).run
      (s.manager.ingest, s.manager.store, s.around.files)
  let s := { s with manager.ingest := ingest, manager.store := store, around.files := files }
  let s := notices.foldl give s
  match outcome with
  | .crashed _ => s.endDispatcher d.subscription
  | _ =>
    s.give ⟨.debug, Ingest.source, "Notification handled",
      [("kind", Text.quote d.kind.label), ("subject", message.subject)]⟩
    |>.awaitMessage d

/-- The dispatchers, with the one of a subscription marked as started. -/
def markStarted (subscription : Nat) (dispatchers : List Dispatcher) : List Dispatcher :=
  dispatchers.map fun d => if d.subscription = subscription then { d with started := true } else d

/-- One step of the dispatcher of a subscription, which looks for `first` first if it waits.  Messages that
are not for it are read past. -/
def dispatch (subscription : Nat) (s : Scene) (first : Bus.Branch := .closing) : Option Scene :=
  match s.manager.dispatchers.find? (·.subscription = subscription) with
  | none => none
  | some d =>
    if !d.started then
      some (give
        { s with manager.dispatchers := markStarted subscription s.manager.dispatchers }
        (dispatchNotice "Notification dispatch started" d) |>.awaitMessage d)
    else match s.around.bus.receive subscription first with
      | (.pending, bus) =>
        if s.around.bus.unread subscription = 0 then none
        else some { s with around.bus := bus }
      | (.ended, _) => some (s.finishDispatcher d)
      | (.message message, bus) => some ({ s with around.bus := bus }.takeIn d message)

/-- Notes that the owner has let the manager go. -/
def release (s : Scene) : Scene :=
  match s.manager.life with
  | .owned => { s with manager.life := .released }
  | _ => s

/-- Whether the manager still has something to finish. -/
def isBusy (m : Manager) : Bool := m.isLocked || !m.timers.isEmpty

/-- Ends a manager that was let go and has nothing to finish: its dispatchers stop, and its
connection is lost unless somebody else holds it. -/
def reap (s : Scene) : Option Scene :=
  if s.manager.life = .released ∧ isBusy s.manager = false then
    let current := s.manager.dispatchers.filter fun d => some d.connection = s.manager.connection
    let s := current.foldl (fun s d => s.endDispatcher d.subscription) s
    let bus :=
      match s.manager.connection with
      | some connection =>
        if connection ∈ s.around.holds then s.around.bus else s.around.bus.discard connection
      | none => s.around.bus
    some { s with
      around.bus := bus
      manager.life := .ended
      manager.listening := false
      manager.connection := none }
  else none

end ClaimRelay.Manager.Scene
