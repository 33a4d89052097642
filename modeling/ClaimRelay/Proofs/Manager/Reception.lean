import ClaimRelay.Proofs.Bus.Messages
import ClaimRelay.Proofs.Manager.Steps
import ClaimRelay.Proofs.Notification

/-! What one step of a manager does to its readers.  A `Reception` is what decides over the messages that
a manager takes in.  `Tunes` says what becomes of it in a step that takes in none, `Dispatches` in a step
of a dispatcher, and `quit` as the manager ends. -/

namespace ClaimRelay.Manager

/-- A message that a manager has taken in: as which kind of notification, and from which place. -/
structure Delivery where
  kind : Notification
  place : Nat
  message : Bus.Message
deriving DecidableEq

/-- A delivery, and the reader that has taken it in. -/
structure Receipt extends Delivery where
  subscription : Nat
  connection : Nat
  /-- Whether the connection was closed before. -/
  late : Bool
deriving DecidableEq

/-- What decides over the messages that a manager takes in. -/
structure Reception where
  now : Nat
  files : FileSystem
  ingest : Ingest
  store : Store
  primary : Bool
  connection : Option Nat
  dispatchers : List Dispatcher
  channel : Bus.Channel
  subscriptions : Table Nat Bus.Subscription
  subscribed : Nat
  refusing : Nat

namespace Reception

/-- There is a reader of a kind with the given subscription, on the given connection. -/
def Reads (r : Reception) (kind : Notification) (subscription connection : Nat) : Prop :=
  ∃ d ∈ r.dispatchers, d.kind = kind ∧ d.subscription = subscription ∧ d.connection = connection

/-- The reader of a subscription has begun to wait for messages. -/
def Waits (r : Reception) (subscription : Nat) : Prop :=
  ∃ d ∈ r.dispatchers, d.subscription = subscription ∧ d.started = true

/-- The reception with one more reader. -/
def tune (connection : Nat) (r : Reception) (kind : Notification) : Reception :=
  { r with
    subscribed := r.subscribed + 1
    subscriptions :=
      r.subscriptions.put (r.subscribed + 1) ⟨connection, kind.pattern, r.channel.tail⟩
    dispatchers := r.dispatchers ++ [⟨kind, r.subscribed + 1, connection, false⟩] }

/-- The reception on a new connection: a primary has a reader of each kind there. -/
def renew (connection : Nat) (r : Reception) : Reception :=
  { if r.primary then Notification.all.foldl (tune connection) r else r with
    connection := some connection }

/-- The reception without the reader of a subscription. -/
def drop (subscription : Nat) (r : Reception) : Reception :=
  { r with
    dispatchers := r.dispatchers.filter (·.subscription ≠ subscription)
    subscriptions := r.subscriptions.erase subscription }

/-- What may become of a reception in a step that takes in no message.  A new connection would get the
number `next`. -/
inductive Tunes (next : Nat) (r : Reception) : Reception → Prop
  | keeps : Tunes next r r
  /-- The connection is given up. -/
  | quits : Tunes next r { r with connection := none }
  /-- A message is published. -/
  | sends (message : Bus.Message) : Tunes next r { r with channel := r.channel.send message }
  | renews : Tunes next r (r.renew next)

/-- A message is taken in by the dispatcher of a subscription, with the given outcome. -/
inductive Takes (registry : Bus.Registry) (subscription : Nat) (r : Reception) :
    Receipt → Outcome → Reception → Prop
  | intro {d : Dispatcher} {s : Bus.Subscription} {place : Nat} {message : Bus.Message}
      {outcome : Outcome} {notices : List Notice} {ingest : Ingest} {store : Store}
      {files : FileSystem} (hd : r.dispatchers.find? (·.subscription = subscription) = some d)
      (hs : r.subscriptions.get? subscription = some s)
      (hsearch : r.channel.search s.pattern (r.channel.resume s.cursor) = some (place, message))
      (hhandle : (Ingest.handle Store.save r.now d.kind message.payload).run
        (r.ingest, r.store, r.files) = ((outcome, notices), ingest, store, files))
      (hstarted : d.started = true) :
      Takes registry subscription r
        ⟨⟨d.kind, place, message⟩, subscription, s.connection, registry.isClosed s.connection⟩ outcome
        { r with
          ingest, store, files
          subscriptions := r.subscriptions.put subscription { s with cursor := place + 1 } }

/-- What may become of a reception in a step of the dispatcher of a subscription, and what is taken
in. -/
inductive Dispatches (registry : Bus.Registry) (subscription : Nat) (r : Reception) :
    Option Receipt → Reception → Prop
  | starts
      (hopen : ∀ s, r.subscriptions.get? subscription = some s →
        registry.isClosed s.connection = false) :
      Dispatches registry subscription r none
        { r with dispatchers := Scene.markStarted subscription r.dispatchers }
  /-- There is nothing for the dispatcher in all that was published. -/
  | skips {d : Dispatcher} {s : Bus.Subscription}
      (hd : r.dispatchers.find? (·.subscription = subscription) = some d)
      (hs : r.subscriptions.get? subscription = some s)
      (hsearch : r.channel.search s.pattern (r.channel.resume s.cursor) = none) :
      Dispatches registry subscription r none
        { r with
          subscriptions := r.subscriptions.put subscription { s with cursor := r.channel.tail } }
  | ends {d : Dispatcher} (hd : r.dispatchers.find? (·.subscription = subscription) = some d)
      (h : ∀ s, r.subscriptions.get? subscription = some s → registry.isOver s.connection = true) :
      Dispatches registry subscription r none (r.drop subscription)
  | takes {receipt : Receipt} {outcome : Outcome} {t : Reception}
      (h : r.Takes registry subscription receipt outcome t) (hout : ∀ e, outcome ≠ .crashed e)
      (htime : receipt.late = false) : Dispatches registry subscription r (some receipt) t
  /-- The dispatcher ends with the message that it takes in: it crashes, or its connection was closed as it
  waited. -/
  | departs {receipt : Receipt} {outcome : Outcome} {t : Reception}
      (h : r.Takes registry subscription receipt outcome t)
      (hlast : receipt.late = true ∨ ∃ e, outcome = .crashed e) :
      Dispatches registry subscription r (some receipt) (t.drop subscription)

/-- What becomes of a reception as the manager ends: it has no readers on the connection that it gives
up. -/
def quit (r : Reception) : Reception :=
  { (r.dispatchers.filter fun d => some d.connection = r.connection).foldl
      (fun r d => r.drop d.subscription) r with
    connection := none }

end Reception

namespace Scene

/-- The reception of a scene. -/
def reception (s : Scene) : Reception where
  now := s.around.now
  files := s.around.files
  ingest := s.manager.ingest
  store := s.manager.store
  primary := s.manager.settings.primary
  connection := s.manager.connection
  dispatchers := s.manager.dispatchers
  channel := s.around.bus.channel
  subscriptions := s.around.bus.subscriptions
  subscribed := s.around.bus.subscribed
  refusing := s.around.refusing

/-! ### What leaves a reception alone -/

@[simp] theorem reception_give (s : Scene) (notice : Notice) :
    (s.give notice).reception = s.reception := rfl

@[simp] theorem reception_note (s : Scene) (level : Notice.Level) (text : String)
    (fields : List (String × String)) : (s.note level text fields).reception = s.reception := rfl

@[simp] theorem reception_answer (s : Scene) (w : Waiter) (result : Result) :
    (s.answer w result).reception = s.reception := by
  unfold answer
  split <;> rfl

@[simp] theorem reception_cancelRetry (s : Scene) : s.cancelRetry.reception = s.reception := by
  unfold cancelRetry
  rw [Control.cancelRetry_eq]
  rfl

@[simp] theorem reception_connectFailed (s : Scene) (reason : Bus.Error) :
    (s.connectFailed reason).reception = s.reception := rfl

theorem reception_endAttempt_error (w : Waiter) (s : Scene) (reason : Bus.Error) :
    (s.endAttempt w (.error reason)).reception = s.reception := by
  unfold endAttempt
  split <;> simp_all

/-! ### New connections -/

section Renewal

variable {s : Scene} {connection : Nat} (hrefusing : s.around.refusing = 0)
  (hopen : s.around.bus.isClosed connection = false)

include hrefusing hopen

theorem reception_subscribe (kind : Notification) :
    (s.subscribe connection kind).reception = s.reception.tune connection kind := by
  have hpattern := Notification.patternFlaw?_pattern kind
  simp [subscribe, hrefusing, Bus.subscribe, hopen, Bus.checkPattern, hpattern, reception,
    Reception.tune, note, give]

theorem reception_subscribeAll :
    (s.subscribeAll connection).reception =
      if s.manager.settings.primary then
        Notification.all.foldl (Reception.tune connection) s.reception
      else s.reception := by
  unfold subscribeAll
  split
  · have hfirst := reception_subscribe hrefusing hopen .accountUpdate
    have hrefusing' : (s.subscribe connection .accountUpdate).around.refusing = 0 :=
      (congrArg Reception.refusing hfirst).trans hrefusing
    have hopen' : (s.subscribe connection .accountUpdate).around.bus.isClosed connection = false :=
      (congrArg (·.registry.isClosed connection) (link_subscribe s connection _)).trans hopen
    show ((s.subscribe connection .accountUpdate).subscribe connection .activation).reception = _
    rw [reception_subscribe hrefusing' hopen', hfirst]
    rfl
  · rfl

theorem reception_connected : (s.connected connection).reception = s.reception.renew connection := by
  show { (s.subscribeAll connection).reception with connection := some connection } = _
  rw [reception_subscribeAll hrefusing hopen]
  rfl

theorem reception_replaced : (s.replaced connection).reception = s.reception.renew connection := by
  show { (s.subscribeAll connection).cancelRetry.reception with connection := some connection } = _
  rw [reception_cancelRetry, reception_subscribeAll hrefusing hopen]
  rfl

theorem reception_endAttempt_ok (w : Waiter) :
    (s.endAttempt w (.ok connection)).reception = s.reception.renew connection := by
  unfold endAttempt
  split <;> simp_all [reception_connected, reception_replaced]

end Renewal

/-! ### Attempts -/

theorem isClosed_entering (s : Scene) :
    s.link.entering.isClosed s.around.bus.nextId = false := by
  rw [Bus.Registry.isClosed, Link.entering, Bus.Registry.get?_enter,
    if_pos (show s.link.registry.nextId = s.around.bus.nextId from rfl)]

section Attempts

variable {s : Scene} (hrefusing : s.around.refusing = 0)

include hrefusing

/-- The end of an attempt that reaches the bus. -/
theorem reachBus_tunes (w : Waiter) :
    s.reception.Tunes s.around.bus.nextId (s.reachBus.2.endAttempt w s.reachBus.1).reception := by
  by_cases h : 0 < s.around.bus.failing
  · obtain ⟨reason, hreach⟩ := reachBus_failing h
    rw [hreach, reception_endAttempt_error]
    exact .keeps
  · rw [reachBus_ok h]
    have hrenewed := reception_endAttempt_ok
      (s := { s with around.bus.toRegistry := s.link.entering }) hrefusing (isClosed_entering s) w
    rw [hrenewed]
    exact .renews

theorem attempt_tunes (w : Waiter) :
    s.reception.Tunes s.around.bus.nextId (s.attempt w).reception := by
  have hbegun : s.begun.reception = s.reception := by
    rw [begun, Bus.beginConnect_snd]
    rfl
  unfold attempt
  dsimp only
  split
  · rw [reception_endAttempt_error]
    exact hbegun ▸ .keeps
  · have htunes := reachBus_tunes (s := s.begun) hrefusing w
    rw [hbegun] at htunes
    have hnext : s.begun.around.bus.nextId = s.around.bus.nextId := by
      rw [begun, Bus.beginConnect_snd]
    exact hnext ▸ htunes
  · exact hbegun ▸ .keeps

theorem connect_tunes (w : Waiter) :
    s.reception.Tunes s.around.bus.nextId (s.connect w).reception := by
  unfold connect
  split
  · rw [reception_answer, reception_note]
    exact .keeps
  · split
    · split
      · rw [reception_answer]
        exact .keeps
      · rw [reception_answer, reception_note]
        exact .keeps
    · split
      · rw [reception_answer]
        exact .keeps
      · exact attempt_tunes (s := { s with manager.phase := .connecting }) hrefusing w

end Attempts

/-! ### What a waiter does -/

theorem stop_tunes (next : Nat) (s : Scene) : s.reception.Tunes next s.stop.2.reception := by
  unfold stop
  split
  · exact .keeps
  · exact .quits

theorem handleClosed_tunes (next : Nat) (s : Scene) :
    s.reception.Tunes next s.handleClosed.reception := by
  unfold handleClosed
  split
  · exact .keeps
  · exact stop_tunes next
      (s.note .error "Claim notification bus connection closed permanently" [])

theorem publish_tunes (next : Nat) (subject key : String) (payload : List UInt8) (s : Scene) :
    s.reception.Tunes next (s.publish subject key payload).2.reception := by
  unfold publish
  dsimp only
  split
  · exact .keeps
  · split
    · rename_i hpublish
      rw [Bus.publish_error hpublish]
      exact .keeps
    · rename_i hpublish
      rw [(Bus.publish_ok hpublish).2]
      exact .sends ⟨subject, payload⟩

theorem channel_publish {subject key : String} {payload : List UInt8} {s : Scene}
    (hconnection : s.manager.connection ≠ none)
    (hok : (s.publish subject key payload).1 = .ok ()) :
    (s.publish subject key payload).2.around.bus.channel =
      s.around.bus.channel.send ⟨subject, payload⟩ := by
  revert hok
  unfold publish
  dsimp only
  split
  · exact fun _ => absurd ‹_› hconnection
  · split
    · simp
    · rename_i hpublish
      rw [(Bus.publish_ok hpublish).2]
      exact fun _ => rfl

theorem serve_tunes (w : Waiter) {s : Scene} (hrefusing : s.around.refusing = 0) :
    s.reception.Tunes s.around.bus.nextId (s.serve w).reception := by
  cases w with
  | call ticket call =>
    cases call with
    | start =>
      show s.reception.Tunes _ (connect _ (if _ then _ else _)).reception
      split
      · exact connect_tunes hrefusing _
      · exact connect_tunes (s := { s with manager.running := true } |>.note .info
          "Claim notification server started" [("primary", toString s.manager.settings.primary)])
          hrefusing _
    | connect => exact connect_tunes hrefusing _
    | reconnect =>
      show s.reception.Tunes _ (if _ then _ else _ : Scene).reception
      split
      · rw [reception_answer]
        exact .keeps
      · exact attempt_tunes hrefusing _
    | stop =>
      show s.reception.Tunes _ (s.stop.2.answer _ _).reception
      rw [reception_answer]
      exact stop_tunes _ s
    | acquire =>
      show s.reception.Tunes _ (s.answer _ _).reception
      rw [reception_answer]
      exact .keeps
    | publish subject key payload =>
      show s.reception.Tunes _ ((s.publish subject key payload).2.answer _ _).reception
      rw [reception_answer]
      exact publish_tunes _ subject key payload s
  | retry id =>
    show s.reception.Tunes _ (if _ then _ else _ : Scene).reception
    split
    · exact connect_tunes (s := { s with manager.retry := none, manager.phase := .idle }) hrefusing _
    · exact .keeps
  | event event =>
    cases event with
    | closed => exact handleClosed_tunes _ s
    | _ =>
      show s.reception.Tunes _ (if _ then _ else _ : Scene).reception
      split <;> exact .keeps

/-! ### Steps -/

/-- A message that a call has published is sent. -/
theorem grant_publish {s t : Scene} {ticket : Nat} {subject key : String} {payload : List UInt8}
    {rest : List Waiter} (h : s.grant = some t)
    (hqueue : s.manager.queue = .call ticket (.publish subject key payload) :: rest)
    (hconnection : s.manager.connection ≠ none)
    (hresult : t.manager.results.get? ticket = some (.published (.ok ()))) :
    t.around.bus.channel = s.around.bus.channel.send ⟨subject, payload⟩ := by
  rw [grant_eq_serve h hqueue] at hresult ⊢
  let served : Scene := { s with manager.queue := rest }
  have hanswer : ((served.publish subject key payload).2.manager.results.put ticket
      (.published (served.publish subject key payload).1)).get? ticket =
        some (.published (.ok ())) := hresult
  rw [Table.get?_put, if_pos rfl] at hanswer
  exact channel_publish (s := served) hconnection (Result.published.inj (Option.some.inj hanswer))

theorem grant_tunes {s t : Scene} (h : s.grant = some t) (hrefusing : s.around.refusing = 0) :
    s.reception.Tunes s.around.bus.nextId t.reception := by
  obtain ⟨w, rest, -, -, rfl⟩ := grant_eq_some h
  exact serve_tunes w (s := { s with manager.queue := rest }) hrefusing

theorem finish_tunes {s t : Scene} (h : s.finish = some t) (hrefusing : s.around.refusing = 0) :
    s.reception.Tunes s.around.bus.nextId t.reception := by
  obtain ⟨a, free, -, -, rfl, ⟨-, rfl⟩ | ⟨-, rfl⟩⟩ := finish_eq_some h
  · rw [reception_endAttempt_error]
    exact .keeps
  · exact reachBus_tunes (s := { s with manager.attempt := none }) hrefusing a.waiter

theorem reception_wake {id : Nat} {s t : Scene} (h : s.wake id = some t) :
    t.reception = s.reception := by
  obtain ⟨timer, -, -, rfl⟩ := wake_eq_some h
  rfl

theorem reception_hear {s t : Scene} (h : s.hear = some t) : t.reception = s.reception := by
  obtain ⟨event, mail, -, -, -, rfl⟩ := hear_eq_some h
  cases event <;> rfl

theorem reception_release (s : Scene) : s.release.reception = s.reception := by
  obtain ⟨life, hlife⟩ := release_life s
  rw [hlife]
  rfl

theorem reap_quits {s t : Scene} (h : s.reap = some t) : t.reception = s.reception.quit := by
  obtain ⟨-, -, -, -, last, bus, hlast, hbus, rfl⟩ := reap_eq_some h
  have hfold (ds : List Dispatcher) (s : Scene) :
      (ds.foldl (fun s d => s.endDispatcher d.subscription) s).reception =
        ds.foldl (fun r d => r.drop d.subscription) s.reception := by
    induction ds generalizing s with
    | nil => rfl
    | cons d ds ih => exact ih (s.endDispatcher d.subscription)
  have hquit : s.reception.quit = { last.reception with connection := none } := by
    rw [hlast, hfold]
    rfl
  rw [hquit]
  -- Giving up the connection changes nothing but its flags.
  rcases hbus with rfl | ⟨id, -, rfl⟩
  · rfl
  · rfl

/-! ### Dispatchers -/

/-- What the dispatcher of a subscription takes in, if it takes a step now and looks for `first` first. -/
def receipt? (subscription : Nat) (first : Bus.Branch) (s : Scene) : Option Receipt :=
  match s.manager.dispatchers.find? (·.subscription = subscription),
      s.around.bus.subscriptions.get? subscription with
  | some d, some sub =>
    if d.started then
      (s.around.bus.found? sub first).map fun found =>
        ⟨⟨d.kind, found.1, found.2⟩, subscription, sub.connection,
          s.around.bus.isClosed sub.connection⟩
    else none
  | _, _ => none

theorem canWait_eq {s : Scene} {subscription : Nat} {sub : Bus.Subscription}
    (hsub : s.around.bus.subscriptions.get? subscription = some sub) :
    s.around.bus.canWait subscription = !s.around.bus.isClosed sub.connection := by
  rw [Bus.canWait, hsub]

theorem reception_awaitMessage (s : Scene) (d : Dispatcher) :
    (s.awaitMessage d).reception =
      if s.around.bus.canWait d.subscription then s.reception else s.reception.drop d.subscription := by
  unfold awaitMessage
  split <;> rfl

theorem reception_foldl_give (notices : List Notice) (s : Scene) :
    (notices.foldl give s).reception = s.reception := by
  induction notices generalizing s with
  | nil => rfl
  | cons notice notices ih => exact ih (s.give notice)

theorem bus_foldl_give (notices : List Notice) (s : Scene) :
    (notices.foldl give s).around.bus = s.around.bus := by
  induction notices generalizing s with
  | nil => rfl
  | cons notice notices ih => exact ih (s.give notice)

section TakeIn

variable {d : Dispatcher} {message : Bus.Message} {s : Scene} {outcome : Outcome}
  {notices : List Notice} {ingest : Ingest} {store : Store} {files : FileSystem}

theorem reception_takeIn
    (h : (Ingest.handle Store.save s.around.now d.kind message.payload).run
      (s.manager.ingest, s.manager.store, s.around.files) = ((outcome, notices), ingest, store, files))
    (hout : ∀ e, outcome ≠ .crashed e) :
    (s.takeIn d message).reception =
      if s.around.bus.canWait d.subscription then { s.reception with ingest, store, files }
      else ({ s.reception with ingest, store, files } : Reception).drop d.subscription := by
  unfold takeIn
  rw [h]
  dsimp only
  split
  · exact absurd rfl (hout _)
  · rw [reception_awaitMessage, reception_give, reception_foldl_give]
    simp only [give, bus_foldl_give]
    rfl

theorem reception_takeIn_crashed {e : Cache.Error}
    (h : (Ingest.handle Store.save s.around.now d.kind message.payload).run
      (s.manager.ingest, s.manager.store, s.around.files) =
        ((.crashed e, notices), ingest, store, files)) :
    (s.takeIn d message).reception =
      ({ s.reception with ingest, store, files } : Reception).drop d.subscription := by
  unfold takeIn
  rw [h]
  show ((notices.foldl give _).reception).drop d.subscription = _
  rw [reception_foldl_give]
  rfl

end TakeIn

/-- A dispatcher that is dropped is so whether it was marked as started or not. -/
theorem drop_markStarted (r : Reception) (subscription : Nat) :
    ({ r with dispatchers := markStarted subscription r.dispatchers } : Reception).drop subscription =
      r.drop subscription := by
  have hsame : (markStarted subscription r.dispatchers).filter (·.subscription ≠ subscription) =
      r.dispatchers.filter (·.subscription ≠ subscription) := by
    induction r.dispatchers with
    | nil => rfl
    | cons d ds ih =>
      rw [markStarted] at ih ⊢
      by_cases hd : d.subscription = subscription <;> simp_all
  simp only [Reception.drop, hsame]

section Dispatch

variable {d : Dispatcher} {first : Bus.Branch} {s : Scene}
  (hd : s.manager.dispatchers.find? (·.subscription = d.subscription) = some d)

include hd

theorem receipt?_of_idle (hidle : d.started = false) : s.receipt? d.subscription first = none := by
  unfold receipt?
  rw [hd]
  cases s.around.bus.subscriptions.get? d.subscription with
  | none => rfl
  | some sub => simp [hidle]

theorem receipt?_of_not_found (hnone : ∀ sub,
    s.around.bus.subscriptions.get? d.subscription = some sub → s.around.bus.found? sub first = none) :
    s.receipt? d.subscription first = none := by
  unfold receipt?
  rw [hd]
  cases hs : s.around.bus.subscriptions.get? d.subscription with
  | none => rfl
  | some sub => simp [hnone sub hs]

/-- A dispatcher waits when it begins, unless its connection is closed. -/
theorem awaitMessage_dispatches (notice : Notice) :
    s.reception.Dispatches s.around.bus.toRegistry d.subscription none
      ((give { s with manager.dispatchers := markStarted d.subscription s.manager.dispatchers }
        notice).awaitMessage d).reception := by
  rw [reception_awaitMessage]
  split
  · rename_i hwait
    refine .starts fun sub hsub => ?_
    have hwait : s.around.bus.canWait d.subscription = true := hwait
    simpa [canWait_eq hsub] using hwait
  · rename_i hclosed
    rw [reception_give]
    show Reception.Dispatches _ _ _ _ (Reception.drop d.subscription
      { s.reception with dispatchers := markStarted d.subscription s.reception.dispatchers })
    rw [drop_markStarted]
    refine .ends hd fun sub hsub => Bus.Registry.isOver_of_isClosed ?_
    have hwait : s.around.bus.canWait d.subscription = false := Bool.eq_false_iff.mpr hclosed
    simpa [canWait_eq hsub] using hwait

/-- A dispatcher waits again when it has taken in a message, unless that crashes or its connection is
closed. -/
theorem takeIn_dispatches {sub : Bus.Subscription} {place : Nat} {message : Bus.Message}
    (hstarted : d.started = true)
    (hs : s.around.bus.subscriptions.get? d.subscription = some sub)
    (hfound : s.around.bus.found? sub first = some (place, message)) :
    s.reception.Dispatches s.around.bus.toRegistry d.subscription (s.receipt? d.subscription first)
      (({ s with around.bus.subscriptions :=
        s.around.bus.subscriptions.put d.subscription { sub with cursor := place + 1 } } :
          Scene).takeIn d message).reception := by
  have hreceipt : s.receipt? d.subscription first =
      some ⟨⟨d.kind, place, message⟩, d.subscription, sub.connection,
        s.around.bus.isClosed sub.connection⟩ := by
    unfold receipt?
    rw [hd, hs]
    simp [hstarted, hfound]
  rw [hreceipt]
  let read : Scene := { s with around.bus.subscriptions :=
    s.around.bus.subscriptions.put d.subscription { sub with cursor := place + 1 } }
  show Reception.Dispatches _ _ _ _ (read.takeIn d message).reception
  rcases hhandle : (Ingest.handle Store.save s.around.now d.kind message.payload).run
    (s.manager.ingest, s.manager.store, s.around.files) with
    ⟨⟨outcome, notices⟩, ingest, store, files⟩
  have htakes : s.reception.Takes s.around.bus.toRegistry d.subscription
      ⟨⟨d.kind, place, message⟩, d.subscription, sub.connection,
        s.around.bus.isClosed sub.connection⟩ outcome
      { read.reception with ingest, store, files } :=
    .intro hd hs (Bus.found?_reaches hfound).2 hhandle hstarted
  by_cases hcrash : ∃ e, outcome = .crashed e
  · obtain ⟨e, rfl⟩ := hcrash
    rw [reception_takeIn_crashed (s := read) hhandle]
    exact .departs htakes (.inr ⟨e, rfl⟩)
  · have hout : ∀ e, outcome ≠ .crashed e := fun e he => hcrash ⟨e, he⟩
    rw [reception_takeIn (s := read) hhandle hout]
    have hsub : read.around.bus.subscriptions.get? d.subscription =
        some { sub with cursor := place + 1 } := by
      rw [Table.get?_put, if_pos rfl]
    rw [canWait_eq hsub]
    cases hclosed : s.around.bus.isClosed sub.connection with
    | false =>
      rw [Bool.not_false, if_pos rfl]
      exact .takes (hclosed ▸ htakes) hout rfl
    | true =>
      rw [Bool.not_true, if_neg Bool.false_ne_true]
      exact .departs (hclosed ▸ htakes) (.inl rfl)

end Dispatch

theorem dispatch_dispatches {subscription : Nat} {first : Bus.Branch} {s t : Scene}
    (h : s.dispatch subscription first = some t) :
    s.reception.Dispatches s.around.bus.toRegistry subscription (s.receipt? subscription first)
      t.reception := by
  obtain ⟨d, hd, rfl, hdispatched⟩ := dispatch_eq_some h
  cases hdispatched with
  | starts hidle =>
    rw [receipt?_of_idle hd hidle]
    exact awaitMessage_dispatches hd _
  | ends hstarted hreceive =>
    have hover := Bus.receive_ended hreceive
    rw [receipt?_of_not_found hd fun sub hsub => (hover sub hsub).2]
    exact .ends hd fun sub hsub => (hover sub hsub).1
  | takes hstarted hreceive =>
    obtain ⟨sub, place, hs, hfound, rfl⟩ := Bus.receive_message hreceive
    exact takeIn_dispatches hd hstarted hs hfound
  | skips hstarted hreceive =>
    cases Bus.receive_receives hreceive with
    | pending hs hopen hsearch =>
      rw [receipt?_of_not_found hd fun sub hsub => ?_]
      · exact .skips hd hs hsearch
      · obtain rfl := Option.some.inj (hsub.symm.trans hs)
        exact (Bus.found?_of_open first hopen).trans hsearch

/-- A dispatcher that has nothing to do finds no message. -/
theorem dispatch_eq_none {kind : Notification} {subscription connection : Nat} {s : Scene}
    (h : s.dispatch subscription = none) (hreads : s.reception.Reads kind subscription connection) :
    ∃ sub, s.around.bus.subscriptions.get? subscription = some sub ∧
      s.around.bus.channel.search sub.pattern (s.around.bus.channel.resume sub.cursor) = none := by
  obtain ⟨d, hd, -, hsubscription, -⟩ := hreads
  cases hfind : s.manager.dispatchers.find? (·.subscription = subscription) with
  | none => exact absurd hsubscription (by simpa using List.find?_eq_none.mp hfind d hd)
  | some first =>
    obtain ⟨-, -, bus, hreceive⟩ := dispatch_waiting h hfind
    obtain ⟨sub, hsub, -, hsearch⟩ := Bus.receive_pending hreceive
    exact ⟨sub, hsub, hsearch⟩

end Scene

end ClaimRelay.Manager
