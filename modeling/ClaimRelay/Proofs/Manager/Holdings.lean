import ClaimRelay.Proofs.Ingest.Handling
import ClaimRelay.Proofs.Manager.Inversion

/-! What a manager holds: its store, its counts and its cache, with the files around it.  Only a
dispatcher that takes in a message changes any of them, and nothing that a manager does takes time. -/

namespace ClaimRelay.Manager

/-- What a manager has taken in, and the files around it. -/
structure Holdings where
  ingest : Ingest
  store : Store
  files : FileSystem

namespace Scene

/-- What the manager of a scene holds. -/
def holdings (s : Scene) : Holdings := ⟨s.manager.ingest, s.manager.store, s.around.files⟩

/-- What the manager of a scene holds, and the time. -/
def still (s : Scene) : Holdings × Nat := (s.holdings, s.around.now)

/-! ### Connections -/

@[simp] theorem still_give (s : Scene) (notice : Notice) :
    (s.give notice).still = s.still := rfl

@[simp] theorem still_note (s : Scene) (level : Notice.Level) (text : String)
    (fields : List (String × String)) : (s.note level text fields).still = s.still := rfl

@[simp] theorem still_answer (s : Scene) (w : Waiter) (result : Result) :
    (s.answer w result).still = s.still := by
  unfold answer
  split <;> rfl

theorem still_foldl {α : Type} {f : Scene → α → Scene}
    (hf : ∀ s a, (f s a).still = s.still) (as : List α) (s : Scene) :
    (as.foldl f s).still = s.still := by
  induction as generalizing s with
  | nil => rfl
  | cons a as ih => rw [List.foldl_cons, ih, hf]

theorem still_subscribe (connection : Nat) (s : Scene) (kind : Notification) :
    (s.subscribe connection kind).still = s.still := by
  unfold subscribe
  dsimp only
  split
  · rfl
  · split <;> rfl

@[simp] theorem still_subscribeAll (connection : Nat) (s : Scene) :
    (s.subscribeAll connection).still = s.still := by
  unfold subscribeAll
  split
  · exact still_foldl (still_subscribe connection) _ s
  · rfl

@[simp] theorem still_connected (connection : Nat) (s : Scene) :
    (s.connected connection).still = s.still :=
  still_subscribeAll connection s

@[simp] theorem still_connectFailed (reason : Bus.Error) (s : Scene) :
    (s.connectFailed reason).still = s.still := rfl

@[simp] theorem still_cancelRetry (s : Scene) : s.cancelRetry.still = s.still := by
  unfold cancelRetry Control.cancelRetry
  split <;> rfl

@[simp] theorem still_replaced (connection : Nat) (s : Scene) :
    (s.replaced connection).still = s.still := by
  show (s.subscribeAll connection).cancelRetry.still = _
  rw [still_cancelRetry, still_subscribeAll]

@[simp] theorem still_endAttempt (w : Waiter) (result : Except Bus.Error Nat) (s : Scene) :
    (s.endAttempt w result).still = s.still := by
  unfold endAttempt
  split <;> simp

@[simp] theorem still_attempt (w : Waiter) (s : Scene) :
    (s.attempt w).still = s.still := by
  unfold attempt
  dsimp only
  split
  · rw [still_endAttempt]
    rfl
  · rw [still_endAttempt]
    rfl
  · rfl

@[simp] theorem still_connect (w : Waiter) (s : Scene) :
    (s.connect w).still = s.still := by
  unfold connect
  split
  · simp
  · split
    · split
      · simp
      · rw [still_answer]
        rfl
    · split
      · simp
      · rw [still_attempt]
        rfl

/-! ### Waiters -/

@[simp] theorem still_stop (s : Scene) : s.stop.2.still = s.still := by
  unfold stop
  split <;> rfl

@[simp] theorem still_handleClosed (s : Scene) : s.handleClosed.still = s.still := by
  unfold handleClosed
  split
  · rfl
  · exact still_stop (s.note .error "Claim notification bus connection closed permanently" [])

@[simp] theorem still_publish (subject key : String) (payload : List UInt8) (s : Scene) :
    (s.publish subject key payload).2.still = s.still := by
  unfold publish
  dsimp only
  split
  · rfl
  · split <;> rfl

theorem still_serveCall (ticket : Nat) (call : Call) (s : Scene) :
    (s.serveCall ticket call).still = s.still := by
  cases call with
  | start =>
    show (connect _ (if _ then _ else _)).still = _
    rw [still_connect]
    split <;> rfl
  | connect => exact still_connect _ s
  | reconnect =>
    show (if _ then _ else _ : Scene).still = _
    split <;> simp
  | stop =>
    show (s.stop.2.answer _ _).still = _
    simp
  | acquire => exact still_answer s _ _
  | publish subject key payload =>
    show ((s.publish subject key payload).2.answer _ _).still = _
    simp

theorem still_serve (w : Waiter) (s : Scene) : (s.serve w).still = s.still := by
  cases w with
  | call ticket call => exact still_serveCall ticket call s
  | retry id =>
    show (if _ then _ else _ : Scene).still = _
    split
    · rw [still_connect]
      rfl
    · rfl
  | event event =>
    cases event with
    | closed => exact still_handleClosed s
    | _ =>
      show (if _ then _ else _ : Scene).still = _
      split <;> rfl

/-! ### Steps -/

variable {s t : Scene}

theorem still_grant (h : s.grant = some t) : t.still = s.still := by
  obtain ⟨w, rest, -, -, rfl⟩ := grant_eq_some h
  exact still_serve w { s with manager.queue := rest }

theorem still_finish (h : s.finish = some t) : t.still = s.still := by
  obtain ⟨a, free, -, -, rfl, ⟨-, rfl⟩ | ⟨-, rfl⟩⟩ := finish_eq_some h
  · exact still_endAttempt a.waiter _ { s with manager.attempt := none }
  · exact still_endAttempt a.waiter _ (reachBus { s with manager.attempt := none }).2

theorem still_wake {id : Nat} (h : s.wake id = some t) : t.still = s.still := by
  obtain ⟨timer, -, -, rfl⟩ := wake_eq_some h
  rfl

theorem still_hear (h : s.hear = some t) : t.still = s.still := by
  obtain ⟨event, mail, -, -, -, rfl⟩ := hear_eq_some h
  cases event <;> rfl

theorem still_release (s : Scene) : s.release.still = s.still := by
  rcases s.release_eq_or with hsame | ⟨-, hreleased⟩
  · rw [hsame]
  · rw [hreleased]
    rfl

theorem still_reap (h : s.reap = some t) : t.still = s.still := by
  obtain ⟨-, -, -, -, last, bus, rfl, -, rfl⟩ := reap_eq_some h
  exact still_foldl (f := fun s (d : Dispatcher) => s.endDispatcher d.subscription) (fun _ _ => rfl) _ s

theorem still_awaitMessage (s : Scene) (d : Dispatcher) : (s.awaitMessage d).still = s.still := by
  unfold awaitMessage
  split <;> rfl

/-- Taking in a message, a dispatcher takes no time, and its manager holds what the message makes of it:
the notices and the end of a reader come after that. -/
theorem still_takeIn {d : Dispatcher} {message : Bus.Message} {outcome : Outcome}
    {notices : List Notice} {ingest : Ingest} {store : Store} {files : FileSystem}
    (h : (Ingest.handle Store.save s.around.now d.kind message.payload).run
      (s.manager.ingest, s.manager.store, s.around.files) = ((outcome, notices), ingest, store, files)) :
    (s.takeIn d message).still = (⟨ingest, store, files⟩, s.around.now) := by
  unfold takeIn
  rw [h]
  dsimp only
  split
  · exact still_foldl still_give notices _
  · rw [still_awaitMessage]
    exact still_foldl still_give notices _

/-- What a dispatcher does to what its manager holds: nothing, or it takes in one message. -/
theorem holdings_dispatch {subscription : Nat} {first : Bus.Branch}
    (h : s.dispatch subscription first = some t) :
    t.holdings = s.holdings ∨ ∃ kind payload outcome,
      Ingest.Handles Store.save s.around.now kind payload s.manager.ingest
        (s.manager.store, s.around.files) outcome
        (t.manager.ingest, t.manager.store, t.around.files) := by
  obtain ⟨d, -, -, hdispatched⟩ := dispatch_eq_some h
  cases hdispatched with
  | starts => exact .inl (congrArg Prod.fst (still_awaitMessage _ d))
  | skips | ends => exact .inl rfl
  | @takes message bus _ hreceive =>
    right
    let read : Scene := { s with around.bus := bus }
    rcases hhandle : (Ingest.handle Store.save s.around.now d.kind message.payload).run
      (s.manager.ingest, s.manager.store, s.around.files) with
      ⟨⟨outcome, notices⟩, ingest, store, files⟩
    have htaken : (read.takeIn d message).holdings = ⟨ingest, store, files⟩ :=
      congrArg Prod.fst (still_takeIn (s := read) hhandle)
    obtain ⟨hingest, hstore, hfiles⟩ := Holdings.mk.inj htaken
    refine ⟨d.kind, message.payload, outcome, ?_⟩
    show Ingest.Handles _ _ _ _ _ _ _ ((read.takeIn d message).manager.ingest,
      (read.takeIn d message).manager.store, (read.takeIn d message).around.files)
    rw [hingest, hstore, hfiles]
    exact Ingest.handles_of_run hhandle

theorem now_dispatch {subscription : Nat} {first : Bus.Branch}
    (h : s.dispatch subscription first = some t) :
    t.around.now = s.around.now := by
  obtain ⟨d, -, -, hdispatched⟩ := dispatch_eq_some h
  cases hdispatched with
  | starts => exact congrArg Prod.snd (still_awaitMessage _ d)
  | skips | ends => rfl
  | @takes message bus => exact congrArg Prod.snd (still_takeIn (s := { s with around.bus := bus }) rfl)

end Scene

end ClaimRelay.Manager
