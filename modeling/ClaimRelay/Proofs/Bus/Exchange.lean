import ClaimRelay.Proofs.Bus.Messages

/-! Runs of a bus.  Anything may be asked of it, in any order, and each exchange says what was asked and what
the bus replied.  All that decides over the messages is what was published and what the readers have
received. -/

namespace ClaimRelay.Bus

/-- What may be asked of a bus. -/
inductive Operation where
  | beginConnect (options : Options) (files : FileSystem)
  | finishConnect (options : Options) (listener : Nat)
  | publish (connection : Nat) (message : Message)
  | subscribe (connection : Nat) (pattern : String)
  | unsubscribe (subscription : Nat)
  | receive (subscription : Nat) (first : Branch := .closing)
  /-- To begin to wait for a message, without a look for it yet. -/
  | wait (subscription : Nat)
  | close (connection : Nat)
  | closeAll
  /-- To note that nobody holds a connection any more. -/
  | discard (connection : Nat)
  | report (event : Event) (connection : Nat)
  | reportAll (event : Event)
  | announce (servers : List String)
  | abandon
  /-- To let the next attempts fail. -/
  | fail (count : Nat)
  /-- To let attempts take time. -/
  | delay (time : Option Nat)

/-- What a bus replies. -/
inductive Reply where
  | done
  | begun (result : Except Error (Option Nat))
  | connected (result : Except Error Nat)
  | published (result : Except Error Unit)
  | subscribed (result : Except Error Nat)
  | received (result : Received)

/-- The reply to an operation, and the bus after it. -/
def Operation.perform (operation : Operation) (bus : Bus) : Reply × Bus :=
  match operation with
  | .beginConnect options files => (bus.beginConnect options files).map .begun id
  | .finishConnect options listener => (bus.finishConnect options listener).map .connected id
  | .publish connection message => (bus.publish connection message).map .published id
  | .subscribe connection pattern => (bus.subscribe connection pattern).map .subscribed id
  | .unsubscribe subscription => (.done, bus.unsubscribe subscription)
  | .receive subscription first => (bus.receive subscription first).map .received id
  | .wait subscription =>
    (.received (if bus.canWait subscription then .pending else .ended), bus)
  | .close connection => (.done, bus.close connection)
  | .closeAll => (.done, bus.closeAll)
  | .discard connection => (.done, bus.discard connection)
  | .report event connection => (.done, bus.report event connection)
  | .reportAll event => (.done, bus.reportAll event)
  | .announce servers => (.done, bus.announce servers)
  | .abandon => (.done, bus.abandon)
  | .fail count => (.done, { bus with failing := count })
  | .delay time => (.done, { bus with delay := time })

/-- An operation with its reply. -/
structure Exchange where
  before : Bus
  operation : Operation
  reply : Reply
  after : Bus

/-- The bus replies so. -/
def Exchange.Valid (e : Exchange) : Prop := e.operation.perform e.before = (e.reply, e.after)

/-- A run from `start`, with its exchanges, the latest first. -/
inductive Run (start : Bus) : List Exchange → Bus → Prop
  | start : Run start [] start
  | exchange {log : List Exchange} {e : Exchange} (run : Run start log e.before) (valid : e.Valid) :
      Run start (e :: log) e.after

variable {start bus after : Bus} {e : Exchange} {log later earlier : List Exchange} {number place : Nat}
  {first : Branch}

/-- A run may be cut before any of its exchanges. -/
theorem Run.cut (run : Run start (later ++ e :: earlier) bus) :
    Run start earlier e.before ∧ e.Valid ∧ Run e.after later bus := by
  induction later generalizing bus with
  | nil =>
    cases run with
    | exchange run valid => exact ⟨run, valid, .start⟩
  | cons last later ih =>
    cases run with
    | exchange run valid =>
      obtain ⟨hbefore, he, hlater⟩ := ih run
      exact ⟨hbefore, he, .exchange hlater valid⟩

theorem Run.perform (run : Run start log bus) (operation : Operation) :
    Run start (⟨bus, operation, (operation.perform bus).1, (operation.perform bus).2⟩ :: log)
      (operation.perform bus).2 :=
  run.exchange (e := ⟨bus, operation, _, _⟩) rfl

/-! ### What was published and received -/

/-- The message that is published in an exchange. -/
def Exchange.sent? (e : Exchange) : Option Message :=
  match e.operation, e.reply with
  | .publish _ message, .published (.ok ()) => some message
  | _, _ => none

/-- The messages that were published, in order. -/
def sent (log : List Exchange) : List Message := (log.filterMap (·.sent?)).reverse

/-- The message that the reader of a subscription receives in an exchange. -/
def Exchange.received? (number : Nat) (e : Exchange) : Option Message :=
  match e.operation, e.reply with
  | .receive subscription _, .received (.message message) =>
    if subscription = number then some message else none
  | _, _ => none

/-- The messages that the reader of a subscription has received, in order. -/
def received (number : Nat) (log : List Exchange) : List Message :=
  (log.filterMap (·.received? number)).reverse

/-- The place of the message that the reader of a subscription receives in an exchange: the reader goes on
with the next one. -/
def Exchange.place? (number : Nat) (e : Exchange) : Option Nat :=
  match e.received? number, e.after.subscriptions.get? number with
  | some _, some s => some (s.cursor - 1)
  | _, _ => none

/-- The places of the messages that the reader of a subscription has received, in order. -/
def places (number : Nat) (log : List Exchange) : List Nat :=
  (log.filterMap (·.place? number)).reverse

theorem sent_cons (e : Exchange) (log : List Exchange) : sent (e :: log) = sent log ++ e.sent?.toList := by
  unfold sent
  cases h : e.sent? <;> simp [h]

theorem sent_append (later earlier : List Exchange) :
    sent (later ++ earlier) = sent earlier ++ sent later := by
  simp [sent]

theorem received_cons (number : Nat) (e : Exchange) (log : List Exchange) :
    received number (e :: log) = received number log ++ (e.received? number).toList := by
  unfold received
  cases h : e.received? number <;> simp [h]

theorem places_cons (number : Nat) (e : Exchange) (log : List Exchange) :
    places number (e :: log) = places number log ++ (e.place? number).toList := by
  unfold places
  cases h : e.place? number <;> simp [h]

/-! ### What an exchange does -/

/-- What an exchange does to the messages and the subscriptions of a bus. -/
inductive Exchange.Affects (e : Exchange) : Prop
  | sends {connection : Nat} {message : Message} (hoperation : e.operation = .publish connection message)
      (hreply : e.reply = .published (.ok ()))
      (hafter : e.after = { e.before with channel := e.before.channel.send message })
  | subscribes {connection : Nat} {pattern : String}
      (hoperation : e.operation = .subscribe connection pattern)
      (hreply : e.reply = .subscribed (.ok (e.before.subscribed + 1)))
      (hafter : e.after = { e.before with
        subscribed := e.before.subscribed + 1
        subscriptions := e.before.subscriptions.put (e.before.subscribed + 1)
          ⟨connection, pattern, e.before.channel.tail⟩ })
  | unsubscribes {number : Nat} (hoperation : e.operation = .unsubscribe number)
      (hafter : e.after = e.before.unsubscribe number)
  | receives {number : Nat} {first : Branch} {received : Received}
      (hoperation : e.operation = .receive number first) (hreply : e.reply = .received received)
      (h : e.before.Receives number first received e.after)
  /-- It is refused, or about something else. -/
  | spares (hsent : e.sent? = none) (hunsubscribe : ∀ number, e.operation ≠ .unsubscribe number)
      (hreceive : ∀ number first, e.operation ≠ .receive number first) (h : e.before.Spares e.after)

theorem Exchange.Valid.affects (valid : e.Valid) : e.Affects := by
  obtain ⟨bus, operation, reply, after⟩ := e
  -- An operation that is not about messages.
  have hother (hsent : (Exchange.mk bus operation reply after).sent? = none)
      (hunsubscribe : ∀ number, operation ≠ .unsubscribe number)
      (hreceive : ∀ number first, operation ≠ .receive number first)
      (h : bus.Spares (operation.perform bus).2) : (Exchange.mk bus operation reply after).Affects := by
    refine .spares hsent hunsubscribe hreceive ?_
    rw [show operation.perform bus = (reply, after) from valid] at h
    exact h
  cases operation with
  | publish id message =>
    rcases h : bus.publish id message with ⟨result, after'⟩
    obtain ⟨rfl, rfl⟩ : Reply.published result = reply ∧ after' = after := by
      simpa [Exchange.Valid, Operation.perform, h] using valid
    cases result with
    | ok => exact .sends rfl rfl (publish_ok h).2
    | error reason => exact .spares rfl (by simp) (by simp) (publish_error h ▸ .refl bus)
  | subscribe id pattern =>
    rcases h : bus.subscribe id pattern with ⟨result, after'⟩
    obtain ⟨rfl, rfl⟩ : Reply.subscribed result = reply ∧ after' = after := by
      simpa [Exchange.Valid, Operation.perform, h] using valid
    cases result with
    | ok number =>
      obtain ⟨-, rfl, hafter⟩ := subscribe_ok h
      exact .subscribes rfl rfl hafter
    | error reason => exact .spares rfl (by simp) (by simp) (subscribe_error h ▸ .refl bus)
  | unsubscribe number => exact .unsubscribes rfl (Prod.mk.inj valid).2.symm
  | receive number first =>
    rcases h : bus.receive number first with ⟨result, after'⟩
    obtain ⟨rfl, rfl⟩ : Reply.received result = reply ∧ after' = after := by
      simpa [Exchange.Valid, Operation.perform, h] using valid
    exact .receives rfl rfl (receive_receives h)
  | beginConnect options files =>
    refine hother rfl (by simp) (by simp) ?_
    show bus.Spares (bus.beginConnect options files).2
    rw [beginConnect_snd]
    exact ⟨rfl, rfl, rfl⟩
  | finishConnect options listener =>
    exact hother rfl (by simp) (by simp) (spares_finishConnect options listener bus)
  | closeAll => exact hother rfl (by simp) (by simp) (spares_closeAll bus)
  | reportAll event => exact hother rfl (by simp) (by simp) (spares_reportAll event bus)
  | announce servers => exact hother rfl (by simp) (by simp) (spares_announce servers bus)
  | _ => exact hother rfl (by simp) (by simp) ⟨rfl, rfl, rfl⟩

theorem Exchange.Valid.receive (valid : e.Valid) (hoperation : e.operation = .receive number first) :
    ∃ result, e.reply = .received result ∧ e.before.Receives number first result e.after := by
  rcases hresult : e.before.receive number first with ⟨result, bus⟩
  obtain ⟨hreply, rfl⟩ : Reply.received result = e.reply ∧ bus = e.after := by
    simpa [Exchange.Valid, hoperation, Operation.perform, hresult] using valid
  exact ⟨result, hreply.symm, receive_receives hresult⟩

theorem Exchange.Valid.wait (valid : e.Valid) (hoperation : e.operation = .wait number) :
    e.reply = .received (if e.before.canWait number then .pending else .ended) ∧
      e.after = e.before := by
  have hresult : e.operation.perform e.before = (e.reply, e.after) := valid
  rw [hoperation] at hresult
  exact ⟨(Prod.mk.inj hresult).1.symm, (Prod.mk.inj hresult).2.symm⟩

theorem Receives.channel {received : Received} (h : bus.Receives number first received after) :
    after.channel = bus.channel := by
  cases h <;> rfl

theorem Receives.subscribed {received : Received} (h : bus.Receives number first received after) :
    after.subscribed = bus.subscribed := by
  cases h <;> rfl

theorem Receives.get?_subscriptions {received : Received} {other : Nat}
    (h : bus.Receives number first received after) (hother : number ≠ other) :
    after.subscriptions.get? other = bus.subscriptions.get? other := by
  cases h with
  | gone | finished => rfl
  | message | pending => rw [Table.get?_put, if_neg hother]

/-- Only what is published comes into the channel. -/
theorem Exchange.Valid.channel (valid : e.Valid) :
    e.after.channel = e.sent?.elim e.before.channel fun message => e.before.channel.send message := by
  cases valid.affects with
  | sends hoperation hreply hafter =>
    rw [Exchange.sent?, hoperation, hreply, hafter]
    rfl
  | subscribes hoperation hreply hafter =>
    rw [Exchange.sent?, hoperation, hreply, hafter]
    rfl
  | unsubscribes hoperation hafter =>
    rw [Exchange.sent?, hoperation, hafter]
    rfl
  | receives hoperation hreply h =>
    rw [Exchange.sent?, hoperation, hreply, h.channel]
    rfl
  | spares hsent _ _ h =>
    rw [hsent, h.channel]
    rfl

theorem Exchange.Valid.subscribed_le (valid : e.Valid) : e.before.subscribed ≤ e.after.subscribed := by
  cases valid.affects with
  | sends _ _ hafter => exact Nat.le_of_eq (congrArg Bus.subscribed hafter).symm
  | subscribes _ _ hafter =>
    rw [hafter]
    exact Nat.le_succ _
  | unsubscribes _ hafter => exact Nat.le_of_eq (congrArg Bus.subscribed hafter).symm
  | receives _ _ h => exact Nat.le_of_eq h.subscribed.symm
  | spares _ _ _ h => exact Nat.le_of_eq h.subscribed.symm

/-- A subscription is touched by its own reader alone. -/
theorem Exchange.Valid.get?_subscriptions (valid : e.Valid) (hnumber : number ≤ e.before.subscribed)
    (hunsubscribe : e.operation ≠ .unsubscribe number)
    (hreceive : ∀ first, e.operation ≠ .receive number first) :
    e.after.subscriptions.get? number = e.before.subscriptions.get? number := by
  cases valid.affects with
  | sends _ _ hafter => rw [hafter]
  | subscribes _ _ hafter =>
    rw [hafter, Table.get?_put, if_neg (by omega)]
  | @unsubscribes other hoperation hafter =>
    rw [hafter, unsubscribe, Table.get?_erase, if_neg]
    rintro rfl
    exact hunsubscribe hoperation
  | @receives other _ _ hoperation _ h =>
    refine h.get?_subscriptions ?_
    rintro rfl
    exact hreceive _ hoperation
  | spares _ _ _ h => rw [h.subscriptions]

/-- What the channel holds after a run is what it held before and what was published. -/
theorem Run.history (run : Run start log bus) :
    bus.channel.history.toList = start.channel.history.toList ++ sent log ∧
      bus.channel.capacity = start.channel.capacity := by
  induction run with
  | start => exact ⟨(List.append_nil _).symm, rfl⟩
  | @exchange log e run valid ih =>
    rw [valid.channel, sent_cons, ← List.append_assoc, ← ih.1, ← ih.2]
    cases e.sent? with
    | none => exact ⟨(List.append_nil _).symm, rfl⟩
    | some message => exact ⟨Array.toList_push, rfl⟩

end ClaimRelay.Bus
