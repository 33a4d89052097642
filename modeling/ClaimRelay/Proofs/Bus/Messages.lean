import ClaimRelay.Bus.Basic
import ClaimRelay.Proofs.Bus.Channel

/-! What the operations of a bus do to its channel and its subscriptions.  There is one lemma for each
result that publishing and receiving may have. -/

namespace ClaimRelay.Bus

variable {bus after : Bus} {id number : Nat} {message : Message}

theorem publish_ok (h : bus.publish id message = (.ok (), after)) :
    bus.isClosed id = false ∧ after = { bus with channel := bus.channel.send message } := by
  unfold publish at h
  split at h
  · simp at h
  · rename_i hopen
    split at h
    · simp at h
    · dsimp only at h
      split at h
      · simp at h
      · exact ⟨by simpa using hopen, (Prod.mk.inj h).2.symm⟩

/-- An open connection publishes every message whose subject is well-formed and whose payload is not too
large. -/
theorem publish_eq_ok_iff (hopen : bus.isClosed id = false) :
    (bus.publish id message).1 = .ok () ↔
      Subject.subjectFlaw? message.subject = none ∧ message.payload.length ≤ greatestPayload := by
  unfold publish
  rw [if_neg (by simp [hopen]), checkSubject]
  cases Subject.subjectFlaw? message.subject with
  | some flaw => simp
  | none =>
    dsimp only
    split
    · simp; omega
    · simp; omega

theorem publish_error {e : Error} (h : bus.publish id message = (.error e, after)) :
    after = bus := by
  unfold publish at h
  split at h
  · exact (Prod.mk.inj h).2.symm
  · split at h
    · exact (Prod.mk.inj h).2.symm
    · dsimp only at h
      split at h
      · exact (Prod.mk.inj h).2.symm
      · simp at h

theorem subscribe_ok {pattern : String} (h : bus.subscribe id pattern = (.ok number, after)) :
    bus.isClosed id = false ∧ number = bus.subscribed + 1 ∧
      after = { bus with
        subscribed := bus.subscribed + 1
        subscriptions :=
          bus.subscriptions.put (bus.subscribed + 1) ⟨id, pattern, bus.channel.tail⟩ } := by
  unfold subscribe at h
  split at h
  · simp at h
  · rename_i hopen
    split at h
    · simp at h
    · obtain ⟨hnumber, hafter⟩ := Prod.mk.inj h
      exact ⟨by simpa using hopen, (Except.ok.inj hnumber).symm, hafter.symm⟩

theorem subscribe_error {pattern : String} {e : Error}
    (h : bus.subscribe id pattern = (.error e, after)) : after = bus := by
  unfold subscribe at h
  split at h
  · exact (Prod.mk.inj h).2.symm
  · split at h
    · exact (Prod.mk.inj h).2.symm
    · simp at h

/-- A reader that looks for `first` first may get the message at a place. -/
def Reaches (bus : Bus) (s : Subscription) (first : Branch) (place : Nat) : Prop :=
  bus.isOver s.connection = false ∨
    first = .message ∧ (bus.isClosed s.connection = true → place = s.cursor)

theorem found?_of_open {s : Subscription} (first : Branch) (hopen : bus.isOver s.connection = false) :
    bus.found? s first = bus.channel.search s.pattern (bus.channel.resume s.cursor) := by
  simp [found?, hopen]

theorem found?_reaches {s : Subscription} {first : Branch} {place : Nat}
    (h : bus.found? s first = some (place, message)) :
    bus.Reaches s first place ∧
      bus.channel.search s.pattern (bus.channel.resume s.cursor) = some (place, message) := by
  cases hover : bus.isOver s.connection with
  | false => exact ⟨.inl hover, found?_of_open first hover ▸ h⟩
  | true =>
    cases first with
    | closing => simp [found?, hover] at h
    | message =>
      cases hclosed : bus.isClosed s.connection with
      | false => exact ⟨.inr ⟨rfl, by simp [hclosed]⟩, by simpa [found?, hover, hclosed] using h⟩
      | true =>
        obtain ⟨hsearch, hplace⟩ : _ ∧ place = s.cursor := by
          simpa [found?, hover, hclosed, Option.filter_eq_some_iff] using h
        exact ⟨.inr ⟨rfl, fun _ => hplace⟩, hsearch⟩

/-- What a reader that looks for `first` first may receive. -/
inductive Receives (bus : Bus) (number : Nat) (first : Branch) : Received → Bus → Prop
  | gone (h : bus.subscriptions.get? number = none) : Receives bus number first .ended bus
  | finished {s : Subscription} (hs : bus.subscriptions.get? number = some s)
      (hover : bus.isOver s.connection = true) (hfound : bus.found? s first = none) :
      Receives bus number first .ended bus
  | message {s : Subscription} {place : Nat} {message : Message}
      (hs : bus.subscriptions.get? number = some s)
      (hfound : bus.found? s first = some (place, message)) :
      Receives bus number first (.message message)
        { bus with subscriptions := bus.subscriptions.put number { s with cursor := place + 1 } }
  | pending {s : Subscription} (hs : bus.subscriptions.get? number = some s)
      (hopen : bus.isOver s.connection = false)
      (hsearch : bus.channel.search s.pattern (bus.channel.resume s.cursor) = none) :
      Receives bus number first .pending
        { bus with subscriptions := bus.subscriptions.put number { s with cursor := bus.channel.tail } }

theorem receive_receives {first : Branch} {received : Received}
    (h : bus.receive number first = (received, after)) : bus.Receives number first received after := by
  unfold receive at h
  split at h
  · rename_i hs
    obtain ⟨rfl, rfl⟩ := Prod.mk.inj h
    exact .gone hs
  · rename_i s hs
    dsimp only at h
    split at h
    · rename_i place message hfound
      obtain ⟨rfl, rfl⟩ := Prod.mk.inj h
      exact .message hs hfound
    · rename_i hfound
      split at h
      · rename_i hover
        obtain ⟨rfl, rfl⟩ := Prod.mk.inj h
        exact .finished hs hover hfound
      · rename_i hopen
        rw [Bool.not_eq_true] at hopen
        obtain ⟨rfl, rfl⟩ := Prod.mk.inj h
        exact .pending hs hopen (found?_of_open first hopen ▸ hfound)

theorem receive_message {first : Branch} (h : bus.receive number first = (.message message, after)) :
    ∃ s place, bus.subscriptions.get? number = some s ∧ bus.found? s first = some (place, message) ∧
      after = { bus with
        subscriptions := bus.subscriptions.put number { s with cursor := place + 1 } } := by
  cases receive_receives h with
  | message hs hfound => exact ⟨_, _, hs, hfound, rfl⟩

theorem receive_ended {first : Branch} (h : bus.receive number first = (.ended, after)) :
    ∀ s, bus.subscriptions.get? number = some s →
      bus.isOver s.connection = true ∧ bus.found? s first = none := by
  intro s hs
  cases receive_receives h with
  | gone hnone => simp [hnone] at hs
  | finished hs' hover hfound =>
    obtain rfl := Option.some.inj (hs'.symm.trans hs)
    exact ⟨hover, hfound⟩

theorem receive_pending {first : Branch} (h : bus.receive number first = (.pending, after)) :
    ∃ s, bus.subscriptions.get? number = some s ∧ bus.isOver s.connection = false ∧
      bus.channel.search s.pattern (bus.channel.resume s.cursor) = none := by
  cases receive_receives h with
  | pending hs hopen hsearch => exact ⟨_, hs, hopen, hsearch⟩

/-- While its connection is not over, a reader gets the same whatever it looks for first. -/
theorem receive_of_open {s : Subscription} (hs : bus.subscriptions.get? number = some s)
    (hopen : bus.isOver s.connection = false) (first : Branch) :
    bus.receive number first = bus.receive number := by
  simp only [receive, hs, found?_of_open _ hopen]

/-! ### What is not about messages -/

/-- No message and no subscription is touched. -/
structure Spares (bus after : Bus) : Prop where
  channel : after.channel = bus.channel
  subscriptions : after.subscriptions = bus.subscriptions
  subscribed : after.subscribed = bus.subscribed

theorem Spares.refl (bus : Bus) : bus.Spares bus := ⟨rfl, rfl, rfl⟩

theorem Spares.trans {latest : Bus} (h1 : bus.Spares after) (h2 : after.Spares latest) :
    bus.Spares latest :=
  ⟨h2.channel.trans h1.channel, h2.subscriptions.trans h1.subscriptions,
    h2.subscribed.trans h1.subscribed⟩

theorem spares_foldl {f : Bus → Nat → Bus} (hf : ∀ (bus : Bus) id, bus.Spares (f bus id))
    (ids : List Nat) (bus : Bus) : bus.Spares (ids.foldl f bus) := by
  induction ids generalizing bus with
  | nil => exact .refl bus
  | cons id ids ih => exact (hf bus id).trans (ih (f bus id))

theorem spares_closeAll (bus : Bus) : bus.Spares bus.closeAll :=
  spares_foldl (f := fun bus id => bus.close id) (fun _ _ => ⟨rfl, rfl, rfl⟩) ..

theorem spares_reportAll (event : Event) (bus : Bus) : bus.Spares (bus.reportAll event) :=
  spares_foldl (f := Bus.report event) (fun _ _ => ⟨rfl, rfl, rfl⟩) ..

theorem spares_announce (servers : List String) (bus : Bus) : bus.Spares (bus.announce servers) := by
  have hreport (bus : Bus) (id : Nat) : bus.Spares (bus.reportServers id) := by
    unfold reportServers
    split
    · exact ⟨rfl, rfl, rfl⟩
    · exact .refl bus
  have hfold := spares_foldl hreport bus.openConnections { bus with discovered := servers }
  exact ⟨hfold.channel, hfold.subscriptions, hfold.subscribed⟩

theorem spares_finishConnect (options : Options) (listener : Nat) (bus : Bus) :
    bus.Spares (bus.finishConnect options listener).2 := by
  unfold finishConnect
  split <;> exact ⟨rfl, rfl, rfl⟩

/-! ### What every operation keeps -/

theorem beginConnect_snd (options : Options) (files : FileSystem) (bus : Bus) :
    (bus.beginConnect options files).2 = { bus with attempts := bus.attempts + 1 } := by
  unfold beginConnect
  dsimp only
  split
  · rfl
  · split <;> rfl

/-- An attempt whose options are in order takes as long as the bus delays it. -/
theorem beginConnect_fst {options : Options} {files : FileSystem} (hservers : options.servers ≠ [])
    (hfiles : options.check files = .ok ()) (bus : Bus) :
    (bus.beginConnect options files).1 = .ok bus.delay := by
  unfold beginConnect
  dsimp only
  rw [if_neg hservers, hfiles]

/-- `after` may come from `bus` by any operations. -/
structure Advances (bus after : Bus) : Prop where
  channel : bus.channel.Grows after.channel
  subscribed : bus.subscribed ≤ after.subscribed

theorem Advances.of_eq (hchannel : after.channel = bus.channel)
    (hsubscribed : after.subscribed = bus.subscribed) : bus.Advances after :=
  ⟨hchannel ▸ .refl _, Nat.le_of_eq hsubscribed.symm⟩

theorem Advances.refl (bus : Bus) : bus.Advances bus := .of_eq rfl rfl

theorem Spares.advances (h : bus.Spares after) : bus.Advances after :=
  .of_eq h.channel h.subscribed

theorem advances_publish (id : Nat) (message : Message) (bus : Bus) :
    bus.Advances (bus.publish id message).2 := by
  rcases h : bus.publish id message with ⟨result, after⟩
  cases result with
  | ok =>
    rw [(publish_ok h).2]
    exact ⟨Channel.grows_send message _, Nat.le_refl _⟩
  | error => exact publish_error h ▸ .refl bus

theorem advances_subscribe (id : Nat) (pattern : String) (bus : Bus) :
    bus.Advances (bus.subscribe id pattern).2 := by
  unfold subscribe
  split
  · exact .refl bus
  · split
    · exact .refl bus
    · exact ⟨.refl _, Nat.le_succ _⟩

theorem advances_receive (number : Nat) (first : Branch) (bus : Bus) :
    bus.Advances (bus.receive number first).2 := by
  rcases h : bus.receive number first with ⟨received, after⟩
  cases receive_receives h with
  | gone | finished => exact .refl bus
  | message | pending => exact .of_eq rfl rfl

end ClaimRelay.Bus
