import ClaimRelay.Proofs.Bus.Messages
import ClaimRelay.Proofs.Manager.Inversion
import ClaimRelay.Proofs.Manager.Link

/-! What each step of a manager does to its link.  There is one lemma for each function that the
holder of the lock goes through, and from them one `_change` lemma for each step. -/

namespace ClaimRelay.Manager

namespace Scene

/-- The link of a scene. -/
def link (s : Scene) : Link := ⟨s.manager.toControl, s.around.bus.toRegistry⟩

/-! ### What leaves a link alone -/

@[simp] theorem link_give (s : Scene) (notice : Notice) : (s.give notice).link = s.link := rfl

@[simp] theorem link_note (s : Scene) (level : Notice.Level) (text : String)
    (fields : List (String × String)) : (s.note level text fields).link = s.link := rfl

@[simp] theorem link_answer (s : Scene) (w : Waiter) (result : Result) :
    (s.answer w result).link = s.link := by
  unfold answer
  split <;> rfl

@[simp] theorem link_subscribe (s : Scene) (connection : Nat) (kind : Notification) :
    (s.subscribe connection kind).link = s.link := by
  have hbus := Bus.toRegistry_subscribe s.around.bus connection kind.pattern
  unfold subscribe
  dsimp only
  split
  · rfl
  · split
    · rename_i h
      rw [h] at hbus
      simpa [link, note, give] using hbus
    · rename_i h
      rw [h] at hbus
      simpa [link, note, give] using hbus

@[simp] theorem link_subscribeAll (s : Scene) (connection : Nat) :
    (s.subscribeAll connection).link = s.link := by
  unfold subscribeAll
  split
  · simp [Notification.all]
  · rfl

@[simp] theorem link_publish (s : Scene) (subject key : String) (payload : List UInt8) :
    (s.publish subject key payload).2.link = s.link := by
  unfold publish
  dsimp only
  split
  · rfl
  · rename_i connection _
    have hbus := Bus.toRegistry_publish s.around.bus connection ⟨subject, payload⟩
    split
    · rename_i h
      rw [h] at hbus
      simpa [link] using hbus
    · rename_i h
      rw [h] at hbus
      simpa [link, give] using hbus

@[simp] theorem link_endDispatcher (s : Scene) (subscription : Nat) :
    (s.endDispatcher subscription).link = s.link := rfl

@[simp] theorem link_finishDispatcher (s : Scene) (d : Dispatcher) :
    (s.finishDispatcher d).link = s.link := rfl

@[simp] theorem link_awaitMessage (s : Scene) (d : Dispatcher) : (s.awaitMessage d).link = s.link := by
  unfold awaitMessage
  split <;> rfl

theorem link_foldl {α : Type} {f : Scene → α → Scene} (hf : ∀ s a, (f s a).link = s.link)
    (as : List α) (s : Scene) : (as.foldl f s).link = s.link := by
  induction as generalizing s with
  | nil => rfl
  | cons a as ih => rw [List.foldl_cons, ih, hf]

@[simp] theorem link_takeIn (s : Scene) (d : Dispatcher) (message : Bus.Message) :
    (s.takeIn d message).link = s.link := by
  unfold takeIn
  split
  dsimp only
  split
  · rw [link_endDispatcher, link_foldl link_give]
    rfl
  · rw [link_awaitMessage, link_give, link_foldl link_give]
    rfl

theorem link_dispatch {s t : Scene} {subscription : Nat} {first : Bus.Branch}
    (h : s.dispatch subscription first = some t) : t.link = s.link := by
  obtain ⟨d, -, -, hdispatched⟩ := dispatch_eq_some h
  cases hdispatched with
  | starts =>
    rw [link_awaitMessage]
    rfl
  | ends => simp
  | takes _ hreceive =>
    have hbus := Bus.toRegistry_receive s.around.bus d.subscription first
    rw [hreceive] at hbus
    rw [link_takeIn]
    simpa [link] using hbus
  | skips _ hreceive =>
    have hbus := Bus.toRegistry_receive s.around.bus d.subscription first
    rw [hreceive] at hbus
    simpa [link] using hbus

/-- A dispatcher that can go on can do so whatever it looks for first. -/
theorem dispatch_isSome {s t : Scene} {subscription : Nat} {first : Bus.Branch}
    (h : s.dispatch subscription first = some t) : (s.dispatch subscription).isSome := by
  refine Option.isSome_iff_ne_none.mpr fun hnone => ?_
  obtain ⟨d, hd, rfl, hdispatched⟩ := dispatch_eq_some h
  obtain ⟨hstarted, hunread, bus, hreceive⟩ := dispatch_waiting hnone hd
  obtain ⟨sub, hsub, hopen, -⟩ := Bus.receive_pending hreceive
  have hsame := (Bus.receive_of_open hsub hopen first).trans hreceive
  cases hdispatched with
  | starts hidle => simp [hstarted] at hidle
  | ends _ hends => simp [hsame] at hends
  | takes _ htakes => simp [hsame] at htakes
  | skips _ _ hleft => exact hleft hunread

/-! ### Ends of attempts -/

theorem link_connected (s : Scene) (id : Nat) :
    (s.connected id).link =
      { s.link with control := { s.link.control with connection := some id, phase := .idle } } := by
  show { (s.subscribeAll id).link with control := { (s.subscribeAll id).link.control with
    connection := some id, phase := .idle } } = _
  rw [link_subscribeAll]

theorem link_replaced (s : Scene) (id : Nat) :
    (s.replaced id).link =
      { control := { s.link.control.cancelRetry with connection := some id, phase := .idle }
        registry := s.link.registry.closeAny s.link.control.connection } := by
  show (⟨{ (s.subscribeAll id).link.control.cancelRetry with
    connection := some id, phase := .idle },
    (s.subscribeAll id).link.registry.closeAny s.link.control.connection⟩ : Link) = _
  rw [link_subscribeAll]

theorem endAttempt_of_replaces {w : Waiter} (hw : w.replaces = true) (s : Scene)
    (result : Except Bus.Error Nat) :
    (s.endAttempt w result).link =
      match result with
      | .ok id => (s.replaced id).link
      | .error _ => s.link := by
  obtain ⟨ticket, rfl⟩ := Waiter.replaces_eq_true hw
  cases result <;> simp [endAttempt]

theorem endAttempt_of_not_replaces {w : Waiter} (hw : w.replaces = false) (s : Scene)
    (result : Except Bus.Error Nat) :
    (s.endAttempt w result).link =
      match result with
      | .ok id => (s.connected id).link
      | .error reason => (s.connectFailed reason).link := by
  unfold endAttempt
  split <;> simp_all [Waiter.replaces]

theorem reachBus_failing {s : Scene} (h : 0 < s.around.bus.failing) :
    ∃ reason, s.reachBus =
      (.error reason, { s with around.bus.failing := s.around.bus.failing - 1 }) :=
  ⟨_, by simp [reachBus, Bus.finishConnect, h]; rfl⟩

theorem reachBus_ok {s : Scene} (h : ¬0 < s.around.bus.failing) :
    s.reachBus =
      (.ok s.around.bus.nextId, { s with around.bus.toRegistry := s.link.entering }) := by
  simp [reachBus, Bus.finishConnect, h]
  rfl

/-- The timer of a retry that is scheduled now. -/
def retryTimer (s : Scene) : Timer :=
  ⟨s.around.now + s.manager.settings.reconnectWait.toNat, s.around.serial⟩

/-- How an attempt made for `w` ends, from a scene in which it no longer holds the lock. -/
inductive Ends (w : Waiter) (s t : Scene) : Prop
  | connected (hw : w.replaces = false)
      (h : t.link =
        { control := { s.link.control with connection := some s.link.registry.nextId, phase := .idle }
          registry := s.link.entering })
  /-- There will be another attempt after the wait. -/
  | failed (hw : w.replaces = false)
      (h : t.link = { s.link with control := s.link.control.schedule s.retryTimer })
  | replaced (ticket : Nat) (hw : w = .call ticket .reconnect)
      (h : t.link =
        { control := { s.link.control.cancelRetry with
            connection := some s.link.registry.nextId, phase := .idle }
          registry := s.link.entering.closeAny s.link.control.connection })
      (hresult : t.manager.results.get? ticket = some (.reconnected (.ok true)))
  /-- Nothing comes of it but the answer. -/
  | kept (ticket : Nat) (hw : w = .call ticket .reconnect) (reason : Bus.Error) (failing : Nat)
      (notices : List Notice)
      (h : t = { s with
        manager.results := s.manager.results.put ticket (.reconnected (.error (.connect reason)))
        around.bus.failing := failing
        around.notices := notices })

theorem Ends.link {w : Waiter} {s t : Scene} (h : Ends w s t) : Link.Ends w s.link t.link := by
  cases h with
  | connected hw h => exact h ▸ .connected hw
  | failed hw h => exact h ▸ .failed _ hw
  | replaced ticket hw h => exact h ▸ .replaced (hw ▸ rfl)
  | kept ticket hw reason failing notices h => exact h ▸ .kept (hw ▸ rfl)

theorem endAttempt_error_ends (w : Waiter) (s : Scene) (reason : Bus.Error) :
    Ends w s (s.endAttempt w (.error reason)) := by
  cases hw : w.replaces with
  | true =>
    obtain ⟨ticket, rfl⟩ := Waiter.replaces_eq_true hw
    exact .kept ticket rfl reason s.around.bus.failing _ rfl
  | false =>
    refine .failed hw ?_
    rw [endAttempt_of_not_replaces hw]
    rfl

theorem reachBus_ends (w : Waiter) (s : Scene) :
    Ends w s (s.reachBus.2.endAttempt w s.reachBus.1) := by
  by_cases h : 0 < s.around.bus.failing
  · obtain ⟨reason, hreach⟩ := reachBus_failing h
    rw [hreach]
    cases endAttempt_error_ends w { s with around.bus.failing := s.around.bus.failing - 1 } reason with
    | connected hw h => exact .connected hw h
    | failed hw h => exact .failed hw h
    | replaced ticket hw h hresult => exact .replaced ticket hw h hresult
    | kept ticket hw reason failing notices h => exact .kept ticket hw reason failing notices h
  · rw [reachBus_ok h]
    cases hw : w.replaces with
    | true =>
      obtain ⟨ticket, rfl⟩ := Waiter.replaces_eq_true hw
      refine .replaced ticket rfl ?_ ?_
      · rw [endAttempt_of_replaces hw]
        dsimp only
        rw [link_replaced]
        rfl
      · exact (Table.get?_put ..).trans (if_pos rfl)
    | false =>
      refine .connected hw ?_
      rw [endAttempt_of_not_replaces hw]
      dsimp only
      rw [link_connected]
      rfl

/-! ### Attempts -/

/-- A scene in which an attempt has begun. -/
def begun (s : Scene) : Scene :=
  { s with
    manager.attempts := s.manager.attempts + 1
    around.bus := (s.around.bus.beginConnect s.manager.settings.connectOptions s.around.files).2 }

/-- An attempt holds the lock from now on, or it is over at once. -/
theorem attempt_cases (w : Waiter) (s : Scene) :
    (∃ a, a.waiter = w ∧ s.attempt w =
      { s.begun with around.serial := s.around.serial + 1, manager.attempt := some a }) ∨
      Ends w s.begun (s.attempt w) := by
  unfold attempt
  dsimp only
  split
  · exact .inr (endAttempt_error_ends w s.begun _)
  · exact .inr (reachBus_ends w s.begun)
  · rename_i delay _
    let limit := s.manager.settings.connectOptions.connectTimeout.toNat
    exact .inl ⟨⟨w, s.around.now + min delay limit, limit < delay, s.around.serial⟩, rfl, rfl⟩

/-- The scene in which an attempt for `w` has just begun. -/
structure Begins (w : Waiter) (s b : Scene) : Prop where
  asks : w.connects = true ∧ ¬(s.manager.prepare w).Provided ∨ w.replaces = true
  wanted : (s.manager.prepare w).Wanted
  manager : b.manager = { s.manager with toControl := { s.manager.prepare w with
    phase := if w.replaces then s.manager.phase else .connecting
    attempts := s.manager.attempts + 1 } }
  around : ∃ notices, b.around = { s.around with
    bus.attempts := s.around.bus.attempts + 1, notices := notices }

/-- Connecting does nothing, or it is an attempt where there is neither a connection nor a retry. -/
theorem connect_link (w : Waiter) (s : Scene) :
    (s.connect w).link = s.link ∧ (¬s.link.control.Wanted ∨ s.link.control.Provided) ∨
      s.connect w = { s with manager.phase := .connecting }.attempt w ∧
        s.link.control.Wanted ∧ ¬s.link.control.Provided := by
  unfold connect
  split
  · rename_i h
    exact .inl ⟨by simp, .inl fun hwanted => by simp_all [Control.Wanted, link]⟩
  · split
    · rename_i h
      refine .inl ⟨?_, .inl fun hwanted => by simp_all [Control.Wanted, link]⟩
      split
      · rw [link_answer]
      · rw [link_answer, link_note]
        rfl
    · split
      · rename_i h
        exact .inl ⟨by simp, .inr (by simpa [Control.Provided, link] using h)⟩
      · exact .inr ⟨rfl, by simp_all [Control.Wanted, link], by simp_all [Control.Provided, link]⟩

/-! ### What a waiter does -/

theorem isLost_eq_true (s : Scene) : s.isLost = true ↔ s.link.Lost := by
  unfold isLost Link.Lost
  split
  · rename_i id hid
    simp [link, hid, Bus.Registry.isClosed]
  · rename_i hid
    simp [link, hid]

theorem link_stop (s : Scene) (running : s.manager.running = true) :
    s.stop.2.link = s.link.halted [] := by
  unfold stop
  rw [running]
  show (⟨_, _⟩ : Link) = ⟨_, _⟩
  simp [link, give, note, Bus.closeAny]

theorem stop_fst (s : Scene) : s.stop.1 = s.manager.running := by
  unfold stop
  cases hrunning : s.manager.running <;> rfl

theorem stop_of_not_running (s : Scene) (h : s.manager.running = false) : s.stop.2 = s := by
  simp [stop, h]

/-- What a waiter that has the lock does, with the attempt that it makes.  The waiter is no longer in the
queue. -/
inductive Serves (w : Waiter) (s t : Scene) : Prop
  /-- It makes no attempt. -/
  | rests (h : Link.Serves w s.link t.link) (hattempts : t.manager.attempts = s.manager.attempts)
      (hreplaces : ∀ ticket, w = .call ticket .reconnect →
        t = { s with manager.results := s.manager.results.put ticket (.reconnected (.ok false)) })
  /-- Its attempt takes time. -/
  | holds {b : Scene} (hb : Begins w s b) (a : Attempt) (ha : a.waiter = w)
      (h : t = { b with around.serial := b.around.serial + 1, manager.attempt := some a })
  /-- Its attempt is over at once. -/
  | ends {b : Scene} (hb : Begins w s b) (h : Ends w b t)

theorem Begins.serves {w : Waiter} {s b : Scene} (hb : Begins w s b) {a : Attempt}
    (ha : a.waiter = w) :
    Link.Serves w s.link { b.link with control := { b.link.control with attempt := some a } } := by
  obtain ⟨hasks, wanted, hmanager, notices, haround⟩ := hb
  have hlink : b.link = { s.link with control := { s.link.control.prepare w with
      phase := if w.replaces then s.link.control.phase else .connecting
      attempts := s.link.control.attempts + 1 } } := by
    rw [link, hmanager, haround]
    rfl
  rw [hlink]
  rcases hasks with ⟨hw, missing⟩ | hw
  · rw [Waiter.replaces_of_connects hw]
    exact .connect a hw ha wanted missing
  · obtain ⟨ticket, rfl⟩ := Waiter.replaces_eq_true hw
    exact .reconnect a rfl ha wanted

theorem Serves.served {w : Waiter} {s t : Scene} (h : Serves w s t)
    (free : s.manager.attempt = none) : Link.Served w s.link t.link := by
  cases h with
  | rests h => exact .inl h
  | holds hb a ha h => exact h ▸ .inl (hb.serves ha)
  | @ends b hb h =>
    let a : Attempt := ⟨w, 0, false, 0⟩
    have hfreed : ({ b.link with control := { b.link.control with attempt := some a } } : Link).freed =
        b.link := by
      have hnone : b.link.control.attempt = none := by
        rw [link, hb.manager]
        exact free
      rw [Link.freed, ← hnone]
    exact .inr ⟨_, a, hb.serves rfl, rfl, hfreed ▸ h.link⟩

/-- A waiter that connects, in a scene in which it has prepared what it changes before. -/
theorem connect_serves {w : Waiter} {s p : Scene} (hw : w.connects = true)
    (hmanager : p.manager = { s.manager with toControl := s.manager.prepare w })
    (haround : ∃ notices, p.around = { s.around with notices }) : Serves w s (p.connect w) := by
  obtain ⟨notices, haround⟩ := haround
  have hlink : p.link = { s.link with control := s.link.control.prepare w } := by
    rw [link, hmanager, haround]
    rfl
  rcases connect_link w p with ⟨hsame, hskip⟩ | ⟨hattempt, wanted, missing⟩
  · rw [hlink] at hsame hskip
    refine .rests ?_ (congrArg (·.control.attempts) hsame) fun ticket hreconnect => ?_
    · rw [hsame]
      refine .idle ?_
      unfold Link.Idles
      split <;> first | exact fun _ => hskip | simp [Waiter.connects] at hw
    · simp [hreconnect, Waiter.connects] at hw
  · rw [hlink] at wanted missing
    have hbegins : Begins w s ({ p with manager.phase := .connecting } : Scene).begun := {
      asks := .inl ⟨hw, missing⟩
      wanted
      manager := by
        rw [begun, Waiter.replaces_of_connects hw, hmanager]
        rfl
      around := ⟨notices, by rw [begun, Bus.beginConnect_snd, haround]⟩ }
    rw [hattempt]
    rcases attempt_cases w { p with manager.phase := .connecting } with ⟨a, ha, h⟩ | hends
    · exact .holds hbegins a ha h
    · exact .ends hbegins hends

theorem reconnect_serves (ticket : Nat) (s : Scene) :
    Serves (.call ticket .reconnect) s (s.serveCall ticket .reconnect) := by
  unfold serveCall
  dsimp only
  split
  · rename_i h
    have hidle : ¬s.link.control.Wanted := fun hwanted => by simp_all [Control.Wanted, link]
    refine .rests (.idle hidle) rfl fun ticket' hticket => ?_
    obtain ⟨rfl, -⟩ := Waiter.call.inj hticket
    rfl
  · rename_i h
    have hbegins : Begins (.call ticket .reconnect) s s.begun := {
      asks := .inr rfl
      wanted := by
        show s.link.control.Wanted
        simp_all [Control.Wanted, link]
      manager := rfl
      around := ⟨s.around.notices, by rw [begun, Bus.beginConnect_snd]⟩ }
    rcases attempt_cases (.call ticket .reconnect) s with ⟨a, ha, h⟩ | hends
    · exact .holds hbegins a ha h
    · exact .ends hbegins hends

theorem stop_serves (ticket : Nat) (s : Scene) :
    Link.Serves (.call ticket .stop) s.link s.stop.2.link := by
  cases running : s.manager.running with
  | true =>
    rw [link_stop s running]
    exact .stop ticket rfl running
  | false =>
    rw [stop_of_not_running s running]
    exact .idle running

theorem handleClosed_serves (s : Scene) :
    Link.Serves (.event .closed) s.link s.handleClosed.link := by
  unfold handleClosed
  split
  · rename_i h
    rw [link_note]
    have hidle : s.manager.running = false ∨ ¬s.link.Lost := by
      rw [← isLost_eq_true]
      simpa using h
    exact .idle hidle
  · rename_i h
    obtain ⟨running, hlost⟩ : s.manager.running = true ∧ s.isLost = true := by simpa using h
    have hnoted := link_stop
      (s.note .error "Claim notification bus connection closed permanently" []) running
    rw [link_note] at hnoted
    dsimp only
    have hhalted : Link.halted s.link [lossCode] =
        { s.link.halted [] with control := { (s.link.halted []).control with
          exits := (s.link.halted []).control.exits ++ [lossCode] } } := by
      simp [Link.halted]
    have hlose := Link.Serves.lose (w := .event .closed) rfl running ((isLost_eq_true s).mp hlost)
    rw [hhalted, ← hnoted] at hlose
    exact hlose

/-- A waiter that asks for no connection. -/
theorem Serves.of_link {w : Waiter} {s t : Scene} (h : Link.Serves w s.link t.link)
    (hconnects : w.connects = false) (hreplaces : w.replaces = false) : Serves w s t := by
  refine .rests h (h.attempts_eq hconnects hreplaces) fun ticket hticket => ?_
  simp [hticket, Waiter.replaces] at hreplaces

/-- A waiter that asks for a connection connects once it has prepared the manager, if that runs then. -/
theorem serve_eq_connect {w : Waiter} {s : Scene} (hw : w.connects = true)
    (running : (s.manager.prepare w).running = true) :
    ∃ p : Scene, s.serve w = p.connect w ∧
      p.manager = { s.manager with toControl := s.manager.prepare w } ∧
      ∃ notices, p.around = { s.around with notices } := by
  cases w with
  | call ticket call =>
    cases call with
    | start =>
      refine ⟨_, rfl, ?_, ?_⟩
      · split
        · rename_i running
          simp [Control.prepare, ← running]
        · rfl
      · split
        · exact ⟨_, rfl⟩
        · exact ⟨_, rfl⟩
    | connect => exact ⟨s, rfl, rfl, s.around.notices, rfl⟩
    | _ => simp [Waiter.connects] at hw
  | retry id => exact ⟨_, if_pos running, rfl, s.around.notices, rfl⟩
  | event event => simp [Waiter.connects] at hw

/-- What a waiter does when it has the lock. -/
theorem serve_serves (w : Waiter) (s : Scene) : Serves w s (s.serve w) := by
  have hconnects (hw : w.connects = true) (running : (s.manager.prepare w).running = true) :
      Serves w s (s.serve w) := by
    obtain ⟨p, hserve, hmanager, haround⟩ := serve_eq_connect hw running
    exact hserve ▸ connect_serves hw hmanager haround
  cases w with
  | call ticket call =>
    cases call with
    | start => exact hconnects rfl rfl
    | connect => exact connect_serves rfl rfl ⟨_, rfl⟩
    | reconnect => exact reconnect_serves ticket s
    | stop =>
      refine .of_link ?_ rfl rfl
      show Link.Serves _ s.link (s.stop.2.answer _ _).link
      rw [link_answer]
      exact stop_serves ticket s
    | acquire =>
      refine .of_link ?_ rfl rfl
      show Link.Serves _ s.link (s.answer _ _).link
      rw [link_answer]
      exact .idle (by simp [Link.Idles, Waiter.connects])
    | publish subject key payload =>
      refine .of_link ?_ rfl rfl
      show Link.Serves _ s.link ((s.publish subject key payload).2.answer _ _).link
      rw [link_answer, link_publish]
      exact .idle (by simp [Link.Idles, Waiter.connects])
  | retry id =>
    show Serves _ s (s.serveRetry id)
    by_cases running : s.manager.running = true
    · exact hconnects rfl running
    · have hnote : s.serveRetry id = ({ s with manager.retry := none, manager.phase := .idle } :
          Scene).note .debug "Server stopped before retry fired" [] := if_neg running
      rw [hnote]
      refine .rests (.idle fun _ => .inl fun hwanted => ?_) rfl (by simp)
      exact running hwanted.1
  | event event =>
    cases event with
    | closed => exact .of_link (handleClosed_serves s) rfl rfl
    | _ =>
      refine .of_link ?_ rfl rfl
      show Link.Serves _ s.link (if _ then _ else _ : Scene).link
      split <;> exact .idle (by simp [Link.Idles, Waiter.connects])

/-! ### Steps -/

theorem request_aside (ticket : Nat) (call : Call) (s : Scene) :
    Link.Aside s.link (s.request ticket call).link :=
  .request ticket call

theorem grant_serves {s t : Scene} (h : s.grant = some t) :
    ∃ w rest, s.manager.attempt = none ∧ s.manager.queue = w :: rest ∧
      Serves w { s with manager.queue := rest } t := by
  obtain ⟨w, rest, free, hqueue, rfl⟩ := grant_eq_some h
  exact ⟨w, rest, free, hqueue, serve_serves w { s with manager.queue := rest }⟩

theorem grant_served {s t : Scene} (h : s.grant = some t) :
    ∃ w rest, s.manager.attempt = none ∧ s.manager.queue = w :: rest ∧
      Link.Served w { s.link with control := { s.link.control with queue := rest } } t.link := by
  obtain ⟨w, rest, free, hqueue, hserves⟩ := grant_serves h
  exact ⟨w, rest, free, hqueue, hserves.served free⟩

/-- The first waiter is served. -/
theorem grant_eq_serve {s t : Scene} {w : Waiter} {rest : List Waiter} (h : s.grant = some t)
    (hq : s.manager.queue = w :: rest) : t = ({ s with manager.queue := rest } : Scene).serve w := by
  obtain ⟨first, others, -, hqueue, rfl⟩ := grant_eq_some h
  obtain ⟨rfl, rfl⟩ := List.cons.inj (hqueue.symm.trans hq)
  rfl

/-- A call that asks for the connection is answered with the current one. -/
theorem grant_acquire {s t : Scene} {ticket : Nat} {rest : List Waiter} (h : s.grant = some t)
    (hq : s.manager.queue = .call ticket .acquire :: rest) :
    t.manager.results.get? ticket = some (.acquired s.manager.connection) := by
  rw [grant_eq_serve h hq]
  show (s.manager.results.put ticket _).get? ticket = _
  rw [Table.get?_put, if_pos rfl]

/-- A call to stop is answered with whether the manager was running. -/
theorem grant_stop {s t : Scene} {ticket : Nat} {rest : List Waiter} (h : s.grant = some t)
    (hq : s.manager.queue = .call ticket .stop :: rest) :
    t.manager.results.get? ticket = some (.stopped s.manager.running) := by
  rw [grant_eq_serve h hq]
  let served : Scene := { s with manager.queue := rest }
  show (served.stop.2.manager.results.put ticket (.stopped served.stop.1)).get? ticket = _
  rw [Table.get?_put, if_pos rfl, stop_fst]

theorem finish_ends {s t : Scene} (h : s.finish = some t) :
    ∃ a, s.manager.attempt = some a ∧ Ends a.waiter { s with manager.attempt := none } t := by
  obtain ⟨a, free, ha, -, rfl, hend⟩ := finish_eq_some h
  refine ⟨a, ha, ?_⟩
  rcases hend with ⟨-, rfl⟩ | ⟨-, rfl⟩
  · exact endAttempt_error_ends a.waiter { s with manager.attempt := none } _
  · exact reachBus_ends a.waiter { s with manager.attempt := none }

theorem finish_aside {s t : Scene} (h : s.finish = some t) : Link.Aside s.link t.link := by
  obtain ⟨a, ha, hends⟩ := finish_ends h
  exact .finish ha hends.link

theorem wake_aside {id : Nat} {s t : Scene} (h : s.wake id = some t) :
    Link.Aside s.link t.link := by
  obtain ⟨timer, htimer, -, rfl⟩ := wake_eq_some h
  exact .wake htimer

/-- An event is ignored, or it waits for the lock. -/
theorem link_handleEvent (event : Bus.Event) (s : Scene) :
    (s.handleEvent event).link =
      { s.link with control := { s.link.control with
          queue := s.link.control.queue ++ Waiter.ofEvent event } } := by
  cases event <;> simp [handleEvent, Waiter.ofEvent, link, note, give]

theorem link_hear {s t : Scene} (h : s.hear = some t) : ∃ event mail,
    Bus.takeMail s.manager.listener s.around.bus.mail = some (event, mail) ∧
      t.link = {
        control := { s.link.control with
          queue := s.link.control.queue ++ Waiter.ofEvent event }
        registry := { s.link.registry with mail } } := by
  obtain ⟨event, mail, -, -, hmail, rfl⟩ := hear_eq_some h
  exact ⟨event, mail, hmail, link_handleEvent event _⟩

theorem hear_aside {s t : Scene} (h : s.hear = some t) : Link.Aside s.link t.link := by
  obtain ⟨event, mail, hmail, hlink⟩ := link_hear h
  rw [hlink]
  exact .hear hmail

theorem dispatch_aside {subscription : Nat} {first : Bus.Branch} {s t : Scene}
    (h : s.dispatch subscription first = some t) : Link.Aside s.link t.link := by
  rw [link_dispatch h]
  exact .stay

theorem release_aside (s : Scene) : Link.Aside s.link s.release.link := by
  rcases s.release_eq_or with hsame | ⟨howned, hreleased⟩
  · rw [hsame]
    exact .stay
  · rw [hreleased]
    exact .release howned

/-- A manager ends only while it has nothing to finish. -/
theorem link_reap {s t : Scene} (h : s.reap = some t) :
    s.manager.attempt = none ∧ s.manager.queue = [] ∧ s.manager.timers = [] ∧
      t.link.control = { s.link.control with life := .ended, connection := none } ∧
      (t.link.registry = s.link.registry ∨
        ∃ id, s.manager.connection = some id ∧ t.link.registry = s.link.registry.discard id) := by
  obtain ⟨-, free, hqueue, htimers, last, bus, hlast, hbus, rfl⟩ := reap_eq_some h
  have hlink : last.link = s.link := by
    rw [hlast]
    exact link_foldl (fun s (d : Dispatcher) => link_endDispatcher s d.subscription) _ s
  have hconnection : last.manager.connection = s.manager.connection :=
    congrArg (·.control.connection) hlink
  refine ⟨free, hqueue, htimers, ?_, ?_⟩
  · rw [← hlink]
    rfl
  · rw [← hlink, ← hconnection]
    rcases hbus with rfl | ⟨id, hid, rfl⟩
    · exact .inl rfl
    · exact .inr ⟨id, hid, rfl⟩

theorem reap_aside {s t : Scene} (h : s.reap = some t) : Link.Aside s.link t.link := by
  obtain ⟨free, hqueue, htimers, hcontrol, hregistry⟩ := link_reap h
  have hlink : t.link = ⟨{ s.link.control with life := .ended, connection := none },
      t.link.registry⟩ := by rw [← hcontrol]
  rw [hlink]
  exact .reap free hqueue htimers hregistry

end Scene

end ClaimRelay.Manager
