import ClaimRelay.Proofs.Manager.Effects

/-! What the steps of a manager do on the bus.  A manager makes a connection only to take it as its
current one, and closes a connection only as it gives it up.  `Registered` holds in every run: no
connection of the manager but the current one is open, and if the current one is closed then a notice
of that waits for the manager. -/

namespace ClaimRelay.Manager.Link

open Bus Registry

variable {s t u : Link} {w : Waiter}

/-- What the holder of the lock does to the current connection, and to the registry with it. -/
inductive Turnover (s t : Link) : Prop
  | keeps (hr : t.registry = s.registry) (hc : t.control.connection = s.control.connection)
  | closes (hr : t.registry = s.registry.closeAny s.control.connection)
      (hc : t.control.connection = none)
  | renews (hr : t.registry = s.entering.closeAny s.control.connection)
      (hc : t.control.connection = some s.registry.nextId)

theorem Serves.turnover (h : Serves w s t) : Turnover s t := by
  cases h with
  | connect => exact .keeps rfl rfl
  | reconnect => exact .keeps rfl rfl
  | stop => exact .closes rfl rfl
  | lose => exact .closes rfl rfl
  | idle => exact .keeps rfl rfl

theorem Ends.turnover {a : Attempt} (h : Ends a.waiter s.freed t) (hs : s.control.Sound)
    (ha : s.control.attempt = some a) : Turnover s t := by
  cases h with
  | connected hw =>
    have hnone : s.control.connection = none := ((hs.held a ha).not_provided hw).1
    refine .renews ?_ rfl
    rw [hnone]
    rfl
  | failed => exact .keeps rfl rfl
  | replaced => exact .renews rfl rfl
  | kept => exact .keeps rfl rfl

namespace Turnover

theorem grows (h : Turnover s t) : Grows s.registry t.registry := by
  cases h with
  | keeps hr => exact hr ▸ .refl _
  | closes hr => exact hr ▸ grows_closeAny _ _
  | renews hr => exact hr ▸ (grows_enter _ _).trans (grows_closeAny _ _)

theorem byOthers {ℓ : Nat} (h : Turnover s t) (hn : s.registry.Numbered)
    (hne : s.control.listener ≠ ℓ) : ByOthers ℓ s.registry t.registry := by
  cases h with
  | keeps hr => exact hr ▸ .refl ℓ _
  | closes hr => exact hr ▸ byOthers_closeAny ℓ _ _
  | renews hr => exact hr ▸ (byOthers_enter hn hne).trans hn (byOthers_closeAny ℓ _ _)

/-- A current connection that is new has a new number. -/
theorem current (h : Turnover s t) {id : Nat} (hid : t.control.connection = some id) :
    s.control.connection = some id ∨ s.registry.connections.length < id := by
  cases h with
  | keeps hr hc => exact .inl (hc ▸ hid)
  | closes hr hc => simp [hc] at hid
  | renews hr hc =>
    obtain rfl : s.registry.nextId = id := by simpa [hc] using hid
    exact .inr (Nat.lt_succ_self _)

end Turnover

/-! ### What a manager owns -/

/-- No connection of the manager is open but its current one. -/
structure Owns (s : Link) : Prop where
  numbered : s.registry.Numbered
  current : ∀ {id}, s.control.connection = some id →
    ∃ c, s.registry.connections.get? id = some c ∧ c.listener = s.control.listener
  only : s.control.life ≠ .ended → ∀ {id c}, s.registry.connections.get? id = some c →
    c.listener = s.control.listener → c.closed = false → s.control.connection = some id

theorem Owns.of_queue (hs : Owns s) (queue : List Waiter) :
    Owns { s with control := { s.control with queue } } := { hs with }

theorem Owns.ne_nextId (hs : Owns s) : s.control.connection ≠ some s.registry.nextId := by
  intro hc
  obtain ⟨c, hget, -⟩ := hs.current hc
  simp [hs.numbered.get?_nextId] at hget

/-- The connections after the manager has taken a new one and closed the one it had. -/
theorem get?_renewed (s : Link) (id : Nat) :
    (s.entering.closeAny s.control.connection).connections.get? id =
      (if s.registry.nextId = id then
        some { servers := s.control.settings.servers, listener := s.control.listener }
      else s.registry.connections.get? id).map fun c =>
        if s.control.connection = some id then { c with closed := true } else c := by
  rw [get?_closeAny, entering, get?_enter]

theorem Turnover.owns (h : Turnover s t) (hs : Owns s) (frame : Frame s t) : Owns t := by
  obtain ⟨-, hlistener, hlife⟩ := frame
  have hnumbered : t.registry.Numbered := h.grows.numbered hs.numbered
  cases h with
  | keeps hr hc =>
    exact {
      numbered := hnumbered
      current := by rw [hr, hc, hlistener]; exact hs.current
      only := by rw [hr, hc, hlistener, hlife]; exact hs.only }
  | closes hr hc =>
    refine ⟨hnumbered, fun hid => by simp [hc] at hid, fun alive id c hget hown hopen => ?_⟩
    rw [hr, get?_closeAny] at hget
    obtain ⟨c₀, hget₀, rfl⟩ := Option.map_eq_some_iff.mp hget
    split at hopen
    · simp at hopen
    · rename_i hother
      rw [if_neg hother] at hown
      exact absurd (hs.only (hlife ▸ alive) hget₀ (hown.trans hlistener) hopen) hother
  | renews hr hc =>
    have hne := hs.ne_nextId
    refine ⟨hnumbered, fun {id} hid => ?_, fun alive {id} c hget hown hopen => ?_⟩
    · obtain rfl : s.registry.nextId = id := by simpa [hc] using hid
      refine ⟨_, by rw [hr, get?_renewed, if_pos rfl]; rfl, ?_⟩
      dsimp only
      rw [if_neg hne, hlistener]
    · rw [hr, get?_renewed] at hget
      obtain ⟨c₀, hget₀, rfl⟩ := Option.map_eq_some_iff.mp hget
      split at hopen
      · simp at hopen
      · rename_i hother
        rw [if_neg hother] at hown
        split at hget₀
        · rename_i hnew
          rw [hc, hnew]
        · exact absurd (hs.only (hlife ▸ alive) hget₀ (hown.trans hlistener) hopen) hother

/-- If the current connection is closed after a turnover then it was there before and closed. -/
theorem Turnover.of_lost (h : Turnover s t) (hs : Owns s) (lost : t.Lost) :
    t.registry = s.registry ∧ t.control.connection = s.control.connection := by
  obtain ⟨id, hid, hclosed⟩ := lost
  cases h with
  | keeps hr hc => exact ⟨hr, hc⟩
  | closes hr hc => simp [hc] at hid
  | renews hr hc =>
    obtain rfl : s.registry.nextId = id := by simpa [hc] using hid
    have hopen : t.registry.isClosed s.registry.nextId = false := by
      rw [isClosed, hr, get?_renewed, if_pos rfl, Option.map_some, if_neg hs.ne_nextId]
    simp [hopen] at hclosed

/-! ### Steps -/

/-- What is preserved from `before` to `after` by whatever a manager does. -/
structure Follows (before after : Link) : Prop where
  numbered : before.registry.Numbered
  listener : after.control.listener = before.control.listener
  attempts : before.control.attempts ≤ after.control.attempts
  grows : Grows before.registry after.registry
  byOthers : ∀ {ℓ}, before.control.listener ≠ ℓ → ByOthers ℓ before.registry after.registry
  /-- A current connection that is new has a new number. -/
  current : ∀ {id}, after.control.connection = some id →
    before.control.connection = some id ∨ before.registry.connections.length < id
  /-- A manager does not close its current connection. -/
  lost : after.Lost → before.Lost ∧ after.control.connection = before.control.connection

theorem Follows.trans (h1 : Follows s t) (h2 : Follows t u) : Follows s u where
  numbered := h1.numbered
  listener := h2.listener.trans h1.listener
  attempts := Nat.le_trans h1.attempts h2.attempts
  grows := h1.grows.trans h2.grows
  byOthers hne := (h1.byOthers hne).trans h1.numbered (h2.byOthers (h1.listener ▸ hne))
  current {id} hid := by
    rcases h2.current hid with hmid | hnew
    · exact h1.current hmid
    · exact .inr (Nat.lt_of_le_of_lt h1.grows.length_le hnew)
  lost hlost := by
    obtain ⟨hmid, hsame⟩ := h2.lost hlost
    obtain ⟨hbefore, hsame'⟩ := h1.lost hmid
    exact ⟨hbefore, hsame.trans hsame'⟩

/-- What leaves the current connection alone, as well as the flags of all connections. -/
theorem Follows.of_connections (hs : Owns s)
    (hlistener : t.control.listener = s.control.listener)
    (hattempts : t.control.attempts = s.control.attempts)
    (hconnection : t.control.connection = s.control.connection)
    (hconnections : t.registry.connections = s.registry.connections)
    (hothers : ∀ {ℓ}, s.control.listener ≠ ℓ → ByOthers ℓ s.registry t.registry) :
    Follows s t where
  numbered := hs.numbered
  listener := hlistener
  attempts := Nat.le_of_eq hattempts.symm
  grows := .of_connections hconnections
  byOthers := hothers
  current hid := .inl (hconnection ▸ hid)
  lost hlost := by
    refine ⟨?_, hconnection⟩
    obtain ⟨id, hid, hclosed⟩ := hlost
    refine ⟨id, hconnection ▸ hid, ?_⟩
    rw [← hclosed, isClosed, isClosed, hconnections]

theorem Turnover.follows (h : Turnover s t) (hs : Owns s) (frame : Frame s t)
    (hattempts : s.control.attempts ≤ t.control.attempts) : Follows s t where
  numbered := hs.numbered
  listener := frame.listener
  attempts := hattempts
  grows := h.grows
  byOthers hne := h.byOthers hs.numbered hne
  current := h.current
  lost hlost := by
    obtain ⟨hr, hc⟩ := h.of_lost hs hlost
    obtain ⟨id, hid, hclosed⟩ := hlost
    exact ⟨⟨id, hc ▸ hid, hr ▸ hclosed⟩, hc⟩

theorem Serves.owns_follows (h : Serves w s t) (hs : Owns s) : Owns t ∧ Follows s t :=
  ⟨h.turnover.owns hs h.frame, h.turnover.follows hs h.frame h.attempts_le⟩

theorem Ends.owns_follows {a : Attempt} (h : Ends a.waiter s.freed t) (hsound : s.control.Sound)
    (ha : s.control.attempt = some a) (hs : Owns s) : Owns t ∧ Follows s t :=
  have turnover := h.turnover hsound ha
  have settled := h.settled
  ⟨turnover.owns hs settled.toFrame,
    turnover.follows hs settled.toFrame (Nat.le_of_eq settled.attempts.symm)⟩

theorem Served.owns_follows {rest : List Waiter} (hsound : s.control.Sound)
    (hq : s.control.queue = w :: rest) (free : s.control.attempt = none)
    (h : Served w { s with control := { s.control with queue := rest } } t) (hs : Owns s) :
    Owns t ∧ Follows s t := by
  have hlift : t.control.Sound ∧ Owns t ∧ Follows s t := by
    refine h.lift (P := fun u => u.control.Sound ∧ Owns u ∧ Follows s u) (fun hserves => ?_)
      fun hmid ha hends => ?_
    · obtain ⟨howns, hfollows⟩ := hserves.owns_follows (hs.of_queue rest)
      exact ⟨hserves.sound hsound hq free, howns, { hfollows with }⟩
    · obtain ⟨hmidSound, hmidOwns, hfirst⟩ := hmid
      obtain ⟨howns, hfollows⟩ := hends.owns_follows hmidSound ha hmidOwns
      exact ⟨hends.sound hmidSound ha, howns, hfirst.trans hfollows⟩
  exact hlift.2

theorem Aside.owns_follows (h : Aside s t) (hsound : s.control.Sound) (hs : Owns s) :
    Owns t ∧ Follows s t := by
  cases h with
  | stay => exact ⟨hs, .of_connections hs rfl rfl rfl rfl fun _ => .refl _ _⟩
  | request => exact ⟨{ hs with }, .of_connections hs rfl rfl rfl rfl fun _ => .refl _ _⟩
  | hear hmail =>
    exact ⟨{ hs with }, .of_connections hs rfl rfl rfl rfl fun hne => byOthers_takeMail hmail hne⟩
  | wake => exact ⟨{ hs with }, .of_connections hs rfl rfl rfl rfl fun _ => .refl _ _⟩
  | finish ha hends => exact hends.owns_follows hsound ha hs
  | release owned =>
    refine ⟨{ hs with only := fun _ => hs.only (by simp [owned]) }, ?_⟩
    exact .of_connections hs rfl rfl rfl rfl fun _ => .refl _ _
  | @reap registry free hq timers hregistry =>
    have hothers : ∀ ℓ, ByOthers ℓ s.registry registry := fun ℓ => by
      rcases hregistry with rfl | ⟨id, -, rfl⟩
      · exact .refl ℓ _
      · exact byOthers_discard ℓ _ id
    refine ⟨?_, ?_⟩
    · exact {
        numbered := (hothers 0).numbered hs.numbered
        current := fun hid => by simp at hid
        only := fun alive => absurd rfl alive }
    · exact {
        numbered := hs.numbered
        listener := rfl
        attempts := Nat.le_refl _
        grows := (hothers 0).toGrows
        byOthers := fun {ℓ} _ => hothers ℓ
        current := fun hid => by simp at hid
        lost := fun ⟨id, hid, _⟩ => by simp at hid }

/-- A manager keeps no open connection but its current one, step by step. -/
theorem Change.owns_follows (h : Change s t) (hsound : s.control.Sound) (hs : Owns s) :
    Owns t ∧ Follows s t := by
  cases h with
  | grant hq free hserved => exact hserved.owns_follows hsound hq free hs
  | aside haside => exact haside.owns_follows hsound hs

/-! ### Notices of loss -/

/-- A notice that a connection of the manager is closed waits for the manager or for the lock. -/
def Told (s : Link) : Prop :=
  (s.control.listener, .closed) ∈ s.registry.mail ∨ .event .closed ∈ s.control.queue

theorem Ends.mem_queue {event : Event} (h : Ends w s.freed t)
    (hm : .event event ∈ s.control.queue) : .event event ∈ t.control.queue := by
  cases h with
  | replaced =>
    show Waiter.event event ∈ s.freed.control.cancelRetry.queue
    unfold Control.cancelRetry
    split
    · exact hm
    · exact List.mem_filter.mpr ⟨hm, by simp⟩
  | _ => exact hm

theorem Ends.told {a : Attempt} (h : Ends a.waiter s.freed t) (hsound : s.control.Sound)
    (ha : s.control.attempt = some a) (hs : Owns s) (htold : s.Lost → s.Told) (lost : t.Lost) :
    t.Told := by
  obtain ⟨hr, -⟩ := (h.turnover hsound ha).of_lost hs lost
  obtain ⟨-, hfollows⟩ := h.owns_follows hsound ha hs
  rcases htold (hfollows.lost lost).1 with hmail | hqueue
  · exact .inl (by rwa [hr, hfollows.listener])
  · exact .inr (h.mem_queue hqueue)

theorem Serves.told {rest : List Waiter} (hsound : s.control.Sound)
    (hq : s.control.queue = w :: rest)
    (h : Serves w { s with control := { s.control with queue := rest } } t) (hs : Owns s)
    (htold : s.Lost → s.Told) (lost : t.Lost) : t.Told := by
  have hs' := hs.of_queue rest
  obtain ⟨hr, -⟩ := h.turnover.of_lost hs' lost
  obtain ⟨-, hfollows⟩ := h.owns_follows hs'
  have hqueue : t.control.queue = rest := by cases h <;> rfl
  have hlost : s.Lost := (hfollows.lost lost).1
  rcases htold hlost with hmail | hevent
  · exact .inl (by rwa [hr, hfollows.listener])
  · rw [hq] at hevent
    rcases List.mem_cons.mp hevent with rfl | hrest
    · -- The waiter is the notice itself: had it found the loss, it would have stopped the manager.
      exfalso
      cases h with
      | connect a hw => simp [Waiter.connects] at hw
      | reconnect a hw => simp [Waiter.replaces] at hw
      | stop ticket hw => simp at hw
      | lose =>
        obtain ⟨id, hid, -⟩ := lost
        simp [halted] at hid
      | idle hidle =>
        rcases hidle with hstopped | hopen
        · obtain ⟨id, hid, -⟩ := hlost
          simp [hsound.stopped hstopped] at hid
        · exact hopen hlost
    · exact .inr (hqueue ▸ hrest)

theorem Aside.told (h : Aside s t) (hsound : s.control.Sound) (hs : Owns s)
    (htold : s.Lost → s.Told) (lost : t.Lost) : t.Told := by
  cases h with
  | stay => exact htold lost
  | request =>
    rcases htold lost with hmail | hqueue
    · exact .inl hmail
    · exact .inr (List.mem_append_left _ hqueue)
  | hear hmail =>
    rcases htold lost with hm | hqueue
    · rcases mem_of_takeMail hmail hm with heq | hrest
      · obtain rfl := (Prod.mk.inj heq).2
        exact .inr (List.mem_append_right _ (List.mem_singleton.mpr rfl))
      · exact .inl hrest
    · exact .inr (List.mem_append_left _ hqueue)
  | wake =>
    rcases htold lost with hmail | hqueue
    · exact .inl hmail
    · exact .inr (List.mem_append_left _ hqueue)
  | finish ha hends => exact hends.told hsound ha hs htold lost
  | release => exact htold lost
  | reap =>
    obtain ⟨id, hid, -⟩ := lost
    simp at hid

/-- If the current connection is closed after a step of the manager, a notice of that waits. -/
theorem Change.told (h : Change s t) (hsound : s.control.Sound) (hs : Owns s)
    (htold : s.Lost → s.Told) (lost : t.Lost) : t.Told := by
  cases h with
  | grant hq free hserved =>
    rcases hserved with hserves | ⟨mid, a, hserves, ha, hends⟩
    · exact hserves.told hsound hq hs htold lost
    · exact hends.told (hserves.sound hsound hq free) ha (hserves.owns_follows (hs.of_queue _)).1
        (hserves.told hsound hq hs htold) lost
  | aside haside => exact haside.told hsound hs htold lost

/-! ### Every step -/

/-- What the registry says about the connections of a manager. -/
structure Registered (s : Link) : Prop extends Owns s where
  told : s.Lost → s.Told

theorem Change.registered (h : Change s t) (hsound : s.control.Sound) (hs : Registered s) :
    Registered t where
  toOwns := (h.owns_follows hsound hs.toOwns).1
  told := h.told hsound hs.toOwns hs.told

/-- What others do on the bus. -/
theorem Registered.of_byOthers (hs : Registered s) {r : Registry}
    (h : ByOthers s.control.listener s.registry r) : Registered { s with registry := r } where
  numbered := h.numbered hs.numbered
  current hid := by
    obtain ⟨c, hget, hown⟩ := hs.current hid
    obtain ⟨c', hget', hlistener, -⟩ := h.keeps hs.numbered hget
    exact ⟨c', hget', hlistener.trans hown⟩
  only alive {id c} hget hown hopen := by
    cases hbefore : s.registry.connections.get? id with
    | none => exact absurd hown (h.enters hbefore hget)
    | some c₀ =>
      obtain ⟨c', hget', hlistener, hclosed⟩ := h.keeps hs.numbered hbefore
      obtain rfl : c' = c := Option.some.inj (hget'.symm.trans hget)
      refine hs.only alive hbefore (hlistener.symm.trans hown) ?_
      cases hc₀ : c₀.closed with
      | true => simp [hclosed hc₀] at hopen
      | false => rfl
  told hlost := by
    obtain ⟨id, hid, hclosed⟩ := hlost
    obtain ⟨c, hget, hown⟩ := hs.current hid
    obtain ⟨c', hget', -⟩ := h.keeps hs.numbered hget
    cases hc : c.closed with
    | true =>
      rcases hs.told ⟨id, hid, by rwa [isClosed_of_get? hget]⟩ with hmail | hqueue
      · exact .inl (h.mail hmail)
      · exact .inr hqueue
    | false =>
      exact .inl (h.tells hget hget' hown hc (by rwa [isClosed_of_get? hget'] at hclosed))

/-! ### New connections -/

theorem Turnover.entered (h : Turnover s t) {id : Nat} {c : Connection}
    (hnone : s.registry.connections.get? id = none)
    (hget : t.registry.connections.get? id = some c) : t.control.connection = some id := by
  cases h with
  | keeps hr => simp [hr, hnone] at hget
  | closes hr => simp [hr, get?_closeAny, hnone] at hget
  | renews hr hc =>
    rw [hr, get?_renewed] at hget
    obtain ⟨c₀, hget₀, -⟩ := Option.map_eq_some_iff.mp hget
    split at hget₀
    · rename_i hid
      rw [hc, hid]
    · simp [hnone] at hget₀

theorem Serves.enters_none (h : Serves w s t) {id : Nat}
    (hnone : s.registry.connections.get? id = none) : t.registry.connections.get? id = none := by
  cases h with
  | stop => simp [halted, get?_closeAny, hnone]
  | lose => simp [halted, get?_closeAny, hnone]
  | _ => exact hnone

/-- A connection is made by the attempt that ends in the step, and becomes the current one. -/
theorem Change.entered (h : Change s t) (hsound : s.control.Sound) {id : Nat} {c : Connection}
    (hnone : s.registry.connections.get? id = none)
    (hget : t.registry.connections.get? id = some c) :
    (s.control.attempt ≠ none ∨ s.control.attempts < t.control.attempts) ∧
      t.control.attempt = none ∧ t.control.connection = some id := by
  cases h with
  | grant hq free hserved =>
    rcases hserved with hserves | ⟨mid, a, hserves, ha, hends⟩
    · simp [hserves.enters_none hnone] at hget
    · have hturnover := hends.turnover (hserves.sound hsound hq free) ha
      refine ⟨.inr ?_, hends.settled.free, hturnover.entered (hserves.enters_none hnone) hget⟩
      rw [hends.settled.attempts]
      rcases hserves.attempts with ⟨-, hsame⟩ | hnext
      · simp [hsame, free] at ha
      · exact hnext ▸ Nat.lt_succ_self _
  | aside haside =>
    cases haside with
    | finish ha hends =>
      exact ⟨.inl (by simp [ha]), hends.settled.free,
        (hends.turnover hsound ha).entered hnone hget⟩
    | reap _ _ _ hregistry =>
      rcases hregistry with rfl | ⟨discarded, -, rfl⟩
      · simp [hnone] at hget
      · simp [get?_discard, hnone] at hget
    | _ => simp [hnone] at hget

/-! ### Connections that are given up -/

/-- The connection is closed. -/
def Shut (s : Link) (id : Nat) : Prop :=
  ∃ c, s.registry.connections.get? id = some c ∧ c.closed = true

/-- The current connection of `before` is still the current one, or it is closed. -/
def Releases (before after : Link) : Prop :=
  ∀ id, before.control.connection = some id →
    after.control.connection = some id ∨ after.Shut id

theorem Turnover.releases (h : Turnover s t) (hs : Owns s) : Releases s t := by
  intro id hid
  obtain ⟨c, hget, -⟩ := hs.current hid
  cases h with
  | keeps hr hc => exact .inl (hc.trans hid)
  | closes hr => exact .inr ⟨_, by rw [hr, get?_closeAny, hget]; rfl, by simp [hid]⟩
  | renews hr =>
    have hother : s.registry.nextId ≠ id := fun h => hs.ne_nextId (h ▸ hid)
    exact .inr ⟨_, by rw [hr, get?_renewed, if_neg hother, hget]; rfl, by simp [hid]⟩

/-- A manager gives up its current connection only as it closes it, unless it ends. -/
theorem Aside.releases (h : Aside s t) (hsound : s.control.Sound) (hs : Owns s)
    (hheld : s.control.attempt ≠ none) : Releases s t := by
  cases h with
  | finish ha hends => exact (hends.turnover hsound ha).releases hs
  | reap free => exact absurd free hheld
  | _ => exact fun _ hid => .inl hid

theorem Served.releases {rest : List Waiter} (hsound : s.control.Sound)
    (hq : s.control.queue = w :: rest) (free : s.control.attempt = none)
    (h : Served w { s with control := { s.control with queue := rest } } t) (hs : Owns s) :
    Releases s t := by
  have hlift : t.control.Sound ∧ Owns t ∧ Releases s t := by
    refine h.lift (P := fun u => u.control.Sound ∧ Owns u ∧ Releases s u) (fun hserves => ?_)
      fun hmid ha hends => ?_
    · have hs' := hs.of_queue rest
      exact ⟨hserves.sound hsound hq free, (hserves.owns_follows hs').1,
        hserves.turnover.releases hs'⟩
    · obtain ⟨hmidSound, hmidOwns, hfirst⟩ := hmid
      have hturnover := hends.turnover hmidSound ha
      refine ⟨hends.sound hmidSound ha, (hends.owns_follows hmidSound ha hmidOwns).1,
        fun id hid => ?_⟩
      rcases hfirst id hid with hkept | ⟨c, hget, hclosed⟩
      · exact hturnover.releases hmidOwns id hkept
      · obtain ⟨c', hget', hkeeps⟩ := hturnover.grows.keeps hmidOwns.numbered hget
        exact .inr ⟨c', hget', hkeeps.closed hclosed⟩
  exact hlift.2.2

end ClaimRelay.Manager.Link
