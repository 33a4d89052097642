import ClaimRelay.Proofs.Manager.Sound

/-! What one step of a manager counts, and what it leaves alone.  An attempt is counted as it begins, a
retry as it is scheduled; only a call to start makes a stopped manager run, only a call to stop or the loss of the current
connection stops it, and only a closed event at that loss ends the process. -/

namespace ClaimRelay.Manager.Link

variable {s t : Link} {w : Waiter}

/-- What neither a waiter nor the end of an attempt changes. -/
structure Frame (before after : Link) : Prop where
  settings : after.control.settings = before.control.settings
  listener : after.control.listener = before.control.listener
  life : after.control.life = before.control.life

theorem Frame.trans {u : Link} (h1 : Frame s t) (h2 : Frame t u) : Frame s u :=
  ⟨h2.settings.trans h1.settings, h2.listener.trans h1.listener, h2.life.trans h1.life⟩

/-- What the end of an attempt leaves as it is.  The lock is free then. -/
structure Settled (before after : Link) : Prop extends Frame before after where
  free : after.control.attempt = none
  running : after.control.running = before.control.running
  attempts : after.control.attempts = before.control.attempts
  exits : after.control.exits = before.control.exits

theorem Serves.frame (h : Serves w s t) : Frame s t := by
  cases h <;> exact ⟨rfl, rfl, rfl⟩

theorem Ends.settled (h : Ends w s.freed t) : Settled s t := by
  cases h with
  | replaced hw =>
    dsimp only
    rw [Control.cancelRetry_eq]
    exact ⟨⟨rfl, rfl, rfl⟩, rfl, rfl, rfl, rfl⟩
  | _ => exact ⟨⟨rfl, rfl, rfl⟩, rfl, rfl, rfl, rfl⟩

theorem Aside.constant (h : Aside s t) :
    t.control.settings = s.control.settings ∧ t.control.listener = s.control.listener := by
  cases h with
  | finish ha hends => exact ⟨hends.settled.settings, hends.settled.listener⟩
  | _ => exact ⟨rfl, rfl⟩

/-- A manager keeps its settings and its place. -/
theorem Change.constant (h : Change s t) :
    t.control.settings = s.control.settings ∧ t.control.listener = s.control.listener := by
  cases h with
  | grant hq free hserved =>
    have hframe : Frame s t := hserved.lift (fun hserves => { hserves.frame with })
      fun hframe _ hends => hframe.trans hends.settled.toFrame
    exact ⟨hframe.settings, hframe.listener⟩
  | aside haside => exact haside.constant

/-! ### Attempts -/

/-- A waiter counts an attempt when it begins one. -/
theorem Serves.attempts (h : Serves w s t) :
    t.control.attempts = s.control.attempts ∧ t.control.attempt = s.control.attempt ∨
      t.control.attempts = s.control.attempts + 1 := by
  cases h with
  | connect => exact .inr rfl
  | reconnect => exact .inr rfl
  | _ => exact .inl ⟨rfl, rfl⟩

theorem Serves.attempts_le (h : Serves w s t) : s.control.attempts ≤ t.control.attempts := by
  rcases h.attempts with ⟨hsame, -⟩ | hnext
  · exact Nat.le_of_eq hsame.symm
  · rw [hnext]
    exact Nat.le_succ _

/-- An attempt begins only while no other one holds the lock, and is counted then. -/
theorem Change.attempts (h : Change s t) :
    t.control.attempts = s.control.attempts ∧
        (t.control.attempt = s.control.attempt ∨ t.control.attempt = none) ∨
      t.control.attempts = s.control.attempts + 1 ∧ s.control.attempt = none := by
  cases h with
  | @grant w rest t hq free hserved =>
    rcases hserved with hserves | ⟨mid, a, hserves, ha, hends⟩
    · rcases hserves.attempts with ⟨hsame, hattempt⟩ | hnext
      · exact .inl ⟨hsame, .inl hattempt⟩
      · exact .inr ⟨hnext, free⟩
    · rcases hserves.attempts with ⟨-, hsame⟩ | hnext
      · simp [hsame, free] at ha
      · exact .inr ⟨hends.settled.attempts.trans hnext, free⟩
  | aside haside =>
    cases haside with
    | finish ha hends => exact .inl ⟨hends.settled.attempts, .inr hends.settled.free⟩
    | _ => exact .inl ⟨rfl, .inl rfl⟩

/-- An attempt that holds the lock after a step, but not before, has been counted. -/
theorem Change.attempts_lt (h : Change s t) (free : s.control.attempt = none)
    (hsome : t.control.attempt ≠ none) : s.control.attempts < t.control.attempts := by
  rcases h.attempts with ⟨-, hsame | hnone⟩ | ⟨hnext, -⟩
  · exact absurd (hsame.trans free) hsome
  · exact absurd hnone hsome
  · exact hnext ▸ Nat.lt_succ_self _

/-! ### Retries -/

theorem Serves.retries (h : Serves w s t) :
    t.control.retries = s.control.retries ∧
      (t.control.retry = s.control.retry ∨ t.control.retry = none) := by
  have hprepare : (s.control.prepare w).retry = s.control.retry ∨
      (s.control.prepare w).retry = none := by
    cases w with
    | retry id => exact .inr rfl
    | _ => exact .inl rfl
  cases h with
  | connect => exact ⟨rfl, hprepare⟩
  | idle => exact ⟨rfl, hprepare⟩
  | _ => exact ⟨rfl, .inl rfl⟩

theorem Ends.retries (h : Ends w s t) :
    t.control.retries = s.control.retries ∧
        (t.control.retry = s.control.retry ∨ t.control.retry = none) ∨
      t.control.retries = s.control.retries + 1 ∧ t.control.retry = some s.control.retries := by
  cases h with
  | connected => exact .inl ⟨rfl, .inl rfl⟩
  | failed => exact .inr ⟨rfl, rfl⟩
  | replaced =>
    dsimp only
    rw [Control.cancelRetry_eq]
    exact .inl ⟨rfl, .inr rfl⟩
  | kept => exact .inl ⟨rfl, .inl rfl⟩

/-- A retry that becomes pending is a new one. -/
theorem Change.retries (h : Change s t) :
    t.control.retries = s.control.retries ∧
        (t.control.retry = s.control.retry ∨ t.control.retry = none) ∨
      t.control.retries = s.control.retries + 1 ∧ t.control.retry = some s.control.retries := by
  cases h with
  | grant hq free hserved =>
    rcases hserved with hserves | ⟨mid, a, hserves, ha, hends⟩
    · exact .inl hserves.retries
    · obtain ⟨hretries, hretry⟩ := hserves.retries
      rcases hends.retries with ⟨hsame, hkept | hnone⟩ | ⟨hnext, hnew⟩
      · exact .inl ⟨hsame.trans hretries, hretry.imp hkept.trans hkept.trans⟩
      · exact .inl ⟨hsame.trans hretries, .inr hnone⟩
      · refine .inr ⟨hnext.trans (congrArg (· + 1) hretries), hnew.trans ?_⟩
        exact congrArg some hretries
  | aside haside =>
    cases haside with
    | finish ha hends => exact hends.retries
    | _ => exact .inl ⟨rfl, .inl rfl⟩

/-! ### Stopped managers -/

/-- Only a call to start makes a stopped manager run. -/
theorem Serves.stopped (h : Serves w s t) (hw : ∀ ticket, w ≠ .call ticket .start)
    (hstop : s.control.running = false) :
    t.control.running = false ∧ t.control.attempts = s.control.attempts ∧
      t.control.attempt = s.control.attempt := by
  have hprepare : (s.control.prepare w).running = s.control.running := by
    cases w with
    | call ticket call => cases call <;> first | rfl | exact absurd rfl (hw ticket)
    | _ => rfl
  cases h with
  | connect a _ _ wanted => simp [← hprepare, wanted.1] at hstop
  | reconnect a _ _ wanted => simp [wanted.1] at hstop
  | stop ticket _ running => simp [running] at hstop
  | lose _ running => simp [running] at hstop
  | idle => exact ⟨hprepare.trans hstop, rfl, rfl⟩

theorem Served.stopped (h : Served w s t) (hw : ∀ ticket, w ≠ .call ticket .start)
    (hstop : s.control.running = false) (free : s.control.attempt = none) :
    t.control.running = false ∧ t.control.attempts = s.control.attempts := by
  rcases h with hserves | ⟨mid, a, hserves, ha, -⟩
  · obtain ⟨hrunning, hattempts, -⟩ := hserves.stopped hw hstop
    exact ⟨hrunning, hattempts⟩
  · obtain ⟨-, -, hattempt⟩ := hserves.stopped hw hstop
    simp [hattempt, free] at ha

theorem Aside.stopped (h : Aside s t) (hs : s.control.Sound) (hstop : s.control.running = false) :
    t.control.running = false ∧ t.control.attempts = s.control.attempts := by
  cases h with
  | @finish a _ ha =>
    have running : s.control.running = true := (hs.held a ha).wanted.1
    simp [running] at hstop
  | _ => exact ⟨hstop, rfl⟩

/-! ### Running managers -/

/-- What a waiter does to whether the manager runs, and to the exit codes. -/
inductive Switch (w : Waiter) (s t : Link) : Prop
  | keeps (hw : ∀ ticket, w = .call ticket .stop → s.control.running = false)
      (running : t.control.running = s.control.running)
      (exits : t.control.exits = s.control.exits)
  | starts (ticket : Nat) (hw : w = .call ticket .start) (running : t.control.running = true)
      (exits : t.control.exits = s.control.exits)
  | stops (ticket : Nat) (hw : w = .call ticket .stop) (running : s.control.running = true)
      (stopped : t.control.running = false) (exits : t.control.exits = s.control.exits)
  | loses (hw : w = .event .closed) (running : s.control.running = true)
      (stopped : t.control.running = false)
      (exits : t.control.exits = s.control.exits ++ [Scene.lossCode])

/-- What a waiter prepares makes the manager run only if it is a call to start. -/
theorem Switch.of_prepare (hw : ∀ ticket, w = .call ticket .stop → s.control.running = false)
    (running : t.control.running = (s.control.prepare w).running)
    (exits : t.control.exits = s.control.exits) : Switch w s t := by
  cases w with
  | call ticket call =>
    cases call with
    | start => exact .starts ticket rfl running exits
    | _ => exact .keeps hw running exits
  | _ => exact .keeps hw running exits

theorem Serves.switch (h : Serves w s t) : Switch w s t := by
  cases h with
  | connect a hw =>
    refine .of_prepare (fun ticket hstop => ?_) rfl rfl
    simp [hstop, Waiter.connects] at hw
  | reconnect a hw =>
    refine .keeps (fun ticket hstop => ?_) rfl rfl
    simp [hstop, Waiter.replaces] at hw
  | stop ticket hw running => exact .stops ticket hw running rfl (List.append_nil _)
  | lose hw running => exact .loses hw running rfl rfl
  | idle hidle =>
    refine .of_prepare (fun ticket hstop => ?_) rfl rfl
    subst hstop
    exact hidle

theorem Served.switch (h : Served w s t) : Switch w s t := by
  refine h.lift Serves.switch fun {u v a} hswitch _ hends => ?_
  have hrunning : v.control.running = u.control.running := hends.settled.running
  have hexits : v.control.exits = u.control.exits := hends.settled.exits
  cases hswitch with
  | keeps hw running exits => exact .keeps hw (hrunning.trans running) (hexits.trans exits)
  | starts ticket hw running exits =>
    exact .starts ticket hw (hrunning.trans running) (hexits.trans exits)
  | stops ticket hw running stopped exits =>
    exact .stops ticket hw running (hrunning.trans stopped) (hexits.trans exits)
  | loses hw running stopped exits =>
    exact .loses hw running (hrunning.trans stopped) (hexits.trans exits)

theorem Aside.running (h : Aside s t) : t.control.running = s.control.running := by
  cases h with
  | finish ha hends => exact hends.settled.running
  | _ => rfl

/-! ### Events -/

/-- The process is told to end, as a closed event is handled at the loss of the current connection. -/
def ExitsAt (w : Waiter) (s t : Link) : Prop :=
  w = .event .closed ∧ s.control.running = true ∧ s.Lost ∧
    t.control.exits = s.control.exits ++ [Scene.lossCode]

theorem Serves.exits (h : Serves w s t) :
    t.control.exits = s.control.exits ∨ ExitsAt w s t := by
  cases h with
  | lose hw running lost => exact .inr ⟨hw, running, lost, rfl⟩
  | stop => exact .inl (List.append_nil _)
  | _ => exact .inl rfl

theorem Served.exits (h : Served w s t) :
    t.control.exits = s.control.exits ∨ ExitsAt w s t := by
  refine h.lift Serves.exits fun hexits _ hends => ?_
  rw [ExitsAt, hends.settled.exits]
  exact hexits

theorem Aside.exits (h : Aside s t) : t.control.exits = s.control.exits := by
  cases h with
  | finish ha hends => exact hends.settled.exits
  | _ => rfl

theorem Serves.of_event {event : Bus.Event} (h : Serves (.event event) s t)
    (hopen : event = .closed → ¬s.Lost) : t = s := by
  cases h with
  | connect a hw => simp [Waiter.connects] at hw
  | reconnect a hw => simp [Waiter.replaces] at hw
  | stop ticket hw => simp at hw
  | lose hw running lost => exact absurd lost (hopen (Waiter.event.inj hw))
  | idle => rfl

/-- An event changes nothing, unless it says that the current connection is lost. -/
theorem Served.of_event {event : Bus.Event} (h : Served (.event event) s t)
    (hopen : event = .closed → ¬s.Lost) (free : s.control.attempt = none) : t = s := by
  rcases h with hserves | ⟨mid, a, hserves, ha, -⟩
  · exact hserves.of_event hopen
  · rw [hserves.of_event hopen, free] at ha
    simp at ha

end ClaimRelay.Manager.Link
