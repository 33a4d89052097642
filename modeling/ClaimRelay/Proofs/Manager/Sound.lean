import ClaimRelay.Proofs.Manager.Link

/-! What always holds of the control of a manager.  Each waiter is served while it has the lock, and a
control that is `Tidy` stays so throughout; it is `Sound` again when the lock is free, or when an attempt
is left to hold it. -/

namespace ClaimRelay.Manager

namespace Control

/-- The retries that wait for their time or for the lock. -/
def waitingRetries (c : Control) : List Nat :=
  c.timers.map (·.1) ++ c.queue.filterMap Waiter.retry?

/-- What holds of a control at any time, also while a waiter has the lock: the retry that waits is the pending
one, and a control with a pending retry has no connection. -/
structure Tidy (c : Control) : Prop where
  /-- The pending retry waits, and no other one does. -/
  retries : c.waitingRetries = c.retry.toList
  apart : c.retry.isSome → c.connection = none
  waiting : c.retry.isSome ↔ c.phase = .waitingToRetry
  stopped : c.running = false → c.connection = none
  /-- A manager without a bus to connect to never tries. -/
  disabled : c.settings.isEnabled = false →
    c.attempts = 0 ∧ c.retries = 0 ∧ c.connection = none ∧ c.retry = none

/-- What an attempt for `w` can rely on while it holds the lock. -/
structure Ready (w : Waiter) (c : Control) : Prop where
  wanted : c.Wanted
  missing : w.replaces = false → ¬c.Provided
  kept : w.replaces = true → c.life ≠ .ended → c.Provided
  steady : w.replaces = true → c.phase ≠ .connecting

/-- What holds of a control between two steps: if the lock is free, a manager that should be connected has a
connection or a pending retry, and if an attempt holds it, the attempt has what it relies on. -/
structure Sound (c : Control) : Prop extends Tidy c where
  provided : c.attempt = none → c.life ≠ .ended → c.Wanted → c.Provided
  resting : c.attempt = none → c.phase ≠ .connecting
  held : ∀ a, c.attempt = some a → c.Ready a.waiter

theorem not_provided {c : Control} : ¬c.Provided ↔ c.connection = none ∧ c.retry = none := by
  simp [Provided]

variable {c : Control}

theorem Tidy.timers_of_retry_none (h : c.Tidy) (hretry : c.retry = none) :
    c.timers = [] ∧ c.queue.filterMap Waiter.retry? = [] := by
  simpa [waitingRetries, hretry] using h.retries

/-- If a retry waits for the lock, it is the pending one and no other one waits. -/
theorem Tidy.of_queue_retry {id : Nat} {rest : List Waiter} (h : c.Tidy)
    (hq : c.queue = .retry id :: rest) :
    c.retry = some id ∧ c.timers = [] ∧ rest.filterMap Waiter.retry? = [] := by
  have hretries := h.retries
  cases hretry : c.retry with
  | none => simp [waitingRetries, hretry, hq, Waiter.retry?] at hretries
  | some id' =>
    cases htimers : c.timers with
    | nil =>
      have hlist : id :: rest.filterMap Waiter.retry? = [id'] := by
        rw [waitingRetries, hretry, hq, htimers] at hretries
        exact hretries
      obtain ⟨rfl, hrest⟩ := List.cons.inj hlist
      exact ⟨rfl, rfl, hrest⟩
    | cons entry timers => simp [waitingRetries, hretry, hq, htimers, Waiter.retry?] at hretries

/-- If a retry waits for its time, it is the pending one and no other one waits. -/
theorem Tidy.of_timers {id : Nat} {timer : Timer} (h : c.Tidy)
    (ht : c.timers.get? id = some timer) :
    c.retry = some id ∧ c.timers = [(id, timer)] ∧ c.queue.filterMap Waiter.retry? = [] := by
  have hretries := h.retries
  cases htimers : c.timers with
  | nil => simp [htimers] at ht
  | cons entry timers =>
    obtain ⟨id', timer'⟩ := entry
    cases hretry : c.retry with
    | none => simp [waitingRetries, hretry, htimers] at hretries
    | some pending =>
      obtain ⟨rfl, hrest, hqueue⟩ :
          id' = pending ∧ timers = [] ∧ c.queue.filterMap Waiter.retry? = [] := by
        simpa [waitingRetries, hretry, htimers] using hretries
      subst hrest
      have hid : id' = id ∧ timer' = timer := by
        simpa [htimers, Table.get?] using ht
      obtain ⟨rfl, rfl⟩ := hid
      exact ⟨rfl, rfl, hqueue⟩

/-! ### What keeps a control tidy -/

theorem Tidy.of_prepare {w : Waiter} {rest : List Waiter} (h : c.Tidy) (hq : c.queue = w :: rest) :
    ({ c with queue := rest }.prepare w).Tidy := by
  cases w with
  | retry id =>
    obtain ⟨hretry, htimers, hrest⟩ := h.of_queue_retry hq
    have hconnection : c.connection = none := h.apart (by simp [hretry])
    -- The retry that has the lock now was the pending one, so that none waits any more.
    exact {
      retries := by simp [Control.prepare, waitingRetries, htimers, hrest]
      apart := fun _ => hconnection
      waiting := by simp [Control.prepare]
      stopped := fun _ => hconnection
      disabled := fun hdisabled => by
        have := (h.disabled hdisabled).2.2.2
        simp [hretry] at this }
  | call ticket call =>
    have hretries : c.timers.map (·.1) ++ rest.filterMap Waiter.retry? = c.retry.toList := by
      rw [← h.retries, waitingRetries, hq]
      rfl
    cases call with
    | start =>
      exact {
        retries := hretries
        apart := h.apart
        waiting := h.waiting
        stopped := fun hrunning => absurd hrunning (by simp [Control.prepare])
        disabled := h.disabled }
    | _ => exact { h with retries := hretries }
  | event event =>
    have hretries : c.timers.map (·.1) ++ rest.filterMap Waiter.retry? = c.retry.toList := by
      rw [← h.retries, waitingRetries, hq]
      rfl
    exact { h with retries := hretries }

theorem filterMap_retry?_filter (queue : List Waiter) (id : Nat) :
    (queue.filter (· ≠ .retry id)).filterMap Waiter.retry? =
      (queue.filterMap Waiter.retry?).filter (· ≠ id) := by
  induction queue with
  | nil => rfl
  | cons w rest ih => cases w <;> grind [Waiter.retry?]

/-- The pending retry is the only one that waits, so that none is left when it is cancelled. -/
theorem Tidy.waitingRetries_cancelRetry (h : c.Tidy) : c.cancelRetry.waitingRetries = [] := by
  unfold cancelRetry
  split
  · rename_i hretry
    simpa [hretry] using h.retries
  · rename_i id hretry
    show (c.timers.erase id).map (·.1) ++
      (c.queue.filter (· ≠ .retry id)).filterMap Waiter.retry? = []
    have hretries : c.timers.map (·.1) ++ c.queue.filterMap Waiter.retry? = [id] := by
      simpa [waitingRetries, hretry] using h.retries
    rw [Table.keys_erase, filterMap_retry?_filter, ← List.filter_append, hretries]
    simp

/-! ### What makes a control sound -/

theorem Ready.not_provided {w : Waiter} (h : c.Ready w) (hw : w.replaces = false) :
    c.connection = none ∧ c.retry = none := by
  simpa [Provided] using h.missing hw

/-- A sound control may let other waiters wait, as long as the retries among them are the same. -/
theorem Sound.of_waiting {timers : Table Nat Timer} {queue : List Waiter} (hs : c.Sound)
    (h : timers.map (·.1) ++ queue.filterMap Waiter.retry? = c.retry.toList) :
    ({ c with timers, queue } : Control).Sound :=
  { hs with retries := h, held := fun a ha => { hs.held a ha with } }

theorem Tidy.sound (h : c.Tidy) (free : c.attempt = none) (hphase : c.phase ≠ .connecting)
    (provided : c.life ≠ .ended → c.Wanted → c.Provided) : c.Sound where
  toTidy := h
  provided _ := provided
  resting _ := hphase
  held a ha := by simp [free] at ha

/-- A control that has a connection and no retry. -/
theorem sound_connected (free : c.attempt = none) (wanted : c.Wanted) (hretry : c.retry = none)
    (hretries : c.waitingRetries = []) (id : Nat) :
    ({ c with connection := some id, phase := .idle } : Control).Sound := by
  have tidy : ({ c with connection := some id, phase := .idle } : Control).Tidy := {
    retries := by rw [hretry]; exact hretries
    apart := fun hsome => by simp [hretry] at hsome
    waiting := by simp [hretry]
    stopped := fun hstop => by simp [wanted.1] at hstop
    disabled := fun hdisabled => by simp [wanted.2] at hdisabled }
  exact tidy.sound free (by simp) fun _ _ => .inl rfl

/-- A control in which a retry was scheduled as there was neither a connection nor a retry. -/
theorem Tidy.sound_schedule (h : c.Tidy) (free : c.attempt = none) (wanted : c.Wanted)
    (missing : ¬c.Provided) (timer : Timer) : (c.schedule timer).Sound := by
  obtain ⟨hconnection, hretry⟩ : c.connection = none ∧ c.retry = none := by
    simpa [Provided] using missing
  obtain ⟨htimers, hqueue⟩ := h.timers_of_retry_none hretry
  have tidy : (c.schedule timer).Tidy := {
    retries := by simp [schedule, waitingRetries, htimers, hqueue]
    apart := fun _ => hconnection
    waiting := by simp [schedule]
    stopped := fun _ => hconnection
    disabled := fun hdisabled => by simp [schedule, wanted.2] at hdisabled }
  exact tidy.sound free (by simp [schedule]) fun _ _ => .inr rfl

/-- A control in which an attempt has begun. -/
theorem Tidy.sound_begin {a : Attempt} (h : c.Tidy) (ready : c.Ready a.waiter) :
    (c.begin a).Sound where
  toTidy := { h with disabled := fun hdisabled => by simp [Control.begin, ready.wanted.2] at hdisabled }
  provided hfree := by simp [Control.begin] at hfree
  resting hfree := by simp [Control.begin] at hfree
  held a' ha' := by
    obtain rfl := Option.some.inj ha'
    exact { ready with }

end Control

namespace Link

variable {s t : Link}

/-- The end of an attempt leaves the control sound. -/
theorem Ends.sound {a : Attempt} (h : Ends a.waiter s.freed t) (hs : s.control.Sound)
    (ha : s.control.attempt = some a) : t.control.Sound := by
  have ready := hs.held a ha
  have tidy : s.freed.control.Tidy := { hs.toTidy with }
  cases h with
  | connected hw =>
    have hretry : s.freed.control.retry = none := (ready.not_provided hw).2
    have hretries : s.freed.control.waitingRetries = [] := by
      rw [tidy.retries, hretry]
      rfl
    exact Control.sound_connected (c := s.freed.control) rfl ready.wanted hretry hretries _
  | failed timer hw => exact tidy.sound_schedule rfl ready.wanted (ready.missing hw) timer
  | replaced hw =>
    obtain ⟨free, wanted, hretry⟩ : s.freed.control.cancelRetry.attempt = none ∧
        s.freed.control.cancelRetry.Wanted ∧ s.freed.control.cancelRetry.retry = none := by
      rw [Control.cancelRetry_eq]
      exact ⟨rfl, ready.wanted, rfl⟩
    exact Control.sound_connected free wanted hretry tidy.waitingRetries_cancelRetry _
  | kept hw => exact tidy.sound rfl (ready.steady hw) fun alive _ => ready.kept hw alive

theorem halted_sound (tidy : s.control.Tidy) (free : s.control.attempt = none)
    (hphase : s.control.phase ≠ .connecting) (codes : List Nat) :
    (s.halted codes).control.Sound := by
  have halted : (s.halted codes).control.Tidy := {
    retries := tidy.retries
    apart := fun _ => rfl
    waiting := tidy.waiting
    stopped := fun _ => rfl
    disabled := fun hdisabled => by
      obtain ⟨hattempts, hretries, -, hretry⟩ := tidy.disabled hdisabled
      exact ⟨hattempts, hretries, rfl, hretry⟩ }
  refine halted.sound free hphase fun _ wanted => ?_
  simp [Control.Wanted, Link.halted] at wanted

/-- What a waiter does leaves the control sound. -/
theorem Serves.sound {w : Waiter} {rest : List Waiter} (hs : s.control.Sound)
    (hq : s.control.queue = w :: rest) (free : s.control.attempt = none)
    (h : Serves w { s with control := { s.control with queue := rest } } t) :
    t.control.Sound := by
  have tidy := hs.of_prepare hq
  cases h with
  | connect a hw ha wanted missing =>
    subst ha
    have hkeeps : a.waiter.replaces = false := Waiter.replaces_of_connects hw
    have hwaiting := (Control.not_provided.mp missing).2
    exact Control.Tidy.sound_begin { tidy with waiting := by simp [hwaiting] } {
      wanted
      missing := fun _ => missing
      kept := fun hreplaces => by simp [hkeeps] at hreplaces
      steady := fun hreplaces => by simp [hkeeps] at hreplaces }
  | reconnect a hw ha wanted =>
    subst ha
    obtain ⟨ticket, hreconnect⟩ := Waiter.replaces_eq_true hw
    rw [hreconnect] at tidy
    exact Control.Tidy.sound_begin tidy {
      wanted
      missing := fun hkeeps => by simp [hw] at hkeeps
      kept := fun _ alive => hs.provided free alive wanted
      steady := fun _ => hs.resting free }
  | stop ticket hw running =>
    subst hw
    exact halted_sound (s := ⟨_, s.registry⟩) tidy free (hs.resting free) []
  | lose hw running lost =>
    subst hw
    exact halted_sound (s := ⟨_, s.registry⟩) tidy free (hs.resting free) [Scene.lossCode]
  | idle hidle =>
    refine tidy.sound free (Control.phase_prepare w (hs.resting free)) fun alive wanted => ?_
    cases hw : w.connects with
    | true =>
      rcases hidle.of_connects hw with hunwanted | hprovided
      · exact absurd wanted hunwanted
      · exact hprovided
    | false =>
      rw [Control.prepare_of_not_connects hw] at wanted ⊢
      exact hs.provided free alive wanted

theorem Served.sound {w : Waiter} {rest : List Waiter} (hs : s.control.Sound)
    (hq : s.control.queue = w :: rest) (free : s.control.attempt = none)
    (h : Served w { s with control := { s.control with queue := rest } } t) :
    t.control.Sound :=
  h.lift (fun hserves => hserves.sound hs hq free) fun hsound ha hends => hends.sound hsound ha

theorem Aside.sound (h : Aside s t) (hs : s.control.Sound) : t.control.Sound := by
  cases h with
  | stay => exact hs
  | request ticket call =>
    refine hs.of_waiting ?_
    rw [← hs.retries, List.filterMap_append]
    simp [Waiter.retry?, Control.waitingRetries]
  | @hear event mail hmail =>
    refine hs.of_waiting ?_
    rw [← hs.retries, List.filterMap_append]
    cases event <;> simp [Waiter.ofEvent, Waiter.retry?, Control.waitingRetries]
  | @wake id timer htimer =>
    obtain ⟨hretry, htimers, hqueue⟩ := hs.of_timers htimer
    refine hs.of_waiting ?_
    rw [htimers, hretry, List.filterMap_append, hqueue]
    simp [Table.erase, Waiter.retry?]
  | finish ha hends => exact hends.sound hs ha
  | release owned =>
    have alive : s.control.life ≠ .ended := by simp [owned]
    exact { hs with
      provided := fun free _ wanted => hs.provided free alive wanted
      held := fun a ha =>
        have ready := hs.held a ha
        { ready with kept := fun hreplaces _ => ready.kept hreplaces alive } }
  | reap free hq htimers hregistry =>
    have ended : ({ s.control with life := .ended, connection := none } : Control).Tidy := {
      retries := hs.retries
      apart := fun _ => rfl
      waiting := hs.waiting
      stopped := fun _ => rfl
      disabled := fun hdisabled => by
        obtain ⟨hattempts, hretries, -, hretry⟩ := hs.disabled hdisabled
        exact ⟨hattempts, hretries, rfl, hretry⟩ }
    exact ended.sound free (hs.resting free) fun alive => absurd rfl alive

/-- Every step of a manager keeps its control sound. -/
theorem Change.sound (h : Change s t) (hs : s.control.Sound) : t.control.Sound := by
  cases h with
  | grant hq free hserved => exact hserved.sound hs hq free
  | aside haside => exact haside.sound hs

end Link

end ClaimRelay.Manager
