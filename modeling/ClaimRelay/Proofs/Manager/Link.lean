import ClaimRelay.Manager.Serve
import ClaimRelay.Proofs.Bus.Registry

/-! What one step of a manager may do to its connection.  A `Link` is what decides over the connection
of a manager, with the registry of its bus.  `Served` says what becomes of a link when a waiter has the
lock, `Ends` what the end of an attempt makes of it, and `Change` what one step of the manager does. -/

namespace ClaimRelay.Manager

/-- Whether a waiter asks for a connection where there is none. -/
def Waiter.connects : Waiter → Bool
  | .call _ .start | .call _ .connect | .retry _ => true
  | _ => false

/-- Whether a waiter asks for a connection in the place of the current one. -/
def Waiter.replaces : Waiter → Bool
  | .call _ .reconnect => true
  | _ => false

theorem Waiter.replaces_eq_true {w : Waiter} (hw : w.replaces = true) :
    ∃ ticket, w = .call ticket .reconnect := by
  unfold replaces at hw
  split at hw
  · exact ⟨_, rfl⟩
  · simp at hw

theorem Waiter.replaces_of_connects {w : Waiter} (hw : w.connects = true) :
    w.replaces = false := by
  unfold connects at hw
  split at hw
  · rfl
  · rfl
  · rfl
  · simp at hw

/-- The retry that a waiter is. -/
def Waiter.retry? : Waiter → Option Nat
  | .retry id => some id
  | _ => none

/-- What an event that was heard leaves to wait for the lock. -/
def Waiter.ofEvent : Bus.Event → List Waiter
  | .disconnected => [.event .disconnected]
  | .closed => [.event .closed]
  | _ => []

namespace Control

/-- The manager should be connected: it runs and has a bus to connect to. -/
def Wanted (c : Control) : Prop := c.running = true ∧ c.settings.isEnabled = true

/-- There is a connection, or a retry is pending. -/
def Provided (c : Control) : Prop := c.connection.isSome ∨ c.retry.isSome

/-- What a waiter changes before it connects. -/
def prepare (w : Waiter) (c : Control) : Control :=
  { c with
    running := match w with | .call _ .start => true | _ => c.running
    retry := match w with | .retry _ => none | _ => c.retry
    phase := match w with | .retry _ => .idle | _ => c.phase }

theorem prepare_of_not_connects {w : Waiter} (hw : w.connects = false) (c : Control) :
    c.prepare w = c := by
  cases w with
  | call ticket call => cases call <;> first | rfl | simp [Waiter.connects] at hw
  | retry id => simp [Waiter.connects] at hw
  | event event => rfl

theorem phase_prepare (w : Waiter) {c : Control} (h : c.phase ≠ .connecting) :
    (c.prepare w).phase ≠ .connecting := by
  cases w with
  | retry id => simp [prepare]
  | _ => exact h

theorem cancelRetry_eq (c : Control) :
    c.cancelRetry = { c with
      retry := none, timers := c.cancelRetry.timers, queue := c.cancelRetry.queue } := by
  unfold cancelRetry
  split
  · rename_i hretry
    rw [← hretry]
  · rfl

/-- The control when an attempt is made. -/
def begin (a : Attempt) (c : Control) : Control :=
  { c with attempts := c.attempts + 1, attempt := some a }

end Control

/-- What decides over a manager's connection, and the registry of its bus. -/
structure Link where
  control : Control
  registry : Bus.Registry

namespace Link

/-- The current connection is closed. -/
def Lost (s : Link) : Prop := ∃ id, s.control.connection = some id ∧ s.registry.isClosed id = true

/-- The registry with a new connection of the manager. -/
def entering (s : Link) : Bus.Registry :=
  s.registry.enter { servers := s.control.settings.servers, listener := s.control.listener }

/-- The link of a manager that was stopped, with the given exit codes. -/
def halted (s : Link) (codes : List Nat) : Link where
  control := { s.control with
    running := false, connection := none, exits := s.control.exits ++ codes }
  registry := s.registry.closeAny s.control.connection

/-- A waiter that has the lock finds nothing to do, beyond what it prepares. -/
def Idles (s : Link) : Waiter → Prop
  | .call _ .reconnect => ¬s.control.Wanted
  | .call _ .stop => s.control.running = false
  | .event .closed => s.control.running = false ∨ ¬s.Lost
  | w => w.connects = true → ¬(s.control.prepare w).Wanted ∨ (s.control.prepare w).Provided

theorem Idles.of_connects {s : Link} {w : Waiter} (h : s.Idles w) (hw : w.connects = true) :
    ¬(s.control.prepare w).Wanted ∨ (s.control.prepare w).Provided := by
  unfold Idles at h
  split at h <;> first | exact h hw | simp [Waiter.connects] at hw

/-- What a waiter that has the lock may do.  The waiter is no longer in the queue. -/
inductive Serves (w : Waiter) (s : Link) : Link → Prop
  /-- It begins an attempt, as there is neither a connection nor a retry. -/
  | connect (a : Attempt) (hw : w.connects = true) (ha : a.waiter = w)
      (wanted : (s.control.prepare w).Wanted) (missing : ¬(s.control.prepare w).Provided) :
      Serves w s
        { s with control := { s.control.prepare w with phase := .connecting }.begin a }
  /-- It begins an attempt to replace what there is. -/
  | reconnect (a : Attempt) (hw : w.replaces = true) (ha : a.waiter = w)
      (wanted : s.control.Wanted) :
      Serves w s { s with control := s.control.begin a }
  /-- A caller stops the manager. -/
  | stop (ticket : Nat) (hw : w = .call ticket .stop) (running : s.control.running = true) :
      Serves w s (s.halted [])
  /-- The loss of the current connection stops the manager and ends the process. -/
  | lose (hw : w = .event .closed) (running : s.control.running = true) (lost : s.Lost) :
      Serves w s (s.halted [Scene.lossCode])
  | idle (h : s.Idles w) : Serves w s { s with control := s.control.prepare w }

theorem Serves.attempts_eq {w : Waiter} {s t : Link} (h : Serves w s t)
    (hconnects : w.connects = false) (hreplaces : w.replaces = false) :
    t.control.attempts = s.control.attempts := by
  cases h with
  | connect a hw => simp [hconnects] at hw
  | reconnect a hw => simp [hreplaces] at hw
  | stop => rfl
  | lose => rfl
  | idle => rfl

/-- The link with no attempt that holds the lock. -/
def freed (s : Link) : Link := { s with control := { s.control with attempt := none } }

/-- What the end of an attempt made for `w` may do.  The attempt no longer holds the lock. -/
inductive Ends (w : Waiter) (s : Link) : Link → Prop
  /-- There is a connection now. -/
  | connected (hw : w.replaces = false) :
      Ends w s
        { control := { s.control with connection := some s.registry.nextId, phase := .idle }
          registry := s.entering }
  /-- There will be another attempt. -/
  | failed (timer : Timer) (hw : w.replaces = false) :
      Ends w s { s with control := s.control.schedule timer }
  /-- There is another connection now, and a retry is no longer needed. -/
  | replaced (hw : w.replaces = true) :
      Ends w s
        { control := { s.control.cancelRetry with
            connection := some s.registry.nextId, phase := .idle }
          registry := s.entering.closeAny s.control.connection }
  /-- All stays as it was. -/
  | kept (hw : w.replaces = true) : Ends w s s

/-- What becomes of a link when a waiter has the lock: an attempt that takes no time is over at
once. -/
def Served (w : Waiter) (s t : Link) : Prop :=
  Serves w s t ∨ ∃ mid a, Serves w s mid ∧ mid.control.attempt = some a ∧ Ends a.waiter mid.freed t

/-- What holds after what a waiter does, and is kept by the end of an attempt, holds in the end. -/
theorem Served.lift {w : Waiter} {s t : Link} {P : Link → Prop} (h : Served w s t)
    (serves : ∀ {u}, Serves w s u → P u)
    (ends : ∀ {u v a}, P u → u.control.attempt = some a → Ends a.waiter u.freed v → P v) : P t := by
  rcases h with hserves | ⟨mid, a, hserves, ha, hends⟩
  · exact serves hserves
  · exact ends (serves hserves) ha hends

/-- What a step of a manager may do in which no waiter gets the lock. -/
inductive Aside (s : Link) : Link → Prop
  | stay : Aside s s
  /-- A call begins to wait. -/
  | request (ticket : Nat) (call : Call) :
      Aside s
        { s with control := { s.control with queue := s.control.queue ++ [.call ticket call] } }
  /-- An event is taken, which may have to wait. -/
  | hear {event : Bus.Event} {mail : List (Nat × Bus.Event)}
      (h : Bus.takeMail s.control.listener s.registry.mail = some (event, mail)) :
      Aside s
        { control := { s.control with queue := s.control.queue ++ Waiter.ofEvent event }
          registry := { s.registry with mail } }
  /-- A retry whose time has come begins to wait. -/
  | wake {id : Nat} {timer : Timer} (h : s.control.timers.get? id = some timer) :
      Aside s
        { s with control := { s.control with
            timers := s.control.timers.erase id, queue := s.control.queue ++ [.retry id] } }
  /-- The attempt that holds the lock is over. -/
  | finish {a : Attempt} {t : Link} (ha : s.control.attempt = some a)
      (h : Ends a.waiter s.freed t) :
      Aside s t
  | release (owned : s.control.life = .owned) :
      Aside s { s with control := { s.control with life := .released } }
  /-- A manager that was let go and has nothing to finish ends. -/
  | reap {registry : Bus.Registry} (free : s.control.attempt = none) (hq : s.control.queue = [])
      (timers : s.control.timers = [])
      (h : registry = s.registry ∨
        ∃ id, s.control.connection = some id ∧ registry = s.registry.discard id) :
      Aside s { control := { s.control with life := .ended, connection := none }, registry }

/-- What one step of a manager may do: the first waiter gets the lock, or none does. -/
inductive Change (s : Link) : Link → Prop
  | grant {w : Waiter} {rest : List Waiter} {t : Link} (hq : s.control.queue = w :: rest)
      (free : s.control.attempt = none)
      (h : Served w { s with control := { s.control with queue := rest } } t) : Change s t
  | aside {t : Link} (h : Aside s t) : Change s t

end Link

end ClaimRelay.Manager
