import ClaimRelay.Proofs.Network.Clock
import ClaimRelay.Proofs.Network.RetryLoop

/-! What a turn does to the attempts of a manager, and what becomes of the calls for which they are made.
A `Course` tells the turns of a manager apart by what the holder of the lock does: it makes no attempt,
it begins one that takes time, or its attempt ends. -/

namespace ClaimRelay

open Manager Manager.Scene Bus

namespace Manager

/-- What stays as it is while nobody gets the lock. -/
structure Control.Waits (c c' : Control) : Prop where
  same : c' = { c with queue := c'.queue, life := c'.life }
  queue : c.queue <+: c'.queue

theorem Control.Waits.refl (c : Control) : c.Waits c := ⟨rfl, List.prefix_rfl⟩

/-- What a waiter changes that makes no attempt. -/
structure Link.Rests (w : Waiter) (s t : Link) : Prop where
  attempt : t.control.attempt = s.control.attempt
  connection : t.control.connection = s.control.connection ∨ t.control.connection = none
  retry : t.control.retry = (s.control.prepare w).retry
  retries : t.control.retries = s.control.retries
  timers : t.control.timers = s.control.timers

theorem Link.Serves.rests {w : Waiter} {s t : Link} (h : Link.Serves w s t)
    (hattempts : t.control.attempts = s.control.attempts) : Link.Rests w s t := by
  cases h with
  | connect => exact absurd hattempts (Nat.succ_ne_self _)
  | reconnect => exact absurd hattempts (Nat.succ_ne_self _)
  | stop ticket hw => exact ⟨rfl, .inr rfl, hw ▸ rfl, rfl, rfl⟩
  | lose hw => exact ⟨rfl, .inr rfl, hw ▸ rfl, rfl, rfl⟩
  | idle => exact ⟨rfl, .inl rfl, rfl, rfl, rfl⟩

/-- What a waiter that is done returns from a call to reconnect. -/
def Waiter.returns? (w : Waiter) (m : Manager) : Option (Except Error Bool) :=
  match w with
  | .call ticket .reconnect =>
    match m.results.get? ticket with
    | some (.reconnected result) => some result
    | _ => none
  | _ => none

theorem Waiter.returns?_of_connects {w : Waiter} (hw : w.replaces = false) (m : Manager) :
    w.returns? m = none := by
  unfold returns?
  split
  · simp [replaces] at hw
  · rfl

end Manager

namespace Network

variable {Others : Network → Surroundings → Prop} {start net net' : Network} {i : Nat}
  {m m' : Manager} {t : Turn} {turns : List Turn} {w : Waiter} {b : Scene}

/-- Who has the lock in a turn of the manager at place `i`. -/
def Turn.holder? (t : Turn) (i : Nat) : Option Waiter :=
  match t.move, t.before.managers[i]? with
  | .step (.grant j), some m => if j = i then m.queue.head? else none
  | .step (.finish j), some m => if j = i then m.attempt.map (·.waiter) else none
  | _, _ => none

/-- Who has the lock in a turn and is done with it. -/
def Turn.done? (t : Turn) (i : Nat) : Option Waiter :=
  match t.holder? i, t.after.managers[i]? with
  | some w, some m' => if m'.attempt.isNone then some w else none
  | _, _ => none

/-- What a call to reconnect returns in a turn. -/
def Turn.returns? (t : Turn) (i : Nat) : Option (Except Manager.Error Bool) :=
  match t.done? i, t.after.managers[i]? with
  | some w, some m' => w.returns? m'
  | _, _ => none

/-- Whether a call to reconnect is successful. -/
def Turn.reconnects (t : Turn) (i : Nat) : Bool :=
  match t.returns? i with
  | some (.ok true) => true
  | _ => false

/-- Whether a call to reconnect returns an error. -/
def Turn.failsToReconnect (t : Turn) (i : Nat) : Bool :=
  match t.returns? i with
  | some (.error _) => true
  | _ => false

/-- Whether the current connection of the manager at place `i` is made in a turn. -/
def Turn.obtains (t : Turn) (i : Nat) : Bool :=
  match t.after.managers[i]? with
  | some m' => m'.connection.any fun id => (t.before.around.bus.connections.get? id).isNone
  | none => false

/-- Whether an attempt ends without a connection that was made for a call to start or to connect, or for a
retry. -/
def Turn.failsToConnect (t : Turn) (i : Nat) : Bool :=
  t.endsAttempt i && (t.done? i).any Waiter.connects && !t.obtains i

/-- Whether an attempt begins that is made for a call to start or to connect, or for a retry. -/
def Turn.beginsToConnect (t : Turn) (i : Nat) : Bool :=
  match t.before.managers[i]?, t.after.managers[i]? with
  | some m, some m' => m.attempts < m'.attempts && (t.holder? i).any Waiter.connects
  | _, _ => false

/-- A waiter gets the lock. -/
def Turn.Grants (t : Turn) (i : Nat) (w : Waiter) : Prop :=
  t.move = .step (.grant i) ∧ ∃ m rest, t.before.managers[i]? = some m ∧ m.queue = w :: rest

/-- What a manager leaves alone in a turn: the connections on the bus, and its readers with what they read
unless one of them takes a step itself. -/
structure Turn.Spares (t : Turn) (i : Nat) (m m' : Manager) : Prop where
  connections : t.move.manager? = some i →
    t.after.around.bus.connections = t.before.around.bus.connections
  reception : t.move.manager? = some i → (∀ n first, t.move ≠ .step (.dispatch i n first)) →
    t.after.reception m' = t.before.reception m

/-- The scene in which an attempt made for `w` ends in a turn, when it no longer holds the lock. -/
inductive Turn.Ending (t : Turn) (i : Nat) (m : Manager) (w : Waiter) (b : Scene) : Prop
  /-- It has just begun. -/
  | begun {rest : List Waiter} (hmove : t.move = .step (.grant i)) (free : m.attempt = none)
      (hq : m.queue = w :: rest) (hb : Begins w ⟨{ m with queue := rest }, t.before.around⟩ b)
  | held (a : Attempt) (hmove : t.move = .step (.finish i)) (ha : m.attempt = some a)
      (hw : a.waiter = w) (hb : b = ⟨{ m with attempt := none }, t.before.around⟩)

/-- What a turn does to the attempts of the manager at place `i`. -/
inductive Turn.Course (t : Turn) (i : Nat) (m m' : Manager) : Prop
  /-- A waiter gets the lock and makes no attempt. -/
  | rests {w : Waiter} {rest : List Waiter} (hmove : t.move = .step (.grant i))
      (free : m.attempt = none) (hq : m.queue = w :: rest)
      (h : Link.Serves w (t.before.link { m with queue := rest }) (t.after.link m'))
      (hattempts : m'.attempts = m.attempts)
      (hreplaces : ∀ ticket, w = .call ticket .reconnect → t.after.around = t.before.around ∧
        m' = { m with
          queue := rest, results := m.results.put ticket (.reconnected (.ok false)) })
  /-- A waiter gets the lock and holds it while its attempt takes time. -/
  | begins {w : Waiter} {rest : List Waiter} {b : Scene} (hmove : t.move = .step (.grant i))
      (free : m.attempt = none) (hq : m.queue = w :: rest)
      (hb : Begins w ⟨{ m with queue := rest }, t.before.around⟩ b) (a : Attempt)
      (ha : a.waiter = w) (h : (⟨m', t.after.around⟩ : Scene) =
        { b with around.serial := b.around.serial + 1, manager.attempt := some a })
  | ends {w : Waiter} {b : Scene} (hending : t.Ending i m w b)
      (h : Scene.Ends w b ⟨m', t.after.around⟩)
  /-- The time of a retry has come. -/
  | wakes {id : Nat} {timer : Timer} (hmove : t.move = .step (.wake i id))
      (htimer : m.timers.get? id = some timer) (due : timer.due ≤ t.before.around.now)
      (h : m' = { m with timers := m.timers.erase id, queue := m.queue ++ [.retry id] })
      (haround : t.after.around = t.before.around)
  /-- The manager takes another step, or it is not its turn. -/
  | waits (hholder : t.holder? i = none) (h : m.toControl.Waits m'.toControl)
      (hspares : t.Spares i m m')
  /-- The manager ends. -/
  | quits (hholder : t.holder? i = none) (free : m.attempt = none) (htimers : m.timers = [])
      (h : m'.toControl = { m.toControl with life := .ended, connection := none })

namespace Turn

theorem holder?_eq_none (hgrant : t.move ≠ .step (.grant i)) (hfinish : t.move ≠ .step (.finish i)) :
    t.holder? i = none := by
  unfold holder?
  split
  · rename_i hmove _
    rw [if_neg]
    rintro rfl
    exact hgrant hmove
  · rename_i hmove _
    rw [if_neg]
    rintro rfl
    exact hfinish hmove
  · rfl

theorem holder?_grant {rest : List Waiter} (hmove : t.move = .step (.grant i))
    (hm : t.before.managers[i]? = some m) (hq : m.queue = w :: rest) : t.holder? i = some w := by
  unfold holder?
  rw [hmove, hm]
  simp [hq]

theorem holder?_finish {a : Attempt} (hmove : t.move = .step (.finish i))
    (hm : t.before.managers[i]? = some m) (ha : m.attempt = some a) :
    t.holder? i = some a.waiter := by
  unfold holder?
  rw [hmove, hm]
  simp [ha]

theorem done?_eq (hm' : t.after.managers[i]? = some m') (free : m'.attempt = none) :
    t.done? i = t.holder? i := by
  unfold done?
  rw [hm']
  cases t.holder? i <;> simp [free]

theorem done?_eq_none (hm' : t.after.managers[i]? = some m')
    (h : t.holder? i = none ∨ m'.attempt ≠ none) : t.done? i = none := by
  unfold done?
  rw [hm']
  rcases h with hnone | hsome
  · rw [hnone]
  · cases t.holder? i
    · rfl
    · simp [hsome]

theorem returns?_eq (hm' : t.after.managers[i]? = some m') (free : m'.attempt = none)
    (hw : t.holder? i = some w) : t.returns? i = w.returns? m' := by
  unfold returns?
  rw [done?_eq hm' free, hw, hm']

theorem returns?_eq_none (h : t.done? i = none) : t.returns? i = none := by
  unfold returns?
  rw [h]

theorem Acts.course (h : t.Acts i ⟨m, t.before.around⟩ ⟨m', t.after.around⟩) : t.Course i m m' := by
  have hholder {action : Action} (hmove : t.move = .step action) (hgrant : action ≠ .grant i)
      (hfinish : action ≠ .finish i) : t.holder? i = none := by
    refine holder?_eq_none ?_ ?_
    · rw [hmove]
      exact fun h => hgrant (Move.step.inj h)
    · rw [hmove]
      exact fun h => hfinish (Move.step.inj h)
  cases h with
  | request hmove hs =>
    obtain ⟨hmanager, haround⟩ := Scene.mk.inj hs
    refine .waits (hholder hmove (by simp) (by simp)) ?_ ⟨fun _ => ?_, fun _ _ => ?_⟩
    · rw [hmanager]
      exact ⟨rfl, List.prefix_append ..⟩
    · exact congrArg (·.bus.connections) haround
    · exact (congrArg Scene.reception hs).trans rfl
  | grant hmove hs =>
    obtain ⟨w, rest, free, hq, hserves⟩ := grant_serves hs
    cases hserves with
    | rests h hattempts hreplaces =>
      refine .rests hmove free hq h hattempts fun ticket hw => ?_
      obtain ⟨hmanager, haround⟩ := Scene.mk.inj (hreplaces ticket hw)
      exact ⟨haround, hmanager⟩
    | holds hb a ha h => exact .begins hmove free hq hb a ha h
    | ends hb h => exact .ends (.begun hmove free hq hb) h
  | finish hmove hs =>
    obtain ⟨a, ha, hends⟩ := finish_ends hs
    exact .ends (.held a hmove ha rfl rfl) hends
  | wake hmove hs =>
    obtain ⟨timer, htimer, due, heq⟩ := wake_eq_some hs
    obtain ⟨hmanager, haround⟩ := Scene.mk.inj heq
    exact .wakes hmove htimer due hmanager haround
  | hear hmove hs =>
    obtain ⟨event, mail, -, hlink⟩ := link_hear hs
    have hcontrol : m'.toControl = { m.toControl with queue := m.queue ++ Waiter.ofEvent event } :=
      congrArg (·.control) hlink
    refine .waits (hholder hmove (by simp) (by simp)) ?_ ⟨fun _ => ?_, fun _ _ => reception_hear hs⟩
    · rw [hcontrol]
      exact ⟨rfl, List.prefix_append ..⟩
    · exact congrArg (·.registry.connections) hlink
  | dispatch hmove hs =>
    have hlink := link_dispatch hs
    have hcontrol : m'.toControl = m.toControl := congrArg (·.control) hlink
    refine .waits (hholder hmove (by simp) (by simp)) ?_
      ⟨fun _ => ?_, fun _ hnot => absurd hmove (hnot _ _)⟩
    · rw [hcontrol]
      exact .refl _
    · exact congrArg (·.registry.connections) hlink
  | release hmove hs =>
    obtain ⟨life, hlife⟩ := release_life ⟨m, t.before.around⟩
    obtain ⟨hmanager, haround⟩ := Scene.mk.inj (hs.trans hlife)
    refine .waits (hholder hmove (by simp) (by simp)) ?_ ⟨fun _ => ?_, fun _ _ => ?_⟩
    · rw [hmanager]
      exact ⟨rfl, List.prefix_rfl⟩
    · exact congrArg (·.bus.connections) haround
    · exact (congrArg Scene.reception hs).trans (reception_release _)
  | reap hmove hs =>
    obtain ⟨free, -, htimers, hcontrol, -⟩ := link_reap hs
    exact .quits (hholder hmove (by simp) (by simp)) free htimers hcontrol

theorem Valid.course (valid : t.Valid Others) (hm : t.before.managers[i]? = some m)
    (hm' : t.after.managers[i]? = some m') : t.Course i m m' := by
  by_cases hmove : t.move.manager? = some i
  · exact (valid.acts hm hm' hmove).course
  · obtain ⟨m₁, hm₁, hdoes⟩ := valid.does hm
    obtain rfl : m₁ = m' := Option.some.inj (hm₁.symm.trans hm')
    rcases hdoes.change with ⟨hturn, -⟩ | ⟨-, rfl⟩
    · exact absurd hturn hmove
    · refine .waits (holder?_eq_none ?_ ?_) (.refl _)
        ⟨fun hturn => absurd hturn hmove, fun hturn => absurd hturn hmove⟩
      · exact fun hgrant => hmove (hgrant ▸ rfl)
      · exact fun hfinish => hmove (hfinish ▸ rfl)

/-! ### Ends of attempts -/

/-- What a manager keeps until its attempt ends, though it may have begun the attempt in the same turn. -/
structure Prepared (t : Turn) (m : Manager) (b : Scene) : Prop where
  free : b.manager.attempt = none
  settings : b.manager.settings = m.settings
  connection : b.manager.connection = m.connection
  retries : b.manager.retries = m.retries
  timers : b.manager.timers = m.timers
  registry : b.around.bus.toRegistry = t.before.around.bus.toRegistry
  now : b.around.now = t.before.around.now

theorem Ending.prepared (h : t.Ending i m w b) : t.Prepared m b := by
  cases h with
  | begun hmove free hq hb =>
    obtain ⟨-, -, hmanager, notices, haround⟩ := hb
    exact {
      free := (congrArg (·.attempt) hmanager).trans free
      settings := congrArg (·.settings) hmanager
      connection := congrArg (·.connection) hmanager
      retries := congrArg (·.retries) hmanager
      timers := congrArg (·.timers) hmanager
      registry := congrArg (·.bus.toRegistry) haround
      now := congrArg (·.now) haround }
  | held a hmove ha hw hb =>
    subst hb
    exact ⟨rfl, rfl, rfl, rfl, rfl, rfl, rfl⟩

theorem Ending.ready (h : t.Ending i m w b) (hs : m.toControl.Sound) :
    b.manager.toControl.Tidy ∧ b.manager.toControl.Ready w := by
  cases h with
  | begun hmove free hq hb =>
    let a : Attempt := ⟨w, 0, false, 0⟩
    have hserves := hb.serves (a := a) rfl
    have hsound := hserves.sound (s := t.before.link m) hs hq free
    exact ⟨{ hsound.toTidy with }, { hsound.held a rfl with }⟩
  | held a hmove ha hw hb =>
    subst hb
    subst hw
    exact ⟨{ hs.toTidy with }, { hs.held a ha with }⟩

/-- An attempt to connect is made only while no retry waits. -/
theorem Ending.timers_eq_nil (h : t.Ending i m w b) (hs : m.toControl.Sound)
    (hw : w.replaces = false) : m.timers = [] := by
  obtain ⟨tidy, ready⟩ := h.ready hs
  rw [← h.prepared.timers]
  exact (tidy.timers_of_retry_none (ready.not_provided hw).2).1

theorem Ending.holder? (h : t.Ending i m w b) (hm : t.before.managers[i]? = some m) :
    t.holder? i = some w := by
  cases h with
  | begun hmove free hq hb => exact holder?_grant hmove hm hq
  | held a hmove ha hw hb => exact hw ▸ holder?_finish hmove hm ha

/-- The attempt held the lock, or it is counted in this turn. -/
theorem Ending.counted (h : t.Ending i m w b) :
    m.attempt ≠ none ∧ b.manager.attempts = m.attempts ∨
      m.attempt = none ∧ b.manager.attempts = m.attempts + 1 := by
  cases h with
  | begun hmove free hq hb => exact .inr ⟨free, by rw [hb.manager]⟩
  | held a hmove ha hw hb => exact .inl ⟨by simp [ha], by rw [hb]⟩

theorem Ending.settled (h : t.Ending i m w b) (hends : Scene.Ends w b ⟨m', t.after.around⟩) :
    Link.Settled b.link (t.after.link m') := by
  have hfreed : b.link.freed = b.link := by
    rw [Link.freed, ← show b.link.control.attempt = none from h.prepared.free]
  exact Link.Ends.settled (hfreed.symm ▸ hends.link)

theorem Ending.returns? (h : t.Ending i m w b) (hends : Scene.Ends w b ⟨m', t.after.around⟩)
    (hm : t.before.managers[i]? = some m) (hm' : t.after.managers[i]? = some m') :
    t.returns? i = w.returns? m' :=
  returns?_eq hm' (h.settled hends).free (h.holder? hm)

theorem Ending.reconnects {ticket : Nat} (h : t.Ending i m (.call ticket .reconnect) b)
    (hends : Scene.Ends (.call ticket .reconnect) b ⟨m', t.after.around⟩)
    (hm : t.before.managers[i]? = some m) (hm' : t.after.managers[i]? = some m')
    (hresult : m'.results.get? ticket = some (.reconnected (.ok true))) :
    t.reconnects i = true := by
  unfold Turn.reconnects
  rw [h.returns? hends hm hm', Waiter.returns?, hresult]

end Turn

end Network

end ClaimRelay
