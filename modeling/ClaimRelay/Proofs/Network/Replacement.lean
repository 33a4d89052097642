import ClaimRelay.Proofs.Network.Attempts
import ClaimRelay.Proofs.Network.Prompt

/-! A call to reconnect is all or nothing.  It may find a connection, or a retry that waits, or a retry
whose time comes while the call holds the lock.  If it fails they are as they were, and the retry still
fires; if it is successful they are replaced, and the retry never gets the lock. -/

namespace ClaimRelay

open Manager Manager.Scene Bus

/-! ### What waits while an attempt holds the lock -/

namespace Manager.Control

variable {c c' c'' : Control}

/-- What a control keeps while an attempt holds the lock.  A retry whose time comes goes on to wait for the
lock. -/
structure Holds (c c' : Control) : Prop where
  same : c' = { c with queue := c'.queue, timers := c'.timers, life := c'.life }
  queue : c.queue <+: c'.queue
  timers : ∀ {id timer}, c.timers.get? id = some timer →
    c'.timers.get? id = some timer ∨ .retry id ∈ c'.queue

theorem Holds.refl (c : Control) : c.Holds c := ⟨rfl, List.prefix_rfl, .inl⟩

theorem Holds.trans (h1 : c.Holds c') (h2 : c'.Holds c'') : c.Holds c'' where
  same := by
    rw [h2.same, h1.same]
  queue := h1.queue.trans h2.queue
  timers htimer := by
    rcases h1.timers htimer with hkept | hwaits
    · exact h2.timers hkept
    · exact .inr (h2.queue.subset hwaits)

theorem Waits.holds (h : c.Waits c') : c.Holds c' where
  same := by rw [h.same]
  queue := h.queue
  timers htimer := .inl (by rw [h.same]; exact htimer)

theorem holds_wake (c : Control) (id : Nat) :
    c.Holds { c with timers := c.timers.erase id, queue := c.queue ++ [.retry id] } where
  same := rfl
  queue := List.prefix_append ..
  timers {id' timer} htimer := by
    by_cases hid : id = id'
    · subst hid
      exact .inr (by simp)
    · refine .inl ?_
      rw [Table.get?_erase, if_neg hid]
      exact htimer

theorem Holds.freed (h : c.Holds c') :
    ({ c with attempt := none } : Control).Holds { c' with attempt := none } where
  same := by rw [h.same]
  queue := h.queue
  timers := h.timers

end Manager.Control

/-! ### Turns in which an attempt holds the lock -/

namespace Network

variable {Others : Network → Surroundings → Prop} {start net : Network} {i id : Nat}
  {m m' m₀ : Manager} {t : Turn} {turns held : List Turn} {w : Waiter} {b : Scene}

namespace Turn

theorem Course.holds {a : Attempt} (h : t.Course i m m') (ha : m.attempt = some a) :
    m.toControl.Holds m'.toControl ∧ t.Spares i m m' ∨
      t.Ending i m a.waiter ⟨{ m with attempt := none }, t.before.around⟩ ∧
        Scene.Ends a.waiter ⟨{ m with attempt := none }, t.before.around⟩ ⟨m', t.after.around⟩ := by
  cases h with
  | rests hmove free => simp [free] at ha
  | begins hmove free => simp [free] at ha
  | ends hending hends =>
    cases hending with
    | begun hmove free => simp [free] at ha
    | held a' hmove ha' hw hb =>
      obtain rfl : a' = a := Option.some.inj (ha'.symm.trans ha)
      subst hw
      subst hb
      exact .inr ⟨.held a' hmove ha rfl rfl, hends⟩
  | wakes hmove htimer due h haround =>
    subst h
    refine .inl ⟨Control.holds_wake .., fun _ => ?_, fun _ _ => ?_⟩
    · rw [haround]
    · rw [reception, reception, haround]
      rfl
  | waits hholder h hspares => exact .inl ⟨h.holds, hspares⟩
  | quits hholder free => simp [free] at ha

/-- The manager at place `i` leaves alone what is not its own attempt. -/
def SparesAt (t : Turn) (i : Nat) : Prop :=
  ∀ {m m'}, t.before.managers[i]? = some m → t.after.managers[i]? = some m' → t.Spares i m m'

theorem Spares.at (h : t.Spares i m m') (hm : t.before.managers[i]? = some m)
    (hm' : t.after.managers[i]? = some m') : t.SparesAt i := by
  intro m₁ m₂ hm₁ hm₂
  obtain rfl : m = m₁ := Option.some.inj (hm.symm.trans hm₁)
  obtain rfl : m' = m₂ := Option.some.inj (hm'.symm.trans hm₂)
  exact h

end Turn

/-- While an attempt holds the lock it is spared, until the turn in which it ends. -/
theorem Run.holds {a : Attempt} (run : Run Others start turns net)
    (hm₀ : start.managers[i]? = some m₀) (ha : m₀.attempt = some a)
    (hheld : ∀ t ∈ turns, ∀ m, t.before.managers[i]? = some m → m.attempt ≠ none)
    (hm' : net.managers[i]? = some m') :
    m₀.toControl.Holds m'.toControl ∧ (∀ t ∈ turns, t.SparesAt i) ∨
      ∃ last between m, turns = last :: between ∧ last.before.managers[i]? = some m ∧
        m₀.toControl.Holds m.toControl ∧ (∀ t ∈ between, t.SparesAt i) ∧
        last.Ending i m a.waiter ⟨{ m with attempt := none }, last.before.around⟩ ∧
        Scene.Ends a.waiter ⟨{ m with attempt := none }, last.before.around⟩
          ⟨m', last.after.around⟩ := by
  induction run generalizing m' with
  | start =>
    obtain rfl : m₀ = m' := Option.some.inj (hm₀.symm.trans hm')
    exact .inl ⟨.refl _, by simp⟩
  | @turn turns t run valid ih =>
    obtain ⟨m, hm, -⟩ := valid.done hm'
    have hcourse := valid.course hm hm'
    have hnone : m.attempt ≠ none := hheld t (.head _) m hm
    rcases ih (fun t ht => hheld t (.tail _ ht)) hm with
      ⟨hholds, hspares⟩ | ⟨last, between, m₁, -, -, -, -, hending, hends⟩
    · have hm_held : m.attempt = some a := by
        have hsame : m.attempt = m₀.attempt := congrArg (·.attempt) hholds.same
        exact hsame.trans ha
      rcases hcourse.holds hm_held with ⟨hnext, hspared⟩ | ⟨hending, hends⟩
      · exact .inl ⟨hholds.trans hnext, List.forall_mem_cons.mpr ⟨hspared.at hm hm', hspares⟩⟩
      · exact .inr ⟨t, turns, m, rfl, hm, hholds, hspares, hending, hends⟩
    · exact absurd (hending.settled hends).free hnone

/-! ### The pending retry -/

namespace Turn

/-- The pending retry is the same as an attempt ends, unless the attempt was made for it. -/
theorem Ending.retry (h : t.Ending i m w b) (hm : t.before.managers[i]? = some m)
    (hs : m.toControl.Sound) (hretry : m.retry = some id) :
    b.manager.retry = some id ∧ w.replaces = true ∨
      t.Grants i (.retry id) ∧ b.manager.attempts = m.attempts + 1 := by
  obtain ⟨-, ready⟩ := h.ready hs
  have hpending (hsame : b.manager.retry = m.retry) :
      b.manager.retry = some id ∧ w.replaces = true := by
    refine ⟨hsame.trans hretry, ?_⟩
    cases hw : w.replaces with
    | true => rfl
    | false =>
      have hnone : b.manager.retry = none := (ready.not_provided hw).2
      simp [hsame, hretry] at hnone
  cases h with
  | begun hmove free hq hb =>
    have hprepared : b.manager.retry = (m.toControl.prepare w).retry :=
      congrArg (·.retry) hb.manager
    cases w with
    | retry id' =>
      obtain rfl : id = id' :=
        Option.some.inj (hretry.symm.trans (hs.of_queue_retry hq).1)
      exact .inr ⟨⟨hmove, m, _, hm, hq⟩, congrArg (·.attempts) hb.manager⟩
    | _ => exact .inl (hpending hprepared)
  | held a hmove ha hw hb => exact .inl (hpending (hb ▸ rfl))

/-- A retry that has the lock makes an attempt, if the manager runs. -/
theorem serves_retry {rest : List Waiter} {u : Link} (hs : m.toControl.Sound)
    (hq : m.queue = .retry id :: rest) (running : m.running = true)
    (h : Link.Serves (.retry id) (t.before.link { m with queue := rest }) u) :
    u.control.attempts = m.attempts + 1 := by
  cases h with
  | connect => rfl
  | reconnect a hw => simp [Waiter.replaces] at hw
  | stop ticket hw => simp at hw
  | lose hw => simp at hw
  | idle hidle =>
    have hretry := (hs.of_queue_retry hq).1
    have hconnection : m.connection = none := hs.apart (by simp [hretry])
    have enabled : m.settings.isEnabled = true := by
      cases henabled : m.settings.isEnabled with
      | true => rfl
      | false => simp [(hs.disabled henabled).2.2.2] at hretry
    rcases hidle.of_connects rfl with hunwanted | hprovided
    · exact absurd ⟨running, enabled⟩ hunwanted
    · simp [Control.Provided, Control.prepare, link, hconnection] at hprovided

/-- A retry is pending until it has the lock, or until a call to reconnect is successful. -/
theorem Course.pending (h : t.Course i m m') (hm : t.before.managers[i]? = some m)
    (hm' : t.after.managers[i]? = some m') (hs : m.toControl.Sound) (hretry : m.retry = some id) :
    m'.retry = some id ∨ t.reconnects i = true ∨
      t.Grants i (.retry id) ∧ (m.running = true → m'.attempts = m.attempts + 1) := by
  cases h with
  | @rests w rest hmove free hq h hattempts hreplaces =>
    have hprepared : m'.retry = (m.toControl.prepare w).retry := (h.rests hattempts).retry
    cases w with
    | retry id' =>
      obtain rfl : id = id' :=
        Option.some.inj (hretry.symm.trans (hs.of_queue_retry hq).1)
      exact .inr (.inr ⟨⟨hmove, m, rest, hm, hq⟩, fun running => serves_retry hs hq running h⟩)
    | _ => exact .inl (hprepared.trans hretry)
  | begins hmove free hq hb a ha h =>
    have hbegun : m'.retry = _ := congrArg (·.manager.retry) h
    have hcounted : m'.attempts = _ := congrArg (·.manager.attempts) h
    rcases (Ending.begun hmove free hq hb).retry hm hs hretry with ⟨hsame, -⟩ | ⟨hgrants, hnext⟩
    · exact .inl (hbegun.trans hsame)
    · exact .inr (.inr ⟨hgrants, fun _ => hcounted.trans hnext⟩)
  | ends hending hends =>
    rcases hending.retry hm hs hretry with ⟨hsame, hreplaces⟩ | ⟨hgrants, hnext⟩
    · cases hends with
      | connected hw => simp [hw] at hreplaces
      | failed hw => simp [hw] at hreplaces
      | replaced ticket hw hlink hresult =>
        subst hw
        exact .inr (.inl (hending.reconnects (.replaced ticket rfl hlink hresult) hm hm' hresult))
      | kept ticket hw reason failing notices h =>
        exact .inl ((congrArg (·.manager.retry) h).trans hsame)
    · exact .inr (.inr ⟨hgrants, fun _ => (hending.settled hends).attempts.trans hnext⟩)
  | wakes hmove htimer due h haround => exact .inl (h ▸ hretry)
  | waits hholder h hspares => exact .inl ((congrArg (·.retry) h.same).trans hretry)
  | quits hholder free htimers h => exact .inl ((congrArg (·.retry) h).trans hretry)

end Turn

/-- A retry of the manager `m` waits for its time or for the lock.  Something is still to come then: while no
manager can do anything, its time lies in the future, or the time of the attempt that holds the lock does. -/
structure Pends (net : Network) (m : Manager) (id : Nat) : Prop where
  waits : id ∈ m.waitingRetries
  later : net.IsIdle → (∃ timer, m.timers.get? id = some timer ∧ net.around.now < timer.due) ∨
    .retry id ∈ m.queue ∧ ∃ a, m.attempt = some a ∧ net.around.now < a.due

theorem pends (hm : net.managers[i]? = some m) (hwaits : id ∈ m.waitingRetries) :
    net.Pends m id := by
  refine ⟨hwaits, fun hidle => ?_⟩
  rcases List.mem_append.mp hwaits with htimed | hqueued
  · rw [← Table.isSome_get?] at htimed
    obtain ⟨timer, htimer⟩ := Option.isSome_iff_exists.mp htimed
    exact .inl ⟨timer, htimer, hidle.lt_timer hm htimer⟩
  · obtain ⟨w, hw, hid⟩ := List.mem_filterMap.mp hqueued
    cases w with
    | retry id' =>
      obtain rfl : id' = id := Option.some.inj hid
      exact .inr ⟨hw, hidle.lt_attempt hm hw⟩
    | call | event => simp [Waiter.retry?] at hid

/-- A retry of the manager at place `i` goes on to wait until it makes an attempt: it does so when it has the
lock, if the manager runs then.  Only a call to reconnect that is successful can come first. -/
def Fires (net : Network) (i id : Nat) : Prop :=
  ∀ {turns last m}, Run Outside net turns last → last.managers[i]? = some m →
    last.Pends m id ∨ (∃ t ∈ turns, t.reconnects i = true) ∨
      ∃ t ∈ turns, t.Grants i (.retry id) ∧ ∀ {m₁ m₂}, t.before.managers[i]? = some m₁ →
        t.after.managers[i]? = some m₂ → m₁.running = true → m₂.attempts = m₁.attempts + 1

theorem fires_of_retry (hsound : start.Sound) (hm₀ : start.managers[i]? = some m₀)
    (hretry : m₀.retry = some id) : start.Fires i id := by
  intro turns net m run hm
  have hpending : m.retry = some id ∨ (∃ t ∈ turns, t.reconnects i = true) ∨
      ∃ t ∈ turns, t.Grants i (.retry id) ∧ ∀ {m₁ m₂}, t.before.managers[i]? = some m₁ →
        t.after.managers[i]? = some m₂ → m₁.running = true → m₂.attempts = m₁.attempts + 1 := by
    induction run generalizing m with
    | start =>
      obtain rfl : m₀ = m := Option.some.inj (hm₀.symm.trans hm)
      exact .inl hretry
    | @turn turns t run valid ih =>
      obtain ⟨m₁, hm₁, -⟩ := valid.done hm
      rcases ih hm₁ with hpending | ⟨u, hu, hreconnects⟩ | ⟨u, hu, hgrants⟩
      · have hsound₁ := (run.sound hsound).control hm₁
        rcases (valid.course hm₁ hm).pending hm₁ hm hsound₁ hpending with
          hkept | hreconnects | ⟨hgrants, hattempts⟩
        · exact .inl hkept
        · exact .inr (.inl ⟨t, .head _, hreconnects⟩)
        · refine .inr (.inr ⟨t, .head _, hgrants, fun {n₁ n₂} hn₁ hn₂ => ?_⟩)
          obtain rfl : m₁ = n₁ := Option.some.inj (hm₁.symm.trans hn₁)
          obtain rfl : m = n₂ := Option.some.inj (hm.symm.trans hn₂)
          exact hattempts
      · exact .inr (.inl ⟨u, .tail _ hu, hreconnects⟩)
      · exact .inr (.inr ⟨u, .tail _ hu, hgrants⟩)
  refine hpending.imp_left fun hkept => pends hm ?_
  rw [((run.sound hsound).control hm).retries, hkept]
  simp

/-! ### Retries that were cancelled -/

/-- A retry that was scheduled earlier and is not pending. -/
def Spent (id : Nat) (c : Control) : Prop := id < c.retries ∧ c.retry ≠ some id

theorem Turn.Valid.retries (valid : t.Valid Others) (hm : t.before.managers[i]? = some m)
    (hm' : t.after.managers[i]? = some m') :
    m'.retries = m.retries ∧ (m'.retry = m.retry ∨ m'.retry = none) ∨
      m'.retries = m.retries + 1 ∧ m'.retry = some m.retries := by
  obtain ⟨m₁, hm₁, hdoes⟩ := valid.does hm
  obtain rfl : m₁ = m' := Option.some.inj (hm₁.symm.trans hm')
  rcases hdoes.change with ⟨-, hchange⟩ | ⟨-, rfl⟩
  · exact hchange.retries
  · exact .inl ⟨rfl, .inl rfl⟩

/-- The pending retry is an earlier one than the next. -/
theorem Run.retry_lt (run : Run Others start turns net) (hnew : start.IsNew)
    (hm : net.managers[i]? = some m) (hretry : m.retry = some id) : id < m.retries := by
  induction run generalizing m with
  | start =>
    obtain ⟨settings, hcontrol⟩ := hnew.control hm
    simp [hcontrol] at hretry
  | @turn turns t run valid ih =>
    obtain ⟨m₁, hm₁, -⟩ := valid.done hm
    rcases valid.retries hm₁ hm with ⟨hsame, hkept | hnone⟩ | ⟨hnext, hnewest⟩
    · rw [hsame]
      exact ih hm₁ (hkept.symm.trans hretry)
    · simp [hnone] at hretry
    · obtain rfl : m₁.retries = id := Option.some.inj (hnewest.symm.trans hretry)
      omega

theorem Run.spent (run : Run Others start turns net) (hm₀ : start.managers[i]? = some m₀)
    (hspent : Spent id m₀.toControl) (hm : net.managers[i]? = some m) : Spent id m.toControl := by
  induction run generalizing m with
  | start =>
    obtain rfl : m₀ = m := Option.some.inj (hm₀.symm.trans hm)
    exact hspent
  | @turn turns t run valid ih =>
    obtain ⟨m₁, hm₁, -⟩ := valid.done hm
    obtain ⟨hlt, hne⟩ := ih hm₁
    rcases valid.retries hm₁ hm with ⟨hsame, hkept | hnone⟩ | ⟨hnext, hnewest⟩
    · exact ⟨hsame ▸ hlt, hkept ▸ hne⟩
    · exact ⟨hsame ▸ hlt, by simp [hnone]⟩
    · refine ⟨by omega, fun hid => ?_⟩
      have hfresh : m₁.retries = id := Option.some.inj (hnewest.symm.trans hid)
      omega

/-- A retry that is not pending never has the lock. -/
theorem Run.not_grants (run : Run Others start turns net) (hsound : start.Sound)
    (hm₀ : start.managers[i]? = some m₀) (hspent : Spent id m₀.toControl) (ht : t ∈ turns) :
    ¬t.Grants i (.retry id) := by
  rintro ⟨-, m, rest, hm, hq⟩
  obtain ⟨later, earlier, rfl⟩ := List.append_of_mem ht
  obtain ⟨hbefore, -, -⟩ := run.cut
  have hpending := (((hbefore.sound hsound).control hm).of_queue_retry hq).1
  exact (hbefore.spent hm₀ hspent hm).2 hpending

/-! ### What a call to reconnect leaves behind -/

/-- The call returns an error.  All is as it was, but one more attempt was made. -/
structure Unharmed (i : Nat) (m : Manager) (turns : List Turn) (net : Network) (m' : Manager) : Prop where
  attempts : m'.attempts = m.attempts + 1
  running : m'.running = m.running
  connection : m'.connection = m.connection
  phase : m'.phase = m.phase
  retry : m'.retry = m.retry
  retries : m'.retries = m.retries
  exits : m'.exits = m.exits
  spares : ∀ t ∈ turns, t.SparesAt i
  timers : ∀ {id timer}, m.timers.get? id = some timer →
    m'.timers.get? id = some timer ∨ .retry id ∈ m'.queue
  queue : ∀ {id}, .retry id ∈ m.queue → .retry id ∈ m'.queue
  fires : ∀ {id}, m.retry = some id → net.Fires i id

/-- The call returns that there is a new connection.  The one before is closed, and no retry is pending; one
that was never has the lock. -/
structure Replaced (i : Nat) (before : Network) (m : Manager) (held : List Turn) (net : Network)
    (m' : Manager) : Prop where
  connection : ∃ new, m'.connection = some new ∧
    before.around.bus.connections.get? new = none ∧
      ∀ {old}, m.connection = some old → old < new ∧ net.around.bus.isClosed old = true
  retry : m'.retry = none
  waiting : m'.waitingRetries = []
  phase : m'.phase = .idle
  never : ∀ {id}, m.retry = some id → ∀ {later last}, Run Outside net later last →
    ∀ t ∈ later ++ held, ¬t.Grants i (.retry id)

/-- The call returns that there is none, as the manager does not run or has no bus to connect to. -/
structure Refused (ticket : Nat) (before : Network) (m : Manager) (held : List Turn) (net : Network)
    (m' : Manager) : Prop where
  unwanted : m.running = false ∨ m.settings.isEnabled = false
  held : held = []
  manager : m' = { m with
    queue := m.queue.tail, results := m.results.put ticket (.reconnected (.ok false)) }
  around : net.around = before.around

/-- What a call to reconnect leaves behind, by what it returns. -/
inductive Reconnected (i ticket : Nat) (granted : Turn) (m : Manager) (held : List Turn)
    (net : Network) (m' : Manager) : Except Manager.Error Bool → Prop
  | failed (reason : Bus.Error) (h : Unharmed i m (held ++ [granted]) net m') :
      Reconnected i ticket granted m held net m' (.error (.connect reason))
  | replaced (h : Replaced i granted.before m held net m') :
      Reconnected i ticket granted m held net m' (.ok true)
  | refused (h : Refused ticket granted.before m held net m') :
      Reconnected i ticket granted m held net m' (.ok false)

/-! ### The end of the attempt -/

namespace Turn

theorem Ending.reception (h : t.Ending i m w b) : b.reception = t.before.reception m := by
  cases h with
  | begun hmove free hq hb =>
    obtain ⟨notices, haround⟩ := hb.around
    unfold Scene.reception
    rw [hb.manager, haround]
    rfl
  | held a hmove ha hw hb =>
    rw [hb]
    rfl

theorem Ending.owns (h : t.Ending i m w b) (howns : (t.before.link m).Owns) : b.link.Owns := by
  cases h with
  | begun hmove free hq hb =>
    let a : Attempt := ⟨w, 0, false, 0⟩
    have hbegun := ((hb.serves (a := a) rfl).owns_follows (howns.of_queue _)).1
    exact { hbegun with }
  | held a hmove ha hw hb =>
    subst hb
    exact { howns with }

/-- A turn in which only the attempt changes. -/
theorem Ending.spares (h : t.Ending i m w b)
    (hconnections : t.after.around.bus.connections = b.around.bus.connections)
    (hreception : t.after.reception m' = b.reception) : t.Spares i m m' where
  connections _ := hconnections.trans (congrArg Registry.connections h.prepared.registry)
  reception _ _ := hreception.trans h.reception

/-- The lock is free when it is given to a waiter. -/
theorem Grants.free (h : t.Grants i w) (valid : t.Valid Others)
    (hm : t.before.managers[i]? = some m) : m.attempt = none := by
  obtain ⟨hmove, -⟩ := h
  obtain ⟨m₁, s, hm₁, hs, -⟩ := onManager_eq_some (valid.step?_eq hmove)
  obtain rfl : m₁ = m := Option.some.inj (hm₁.symm.trans hm)
  obtain ⟨-, -, free, -⟩ := grant_serves hs
  exact free

end Turn

/-- The connections on the bus do not become fewer. -/
theorem Run.length_le (run : Run Outside start turns net) (h : start.Registered)
    (hm : start.managers[i]? = some m) :
    start.around.bus.connections.length ≤ net.around.bus.connections.length := by
  induction run with
  | start => exact Nat.le_refl _
  | @turn turns t run valid ih =>
    have hi : i < t.before.managers.length := by
      rw [run.length_managers]
      exact (List.getElem?_eq_some_iff.mp hm).1
    have hgrows := valid.grows (run.registered h) (List.getElem?_eq_getElem hi)
    exact Nat.le_trans ih hgrows.length_le

/-- An attempt that ends at once does not hold the lock in any turn. -/
theorem Run.eq_nil_of_free (run : Run Others start turns net)
    (hm₀ : start.managers[i]? = some m₀) (free : m₀.attempt = none)
    (hheld : ∀ t ∈ turns, ∀ m, t.before.managers[i]? = some m → m.attempt ≠ none) : turns = [] := by
  induction run with
  | start => rfl
  | @turn turns t run valid ih =>
    obtain rfl := ih fun t ht => hheld t (.tail _ ht)
    cases run
    exact absurd free (hheld t (.head _) m₀ hm₀)

theorem not_wanted {s u : Link} {ticket : Nat} (h : Link.Serves (.call ticket .reconnect) s u)
    (hattempts : u.control.attempts = s.control.attempts) : ¬s.control.Wanted := by
  cases h with
  | connect a hw => simp [Waiter.connects] at hw
  | reconnect => exact absurd hattempts (Nat.succ_ne_self _)
  | stop ticket hw => simp at hw
  | lose hw => simp at hw
  | idle hidle => exact hidle

section Reconnecting

variable {granted : Turn} {ticket : Nat} {rest : List Waiter}
  (valid : granted.Valid Outside) (hafter : Run Outside granted.after held net)
  (hmove : granted.move = .step (.grant i)) (hm : granted.before.managers[i]? = some m)
  (hq : m.queue = .call ticket .reconnect :: rest) (hm' : net.managers[i]? = some m')
  (hheld : ∀ t ∈ held, ∀ m, t.before.managers[i]? = some m → m.attempt ≠ none)
  (free : m'.attempt = none)

include valid hafter hmove hm hq hm' hheld free

/-- The call is refused, or its attempt ends in the last turn and all is spared before. -/
theorem reconnect_ends :
    Refused ticket granted.before m held net m' ∨
      ∃ last between m₁ b, held ++ [granted] = last :: between ∧ net = last.after ∧
        (∀ t ∈ between, t.SparesAt i) ∧ last.before.managers[i]? = some m₁ ∧
        ({ m.toControl with queue := rest, attempts := m.attempts + 1 } : Control).Holds
          b.manager.toControl ∧
        last.Ending i m₁ (.call ticket .reconnect) b ∧
        Scene.Ends (.call ticket .reconnect) b ⟨m', net.around⟩ := by
  obtain ⟨m₀, hm₀, -⟩ := valid.does hm
  have hholder : granted.holder? i = some (.call ticket .reconnect) :=
    Turn.holder?_grant hmove hm hq
  have hcontrol {b : Scene} {rest' : List Waiter} (hb : Begins (.call ticket .reconnect)
      ⟨{ m with queue := rest' }, granted.before.around⟩ b) : b.manager.toControl =
        { m.toControl with queue := rest', attempts := m.attempts + 1 } :=
    congrArg (·.toControl) hb.manager
  cases valid.course hm hm₀ with
  | @rests w rest' hmove' hfree hq' h hattempts hreplaces =>
    obtain ⟨rfl, rfl⟩ := List.cons.inj (hq'.symm.trans hq)
    obtain ⟨haround, hmanager⟩ := hreplaces ticket rfl
    obtain rfl : held = [] := hafter.eq_nil_of_free hm₀ (hmanager ▸ hfree) hheld
    cases hafter
    obtain rfl : m₀ = m' := Option.some.inj (hm₀.symm.trans hm')
    have hunwanted := not_wanted h hattempts
    refine .inl ⟨?_, rfl, ?_, haround⟩
    · cases hrunning : m.running with
      | true => exact .inr (by simpa [Control.Wanted, link, hrunning] using hunwanted)
      | false => exact .inl rfl
    · rw [hmanager, hq]
      rfl
  | @begins w rest' b hmove' hfree hq' hb a ha h =>
    obtain ⟨rfl, rfl⟩ := List.cons.inj (hq'.symm.trans hq)
    have hheld₀ : m₀.attempt = some a := congrArg (·.manager.attempt) h
    rcases hafter.holds hm₀ hheld₀ hheld hm' with
      ⟨hholds, -⟩ | ⟨last, between, m₁, rfl, hm₁, hholds, hspares, hending, hends⟩
    · have hsame : m'.attempt = m₀.attempt := congrArg (·.attempt) hholds.same
      simp [hsame, hheld₀] at free
    · have hbegun : ({ m₀.toControl with attempt := none } : Control) =
          { m.toControl with queue := rest', attempts := m.attempts + 1 } := by
        have hscene : m₀.toControl = { b.manager.toControl with attempt := some a } :=
          congrArg (·.manager.toControl) h
        rw [hscene, hcontrol hb, ← hfree]
      have hgranted : granted.SparesAt i := by
        refine Turn.Spares.at ((Turn.Ending.begun hmove hfree hq' hb).spares ?_ ?_) hm hm₀
        · exact congrArg (·.around.bus.connections) h
        · exact (congrArg Scene.reception h).trans rfl
      cases hafter
      rw [ha] at hending hends
      refine .inr ⟨last, between ++ [granted], m₁, _, rfl, rfl, ?_, hm₁, ?_, hending, hends⟩
      · simpa [or_imp, forall_and] using ⟨hspares, hgranted⟩
      · exact hbegun ▸ hholds.freed
  | @ends w b hending hends =>
    cases hending with
    | @begun rest' hmove' hfree hq' hb =>
      obtain ⟨rfl, rfl⟩ := List.cons.inj (hq'.symm.trans hq)
      have hending := Turn.Ending.begun hmove hfree hq' hb
      obtain rfl : held = [] :=
        hafter.eq_nil_of_free hm₀ (hending.settled hends).free hheld
      cases hafter
      obtain rfl : m₀ = m' := Option.some.inj (hm₀.symm.trans hm')
      refine .inr ⟨granted, [], m, b, rfl, rfl, by simp, hm, ?_, hending, hends⟩
      rw [hcontrol hb]
      exact .refl _
    | held a hmove' => simp [hmove] at hmove'
  | wakes hmove' => simp [hmove] at hmove'
  | waits hnone => simp [hholder] at hnone
  | quits hnone => simp [hholder] at hnone

end Reconnecting

/-- Where only the results change as the attempt ends, all is as it was. -/
theorem Unharmed.of_holds {ticket : Nat} {rest : List Waiter}
    (h : ({ m.toControl with queue := rest, attempts := m.attempts + 1 } : Control).Holds
      m'.toControl) (hq : m.queue = .call ticket .reconnect :: rest)
    (hspares : ∀ t ∈ turns, t.SparesAt i) (hsound : net.Sound)
    (hm' : net.managers[i]? = some m') : Unharmed i m turns net m' where
  attempts := congrArg (·.attempts) h.same
  running := congrArg (·.running) h.same
  connection := congrArg (·.connection) h.same
  phase := congrArg (·.phase) h.same
  retry := congrArg (·.retry) h.same
  retries := congrArg (·.retries) h.same
  exits := congrArg (·.exits) h.same
  spares := hspares
  timers := h.timers
  queue {id} hid := by
    rw [hq] at hid
    rcases List.mem_cons.mp hid with heq | hrest
    · simp at heq
    · exact h.queue.subset hrest
  fires hretry := fires_of_retry hsound hm' ((congrArg (·.retry) h.same).trans hretry)

/-- The connection that is replaced has an earlier number, and is closed. -/
theorem closed_of_renewed {s u : Link} (h : s.Owns) {old : Nat}
    (hold : s.control.connection = some old)
    (hregistry : u.registry = s.entering.closeAny s.control.connection) :
    old < s.registry.nextId ∧ u.registry.isClosed old = true := by
  obtain ⟨c, hget, -⟩ := h.current hold
  have hlt : old < s.registry.nextId := Nat.lt_succ_of_le (h.numbered.le_length hget)
  refine ⟨hlt, ?_⟩
  rw [Registry.isClosed, hregistry, Link.get?_renewed, if_neg (Nat.ne_of_gt hlt), hget, hold]
  simp

theorem Replaced.of_link {before : Network} {rest : List Waiter}
    (h : ({ m.toControl with queue := rest, attempts := m.attempts + 1 } : Control).Holds
      b.manager.toControl) (howns : b.link.Owns)
    (hlink : net.link m' = {
      control := { b.link.control.cancelRetry with
        connection := some b.link.registry.nextId, phase := .idle }
      registry := b.link.entering.closeAny b.link.control.connection })
    (hnumbered : before.around.bus.Numbered)
    (hlength : before.around.bus.connections.length ≤ b.around.bus.connections.length)
    (hlt : ∀ {id}, m.retry = some id → id < m.retries) (hsound : net.Sound)
    (hm' : net.managers[i]? = some m') (hheld : ∀ t ∈ held, ∀ id, ¬t.Grants i (.retry id)) :
    Replaced i before m held net m' := by
  rw [Control.cancelRetry_eq] at hlink
  have hretry : m'.retry = none := congrArg (·.control.retry) hlink
  have hretries : m'.retries = b.manager.retries := congrArg (·.control.retries) hlink
  constructor
  case connection =>
    refine ⟨b.link.registry.nextId, congrArg (·.control.connection) hlink, ?_, fun {old} hold => ?_⟩
    · cases hget : before.around.bus.connections.get? b.link.registry.nextId with
      | none => rfl
      | some c =>
        have hle : b.around.bus.connections.length + 1 ≤ before.around.bus.connections.length :=
          hnumbered.le_length hget
        omega
    · have hsame : b.manager.connection = m.connection := congrArg (·.connection) h.same
      exact closed_of_renewed howns (hsame.trans hold) (congrArg (·.registry) hlink)
  case retry => exact hretry
  case waiting =>
    rw [(hsound.control hm').retries, hretry]
    rfl
  case phase => exact congrArg (·.control.phase) hlink
  case never =>
    intro id hpending later last run t ht
    have hspent : Spent id m'.toControl := by
      refine ⟨?_, by simp [hretry]⟩
      rw [hretries, show b.manager.retries = m.retries from congrArg (·.retries) h.same]
      exact hlt hpending
    rcases List.mem_append.mp ht with hlater | hearlier
    · exact run.not_grants hsound hm' hspent hlater
    · exact hheld t hearlier id

/-- A call to reconnect is all or nothing, whatever it finds and whatever happens while its attempt holds
the lock.  It gets the lock in the turn `granted` and has it in the turns `held`.  If it returns an error,
all is as it was but the count of attempts, and a pending retry still fires.  If it returns that there is
a new connection, the one before is closed and a retry that was pending makes no attempt.  If it returns
that there is none, the manager was not to be connected and nothing was done. -/
theorem Run.reconnect_all_or_nothing {ticket : Nat} {granted : Turn} {earlier : List Turn}
    (run : Run Outside start (held ++ granted :: earlier) net) (hnew : start.IsNew)
    (hgrants : granted.Grants i (.call ticket .reconnect))
    (hheld : ∀ t ∈ held, ∀ m, t.before.managers[i]? = some m → m.attempt ≠ none)
    (hm : granted.before.managers[i]? = some m) (hm' : net.managers[i]? = some m')
    (free : m'.attempt = none) :
    ∃ result, m'.results.get? ticket = some (.reconnected result) ∧
      Reconnected i ticket granted m held net m' result := by
  obtain ⟨hbefore, valid, hafter⟩ := run.cut
  obtain ⟨hmove, m₂, rest, hm₂, hq⟩ := hgrants
  obtain rfl : m₂ = m := Option.some.inj (hm₂.symm.trans hm)
  rcases reconnect_ends valid hafter hmove hm hq hm' hheld free with
    hrefused | ⟨last, between, m₁, b, hturns, rfl, hspares, hm₁, hholds, hending, hends⟩
  · refine ⟨.ok false, ?_, .refused hrefused⟩
    rw [hrefused.manager]
    exact (Table.get?_put ..).trans (if_pos rfl)
  · have hregistered := hbefore.registered hnew.registered
    have hsound := run.sound hnew.sound
    cases hends with
    | connected hw => simp [Waiter.replaces] at hw
    | failed hw => simp [Waiter.replaces] at hw
    | kept ticket' hw reason failing notices h =>
      obtain ⟨rfl, -⟩ := Waiter.call.inj hw
      obtain ⟨hmanager, -⟩ := Scene.mk.inj h
      refine ⟨.error (.connect reason), ?_, .failed reason ?_⟩
      · rw [hmanager]
        exact (Table.get?_put ..).trans (if_pos rfl)
      · have hlast : last.Spares i m₁ m' := by
          refine hending.spares ?_ ?_
          · exact congrArg (·.around.bus.connections) h
          · exact (congrArg Scene.reception h).trans rfl
        rw [hturns]
        refine .of_holds (hmanager ▸ hholds) hq ?_ hsound hm'
        exact List.forall_mem_cons.mpr ⟨hlast.at hm₁ hm', hspares⟩
    | replaced ticket' hw hlink hresult =>
      obtain ⟨rfl, -⟩ := Waiter.call.inj hw
      have hlocked : ∀ t ∈ held, ∀ id, ¬t.Grants i (.retry id) := by
        intro t ht n hgrants
        obtain ⟨-, m₃, -, hm₃, -⟩ := id hgrants
        obtain ⟨later, first, hparts⟩ := List.append_of_mem ht
        have hvalid : t.Valid Outside := (hparts ▸ hafter).cut.2.1
        exact hheld t ht m₃ hm₃ (hgrants.free hvalid hm₃)
      have hall : Run Outside granted.before ([] ++ last :: between) last.after :=
        hturns ▸ (Run.start.turn valid).trans hafter
      obtain ⟨hbetween, -, -⟩ := hall.cut
      have howns := (((hbetween.registered hregistered).registry hm₁).toOwns)
      refine ⟨.ok true, hresult, .replaced (.of_link hholds (hending.owns howns) hlink
        (hregistered.registry hm).numbered ?_ (hbefore.retry_lt hnew hm) hsound hm' hlocked)⟩
      rw [hending.prepared.registry]
      exact hbetween.length_le hregistered hm

/-- A retry is pending as a call to reconnect gets the lock.  Its time comes while the attempt of the call
holds the lock, and the attempt is given up.  The retry waits for the lock then, and still fires. -/
theorem Run.elapsed_retry_fires : ∃ turns net m, ∃ t ∈ turns,
    Run Outside (ofSettings [{ servers := ["bus://a"] }]) turns net ∧ net.managers[0]? = some m ∧
      t.move = .step (.wake 0 0) ∧ (t.before.managers[0]?.bind (·.attempt)).isSome = true ∧
        m.retry = some 0 ∧ m.attempts = 2 ∧ net.Fires 0 0 := by
  have hnew : (ofSettings [{ servers := ["bus://a"] }]).IsNew := isNew_ofSettings (by simp; rfl)
  obtain ⟨held, granted, earlier, net, m, m', run, hgrants, hheld, hm, hm', free, hretry, hattempts,
      ⟨t, ht, hwakes, hlocked⟩, reason, hresult⟩ : ∃ held granted earlier net m m',
        Run Outside (ofSettings [{ servers := ["bus://a"] }]) (held ++ granted :: earlier) net ∧
        granted.Grants 0 (.call 1 .reconnect) ∧
        (∀ t ∈ held, t.before.managers[0]?.map (·.attempt.isSome) = some true) ∧
        granted.before.managers[0]? = some m ∧ net.managers[0]? = some m' ∧ m'.attempt = none ∧
        m.retry = some 0 ∧ m.attempts = 1 ∧
        (∃ t ∈ held, t.move = .step (.wake 0 0) ∧
          (t.before.managers[0]?.bind (·.attempt)).isSome = true) ∧
        ∃ reason, m'.results.get? 1 = some (.reconnected (.error reason)) :=
    ⟨[_, _, _], _, [_, _, _, _, _], _, _, _, ((((((((Run.start.others (.fail 1)).step
      (.request 0 0 .start) rfl).step (.grant 0) rfl).others (.delay (some 3000))).step
        (.request 0 1 .reconnect) rfl).step (.grant 0) rfl).step (.tick 2000) rfl).step (.wake 0 0)
          rfl).step (.finish 0) rfl, ⟨rfl, _, _, rfl, rfl⟩, by decide, rfl, rfl, rfl, rfl, rfl,
      ⟨_, List.Mem.tail _ (List.Mem.head _), rfl, rfl⟩, _, rfl⟩
  have hbusy : ∀ t ∈ held, ∀ m, t.before.managers[0]? = some m → m.attempt ≠ none := by
    intro t ht m hm hnone
    have hsome := hheld t ht
    simp [hm, hnone] at hsome
  obtain ⟨result, hreturned, hreconnected⟩ :=
    run.reconnect_all_or_nothing hnew hgrants hbusy hm hm' free
  rw [hresult] at hreturned
  obtain rfl := Result.reconnected.inj (Option.some.inj hreturned)
  cases hreconnected with
  | failed reason h =>
    exact ⟨_, net, m', t, List.mem_append_left _ ht, run, hm', hwakes, hlocked,
      h.retry.trans hretry, h.attempts.trans (congrArg (· + 1) hattempts), h.fires hretry⟩

end Network

end ClaimRelay
