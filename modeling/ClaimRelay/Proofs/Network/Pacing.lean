import ClaimRelay.Proofs.Network.Attempts

/-! The pace of retries, and the account of attempts.  Each attempt to connect that fails schedules one
retry, and no other attempt to connect begins while that retry waits for its time. -/

namespace ClaimRelay

open Manager Manager.Scene Bus

/-- The attempt that holds the lock is made for a waiter that asks for a connection. -/
def Manager.Control.Asks (c : Control) : Prop :=
  ∀ a, c.attempt = some a → a.waiter.connects = true ∨ a.waiter.replaces = true

theorem Manager.Control.asks_of_none {c : Control} (h : c.attempt = none) : c.Asks := by
  intro a ha
  simp [h] at ha

namespace Network

variable {Others : Network → Surroundings → Prop} {start net : Network} {i : Nat} {m m' : Manager}
  {t : Turn} {turns : List Turn} {w : Waiter} {b : Scene}

namespace Turn

/-! ### What attempts are made for -/

theorem Ending.asks (h : t.Ending i m w b) (hasks : m.toControl.Asks) :
    w.connects = true ∨ w.replaces = true := by
  cases h with
  | begun hmove free hq hb => exact hb.asks.imp_left And.left
  | held a hmove ha hw hb => exact hw ▸ hasks a ha

theorem Course.asks (h : t.Course i m m') (hasks : m.toControl.Asks) : m'.toControl.Asks := by
  cases h with
  | rests hmove free hq h hattempts hreplaces =>
    exact Control.asks_of_none ((h.rests hattempts).attempt.trans free)
  | begins hmove free hq hb a ha h =>
    have hattempt : m'.attempt = some a := congrArg (·.manager.attempt) h
    intro a' ha'
    obtain rfl : a = a' := Option.some.inj (hattempt.symm.trans ha')
    exact ha ▸ hb.asks.imp_left And.left
  | ends hending hends => exact Control.asks_of_none (hending.settled hends).free
  | wakes hmove htimer due h haround =>
    rw [h]
    exact hasks
  | waits hholder h hspares =>
    rw [h.same]
    exact hasks
  | quits hholder free htimers h =>
    rw [h]
    exact hasks

end Turn

theorem Run.asks (run : Run Others start turns net) (hnew : start.IsNew)
    (hm : net.managers[i]? = some m) : m.toControl.Asks := by
  induction run generalizing m with
  | start =>
    obtain ⟨settings, hcontrol⟩ := hnew.control hm
    exact Control.asks_of_none (hcontrol ▸ rfl)
  | @turn turns t run valid ih =>
    obtain ⟨m₀, hm₀, -⟩ := valid.done hm
    exact (valid.course hm₀ hm).asks (ih hm₀)

namespace Turn

/-! ### How attempts end -/

/-- What becomes of the attempts of the manager at place `i` in a turn. -/
inductive Outcome (t : Turn) (i : Nat) (m m' : Manager) : Prop
  /-- No attempt ends. -/
  | none (hends : t.endsAttempt i = false) (hobtains : t.obtains i = false)
      (hfails : t.failsToReconnect i = false) (hretries : m'.retries = m.retries)
  | obtained (hends : t.endsAttempt i = true) (hobtains : t.obtains i = true)
      (hfails : t.failsToReconnect i = false) (hretries : m'.retries = m.retries)
  | scheduled {w : Waiter} (timer : Timer) (hdone : t.done? i = some w) (hw : w.connects = true)
      (hends : t.endsAttempt i = true) (hobtains : t.obtains i = false)
      (hfails : t.failsToReconnect i = false)
      (due : timer.due = t.before.around.now + m.settings.reconnectWait.toNat)
      (hretry : m'.retry = some m.retries) (hretries : m'.retries = m.retries + 1)
      (htimers : m'.timers = [(m.retries, timer)])
  | kept {w : Waiter} (hdone : t.done? i = some w) (hw : w.connects = false)
      (hends : t.endsAttempt i = true) (hobtains : t.obtains i = false)
      (hfails : t.failsToReconnect i = true) (hretries : m'.retries = m.retries)

section

variable (hbefore : t.before.Registered) (hm : t.before.managers[i]? = some m)
  (hm' : t.after.managers[i]? = some m')

include hbefore hm hm'

theorem obtains_eq_false (h : m'.connection = m.connection ∨ m'.connection = none) :
    t.obtains i = false := by
  unfold obtains
  rw [hm']
  rcases h with hsame | hnone
  · cases hc : m.connection with
    | none => simp [hsame, hc]
    | some id =>
      obtain ⟨c, hget, -⟩ := (hbefore.registry hm).current hc
      have hknown : t.before.around.bus.connections.get? id = some c := hget
      simp [hsame, hc, hknown]
  · simp [hnone]

theorem obtains_eq_true (h : m'.connection = some t.before.around.bus.nextId) :
    t.obtains i = true := by
  have hnone : t.before.around.bus.connections.get? t.before.around.bus.nextId = none :=
    (hbefore.registry hm).numbered.get?_nextId
  unfold obtains
  rw [hm']
  simp [h, hnone]

theorem Ending.outcome (h : t.Ending i m w b) (hends : Scene.Ends w b ⟨m', t.after.around⟩)
    (hasks : m.toControl.Asks) : t.Outcome i m m' := by
  have prepared := h.prepared
  have hsettled := h.settled hends
  have free : m'.attempt = Option.none := hsettled.free
  have hended : t.endsAttempt i = true := by
    have hattempts : m'.attempts = b.manager.attempts := hsettled.attempts
    rw [endsAttempt_eq hm hm', free, hattempts]
    rcases h.counted with ⟨hheld, -⟩ | ⟨-, hcounted⟩
    · simp [Option.isSome_iff_ne_none.mpr hheld]
    · simp [hcounted]
  have hdone : t.done? i = some w := (done?_eq hm' free).trans (h.holder? hm)
  have hreturns := h.returns? hends hm hm'
  have hnext : b.link.registry.nextId = t.before.around.bus.nextId :=
    congrArg Registry.nextId prepared.registry
  cases hends with
  | connected hw hlink =>
    refine .obtained hended (obtains_eq_true hbefore hm hm' ?_) ?_ ?_
    · rw [← hnext]
      exact congrArg (·.control.connection) hlink
    · rw [failsToReconnect, hreturns, Waiter.returns?_of_connects hw]
    · exact (congrArg (·.control.retries) hlink).trans prepared.retries
  | failed hw hlink =>
    have hconnection : m'.connection = m.connection :=
      (congrArg (·.control.connection) hlink).trans prepared.connection
    have hretries : b.link.control.retries = m.retries := prepared.retries
    have htimers : b.link.control.timers = [] :=
      prepared.timers.trans (h.timers_eq_nil (hbefore.control hm) hw)
    refine .scheduled b.retryTimer hdone ((h.asks hasks).resolve_right (by simp [hw])) hended
      (obtains_eq_false hbefore hm hm' (.inl hconnection)) ?_ ?_ ?_ ?_ ?_
    · rw [failsToReconnect, hreturns, Waiter.returns?_of_connects hw]
    · rw [retryTimer, prepared.now, prepared.settings]
    · rw [← hretries]
      exact congrArg (·.control.retry) hlink
    · rw [← hretries]
      exact congrArg (·.control.retries) hlink
    · have hscheduled : m'.timers =
          b.link.control.timers ++ [(b.link.control.retries, b.retryTimer)] :=
        congrArg (·.control.timers) hlink
      rw [hscheduled, htimers, hretries]
      rfl
  | replaced ticket hw hlink hresult =>
    rw [Control.cancelRetry_eq] at hlink
    refine .obtained hended (obtains_eq_true hbefore hm hm' ?_) ?_ ?_
    · rw [← hnext]
      exact congrArg (·.control.connection) hlink
    · rw [failsToReconnect, hreturns, hw, Waiter.returns?, hresult]
    · exact (congrArg (·.control.retries) hlink).trans prepared.retries
  | kept ticket hw reason failing notices hkept =>
    obtain ⟨hmanager, -⟩ := Scene.mk.inj hkept
    have hresult : m'.results.get? ticket = some (.reconnected (.error (.connect reason))) := by
      rw [hmanager]
      exact (Table.get?_put ..).trans (if_pos rfl)
    refine .kept hdone (by simp [hw, Waiter.connects]) hended
      (obtains_eq_false hbefore hm hm' (.inl ?_)) ?_ ?_
    · rw [hmanager]
      exact prepared.connection
    · rw [failsToReconnect, hreturns, hw, Waiter.returns?, hresult]
    · rw [hmanager]
      exact prepared.retries

theorem Course.outcome (h : t.Course i m m') (hasks : m.toControl.Asks) : t.Outcome i m m' := by
  -- Where no attempt ends, nothing is returned but the refusal of a stopped manager.
  have hnone (hattempts : m'.attempts = m.attempts) (hattempt : m'.attempt = m.attempt)
      (hconnection : m'.connection = m.connection ∨ m'.connection = Option.none)
      (hretries : m'.retries = m.retries) (hfails : t.failsToReconnect i = false) :
      t.Outcome i m m' := by
    refine .none ?_ (obtains_eq_false hbefore hm hm' hconnection) hfails hretries
    rw [endsAttempt_eq hm hm', hattempts, hattempt]
    cases m.attempt <;> simp
  have hidle (hholder : t.holder? i = Option.none) : t.failsToReconnect i = false := by
    rw [failsToReconnect, returns?_eq_none (done?_eq_none hm' (.inl hholder))]
  cases h with
  | @rests w rest hmove free hq h hattempts hreplaces =>
    have hrests := h.rests hattempts
    have hfreed : m'.attempt = Option.none := hrests.attempt.trans free
    refine hnone hattempts (hfreed.trans free.symm) hrests.connection hrests.retries ?_
    rw [failsToReconnect, returns?_eq hm' hfreed (holder?_grant hmove hm hq)]
    cases hw : w.replaces with
    | true =>
      obtain ⟨ticket, rfl⟩ := Waiter.replaces_eq_true hw
      rw [(hreplaces ticket rfl).2, Waiter.returns?, Table.get?_put, if_pos rfl]
    | false => rw [Waiter.returns?_of_connects hw]
  | @begins w rest b hmove free hq hb a ha h =>
    have hheld : m'.attempt = some a := congrArg (·.manager.attempt) h
    have prepared := (Ending.begun hmove free hq hb).prepared
    have hconnection : m'.connection = b.manager.connection := congrArg (·.manager.connection) h
    have hretries : m'.retries = b.manager.retries := congrArg (·.manager.retries) h
    refine .none ?_ (obtains_eq_false hbefore hm hm' (.inl ?_)) ?_ ?_
    · rw [endsAttempt_eq hm hm', hheld]
      simp
    · exact hconnection.trans prepared.connection
    · rw [failsToReconnect, returns?_eq_none (done?_eq_none hm' (.inr (by simp [hheld])))]
    · exact hretries.trans prepared.retries
  | ends hending hends => exact hending.outcome hbefore hm hm' hends hasks
  | wakes hmove htimer due h haround =>
    have hholder : t.holder? i = Option.none :=
      holder?_eq_none (by simp [hmove]) (by simp [hmove])
    exact hnone (h ▸ rfl) (h ▸ rfl) (.inl (h ▸ rfl)) (h ▸ rfl) (hidle hholder)
  | waits hholder h hspares =>
    exact hnone (congrArg (·.attempts) h.same) (congrArg (·.attempt) h.same)
      (.inl (congrArg (·.connection) h.same)) (congrArg (·.retries) h.same) (hidle hholder)
  | quits hholder free htimers h =>
    exact hnone (congrArg (·.attempts) h) (congrArg (·.attempt) h)
      (.inr (congrArg (·.connection) h)) (congrArg (·.retries) h) (hidle hholder)

end

/-- Each attempt that ends is counted once. -/
theorem Outcome.tally (h : t.Outcome i m m') :
    (t.endsAttempt i).toNat =
        (t.obtains i).toNat + (t.failsToConnect i).toNat + (t.failsToReconnect i).toNat ∧
      m'.retries = m.retries + (t.failsToConnect i).toNat := by
  cases h <;> simp [failsToConnect, *]

/-- An attempt to connect that fails schedules a retry after the wait. -/
theorem Outcome.schedules (h : t.Outcome i m m') (hfails : t.failsToConnect i = true) :
    ∃ timer : Timer, timer.due = t.before.around.now + m.settings.reconnectWait.toNat ∧
      m'.retry = some m.retries ∧ m'.retries = m.retries + 1 ∧
        m'.timers = [(m.retries, timer)] := by
  cases h with
  | none hends => simp [failsToConnect, hends] at hfails
  | obtained _ hobtains => simp [failsToConnect, hobtains] at hfails
  | scheduled timer _ _ _ _ _ due hretry hretries htimers => exact ⟨timer, due, hretry, hretries, htimers⟩
  | kept hdone hw => simp [failsToConnect, hdone, hw] at hfails

/-! ### The pace -/

/-- Before the deadline a retry waits for a time that is not before it. -/
def Paced (deadline now : Nat) (c : Control) : Prop :=
  deadline ≤ now ∨ ∃ id timer, c.timers = [(id, timer)] ∧ deadline ≤ timer.due

theorem Course.timers (h : t.Course i m m') (hs : m.toControl.Sound)
    (hm : t.before.managers[i]? = some m) (hm' : t.after.managers[i]? = some m') :
    m'.timers = m.timers ∨ m.timers = [] ∨
      (∃ id timer, m.timers = [(id, timer)] ∧ timer.due ≤ t.before.around.now) ∨
        t.reconnects i = true := by
  cases h with
  | rests hmove free hq h hattempts hreplaces => exact .inl (h.rests hattempts).timers
  | begins hmove free hq hb a ha h =>
    have htimers : m'.timers = _ := congrArg (·.manager.timers) h
    exact .inl (htimers.trans (Ending.begun hmove free hq hb).prepared.timers)
  | ends hending hends =>
    have htimers := hending.prepared.timers
    cases hends with
    | connected hw hlink =>
      exact .inl ((congrArg (·.control.timers) hlink).trans htimers)
    | failed hw hlink => exact .inr (.inl (hending.timers_eq_nil hs hw))
    | replaced ticket hw hlink hresult =>
      subst hw
      exact .inr (.inr (.inr (hending.reconnects (.replaced ticket rfl hlink hresult) hm hm' hresult)))
    | kept ticket hw reason failing notices h =>
      exact .inl ((congrArg (·.manager.timers) h).trans htimers)
  | wakes hmove htimer due h haround =>
    obtain ⟨-, htimers, -⟩ := hs.of_timers htimer
    exact .inr (.inr (.inl ⟨_, _, htimers, due⟩))
  | waits hholder h hspares => exact .inl (congrArg (·.timers) h.same)
  | quits hholder free htimers h => exact .inl (congrArg (·.timers) h)

theorem Course.begins_timers (h : t.Course i m m') (hs : m.toControl.Sound)
    (hm : t.before.managers[i]? = some m) (hm' : t.after.managers[i]? = some m')
    (hbegins : t.beginsToConnect i = true) : m.timers = [] := by
  obtain ⟨hlt, w, hholder, hw⟩ : m.attempts < m'.attempts ∧
      ∃ w, t.holder? i = some w ∧ w.connects = true := by
    simpa [beginsToConnect, hm, hm', Option.any_eq_true] using hbegins
  have hending {w' : Waiter} {b : Scene} (h : t.Ending i m w' b) : m.timers = [] := by
    obtain rfl : w' = w := Option.some.inj ((h.holder? hm).symm.trans hholder)
    exact h.timers_eq_nil hs (Waiter.replaces_of_connects hw)
  cases h with
  | rests hmove free hq h hattempts hreplaces => omega
  | begins hmove free hq hb a ha h => exact hending (.begun hmove free hq hb)
  | ends h hends => exact hending h
  | wakes hmove htimer due h haround => simp [h] at hlt
  | waits hholder' => simp [hholder'] at hholder
  | quits hholder' => simp [hholder'] at hholder

theorem Valid.paced {deadline : Nat} (valid : t.Valid Outside) (hsound : t.before.Sound)
    (hm : t.before.managers[i]? = some m) (hm' : t.after.managers[i]? = some m')
    (hreconnects : t.reconnects i = false)
    (h : Paced deadline t.before.around.now m.toControl) :
    Paced deadline t.after.around.now m'.toControl := by
  have hnow := valid.now_le
  rcases h with hpast | ⟨id, timer, htimers, hdue⟩
  · exact .inl (Nat.le_trans hpast hnow)
  · rcases (valid.course hm hm').timers (hsound.control hm) hm hm' with
      hsame | hnil | ⟨id', timer', htimers', hdue'⟩ | hsuccess
    · exact .inr ⟨id, timer, hsame.trans htimers, hdue⟩
    · simp [hnil] at htimers
    · obtain ⟨rfl, rfl⟩ : id = id' ∧ timer = timer' := by simpa [htimers] using htimers'
      exact .inl (by omega)
    · simp [hreconnects] at hsuccess

end Turn

theorem Run.paced {deadline : Nat} (run : Run Outside start turns net) (hsound : start.Sound)
    (hm : start.managers[i]? = some m) (hm' : net.managers[i]? = some m')
    (hreconnects : ∀ t ∈ turns, t.reconnects i = false)
    (h : Turn.Paced deadline start.around.now m.toControl) :
    Turn.Paced deadline net.around.now m'.toControl := by
  induction run generalizing m' with
  | start =>
    obtain rfl : m = m' := Option.some.inj (hm.symm.trans hm')
    exact h
  | @turn turns t run valid ih =>
    obtain ⟨m₁, hm₁, -⟩ := valid.done hm'
    have hpaced := ih hm₁ fun t ht => hreconnects t (.tail _ ht)
    exact valid.paced (run.sound hsound) hm₁ hm' (hreconnects t (.head _)) hpaced

/-! ### The account -/

theorem Run.tally (run : Run Outside start turns net) (hnew : start.IsNew)
    (hm : net.managers[i]? = some m) :
    turns.countP (·.endsAttempt i) = turns.countP (·.obtains i) +
        turns.countP (·.failsToConnect i) + turns.countP (·.failsToReconnect i) ∧
      m.retries = turns.countP (·.failsToConnect i) := by
  induction run generalizing m with
  | start =>
    obtain ⟨settings, hcontrol⟩ := hnew.control hm
    rw [hcontrol]
    exact ⟨rfl, rfl⟩
  | @turn turns t run valid ih =>
    obtain ⟨m₀, hm₀, -⟩ := valid.done hm
    obtain ⟨hcount, hretries⟩ := ih hm₀
    obtain ⟨hended, hscheduled⟩ := ((valid.course hm₀ hm).outcome
      (run.registered hnew.registered) hm₀ hm (run.asks hnew hm₀)).tally
    simp only [countP_cons_toNat]
    omega

/-- A manager keeps its settings. -/
theorem Turn.Valid.settings (valid : t.Valid Others) (hm : t.before.managers[i]? = some m)
    (hm' : t.after.managers[i]? = some m') : m'.settings = m.settings := by
  obtain ⟨m₁, hm₁, hdoes⟩ := valid.does hm
  obtain rfl : m₁ = m' := Option.some.inj (hm₁.symm.trans hm')
  rcases hdoes.change with ⟨-, hchange⟩ | ⟨-, rfl⟩
  · exact hchange.constant.1
  · rfl

theorem Run.settings (run : Run Others start turns net) (hm : start.managers[i]? = some m)
    (hm' : net.managers[i]? = some m') : m'.settings = m.settings := by
  induction run generalizing m' with
  | start =>
    obtain rfl : m = m' := Option.some.inj (hm.symm.trans hm')
    rfl
  | turn run valid ih =>
    obtain ⟨m₁, hm₁, -⟩ := valid.done hm'
    exact (valid.settings hm₁ hm').trans (ih hm₁)

/-- Retries are paced and accounted for, whatever is asked of a manager and whatever happens on the bus.
An attempt that is made for a call to start or to connect, or for a retry, and fails, schedules one retry
for the end of the wait; until then no other such attempt begins, unless a call to reconnect is
successful first.  The retries scheduled are these failures.  Whenever the lock is free, each attempt has
made a connection, has scheduled a retry, or was made for a call to reconnect that returned an error. -/
theorem Run.retries_paced (run : Run Outside start turns net) (hnew : start.IsNew)
    (hm : net.managers[i]? = some m) :
    (∀ later failed earlier, turns = later ++ failed :: earlier → failed.failsToConnect i = true →
      (∃ m₁ m₂ timer, failed.before.managers[i]? = some m₁ ∧ failed.after.managers[i]? = some m₂ ∧
        m₂.retries = m₁.retries + 1 ∧ m₂.retry = some m₁.retries ∧
        m₂.timers = [(m₁.retries, timer)] ∧
        timer.due = failed.before.around.now + m.settings.reconnectWait.toNat) ∧
      ∀ last begun between, later = last ++ begun :: between → begun.beginsToConnect i = true →
        (∀ t ∈ between, t.reconnects i = false) →
        failed.before.around.now + m.settings.reconnectWait.toNat ≤ begun.before.around.now) ∧
    m.retries = turns.countP (·.failsToConnect i) ∧
    (m.attempt = none → m.attempts =
      turns.countP (·.obtains i) + m.retries + turns.countP (·.failsToReconnect i)) := by
  obtain ⟨hcount, hretries⟩ := run.tally hnew hm
  refine ⟨?_, hretries, fun free => ?_⟩
  · rintro later failed earlier rfl hfails
    obtain ⟨hbefore, valid, hafter⟩ := run.cut
    obtain ⟨m₁, hm₁⟩ := run.manager_before hm
    obtain ⟨m₂, hm₂, -⟩ := valid.does hm₁
    have hsound : failed.before.Sound := hbefore.sound hnew.sound
    have hcourse := valid.course hm₁ hm₂
    obtain ⟨timer, due, hretry, hnext, htimers⟩ := (hcourse.outcome
      (hbefore.registered hnew.registered) hm₁ hm₂ (hbefore.asks hnew hm₁)).schedules hfails
    have hsettings : m.settings = m₁.settings :=
      (hafter.settings hm₂ hm).trans (valid.settings hm₁ hm₂)
    rw [hsettings]
    refine ⟨⟨m₁, m₂, timer, hm₁, hm₂, hnext, hretry, htimers, due⟩, ?_⟩
    rintro last begun between rfl hbegins hreconnects
    -- The deadline of the retry stays ahead of the clock, or a retry waits for it.
    obtain ⟨hbetween, hbegun, -⟩ := hafter.cut
    obtain ⟨m₃, hm₃⟩ := hafter.manager_before hm
    obtain ⟨m₄, hm₄, -⟩ := hbegun.does hm₃
    have hsound₂ : failed.after.Sound := valid.sound hsound
    have hsound₃ := (hbetween.sound hsound₂).control hm₃
    have hpaced : Turn.Paced timer.due begun.before.around.now m₃.toControl :=
      hbetween.paced hsound₂ hm₂ hm₃ hreconnects (.inr ⟨_, timer, htimers, Nat.le_refl _⟩)
    have hfree := (hbegun.course hm₃ hm₄).begins_timers hsound₃ hm₃ hm₄ hbegins
    rw [← due]
    rcases hpaced with hpast | ⟨id, other, hwaits, -⟩
    · exact hpast
    · simp [hfree] at hwaits
  · have hended := run.count_attempts hnew hm
    rw [free] at hended
    rw [hended, hcount, hretries]
    simp

/-- A manager whose attempt fails is stopped and started again at once.  Its next attempt begins after the
wait, and makes a connection. -/
theorem Run.restarted_while_waiting : ∃ turns net m, ∃ failed ∈ turns, ∃ begun ∈ turns,
    Run Outside (ofSettings [{ servers := ["bus://a"] }]) turns net ∧ net.managers[0]? = some m ∧
      failed.failsToConnect 0 = true ∧ begun.beginsToConnect 0 = true ∧
        failed.before.around.now + m.settings.reconnectWait.toNat ≤ begun.before.around.now ∧
          m.retries = 1 ∧ m.attempts = 2 ∧
            turns.countP (·.obtains 0) + turns.countP (·.failsToReconnect 0) = 1 := by
  have hnew : (ofSettings [{ servers := ["bus://a"] }]).IsNew := isNew_ofSettings (by simp; rfl)
  obtain ⟨earlier, failed, between, begun, net, m, run, hm, hfails, hbegins, hreconnects, free,
      hretries, hattempts⟩ : ∃ earlier failed between begun net m,
        Run Outside (ofSettings [{ servers := ["bus://a"] }])
          (begun :: (between ++ failed :: earlier)) net ∧ net.managers[0]? = some m ∧
        failed.failsToConnect 0 = true ∧ begun.beginsToConnect 0 = true ∧
        (∀ t ∈ between, t.reconnects 0 = false) ∧ m.attempt = none ∧ m.retries = 1 ∧
        m.attempts = 2 :=
    ⟨[_, _], _, [_, _, _, _, _, _], _, _, _, (((((((((Run.start.others (.fail 1)).step
      (.request 0 0 .start) rfl).step (.grant 0) rfl).step (.request 0 1 .stop) rfl).step (.grant 0)
        rfl).step (.request 0 2 .start) rfl).step (.grant 0) rfl).step (.tick 2000) rfl).step
          (.wake 0 0) rfl).step (.grant 0) rfl, rfl, rfl, rfl, by decide, rfl, rfl, rfl⟩
  obtain ⟨hpaced, -, haccount⟩ := run.retries_paced hnew hm
  obtain ⟨-, hpace⟩ := hpaced (begun :: between) failed earlier rfl hfails
  have hwaited := hpace [] begun between rfl hbegins hreconnects
  have hcount := haccount free
  refine ⟨_, net, m, failed, by simp, begun, by simp, run, hm, hfails, hbegins, hwaited, hretries,
    hattempts, ?_⟩
  omega

end Network

end ClaimRelay
