import ClaimRelay.Proofs.Network.Sound

/-! No manager is stranded.  Whatever others do, and in whatever order calls, retries and events come,
a manager that runs and has a bus to connect to has a connection or a retry that is going to be made,
whenever no attempt holds its lock; a stopped manager has neither a connection nor an attempt until it
is started again. -/

namespace ClaimRelay

open Manager

namespace Manager.Control

/-- The pending retry waits for its time or for the lock, so that it is going to be made. -/
def RetryWaits (c : Control) : Prop :=
  ∃ id, c.retry = some id ∧ ((c.timers.get? id).isSome ∨ Waiter.retry id ∈ c.queue)

theorem Tidy.retryWaits {c : Control} (h : c.Tidy) (hretry : c.retry.isSome) : c.RetryWaits := by
  obtain ⟨id, hid⟩ := Option.isSome_iff_exists.mp hretry
  have hmem : id ∈ c.waitingRetries := by simp [h.retries, hid]
  refine ⟨id, hid, ?_⟩
  rcases List.mem_append.mp hmem with htimer | hqueue
  · exact .inl ((Table.isSome_get? c.timers id).mpr htimer)
  · obtain ⟨w, hw, hretry⟩ := List.mem_filterMap.mp hqueue
    cases w with
    | retry id' =>
      obtain rfl := Option.some.inj hretry
      exact .inr hw
    | _ => simp [Waiter.retry?] at hretry

end Manager.Control

namespace Network

variable {Others : Network → Surroundings → Prop} {start net net' : Network} {i : Nat} {m : Manager}
  {t : Turn} {turns later : List Turn}

/-- A call to start the manager at place `i` gets the lock. -/
def Turn.Starts (t : Turn) (i : Nat) : Prop :=
  t.move = .step (.grant i) ∧ ∃ m ticket rest,
    t.before.managers[i]? = some m ∧ m.queue = .call ticket .start :: rest

theorem Turn.Valid.stopped (valid : t.Valid Others) (hsound : t.before.Sound)
    (hm : t.before.managers[i]? = some m) (hstop : m.running = false) (hstarts : ¬t.Starts i) :
    ∃ m', t.after.managers[i]? = some m' ∧ m'.running = false ∧ m'.attempts = m.attempts := by
  obtain ⟨m', hm', hdoes⟩ := valid.does hm
  refine ⟨m', hm', ?_⟩
  cases hdoes with
  | @grant w rest hmove hq free hserved =>
    refine hserved.stopped (fun ticket hw => hstarts ?_) hstop free
    exact ⟨hmove, m, ticket, rest, hm, hw ▸ hq⟩
  | aside _ _ haside => exact haside.stopped (hsound.control hm) hstop
  | others _ h => exact ⟨h ▸ hstop, h ▸ rfl⟩

/-- A stopped manager begins no attempt until a call to start it gets the lock. -/
theorem Run.stopped (run : Run Others net later net') (hsound : net.Sound)
    (hm : net.managers[i]? = some m) (hstop : m.running = false)
    (hstarts : ∀ t ∈ later, ¬t.Starts i) :
    ∃ m', net'.managers[i]? = some m' ∧ m'.running = false ∧ m'.attempts = m.attempts := by
  induction run with
  | start => exact ⟨m, hm, hstop, rfl⟩
  | @turn turns t run valid ih =>
    obtain ⟨hlast, hothers⟩ := List.forall_mem_cons.mp hstarts
    obtain ⟨mid, hmid, hmidStop, hmidAttempts⟩ := ih hothers
    obtain ⟨m', hm', hstop', hattempts⟩ :=
      valid.stopped (run.sound hsound) hmid hmidStop hlast
    exact ⟨m', hm', hstop', hattempts.trans hmidAttempts⟩

theorem Sound.attempt_eq_none (h : net.Sound) (hm : net.managers[i]? = some m)
    (hunwanted : ¬m.Wanted) : m.attempt = none := by
  cases ha : m.attempt with
  | none => rfl
  | some a => exact absurd ((h.control hm).held a ha).wanted hunwanted

/-- A manager is never stranded.  When no attempt holds its lock, a manager that has not ended, runs and
has a bus to connect to has a connection or a retry that is going to be made; a stopped one has no
connection, and begins no attempt until a call to start it gets the lock; and one without a bus never
tries. -/
theorem Run.never_stranded (run : Run Others start turns net) (hnew : start.IsNew)
    (hm : net.managers[i]? = some m) :
    (m.attempt = none → m.life ≠ .ended → m.running = true → m.settings.isEnabled = true →
      m.connection.isSome ∨ m.RetryWaits) ∧
    (m.running = false → m.connection = none ∧
      ∀ {later : List Turn} {net' : Network}, Run Others net later net' →
        (∀ t ∈ later, ¬t.Starts i) → ∃ m', net'.managers[i]? = some m' ∧ m'.running = false ∧
          m'.connection = none ∧ m'.attempt = none ∧ m'.attempts = m.attempts) ∧
    (m.settings.isEnabled = false → m.attempts = 0 ∧ m.attempt = none ∧ m.connection = none ∧
      m.retries = 0 ∧ m.retry = none ∧ m.timers = []) := by
  have hsound := run.sound hnew.sound
  have hcontrol := hsound.control hm
  refine ⟨fun free alive running enabled => ?_, fun hstop => ⟨hcontrol.stopped hstop, ?_⟩,
    fun disabled => ?_⟩
  · rcases hcontrol.provided free alive ⟨running, enabled⟩ with hconnection | hretry
    · exact .inl hconnection
    · exact .inr (hcontrol.retryWaits hretry)
  · intro later net' more hstarts
    obtain ⟨m', hm', hstop', hattempts⟩ := more.stopped hsound hm hstop hstarts
    have hsound' := more.sound hsound
    have hunwanted : ¬m'.Wanted := fun wanted => by simp [wanted.1] at hstop'
    exact ⟨m', hm', hstop', (hsound'.control hm').stopped hstop',
      hsound'.attempt_eq_none hm' hunwanted, hattempts⟩
  · obtain ⟨hattempts, hretries, hconnection, hretry⟩ := hcontrol.disabled disabled
    have hunwanted : ¬m.Wanted := fun wanted => by simp [wanted.2] at disabled
    exact ⟨hattempts, hsound.attempt_eq_none hm hunwanted, hconnection, hretries, hretry,
      (hcontrol.timers_of_retry_none hretry).1⟩

/-- After a failed first attempt, a retry is going to be made. -/
theorem Run.retry_waits_after_failure : ∃ turns net m,
    Run Outside (ofSettings [{ servers := ["bus://a"] }]) turns net ∧
      net.managers[0]? = some m ∧ m.attempts = 1 ∧ m.connection = none ∧ m.RetryWaits := by
  have hnew : (ofSettings [{ servers := ["bus://a"] }]).IsNew := isNew_ofSettings (by simp; rfl)
  obtain ⟨turns, net, m, run, hm, free, owned, running, enabled, hattempts, hnone⟩ :
      ∃ turns net m, Run Outside (ofSettings [{ servers := ["bus://a"] }]) turns net ∧
        net.managers[0]? = some m ∧ m.attempt = none ∧ m.life = .owned ∧ m.running = true ∧
          m.settings.isEnabled = true ∧ m.attempts = 1 ∧ m.connection = none :=
    ⟨_, _, _, ((Run.start.others (.fail 1)).step (.request 0 0 .start) rfl).step (.grant 0) rfl,
      rfl, rfl, rfl, rfl, rfl, rfl, rfl⟩
  have hprovided := (run.never_stranded hnew hm).1 free (by simp [owned]) running enabled
  exact ⟨turns, net, m, run, hm, hattempts, hnone, by simpa [hnone] using hprovided⟩

end Network

end ClaimRelay
