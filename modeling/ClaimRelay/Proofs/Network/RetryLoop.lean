import ClaimRelay.Proofs.Network.Sound

/-! One retry loop for each manager.  An attempt begins only while no other one is in flight, so that
those begun are those that ended and at most one more.  The retries that wait, the retry that is stored
as pending, and the published phase are three copies of one fact, and agree at any time. -/

namespace ClaimRelay.Network

open Manager Manager.Scene

variable {Others : Network → Surroundings → Prop} {start net : Network} {i : Nat} {m m' : Manager}
  {t : Turn} {turns : List Turn}

/-- Whether an attempt of the manager at place `i` ends: one that was in flight, or one that began in
this turn. -/
def Turn.endsAttempt (t : Turn) (i : Nat) : Bool :=
  match t.before.managers[i]?, t.after.managers[i]? with
  | some m, some m' => (m.attempt.isSome || m.attempts < m'.attempts) && m'.attempt.isNone
  | _, _ => false

theorem Turn.endsAttempt_eq (hm : t.before.managers[i]? = some m)
    (hm' : t.after.managers[i]? = some m') :
    t.endsAttempt i =
      ((m.attempt.isSome || m.attempts < m'.attempts) && m'.attempt.isNone) := by
  unfold endsAttempt
  rw [hm, hm']

/-- A manager begins an attempt only while none is in flight. -/
theorem Turn.Valid.begins (valid : t.Valid Others) (hm : t.before.managers[i]? = some m)
    (hm' : t.after.managers[i]? = some m') (hbegins : m'.attempts ≠ m.attempts) :
    m'.attempts = m.attempts + 1 ∧ m.attempt = none := by
  obtain ⟨m₁, hm₁, hdoes⟩ := valid.does hm
  obtain rfl : m₁ = m' := Option.some.inj (hm₁.symm.trans hm')
  rcases hdoes.change with ⟨-, hchange⟩ | ⟨-, rfl⟩
  · rcases hchange.attempts with ⟨hsame, -⟩ | hnext
    · exact absurd hsame hbegins
    · exact hnext
  · exact absurd rfl hbegins

theorem Turn.Valid.count_attempts (valid : t.Valid Others) (hm : t.before.managers[i]? = some m)
    (hm' : t.after.managers[i]? = some m') :
    m'.attempts + m.attempt.isSome.toNat =
      m.attempts + (t.endsAttempt i).toNat + m'.attempt.isSome.toNat := by
  obtain ⟨m₁, hm₁, hdoes⟩ := valid.does hm
  obtain rfl : m₁ = m' := Option.some.inj (hm₁.symm.trans hm')
  have hends := endsAttempt_eq hm hm₁
  have hsteady (hattempts : m₁.attempts = m.attempts)
      (hattempt : m₁.attempt = m.attempt ∨ m₁.attempt = none) :
      m₁.attempts + m.attempt.isSome.toNat =
        m.attempts + (t.endsAttempt i).toNat + m₁.attempt.isSome.toNat := by
    rw [hends, hattempts]
    rcases hattempt with hsame | hnone
    · rw [hsame]
      cases m.attempt <;> simp
    · rw [hnone]
      cases m.attempt <;> simp
  rcases hdoes.change with ⟨-, hchange⟩ | ⟨-, rfl⟩
  · rcases hchange.attempts with ⟨hattempts, hattempt⟩ | ⟨hnext, free⟩
    · exact hsteady hattempts hattempt
    · have hcounted : m₁.attempts = m.attempts + 1 := hnext
      have hnone : m.attempt = none := free
      rw [hends, hcounted, hnone]
      cases m₁.attempt <;> simp
  · exact hsteady rfl (.inl rfl)

theorem Run.count_attempts (run : Run Others start turns net) (hnew : start.IsNew)
    (hm : net.managers[i]? = some m) :
    m.attempts = turns.countP (·.endsAttempt i) + m.attempt.isSome.toNat := by
  induction run generalizing m with
  | start =>
    obtain ⟨settings, hcontrol⟩ := hnew.control hm
    rw [hcontrol]
    rfl
  | @turn turns t run valid ih =>
    obtain ⟨m₀, hm₀, -⟩ := valid.done hm
    have hbefore := ih hm₀
    have hturn := valid.count_attempts hm₀ hm
    rw [countP_cons_toNat]
    omega

/-- One retry loop.  An attempt begins only while none is in flight, so that at any time the attempts
begun are those that ended, and one more if one is in flight.  The retries that wait for their time or
for the lock are the one that is stored as pending, if there is one; one is stored exactly while the
manager is in the phase of waiting to retry; and none is stored together with a connection.  Whenever
the lock is free the phase is not that of connecting. -/
theorem Run.one_retry_loop (run : Run Others start turns net) (hnew : start.IsNew)
    (hm : net.managers[i]? = some m) :
    (∀ t ∈ turns, ∀ {m₁ m₂}, t.before.managers[i]? = some m₁ → t.after.managers[i]? = some m₂ →
      m₂.attempts ≠ m₁.attempts → m₂.attempts = m₁.attempts + 1 ∧ m₁.attempt = none) ∧
    m.attempts = turns.countP (·.endsAttempt i) + (if m.attempt.isSome then 1 else 0) ∧
    m.waitingRetries = m.retry.toList ∧
    (m.retry.isSome ↔ m.phase = .waitingToRetry) ∧
    (m.retry.isSome → m.connection = none) ∧
    (m.attempt = none → m.phase ≠ .connecting) := by
  have hcontrol := (run.sound hnew.sound).control hm
  refine ⟨fun t ht m₁ m₂ hm₁ hm₂ hbegins => ?_, ?_, hcontrol.retries, hcontrol.waiting,
    hcontrol.apart, hcontrol.resting⟩
  · obtain ⟨later, earlier, rfl⟩ := List.append_of_mem ht
    exact run.cut.2.1.begins hm₁ hm₂ hbegins
  · rw [run.count_attempts hnew hm]
    cases m.attempt <;> rfl

/-- A retry whose time has come waits for the lock behind a call that replaces the connection.  The
call cancels it, so that none waits and two attempts were made and ended. -/
theorem Run.elapsed_retry_cancelled : ∃ turns net m,
    Run Outside (ofSettings [{ servers := ["bus://a"] }]) turns net ∧
      net.managers[0]? = some m ∧ (∃ t ∈ turns, t.move = .step (.wake 0 0)) ∧
        m.connection = some 1 ∧ m.waitingRetries = [] ∧ m.attempts = 2 ∧
          turns.countP (·.endsAttempt 0) = 2 := by
  have hnew : (ofSettings [{ servers := ["bus://a"] }]).IsNew := isNew_ofSettings (by simp; rfl)
  obtain ⟨turns, net, m, run, hm, hwoke, hconnection, hretry, hattempts, hfree⟩ :
      ∃ turns net m, Run Outside (ofSettings [{ servers := ["bus://a"] }]) turns net ∧
        net.managers[0]? = some m ∧ (∃ t ∈ turns, t.move = .step (.wake 0 0)) ∧
          m.connection = some 1 ∧ m.retry = none ∧ m.attempts = 2 ∧ m.attempt = none :=
    ⟨_, _, _, ((((((Run.start.others (.fail 1)).step (.request 0 0 .start) rfl).step (.grant 0)
      rfl).step (.request 0 1 .reconnect) rfl).step (.tick 5000) rfl).step (.wake 0 0) rfl).step
        (.grant 0) rfl, rfl, ⟨_, .tail _ (.head _), rfl⟩, rfl, rfl, rfl, rfl⟩
  obtain ⟨-, hcount, hwaiting, -⟩ := run.one_retry_loop hnew hm
  rw [hretry] at hwaiting
  rw [hattempts, hfree] at hcount
  exact ⟨turns, net, m, run, hm, hwoke, hconnection, hwaiting, hattempts, hcount.symm⟩

end ClaimRelay.Network
