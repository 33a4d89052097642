import ClaimRelay.Proofs.Network.Sound

/-! A manager has at most one open connection.  Every connection it makes becomes its current one in
the turn that ends the attempt; an attempt that failed makes none, then or later; and the connections
that a manager hands out never go back to an earlier one. -/

namespace ClaimRelay.Network

open Manager Manager.Scene Bus

variable {start net net' : Network} {i id : Nat} {m m' : Manager} {t : Turn}
  {turns later : List Turn}

namespace Turn

/-- A connection is made that reports to the manager at place `i`. -/
def Makes (t : Turn) (i id : Nat) : Prop :=
  t.before.around.bus.connections.get? id = none ∧
    ∃ c, t.after.around.bus.connections.get? id = some c ∧ c.listener = i

/-- The `n`-th attempt of the manager at place `i` ends, as the manager goes from `m` to `m'`. -/
structure EndsAttempt (t : Turn) (i n : Nat) (m m' : Manager) : Prop where
  before : t.before.managers[i]? = some m
  after : t.after.managers[i]? = some m'
  made : m.attempt ≠ none ∨ m.attempts < m'.attempts
  free : m'.attempt = none
  number : m'.attempts = n

/-- The `n`-th attempt of the manager at place `i` ends without a new connection for the manager. -/
def FailsAttempt (t : Turn) (i n : Nat) : Prop :=
  ∃ m m', t.EndsAttempt i n m m' ∧ m'.connection = m.connection

/-- The manager at place `i` answers a call that asks for its connection. -/
def HandsOut (t : Turn) (i id : Nat) : Prop :=
  t.move = .step (.grant i) ∧ ∃ m m' ticket rest,
    t.before.managers[i]? = some m ∧ t.after.managers[i]? = some m' ∧
      m.queue = .call ticket .acquire :: rest ∧
      m'.results.get? ticket = some (.acquired (some id))

/-- What is handed out is the current connection. -/
theorem HandsOut.current {Others : Network → Surroundings → Prop} (h : t.HandsOut i id)
    (valid : t.Valid Others) : ∃ m, t.before.managers[i]? = some m ∧ m.connection = some id := by
  obtain ⟨hmove, m, m', ticket, rest, hm, hm', hq, hresult⟩ := h
  refine ⟨m, hm, ?_⟩
  have hstep := valid.step?_eq hmove
  rw [grant_acquire (onManager_scene hstep hm hm') hq] at hresult
  simpa using hresult

theorem Valid.makes (valid : t.Valid Outside) (h : t.before.Registered)
    (hm : t.before.managers[i]? = some m) (hmakes : t.Makes i id) :
    ∃ m', t.EndsAttempt i m'.attempts m m' ∧ m'.connection = some id := by
  obtain ⟨hnone, c, hget, hlistener⟩ := hmakes
  obtain ⟨m', hm', hdoes⟩ := valid.does hm
  rcases hdoes.change with ⟨-, hchange⟩ | ⟨hmove, -⟩
  · obtain ⟨hmade, hover, hconnection⟩ := hchange.entered (h.control hm) hnone hget
    exact ⟨m', ⟨hm, hm', hmade, hover, rfl⟩, hconnection⟩
  · exact absurd hlistener ((valid.byOthers h hm hmove).enters hnone hget)

/-- Connections and attempts only go forward. -/
theorem Valid.forward (valid : t.Valid Outside) (h : t.before.Registered)
    (hm : t.before.managers[i]? = some m) :
    ∃ m', t.after.managers[i]? = some m' ∧
      t.before.around.bus.connections.length ≤ t.after.around.bus.connections.length ∧
      (∀ {id}, m'.connection = some id →
        m.connection = some id ∨ t.before.around.bus.connections.length < id) ∧
      m.attempts ≤ m'.attempts ∧
      (m.attempt = none → m'.attempt ≠ none → m.attempts < m'.attempts) := by
  obtain ⟨m', hm', hdoes⟩ := valid.does hm
  refine ⟨m', hm', ?_⟩
  rcases hdoes.change with ⟨-, hchange⟩ | ⟨hmove, rfl⟩
  · have hfollows := (hchange.owns_follows (h.control hm) (h.registry hm).toOwns).2
    exact ⟨hfollows.grows.length_le, hfollows.current, hfollows.attempts, hchange.attempts_lt⟩
  · have hothers := valid.byOthers h hm hmove
    exact ⟨hothers.length_le, .inl, Nat.le_refl _, fun free hsome => absurd free hsome⟩

end Turn

/-- The current connection of a manager is never an earlier one than before. -/
theorem Run.current_le (run : Run Outside net later net') (h : net.Registered)
    (hm : net.managers[i]? = some m) (hid : m.connection = some id) :
    id ≤ net'.around.bus.connections.length ∧ ∃ m', net'.managers[i]? = some m' ∧
      ∀ {id'}, m'.connection = some id' → id ≤ id' := by
  induction run with
  | start =>
    obtain ⟨c, hget, -⟩ := (h.registry hm).current hid
    refine ⟨(h.registry hm).numbered.le_length hget, m, hm, fun {id'} hid' => ?_⟩
    obtain rfl : id = id' := Option.some.inj (hid.symm.trans hid')
    exact Nat.le_refl _
  | @turn turns t run valid ih =>
    obtain ⟨hlength, m', hm', hle⟩ := ih
    obtain ⟨m'', hm'', hgrows, hcurrent, -⟩ := valid.forward (run.registered h) hm'
    refine ⟨Nat.le_trans hlength hgrows, m'', hm'', fun hid' => ?_⟩
    rcases hcurrent hid' with hsame | hnew
    · exact hle hsame
    · exact Nat.le_of_lt (Nat.lt_of_le_of_lt hlength hnew)

/-- After its `n`-th attempt is over, a manager that tries makes another attempt. -/
theorem Run.attempts_gt (run : Run Outside net later net') (h : net.Registered)
    (hm : net.managers[i]? = some m) (free : m.attempt = none) :
    ∃ m', net'.managers[i]? = some m' ∧ m.attempts ≤ m'.attempts ∧
      (m'.attempt ≠ none → m.attempts < m'.attempts) := by
  induction run with
  | start => exact ⟨m, hm, Nat.le_refl _, fun hsome => absurd free hsome⟩
  | @turn turns t run valid ih =>
    obtain ⟨m', hm', hle, hlt⟩ := ih
    obtain ⟨m'', hm'', -, -, hattempts, hbegins⟩ := valid.forward (run.registered h) hm'
    refine ⟨m'', hm'', Nat.le_trans hle hattempts, fun hsome => ?_⟩
    by_cases hfree : m'.attempt = none
    · exact Nat.lt_of_le_of_lt hle (hbegins hfree hsome)
    · exact Nat.lt_of_lt_of_le (hlt hfree) hattempts

theorem Run.makes_current (run : Run Outside start (later ++ t :: turns) net)
    (h : start.Registered) (hm : net.managers[i]? = some m) (hmakes : t.Makes i id) :
    ∃ n m₁ m₂, t.EndsAttempt i n m₁ m₂ ∧ m₂.connection = some id := by
  obtain ⟨hbefore, valid, -⟩ := run.cut
  obtain ⟨m₁, hm₁⟩ := run.manager_before hm
  obtain ⟨m₂, hends, hconnection⟩ := valid.makes (hbefore.registered h) hm₁ hmakes
  exact ⟨_, m₁, m₂, hends, hconnection⟩

/-- Connections that are made from the end of a failed attempt on are made by later attempts. -/
theorem Run.failed_makes_none {n : Nat} {t₁ t₂ : Turn}
    (run : Run Outside start (later ++ t₁ :: turns) net) (h : start.Registered)
    (hfails : t₁.FailsAttempt i n) (ht₂ : t₂ ∈ t₁ :: later) (hmakes : t₂.Makes i id) :
    ∃ n' m₁ m₂, n < n' ∧ t₂.EndsAttempt i n' m₁ m₂ := by
  obtain ⟨hbefore, valid, -⟩ := run.cut
  have hregistered := hbefore.registered h
  obtain ⟨m₁, m₂, hends, hsame⟩ := hfails
  rcases List.mem_cons.mp ht₂ with rfl | hlater
  · -- In the turn itself the new connection would be the one that the manager had before.
    obtain ⟨m₂', hends', hconnection⟩ := valid.makes hregistered hends.before hmakes
    obtain rfl : m₂ = m₂' := Option.some.inj (hends.after.symm.trans hends'.after)
    obtain ⟨c, hget, -⟩ := (hregistered.registry hends.before).current (hsame ▸ hconnection)
    exact absurd (hmakes.1.symm.trans hget) (by simp)
  · obtain ⟨middle, run', valid'⟩ := run.between hlater
    have hregistered' := valid.registered hregistered
    obtain ⟨m', hm', hle, hlt⟩ := run'.attempts_gt hregistered' hends.after hends.free
    obtain ⟨m'', hends', -⟩ := valid'.makes (run'.registered hregistered') hm' hmakes
    refine ⟨m''.attempts, m', m'', ?_, hends'⟩
    obtain ⟨m₃, hm₃, -, -, hforward, -⟩ := valid'.forward (run'.registered hregistered') hm'
    obtain rfl : m₃ = m'' := Option.some.inj (hm₃.symm.trans hends'.after)
    rw [← hends.number]
    rcases hends'.made with hsome | hmore
    · exact Nat.lt_of_lt_of_le (hlt hsome) hforward
    · exact Nat.lt_of_le_of_lt hle hmore

/-- What a manager hands out is never an earlier connection than what it handed out before. -/
theorem Run.handed_out_le {t₁ t₂ : Turn} {id₁ id₂ : Nat}
    (run : Run Outside start (later ++ t₁ :: turns) net) (h : start.Registered)
    (hfirst : t₁.HandsOut i id₁) (ht₂ : t₂ ∈ later) (hsecond : t₂.HandsOut i id₂) :
    id₁ ≤ id₂ := by
  obtain ⟨hbefore, valid, -⟩ := run.cut
  obtain ⟨middle, run', valid'⟩ := run.between ht₂
  obtain ⟨m₁, hm₁, hid₁⟩ := hfirst.current valid
  obtain ⟨m₂, hm₂, hid₂⟩ := hsecond.current valid'
  have hone : Run Outside t₁.before [t₁] t₁.after := .turn .start valid
  obtain ⟨-, m₂', hm₂', hle⟩ := (hone.trans run').current_le (hbefore.registered h) hm₁ hid₁
  obtain rfl : m₂' = m₂ := Option.some.inj (hm₂'.symm.trans hm₂)
  exact hle hid₂

/-- A manager that has not ended has at most one open connection, its current one, and none when it is
stopped.  A connection is made only as an attempt ends, and becomes the current one then; an attempt
that failed makes none later either; and the connections that are handed out never go back. -/
theorem Run.one_connection (run : Run Outside start turns net) (hnew : start.IsNew)
    (hm : net.managers[i]? = some m) :
    (m.life ≠ .ended → ∀ {id c}, net.around.bus.connections.get? id = some c → c.listener = i →
      c.closed = false → m.connection = some id ∧ m.running = true) ∧
    (∀ t ∈ turns, ∀ {id}, t.Makes i id →
      ∃ n m₁ m₂, t.EndsAttempt i n m₁ m₂ ∧ m₂.connection = some id) ∧
    (∀ {later earlier t₁ n}, turns = later ++ t₁ :: earlier → t₁.FailsAttempt i n →
      ∀ t₂ ∈ t₁ :: later, ∀ {id}, t₂.Makes i id →
        ∃ n' m₁ m₂, n < n' ∧ t₂.EndsAttempt i n' m₁ m₂) ∧
    (∀ {later earlier t₁ id₁}, turns = later ++ t₁ :: earlier → t₁.HandsOut i id₁ →
      ∀ t₂ ∈ later, ∀ {id₂}, t₂.HandsOut i id₂ → id₁ ≤ id₂) := by
  have h := run.registered hnew.registered
  refine ⟨fun alive id c hget hlistener hopen => ?_, fun t ht id hmakes => ?_, ?_, ?_⟩
  · have hown : c.listener = m.listener := hlistener.trans (h.listener hm).symm
    have hconnection : m.connection = some id := (h.registry hm).only alive hget hown hopen
    refine ⟨hconnection, ?_⟩
    cases hrunning : m.running with
    | true => rfl
    | false => simp [(h.control hm).stopped hrunning] at hconnection
  · obtain ⟨later, earlier, rfl⟩ := List.append_of_mem ht
    exact run.makes_current hnew.registered hm hmakes
  · rintro later earlier t₁ n rfl hfails t₂ ht₂ id hmakes
    exact run.failed_makes_none hnew.registered hfails ht₂ hmakes
  · rintro later earlier t₁ id₁ rfl hfirst t₂ ht₂ id₂ hsecond
    exact run.handed_out_le hnew.registered hfirst ht₂ hsecond

/-- After a connection is replaced, the new one is the only one that is open. -/
theorem Run.only_open_after_reconnect : ∃ turns net m,
    Run Outside (ofSettings [{ servers := ["bus://a"] }]) turns net ∧
      net.managers[0]? = some m ∧ net.around.bus.isClosed 1 = true ∧
        ∀ {id c}, net.around.bus.connections.get? id = some c → c.listener = 0 →
          c.closed = false → id = 2 := by
  have hnew : (ofSettings [{ servers := ["bus://a"] }]).IsNew := isNew_ofSettings (by simp; rfl)
  obtain ⟨turns, net, m, run, hm, owned, hclosed, hcurrent⟩ :
      ∃ turns net m, Run Outside (ofSettings [{ servers := ["bus://a"] }]) turns net ∧
        net.managers[0]? = some m ∧ m.life = .owned ∧ net.around.bus.isClosed 1 = true ∧
          m.connection = some 2 :=
    ⟨_, _, _, (((Run.start.step (.request 0 0 .start) rfl).step (.grant 0) rfl).step
      (.request 0 1 .reconnect) rfl).step (.grant 0) rfl, rfl, rfl, rfl, rfl⟩
  refine ⟨turns, net, m, run, hm, hclosed, fun hget hlistener hopen => ?_⟩
  have honly := (run.one_connection hnew hm).1 (by simp [owned]) hget hlistener hopen
  exact Option.some.inj (honly.1.symm.trans hcurrent)

end ClaimRelay.Network
