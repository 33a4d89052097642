import ClaimRelay.Proofs.Network.Sound

/-! The loss of a connection.  No manager misses the loss of its current connection: until a notice of
it has been handled, one waits.  A notice that is about an earlier connection does no harm: the process
ends only if others have closed the current connection of a manager that runs. -/

namespace ClaimRelay.Network

open Manager Manager.Scene Bus

variable {Others : Network → Surroundings → Prop} {start net : Network} {i id : Nat}
  {m m' : Manager} {t : Turn} {turns : List Turn}

/-! ### Loss that is not missed -/

/-- If no notice of a closed connection waits for a manager or for its lock, then the current
connection of the manager is not closed. -/
theorem Run.loss_is_told (run : Run Outside start turns net) (hnew : start.IsNew)
    (hm : net.managers[i]? = some m) (hmail : (i, .closed) ∉ net.around.bus.mail)
    (hqueue : .event .closed ∉ m.queue) (hid : m.connection = some id) :
    net.around.bus.isClosed id = false := by
  have h := run.registered hnew.registered
  cases hclosed : net.around.bus.isClosed id with
  | false => rfl
  | true =>
    rcases (h.registry hm).told ⟨id, hid, hclosed⟩ with htold | htold
    · rw [show (net.link m).control.listener = i from h.listener hm] at htold
      exact absurd htold hmail
    · exact absurd htold hqueue

/-- When the notice about a replaced connection has been handled, the new connection is not closed. -/
theorem Run.open_after_reconnect : ∃ turns net m,
    Run Outside (ofSettings [{ servers := ["bus://a"] }]) turns net ∧
      net.managers[0]? = some m ∧ m.connection = some 2 ∧ net.around.bus.isClosed 1 = true ∧
        net.around.bus.isClosed 2 = false := by
  have hnew : (ofSettings [{ servers := ["bus://a"] }]).IsNew := isNew_ofSettings (by simp; rfl)
  obtain ⟨turns, net, m, run, hm, hid, hclosed, hmail, hqueue⟩ :
      ∃ turns net m, Run Outside (ofSettings [{ servers := ["bus://a"] }]) turns net ∧
        net.managers[0]? = some m ∧ m.connection = some 2 ∧ net.around.bus.isClosed 1 = true ∧
          net.around.bus.mail = [] ∧ m.queue = [] :=
    ⟨_, _, _, (((((Run.start.step (.request 0 0 .start) rfl).step (.grant 0) rfl).step
      (.request 0 1 .reconnect) rfl).step (.grant 0) rfl).step (.hear 0) rfl).step (.grant 0) rfl,
      rfl, rfl, rfl, rfl, rfl⟩
  exact ⟨turns, net, m, run, hm, hid, hclosed,
    run.loss_is_told hnew hm (by simp [hmail]) (by simp [hqueue]) hid⟩

/-! ### Notices that do no harm -/

/-- Others close the current connection of the manager at place `i`. -/
def Turn.ClosesCurrent (t : Turn) (i id : Nat) : Prop :=
  t.move.manager? ≠ some i ∧ t.before.around.bus.isClosed id = false ∧
    t.after.around.bus.isClosed id = true ∧
      ∃ m, t.before.managers[i]? = some m ∧ m.connection = some id

/-- Only others close the current connection of a manager. -/
theorem Run.closed_by_others (run : Run Outside start turns net) (hnew : start.IsNew)
    (hm : net.managers[i]? = some m) (hid : m.connection = some id)
    (hclosed : net.around.bus.isClosed id = true) : ∃ t ∈ turns, t.ClosesCurrent i id := by
  induction run generalizing m with
  | start =>
    obtain ⟨settings, hcontrol⟩ := hnew.control hm
    simp [hcontrol] at hid
  | @turn turns t run valid ih =>
    have h := run.registered hnew.registered
    obtain ⟨m₀, hm₀, hdoes⟩ := valid.done hm
    have hlater (hid₀ : m₀.connection = some id)
        (hclosed₀ : t.before.around.bus.isClosed id = true) :
        ∃ t' ∈ t :: turns, t'.ClosesCurrent i id := by
      obtain ⟨t', ht', hcloses⟩ := ih hm₀ hid₀ hclosed₀
      exact ⟨t', List.mem_cons_of_mem _ ht', hcloses⟩
    rcases hdoes.change with ⟨-, hchange⟩ | ⟨hmove, rfl⟩
    · -- What a manager does itself closes no connection that stays its current one.
      obtain ⟨-, hfollows⟩ := hchange.owns_follows (h.control hm₀) (h.registry hm₀).toOwns
      obtain ⟨⟨id₀, hid₀, hclosed₀⟩, hsame⟩ := hfollows.lost ⟨id, hid, hclosed⟩
      obtain rfl : id₀ = id := Option.some.inj ((hid₀.symm.trans hsame.symm).trans hid)
      exact hlater hid₀ hclosed₀
    · cases hbefore : t.before.around.bus.isClosed id with
      | true => exact hlater hid hbefore
      | false => exact ⟨t, List.mem_cons_self, hmove, hbefore, hclosed, m, hm₀, hid⟩

/-- A manager ends the process only as it handles a closed event while it runs and its current
connection is closed. -/
theorem Turn.Valid.exits (valid : t.Valid Others) (hm : t.before.managers[i]? = some m)
    (hm' : t.after.managers[i]? = some m') (hexits : m'.exits ≠ m.exits) :
    t.move = .step (.grant i) ∧ (∃ rest, m.queue = .event .closed :: rest) ∧ m.running = true ∧
      m'.exits = m.exits ++ [lossCode] ∧
        ∃ id, m.connection = some id ∧ t.before.around.bus.isClosed id = true := by
  obtain ⟨m₁, hm₁, hdoes⟩ := valid.does hm
  obtain rfl : m₁ = m' := Option.some.inj (hm₁.symm.trans hm')
  cases hdoes with
  | grant hmove hq free hserved =>
    rcases hserved.exits with hsame | ⟨rfl, running, lost, hcode⟩
    · exact absurd hsame hexits
    · exact ⟨hmove, ⟨_, hq⟩, running, hcode, lost⟩
  | aside _ _ haside => exact absurd haside.exits hexits
  | others _ h => exact absurd (h ▸ rfl) hexits

/-- If nobody else closes a current connection of a manager then the manager never ends the
process. -/
theorem Run.exits_eq_nil (run : Run Outside start turns net) (hnew : start.IsNew)
    (hm : net.managers[i]? = some m) (hothers : ∀ t ∈ turns, ∀ id, ¬t.ClosesCurrent i id) :
    m.exits = [] := by
  induction run generalizing m with
  | start =>
    obtain ⟨settings, hcontrol⟩ := hnew.control hm
    rw [hcontrol]
  | @turn turns t run valid ih =>
    obtain ⟨-, hbefore⟩ := List.forall_mem_cons.mp hothers
    obtain ⟨m₀, hm₀, -⟩ := valid.done hm
    have hnone := ih hm₀ hbefore
    by_cases hexits : m.exits = m₀.exits
    · rw [hexits, hnone]
    · obtain ⟨-, -, -, -, id, hid, hclosed⟩ := valid.exits hm₀ hm hexits
      obtain ⟨t', ht', hcloses⟩ := run.closed_by_others hnew hm₀ hid hclosed
      exact absurd hcloses (hbefore t' ht' id)

/-- The manager at place `i` takes an event, or handles one that does not say that its current
connection is closed. -/
def Turn.HandlesHarmless (t : Turn) (i : Nat) (m : Manager) : Prop :=
  t.move = .step (.hear i) ∨
    t.move = .step (.grant i) ∧ ∃ event rest, m.queue = .event event :: rest ∧
      (event = .closed → ∀ id, m.connection = some id → t.before.around.bus.isClosed id = false)

theorem Turn.Valid.harmless (valid : t.Valid Others) (hm : t.before.managers[i]? = some m)
    (hm' : t.after.managers[i]? = some m') (h : t.HandlesHarmless i m) :
    m'.toControl = { m.toControl with queue := m'.queue } ∧
      t.after.around.bus.connections = t.before.around.bus.connections := by
  rcases h with hmove | ⟨hmove, event, rest, hq, hopen⟩
  · have hstep := valid.step?_eq hmove
    obtain ⟨event, mail, -, hlink⟩ := link_hear (onManager_scene hstep hm hm')
    have hcontrol : m'.toControl = _ := congrArg Link.control hlink
    refine ⟨?_, congrArg (·.registry.connections) hlink⟩
    rw [hcontrol]
    rfl
  · obtain ⟨m₁, hm₁, hdoes⟩ := valid.does hm
    obtain rfl : m₁ = m' := Option.some.inj (hm₁.symm.trans hm')
    cases hdoes with
    | grant _ hq' free hserved =>
      obtain ⟨rfl, rfl⟩ := List.cons.inj (hq.symm.trans hq')
      have hkept : event = .closed → ¬(t.before.link m).Lost := by
        rintro hevent ⟨id, hid, hclosed⟩
        exact absurd ((hopen hevent id hid).symm.trans hclosed) (by simp)
      have hlink := hserved.of_event hkept free
      have hcontrol : m₁.toControl = _ := congrArg Link.control hlink
      refine ⟨?_, congrArg (·.registry.connections) hlink⟩
      rw [hcontrol]
      rfl
    | aside _ hgrant => exact absurd hmove hgrant
    | others hnot => exact absurd (hmove ▸ rfl) hnot

/-- Closed events of earlier connections do no harm.  A manager ends the process only as it handles a
closed event while it runs and its current connection is closed, and then others have closed that
connection; so if nobody else closes a current connection of the manager then it never ends the
process.  Any other event leaves all but the queue as it is. -/
theorem Run.stale_events_harmless (run : Run Outside start turns net) (hnew : start.IsNew)
    (hm : net.managers[i]? = some m) :
    (∀ {later earlier t m₁ m₂}, turns = later ++ t :: earlier → t.before.managers[i]? = some m₁ →
      t.after.managers[i]? = some m₂ → m₂.exits ≠ m₁.exits →
        t.move = .step (.grant i) ∧ (∃ rest, m₁.queue = .event .closed :: rest) ∧
          m₁.running = true ∧ m₂.exits = m₁.exits ++ [lossCode] ∧
            ∃ id, m₁.connection = some id ∧ t.before.around.bus.isClosed id = true ∧
              ∃ t' ∈ earlier, t'.ClosesCurrent i id) ∧
    ((∀ t ∈ turns, ∀ id, ¬t.ClosesCurrent i id) → m.exits = []) ∧
    (∀ t ∈ turns, ∀ {m₁ m₂}, t.before.managers[i]? = some m₁ → t.after.managers[i]? = some m₂ →
      t.HandlesHarmless i m₁ → m₂.toControl = { m₁.toControl with queue := m₂.queue } ∧
        t.after.around.bus.connections = t.before.around.bus.connections) := by
  refine ⟨?_, run.exits_eq_nil hnew hm, fun t ht m₁ m₂ hm₁ hm₂ hharmless => ?_⟩
  · rintro later earlier t m₁ m₂ rfl hm₁ hm₂ hexits
    obtain ⟨hbefore, valid, -⟩ := run.cut
    obtain ⟨hmove, hqueue, running, hcode, id, hid, hclosed⟩ := valid.exits hm₁ hm₂ hexits
    exact ⟨hmove, hqueue, running, hcode, id, hid, hclosed,
      hbefore.closed_by_others hnew hm₁ hid hclosed⟩
  · obtain ⟨later, earlier, rfl⟩ := List.append_of_mem ht
    exact run.cut.2.1.harmless hm₁ hm₂ hharmless

/-- The closed event of a replaced connection does not end the process. -/
theorem Run.no_exit_after_reconnect : ∃ turns net m,
    Run Outside (ofSettings [{ servers := ["bus://a"] }]) turns net ∧
      net.managers[0]? = some m ∧ (∃ t ∈ turns, t.move = .step (.hear 0)) ∧ m.queue = [] ∧
        m.exits = [] := by
  have hnew : (ofSettings [{ servers := ["bus://a"] }]).IsNew := isNew_ofSettings (by simp; rfl)
  obtain ⟨turns, net, m, run, hm, hmoves, hheard, hqueue⟩ :
      ∃ turns net m, Run Outside (ofSettings [{ servers := ["bus://a"] }]) turns net ∧
        net.managers[0]? = some m ∧
          turns.map (·.move.manager?) = List.replicate 6 (some 0) ∧
            (∃ t ∈ turns, t.move = .step (.hear 0)) ∧ m.queue = [] :=
    ⟨_, _, _, (((((Run.start.step (.request 0 0 .start) rfl).step (.grant 0) rfl).step
      (.request 0 1 .reconnect) rfl).step (.grant 0) rfl).step (.hear 0) rfl).step (.grant 0) rfl,
      rfl, rfl, ⟨_, .tail _ (.head _), rfl⟩, rfl⟩
  have hothers : ∀ t ∈ turns, ∀ id, ¬t.ClosesCurrent 0 id := by
    intro t ht id hcloses
    have hmove : t.move.manager? ∈ turns.map (·.move.manager?) := List.mem_map_of_mem ht
    rw [hmoves] at hmove
    exact hcloses.1 (List.eq_of_mem_replicate hmove)
  exact ⟨turns, net, m, run, hm, hheard, hqueue,
    (run.stale_events_harmless hnew hm).2.1 hothers⟩

end ClaimRelay.Network
