import ClaimRelay.Proofs.Network.Sound

/-! Shutdowns.  Whenever a manager stops, either one call to stop is told that it did, or the process is
told once to end; nobody else is told so.  Both are counted over a run, as well as how often the manager
began to run and stopped, and the counts balance whatever still waits for the lock. -/

namespace ClaimRelay

open Manager Manager.Scene

/-- Whether a result says that the call has stopped the manager. -/
def Manager.Result.isOwnStop : Result → Bool
  | .stopped true => true
  | _ => false

namespace Network

variable {Others : Network → Surroundings → Prop} {start net : Network} {i : Nat} {m m' : Manager}
  {t : Turn} {turns : List Turn}

/-- Whether the manager at place `i` runs. -/
def runs (net : Network) (i : Nat) : Bool := (net.managers[i]?).any (·.running)

theorem runs_eq (hm : net.managers[i]? = some m) : net.runs i = m.running := by
  simp [runs, hm]

namespace Turn

/-- Whether the manager at place `i` begins to run. -/
def switchesOn (t : Turn) (i : Nat) : Bool := !t.before.runs i && t.after.runs i

/-- Whether the manager at place `i` stops. -/
def switchesOff (t : Turn) (i : Nat) : Bool := t.before.runs i && !t.after.runs i

/-- Whether a call to stop the manager at place `i` returns that it did. -/
def ownsStop (t : Turn) (i : Nat) : Bool :=
  match t.move, t.before.managers[i]?, t.after.managers[i]? with
  | .step (.grant j), some m, some m' =>
    j = i && match m.queue with
      | .call ticket .stop :: _ => (m'.results.get? ticket).any Result.isOwnStop
      | _ => false
  | _, _, _ => false

/-- A call to stop returns that it did if it gets the lock while the manager runs. -/
theorem Valid.ownsStop_eq_true (valid : t.Valid Others) (hm : t.before.managers[i]? = some m)
    (hm' : t.after.managers[i]? = some m') :
    t.ownsStop i = true ↔ t.move = .step (.grant i) ∧ m.running = true ∧
      ∃ ticket rest, m.queue = .call ticket .stop :: rest := by
  cases valid with
  | others => simp [ownsStop]
  | @step net net' action hstep =>
    unfold ownsStop
    rw [hm, hm']
    cases action with
    | grant j =>
      by_cases hj : j = i
      · subst hj
        dsimp only
        split
        · rename_i ticket rest hq
          rw [grant_stop (onManager_scene hstep hm hm') hq]
          cases hrunning : m.running <;> simp [Result.isOwnStop, hq]
        · rename_i hq
          simp only [decide_true, Bool.true_and, Bool.false_eq_true, false_iff]
          rintro ⟨-, -, ticket, rest, hstop⟩
          exact hq ticket rest hstop
      · simp [hj]
    | _ => simp

/-- If the manager stops in a turn, then in this turn one call to stop returns that it did, or the
process is told once to end, and otherwise neither happens. -/
theorem Valid.one_owner (valid : t.Valid Others) (hm : t.before.managers[i]? = some m)
    (hm' : t.after.managers[i]? = some m') :
    (t.ownsStop i).toNat + m'.exits.length = m.exits.length + (t.switchesOff i).toNat := by
  obtain ⟨m₁, hm₁, hdoes⟩ := valid.does hm
  obtain rfl : m₁ = m' := Option.some.inj (hm₁.symm.trans hm')
  have howns := valid.ownsStop_eq_true hm hm₁
  rw [switchesOff, runs_eq hm, runs_eq hm₁]
  have hquiet (hnot : ¬t.ownsStop i = true) (running : m₁.running = m.running)
      (exits : m₁.exits = m.exits) :
      (t.ownsStop i).toNat + m₁.exits.length =
        m.exits.length + (m.running && !m₁.running).toNat := by
    rw [Bool.eq_false_iff.mpr hnot, running, exits]
    cases m.running <;> simp
  cases hdoes with
  | @grant w rest hmove hq free hserved =>
    cases hserved.switch with
    | keeps hw running exits =>
      refine hquiet (fun h => ?_) running exits
      obtain ⟨-, hrunning, ticket, others, hstop⟩ := howns.mp h
      have hstopped : m.running = false := hw ticket (List.cons.inj (hq.symm.trans hstop)).1
      simp [hstopped] at hrunning
    | starts ticket hw running exits =>
      have hrunning : m₁.running = true := running
      have hexits : m₁.exits = m.exits := exits
      have hnot : ¬t.ownsStop i = true := fun h => by
        obtain ⟨-, -, ticket', others, hstop⟩ := howns.mp h
        simp [hq, hw] at hstop
      simp [Bool.eq_false_iff.mpr hnot, hrunning, hexits]
    | stops ticket hw running stopped exits =>
      have hrunning : m.running = true := running
      have hstopped : m₁.running = false := stopped
      have hexits : m₁.exits = m.exits := exits
      have hyes : t.ownsStop i = true := howns.mpr ⟨hmove, hrunning, ticket, rest, hw ▸ hq⟩
      simp [hyes, hrunning, hstopped, hexits, Nat.add_comm]
    | loses hw running stopped exits =>
      have hrunning : m.running = true := running
      have hstopped : m₁.running = false := stopped
      have hexits : m₁.exits = m.exits ++ [lossCode] := exits
      have hnot : ¬t.ownsStop i = true := fun h => by
        obtain ⟨-, -, ticket', others, hstop⟩ := howns.mp h
        simp [hq, hw] at hstop
      simp [Bool.eq_false_iff.mpr hnot, hrunning, hstopped, hexits]
  | aside _ hgrant haside =>
    exact hquiet (fun h => hgrant (howns.mp h).1) haside.running haside.exits
  | others hmove h =>
    refine hquiet (fun hyes => hmove ?_) (h ▸ rfl) (h ▸ rfl)
    rw [(howns.mp hyes).1]
    rfl

/-- A manager that stops was running, and one that begins to run was not. -/
theorem switchesOn_add_runs (t : Turn) (i : Nat) :
    (t.switchesOn i).toNat + (t.before.runs i).toNat =
      (t.switchesOff i).toNat + (t.after.runs i).toNat := by
  unfold switchesOn switchesOff
  cases t.before.runs i <;> cases t.after.runs i <;> rfl

end Turn

theorem Run.count_owners (run : Run Others start turns net) (hnew : start.IsNew)
    (hm : net.managers[i]? = some m) :
    turns.countP (·.ownsStop i) + m.exits.length = turns.countP (·.switchesOff i) := by
  induction run generalizing m with
  | start =>
    obtain ⟨settings, hcontrol⟩ := hnew.control hm
    rw [hcontrol]
    rfl
  | @turn turns t run valid ih =>
    obtain ⟨m₀, hm₀, -⟩ := valid.done hm
    have hbefore := ih hm₀
    have hturn := valid.one_owner hm₀ hm
    rw [countP_cons_toNat, countP_cons_toNat]
    omega

theorem Run.count_switches (run : Run Others start turns net) (hnew : start.IsNew) (i : Nat) :
    turns.countP (·.switchesOn i) = turns.countP (·.switchesOff i) + (net.runs i).toNat := by
  induction run with
  | start =>
    have hstopped : start.runs i = false := by
      unfold runs
      cases hm : start.managers[i]? with
      | none => rfl
      | some m =>
        obtain ⟨settings, hcontrol⟩ := hnew.control hm
        simp [hcontrol]
    rw [hstopped]
    rfl
  | @turn turns t run valid ih =>
    have hturn := t.switchesOn_add_runs i
    rw [countP_cons_toNat, countP_cons_toNat]
    omega

/-- Every shutdown has one owner.  At any time of a run, the calls to stop that returned that they did,
with the times that the process was told to end, are as many as the times that the manager stopped; and
it began to run as often as it stopped, and once more if it runs now. -/
theorem Run.shutdowns_owned (run : Run Others start turns net) (hnew : start.IsNew)
    (hm : net.managers[i]? = some m) :
    turns.countP (·.ownsStop i) + m.exits.length = turns.countP (·.switchesOff i) ∧
      turns.countP (·.switchesOn i) =
        turns.countP (·.switchesOff i) + (if m.running then 1 else 0) := by
  refine ⟨run.count_owners hnew hm, ?_⟩
  rw [run.count_switches hnew i, runs_eq hm]
  cases m.running <;> rfl

/-- A manager is stopped by a call, started again and stopped by the loss of its connection: the call
returns that it stopped the manager, and the process is told once to end. -/
theorem Run.stopped_twice : ∃ turns net m,
    Run Outside (ofSettings [{ servers := ["bus://a"] }]) turns net ∧
      net.managers[0]? = some m ∧ turns.countP (·.ownsStop 0) = 1 ∧ m.exits = [lossCode] ∧
        turns.countP (·.switchesOff 0) = 2 ∧ turns.countP (·.switchesOn 0) = 2 := by
  have hnew : (ofSettings [{ servers := ["bus://a"] }]).IsNew := isNew_ofSettings (by simp; rfl)
  obtain ⟨turns, net, m, run, hm, hstopped, howned, hexits⟩ :
      ∃ turns net m, Run Outside (ofSettings [{ servers := ["bus://a"] }]) turns net ∧
        net.managers[0]? = some m ∧ m.running = false ∧ turns.countP (·.ownsStop 0) = 1 ∧
          m.exits = [lossCode] :=
    ⟨_, _, _, ((((((((((Run.start.step (.request 0 0 .start) rfl).step (.grant 0) rfl).step
      (.request 0 1 .stop) rfl).step (.request 0 2 .start) rfl).step (.grant 0) rfl).step
        (.grant 0) rfl).others (.close 2)).step (.hear 0) rfl).step (.grant 0) rfl).step
          (.hear 0) rfl).step (.grant 0) rfl, rfl, rfl, rfl, rfl⟩
  obtain ⟨howners, hswitches⟩ := run.shutdowns_owned hnew hm
  rw [howned, hexits] at howners
  rw [← howners, hstopped] at hswitches
  exact ⟨turns, net, m, run, hm, howned, hexits, howners.symm, hswitches⟩

end Network

end ClaimRelay
