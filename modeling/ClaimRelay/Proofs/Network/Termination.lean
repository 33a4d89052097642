import ClaimRelay.Proofs.Network.Provision
import ClaimRelay.Proofs.Network.Shutdown

/-! How often the process is told to end.  A manager tells it so only as it stops, so it must be started
again before it can tell it once more.  A manager that is started again after the loss of its connection
tells it again at the next loss. -/

namespace ClaimRelay.Network

open Manager Manager.Scene

variable {Others : Network → Surroundings → Prop} {start net : Network} {i : Nat} {m m' : Manager}
  {t : Turn} {turns : List Turn}

namespace Turn

/-- Whether the manager at place `i` tells the process to end. -/
def tellsEnd (t : Turn) (i : Nat) : Bool :=
  match t.before.managers[i]?, t.after.managers[i]? with
  | some m, some m' => m.exits.length < m'.exits.length
  | _, _ => false

theorem tellsEnd_eq (hm : t.before.managers[i]? = some m) (hm' : t.after.managers[i]? = some m') :
    t.tellsEnd i = decide (m.exits.length < m'.exits.length) := by
  simp [tellsEnd, hm, hm']

/-- The exit codes stay, or one more is added as the manager stops. -/
theorem Valid.exits_eq (valid : t.Valid Others) (hm : t.before.managers[i]? = some m)
    (hm' : t.after.managers[i]? = some m') :
    (t.tellsEnd i = false ∧ m'.exits = m.exits) ∨
      (t.tellsEnd i = true ∧ m'.exits = m.exits ++ [lossCode] ∧
        t.before.runs i = true ∧ t.after.runs i = false) := by
  rw [tellsEnd_eq hm hm', runs_eq hm, runs_eq hm']
  -- Without a new exit code nothing is told.
  have hquiet (h : m'.exits = m.exits) :
      (decide (m.exits.length < m'.exits.length) = false ∧ m'.exits = m.exits) := by
    rw [h]
    simp
  obtain ⟨m₁, hm₁, hdoes⟩ := valid.does hm
  obtain rfl : m₁ = m' := Option.some.inj (hm₁.symm.trans hm')
  cases hdoes with
  | grant hmove hq free hserved =>
    cases hserved.switch with
    | keeps _ _ exits => exact .inl (hquiet exits)
    | starts _ _ _ exits => exact .inl (hquiet exits)
    | stops _ _ _ _ exits => exact .inl (hquiet exits)
    | loses _ running stopped exits =>
      have hexits : m₁.exits = m.exits ++ [lossCode] := exits
      right
      refine ⟨?_, hexits, running, stopped⟩
      rw [hexits, List.length_append]
      simp
  | aside _ _ haside => exact .inl (hquiet haside.exits)
  | others _ h => exact .inl (hquiet (h ▸ rfl))

/-- A turn in which the manager tells the process to end stops it. -/
theorem Valid.stops (valid : t.Valid Others) (h : t.tellsEnd i = true) :
    t.before.runs i = true ∧ t.after.runs i = false := by
  cases hm' : t.after.managers[i]? with
  | none => simp [tellsEnd, hm'] at h
  | some m' =>
    obtain ⟨m, hm, -⟩ := valid.done hm'
    rcases valid.exits_eq hm hm' with ⟨hquiet, -⟩ | ⟨-, -, hstops⟩
    · exact absurd (h.symm.trans hquiet) (by decide)
    · exact hstops

/-- Only a call to start makes a manager run. -/
theorem Valid.starts (valid : t.Valid Others) (hsound : t.before.Sound) (hon : t.switchesOn i = true) :
    t.Starts i := by
  unfold switchesOn at hon
  rw [Bool.and_eq_true, Bool.not_eq_true'] at hon
  obtain ⟨hbefore, hafter⟩ := hon
  apply Classical.byContradiction
  intro hnot
  cases hm' : t.after.managers[i]? with
  | none => simp [runs, hm'] at hafter
  | some m' =>
    obtain ⟨m, hm, -⟩ := valid.done hm'
    rw [runs_eq hm] at hbefore
    rw [runs_eq hm'] at hafter
    obtain ⟨m₁, hm₁, hstopped, -⟩ := valid.stopped hsound hm hbefore hnot
    obtain rfl := Option.some.inj (hm₁.symm.trans hm')
    exact absurd (hafter.symm.trans hstopped) (by decide)

end Turn

/-! ### Runs -/

/-- A manager that runs, but did not as the run began, was made to run in one of its turns. -/
theorem Run.switched_on (run : Run Others start turns net) (hstart : start.runs i = false)
    (hnet : net.runs i = true) : ∃ t ∈ turns, t.switchesOn i = true := by
  induction run with
  | start => exact absurd (hstart.symm.trans hnet) (by decide)
  | @turn turns t run valid ih =>
    cases hbefore : t.before.runs i with
    | false =>
      refine ⟨t, .head _, ?_⟩
      simp [Turn.switchesOn, hbefore, hnet]
    | true =>
      obtain ⟨u, hu, hon⟩ := ih hbefore
      exact ⟨u, .tail _ hu, hon⟩

theorem Run.exits_eq_replicate (run : Run Others start turns net) (hnew : start.IsNew)
    (hm : net.managers[i]? = some m) :
    m.exits = List.replicate (turns.countP (·.tellsEnd i)) lossCode := by
  induction run generalizing m with
  | start =>
    obtain ⟨settings, hcontrol⟩ := hnew.control hm
    rw [hcontrol]
    rfl
  | @turn turns t run valid ih =>
    obtain ⟨m₀, hm₀, -⟩ := valid.done hm
    rw [countP_cons_toNat]
    rcases valid.exits_eq hm₀ hm with ⟨hquiet, hexits⟩ | ⟨htells, hexits, -⟩
    · rw [hexits, hquiet, ih hm₀]
      rfl
    · rw [hexits, htells, ih hm₀]
      exact List.replicate_succ'.symm

/-- A manager that tells the process to end twice was started between. -/
theorem Run.started_between {later middle earlier : List Turn} {t₁ t₂ : Turn}
    (run : Run Others start (later ++ t₂ :: (middle ++ t₁ :: earlier)) net) (hsound : start.Sound)
    (h₁ : t₁.tellsEnd i = true) (h₂ : t₂.tellsEnd i = true) :
    ∃ u ∈ middle, u.Starts i ∧ u.switchesOn i = true := by
  obtain ⟨hbefore, hvalid₂, -⟩ := run.cut
  obtain ⟨hfirst, hvalid₁, hmiddle⟩ := hbefore.cut
  -- After the first of the two turns the manager does not run, and before the second one it does.
  obtain ⟨u, hu, hon⟩ := hmiddle.switched_on (hvalid₁.stops h₁).2 (hvalid₂.stops h₂).1
  have hsound₁ : t₁.after.Sound := hvalid₁.sound (hfirst.sound hsound)
  obtain ⟨last, first, rfl⟩ := List.append_of_mem hu
  obtain ⟨hrun, hvalid, -⟩ := hmiddle.cut
  exact ⟨u, hu, hvalid.starts (hrun.sound hsound₁) hon, hon⟩

/-- The process is told to end with the same code each time, at most once for each time that the manager
begins to run, and between two such times a call to start makes the stopped manager run. -/
theorem Run.one_end_per_start (run : Run Others start turns net) (hnew : start.IsNew)
    (hm : net.managers[i]? = some m) :
    m.exits = List.replicate (turns.countP (·.tellsEnd i)) lossCode ∧
      turns.countP (·.tellsEnd i) ≤ turns.countP (·.switchesOn i) ∧
      ∀ {later middle earlier : List Turn} {t₁ t₂ : Turn},
        turns = later ++ t₂ :: (middle ++ t₁ :: earlier) → t₁.tellsEnd i = true →
          t₂.tellsEnd i = true → ∃ u ∈ middle, u.Starts i ∧ u.switchesOn i = true := by
  have hexits := run.exits_eq_replicate hnew hm
  refine ⟨hexits, ?_, ?_⟩
  · have howners := run.count_owners hnew hm
    have hswitches := run.count_switches hnew i
    rw [hexits, List.length_replicate] at howners
    omega
  · rintro later middle earlier t₁ t₂ rfl h₁ h₂
    exact run.started_between hnew.sound h₁ h₂

/-- A run in which a manager loses its connection, is started again, and loses its connection again. -/
theorem Run.lost_again : ∃ later t₂ middle t₁ earlier net m,
    Run Outside (ofSettings [{ servers := ["bus://a"] }])
        (later ++ t₂ :: (middle ++ t₁ :: earlier)) net ∧
      net.managers[0]? = some m ∧ t₁.tellsEnd 0 = true ∧ t₂.tellsEnd 0 = true ∧
      m.exits = [lossCode, lossCode] :=
  ⟨[], _, [_, _, _, _], _, [_, _, _, _], _, _, ((((((((((Run.start.step (.request 0 0 .start) rfl).step
    (.grant 0) rfl).others .closeAll).step (.hear 0) rfl).step (.grant 0) rfl).step
      (.request 0 1 .start) rfl).step (.grant 0) rfl).others .closeAll).step (.hear 0) rfl).step
        (.grant 0) rfl), rfl, rfl, rfl, rfl⟩

/-- With a handler that returns, one manager may tell the process twice to end. -/
theorem Run.ends_twice :
    ¬∀ turns net m, Run Outside (ofSettings [{ servers := ["bus://a"] }]) turns net →
      net.managers[0]? = some m → m.exits.length ≤ 1 := by
  intro h
  obtain ⟨later, t₂, middle, t₁, earlier, net, m, run, hm, -, -, hexits⟩ := lost_again
  have hle := h _ net m run hm
  rw [hexits] at hle
  contradiction

/-- The manager that loses its connection twice was started between. -/
theorem Run.started_after_loss : ∃ turns net m,
    Run Outside (ofSettings [{ servers := ["bus://a"] }]) turns net ∧
      net.managers[0]? = some m ∧ m.exits = [lossCode, lossCode] ∧
      turns.countP (·.tellsEnd 0) = 2 ∧ 2 ≤ turns.countP (·.switchesOn 0) ∧
      ∃ u ∈ turns, u.Starts 0 ∧ u.switchesOn 0 = true := by
  have hnew : (ofSettings [{ servers := ["bus://a"] }]).IsNew := isNew_ofSettings (by simp; rfl)
  obtain ⟨later, t₂, middle, t₁, earlier, net, m, run, hm, h₁, h₂, hexits⟩ := lost_again
  obtain ⟨hcodes, hle, hbetween⟩ := run.one_end_per_start hnew hm
  obtain ⟨u, hu, hstarts⟩ := hbetween rfl h₁ h₂
  have hcount := congrArg List.length (hexits.symm.trans hcodes)
  rw [List.length_replicate] at hcount
  refine ⟨_, net, m, run, hm, hexits, hcount.symm, Nat.le_trans (Nat.le_of_eq hcount) hle, u, ?_, hstarts⟩
  simp [hu]

end ClaimRelay.Network
