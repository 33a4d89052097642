import ClaimRelay.Proofs.Manager.Holdings
import ClaimRelay.Proofs.Network.Tuned

/-! Time in a run.  The steps of managers take none, and what a manager holds changes only in the turns of
its dispatchers. -/

namespace ClaimRelay.Network

open Manager Manager.Scene

variable {Others : Network → Surroundings → Prop} {start net : Network} {i : Nat} {m m' : Manager}
  {t : Turn} {turns : List Turn}

/-- A manager that takes a step, other than one of its dispatchers, keeps what it holds, and no time goes
by. -/
theorem Turn.Valid.still (valid : t.Valid Others) (hm : t.before.managers[i]? = some m)
    (hm' : t.after.managers[i]? = some m') (hmove : t.move.manager? = some i)
    (hdispatch : ∀ n first, t.move ≠ .step (.dispatch i n first)) :
    (⟨m', t.after.around⟩ : Scene).still = (⟨m, t.before.around⟩ : Scene).still := by
  cases valid.acts hm hm' hmove with
  | request _ hs => exact (congrArg Scene.still hs).trans rfl
  | grant _ hs => exact still_grant hs
  | finish _ hs => exact still_finish hs
  | wake _ hs => exact still_wake hs
  | hear _ hs => exact still_hear hs
  | dispatch hmove => exact absurd hmove (hdispatch _ _)
  | release _ hs => exact (congrArg Scene.still hs).trans (still_release _)
  | reap _ hs => exact still_reap hs

/-- A manager that takes a step takes no time. -/
theorem Turn.Valid.now_eq (valid : t.Valid Others) (hm : t.before.managers[i]? = some m)
    (hmove : t.move.manager? = some i) : t.after.around.now = t.before.around.now := by
  obtain ⟨m', hm', -⟩ := valid.does hm
  by_cases hdispatch : ∃ n first, t.move = .step (.dispatch i n first)
  · obtain ⟨n, first, hn⟩ := hdispatch
    have hstep := valid.step?_eq hn
    simp only [step?] at hstep
    exact now_dispatch (onManager_scene hstep hm hm')
  · exact congrArg Prod.snd (valid.still hm hm' hmove fun n first hn => hdispatch ⟨n, first, hn⟩)

theorem Turn.Valid.now_le (valid : t.Valid Outside) :
    t.before.around.now ≤ t.after.around.now := by
  cases hturn : t.move.manager? with
  | some i =>
    obtain ⟨m, hm⟩ := valid.manager hturn
    exact Nat.le_of_eq (valid.now_eq hm hturn).symm
  | none =>
    rcases valid.idles hturn with ⟨around, hothers, hafter⟩ | ⟨now, hle, hafter⟩
    · rw [hafter]
      exact Nat.le_of_eq hothers.advances.1.symm
    · rw [hafter]
      exact hle

theorem Run.now_le (run : Run Outside start turns net) : start.around.now ≤ net.around.now := by
  induction run with
  | start => exact Nat.le_refl _
  | turn _ valid ih => exact Nat.le_trans ih valid.now_le

end ClaimRelay.Network
