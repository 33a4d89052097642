import ClaimRelay.Network.Schedule
import ClaimRelay.Proofs.Network.Clock
import Mathlib.Logic.Relation

/-! What the order of a network's steps makes of its runs.  In a prompt run time goes on only while no
manager can do anything, and never past a moment at which something is due.  As the time goes on to a
moment the run is prompt, and it ends at that moment with nothing left to do, if the steps that can be taken
at one moment always come to an end. -/

namespace ClaimRelay.Network

open Manager Manager.Scene Relation

/-- Whether a manager takes a step without being asked to. -/
def Action.isOwn : Action → Bool
  | .request .. | .release _ | .tick _ => false
  | _ => true

/-- A manager takes a step without being asked to. -/
def Proceeds (net net' : Network) : Prop :=
  ∃ action, action.isOwn = true ∧ net.step? action = some net'

/-- No manager can do anything before time goes on. -/
def IsIdle (net : Network) : Prop := ∀ net', ¬net.Proceeds net'

/-- The networks that a prompt run reaches. -/
inductive Prompt (first : Network) : Network → Prop
  | start : Prompt first first
  | proceeds {net net' : Network} (h : Prompt first net) (hstep : net.Proceeds net') :
    Prompt first net'
  | waits {net : Network} {now : Nat} (h : Prompt first net) (idle : net.IsIdle)
      (forward : net.around.now ≤ now) (due : ∀ d ∈ net.dues, now ≤ d.due) :
    Prompt first { net with around.now := now }

variable {first net net' : Network} {action : Action} {i : Nat} {m : Manager} {d : Due}

theorem Action.manager?_of_isOwn (h : action.isOwn = true) : ∃ i, action.manager? = some i := by
  cases action with
  | request | release | tick => simp [isOwn] at h
  | _ => exact ⟨_, rfl⟩

theorem Proceeds.now_eq (h : net.Proceeds net') : net'.around.now = net.around.now := by
  obtain ⟨action, hown, hstep⟩ := h
  obtain ⟨i, hi⟩ := Action.manager?_of_isOwn hown
  have valid : Turn.Valid Outside ⟨net, .step action, net'⟩ := .step hstep
  obtain ⟨m, hm⟩ := valid.manager hi
  exact valid.now_eq hm hi

theorem Prompt.steps (h : Prompt first net) (hsteps : ReflTransGen Proceeds net net') :
    Prompt first net' := by
  induction hsteps with
  | refl => exact h
  | tail _ hstep ih => exact ih.proceeds hstep

theorem now_eq_of_steps (h : ReflTransGen Proceeds net net') :
    net'.around.now = net.around.now := by
  induction h with
  | refl => rfl
  | tail _ hstep ih => exact hstep.now_eq.trans ih

/-! ### What is due -/

theorem mem_places : (i, m) ∈ net.places ↔ net.managers[i]? = some m := by
  rw [places, List.mem_iff_getElem?]
  constructor
  · rintro ⟨k, hk⟩
    obtain ⟨hi, hm⟩ := List.getElem?_zip_eq_some.mp hk
    obtain ⟨hk, hki⟩ := List.getElem?_eq_some_iff.mp hi
    obtain rfl : k = i := by simpa using hki
    exact hm
  · intro hm
    have hi := (List.getElem?_eq_some_iff.mp hm).1
    exact ⟨i, List.getElem?_zip_eq_some.mpr ⟨List.getElem?_range hi, hm⟩⟩

theorem mem_dues : d ∈ net.dues ↔ ∃ i m, net.managers[i]? = some m ∧ d ∈ managerDues i m := by
  simp [dues, mem_places]

theorem mem_managerDues : d ∈ managerDues i m ↔
    (∃ a, m.attempt = some a ∧ d = ⟨a.due, a.serial, .finish i⟩) ∨
      ∃ id timer, (id, timer) ∈ m.timers ∧ d = ⟨timer.due, timer.serial, .wake i id⟩ := by
  unfold managerDues
  cases m.attempt with
  | none => simp [eq_comm]
  | some a => simp [eq_comm]

/-- The one of two things that becomes due first. -/
def Due.sooner (f d : Due) : Due := if d.isBefore f then d else f

theorem Due.sooner_le (f d : Due) : (f.sooner d).due ≤ f.due ∧ (f.sooner d).due ≤ d.due := by
  unfold sooner
  split
  · rename_i hbefore
    simp only [isBefore, Bool.or_eq_true, Bool.and_eq_true, decide_eq_true_eq] at hbefore
    omega
  · rename_i hbefore
    simp only [isBefore, Bool.or_eq_true, Bool.and_eq_true, decide_eq_true_eq] at hbefore
    omega

theorem Due.sooner_eq_or (f d : Due) : f.sooner d = f ∨ f.sooner d = d := by
  unfold sooner
  split
  · exact .inr rfl
  · exact .inl rfl

/-- Of some things that become due, none becomes due before the soonest one. -/
theorem Due.foldl_sooner (ds : List Due) (f : Due) :
    ds.foldl sooner f ∈ f :: ds ∧ ∀ d ∈ f :: ds, (ds.foldl sooner f).due ≤ d.due := by
  induction ds generalizing f with
  | nil => simp
  | cons d ds ih =>
    obtain ⟨hmem, hleast⟩ := ih (f.sooner d)
    obtain ⟨hf, hd⟩ := f.sooner_le d
    have hsooner := hleast (f.sooner d) List.mem_cons_self
    rw [List.foldl_cons]
    constructor
    · rcases List.mem_cons.mp hmem with hhead | htail
      · rw [hhead]
        rcases f.sooner_eq_or d with h | h <;> simp [h]
      · exact List.mem_cons_of_mem _ (List.mem_cons_of_mem _ htail)
    · intro e he
      rcases List.mem_cons.mp he with rfl | he
      · exact Nat.le_trans hsooner hf
      · rcases List.mem_cons.mp he with rfl | he
        · exact Nat.le_trans hsooner hd
        · exact hleast e (List.mem_cons_of_mem _ he)

theorem firstDue?_of_dues {ds : List Due} (h : net.dues = d :: ds) :
    net.firstDue? = some (ds.foldl Due.sooner d) := by
  rw [firstDue?, h, List.foldl_cons]
  refine List.foldl_hom some fun f e => ?_
  exact (apply_ite some ..).symm

theorem firstDue?_eq_none (h : net.firstDue? = none) : net.dues = [] := by
  cases hdues : net.dues with
  | nil => rfl
  | cons d ds => simp [firstDue?_of_dues hdues] at h

theorem firstDue?_eq_some (h : net.firstDue? = some d) :
    d ∈ net.dues ∧ ∀ e ∈ net.dues, d.due ≤ e.due := by
  cases hdues : net.dues with
  | nil => simp [firstDue?, hdues] at h
  | cons f ds =>
    obtain rfl := Option.some.inj ((firstDue?_of_dues hdues).symm.trans h)
    exact Due.foldl_sooner ds f

theorem dueAction?_eq_some (h : net.dueAction? = some action) :
    ∃ d ∈ net.dues, d.due ≤ net.around.now ∧ d.action = action := by
  obtain ⟨d, hd, haction⟩ := Option.bind_eq_some_iff.mp h
  split at haction
  · rename_i hdue
    exact ⟨d, (firstDue?_eq_some hd).1, hdue, Option.some.inj haction⟩
  · simp at haction

theorem dueAction?_eq_none (h : net.dueAction? = none) (hd : d ∈ net.dues) :
    net.around.now < d.due := by
  cases hfirst : net.firstDue? with
  | none =>
    rw [firstDue?_eq_none hfirst] at hd
    simp at hd
  | some e =>
    rw [dueAction?, hfirst, Option.bind_some] at h
    split at h
    · simp at h
    · rename_i hlater
      exact Nat.lt_of_lt_of_le (Nat.lt_of_not_le hlater) ((firstDue?_eq_some hfirst).2 d hd)

/-! ### The next step -/

theorem onManager_isSome {step : Scene → Option Scene} (hm : net.managers[i]? = some m)
    (hs : (step ⟨m, net.around⟩).isSome) : (net.onManager i step).isSome := by
  obtain ⟨s, hs⟩ := Option.isSome_iff_exists.mp hs
  simp [onManager, hm, hs]

/-- The retries that wait in a manager have different numbers. -/
def HasNumbers (net : Network) : Prop :=
  ∀ m ∈ net.managers, (m.timers.map (·.1)).Nodup

/-- What is due can be done. -/
theorem step?_isSome_of_due (hnumbers : net.HasNumbers) (hd : d ∈ net.dues)
    (hdue : d.due ≤ net.around.now) : (net.step? d.action).isSome := by
  obtain ⟨i, m, hm, hd⟩ := mem_dues.mp hd
  rcases mem_managerDues.mp hd with ⟨a, ha, rfl⟩ | ⟨id, timer, htimer, rfl⟩
  · exact onManager_isSome hm (finish_isSome (s := ⟨m, net.around⟩) ha hdue)
  · have hget : m.timers.get? id = some timer :=
      Table.get?_of_mem (hnumbers m (List.mem_of_getElem? hm)) htimer
    exact onManager_isSome hm (wake_isSome (s := ⟨m, net.around⟩) hget hdue)

/-- If a manager can take a step without being asked, something is due, or one of the steps that are tried
otherwise can be taken. -/
theorem due_or_candidate (hown : action.isOwn = true) (h : net.step? action = some net') :
    (∃ d ∈ net.dues, d.due ≤ net.around.now) ∨
      ∃ other ∈ net.candidates, (net.step? other).isSome := by
  have hsome : (net.step? action).isSome := Option.isSome_iff_exists.mpr ⟨net', h⟩
  cases action with
  | request | release | tick => simp [Action.isOwn] at hown
  | finish i =>
    obtain ⟨m, s, hm, hs, -⟩ := onManager_eq_some h
    obtain ⟨a, -, ha, hdue, -⟩ := finish_eq_some hs
    exact .inl ⟨_, mem_dues.mpr ⟨i, m, hm, mem_managerDues.mpr (.inl ⟨a, ha, rfl⟩)⟩, hdue⟩
  | wake i id =>
    obtain ⟨m, s, hm, hs, -⟩ := onManager_eq_some h
    obtain ⟨timer, htimer, hdue, -⟩ := wake_eq_some hs
    have hmem := Table.mem_of_get? htimer
    exact .inl ⟨_, mem_dues.mpr ⟨i, m, hm, mem_managerDues.mpr (.inr ⟨id, timer, hmem, rfl⟩)⟩, hdue⟩
  | reap i =>
    obtain ⟨m, s, hm, -, -⟩ := onManager_eq_some h
    exact .inr ⟨_, by simpa [candidates] using ⟨m, mem_places.mpr hm⟩, hsome⟩
  | grant i =>
    obtain ⟨m, s, hm, -, -⟩ := onManager_eq_some h
    exact .inr ⟨_, by simpa [candidates] using ⟨m, mem_places.mpr hm⟩, hsome⟩
  | hear i =>
    obtain ⟨m, s, hm, -, -⟩ := onManager_eq_some h
    exact .inr ⟨_, by simpa [candidates] using ⟨m, mem_places.mpr hm⟩, hsome⟩
  | dispatch i subscription first =>
    simp only [step?] at h
    obtain ⟨m, s, hm, hs, -⟩ := onManager_eq_some h
    obtain ⟨d, hd, hsubscription, -⟩ := dispatch_eq_some hs
    have hmem := List.mem_of_find?_eq_some hd
    refine .inr ⟨.dispatch i subscription, ?_, ?_⟩
    · simpa [candidates] using ⟨m, mem_places.mpr hm, d, hmem, hsubscription⟩
    · show (net.onManager i (·.dispatch subscription)).isSome
      exact onManager_isSome hm (dispatch_isSome hs)

theorem isOwn_of_mem_candidates (h : action ∈ net.candidates) : action.isOwn = true := by
  simp only [candidates, List.mem_append, List.mem_map, List.mem_flatMap] at h
  rcases h with ((⟨_, -, rfl⟩ | ⟨_, -, rfl⟩) | ⟨_, -, rfl⟩) | ⟨_, -, _, -, rfl⟩ <;> rfl

theorem isOwn_of_mem_dues (h : d ∈ net.dues) : d.action.isOwn = true := by
  obtain ⟨i, m, -, hd⟩ := mem_dues.mp h
  rcases mem_managerDues.mp hd with ⟨a, -, rfl⟩ | ⟨id, timer, -, rfl⟩ <;> rfl

/-- The next step is one that a manager takes, or two of them: a retry whose time has come gets the lock at
once. -/
theorem next?_proceeds (h : net.next? = some net') : TransGen Proceeds net net' := by
  unfold next? at h
  split at h
  · rename_i i id hdue
    obtain ⟨woken, hwake, hgrant⟩ := Option.map_eq_some_iff.mp h
    have hwoken : TransGen Proceeds net woken := .single ⟨.wake i id, rfl, hwake⟩
    cases hstep : woken.step? (.grant i) with
    | none =>
      rw [hstep, Option.getD_none] at hgrant
      exact hgrant ▸ hwoken
    | some granted =>
      rw [hstep, Option.getD_some] at hgrant
      exact hgrant ▸ hwoken.tail ⟨.grant i, rfl, hstep⟩
  · rename_i action _ hdue
    obtain ⟨d, hd, -, rfl⟩ := dueAction?_eq_some hdue
    exact .single ⟨d.action, isOwn_of_mem_dues hd, h⟩
  · obtain ⟨action, haction, hstep⟩ := List.exists_of_findSome?_eq_some h
    exact .single ⟨action, isOwn_of_mem_candidates haction, hstep⟩

theorem isIdle_of_next?_eq_none (hnumbers : net.HasNumbers) (h : net.next? = none) : net.IsIdle := by
  rintro net' ⟨action, hown, hstep⟩
  unfold next? at h
  split at h
  · rename_i i id hdue
    obtain ⟨d, hd, hnow, haction⟩ := dueAction?_eq_some hdue
    have hsome := step?_isSome_of_due hnumbers hd hnow
    rw [haction, Option.map_eq_none_iff.mp h] at hsome
    simp at hsome
  · rename_i due _ hdue
    obtain ⟨d, hd, hnow, rfl⟩ := dueAction?_eq_some hdue
    have hsome := step?_isSome_of_due hnumbers hd hnow
    simp [h] at hsome
  · rename_i hdue
    rcases due_or_candidate hown hstep with ⟨d, hd, hnow⟩ | ⟨other, hcandidate, hsome⟩
    · exact absurd (dueAction?_eq_none hdue hd) (Nat.not_lt.mpr hnow)
    · have hnone := List.findSome?_eq_none_iff.mp h other hcandidate
      simp [hnone] at hsome

theorem IsIdle.step? (h : net.IsIdle) (action : Action) (hown : action.isOwn = true) :
    ¬(net.step? action).isSome := by
  intro hsome
  obtain ⟨net', hstep⟩ := Option.isSome_iff_exists.mp hsome
  exact h net' ⟨action, hown, hstep⟩

theorem IsIdle.lt_due (h : net.IsIdle) (hnumbers : net.HasNumbers) (hd : d ∈ net.dues) :
    net.around.now < d.due :=
  Nat.lt_of_not_le fun hdue =>
    h.step? d.action (isOwn_of_mem_dues hd) (step?_isSome_of_due hnumbers hd hdue)

theorem IsIdle.lt_timer (h : net.IsIdle) (hm : net.managers[i]? = some m) {id : Nat} {timer : Timer}
    (htimer : m.timers.get? id = some timer) : net.around.now < timer.due := by
  refine Nat.lt_of_not_le fun hdue => ?_
  have hwakes := wake_isSome (s := ⟨m, net.around⟩) htimer hdue
  exact h.step? (.wake i id) rfl (onManager_isSome hm hwakes)

/-- While no manager can do anything, a waiter waits for an attempt whose time has not come. -/
theorem IsIdle.lt_attempt (h : net.IsIdle) (hm : net.managers[i]? = some m) {w : Waiter}
    (hw : w ∈ m.queue) : ∃ a, m.attempt = some a ∧ net.around.now < a.due := by
  obtain ⟨first, rest, hq⟩ := List.exists_cons_of_ne_nil (List.ne_nil_of_mem hw)
  cases ha : m.attempt with
  | none =>
    have hgrants := grant_isSome (s := ⟨m, net.around⟩) ha hq
    exact absurd (onManager_isSome hm hgrants) (h.step? (.grant i) rfl)
  | some a =>
    refine ⟨a, rfl, Nat.lt_of_not_le fun hdue => ?_⟩
    have hends := finish_isSome (s := ⟨m, net.around⟩) ha hdue
    exact h.step? (.finish i) rfl (onManager_isSome hm hends)

/-! ### Settling -/

theorem run_steps (fuel : Nat) (net : Network) : ReflTransGen Proceeds net (net.run fuel) := by
  induction fuel generalizing net with
  | zero => exact .refl
  | succ fuel ih =>
    unfold run
    split
    · exact .refl
    · rename_i net' hnext
      exact (next?_proceeds hnext).to_reflTransGen.trans (ih net')

/-- A network in which each step leaves less to do comes to an end of its steps. -/
theorem next?_run {P : Network → Prop} {effort : Network → Nat}
    (hstep : ∀ {net net'}, P net → net.Proceeds net' → P net' ∧ effort net' < effort net)
    {fuel : Nat} (h : P net) (hfuel : effort net < fuel) : (net.run fuel).next? = none := by
  have hsteps {net net' : Network} (h : P net) (hnext : TransGen Proceeds net net') :
      P net' ∧ effort net' < effort net := by
    induction hnext with
    | single hfirst => exact hstep h hfirst
    | tail _ hlast ih =>
      obtain ⟨hkept, hless⟩ := hstep ih.1 hlast
      exact ⟨hkept, Nat.lt_trans hless ih.2⟩
  induction fuel generalizing net with
  | zero => omega
  | succ fuel ih =>
    unfold run
    split
    · assumption
    · rename_i net' hnext
      obtain ⟨hkept, hless⟩ := hsteps h (next?_proceeds hnext)
      exact ih hkept (by omega)

/-! ### Time -/

theorem nextMoment_le (net : Network) {now target : Nat} (h : now < target) :
    net.nextMoment now target ≤ target := by
  unfold nextMoment
  split <;> omega

theorem nextMoment_le_due {now target : Nat} (hd : d ∈ net.dues) (hlater : now < d.due) :
    net.nextMoment now target ≤ d.due := by
  unfold nextMoment
  split
  · rename_i e he
    have hleast := (firstDue?_eq_some he).2 d hd
    omega
  · rename_i hnone
    rw [firstDue?_eq_none hnone] at hd
    simp at hd

/-- `P` holds throughout a prompt run, and there is always an end to the steps at one moment: each step
leaves less to do, and there is less to do than the number of steps that are taken. -/
structure Settles (P : Network → Prop) (effort : Network → Nat) : Prop where
  numbers : ∀ {net}, P net → net.HasNumbers
  proceeds : ∀ {net net'}, P net → net.Proceeds net' → P net' ∧ effort net' < effort net
  waits : ∀ {net now}, P net → net.IsIdle → net.around.now ≤ now → (∀ d ∈ net.dues, now ≤ d.due) →
    P { net with around.now := now }
  work : ∀ {net}, P net → effort net < net.work

namespace Settles

variable {P : Network → Prop} {effort : Network → Nat} (hs : Settles P effort)

include hs

theorem prompt (hfirst : P first) (h : Prompt first net) : P net := by
  induction h with
  | start => exact hfirst
  | proceeds _ hstep ih => exact (hs.proceeds ih hstep).1
  | waits _ idle forward due ih => exact hs.waits ih idle forward due

theorem isIdle (h : P net) : net.settle.IsIdle := by
  have hkept : P net.settle := hs.prompt h (Prompt.start.steps (run_steps _ _))
  exact isIdle_of_next?_eq_none (hs.numbers hkept) (next?_run hs.proceeds h (hs.work h))

/-- As the time goes on to a moment, it goes on promptly, and at that moment nothing is left to do. -/
theorem advanceFrom {now target : Nat} (hfirst : P first)
    (hrun : Prompt first { net with around.now := now }) :
    Prompt first (net.advanceFrom now target) ∧ (net.advanceFrom now target).IsIdle ∧
      (net.advanceFrom now target).around.now = max now target := by
  fun_induction Network.advanceFrom now target net with
  | case1 now net settled hlt ih =>
    have hsteps : ReflTransGen Proceeds { net with around.now := now } settled := run_steps _ _
    have hsettled : Prompt first settled := hrun.steps hsteps
    have hidle : settled.IsIdle := hs.isIdle (hs.prompt hfirst hrun)
    have hnow : settled.around.now = now := now_eq_of_steps hsteps
    have hnext := settled.nextMoment_le hlt
    have hforward : settled.around.now ≤ settled.nextMoment now target := by
      rw [hnow]
      exact Nat.le_of_lt (settled.lt_nextMoment hlt)
    have hdue (d : Due) (hd : d ∈ settled.dues) : settled.nextMoment now target ≤ d.due := by
      have hlater := hidle.lt_due (hs.numbers (hs.prompt hfirst hsettled)) hd
      rw [hnow] at hlater
      exact nextMoment_le_due hd hlater
    obtain ⟨hprompt, hrest, htime⟩ := ih (hsettled.waits hidle hforward hdue)
    exact ⟨hprompt, hrest, by omega⟩
  | case2 now net settled hend =>
    have hsteps : ReflTransGen Proceeds { net with around.now := now } settled := run_steps _ _
    have hnow : settled.around.now = now := now_eq_of_steps hsteps
    exact ⟨hrun.steps hsteps, hs.isIdle (hs.prompt hfirst hrun), by omega⟩

theorem advanceTo (target : Nat) (hfirst : P first) (hrun : Prompt first net) :
    Prompt first (net.advanceTo target) ∧ (net.advanceTo target).IsIdle ∧
      (net.advanceTo target).around.now = max net.around.now target :=
  hs.advanceFrom hfirst hrun

/-- It makes no difference at which moments the network is looked at on the way. -/
theorem advanceAll {looks : List Nat} {target : Nat} (hlooks : ∀ look ∈ looks, look ≤ target)
    (hfirst : P first) (hrun : Prompt first net) (hle : net.around.now ≤ target) :
    Prompt first (looks.foldl (fun net look => net.advanceTo look) net) ∧
      (looks.foldl (fun net look => net.advanceTo look) net).around.now ≤ target := by
  induction looks generalizing net with
  | nil => exact ⟨hrun, hle⟩
  | cons look looks ih =>
    obtain ⟨hprompt, -, htime⟩ := hs.advanceTo look hfirst hrun
    have hlater : (net.advanceTo look).around.now ≤ target := by
      rw [htime]
      exact Nat.max_le.mpr ⟨hle, hlooks look List.mem_cons_self⟩
    exact ih (fun l hl => hlooks l (List.mem_cons_of_mem _ hl)) hprompt hlater

end Settles

end ClaimRelay.Network
