import ClaimRelay.Network.Basic
import ClaimRelay.Proofs.Manager.Registered
import ClaimRelay.Proofs.Manager.Steps

/-! Runs of a network.  Each turn of a run is a step of the network, or something that others than its
managers do around them.  What others may do is a parameter of a run: anything at all, or only what can
be done on the bus inside the process, which is `Outside`. -/

namespace ClaimRelay.Network

open Manager Manager.Scene Bus

/-- What others than the managers may do on a bus and to its failures. -/
inductive Outside (net : Network) : Surroundings → Prop
  | fail (count : Nat) : Outside net { net.around with bus.failing := count }
  | delay (time : Option Nat) : Outside net { net.around with bus.delay := time }
  | refuse (count : Nat) : Outside net { net.around with refusing := count }
  | files (files : FileSystem) : Outside net { net.around with files }
  | beginConnect (options : Options) :
      Outside net { net.around with
        bus := (net.around.bus.beginConnect options net.around.files).2 }
  /-- A connection is made that reports to no manager. -/
  | finishConnect (options : Options) :
      Outside net { net.around with bus := (net.around.bus.finishConnect options net.outsider).2 }
  /-- A connection is closed, which may be one of a manager. -/
  | close (id : Nat) : Outside net { net.around with bus := net.around.bus.close id }
  | closeAll : Outside net { net.around with bus := net.around.bus.closeAll }
  /-- An event is reported, whether it is true or not. -/
  | report (event : Event) (id : Nat) :
      Outside net { net.around with bus := net.around.bus.report event id }
  | reportAll (event : Event) :
      Outside net { net.around with bus := net.around.bus.reportAll event }
  | announce (servers : List String) :
      Outside net { net.around with bus := net.around.bus.announce servers }
  | abandon : Outside net { net.around with bus := net.around.bus.abandon }
  | publish (id : Nat) (message : Message) :
      Outside net { net.around with bus := (net.around.bus.publish id message).2 }
  | subscribe (id : Nat) (pattern : String) :
      Outside net { net.around with bus := (net.around.bus.subscribe id pattern).2 }
  | receive (number : Nat) (first : Branch) :
      Outside net { net.around with bus := (net.around.bus.receive number first).2 }
  | unsubscribe (number : Nat) :
      Outside net { net.around with bus := net.around.bus.unsubscribe number }
  | hold (id : Nat) : Outside net (net.hold id).around
  | letGo (id : Nat) : Outside net (net.letGo id).around

/-- The manager that takes a step. -/
def Action.manager? : Action → Option Nat
  | .request i _ _ | .grant i | .finish i | .wake i _ | .hear i | .dispatch i _ _ | .release i
  | .reap i => some i
  | .tick _ => none

/-- What happens in a turn of a run. -/
inductive Move where
  | step (action : Action)
  | others

/-- The manager whose turn it is. -/
def Move.manager? : Move → Option Nat
  | .step action => action.manager?
  | .others => none

/-- A turn of a run. -/
structure Turn where
  before : Network
  move : Move
  after : Network

/-- A turn that can be taken, if others may do what `Others` says. -/
inductive Turn.Valid (Others : Network → Surroundings → Prop) : Turn → Prop
  | step {net net' : Network} {action : Action} (h : net.step? action = some net') :
      Valid Others ⟨net, .step action, net'⟩
  | others {net : Network} {around : Surroundings} (h : Others net around) :
      Valid Others ⟨net, .others, { net with around }⟩

/-- A run from `start`, with its turns, the latest first. -/
inductive Run (Others : Network → Surroundings → Prop) (start : Network) :
    List Turn → Network → Prop
  | start : Run Others start [] start
  | turn {turns : List Turn} {t : Turn} (run : Run Others start turns t.before)
      (valid : t.Valid Others) : Run Others start (t :: turns) t.after

namespace Run

variable {Others : Network → Surroundings → Prop} {start net net' : Network} {turns later : List Turn}

theorem step (run : Run Others start turns net) (action : Action)
    (h : net.step? action = some net') : Run Others start (⟨net, .step action, net'⟩ :: turns) net' :=
  .turn (t := ⟨net, .step action, net'⟩) run (.step h)

theorem others {around : Surroundings} (run : Run Others start turns net)
    (h : Others net around) :
    Run Others start (⟨net, .others, { net with around }⟩ :: turns) { net with around } :=
  .turn (t := ⟨net, .others, { net with around }⟩) run (.others h)

theorem trans (run : Run Others start turns net) (more : Run Others net later net') :
    Run Others start (later ++ turns) net' := by
  induction more with
  | start => exact run
  | turn _ valid ih => exact .turn ih valid

/-- A run may be cut before any of its turns. -/
theorem cut {t : Turn} (run : Run Others start (later ++ t :: turns) net) :
    Run Others start turns t.before ∧ t.Valid Others ∧ Run Others t.after later net := by
  induction later generalizing net with
  | nil =>
    cases run with
    | turn run valid => exact ⟨run, valid, .start⟩
  | cons last later ih =>
    cases run with
    | turn run valid =>
      obtain ⟨hbefore, ht, hlater⟩ := ih run
      exact ⟨hbefore, ht, .turn hlater valid⟩

/-- What holds before each turn of a run, and after it, holds as it starts. -/
theorem at_start {P : Network → Prop} (run : Run Others start turns net)
    (h : ∀ t ∈ turns, P t.before) (hnet : P net) : P start := by
  induction run with
  | start => exact hnet
  | turn _ _ ih => exact ih (fun t ht => h t (.tail _ ht)) (h _ (.head _))

/-- What happens between two turns of a run. -/
theorem between {t₁ t₂ : Turn} (run : Run Others start (later ++ t₁ :: turns) net)
    (h : t₂ ∈ later) : ∃ middle, Run Others t₁.after middle t₂.before ∧ t₂.Valid Others := by
  obtain ⟨_, _, hlater⟩ := run.cut
  obtain ⟨last, middle, rfl⟩ := List.append_of_mem h
  obtain ⟨hmiddle, ht₂, _⟩ := hlater.cut
  exact ⟨middle, hmiddle, ht₂⟩

end Run

/-- The turns in which a network takes the given steps one after another, and the network after them. -/
def replay (net : Network) : List Action → Option (List Turn × Network)
  | [] => some ([], net)
  | action :: actions =>
    match net.step? action with
    | none => none
    | some after => (replay after actions).map fun (later, last) =>
        (later ++ [⟨net, .step action, after⟩], last)

theorem Run.of_replay {Others : Network → Surroundings → Prop} {actions : List Action}
    {net last : Network} {turns : List Turn} (h : net.replay actions = some (turns, last)) :
    Run Others net turns last := by
  induction actions generalizing net turns with
  | nil =>
    obtain ⟨rfl, rfl⟩ := Prod.mk.inj (Option.some.inj h)
    exact .start
  | cons action actions ih =>
    unfold replay at h
    split at h
    · simp at h
    · rename_i after hstep
      obtain ⟨⟨later, last'⟩, hlater, heq⟩ := Option.map_eq_some_iff.mp h
      obtain ⟨rfl, rfl⟩ := Prod.mk.inj heq
      exact (Run.start.step action hstep).trans (ih hlater)

/-- What decides over the connection of a manager, with the registry of the network. -/
def link (net : Network) (m : Manager) : Link := ⟨m.toControl, net.around.bus.toRegistry⟩

variable {Others : Network → Surroundings → Prop} {start net net' : Network} {i : Nat}
  {m m' : Manager} {t : Turn} {turns : List Turn}

/-! ### One turn -/

theorem onManager_eq_some {step : Scene → Option Scene} (h : net.onManager i step = some net') :
    ∃ m s, net.managers[i]? = some m ∧ step ⟨m, net.around⟩ = some s ∧
      net' = { around := s.around, managers := net.managers.set i s.manager } := by
  unfold onManager at h
  split at h
  · simp at h
  · rename_i m hm
    split at h
    · simp at h
    · rename_i s hs
      exact ⟨m, s, hm, hs, (Option.some.inj h).symm⟩

/-- What a step of the manager at place `i` does to its scene. -/
theorem onManager_scene {step : Scene → Option Scene} (h : net.onManager i step = some net')
    (hm : net.managers[i]? = some m) (hm' : net'.managers[i]? = some m') :
    step ⟨m, net.around⟩ = some ⟨m', net'.around⟩ := by
  obtain ⟨m₀, s, hm₀, hs, rfl⟩ := onManager_eq_some h
  obtain rfl : m₀ = m := Option.some.inj (hm₀.symm.trans hm)
  obtain rfl : s.manager = m' := by
    simpa [(List.getElem?_eq_some_iff.mp hm).1] using hm'
  exact hs

/-- The step that the manager at place `i` takes in its turn, from the scene `s` to the scene `s'`. -/
inductive Turn.Acts (t : Turn) (i : Nat) (s s' : Scene) : Prop
  | request {ticket : Nat} {call : Call} (hmove : t.move = .step (.request i ticket call))
      (h : s' = s.request ticket call)
  | grant (hmove : t.move = .step (.grant i)) (h : s.grant = some s')
  | finish (hmove : t.move = .step (.finish i)) (h : s.finish = some s')
  | wake {id : Nat} (hmove : t.move = .step (.wake i id)) (h : s.wake id = some s')
  | hear (hmove : t.move = .step (.hear i)) (h : s.hear = some s')
  | dispatch {subscription : Nat} {first : Branch}
      (hmove : t.move = .step (.dispatch i subscription first))
      (h : s.dispatch subscription first = some s')
  | release (hmove : t.move = .step (.release i)) (h : s' = s.release)
  | reap (hmove : t.move = .step (.reap i)) (h : s.reap = some s')

/-- What a turn does to the manager at place `i`. -/
inductive Turn.Does (t : Turn) (i : Nat) (m m' : Manager) : Prop
  /-- Its first waiter gets the lock. -/
  | grant {w : Waiter} {rest : List Waiter} (hmove : t.move = .step (.grant i))
      (hq : m.queue = w :: rest) (free : m.attempt = none)
      (h : Link.Served w
        { t.before.link m with control := { (t.before.link m).control with queue := rest } }
        (t.after.link m'))
  /-- It takes another step. -/
  | aside (hmove : t.move.manager? = some i) (hgrant : t.move ≠ .step (.grant i))
      (h : Link.Aside (t.before.link m) (t.after.link m'))
  /-- It is not the turn of the manager. -/
  | others (hmove : t.move.manager? ≠ some i) (h : m' = m)

/-- A step changes no manager but the one that takes it. -/
theorem managers_of_step {action : Action} (h : net.step? action = some net') :
    net'.managers.length = net.managers.length ∧
      ∀ i, action.manager? ≠ some i → net'.managers[i]? = net.managers[i]? := by
  have hmanager {j : Nat} {step : Scene → Option Scene} (h : net.onManager j step = some net') :
      net'.managers.length = net.managers.length ∧
        ∀ i, some j ≠ some i → net'.managers[i]? = net.managers[i]? := by
    obtain ⟨m, s, -, -, rfl⟩ := onManager_eq_some h
    refine ⟨List.length_set, fun i hi => ?_⟩
    exact List.getElem?_set_ne (by simpa using hi)
  cases action with
  | tick now =>
    simp only [step?] at h
    split at h
    · obtain rfl := Option.some.inj h
      exact ⟨rfl, fun _ _ => rfl⟩
    · simp at h
  | _ =>
    simp only [step?] at h
    exact hmanager h

theorem manager_of_step {action : Action} (h : net.step? action = some net')
    (hi : action.manager? = some i) : ∃ m, net.managers[i]? = some m := by
  have hmanager {step : Scene → Option Scene} (h : net.onManager i step = some net') :
      ∃ m, net.managers[i]? = some m := by
    obtain ⟨m, -, hm, -⟩ := onManager_eq_some h
    exact ⟨m, hm⟩
  cases action with
  | tick now => simp [Action.manager?] at hi
  | _ =>
    obtain rfl := Option.some.inj hi
    simp only [step?] at h
    exact hmanager h

namespace Turn

theorem Valid.step?_eq {action : Action} (valid : t.Valid Others) (hmove : t.move = .step action) :
    t.before.step? action = some t.after := by
  cases valid with
  | others => simp at hmove
  | step hstep =>
    obtain rfl := Move.step.inj hmove
    exact hstep

/-- A manager whose turn it is takes a step. -/
theorem Valid.acts (valid : t.Valid Others) (hm : t.before.managers[i]? = some m)
    (hm' : t.after.managers[i]? = some m') (hmove : t.move.manager? = some i) :
    t.Acts i ⟨m, t.before.around⟩ ⟨m', t.after.around⟩ := by
  cases valid with
  | others => simp [Move.manager?] at hmove
  | @step net net' action hstep =>
    have hscene {step : Scene → Option Scene} (h : net.onManager i step = some net') :
        step ⟨m, net.around⟩ = some ⟨m', net'.around⟩ := onManager_scene h hm hm'
    cases action with
    | tick => simp [Move.manager?, Action.manager?] at hmove
    | request =>
      obtain rfl := Option.some.inj hmove
      simp only [step?] at hstep
      have hs := hscene hstep
      exact .request rfl (Option.some.inj hs).symm
    | grant =>
      obtain rfl := Option.some.inj hmove
      exact .grant rfl (hscene hstep)
    | finish =>
      obtain rfl := Option.some.inj hmove
      exact .finish rfl (hscene hstep)
    | wake =>
      obtain rfl := Option.some.inj hmove
      exact .wake rfl (hscene hstep)
    | hear =>
      obtain rfl := Option.some.inj hmove
      exact .hear rfl (hscene hstep)
    | dispatch =>
      obtain rfl := Option.some.inj hmove
      simp only [step?] at hstep
      exact .dispatch rfl (hscene hstep)
    | release =>
      obtain rfl := Option.some.inj hmove
      simp only [step?] at hstep
      have hs := hscene hstep
      exact .release rfl (Option.some.inj hs).symm
    | reap =>
      obtain rfl := Option.some.inj hmove
      exact .reap rfl (hscene hstep)

/-- In the turn of no manager others do something, or time goes by. -/
theorem Valid.idles (valid : t.Valid Others) (hmove : t.move.manager? = none) :
    (∃ around, Others t.before around ∧ t.after = { t.before with around }) ∨
      ∃ now, t.before.around.now ≤ now ∧ t.after = { t.before with around.now := now } := by
  cases valid with
  | others h => exact .inl ⟨_, h, rfl⟩
  | @step net net' action hstep =>
    cases action with
    | tick now =>
      simp only [step?] at hstep
      split at hstep
      · rename_i hle
        exact .inr ⟨now, hle, (Option.some.inj hstep).symm⟩
      · simp at hstep
    | _ => simp [Move.manager?, Action.manager?] at hmove

theorem Valid.manager (valid : t.Valid Others) (hmove : t.move.manager? = some i) :
    ∃ m, t.before.managers[i]? = some m := by
  cases valid with
  | step hstep => exact manager_of_step hstep hmove
  | others => simp [Move.manager?] at hmove

theorem Valid.length_managers (valid : t.Valid Others) :
    t.after.managers.length = t.before.managers.length := by
  cases valid with
  | step h => exact (managers_of_step h).1
  | others h => rfl

/-- The turns of others leave a manager as it is. -/
theorem Valid.getElem?_managers (valid : t.Valid Others) (hmove : t.move.manager? ≠ some i) :
    t.after.managers[i]? = t.before.managers[i]? := by
  cases valid with
  | step h => exact (managers_of_step h).2 i hmove
  | others h => rfl

theorem Acts.does (h : t.Acts i ⟨m, t.before.around⟩ ⟨m', t.after.around⟩) : t.Does i m m' := by
  cases h with
  | @request ticket call hmove h =>
    refine .aside (hmove ▸ rfl) (by simp [hmove]) ?_
    have haside := request_aside ticket call ⟨m, t.before.around⟩
    rw [← h] at haside
    exact haside
  | grant hmove h =>
    obtain ⟨w, rest, free, hq, hserved⟩ := grant_served h
    exact .grant hmove hq free hserved
  | finish hmove h => exact .aside (hmove ▸ rfl) (by simp [hmove]) (finish_aside h)
  | wake hmove h => exact .aside (hmove ▸ rfl) (by simp [hmove]) (wake_aside h)
  | hear hmove h => exact .aside (hmove ▸ rfl) (by simp [hmove]) (hear_aside h)
  | dispatch hmove h => exact .aside (hmove ▸ rfl) (by simp [hmove]) (dispatch_aside h)
  | release hmove h =>
    refine .aside (hmove ▸ rfl) (by simp [hmove]) ?_
    have haside := release_aside ⟨m, t.before.around⟩
    rw [← h] at haside
    exact haside
  | reap hmove h => exact .aside (hmove ▸ rfl) (by simp [hmove]) (reap_aside h)

theorem Valid.does (valid : t.Valid Others) (hm : t.before.managers[i]? = some m) :
    ∃ m', t.after.managers[i]? = some m' ∧ t.Does i m m' := by
  by_cases hmove : t.move.manager? = some i
  · have hi : i < t.before.managers.length := (List.getElem?_eq_some_iff.mp hm).1
    have hlength : t.after.managers.length = t.before.managers.length := valid.length_managers
    have hm' := List.getElem?_eq_getElem (hlength ▸ hi)
    exact ⟨_, hm', (valid.acts hm hm' hmove).does⟩
  · exact ⟨m, (valid.getElem?_managers hmove).trans hm, .others hmove rfl⟩

/-- What a turn did to the manager that is at place `i` after it. -/
theorem Valid.done (valid : t.Valid Others) (hm' : t.after.managers[i]? = some m') :
    ∃ m, t.before.managers[i]? = some m ∧ t.Does i m m' := by
  have hi : i < t.before.managers.length := by
    rw [← valid.length_managers]
    exact (List.getElem?_eq_some_iff.mp hm').1
  obtain ⟨m'', hm'', hdoes⟩ := valid.does (List.getElem?_eq_getElem hi)
  obtain rfl : m'' = m' := Option.some.inj (hm''.symm.trans hm')
  exact ⟨_, List.getElem?_eq_getElem hi, hdoes⟩

theorem Does.change (h : t.Does i m m') :
    t.move.manager? = some i ∧ Link.Change (t.before.link m) (t.after.link m') ∨
      t.move.manager? ≠ some i ∧ m' = m := by
  cases h with
  | grant hmove hq free hserved => exact .inl ⟨by rw [hmove]; rfl, .grant hq free hserved⟩
  | aside hmove _ haside => exact .inl ⟨hmove, .aside haside⟩
  | others hmove h => exact .inr ⟨hmove, h⟩

end Turn

theorem countP_cons_toNat (p : Turn → Bool) (t : Turn) (turns : List Turn) :
    (t :: turns).countP p = turns.countP p + (p t).toNat := by
  rw [List.countP_cons]
  cases p t <;> rfl

theorem Run.length_managers (run : Run Others start turns net) :
    net.managers.length = start.managers.length := by
  induction run with
  | start => rfl
  | turn _ valid ih => exact valid.length_managers.trans ih

theorem Run.manager_after (run : Run Others start turns net) (hm : start.managers[i]? = some m) :
    ∃ m', net.managers[i]? = some m' := by
  have hi : i < net.managers.length := by
    rw [run.length_managers]
    exact (List.getElem?_eq_some_iff.mp hm).1
  exact ⟨_, List.getElem?_eq_getElem hi⟩

theorem Run.manager_at_start (run : Run Others start turns net) (hm : net.managers[i]? = some m) :
    ∃ m₀, start.managers[i]? = some m₀ := by
  have hi : i < start.managers.length := by
    rw [← run.length_managers]
    exact (List.getElem?_eq_some_iff.mp hm).1
  exact ⟨_, List.getElem?_eq_getElem hi⟩

/-- A manager is there in every turn of a run. -/
theorem Run.manager_before {later : List Turn}
    (run : Run Others start (later ++ t :: turns) net) (hm : net.managers[i]? = some m) :
    ∃ m₀, t.before.managers[i]? = some m₀ := by
  obtain ⟨hbefore, -, -⟩ := run.cut
  obtain ⟨m₀, hm₀⟩ := run.manager_at_start hm
  exact hbefore.manager_after hm₀

end ClaimRelay.Network
