import ClaimRelay.Proofs.Manager.Attempt
import ClaimRelay.Proofs.Network.Solo
import ClaimRelay.Proofs.Network.Sound

/-! The timetable of one server that is alone on a bus which refuses some attempts to connect.  An attempt
lasts until the bus answers it or it is given up, and the wait follows it.  The server is connected at the
end of the first attempt that the bus does not refuse. -/

namespace ClaimRelay

open Manager Manager.Scene Bus

/-- A server with a bus to connect to, the files that its attempts ask for, and the failures and the delay
of the bus. -/
structure Trial where
  settings : Settings
  listener : Nat
  files : FileSystem
  capacity : Capacity
  /-- How many attempts the bus refuses. -/
  failures : Nat
  /-- How long the bus takes to answer an attempt, unless it answers at once. -/
  delay : Option Nat
  enabled : settings.isEnabled = true
  found : settings.connectOptions.check files = .ok ()
  pauses : 0 < settings.reconnectWait.toNat

namespace Trial

variable (p : Trial)

/-- How long the server waits after a failed attempt. -/
def wait : Nat := p.settings.reconnectWait.toNat

/-- After which time the server gives an attempt up. -/
def limit : Nat := p.settings.connectTimeout.toNat

/-- How long the bus takes to answer an attempt. -/
def duration : Nat := p.delay.getD 0

/-- How long an attempt lasts. -/
def span : Nat := min p.duration p.limit

/-- When the attempt begins that follows `k` failed ones. -/
def moment (k : Nat) : Nat := k * (p.span + p.wait)

/-- How many attempts the bus still refuses after `k` failed ones.  An attempt that is given up is not
refused. -/
def left (k : Nat) : Nat := if p.duration ≤ p.limit then p.failures - k else p.failures

/-- The control of the server after `k` failed attempts. -/
def control (k : Nat) : Control :=
  { settings := p.settings, listener := p.listener, running := true, attempts := k, retries := k }

/-- The control of the server while it makes the attempt that follows `k` failed ones. -/
def trying (k : Nat) (attempt : Option Attempt) : Control :=
  { p.control k with phase := .connecting, attempts := k + 1, attempt }

/-- The control of the server while it waits after the attempt that followed `k` failed ones. -/
def waiting (k serial : Nat) : Control :=
  { p.control (k + 1) with
    phase := .waitingToRetry
    retry := some k
    timers := [(k, ⟨p.moment (k + 1), serial⟩)] }

/-- The bus after `k` failed attempts, when `attempts` have begun. -/
def bus (k attempts : Nat) : Bus :=
  { Bus.ofCapacity p.capacity with attempts, failing := p.left k, delay := p.delay }

/-- The link of the server once it is connected. -/
def linked : Link where
  control := { p.control p.failures with attempts := p.failures + 1, connection := some 1 }
  registry := ({} : Registry).enter { servers := p.settings.servers, listener := p.listener }

/-- What stays as it is as long as no attempt is successful. -/
structure Spared (s : Scene) : Prop where
  files : s.around.files = p.files
  refusing : s.around.refusing = 0
  dispatchers : s.manager.dispatchers = []

/-- The attempt that followed `k` failed ones is just over. -/
structure Over (k : Nat) (s : Scene) : Prop extends p.Spared s where
  control : s.manager.toControl = p.trying k none
  now : s.around.now = p.moment k + p.span

/-- Where the server is on its timetable. -/
inductive Stage (s : Scene) : Prop
  /-- The attempt that follows `k` failed ones is about to begin. -/
  | begins {k : Nat} {w : Waiter} (spared : p.Spared s) (hbus : s.around.bus = p.bus k k)
      (hk : p.duration ≤ p.limit → k ≤ p.failures) (hw : w.connects = true)
      (hqueue : s.manager.queue = [w])
      (hcontrol : { s.manager.toControl with queue := [] }.prepare w = p.control k)
      (hnow : s.around.now = p.moment k)
  /-- The attempt that follows `k` failed ones lasts. -/
  | tries {k serial : Nat} {w : Waiter} (spared : p.Spared s) (hbus : s.around.bus = p.bus k (k + 1))
      (hk : p.duration ≤ p.limit → k ≤ p.failures) (hw : w.connects = true)
      (hcontrol : s.manager.toControl =
        p.trying k (some ⟨w, p.moment k + p.span, p.limit < p.duration, serial⟩))
      (hfrom : p.moment k ≤ s.around.now) (hto : s.around.now ≤ p.moment k + p.span)
  /-- The server waits after the attempt that followed `k` failed ones. -/
  | waits {k serial : Nat} (spared : p.Spared s) (hbus : s.around.bus = p.bus (k + 1) (k + 1))
      (hk : p.duration ≤ p.limit → k + 1 ≤ p.failures)
      (hcontrol : s.manager.toControl = p.waiting k serial)
      (hfrom : p.moment k + p.span ≤ s.around.now) (hto : s.around.now ≤ p.moment (k + 1))
  | connected (hlink : s.link = p.linked) (hempty : s.around.bus.channel.tail = 0)
      (hattempts : s.around.bus.attempts = p.failures + 1) (answered : p.duration ≤ p.limit)
      (hfrom : p.moment p.failures + p.span ≤ s.around.now)

theorem moment_succ (k : Nat) : p.moment (k + 1) = p.moment k + p.span + p.wait := by
  rw [moment, Nat.succ_mul, moment, Nat.add_assoc]

theorem moment_le {j k : Nat} (h : j ≤ k) : p.moment j ≤ p.moment k := Nat.mul_le_mul_right _ h

/-! ### Ends of attempts -/

variable {p : Trial} {k : Nat} {w : Waiter} {s t : Scene}

/-- After an attempt that fails the server waits. -/
theorem Over.schedules (h : p.Over k s) (hbus : s.around.bus = p.bus (k + 1) (k + 1))
    (hk : p.duration ≤ p.limit → k + 1 ≤ p.failures) (hw : w.replaces = false) (reason : Bus.Error) :
    p.Stage (s.endAttempt w (.error reason)) ∧ (s.endAttempt w (.error reason)).effort = 0 := by
  obtain ⟨results, notices, hend⟩ := endAttempt_error_eq hw s reason
  have htimer : s.retryTimer = ⟨p.moment (k + 1), s.around.serial⟩ := by
    rw [Scene.retryTimer, h.control, h.now, p.moment_succ k]
    rfl
  have hcontrol : s.manager.toControl.schedule s.retryTimer = p.waiting k s.around.serial := by
    rw [htimer, h.control]
    rfl
  have hpauses : s.around.now < p.moment (k + 1) := by
    rw [h.now, p.moment_succ k]
    exact Nat.lt_add_of_pos_right p.pauses
  rw [hend, hcontrol]
  constructor
  · exact .waits { h with } hbus hk rfl (Nat.le_of_eq h.now.symm)
      (Nat.le_of_lt hpauses)
  · simp [effort, Control.effortAt, h.dispatchers, waiting, Trial.control, hpauses]

/-- After an attempt that the bus accepts the server is connected. -/
theorem Over.connects (h : p.Over k s) (hbus : s.around.bus = p.bus k (k + 1))
    (answered : p.duration ≤ p.limit) (hk : k = p.failures) (hw : w.replaces = false) :
    p.Stage (s.reachBus.2.endAttempt w s.reachBus.1) ∧
      (s.reachBus.2.endAttempt w s.reachBus.1).effort ≤ 4 := by
  have haccepts : s.around.bus.failing = 0 := by
    have hleft : s.around.bus.failing = p.left k := congrArg Bus.failing hbus
    rw [hleft, left, if_pos answered, hk, Nat.sub_self]
  obtain ⟨hlink, ⟨added, hdispatchers, hlength⟩, hchannel, hattempts, hnow⟩ :=
    reachBus_connects haccepts h.refusing hw
  have hlinked : (s.reachBus.2.endAttempt w s.reachBus.1).link = p.linked := by
    have hbefore : s.link = ⟨p.trying k none, {}⟩ := by
      rw [link, h.control, hbus]
      rfl
    rw [hlink, hbefore, hbus, hk]
    rfl
  constructor
  · refine .connected hlinked ?_ ?_ answered ?_
    · rw [hchannel, hbus]
      rfl
    · rw [hattempts, hbus, hk]
      rfl
    · exact Nat.le_of_eq (by rw [hnow, h.now, hk])
  · have hcontrol : (s.reachBus.2.endAttempt w s.reachBus.1).manager.toControl = p.linked.control :=
      congrArg Link.control hlinked
    have hrest (now : Nat) : p.linked.control.effortAt now = 0 := rfl
    have hcount : added.countP (!·.started) ≤ added.length := List.countP_le_length
    rw [h.dispatchers, List.nil_append] at hdispatchers
    rw [effort, hcontrol, hrest, hdispatchers]
    omega

/-- The bus answers an attempt that was not given up. -/
theorem Over.answered (h : p.Over k s) (hbus : s.around.bus = p.bus k (k + 1))
    (answered : p.duration ≤ p.limit) (hk : k ≤ p.failures) (hw : w.replaces = false) :
    p.Stage (s.reachBus.2.endAttempt w s.reachBus.1) ∧
      (s.reachBus.2.endAttempt w s.reachBus.1).effort ≤ 4 := by
  have hleft : s.around.bus.failing = p.failures - k := by
    rw [hbus]
    exact if_pos answered
  rcases Nat.eq_or_lt_of_le hk with hlast | hmore
  · exact h.connects hbus answered hlast hw
  · obtain ⟨reason, hreach⟩ := reachBus_failing (s := s) (by omega)
    rw [hreach]
    have hover : p.Over k { s with around.bus.failing := s.around.bus.failing - 1 } :=
      ⟨{ h with }, h.control, h.now⟩
    have hrefused : { s.around.bus with failing := s.around.bus.failing - 1 } =
        p.bus (k + 1) (k + 1) := by
      rw [hleft, hbus, bus, bus, left, left, if_pos answered, if_pos answered, Nat.sub_sub]
    obtain ⟨hstage, heffort⟩ := hover.schedules hrefused (fun _ => hmore) hw reason
    exact ⟨hstage, Nat.le_trans (Nat.le_of_eq heffort) (Nat.zero_le 4)⟩

/-! ### Steps -/

/-- What an attempt of the server comes to as it begins. -/
theorem Stage.attempt (spared : p.Spared s) (hbus : s.around.bus = p.bus k k)
    (hk : p.duration ≤ p.limit → k ≤ p.failures) (hw : w.connects = true)
    (hcontrol : s.manager.toControl = { p.control k with phase := .connecting })
    (hnow : s.around.now = p.moment k) :
    p.Stage (s.attempt w) ∧ (s.attempt w).effort ≤ 5 := by
  have hsettings : s.manager.settings = p.settings := congrArg Control.settings hcontrol
  have hbegun : s.begun.around.bus = p.bus k (k + 1) := by
    show (s.around.bus.beginConnect _ _).2 = _
    rw [beginConnect_snd, hbus]
    rfl
  have hcounted : s.begun.manager.toControl = p.trying k none := by
    show { s.manager.toControl with attempts := s.manager.toControl.attempts + 1 } = _
    rw [hcontrol]
    rfl
  have hspared : p.Spared s.begun := { spared with }
  rw [attempt_eq (hsettings ▸ p.enabled) (by rw [hsettings, spared.files]; exact p.found)]
  have hdelay : s.around.bus.delay = p.delay := congrArg Bus.delay hbus
  rw [hdelay]
  cases hd : p.delay with
  | none =>
    have hduration : p.duration = 0 := by rw [duration, hd]; rfl
    have hanswered : p.duration ≤ p.limit := by omega
    have hover : p.Over k s.begun := by
      refine ⟨hspared, hcounted, ?_⟩
      show s.around.now = _
      rw [hnow, span, hduration, Nat.zero_min, Nat.add_zero]
    obtain ⟨hstage, heffort⟩ := hover.answered hbegun hanswered (hk hanswered)
      (Waiter.replaces_of_connects hw)
    exact ⟨hstage, Nat.le_trans heffort (by decide)⟩
  | some delay =>
    have hduration : p.duration = delay := by rw [duration, hd]; rfl
    have hpending : s.pendingAttempt w delay =
        ⟨w, p.moment k + p.span, p.limit < p.duration, s.around.serial⟩ := by
      rw [pendingAttempt, hsettings, hnow, span, hduration]
      rfl
    have hheld : { s.begun.manager.toControl with attempt := some (s.pendingAttempt w delay) } =
        p.trying k (some ⟨w, p.moment k + p.span, p.limit < p.duration, s.around.serial⟩) := by
      rw [hcounted, hpending]
      rfl
    dsimp only
    constructor
    · exact .tries { hspared with } hbegun hk hw hheld
        (Nat.le_of_eq hnow.symm) (Nat.le_trans (Nat.le_of_eq hnow) (Nat.le_add_right _ _))
    · refine Nat.le_of_eq ?_
      rw [effort, hheld, hspared.dispatchers]
      rfl

theorem Stage.grant (h : p.Stage s) (hs : s.grant = some t) : p.Stage t ∧ t.effort < s.effort := by
  obtain ⟨first, rest, free, hq, rfl⟩ := grant_eq_some hs
  cases h with
  | @begins k w spared hbus hk hw hqueue hcontrol hnow =>
    obtain ⟨rfl, rfl⟩ := List.cons.inj (hq.symm.trans hqueue)
    have heffort : s.effort = 6 := by
      have htimers : s.manager.timers = [] := congrArg Control.timers hcontrol
      rw [effort, spared.dispatchers]
      simp [Control.effortAt, free, hqueue, htimers]
    obtain ⟨notices, hserve⟩ := serve_eq_attempt (s := { s with manager.queue := [] }) hw
      (hcontrol ▸ ⟨rfl, p.enabled⟩) (hcontrol ▸ by simp [Control.Provided, Trial.control])
    rw [hserve, heffort, hcontrol]
    obtain ⟨hstage, hless⟩ := Stage.attempt (s := {
        manager := { s.manager with toControl := { p.control k with phase := .connecting } }
        around := { s.around with notices } })
      { spared with } hbus hk hw rfl hnow
    exact ⟨hstage, Nat.lt_succ_of_le hless⟩
  | tries _ _ _ _ hcontrol =>
    rw [hcontrol] at free
    simp [trying] at free
  | waits _ _ _ hcontrol =>
    rw [hcontrol] at hq
    simp [waiting, Trial.control] at hq
  | connected hlink =>
    have hqueue : s.manager.queue = [] := congrArg (·.control.queue) hlink
    simp [hqueue] at hq

theorem Stage.finish (h : p.Stage s) (hs : s.finish = some t) : p.Stage t ∧ t.effort < s.effort := by
  obtain ⟨a, free, ha, hdue, rfl, hend⟩ := finish_eq_some hs
  cases h with
  | begins _ _ _ _ _ hcontrol =>
    have hnone : s.manager.attempt = none := congrArg Control.attempt hcontrol
    simp [hnone] at ha
  | @tries k serial w spared hbus hk hw hcontrol hfrom hto =>
    have hattempt : s.manager.attempt =
        some ⟨w, p.moment k + p.span, p.limit < p.duration, serial⟩ := by
      rw [hcontrol]
      rfl
    obtain rfl := Option.some.inj (hattempt.symm.trans ha)
    have heffort : s.effort = 5 := by
      rw [effort, hcontrol, spared.dispatchers]
      rfl
    have hover : p.Over k { s with manager.attempt := none } := by
      refine ⟨{ spared with }, ?_, Nat.le_antisymm hto hdue⟩
      show { s.manager.toControl with attempt := none } = _
      rw [hcontrol]
      rfl
    have hreplaces := Waiter.replaces_of_connects hw
    rw [heffort]
    rcases hend with ⟨htimesOut, rfl⟩ | ⟨htimesOut, rfl⟩
    · -- The bus has not answered, so that it refuses as many attempts as before.
      have hlate : ¬p.duration ≤ p.limit := Nat.not_le.mpr (of_decide_eq_true htimesOut)
      have hsame : s.around.bus = p.bus (k + 1) (k + 1) := by
        rw [hbus, bus, bus, left, left, if_neg hlate, if_neg hlate]
      obtain ⟨hstage, hzero⟩ := hover.schedules hsame (fun h => absurd h hlate) hreplaces _
      exact ⟨hstage, by rw [hzero]; decide⟩
    · have hanswered : p.duration ≤ p.limit := Nat.not_lt.mp (of_decide_eq_false htimesOut)
      obtain ⟨hstage, hless⟩ := hover.answered hbus hanswered (hk hanswered) hreplaces
      exact ⟨hstage, Nat.lt_succ_of_le hless⟩
  | waits _ _ _ hcontrol =>
    rw [hcontrol] at ha
    simp [waiting, Trial.control] at ha
  | connected hlink =>
    have hnone : s.manager.attempt = none := congrArg (·.control.attempt) hlink
    simp [hnone] at ha

theorem Stage.wake {id : Nat} (h : p.Stage s) (hs : s.wake id = some t) :
    p.Stage t ∧ t.effort < s.effort := by
  obtain ⟨timer, htimer, hdue, rfl⟩ := wake_eq_some hs
  cases h with
  | begins _ _ _ _ _ hcontrol =>
    have hnone : s.manager.timers = [] := congrArg Control.timers hcontrol
    simp [hnone] at htimer
  | tries _ _ _ _ hcontrol =>
    rw [hcontrol] at htimer
    simp [trying, Trial.control] at htimer
  | @waits k serial spared hbus hk hcontrol hfrom hto =>
    rw [hcontrol] at htimer
    obtain ⟨rfl, rfl⟩ : k = id ∧ ⟨p.moment (k + 1), serial⟩ = timer := by
      simpa [waiting, Table.get?] using htimer
    have hqueue : s.manager.queue = [] := congrArg Control.queue hcontrol
    have herased : s.manager.timers.erase k = [] := by
      rw [hcontrol]
      simp [waiting, Table.erase]
    have heffort : s.effort = 7 := by
      rw [effort, hcontrol, spared.dispatchers]
      simp [Control.effortAt, waiting, Trial.control, hdue]
    rw [herased, hqueue, heffort]
    constructor
    · refine .begins (w := .retry k) (k := k + 1) { spared with }
        hbus hk rfl rfl ?_ (Nat.le_antisymm hto hdue)
      show { s.manager.toControl with
        queue := [], timers := [], retry := none, phase := .idle, running := s.manager.running } = _
      rw [hcontrol]
      rfl
    · have free : s.manager.attempt = none := congrArg Control.attempt hcontrol
      rw [effort, spared.dispatchers]
      simp [Control.effortAt, free]
  | connected hlink =>
    have hnone : s.manager.timers = [] := congrArg (·.control.timers) hlink
    simp [hnone] at htimer

theorem Stage.dispatch {subscription : Nat} {first : Bus.Branch} (h : p.Stage s)
    (hs : s.dispatch subscription first = some t) :
    p.Stage t ∧ t.effort < s.effort := by
  have hnone (spared : p.Spared s) : False := by
    obtain ⟨d, hd, -⟩ := dispatch_eq_some hs
    simp [spared.dispatchers] at hd
  cases h with
  | begins spared => exact (hnone spared).elim
  | tries spared => exact (hnone spared).elim
  | waits spared => exact (hnone spared).elim
  | connected hlink hempty hattempts answered hfrom =>
    obtain ⟨hless, hchannel, hcounted⟩ := dispatch_of_empty hs hempty
    refine ⟨.connected ((link_dispatch hs).trans hlink) ?_ ?_ answered ?_, hless⟩
    · rw [hchannel]
      exact hempty
    · exact hcounted.trans hattempts
    · rw [now_dispatch hs]
      exact hfrom

/-- Nothing is reported to the server, and its owner does not let it go. -/
theorem Stage.undisturbed (h : p.Stage s) : s.around.bus.mail = [] ∧ s.manager.life = .owned := by
  cases h with
  | begins spared hbus hk hw hqueue hcontrol hnow =>
    exact ⟨congrArg (·.mail) hbus, congrArg Control.life hcontrol⟩
  | tries spared hbus hk hw hcontrol =>
    exact ⟨congrArg (·.mail) hbus, congrArg Control.life hcontrol⟩
  | waits spared hbus hk hcontrol =>
    exact ⟨congrArg (·.mail) hbus, congrArg Control.life hcontrol⟩
  | connected hlink => exact ⟨congrArg (·.registry.mail) hlink, congrArg (·.control.life) hlink⟩

theorem Stage.proceeds (h : p.Stage s) (hs : s.Proceeds t) : p.Stage t ∧ t.effort < s.effort := by
  obtain ⟨hmail, howned⟩ := h.undisturbed
  cases hs with
  | grant hs => exact h.grant hs
  | finish hs => exact h.finish hs
  | wake hs => exact h.wake hs
  | hear hs =>
    obtain ⟨event, mail, -, -, htaken, -⟩ := hear_eq_some hs
    simp [hmail, takeMail] at htaken
  | dispatch hs => exact h.dispatch hs
  | reap hs =>
    have hreleased := (reap_eq_some hs).1
    simp [howned] at hreleased

/-- Time goes on within a stage, as long as nothing can be done. -/
theorem Stage.waits_until {now : Nat} (h : p.Stage s) (idle : ∀ t, ¬s.Proceeds t)
    (forward : s.around.now ≤ now) (hattempt : ∀ a, s.manager.attempt = some a → now ≤ a.due)
    (htimers : ∀ entry ∈ s.manager.timers, now ≤ entry.2.due) :
    p.Stage { s with around.now := now } := by
  cases h with
  | begins spared hbus hk hw hqueue hcontrol hnow =>
    have free : s.manager.attempt = none := congrArg Control.attempt hcontrol
    exact absurd (.grant (by rw [Scene.grant, free, hqueue])) (idle _)
  | tries spared hbus hk hw hcontrol hfrom hto =>
    exact .tries { spared with } hbus hk hw hcontrol
      (Nat.le_trans hfrom forward) (hattempt _ (congrArg Control.attempt hcontrol))
  | @waits k serial spared hbus hk hcontrol hfrom hto =>
    have hmem : (k, ⟨p.moment (k + 1), serial⟩) ∈ s.manager.timers := by
      rw [hcontrol]
      exact List.mem_cons_self
    exact .waits { spared with } hbus hk hcontrol
      (Nat.le_trans hfrom forward) (htimers _ hmem)
  | connected hlink hempty hattempts answered hfrom =>
    exact .connected hlink hempty hattempts answered (Nat.le_trans hfrom forward)

theorem Stage.nodup_timers (h : p.Stage s) : (s.manager.timers.map (·.1)).Nodup := by
  cases h with
  | begins spared hbus hk hw hqueue hcontrol =>
    have hnone : s.manager.timers = [] := congrArg Control.timers hcontrol
    simp [hnone]
  | tries spared hbus hk hw hcontrol =>
    rw [hcontrol]
    exact .nil
  | waits spared hbus hk hcontrol =>
    rw [hcontrol]
    simp [waiting]
  | connected hlink =>
    have hnone : s.manager.timers = [] := congrArg (·.control.timers) hlink
    simp [hnone]

theorem settles (p : Trial) : Scene.Settles p.Stage where
  numbers := Stage.nodup_timers
  proceeds := Stage.proceeds
  waits := Stage.waits_until

/-! ### At rest -/

/-- Nothing is left to do: the server is connected, or an attempt or the wait after it is not over. -/
theorem Stage.idle_cases (h : p.Stage s) (idle : ∀ t, ¬s.Proceeds t) :
    (s.link = p.linked ∧ p.duration ≤ p.limit ∧ p.moment p.failures + p.span ≤ s.around.now) ∨
      ∃ k j, s.manager.connection = none ∧ s.manager.attempts = k + 1 ∧
        s.around.bus = p.bus j (k + 1) ∧ p.moment k ≤ s.around.now ∧
        s.around.now < p.moment (k + 1) ∧
        (p.duration ≤ p.limit → k ≤ p.failures ∧ s.around.now < p.moment p.failures + p.span) := by
  cases h with
  | begins spared hbus hk hw hqueue hcontrol hnow =>
    have free : s.manager.attempt = none := congrArg Control.attempt hcontrol
    exact absurd (.grant (by rw [Scene.grant, free, hqueue])) (idle _)
  | @tries k serial w spared hbus hk hw hcontrol hfrom hto =>
    have hlast : s.around.now < p.moment k + p.span := by
      refine Nat.lt_of_not_le fun hdue => ?_
      obtain ⟨t, ht⟩ := Option.isSome_iff_exists.mp
        (finish_isSome (congrArg Control.attempt hcontrol) hdue)
      exact idle t (.finish ht)
    refine .inr ⟨k, k, congrArg Control.connection hcontrol, congrArg Control.attempts hcontrol, hbus,
      hfrom, ?_, fun answered => ⟨hk answered, ?_⟩⟩
    · rw [p.moment_succ k]
      omega
    · have hle := p.moment_le (hk answered)
      omega
  | @waits k serial spared hbus hk hcontrol hfrom hto =>
    have hlast : s.around.now < p.moment (k + 1) := by
      have hget : s.manager.timers.get? k = some ⟨p.moment (k + 1), serial⟩ := by
        rw [hcontrol]
        exact if_pos rfl
      refine Nat.lt_of_not_le fun hdue => ?_
      obtain ⟨t, ht⟩ := Option.isSome_iff_exists.mp (wake_isSome hget hdue)
      exact idle t (.wake ht)
    refine .inr ⟨k, k + 1, congrArg Control.connection hcontrol, congrArg Control.attempts hcontrol, hbus,
      by omega, hlast, fun answered => ⟨Nat.le_of_succ_le (hk answered), ?_⟩⟩
    have hle := p.moment_le (hk answered)
    omega
  | connected hlink hempty hattempts answered hfrom => exact .inl ⟨hlink, answered, hfrom⟩

/-- While an attempt or the wait after it is not over, just the attempts have begun whose moment has
come. -/
theorem lt_iff_moment_le (hfrom : p.moment k ≤ s.around.now) (hto : s.around.now < p.moment (k + 1))
    (j : Nat) : j < k + 1 ↔ p.moment j ≤ s.around.now := by
  constructor
  · intro hj
    exact Nat.le_trans (p.moment_le (Nat.le_of_lt_succ hj)) hfrom
  · intro hj
    refine Nat.lt_of_not_le fun hle => ?_
    have hlater := p.moment_le hle
    omega

/-- The bus counts the same attempts as the server. -/
theorem Stage.attempts_eq (h : p.Stage s) : s.around.bus.attempts = s.manager.attempts := by
  cases h with
  | @begins k w spared hbus hk hw hqueue hcontrol =>
    have hattempts : s.manager.attempts = k := congrArg Control.attempts hcontrol
    rw [hattempts, hbus]
    rfl
  | tries spared hbus hk hw hcontrol =>
    rw [hcontrol, hbus]
    rfl
  | waits spared hbus hk hcontrol =>
    rw [hcontrol, hbus]
    rfl
  | connected hlink hempty hattempts =>
    rw [hattempts]
    exact (congrArg (·.control.attempts) hlink).symm

/-- If the bus answers in time, then the server is connected from the end of the first attempt on that is
not refused. -/
theorem Stage.answered_in_time (h : p.Stage s) (idle : ∀ t, ¬s.Proceeds t)
    (answered : p.duration ≤ p.limit) :
    (s.around.now < p.moment p.failures + p.duration → s.manager.connection = none) ∧
      (p.moment p.failures + p.duration ≤ s.around.now →
        s.manager.connection = some 1 ∧ s.around.bus.isClosed 1 = false ∧
          s.manager.attempts = p.failures + 1 ∧ s.manager.retries = p.failures ∧
          s.manager.phase = .idle) := by
  have hspan : p.span = p.duration := Nat.min_eq_left answered
  rw [← hspan]
  rcases h.idle_cases idle with ⟨hlink, -, hfrom⟩ | ⟨k, j, hconnection, -, -, -, -, hlast⟩
  · have hopen : s.link.registry.isClosed 1 = false := by
      rw [hlink]
      rfl
    constructor
    · intro hearly
      exact absurd hfrom (Nat.not_le.mpr hearly)
    · intro _
      exact ⟨congrArg (·.control.connection) hlink, hopen, congrArg (·.control.attempts) hlink,
        congrArg (·.control.retries) hlink, congrArg (·.control.phase) hlink⟩
  · constructor
    · intro _
      exact hconnection
    · intro hdue
      exact absurd hdue (Nat.not_le.mpr (hlast answered).2)

/-- If the bus answers too late, then the server is never connected, and no attempt counts as refused. -/
theorem Stage.answered_too_late (h : p.Stage s) (idle : ∀ t, ¬s.Proceeds t)
    (hlate : p.limit < p.duration) :
    s.manager.connection = none ∧ (∀ j, j < s.manager.attempts ↔ p.moment j ≤ s.around.now) ∧
      s.around.bus.failing = p.failures := by
  rcases h.idle_cases idle with ⟨-, answered, -⟩ |
    ⟨k, j, hconnection, hattempts, hbus, hfrom, hto, -⟩
  · exact absurd answered (Nat.not_le.mpr hlate)
  · refine ⟨hconnection, ?_, ?_⟩
    · rw [hattempts]
      exact lt_iff_moment_le hfrom hto
    · rw [hbus]
      exact if_neg (Nat.not_le.mpr hlate)

end Trial

/-! ### The whole run -/

theorem Settings.reconnectWait_pos {settings : Settings} (h : settings.validate = .ok ()) :
    0 < settings.reconnectWait.toNat := by
  refine Nat.pos_of_ne_zero fun hzero => ?_
  have hwait : settings.reconnectWait = 0 := UInt64.toNat_inj.mp hzero
  unfold validate at h
  simp only [bind, Except.bind, throw, throwThe, MonadExceptOf.throw, hwait, if_true] at h
  split at h
  · simp at h
  · split at h <;> simp at h

namespace Network

/-- The network of one manager, alone on a bus that refuses the next attempts to connect and takes its time
for each of them. -/
def solitary (manager : Manager) (files : FileSystem) (capacity : Capacity) (failures : Nat)
    (delay : Option Nat) : Network where
  around := { files, bus := { Bus.ofCapacity capacity with failing := failures, delay } }
  managers := [manager]

/-- The network of a new server that is told to start, at the last of the moments at which it is looked at. -/
def startedAt (looks : List Nat) (ticket : Nat) (net : Network) : Network :=
  looks.foldl (fun net look => net.advanceTo look) (net.spawn 0 ticket .start)

/-- From the start of a new server on, time goes on promptly along its timetable. -/
theorem stage_startedAt (p : Trial) {store : Store} {manager : Manager}
    (hcreate : Manager.create p.settings p.listener store = .ok manager) {looks : List Nat} {t : Nat}
    (hlooks : ∀ look ∈ looks, look ≤ t) (ticket : Nat) :
    ∃ s : Scene, p.Stage s ∧ (∀ s', ¬s.Proceeds s') ∧ s.around.now = t ∧
      ((solitary manager p.files p.capacity p.failures p.delay).startedAt looks ticket).advanceTo t =
        s.network := by
  let asked : Scene := Scene.request ticket .start
    ⟨manager, (solitary manager p.files p.capacity p.failures p.delay).around⟩
  have hasked : p.Stage asked := by
    obtain ⟨-, rfl⟩ := Manager.create_cases hcreate
    have hbus : asked.around.bus = p.bus 0 0 := by
      rw [Trial.bus, Trial.left, Nat.sub_zero, ite_self]
      rfl
    exact .begins (k := 0) ⟨rfl, rfl, rfl⟩ hbus (fun _ => Nat.zero_le _) rfl rfl rfl
      (Nat.zero_mul _).symm
  have hs := p.settles.network
  have hstarted : Prompt asked.network asked.network.settle := Prompt.start.steps (run_steps _ _)
  have hnow : asked.network.settle.around.now = 0 := now_eq_of_steps (run_steps _ _)
  have hle : asked.network.settle.around.now ≤ t := by
    rw [hnow]
    exact Nat.zero_le t
  obtain ⟨hlooked, hearlier⟩ := hs.advanceAll hlooks ⟨asked, hasked, rfl⟩ hstarted hle
  obtain ⟨hprompt, hidle, htime⟩ := hs.advanceTo t ⟨asked, hasked, rfl⟩ hlooked
  rw [Nat.max_eq_right hearlier] at htime
  obtain ⟨s, hstage, hnet⟩ := hs.prompt ⟨asked, hasked, rfl⟩ hprompt
  rw [hnet] at hidle htime
  exact ⟨s, hstage, fun s' hs' => hidle _ hs'.network, htime, hnet⟩

section

variable {settings : Settings} {listener : Nat} {store : Store} {manager : Manager}
  {files : FileSystem}

/-- A bus refuses the next `failures` attempts of a server that is alone on it, whose files are there, and
takes `delay` for each attempt.  If it answers in time then the server is connected from the end of the first
attempt on that is not refused.  Otherwise the server tries for ever, and no attempt counts as refused. -/
theorem connects_on_schedule (hcreate : Manager.create settings listener store = .ok manager)
    (enabled : settings.isEnabled = true) (found : settings.connectOptions.check files = .ok ())
    (capacity : Capacity) (failures : Nat) (delay : Option Nat) (ticket t : Nat) (looks : List Nat)
    (hlooks : ∀ look ∈ looks, look ≤ t) :
    let wait := settings.reconnectWait.toNat
    let limit := settings.connectTimeout.toNat
    let duration := delay.getD 0
    let connects := failures * (duration + wait) + duration
    ∃ m around,
      ((solitary manager files capacity failures delay).startedAt looks ticket).advanceTo t =
          ⟨around, [m]⟩ ∧ around.now = t ∧ around.bus.attempts = m.attempts ∧
        (duration ≤ limit →
          (t < connects → m.connection = none) ∧
            (connects ≤ t → m.connection = some 1 ∧ around.bus.isClosed 1 = false ∧
              m.attempts = failures + 1 ∧ m.retries = failures ∧ m.phase = .idle)) ∧
        (limit < duration →
          m.connection = none ∧ (∀ k, k < m.attempts ↔ k * (limit + wait) ≤ t) ∧
            around.bus.failing = failures) := by
  have pauses := Settings.reconnectWait_pos (Manager.create_cases hcreate).1
  intro wait limit duration connects
  let p : Trial := { settings, listener, files, capacity, failures, delay, enabled, found, pauses }
  obtain ⟨s, hstage, idle, rfl, hnet⟩ := stage_startedAt p hcreate hlooks ticket
  refine ⟨s.manager, s.around, hnet, rfl, hstage.attempts_eq, fun answered => ?_, fun hlate => ?_⟩
  · have hconnects : p.moment failures + duration = connects := by
      have hspan : p.span = duration := Nat.min_eq_left answered
      rw [Trial.moment, hspan]
      rfl
    rw [← hconnects]
    exact hstage.answered_in_time idle answered
  · have hmoment (k : Nat) : p.moment k = k * (limit + wait) := by
      have hspan : p.span = limit := Nat.min_eq_right (Nat.le_of_lt hlate)
      rw [Trial.moment, hspan]
      rfl
    simp only [← hmoment]
    exact hstage.answered_too_late idle hlate

end

/-- After three failures a server that waits 10 ms is connected from 30 ms on.  If the bus takes 8 ms to
answer and the server gives up after 5 ms, then its attempts begin every 15 ms. -/
theorem connects_on_schedule_thrice :
    let settings : Settings := { servers := ["bus://a"], reconnectWait := 10, connectTimeout := 5 }
    ∃ manager, Manager.create settings 0 (.memory {}) = .ok manager ∧
      (∃ m around, ((solitary manager {} .standard 3 none).startedAt [25] 0).advanceTo 30 =
          ⟨around, [m]⟩ ∧ m.connection = some 1 ∧ m.attempts = 4) ∧
      ∃ m around, ((solitary manager {} .standard 3 (some 8)).startedAt [] 0).advanceTo 30 =
        ⟨around, [m]⟩ ∧ m.connection = none ∧ 2 < m.attempts := by
  intro settings
  have hcreate : ∃ manager, Manager.create settings 0 (.memory {}) = .ok manager := ⟨_, rfl⟩
  obtain ⟨manager, hcreate⟩ := hcreate
  have found : settings.connectOptions.check {} = .ok () := rfl
  refine ⟨manager, hcreate, ?_, ?_⟩
  · obtain ⟨m, around, hnet, -, -, hanswered, -⟩ :=
      connects_on_schedule hcreate rfl found .standard 3 none 0 30 [25] (by decide)
    obtain ⟨hconnection, -, hattempts, -⟩ := (hanswered (by decide)).2 (by decide)
    exact ⟨m, around, hnet, hconnection, hattempts⟩
  · obtain ⟨m, around, hnet, -, -, -, hlate⟩ :=
      connects_on_schedule hcreate rfl found .standard 3 (some 8) 0 30 [] (by decide)
    obtain ⟨hconnection, hattempts, -⟩ := hlate (by decide)
    exact ⟨m, around, hnet, hconnection, (hattempts 2).mpr (by decide)⟩

/-- A server whose credentials are not there is not connected even by a bus that refuses nothing. -/
theorem unconnected_without_credentials :
    ¬∀ (settings : Settings) (manager : Manager),
      Manager.create settings 0 (.memory {}) = .ok manager → settings.isEnabled = true →
        ∀ m ∈ (((solitary manager {} .standard 0 none).spawn 0 0 .start).advanceTo 0).managers,
          m.connection = some 1 := by
  intro h
  have hconnected := h { servers := ["bus://a"], credentials := some "missing.creds" } _ rfl rfl
  rw [advanceTo, advanceFrom] at hconnected
  have hnone := hconnected _ (.head _)
  cases hnone

end Network

end ClaimRelay
