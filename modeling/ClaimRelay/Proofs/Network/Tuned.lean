import ClaimRelay.Proofs.Manager.Tuned
import ClaimRelay.Proofs.Network.Sound

/-! The readers of the managers in a network.  In every run in which others leave the subscriptions of
the managers alone, the readers of each manager are tuned, and a primary on an open connection hears
both kinds of notification. -/

namespace ClaimRelay

open Manager Bus

/-! ### What others do -/

namespace Network

/-- What others may do who leave the subscriptions of the managers alone, and have none refused. -/
structure Apart (net : Network) (around : Surroundings) : Prop where
  outside : Outside net around
  refusing : around.refusing = net.around.refusing
  subscriptions : ∀ m ∈ net.managers, ∀ d ∈ m.dispatchers,
    around.bus.subscriptions.get? d.subscription = net.around.bus.subscriptions.get? d.subscription

variable {Others : Network → Surroundings → Prop} {start net net' : Network} {i : Nat}
  {m m' : Manager} {t : Turn} {turns : List Turn} {around : Surroundings}

theorem Turn.Valid.mono {Fewer : Network → Surroundings → Prop} (valid : t.Valid Fewer)
    (h : ∀ {net around}, Fewer net around → Others net around) : t.Valid Others := by
  cases valid with
  | step hstep => exact .step hstep
  | others hothers => exact .others (h hothers)

theorem Run.mono {Fewer : Network → Surroundings → Prop} (run : Run Fewer start turns net)
    (h : ∀ {net around}, Fewer net around → Others net around) : Run Others start turns net := by
  induction run with
  | start => exact .start
  | turn _ valid ih => exact .turn ih (valid.mono h)

theorem Run.outside (run : Run Apart start turns net) : Run Outside start turns net :=
  run.mono Apart.outside

theorem Outside.advances (h : Outside net around) :
    around.now = net.around.now ∧ net.around.bus.Advances around.bus := by
  cases h with
  | beginConnect => exact ⟨rfl, beginConnect_snd .. ▸ .of_eq rfl rfl⟩
  | finishConnect => exact ⟨rfl, (spares_finishConnect ..).advances⟩
  | closeAll => exact ⟨rfl, (spares_closeAll _).advances⟩
  | reportAll => exact ⟨rfl, (spares_reportAll ..).advances⟩
  | announce => exact ⟨rfl, (spares_announce ..).advances⟩
  | publish => exact ⟨rfl, advances_publish ..⟩
  | subscribe => exact ⟨rfl, advances_subscribe ..⟩
  | receive => exact ⟨rfl, advances_receive ..⟩
  | letGo id =>
    unfold Network.letGo
    dsimp only
    split
    · exact ⟨rfl, .refl _⟩
    · exact ⟨rfl, .of_eq rfl rfl⟩
  | _ => exact ⟨rfl, .of_eq rfl rfl⟩

/-! ### One turn -/

/-- What decides over the messages that a manager takes in. -/
def reception (net : Network) (m : Manager) : Reception := Scene.reception ⟨m, net.around⟩

/-- What the manager at place `i` takes in, in a turn, and by which reader. -/
def Turn.receipt? (t : Turn) (i : Nat) : Option Receipt :=
  match t.move, t.before.managers[i]? with
  | .step (.dispatch j subscription first), some m =>
    if j = i then Scene.receipt? subscription first ⟨m, t.before.around⟩ else none
  | _, _ => none

/-- What the manager at place `i` takes in, in a turn. -/
def Turn.delivery? (t : Turn) (i : Nat) : Option Delivery := (t.receipt? i).map (·.toDelivery)

/-- What a turn does to the reception of the manager at place `i`. -/
inductive Turn.Receives (t : Turn) (i : Nat) (m m' : Manager) : Prop
  /-- It takes a step in which it takes in no message. -/
  | tunes (hnone : t.receipt? i = none)
      (h : (t.before.reception m).Tunes t.before.around.bus.nextId (t.after.reception m'))
      (hreleases : Link.Releases (t.before.link m) (t.after.link m'))
  /-- One of its dispatchers takes a step. -/
  | dispatches {subscription : Nat} {first : Branch}
      (hmove : t.move = .step (.dispatch i subscription first))
      (h : (t.before.reception m).Dispatches t.before.around.bus.toRegistry subscription
        (t.receipt? i) (t.after.reception m'))
      (hlink : t.after.link m' = t.before.link m)
  /-- It ends. -/
  | quits (hnone : t.receipt? i = none)
      (h : t.after.reception m' = (t.before.reception m).quit)
  /-- It is not its turn. -/
  | others (hnone : t.receipt? i = none) (hmove : t.move.manager? ≠ some i) (h : m' = m)

theorem Turn.receipt?_eq_none
    (h : ∀ subscription first, t.move ≠ .step (.dispatch i subscription first)) :
    t.receipt? i = none := by
  unfold Turn.receipt?
  split
  · rename_i j subscription first m hmove hm
    rw [if_neg]
    rintro rfl
    exact h subscription first hmove
  · rfl

theorem Turn.Valid.receives (valid : t.Valid Others) (h : t.before.Registered)
    (hrefusing : t.before.around.refusing = 0) (hm : t.before.managers[i]? = some m)
    (hm' : t.after.managers[i]? = some m') : t.Receives i m m' := by
  by_cases hmove : t.move.manager? = some i
  · -- A step that does nothing to the reception gives up no connection either.
    have hkeeps (hnot : ∀ subscription first, t.move ≠ .step (.dispatch i subscription first))
        (hsame : t.after.reception m' = t.before.reception m) : t.Receives i m m' := by
      refine .tunes (receipt?_eq_none hnot) ?_ ?_
      · exact hsame ▸ .keeps
      · exact fun id hid => .inl ((congrArg Reception.connection hsame).trans hid)
    have hsound := h.control hm
    have howns := (h.registry hm).toOwns
    cases valid.acts hm hm' hmove with
    | request hmove hs => exact hkeeps (by simp [hmove]) ((congrArg Scene.reception hs).trans rfl)
    | grant hmove hs =>
      obtain ⟨w, rest, free, hq, hserved⟩ := Scene.grant_served hs
      exact .tunes (receipt?_eq_none (by simp [hmove])) (Scene.grant_tunes hs hrefusing)
        (hserved.releases hsound hq free howns)
    | finish hmove hs =>
      have hheld : m.attempt ≠ none := fun hnone => by simp [Scene.finish, hnone] at hs
      exact .tunes (receipt?_eq_none (by simp [hmove])) (Scene.finish_tunes hs hrefusing)
        ((Scene.finish_aside hs).releases hsound howns hheld)
    | wake hmove hs => exact hkeeps (by simp [hmove]) (Scene.reception_wake hs)
    | hear hmove hs => exact hkeeps (by simp [hmove]) (Scene.reception_hear hs)
    | @dispatch subscription first hmove hs =>
      have hreceipt : t.receipt? i = Scene.receipt? subscription first ⟨m, t.before.around⟩ := by
        simp [Turn.receipt?, hmove, hm]
      refine .dispatches hmove ?_ (Scene.link_dispatch hs)
      rw [hreceipt]
      exact Scene.dispatch_dispatches hs
    | release hmove hs =>
      exact hkeeps (by simp [hmove]) ((congrArg Scene.reception hs).trans (Scene.reception_release _))
    | reap hmove hs => exact .quits (receipt?_eq_none (by simp [hmove])) (Scene.reap_quits hs)
  · obtain ⟨m₁, hm₁, hdoes⟩ := valid.does hm
    obtain rfl : m₁ = m' := Option.some.inj (hm₁.symm.trans hm')
    rcases hdoes.change with ⟨hturn, -⟩ | ⟨-, hsame⟩
    · exact absurd hturn hmove
    · exact .others (receipt?_eq_none fun n first hn => hmove (hn ▸ rfl)) hmove hsame

theorem Turn.Valid.grows (valid : t.Valid Outside) (h : t.before.Registered)
    (hm : t.before.managers[i]? = some m) :
    Registry.Grows t.before.around.bus.toRegistry t.after.around.bus.toRegistry := by
  obtain ⟨m', -, hdoes⟩ := valid.does hm
  rcases hdoes.change with ⟨-, hchange⟩ | ⟨hmove, -⟩
  · exact (hchange.owns_follows (h.control hm) (h.registry hm).toOwns).2.grows
  · exact (valid.byOthers h hm hmove).toGrows

/-! ### The turns of others -/

/-- The readers of the managers are tuned, and none of their subscriptions will be refused. -/
structure Tuned (net : Network) : Prop where
  refusing : net.around.refusing = 0
  readers : ∀ {i : Nat} {m : Manager}, net.managers[i]? = some m →
    (net.reception m).Tuned i net.around.bus.toRegistry

/-- What a turn does to a reception in which it takes in no message and makes no reader. -/
structure Turn.Leaves (t : Turn) (m : Manager) : Prop where
  advances : (t.before.reception m).Advances (t.after.reception m)
  subscription : ∀ {kind n c}, (t.before.reception m).Reads kind n c →
    t.after.around.bus.subscriptions.get? n = t.before.around.bus.subscriptions.get? n

theorem Turn.Receives.moves (h : t.Receives i m m') (hmove : t.move.manager? = some i) :
    (t.before.reception m).Advances (t.after.reception m') ∧
      (t.before.reception m).Spares (t.after.reception m') := by
  cases h with
  | tunes _ h => exact ⟨h.advances, h.spares⟩
  | dispatches _ h => exact ⟨h.advances, h.spares⟩
  | quits _ h => exact h ▸ ⟨Reception.advances_quit _, Reception.spares_quit _⟩
  | others _ hnot => exact absurd hmove hnot

/-- What becomes of the reception of a manager that takes a step. -/
theorem Turn.Valid.moves (valid : t.Valid Apart) (h : t.before.Registered)
    (hrefusing : t.before.around.refusing = 0) (hturn : t.move.manager? = some i) :
    ∃ m m', t.before.managers[i]? = some m ∧
      (t.before.reception m).Advances (t.after.reception m') ∧
        (t.before.reception m).Spares (t.after.reception m') := by
  obtain ⟨m, hm⟩ := valid.manager hturn
  obtain ⟨m', hm', -⟩ := valid.does hm
  have hreceives := (valid.mono Apart.outside).receives h hrefusing hm hm'
  exact ⟨m, m', hm, hreceives.moves hturn⟩

/-- What happens in a turn that is that of no manager. -/
theorem Turn.Valid.unmanned (valid : t.Valid Apart) (hturn : t.move.manager? = none) :
    t.before.around.now ≤ t.after.around.now ∧
      t.after.around.refusing = t.before.around.refusing ∧
      t.before.around.bus.Advances t.after.around.bus ∧
      ∀ m ∈ t.before.managers, ∀ d ∈ m.dispatchers,
        t.after.around.bus.subscriptions.get? d.subscription =
          t.before.around.bus.subscriptions.get? d.subscription := by
  rcases valid.idles hturn with ⟨around, hothers, hafter⟩ | ⟨now, hle, hafter⟩
  · obtain ⟨hnow, hbus⟩ := hothers.outside.advances
    rw [hafter]
    exact ⟨Nat.le_of_eq hnow.symm, hothers.refusing, hbus, hothers.subscriptions⟩
  · rw [hafter]
    exact ⟨hle, rfl, .refl _, fun _ _ _ _ => rfl⟩

/-- The turns of others leave the readers of a manager alone. -/
theorem Turn.Valid.leaves (valid : t.Valid Apart) (h : t.before.Registered) (ht : t.before.Tuned)
    (hm : t.before.managers[i]? = some m) (hmove : t.move.manager? ≠ some i) : t.Leaves m := by
  cases hturn : t.move.manager? with
  | some j =>
    obtain ⟨other, other', hother, hadvances, hspares⟩ := valid.moves h ht.refusing hturn
    refine ⟨{ hadvances with primary := rfl, ttl := rfl }, fun {kind n c} hread => ?_⟩
    refine hspares ((ht.readers hm).counted hread) fun kind' c' hread' => ?_
    -- A subscription is on one connection, which reports to one manager.
    obtain ⟨cursor, hget, -⟩ := (ht.readers hm).subscription hread
    obtain ⟨cursor', hget', -⟩ := (ht.readers hother).subscription hread'
    obtain ⟨rfl, -⟩ := Subscription.mk.inj (Option.some.inj (hget.symm.trans hget'))
    obtain ⟨x, hx, hlistener⟩ := (ht.readers hm).owned hread
    obtain ⟨x', hx', hlistener'⟩ := (ht.readers hother).owned hread'
    obtain rfl := Option.some.inj (hx.symm.trans hx')
    exact hmove (hturn.trans (congrArg some (hlistener'.symm.trans hlistener)))
  | none =>
    obtain ⟨hnow, hrefusing, hbus, hsubscriptions⟩ := valid.unmanned hturn
    refine ⟨⟨hnow, rfl, hrefusing, rfl, hbus.channel, hbus.subscribed⟩, fun {_ n _} hread => ?_⟩
    obtain ⟨d, hd, -, rfl, -⟩ := hread
    exact hsubscriptions m (List.mem_of_getElem? hm) d hd

theorem Turn.Leaves.follows (h : t.Leaves m) :
    (t.before.reception m).Follows (t.after.reception m) :=
  .of_get? h.advances id h.subscription

/-! ### Readers -/

/-- A turn makes no reader, unless the manager gets a new connection. -/
theorem Turn.Valid.follows_or_renews (valid : t.Valid Apart) (h : t.before.Registered)
    (ht : t.before.Tuned) (hm : t.before.managers[i]? = some m)
    (hm' : t.after.managers[i]? = some m') :
    (t.before.reception m).Follows (t.after.reception m') ∨
      t.after.reception m' = (t.before.reception m).renew t.before.around.bus.nextId := by
  cases (valid.mono Apart.outside).receives h ht.refusing hm hm' with
  | tunes _ htunes => exact htunes.follows_or_renews
  | dispatches _ hdispatches => exact .inl hdispatches.follows
  | quits _ hquits => exact .inl (hquits ▸ Reception.follows_quit _)
  | others _ hmove hsame =>
    subst hsame
    exact .inl (valid.leaves h ht hm hmove).follows

theorem Turn.Valid.refusing (valid : t.Valid Apart) (h : t.before.Registered)
    (hrefusing : t.before.around.refusing = 0) : t.after.around.refusing = 0 := by
  cases hturn : t.move.manager? with
  | some j =>
    obtain ⟨m, m', -, hadvances, -⟩ := valid.moves h hrefusing hturn
    exact hadvances.refusing.trans hrefusing
  | none => exact (valid.unmanned hturn).2.1.trans hrefusing

theorem Turn.Receives.tuned (h : t.Receives i m m') (valid : t.Valid Apart)
    (hbefore : t.before.Registered) (hafter : t.after.Registered)
    (ht : t.before.Tuned) (hm : t.before.managers[i]? = some m)
    (hm' : t.after.managers[i]? = some m') :
    (t.after.reception m').Tuned i t.after.around.bus.toRegistry := by
  have hreaders := ht.readers hm
  have hn := (hbefore.registry hm).numbered
  have hg := (valid.mono Apart.outside).grows hbefore hm
  cases h with
  | tunes _ h hreleases =>
    refine h.tuned hreaders hn hg hn.get?_nextId (fun hc => ?_) (fun hc => ?_) fun hc => ?_
    · obtain ⟨x, hx, -⟩ := (hbefore.registry hm).current hc
      exact ⟨x, hx⟩
    · obtain ⟨x, hx, hlistener⟩ := (hafter.registry hm').current hc
      exact ⟨x, hx, hlistener.trans (hafter.listener hm')⟩
    · refine (hreleases _ hc).imp_right fun ⟨x, hx, hclosed⟩ => ?_
      exact (Registry.isClosed_of_get? hx).trans hclosed
  | dispatches _ h hlink =>
    have hconnection : (t.after.reception m').connection = (t.before.reception m).connection :=
      congrArg (·.control.connection) hlink
    exact hreaders.follows h.follows hn hg fun _ _ hc => hconnection.trans hc
  | quits _ h =>
    rw [h]
    refine hreaders.follows (Reception.follows_quit _) hn hg fun hread _ hc => ?_
    obtain ⟨dispatchers, subscriptions, -, hreads, -⟩ := (t.before.reception m).quit_eq
    exact absurd hc (hreads hread).2.1
  | others _ hmove hsame =>
    subst hsame
    exact hreaders.follows (valid.leaves hbefore ht hm hmove).follows hn hg fun _ _ => id

theorem Turn.Valid.tuned (valid : t.Valid Apart) (h : t.before.Registered) (ht : t.before.Tuned) :
    t.after.Tuned where
  refusing := valid.refusing h ht.refusing
  readers {i m'} hm' := by
    have hvalid := valid.mono Apart.outside
    obtain ⟨m, hm, -⟩ := hvalid.done hm'
    exact (hvalid.receives h ht.refusing hm hm').tuned valid h (hvalid.registered h) ht hm hm'

theorem IsNew.receptions (h : start.IsNew) (hm : start.managers[i]? = some m) :
    m.dispatchers = [] ∧ m.connection = none := by
  obtain ⟨settings, store, hcreate⟩ := h.managers hm
  unfold Manager.create at hcreate
  split at hcreate
  · simp at hcreate
  · obtain rfl := Except.ok.inj hcreate
    exact ⟨rfl, rfl⟩

theorem IsNew.counts (h : start.IsNew) (hm : start.managers[i]? = some m) :
    m.ingest.stored = 0 ∧ m.ingest.dropped = 0 := by
  obtain ⟨settings, store, hcreate⟩ := h.managers hm
  unfold Manager.create at hcreate
  split at hcreate
  · simp at hcreate
  · obtain rfl := Except.ok.inj hcreate
    exact ⟨rfl, rfl⟩

theorem IsNew.tuned (h : start.IsNew) (hrefusing : start.around.refusing = 0) : start.Tuned where
  refusing := hrefusing
  readers {i m} hm := by
    have hnone {kind n c} : ¬(start.reception m).Reads kind n c := by
      rintro ⟨d, hd, -⟩
      have hd' : d ∈ m.dispatchers := hd
      simp [(h.receptions hm).1] at hd'
    exact {
      counted := fun hread => absurd hread hnone
      subscription := fun hread => absurd hread hnone
      owned := fun hread => absurd hread hnone
      current := fun hread => absurd hread hnone
      single := fun hread => absurd hread hnone
      primary := fun hread => absurd hread hnone }

theorem Run.tuned (run : Run Apart start turns net) (h : start.Registered) (ht : start.Tuned) :
    net.Tuned := by
  induction run with
  | start => exact ht
  | turn run valid ih => exact valid.tuned (run.outside.registered h) ih

/-! ### Primaries that hear -/

theorem Turn.Valid.advances (valid : t.Valid Apart) (h : t.before.Registered) (ht : t.before.Tuned)
    (hm : t.before.managers[i]? = some m) (hm' : t.after.managers[i]? = some m') :
    (t.before.reception m).Advances (t.after.reception m') := by
  cases (valid.mono Apart.outside).receives h ht.refusing hm hm' with
  | tunes _ h => exact h.advances
  | dispatches _ h => exact h.advances
  | quits _ h => exact h ▸ Reception.advances_quit _
  | others _ hmove hsame => exact hsame ▸ (valid.leaves h ht hm hmove).advances

theorem Run.advances {m₀ : Manager} (run : Run Apart start turns net) (h : start.Registered)
    (ht : start.Tuned) (hm₀ : start.managers[i]? = some m₀) (hm : net.managers[i]? = some m) :
    (start.reception m₀).Advances (net.reception m) := by
  induction run generalizing m with
  | start =>
    obtain rfl : m₀ = m := Option.some.inj (hm₀.symm.trans hm)
    exact .refl _
  | turn run valid ih =>
    obtain ⟨m₁, hm₁, -⟩ := valid.done hm
    exact (ih hm₁).trans (valid.advances (run.outside.registered h) (run.tuned h ht) hm₁ hm)

theorem Run.grows (run : Run Apart start turns net) (h : start.Registered)
    (hm : net.managers[i]? = some m) :
    Registry.Grows start.around.bus.toRegistry net.around.bus.toRegistry := by
  induction run generalizing m with
  | start => exact .refl _
  | turn run valid ih =>
    have hvalid := valid.mono Apart.outside
    obtain ⟨m₁, hm₁, -⟩ := hvalid.done hm
    exact (ih hm₁).trans (hvalid.grows (run.outside.registered h) hm₁)

theorem Turn.Valid.hears (valid : t.Valid Apart) (h : t.before.Registered) (ht : t.before.Tuned)
    (hm : t.before.managers[i]? = some m) (hm' : t.after.managers[i]? = some m')
    (hfits : t.before.around.now + m.ingest.cache.ttl < Cache.clockEnd)
    (hears : (t.before.reception m).Hears t.before.around.bus.toRegistry) :
    (t.after.reception m').Hears t.after.around.bus.toRegistry := by
  have hover {c : Nat} (hc : (t.before.reception m).connection = some c)
      (hopen : t.after.around.bus.isOver c = false) : t.before.around.bus.isOver c = false := by
    obtain ⟨x, hx, -⟩ := (h.registry hm).current hc
    exact ((valid.mono Apart.outside).grows h hm).isOver (h.registry hm).numbered hx hopen
  cases (valid.mono Apart.outside).receives h ht.refusing hm hm' with
  | tunes _ htunes => exact htunes.hears hears hover
  | dispatches _ hdispatches hlink =>
    have hregistry : t.after.around.bus.toRegistry = t.before.around.bus.toRegistry :=
      congrArg Link.registry hlink
    rw [hregistry]
    exact hdispatches.hears (ht.readers hm) hfits hears
  | quits _ hquits => exact hquits ▸ Reception.hears_quit _
  | others _ _ hsame =>
    subst hsame
    exact fun hprimary _ hc hopen => hears hprimary hc (hover hc hopen)

/-- A primary has a reader of each kind on its current connection, as long as messages can reach it and
no claim would stay fresh beyond the end of the clock. -/
theorem Run.hears (run : Run Apart start turns net) (hnew : start.IsNew)
    (hrefusing : start.around.refusing = 0) (hm : net.managers[i]? = some m)
    (hfits : net.around.now + m.ingest.cache.ttl < Cache.clockEnd) :
    (net.reception m).Hears net.around.bus.toRegistry := by
  induction run generalizing m with
  | start =>
    intro _ c hc
    have hc' : m.connection = some c := hc
    simp [(hnew.receptions hm).2] at hc'
  | turn run valid ih =>
    have h := run.outside.registered hnew.registered
    have ht := run.tuned hnew.registered (hnew.tuned hrefusing)
    obtain ⟨m₀, hm₀, -⟩ := valid.done hm
    have hfits₀ := (valid.advances h ht hm₀ hm).fits hfits
    exact valid.hears h ht hm₀ hm hfits₀ (ih hm₀ hfits₀)

end Network

end ClaimRelay
