import ClaimRelay.Proofs.Manager.Balanced
import ClaimRelay.Proofs.Network.Kept
import ClaimRelay.Proofs.Network.Loss
import ClaimRelay.Proofs.Network.Tuned
import Mathlib.Data.List.Nodup
import Mathlib.Data.List.Perm.Basic

/-! A network at rest.  If nobody but the managers subscribes then the subscriptions on the bus are those of
their readers, over any run.  At rest only the primaries that hold a connection have readers, one of each
kind on that connection. -/

namespace ClaimRelay

open Manager Bus

namespace Network

/-- What others may do who neither hold subscriptions nor have any refused. -/
structure Alone (net : Network) (around : Surroundings) : Prop where
  outside : Outside net around
  refusing : around.refusing = net.around.refusing
  subscriptions : around.bus.subscriptions = net.around.bus.subscriptions

variable {start net : Network} {i j id : Nat} {m m' : Manager} {d : Dispatcher} {t : Turn}
  {turns : List Turn} {around : Surroundings}

theorem Alone.apart (h : Alone net around) : Apart net around where
  outside := h.outside
  refusing := h.refusing
  subscriptions _ _ _ _ := by rw [h.subscriptions]

theorem Run.apart (run : Run Alone start turns net) : Run Apart start turns net :=
  run.mono Alone.apart

/-! ### Subscriptions -/

/-- The subscriptions of the readers of some managers. -/
def numbers (managers : List Manager) : List Nat :=
  managers.flatMap fun m => m.dispatchers.map (·.subscription)

/-- The subscriptions on the bus are those of the readers, each once. -/
structure Balanced (net : Network) : Prop where
  held : (net.around.bus.subscriptions.map (·.1)).Perm (numbers net.managers)
  nodup : (net.around.bus.subscriptions.map (·.1)).Nodup
  counted : ∀ n ∈ net.around.bus.subscriptions.map (·.1), n ≤ net.around.bus.subscribed

/-- The readers of one manager, and those of the others. -/
theorem numbers_perm (hm : net.managers[i]? = some m) :
    (numbers net.managers).Perm
      ((net.reception m).numbers ++ numbers (net.managers.eraseIdx i)) := by
  obtain ⟨hi, rfl⟩ := List.getElem?_eq_some_iff.mp hm
  exact (List.getElem_cons_eraseIdx_perm hi).symm.flatMap_right _

theorem Balanced.reception (h : net.Balanced) (hm : net.managers[i]? = some m) :
    (net.reception m).Balanced (numbers (net.managers.eraseIdx i)) where
  held := h.held.trans (numbers_perm hm)
  nodup := h.nodup
  counted := h.counted

theorem Balanced.of_reception (hm : net.managers[i]? = some m)
    (h : (net.reception m).Balanced (numbers (net.managers.eraseIdx i))) : net.Balanced where
  held := h.held.trans (numbers_perm hm).symm
  nodup := h.nodup
  counted := h.counted

theorem Turn.Valid.managers_eq {Others : Network → Surroundings → Prop} (valid : t.Valid Others)
    (hturn : t.move.manager? = some i) (hm : t.before.managers[i]? = some m)
    (hm' : t.after.managers[i]? = some m') : t.after.managers = t.before.managers.set i m' := by
  have hi := (List.getElem?_eq_some_iff.mp hm).1
  apply List.ext_getElem?
  intro k
  by_cases hk : i = k
  · subst hk
    rw [hm', List.getElem?_set_self hi]
  · rw [List.getElem?_set_ne hk]
    refine valid.getElem?_managers fun hsame => hk ?_
    exact Option.some.inj (hturn.symm.trans hsame)

theorem Turn.Valid.balanced (valid : t.Valid Alone) (h : t.before.Registered) (ht : t.before.Tuned)
    (hbalanced : t.before.Balanced) : t.after.Balanced := by
  cases hturn : t.move.manager? with
  | some i =>
    obtain ⟨m, hm⟩ := valid.manager hturn
    obtain ⟨m', hm', -⟩ := valid.does hm
    refine .of_reception hm' ?_
    rw [valid.managers_eq hturn hm hm', List.eraseIdx_set_eq]
    have hreception := hbalanced.reception hm
    cases (valid.mono fun h => h.outside).receives h ht.refusing hm hm' with
    | tunes _ htunes => exact htunes.balanced hreception
    | dispatches _ hdispatches => exact hdispatches.balanced hreception
    | quits _ hquits => exact hquits ▸ Reception.balanced_quit hreception
    | others _ hnot => exact absurd hturn hnot
  | none =>
    rcases valid.idles hturn with ⟨around, hothers, hafter⟩ | ⟨now, -, hafter⟩
    · rw [hafter]
      refine ⟨?_, ?_, fun n hn => ?_⟩
      · exact hothers.subscriptions ▸ hbalanced.held
      · exact hothers.subscriptions ▸ hbalanced.nodup
      · have hle := hbalanced.counted n (hothers.subscriptions ▸ hn)
        exact Nat.le_trans hle hothers.outside.advances.2.subscribed
    · rw [hafter]
      exact ⟨hbalanced.held, hbalanced.nodup, hbalanced.counted⟩

theorem IsNew.balanced (h : start.IsNew) : start.Balanced := by
  obtain ⟨capacity, hbus⟩ := h.bus
  have hnone : numbers start.managers = [] := by
    refine List.flatMap_eq_nil_iff.mpr fun m hm => ?_
    obtain ⟨i, hi⟩ := List.getElem?_of_mem hm
    rw [(h.receptions hi).1]
    rfl
  refine ⟨?_, ?_, ?_⟩
  · rw [hbus, hnone]
    exact .nil
  · rw [hbus]
    exact .nil
  · rw [hbus]
    intro n hn
    exact absurd hn List.not_mem_nil

theorem Run.balanced (run : Run Alone start turns net) (hnew : start.IsNew)
    (hrefusing : start.around.refusing = 0) : net.Balanced := by
  induction run with
  | start => exact hnew.balanced
  | turn run valid ih =>
    exact valid.balanced (run.apart.outside.registered hnew.registered)
      (run.apart.tuned hnew.registered (hnew.tuned hrefusing)) ih

/-! ### At rest -/

/-- The locks are free, nobody waits for one, no manager with a connection has mail that its connection is
closed, and no dispatcher can go on. -/
structure Quiet (net : Network) : Prop where
  free : ∀ {i : Nat} {m : Manager}, net.managers[i]? = some m → m.attempt = none ∧ m.queue = []
  heard : ∀ {i : Nat} {m : Manager}, net.managers[i]? = some m → m.connection ≠ none →
    (i, .closed) ∉ net.around.bus.mail
  idle : ∀ {i : Nat} {m : Manager}, net.managers[i]? = some m → ∀ d ∈ m.dispatchers,
    net.step? (.dispatch i d.subscription) = none

/-- A dispatcher that listens: it runs, and its subscription on an open connection is held. -/
structure Listens (net : Network) (id : Nat) (d : Dispatcher) : Prop where
  started : d.started = true
  connection : d.connection = id
  isOpen : net.around.bus.isOver id = false
  held : ∃ cursor, net.around.bus.subscriptions.get? d.subscription = some ⟨id, d.kind.pattern, cursor⟩

/-- Whether a manager takes notifications in: it is a primary that holds a connection. -/
def isHearing (m : Manager) : Bool := m.settings.primary && m.connection.isSome

/-- At rest every dispatcher listens on the current connection of a primary. -/
theorem Run.listens (run : Run Alone start turns net) (hnew : start.IsNew)
    (hrefusing : start.around.refusing = 0) (hquiet : net.Quiet) (hm : net.managers[i]? = some m)
    (hd : d ∈ m.dispatchers) :
    m.settings.primary = true ∧ m.connection = some d.connection ∧ net.Listens d.connection d := by
  have htuned := (run.apart.tuned hnew.registered (hnew.tuned hrefusing)).readers hm
  have hnodup := ((run.balanced hnew hrefusing).reception hm).nodup_numbers
  have hread : (net.reception m).Reads d.kind d.subscription d.connection := ⟨d, hd, rfl, rfl, rfl⟩
  have hnone : Scene.dispatch d.subscription ⟨m, net.around⟩ = none := by
    have hidle := hquiet.idle hm d hd
    simp only [step?, onManager, hm] at hidle
    split at hidle
    · assumption
    · simp at hidle
  obtain ⟨hstarted, sub, hsub, hopen⟩ := Scene.dispatch_waits hnone hd hnodup
  obtain ⟨cursor, hget, -⟩ := htuned.subscription hread
  obtain rfl := Option.some.inj (hget.symm.trans hsub)
  refine ⟨htuned.primary hread, ?_, hstarted, rfl, hopen, cursor, hsub⟩
  exact htuned.current hread (Registry.isClosed_of_isOver hopen)

/-- At rest a primary that holds a connection has one dispatcher for each kind. -/
theorem Run.hears_once (run : Run Alone start turns net) (hnew : start.IsNew)
    (hrefusing : start.around.refusing = 0) (hquiet : net.Quiet) (hm : net.managers[i]? = some m)
    (hfits : net.around.now + m.ingest.cache.ttl < Cache.clockEnd)
    (hprimary : m.settings.primary = true) (hid : m.connection = some id) (kind : Notification) :
    ∃ d, m.dispatchers.filter (·.kind = kind) = [d] ∧ net.Listens id d := by
  have htuned := (run.apart.tuned hnew.registered (hnew.tuned hrefusing)).readers hm
  have hnodup := ((run.balanced hnew hrefusing).reception hm).nodup_numbers
  have hclosed := run.apart.outside.loss_is_told hnew hm (hquiet.heard hm (by simp [hid]))
    (by simp [(hquiet.free hm).2]) hid
  have hopen := run.apart.outside.isOver_eq_false hnew hm hid hclosed
  have hlisten {d : Dispatcher} (hd : d ∈ m.dispatchers) : d.connection = id ∧ net.Listens id d := by
    obtain ⟨-, hcurrent, hlistens⟩ := run.listens hnew hrefusing hquiet hm hd
    obtain rfl : id = d.connection := Option.some.inj (hid.symm.trans hcurrent)
    exact ⟨rfl, hlistens⟩
  obtain ⟨n, d, hd, hkind, hn, hconnection⟩ :=
    run.apart.hears hnew hrefusing hm hfits hprimary hid hopen kind
  -- Any other of the same kind has the same subscription.
  have honly : ∀ d' ∈ m.dispatchers.filter (·.kind = kind), d' = d := by
    intro d' hd'
    obtain ⟨hmem, hsame⟩ := List.mem_filter.mp hd'
    have hread : (net.reception m).Reads kind d.subscription id := ⟨d, hd, hkind, rfl, (hlisten hd).1⟩
    have hread' : (net.reception m).Reads kind d'.subscription id :=
      ⟨d', hmem, by simpa using hsame, rfl, (hlisten hmem).1⟩
    exact List.inj_on_of_nodup_map hnodup hmem hd (htuned.single hread' hread)
  refine ⟨d, ?_, (hlisten hd).2⟩
  have hfiltered : (m.dispatchers.filter (·.kind = kind)).Nodup := (List.Nodup.of_map _ hnodup).filter _
  have hmem : d ∈ m.dispatchers.filter (·.kind = kind) :=
    List.mem_filter.mpr ⟨hd, by simpa using hkind⟩
  refine List.perm_singleton.mp ((List.perm_ext_iff_of_nodup hfiltered (List.nodup_singleton d)).mpr ?_)
  exact fun d' => ⟨fun hd' => List.mem_singleton.mpr (honly d' hd'),
    fun hd' => List.mem_singleton.mp hd' ▸ hmem⟩

theorem length_numbers {managers : List Manager}
    (h : ∀ m ∈ managers, m.dispatchers.length = if isHearing m then 2 else 0) :
    (numbers managers).length = 2 * managers.countP isHearing := by
  induction managers with
  | nil => rfl
  | cons m managers ih =>
    obtain ⟨hfirst, hrest⟩ := List.forall_mem_cons.mp h
    have hlength : (numbers (m :: managers)).length =
        m.dispatchers.length + (numbers managers).length := by
      simp [numbers]
    rw [hlength, ih hrest, hfirst, List.countP_cons]
    split <;> omega

/-- No subscription is lost and no primary is deaf, whenever a network is at rest.  There are two
subscriptions for each primary that holds a connection: it has one dispatcher for each kind of notification,
which listens on this connection.  No other manager has any. -/
theorem Run.at_rest (run : Run Alone start turns net) (hnew : start.IsNew)
    (hrefusing : start.around.refusing = 0) (hquiet : net.Quiet)
    (hfits : ∀ m ∈ net.managers, net.around.now + m.ingest.cache.ttl < Cache.clockEnd) :
    net.around.bus.subscriptionCount = 2 * net.managers.countP isHearing ∧
    ∀ {i : Nat} {m : Manager}, net.managers[i]? = some m →
      (∀ {id : Nat}, m.settings.primary = true → m.connection = some id →
        m.dispatchers.length = 2 ∧
          ∀ kind : Notification, ∃ d, m.dispatchers.filter (·.kind = kind) = [d] ∧ net.Listens id d) ∧
      (isHearing m = false → m.dispatchers = []) := by
  have htwo {i : Nat} {m : Manager} {id : Nat} (hm : net.managers[i]? = some m)
      (hprimary : m.settings.primary = true) (hid : m.connection = some id) :
      m.dispatchers.length = 2 ∧
        ∀ kind : Notification, ∃ d, m.dispatchers.filter (·.kind = kind) = [d] ∧ net.Listens id d := by
    have honce := run.hears_once hnew hrefusing hquiet hm (hfits m (List.mem_of_getElem? hm))
      hprimary hid
    refine ⟨?_, honce⟩
    obtain ⟨d, hd, -⟩ := honce .accountUpdate
    obtain ⟨d', hd', -⟩ := honce .activation
    have hrest : m.dispatchers.filter (fun d => !decide (d.kind = .accountUpdate)) =
        m.dispatchers.filter (·.kind = .activation) := by
      refine List.filter_congr fun d _ => ?_
      cases d.kind <;> rfl
    rw [List.length_eq_length_filter_add (fun d => decide (d.kind = .accountUpdate)), hrest, hd, hd']
    rfl
  have hnone {i : Nat} {m : Manager} (hm : net.managers[i]? = some m) (hdeaf : isHearing m = false) :
      m.dispatchers = [] := by
    refine List.eq_nil_iff_forall_not_mem.mpr fun d hd => ?_
    obtain ⟨hprimary, hcurrent, -⟩ := run.listens hnew hrefusing hquiet hm hd
    simp [isHearing, hprimary, hcurrent] at hdeaf
  refine ⟨?_, fun hm => ⟨fun hprimary hid => htwo hm hprimary hid, hnone hm⟩⟩
  have hheld := (run.balanced hnew hrefusing).held.length_eq
  rw [List.length_map] at hheld
  refine hheld.trans (length_numbers fun m hmem => ?_)
  obtain ⟨i, hm⟩ := List.getElem?_of_mem hmem
  split
  · rename_i hhears
    obtain ⟨hprimary, hconnection⟩ : m.settings.primary = true ∧ m.connection.isSome = true := by
      simpa [isHearing] using hhears
    obtain ⟨id, hid⟩ := Option.isSome_iff_exists.mp hconnection
    exact (htwo hm hprimary hid).1
  · rename_i hdeaf
    rw [hnone hm (by simpa using hdeaf)]
    rfl

/-- The connection of a primary is replaced.  When its old dispatchers have ended and the new ones have begun
there are two subscriptions, which listen on the new connection. -/
theorem Run.at_rest_after_reconnect : ∃ turns net m,
    Run Alone (ofSettings [{ servers := ["bus://a"], primary := true }, { servers := ["bus://a"] }])
      turns net ∧
    net.managers[0]? = some m ∧ m.connection = some 3 ∧ net.around.bus.subscriptionCount = 2 ∧
      ∀ kind : Notification, ∃ d, m.dispatchers.filter (·.kind = kind) = [d] ∧ net.Listens 3 d := by
  let first : Network :=
    ofSettings [{ servers := ["bus://a"], primary := true }, { servers := ["bus://a"] }]
  have hnew : first.IsNew := isNew_ofSettings (by simp; exact ⟨rfl, rfl⟩)
  obtain ⟨⟨turns, net⟩, hrun, hrest, hfits, hcount, m, hm, hprimary, hid⟩ :
      ∃ x ∈ first.replay [.request 0 0 .start, .grant 0, .request 1 0 .start, .grant 1,
          .dispatch 0 1, .dispatch 0 2, .request 0 1 .reconnect, .grant 0, .hear 0, .grant 0,
          .dispatch 0 1, .dispatch 0 2, .dispatch 0 3, .dispatch 0 4],
        (∀ i < x.2.managers.length, ∀ m ∈ x.2.managers[i]?,
          (m.attempt.isNone = true ∧ m.queue = []) ∧ (i, .closed) ∉ x.2.around.bus.mail ∧
            ∀ d ∈ m.dispatchers, (x.2.step? (.dispatch i d.subscription)).isNone = true) ∧
        (∀ m ∈ x.2.managers, x.2.around.now + m.ingest.cache.ttl < Cache.clockEnd) ∧
        x.2.managers.countP isHearing = 1 ∧
        ∃ m ∈ x.2.managers[0]?, m.settings.primary = true ∧ m.connection = some 3 := by
    decide +kernel
  have hcheck {i : Nat} {m : Manager} (hm : net.managers[i]? = some m) :=
    hrest i (List.getElem?_eq_some_iff.mp hm).1 m hm
  have hquiet : net.Quiet :=
    ⟨fun hm => (hcheck hm).1.imp_left Option.isNone_iff_eq_none.mp, fun hm _ => (hcheck hm).2.1,
      fun hm d hd => Option.isNone_iff_eq_none.mp ((hcheck hm).2.2 d hd)⟩
  obtain ⟨hheld, htasks⟩ := Run.at_rest (.of_replay hrun) hnew rfl hquiet hfits
  rw [hcount] at hheld
  exact ⟨turns, net, m, .of_replay hrun, hm, hid, hheld, ((htasks hm).1 hprimary hid).2⟩

end Network

end ClaimRelay
