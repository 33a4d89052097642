import ClaimRelay.Proofs.Ingest.Handling
import ClaimRelay.Proofs.Manager.Reception

/-! The readers of a manager.  `Tuned` holds in every run: each reader has its subscription, there is one
for each kind on a connection, and only those on the current connection can still be reached.  A primary
`Hears` if it has a reader of each kind there. -/

namespace ClaimRelay.Manager.Reception

open Bus

variable {r t u : Reception} {kind : Notification} {n m c next : Nat} {registry : Registry}

/-! ### What the readers are -/

theorem reads_markStarted :
    ({ r with dispatchers := Scene.markStarted m r.dispatchers } : Reception).Reads kind n c ↔
      r.Reads kind n c := by
  unfold Reads Scene.markStarted
  constructor
  · rintro ⟨d, hd, hkind, hsubscription, hconnection⟩
    obtain ⟨d₀, hd₀, rfl⟩ := List.mem_map.mp hd
    refine ⟨d₀, hd₀, ?_⟩
    split at hkind <;> simp_all
  · rintro ⟨d, hd, hkind, hsubscription, hconnection⟩
    refine ⟨_, List.mem_map_of_mem hd, ?_⟩
    split <;> simp_all

theorem reads_drop : (r.drop m).Reads kind n c ↔ r.Reads kind n c ∧ n ≠ m := by
  unfold Reads drop
  constructor
  · rintro ⟨d, hd, hkind, rfl, hconnection⟩
    obtain ⟨hd, hother⟩ := List.mem_filter.mp hd
    exact ⟨⟨d, hd, hkind, rfl, hconnection⟩, by simpa using hother⟩
  · rintro ⟨⟨d, hd, hkind, rfl, hconnection⟩, hother⟩
    exact ⟨d, List.mem_filter.mpr ⟨hd, by simpa using hother⟩, hkind, rfl, hconnection⟩

theorem get?_drop (h : n ≠ m) : (r.drop m).subscriptions.get? n = r.subscriptions.get? n := by
  rw [drop, Table.get?_erase, if_neg (Ne.symm h)]

/-- The number of the subscription of a kind, among those made for a new connection. -/
def turn : Notification → Nat
  | .accountUpdate => 1
  | .activation => 2

theorem reads_renew :
    (r.renew c).Reads kind n m ↔
      r.Reads kind n m ∨ r.primary = true ∧ n = r.subscribed + turn kind ∧ m = c := by
  unfold renew
  split
  · rename_i hprimary
    simp only [Reads, Notification.all, List.foldl, tune, List.mem_append, List.mem_singleton,
      hprimary, true_and]
    constructor
    · rintro ⟨d, (hd | rfl) | rfl, rfl, rfl, rfl⟩
      · exact .inl ⟨d, hd, rfl, rfl, rfl⟩
      · exact .inr ⟨rfl, rfl⟩
      · exact .inr ⟨rfl, rfl⟩
    · rintro (⟨d, hd, hread⟩ | ⟨rfl, rfl⟩)
      · exact ⟨d, .inl (.inl hd), hread⟩
      · cases kind with
        | accountUpdate => exact ⟨_, .inl (.inr rfl), rfl, rfl, rfl⟩
        | activation => exact ⟨_, .inr rfl, rfl, rfl, rfl⟩
  · rename_i hprimary
    exact ⟨.inl, fun h => h.resolve_right fun hnew => hprimary hnew.1⟩

theorem get?_renew (h : n ≤ r.subscribed) :
    (r.renew c).subscriptions.get? n = r.subscriptions.get? n := by
  unfold renew
  split
  · simp only [Notification.all, List.foldl, tune, Table.get?_put]
    rw [if_neg (by omega), if_neg (by omega)]
  · rfl

theorem get?_renew_new (hprimary : r.primary = true) (kind : Notification) :
    (r.renew c).subscriptions.get? (r.subscribed + turn kind) =
      some ⟨c, kind.pattern, r.channel.tail⟩ := by
  unfold renew
  simp only [hprimary, if_true, Notification.all, List.foldl, tune, Table.get?_put]
  cases kind <;> simp [turn]

theorem subscribed_renew (h : n = r.subscribed + turn kind) (hprimary : r.primary = true) :
    n ≤ (r.renew c).subscribed := by
  unfold renew
  simp only [hprimary, if_true, Notification.all, List.foldl, tune]
  cases kind <;> simp only [turn] at h <;> omega

/-- What the readers are when those of some dispatchers are dropped. -/
theorem foldl_drop (ds : List Dispatcher) (r : Reception) :
    ∃ dispatchers subscriptions,
      ds.foldl (fun r d => r.drop d.subscription) r = { r with dispatchers, subscriptions } ∧
      (∀ {kind n c}, ({ r with dispatchers } : Reception).Reads kind n c ↔
        r.Reads kind n c ∧ ∀ d ∈ ds, d.subscription ≠ n) ∧
      ∀ {n}, (∀ d ∈ ds, d.subscription ≠ n) →
        Table.get? subscriptions n = r.subscriptions.get? n := by
  induction ds generalizing r with
  | nil => exact ⟨_, _, rfl, by simp, fun _ => rfl⟩
  | cons d ds ih =>
    obtain ⟨dispatchers, subscriptions, hfold, hreads, hget⟩ := ih (r.drop d.subscription)
    refine ⟨dispatchers, subscriptions, hfold, fun {kind n c} => ?_, fun {n} hn => ?_⟩
    · have hrest : (({ r with dispatchers } : Reception).Reads kind n c ↔
          (r.drop d.subscription).Reads kind n c ∧ ∀ d' ∈ ds, d'.subscription ≠ n) := hreads
      rw [hrest, reads_drop, List.forall_mem_cons, and_assoc]
      simp only [ne_comm (a := n)]
    · obtain ⟨hfirst, hrest⟩ := List.forall_mem_cons.mp hn
      rw [hget hrest, get?_drop (Ne.symm hfirst)]

/-- A manager that ends keeps only readers on earlier connections. -/
theorem quit_eq (r : Reception) :
    ∃ dispatchers subscriptions, r.quit = { r with dispatchers, subscriptions, connection := none } ∧
      (∀ {kind n c}, r.quit.Reads kind n c → r.Reads kind n c ∧ r.connection ≠ some c ∧
        Table.get? subscriptions n = r.subscriptions.get? n) ∧
      ∀ {n}, (∀ kind c, ¬r.Reads kind n c) →
        Table.get? subscriptions n = r.subscriptions.get? n := by
  obtain ⟨dispatchers, subscriptions, hfold, hreads, hget⟩ :=
    foldl_drop (r.dispatchers.filter fun d => some d.connection = r.connection) r
  have hquit : r.quit = { r with dispatchers, subscriptions, connection := none } := by
    rw [quit, hfold]
  refine ⟨dispatchers, subscriptions, hquit, fun {kind n c} h => ?_, fun {n} h => hget fun d hd => ?_⟩
  · rw [hquit] at h
    obtain ⟨hread, hkept⟩ := hreads.mp h
    refine ⟨hread, fun hcurrent => ?_, hget hkept⟩
    obtain ⟨d, hd, -, rfl, rfl⟩ := hread
    exact hkept d (List.mem_filter.mpr ⟨hd, by simpa using hcurrent.symm⟩) rfl
  · rintro rfl
    exact h d.kind d.connection ⟨d, (List.mem_filter.mp hd).1, rfl, rfl, rfl⟩

/-! ### What every step keeps -/

/-- What anybody's steps keep. -/
structure Advances (r t : Reception) : Prop where
  now : r.now ≤ t.now
  primary : t.primary = r.primary
  refusing : t.refusing = r.refusing
  ttl : t.ingest.cache.ttl = r.ingest.cache.ttl
  channel : r.channel.Grows t.channel
  subscribed : r.subscribed ≤ t.subscribed

theorem Advances.refl (r : Reception) : r.Advances r :=
  ⟨Nat.le_refl _, rfl, rfl, rfl, Channel.Grows.refl _, Nat.le_refl _⟩

theorem Advances.trans (h1 : r.Advances t) (h2 : t.Advances u) : r.Advances u where
  now := Nat.le_trans h1.now h2.now
  primary := h2.primary.trans h1.primary
  refusing := h2.refusing.trans h1.refusing
  ttl := h2.ttl.trans h1.ttl
  channel := h1.channel.trans h2.channel
  subscribed := Nat.le_trans h1.subscribed h2.subscribed

/-- A time that is before the end of the clock was so before. -/
theorem Advances.fits (h : r.Advances t) (hfits : t.now + t.ingest.cache.ttl < Cache.clockEnd) :
    r.now + r.ingest.cache.ttl < Cache.clockEnd := by
  have hnow := h.now
  have httl := h.ttl
  omega

theorem Takes.advances {receipt : Receipt} {outcome : Outcome}
    (h : r.Takes registry m receipt outcome t) : r.Advances t := by
  cases h with
  | intro hd hs hsearch hhandle =>
    exact { Advances.refl r with ttl := (Ingest.handles_of_run hhandle).ttl }

theorem Tunes.advances (h : r.Tunes next t) : r.Advances t := by
  cases h with
  | keeps => exact .refl r
  | quits => exact { Advances.refl r with }
  | sends message => exact { Advances.refl r with channel := Channel.grows_send message _ }
  | renews =>
    unfold renew
    split
    · exact { Advances.refl r with subscribed := by simp [Notification.all, tune]; omega }
    · exact { Advances.refl r with }

theorem Dispatches.advances {receipt : Option Receipt} (h : r.Dispatches registry m receipt t) :
    r.Advances t := by
  cases h with
  | starts | skips | ends => exact { Advances.refl r with }
  | takes h => exact h.advances
  | departs h => exact { h.advances with }

theorem advances_quit (r : Reception) : r.Advances r.quit := by
  obtain ⟨dispatchers, subscriptions, hquit, -, -⟩ := r.quit_eq
  rw [hquit]
  exact { Advances.refl r with }

/-- The subscriptions of others are left alone. -/
def Spares (r t : Reception) : Prop :=
  ∀ {n}, n ≤ r.subscribed → (∀ kind c, ¬r.Reads kind n c) →
    t.subscriptions.get? n = r.subscriptions.get? n

theorem reads_of_find? {d : Dispatcher}
    (h : r.dispatchers.find? (·.subscription = n) = some d) : r.Reads d.kind n d.connection :=
  ⟨d, List.mem_of_find?_eq_some h, rfl, by simpa using List.find?_some h, rfl⟩

theorem Takes.spares {receipt : Receipt} {outcome : Outcome}
    (h : r.Takes registry m receipt outcome t) : r.Spares t := by
  cases h with
  | intro hd hs hsearch hhandle =>
    intro n _ hnot
    rw [Table.get?_put, if_neg]
    rintro rfl
    exact hnot _ _ (reads_of_find? hd)

theorem Tunes.spares (h : r.Tunes next t) : r.Spares t := by
  cases h with
  | renews => exact fun hn _ => get?_renew hn
  | _ => exact fun _ _ => rfl

theorem Dispatches.spares {receipt : Option Receipt} (h : r.Dispatches registry m receipt t) :
    r.Spares t := by
  intro n hn hnot
  have hother {d : Dispatcher} (hd : r.dispatchers.find? (·.subscription = m) = some d) : n ≠ m := by
    rintro rfl
    exact hnot _ _ (reads_of_find? hd)
  cases h with
  | starts => rfl
  | skips hd => rw [Table.get?_put, if_neg (hother hd).symm]
  | ends hd => exact get?_drop (hother hd)
  | takes h => exact h.spares hn hnot
  | departs h =>
    have hkept := h.spares hn hnot
    cases h with
    | intro hd => rw [get?_drop (hother hd), hkept]

theorem spares_quit (r : Reception) : r.Spares r.quit := by
  obtain ⟨dispatchers, subscriptions, hquit, -, hspares⟩ := r.quit_eq
  rw [hquit]
  exact fun _ hnot => hspares hnot

/-! ### Readers of a manager -/

/-- What holds of the readers of a manager: `listener` is its number, and `registry` that of its bus. -/
structure Tuned (listener : Nat) (registry : Registry) (r : Reception) : Prop where
  counted : ∀ {kind n c}, r.Reads kind n c → n ≤ r.subscribed
  subscription : ∀ {kind n c}, r.Reads kind n c → ∃ cursor,
    r.subscriptions.get? n = some ⟨c, kind.pattern, cursor⟩ ∧ cursor ≤ r.channel.tail
  owned : ∀ {kind n c}, r.Reads kind n c →
    ∃ x, registry.connections.get? c = some x ∧ x.listener = listener
  current : ∀ {kind n c}, r.Reads kind n c → registry.isClosed c = false → r.connection = some c
  single : ∀ {kind n m c}, r.Reads kind n c → r.Reads kind m c → n = m
  primary : ∀ {kind n c}, r.Reads kind n c → r.primary = true

/-- No reader is made, and those that stay go on with their subscriptions. -/
structure Follows (r t : Reception) : Prop extends Advances r t where
  reads : ∀ {kind n c}, t.Reads kind n c → r.Reads kind n c
  subscription : ∀ {kind n c s}, t.Reads kind n c → r.subscriptions.get? n = some s →
    s.cursor ≤ r.channel.tail → ∃ cursor, t.subscriptions.get? n = some { s with cursor } ∧
      s.cursor ≤ cursor ∧ cursor ≤ t.channel.tail

theorem Follows.of_get? (h : r.Advances t)
    (hreads : ∀ {kind n c}, t.Reads kind n c → r.Reads kind n c)
    (hget : ∀ {kind n c}, t.Reads kind n c → t.subscriptions.get? n = r.subscriptions.get? n) :
    r.Follows t where
  toAdvances := h
  reads := hreads
  subscription {_ _ _ s} hread hs hle :=
    ⟨s.cursor, (hget hread).trans hs, Nat.le_refl _, Nat.le_trans hle h.channel.tail_le⟩

theorem follows_drop (r : Reception) (m : Nat) : r.Follows (r.drop m) :=
  .of_get? { Advances.refl r with } (fun h => (reads_drop.mp h).1) fun h =>
    get?_drop (reads_drop.mp h).2

/-- One reader goes on to another place. -/
theorem Follows.of_put {s : Subscription} {cursor : Nat} (h : r.Advances t)
    (hreads : ∀ {kind n c}, t.Reads kind n c → r.Reads kind n c)
    (hs : r.subscriptions.get? m = some s)
    (hle : s.cursor ≤ r.channel.tail → s.cursor ≤ cursor ∧ cursor ≤ t.channel.tail)
    (hput : t.subscriptions = r.subscriptions.put m { s with cursor }) : r.Follows t where
  toAdvances := h
  reads := hreads
  subscription {kind n c s'} _ hs' hle' := by
    rw [hput, Table.get?_put]
    by_cases hn : m = n
    · subst hn
      obtain rfl : s' = s := Option.some.inj (hs'.symm.trans hs)
      exact ⟨cursor, if_pos rfl, hle hle'⟩
    · exact ⟨s'.cursor, (if_neg hn).trans hs', Nat.le_refl _, Nat.le_trans hle' h.channel.tail_le⟩

theorem Takes.follows {receipt : Receipt} {outcome : Outcome}
    (h : r.Takes registry m receipt outcome t) : r.Follows t := by
  have hadvances := h.advances
  cases h with
  | intro hd hs hsearch hhandle =>
    obtain ⟨hle, hholds, -⟩ := Channel.search_found hsearch
    refine .of_put hadvances id hs (fun _ => ⟨?_, hholds.lt_tail⟩) rfl
    exact Nat.le_succ_of_le (Nat.le_trans (Nat.le_max_left ..) hle)

theorem Follows.trans (h1 : r.Follows t) (h2 : t.Follows u) : r.Follows u where
  toAdvances := h1.toAdvances.trans h2.toAdvances
  reads h := h1.reads (h2.reads h)
  subscription {kind n c s} hread hs hle := by
    obtain ⟨cursor, ht, hfirst, hle'⟩ := h1.subscription (h2.reads hread) hs hle
    obtain ⟨cursor', hu, hthen, hle''⟩ := h2.subscription hread ht hle'
    exact ⟨cursor', hu, Nat.le_trans hfirst hthen, hle''⟩

theorem Dispatches.follows {receipt : Option Receipt} (h : r.Dispatches registry m receipt t) :
    r.Follows t := by
  cases h with
  | starts => exact .of_get? { Advances.refl r with } reads_markStarted.mp fun _ => rfl
  | skips hd hs =>
    exact .of_put { Advances.refl r with } id hs (fun hle => ⟨hle, Nat.le_refl _⟩) rfl
  | ends => exact follows_drop r m
  | takes h => exact h.follows
  | departs h => exact h.follows.trans (follows_drop _ m)

/-- A step in which no message is taken in makes no reader, unless there is a new connection. -/
theorem Tunes.follows_or_renews (h : r.Tunes next t) : r.Follows t ∨ t = r.renew next := by
  have hadvances := h.advances
  cases h with
  | renews => exact .inr rfl
  | _ => exact .inl (.of_get? hadvances id fun _ => rfl)

theorem follows_quit (r : Reception) : r.Follows r.quit := by
  have hadvances := r.advances_quit
  obtain ⟨dispatchers, subscriptions, hquit, hreads, -⟩ := r.quit_eq
  refine .of_get? hadvances (fun h => (hreads h).1) fun h => ?_
  rw [hquit]
  exact (hreads h).2.2

section Tuned

variable {listener : Nat} {after : Registry}

theorem Tuned.unique (h : r.Tuned listener registry) {other : Notification} {c' : Nat}
    (hread : r.Reads kind n c) (hother : r.Reads other n c') : other = kind ∧ c' = c := by
  obtain ⟨cursor, hget, -⟩ := h.subscription hread
  obtain ⟨cursor', hget', -⟩ := h.subscription hother
  obtain ⟨rfl, hpattern, -⟩ := Subscription.mk.inj (Option.some.inj (hget.symm.trans hget'))
  exact ⟨(Notification.pattern_injective hpattern).symm, rfl⟩

/-- There is at most one reader of a kind on an open connection. -/
theorem Tuned.one_open (h : r.Tuned listener registry) {c' : Nat} (hread : r.Reads kind n c)
    (hopen : registry.isClosed c = false) (hread' : r.Reads kind m c')
    (hopen' : registry.isClosed c' = false) : n = m := by
  have hcurrent := h.current hread hopen
  have hcurrent' := h.current hread' hopen'
  obtain rfl : c = c' := Option.some.inj (hcurrent.symm.trans hcurrent')
  exact h.single hread hread'

theorem Tuned.follows (h : r.Tuned listener registry) (hf : r.Follows t) (hn : registry.Numbered)
    (hg : Registry.Grows registry after)
    (hcurrent : ∀ {kind n c}, t.Reads kind n c → after.isClosed c = false →
      r.connection = some c → t.connection = some c) : t.Tuned listener after where
  counted hread := Nat.le_trans (h.counted (hf.reads hread)) hf.subscribed
  subscription {kind n c} hread := by
    obtain ⟨cursor, hget, hle⟩ := h.subscription (hf.reads hread)
    obtain ⟨cursor', hget', -, hle'⟩ := hf.subscription hread hget hle
    exact ⟨cursor', hget', hle'⟩
  owned hread := by
    obtain ⟨x, hget, hlistener⟩ := h.owned (hf.reads hread)
    obtain ⟨x', hget', hkeeps⟩ := hg.keeps hn hget
    exact ⟨x', hget', hkeeps.listener.trans hlistener⟩
  current hread hopen := by
    obtain ⟨x, hget, -⟩ := h.owned (hf.reads hread)
    exact hcurrent hread hopen (h.current (hf.reads hread) (hg.isClosed hn hget hopen))
  single hread hread' := h.single (hf.reads hread) (hf.reads hread')
  primary hread := hf.primary.trans (h.primary (hf.reads hread))

/-- A reader that was not there before gets a new number. -/
theorem Tunes.reads (h : r.Tunes next t) (hn : n ≤ r.subscribed) (hread : t.Reads kind n c) :
    r.Reads kind n c := by
  cases h with
  | renews =>
    refine (reads_renew.mp hread).resolve_right fun ⟨_, hnew, _⟩ => ?_
    cases kind <;> simp only [turn] at hnew <;> omega
  | _ => exact hread

/-- A new connection, with readers of its own if they are wanted. -/
theorem Tuned.renew (h : r.Tuned listener registry) (hn : registry.Numbered)
    (hg : Registry.Grows registry after) (hfresh : registry.connections.get? next = none)
    (hown : ∃ x, after.connections.get? next = some x ∧ x.listener = listener)
    (hold : ∀ {c}, r.connection = some c → after.isClosed c = true) :
    (r.renew next).Tuned listener after where
  counted hread := by
    rcases reads_renew.mp hread with hread | ⟨hprimary, hn, -⟩
    · exact Nat.le_trans (h.counted hread) Tunes.renews.advances.subscribed
    · exact subscribed_renew hn hprimary
  subscription {kind n c} hread := by
    have hchannel : (r.renew next).channel = r.channel := by
      unfold Reception.renew
      split <;> rfl
    rw [hchannel]
    rcases reads_renew.mp hread with hread | ⟨hprimary, rfl, rfl⟩
    · rw [get?_renew (h.counted hread)]
      exact h.subscription hread
    · exact ⟨_, get?_renew_new hprimary kind, Nat.le_refl _⟩
  owned hread := by
    rcases reads_renew.mp hread with hread | ⟨-, -, rfl⟩
    · obtain ⟨x, hget, hlistener⟩ := h.owned hread
      obtain ⟨x', hget', hkeeps⟩ := hg.keeps hn hget
      exact ⟨x', hget', hkeeps.listener.trans hlistener⟩
    · exact hown
  current hread hopen := by
    rcases reads_renew.mp hread with hread | ⟨-, -, rfl⟩
    · obtain ⟨x, hget, -⟩ := h.owned hread
      have hclosed := hold (h.current hread (hg.isClosed hn hget hopen))
      simp [hopen] at hclosed
    · rfl
  single {kind n m c} hread hread' := by
    have hnone {n : Nat} (hread : r.Reads kind n next) : False := by
      obtain ⟨x, hget, -⟩ := h.owned hread
      simp [hfresh] at hget
    rcases reads_renew.mp hread with hold | ⟨-, hn, rfl⟩
    · rcases reads_renew.mp hread' with hold' | ⟨-, -, rfl⟩
      · exact h.single hold hold'
      · exact (hnone hold).elim
    · rcases reads_renew.mp hread' with hold' | ⟨-, hm, -⟩
      · exact (hnone hold').elim
      · exact hn.trans hm.symm
  primary hread := by
    rw [Tunes.renews.advances.primary]
    rcases reads_renew.mp hread with hread | ⟨hprimary, -, -⟩
    · exact h.primary hread
    · exact hprimary

/-- A step in which no message is taken in.  A connection that is given up is closed. -/
theorem Tunes.tuned (h : r.Tunes next t) (htuned : r.Tuned listener registry)
    (hn : registry.Numbered) (hg : Registry.Grows registry after)
    (hfresh : registry.connections.get? next = none)
    (hbefore : ∀ {c}, r.connection = some c → ∃ x, registry.connections.get? c = some x)
    (hafter : ∀ {c}, t.connection = some c →
      ∃ x, after.connections.get? c = some x ∧ x.listener = listener)
    (hreleases : ∀ {c}, r.connection = some c → t.connection = some c ∨ after.isClosed c = true) :
    t.Tuned listener after := by
  rcases h.follows_or_renews with hf | rfl
  · refine htuned.follows hf hn hg fun {_ _ c} _ hopen hc => ?_
    refine (hreleases hc).resolve_right fun hclosed => ?_
    simp [hopen] at hclosed
  · refine htuned.renew hn hg hfresh (hafter rfl) fun {c} hc => ?_
    refine (hreleases hc).resolve_left fun hnext => ?_
    obtain rfl : next = c := Option.some.inj hnext
    obtain ⟨x, hx⟩ := hbefore hc
    simp [hfresh] at hx

end Tuned

/-! ### Readers that stay -/

theorem Takes.not_crashed {receipt : Receipt} {e : Cache.Error}
    (h : r.Takes registry m receipt (.crashed e) t)
    (fits : r.now + r.ingest.cache.ttl < Cache.clockEnd) : False := by
  cases h with
  | intro hd hs hsearch hhandle => exact (Ingest.handles_of_run hhandle).not_crashed fits

theorem Tunes.stays (h : r.Tunes next t) (hread : r.Reads kind n c) (hn : n ≤ r.subscribed) :
    t.Reads kind n c ∧ t.subscriptions.get? n = r.subscriptions.get? n := by
  cases h with
  | renews => exact ⟨reads_renew.mpr (.inl hread), get?_renew hn⟩
  | _ => exact ⟨hread, rfl⟩

/-- How a reader with the subscription `s` goes on. -/
inductive GoesOn (r t : Reception) (kind : Notification) (n : Nat) (s : Subscription)
    (receipt : Option Receipt) : Prop
  | rests (hs : t.subscriptions.get? n = some s)
  | skips (hsearch : r.channel.search s.pattern (r.channel.resume s.cursor) = none)
      (hs : t.subscriptions.get? n = some { s with cursor := r.channel.tail })
  | takes {place : Nat} {message : Message}
      (hreceipt : receipt = some ⟨⟨kind, place, message⟩, n, s.connection, false⟩)
      (hsearch : r.channel.search s.pattern (r.channel.resume s.cursor) = some (place, message))
      (hs : t.subscriptions.get? n = some { s with cursor := place + 1 })

theorem GoesOn.of_get? {s : Subscription} {receipt : Option Receipt} (h : r.GoesOn t kind n s receipt)
    (hget : u.subscriptions.get? n = t.subscriptions.get? n) : r.GoesOn u kind n s receipt := by
  cases h with
  | rests hs => exact .rests (hget.trans hs)
  | skips hsearch hs => exact .skips hsearch (hget.trans hs)
  | takes hreceipt hsearch hs => exact .takes hreceipt hsearch (hget.trans hs)

/-- A message that is taken in leaves all readers where they are, but the one that takes it in. -/
theorem Takes.goesOn {receipt : Receipt} {outcome : Outcome} {s : Subscription} {listener : Nat}
    (h : r.Takes registry m receipt outcome t) (htuned : r.Tuned listener registry)
    (hread : r.Reads kind n c) (hs : r.subscriptions.get? n = some s)
    (hopen : registry.isClosed c = false) :
    t.Reads kind n c ∧ r.GoesOn t kind n s (some receipt) ∧ (n = m → receipt.late = false) := by
  cases h with
  | @intro d s' place message _ _ _ _ _ hd hs' hsearch hhandle =>
    refine ⟨hread, ?_⟩
    by_cases hn : m = n
    · subst hn
      obtain rfl : s' = s := Option.some.inj (hs'.symm.trans hs)
      obtain ⟨cursor, hget, -⟩ := htuned.subscription hread
      obtain rfl := Option.some.inj (hs.symm.trans hget)
      obtain ⟨rfl, -⟩ := htuned.unique hread (reads_of_find? hd)
      refine ⟨.takes ?_ hsearch ?_, fun _ => hopen⟩
      · rw [hopen]
      · rw [Table.get?_put, if_pos rfl]
    · refine ⟨.rests ?_, fun heq => absurd heq.symm hn⟩
      rw [Table.get?_put, if_neg hn, hs]

/-- A reader that can be reached stays, and goes on reading only as its message is taken in. -/
theorem Dispatches.stays {receipt : Option Receipt} {s : Subscription} {listener : Nat}
    (h : r.Dispatches registry m receipt t)
    (htuned : r.Tuned listener registry) (fits : r.now + r.ingest.cache.ttl < Cache.clockEnd)
    (hread : r.Reads kind n c) (hs : r.subscriptions.get? n = some s)
    (hopen : registry.isOver c = false) : t.Reads kind n c ∧ r.GoesOn t kind n s receipt := by
  have hclosed := Registry.isClosed_of_isOver hopen
  cases h with
  | starts => exact ⟨reads_markStarted.mpr hread, .rests hs⟩
  | @skips _ s' hd hs' hsearch =>
    refine ⟨hread, ?_⟩
    by_cases hn : m = n
    · subst hn
      obtain rfl : s' = s := Option.some.inj (hs'.symm.trans hs)
      exact .skips hsearch (by rw [Table.get?_put, if_pos rfl])
    · exact .rests (by rw [Table.get?_put, if_neg hn, hs])
  | ends hd hover =>
    have hne : n ≠ m := by
      rintro rfl
      obtain ⟨cursor, hget, -⟩ := htuned.subscription hread
      simp [hover _ hget] at hopen
    exact ⟨reads_drop.mpr ⟨hread, hne⟩, .rests ((get?_drop hne).trans hs)⟩
  | takes h =>
    obtain ⟨hread', hgoes, -⟩ := h.goesOn htuned hread hs hclosed
    exact ⟨hread', hgoes⟩
  | departs h hlast =>
    have hne : n ≠ m := by
      rintro rfl
      obtain ⟨-, -, htime⟩ := h.goesOn htuned hread hs hclosed
      rcases hlast with hlate | ⟨e, rfl⟩
      · simp [htime rfl] at hlate
      · exact h.not_crashed fits
    obtain ⟨hread', hgoes, -⟩ := h.goesOn htuned hread hs hclosed
    exact ⟨reads_drop.mpr ⟨hread', hne⟩, hgoes.of_get? (get?_drop hne)⟩

/-! ### Primaries that hear -/

/-- A primary has a reader of each kind on its current connection, as long as messages can reach it. -/
def Hears (registry : Registry) (r : Reception) : Prop :=
  r.primary = true → ∀ {c}, r.connection = some c → registry.isOver c = false →
    ∀ kind, ∃ n, r.Reads kind n c

section Hears

variable {listener : Nat} {after : Registry}

theorem Tunes.hears (h : r.Tunes next t) (hears : r.Hears registry)
    (hover : ∀ {c}, r.connection = some c → after.isOver c = false → registry.isOver c = false) :
    t.Hears after := by
  intro hprimary c hc hopen kind
  cases h with
  | keeps => exact hears hprimary hc (hover hc hopen) kind
  | quits => simp at hc
  | sends => exact hears hprimary hc (hover hc hopen) kind
  | renews =>
    rw [Tunes.renews.advances.primary] at hprimary
    obtain rfl : next = c := Option.some.inj hc
    exact ⟨_, reads_renew.mpr (.inr ⟨hprimary, rfl, rfl⟩)⟩

theorem Dispatches.hears {receipt : Option Receipt} (h : r.Dispatches registry m receipt t)
    (htuned : r.Tuned listener registry) (fits : r.now + r.ingest.cache.ttl < Cache.clockEnd)
    (hears : r.Hears registry) : t.Hears registry := by
  intro hprimary c hc hopen kind
  rw [h.advances.primary] at hprimary
  have hconnection : t.connection = r.connection := by
    cases h with
    | takes h | departs h => cases h; rfl
    | _ => rfl
  obtain ⟨n, hread⟩ := hears hprimary (hconnection ▸ hc) hopen kind
  obtain ⟨cursor, hget, -⟩ := htuned.subscription hread
  exact ⟨n, (h.stays htuned fits hread hget hopen).1⟩

theorem hears_quit (r : Reception) : r.quit.Hears registry := by
  intro _ c hc
  simp [quit] at hc

end Hears

end ClaimRelay.Manager.Reception
