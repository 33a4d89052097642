import ClaimRelay.Proofs.Manager.Tuned

/-! What a manager takes in.  `Logged` holds of it in every run: each reader is `Ahead` of everything that it
has taken in, so it takes in nothing twice.  A reader whose connection was closed as it waited may take in one
more message, and is gone.  A reader that `Awaits` a message goes on to do so until it takes it in. -/

namespace ClaimRelay.Manager.Reception

open Bus

variable {r t : Reception} {kind : Notification} {n m c next listener place : Nat} {message : Message}
  {registry : Registry} {log : List Receipt}

/-! ### What was taken in -/

/-- What is known of a receipt: it is that of a reader, which has not read as far before. -/
theorem Takes.receipt {receipt : Receipt} {outcome : Outcome}
    (h : r.Takes registry m receipt outcome t) (htuned : r.Tuned listener registry) :
    receipt.subscription = m ∧ receipt.late = registry.isClosed receipt.connection ∧
      r.Reads receipt.kind receipt.subscription receipt.connection ∧
      r.Waits receipt.subscription ∧
      r.channel.Holds receipt.kind.pattern receipt.place receipt.message ∧
      (∀ s, r.subscriptions.get? receipt.subscription = some s → s.cursor ≤ receipt.place) ∧
      ∃ s, t.subscriptions.get? receipt.subscription = some s ∧ s.cursor = receipt.place + 1 := by
  cases h with
  | @intro d s place message _ _ _ _ _ hd hs hsearch hhandle hstarted =>
    have hread := reads_of_find? hd
    have hwaits : r.Waits m :=
      ⟨d, List.mem_of_find?_eq_some hd, by simpa using List.find?_some hd, hstarted⟩
    obtain ⟨cursor, hget, -⟩ := htuned.subscription hread
    obtain rfl := Option.some.inj (hs.symm.trans hget)
    obtain ⟨hle, hholds, -⟩ := Channel.search_found hsearch
    refine ⟨rfl, rfl, hread, hwaits, hholds, fun s' hs' => ?_, ?_⟩
    · obtain rfl := Option.some.inj (hs'.symm.trans hs)
      exact Nat.le_trans (Nat.le_max_left ..) hle
    · exact ⟨_, by rw [Table.get?_put, if_pos rfl], rfl⟩

theorem Dispatches.receipt {receipt : Receipt} (h : r.Dispatches registry m (some receipt) t)
    (htuned : r.Tuned listener registry) :
    receipt.late = registry.isClosed receipt.connection ∧
      r.Reads receipt.kind receipt.subscription receipt.connection ∧
      r.Waits receipt.subscription ∧
      r.channel.Holds receipt.kind.pattern receipt.place receipt.message ∧
      (∀ s, r.subscriptions.get? receipt.subscription = some s → s.cursor ≤ receipt.place) ∧
      (∀ kind c, t.Reads kind receipt.subscription c → receipt.late = false ∧
        ∃ s, t.subscriptions.get? receipt.subscription = some s ∧ s.cursor = receipt.place + 1) := by
  cases h with
  | takes h _ htime =>
    obtain ⟨-, hlate, hread, hwaits, hholds, hbefore, hafter⟩ := h.receipt htuned
    exact ⟨hlate, hread, hwaits, hholds, hbefore, fun _ _ _ => ⟨htime, hafter⟩⟩
  | departs h =>
    obtain ⟨hsubscription, hlate, hread, hwaits, hholds, hbefore, -⟩ := h.receipt htuned
    refine ⟨hlate, hread, hwaits, hholds, hbefore, fun kind c hread' => ?_⟩
    exact absurd hsubscription (reads_drop.mp hread').2

/-- Every reader is past everything that it has taken in. -/
def Ahead (log : List Receipt) (r : Reception) : Prop :=
  ∀ kind n c s, r.Reads kind n c → r.subscriptions.get? n = some s →
    ∀ d ∈ log, d.subscription = n → d.place < s.cursor

theorem Ahead.follows (h : r.Ahead log) (hf : r.Follows t) (htuned : r.Tuned listener registry) :
    t.Ahead log := by
  intro kind n c s hread hs d hd hsubscription
  have hread' := hf.reads hread
  obtain ⟨cursor, hget, hle⟩ := htuned.subscription hread'
  obtain ⟨cursor', hget', hmore, -⟩ := hf.subscription hread hget hle
  obtain rfl := Option.some.inj (hs.symm.trans hget')
  exact Nat.lt_of_lt_of_le (h _ _ _ _ hread' hget d hd hsubscription) hmore

/-- The readers that have taken in a message late are gone, and each has taken in nothing after it. -/
structure Spent (log : List Receipt) (r : Reception) : Prop where
  last : log.Pairwise fun after before => before.late = true → after.subscription ≠ before.subscription
  gone : ∀ d ∈ log, d.late = true → ∀ kind c, ¬r.Reads kind d.subscription c

/-- What holds of everything that was taken in, the latest first: its messages are in the channel, and each
reader has taken them in in their order.  Only a primary takes in any. -/
structure Logged (log : List Receipt) (r : Reception) : Prop where
  ahead : r.Ahead log
  counted : ∀ d ∈ log, d.subscription ≤ r.subscribed
  holds : ∀ d ∈ log, r.channel.Holds d.kind.pattern d.place d.message
  ordered : log.Pairwise fun after before =>
    after.subscription = before.subscription → before.place < after.place
  spent : r.Spent log
  primary : r.primary = false → log = []

/-- A step in which nothing is taken in, and no reader gets a number that was given before. -/
theorem Logged.of_ahead (h : r.Logged log) (hadvances : r.Advances t)
    (hreads : ∀ {kind n c}, n ≤ r.subscribed → t.Reads kind n c → r.Reads kind n c)
    (hahead : t.Ahead log) : t.Logged log where
  ahead := hahead
  counted d hd := Nat.le_trans (h.counted d hd) hadvances.subscribed
  holds d hd := hadvances.channel.holds (h.holds d hd)
  ordered := h.ordered
  spent.last := h.spent.last
  spent.gone d hd hlate kind c hread :=
    h.spent.gone d hd hlate kind c (hreads (h.counted d hd) hread)
  primary hprimary := h.primary (hadvances.primary.symm.trans hprimary)

theorem Logged.follows (h : r.Logged log) (hf : r.Follows t) (htuned : r.Tuned listener registry) :
    t.Logged log :=
  h.of_ahead hf.toAdvances (fun _ => hf.reads) (h.ahead.follows hf htuned)

theorem Tunes.logged (h : r.Tunes next t) (htuned : r.Tuned listener registry)
    (hlogged : r.Logged log) : t.Logged log := by
  rcases h.follows_or_renews with hf | rfl
  · exact hlogged.follows hf htuned
  · refine hlogged.of_ahead h.advances h.reads fun kind n c s hread hs d hd hsubscription => ?_
    have hn : n ≤ r.subscribed := hsubscription ▸ hlogged.counted d hd
    rw [get?_renew hn] at hs
    exact hlogged.ahead _ _ _ _ (h.reads hn hread) hs d hd hsubscription

theorem Dispatches.logged {receipt : Option Receipt} (h : r.Dispatches registry m receipt t)
    (htuned : r.Tuned listener registry) (hlogged : r.Logged log) :
    t.Logged (receipt.toList ++ log) := by
  have hkept := hlogged.follows h.follows htuned
  cases receipt with
  | none => exact hkept
  | some receipt =>
    obtain ⟨-, hread, -, hholds, hbefore, hafter⟩ := h.receipt htuned
    obtain ⟨cursor, hget, -⟩ := htuned.subscription hread
    constructor
    · intro kind n c s hread' hs
      refine List.forall_mem_cons.mpr ⟨?_, hkept.ahead _ _ _ _ hread' hs⟩
      rintro rfl
      obtain ⟨-, s', hs', hcursor⟩ := hafter kind c hread'
      obtain rfl := Option.some.inj (hs.symm.trans hs')
      exact Nat.lt_of_lt_of_eq (Nat.lt_succ_self _) hcursor.symm
    · refine List.forall_mem_cons.mpr ⟨?_, hkept.counted⟩
      exact Nat.le_trans (htuned.counted hread) h.advances.subscribed
    · exact List.forall_mem_cons.mpr ⟨h.advances.channel.holds hholds, hkept.holds⟩
    · refine List.pairwise_cons.mpr ⟨fun d hd hsubscription => ?_, hlogged.ordered⟩
      have hpast := hlogged.ahead _ _ _ _ hread hget d hd hsubscription.symm
      exact Nat.lt_of_lt_of_le hpast (hbefore _ hget)
    · constructor
      · refine List.pairwise_cons.mpr ⟨fun d hd hlate heq => ?_, hlogged.spent.last⟩
        exact hlogged.spent.gone d hd hlate _ _ (heq ▸ hread)
      · refine List.forall_mem_cons.mpr ⟨fun hlate kind c hread' => ?_, hkept.spent.gone⟩
        simp [(hafter kind c hread').1] at hlate
    · intro hprimary
      rw [h.advances.primary, htuned.primary hread] at hprimary
      simp at hprimary

/-- What is taken in of a message that the pattern of one kind alone covers is taken in as that kind. -/
theorem Logged.delivery_eq (h : r.Logged log) (hmessage : r.channel.history[place]? = some message)
    (hkind : ∀ other : Notification,
      Subject.isMatch other.pattern message.subject = true ↔ other = kind)
    {d : Receipt} (hd : d ∈ log) (hplace : d.place = place) :
    d.toDelivery = ⟨kind, place, message⟩ := by
  obtain ⟨⟨other, place', first⟩, subscription, connection, late⟩ := d
  obtain rfl : place' = place := hplace
  obtain ⟨hfirst, hmatch⟩ := h.holds _ hd
  obtain rfl : message = first := Option.some.inj (hmessage.symm.trans hfirst)
  obtain rfl := (hkind other).mp hmatch
  rfl

/-- A reader takes in what is at one place at most once. -/
theorem Logged.at_most_once (h : r.Logged log) {p : Receipt → Bool}
    (hp : ∀ a ∈ log, ∀ b ∈ log, p a = true → p b = true →
      a.subscription = b.subscription ∧ a.place = b.place) : log.countP p ≤ 1 := by
  rw [List.countP_eq_length_filter]
  have hordered := h.ordered.filter p
  rcases hfilter : log.filter p with _ | ⟨after, _ | ⟨before, rest⟩⟩
  · exact Nat.zero_le _
  · exact Nat.le_refl _
  · have hmem {d : Receipt} (hd : d ∈ after :: before :: rest) : d ∈ log ∧ p d = true :=
      List.mem_filter.mp (hfilter ▸ hd)
    obtain ⟨hafter, hpafter⟩ := hmem (.head _)
    obtain ⟨hbefore, hpbefore⟩ := hmem (.tail _ (.head _))
    obtain ⟨hsubscription, hplace⟩ := hp _ hafter _ hbefore hpafter hpbefore
    rw [hfilter] at hordered
    have hlt := (List.pairwise_cons.mp hordered).1 _ (.head _) hsubscription
    omega

/-! ### Where readers come from -/

theorem Tunes.waits (h : r.Tunes next t) (hwaits : t.Waits n) : r.Waits n := by
  cases h with
  | renews =>
    obtain ⟨d, hd, hsubscription, hstarted⟩ := hwaits
    refine ⟨d, ?_, hsubscription, hstarted⟩
    unfold renew at hd
    split at hd
    · -- The new readers have not begun to wait.
      simp only [Notification.all, List.foldl, tune, List.mem_append, List.mem_singleton] at hd
      rcases hd with (hd | rfl) | rfl
      · exact hd
      · simp at hstarted
      · simp at hstarted
    · exact hd
  | _ => exact hwaits

theorem waits_of_drop (h : (r.drop m).Waits n) : r.Waits n := by
  obtain ⟨d, hd, hwaits⟩ := h
  exact ⟨d, List.mem_of_mem_filter hd, hwaits⟩

theorem waits_of_quit (h : r.quit.Waits n) : r.Waits n := by
  have hdropped (ds : List Dispatcher) {r : Reception}
      (h : (ds.foldl (fun r d => r.drop d.subscription) r).Waits n) : r.Waits n := by
    induction ds generalizing r with
    | nil => exact h
    | cons d ds ih => exact waits_of_drop (ih h)
  exact hdropped _ h

/-- A reader does not begin to wait once its connection is closed. -/
theorem Dispatches.waits {receipt : Option Receipt} (h : r.Dispatches registry m receipt t)
    (htuned : r.Tuned listener registry) (hread : r.Reads kind n c)
    (hclosed : registry.isClosed c = true) (hwaits : t.Waits n) : r.Waits n := by
  cases h with
  | starts hopen =>
    have hne : n ≠ m := by
      rintro rfl
      obtain ⟨cursor, hget, -⟩ := htuned.subscription hread
      simp [hopen _ hget] at hclosed
    obtain ⟨d, hd, hsubscription, hstarted⟩ := hwaits
    obtain ⟨d₀, hd₀, rfl⟩ := List.mem_map.mp hd
    split at hsubscription
    · rename_i hm
      exact absurd (hsubscription.symm.trans hm) hne
    · rename_i hm
      rw [if_neg hm] at hstarted
      exact ⟨d₀, hd₀, hsubscription, hstarted⟩
  | skips => exact hwaits
  | ends => exact waits_of_drop hwaits
  | takes h => cases h; exact hwaits
  | departs h => cases h; exact waits_of_drop hwaits

/-- Every reader in `t` was there in `r`, when the connections were those in `registry`, or it is on a later
connection and reads only later messages.  If its connection was closed and it waits, it did so before. -/
def Precedes (registry : Registry) (r t : Reception) : Prop :=
  ∀ kind n c s, t.Reads kind n c → t.subscriptions.get? n = some s →
    r.Reads kind n c ∧ (registry.isClosed c = true → t.Waits n → r.Waits n) ∨
      registry.connections.get? c = none ∧ r.channel.tail ≤ s.cursor

section Precedes

variable {first : Reception} {now : Registry}

theorem Precedes.follows (h : first.Precedes registry r) (hf : r.Follows t)
    (htuned : r.Tuned listener now) (hwaits : ∀ {kind n c}, r.Reads kind n c →
      first.Reads kind n c → registry.isClosed c = true → t.Waits n → r.Waits n) :
    first.Precedes registry t := by
  intro kind n c s hread hs
  have hread' := hf.reads hread
  obtain ⟨cursor, hget, hle⟩ := htuned.subscription hread'
  obtain ⟨cursor', hget', hmore, -⟩ := hf.subscription hread hget hle
  obtain rfl := Option.some.inj (hs.symm.trans hget')
  refine (h _ _ _ _ hread' hget).imp (fun ⟨hfirst, hbefore⟩ => ⟨hfirst, fun hclosed hwait => ?_⟩)
    fun ⟨hnew, hlater⟩ => ⟨hnew, Nat.le_trans hlater hmore⟩
  exact hbefore hclosed (hwaits hread' hfirst hclosed hwait)

theorem Precedes.renew (h : first.Precedes registry r) (htuned : r.Tuned listener now)
    (hnew : registry.connections.get? next = none) (htail : first.channel.tail ≤ r.channel.tail) :
    first.Precedes registry (r.renew next) := by
  intro kind n c s hread hs
  rcases reads_renew.mp hread with hread | ⟨hprimary, rfl, rfl⟩
  · rw [get?_renew (htuned.counted hread)] at hs
    refine (h _ _ _ _ hread hs).imp_left fun ⟨hfirst, hbefore⟩ => ⟨hfirst, fun hclosed hwait => ?_⟩
    exact hbefore hclosed (Tunes.renews.waits hwait)
  · rw [get?_renew_new hprimary] at hs
    obtain rfl := Option.some.inj hs
    exact .inr ⟨hnew, htail⟩

end Precedes

/-- All readers are on one connection. -/
def Gathered (r : Reception) (connection : Nat) : Prop := ∀ d ∈ r.dispatchers, d.connection = connection

theorem Gathered.eq {connection : Nat} (h : r.Gathered connection) (hread : r.Reads kind n c) :
    c = connection := by
  obtain ⟨d, hd, -, -, rfl⟩ := hread
  exact h d hd

theorem Gathered.follows (h : r.Gathered c) (hf : r.Follows t) : t.Gathered c :=
  fun d hd => h.eq (hf.reads ⟨d, hd, rfl, rfl, rfl⟩)

theorem Gathered.renew (h : r.Gathered c) : (r.renew c).Gathered c := by
  intro d hd
  rcases reads_renew.mp ⟨d, hd, rfl, rfl, rfl⟩ with hread | ⟨-, -, hnew⟩
  · exact h.eq hread
  · exact hnew

/-! ### What is handled -/

/-- What is taken in is handled: a message as one of its kind, and otherwise nothing. -/
def Handles (r : Reception) (delivery : Option Delivery) (t : Reception) : Prop :=
  match delivery with
  | some d =>
    ((Ingest.handle Store.save r.now d.kind d.message.payload).run (r.ingest, r.store, r.files)).2 =
      (t.ingest, t.store, t.files)
  | none => t.ingest = r.ingest ∧ t.store = r.store

theorem Tunes.handles (h : r.Tunes next t) : r.Handles none t := by
  cases h with
  | renews =>
    unfold renew
    split <;> exact ⟨rfl, rfl⟩
  | _ => exact ⟨rfl, rfl⟩

theorem Dispatches.handles {receipt : Option Receipt} (h : r.Dispatches registry m receipt t) :
    r.Handles (receipt.map (·.toDelivery)) t := by
  cases h with
  | starts | skips | ends => exact ⟨rfl, rfl⟩
  | takes h | departs h =>
    cases h with
    | intro hd hs hsearch hhandle => exact congrArg Prod.snd hhandle

theorem handles_quit (r : Reception) : r.Handles none r.quit := by
  obtain ⟨dispatchers, subscriptions, hquit, -, -⟩ := r.quit_eq
  rw [hquit]
  exact ⟨rfl, rfl⟩

/-! ### What is still to be taken in -/

/-- A reader of a kind on the given connection has not yet read as far as a place. -/
def Awaits (r : Reception) (kind : Notification) (connection place : Nat) : Prop :=
  ∃ n cursor, r.Reads kind n connection ∧
    r.subscriptions.get? n = some ⟨connection, kind.pattern, cursor⟩ ∧ cursor ≤ place

theorem Tunes.awaits (h : r.Tunes next t) (htuned : r.Tuned listener registry)
    (hawaits : r.Awaits kind c place) : t.Awaits kind c place := by
  obtain ⟨n, cursor, hread, hget, hle⟩ := hawaits
  obtain ⟨hread', hget'⟩ := h.stays hread (htuned.counted hread)
  exact ⟨n, cursor, hread', hget'.trans hget, hle⟩

/-- The channel still has all messages that the readers on a connection have yet to read. -/
def KeepsUp (r : Reception) (connection : Nat) : Prop :=
  ∀ kind n s, r.Reads kind n connection → r.subscriptions.get? n = some s →
    ∀ place message, s.cursor ≤ place → r.channel.Holds s.pattern place message →
      r.channel.head ≤ place

/-- A reader awaits a message, sent or not, until it takes it in on time. -/
theorem Dispatches.awaits {receipt : Option Receipt} (h : r.Dispatches registry m receipt t)
    (htuned : r.Tuned listener registry)
    (fits : r.now + r.ingest.cache.ttl < Cache.clockEnd) (hopen : registry.isOver c = false)
    (hholds : r.channel.tail ≤ place ∨ ∃ message, r.channel.Holds kind.pattern place message)
    (hkept : r.KeepsUp c) (hawaits : r.Awaits kind c place) :
    t.Awaits kind c place ∨ ∃ d, receipt = some d ∧ d.connection = c ∧ d.place = place := by
  obtain ⟨n, cursor, hread, hget, hle⟩ := hawaits
  have hresume {message : Message} (hholds : r.channel.Holds kind.pattern place message) :
      r.channel.resume cursor ≤ place :=
    Nat.max_le.mpr ⟨hle, hkept kind n _ hread hget place message hle hholds⟩
  obtain ⟨hread', hgoes⟩ := h.stays htuned fits hread hget hopen
  cases hgoes with
  | rests hs => exact .inl ⟨n, cursor, hread', hs, hle⟩
  | skips hsearch hs =>
    refine .inl ⟨n, _, hread', hs, ?_⟩
    rcases hholds with hunsent | ⟨message, hholds⟩
    · exact hunsent
    · obtain ⟨found, first, hfound, -⟩ := Channel.search_isSome hholds (hresume hholds)
      simp [hfound] at hsearch
  | @takes found first hreceipt hsearch hs =>
    obtain ⟨-, hheld, hleast⟩ := Channel.search_found hsearch
    have hfound : found ≤ place := by
      rcases hholds with hunsent | ⟨message, hholds⟩
      · exact Nat.le_of_lt (Nat.lt_of_lt_of_le hheld.lt_tail hunsent)
      · exact hleast (hresume hholds) hholds
    rcases Nat.eq_or_lt_of_le hfound with rfl | hlt
    · exact .inr ⟨_, hreceipt, rfl, rfl⟩
    · exact .inl ⟨n, found + 1, hread', hs, hlt⟩

end ClaimRelay.Manager.Reception
