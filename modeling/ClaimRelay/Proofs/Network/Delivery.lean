import ClaimRelay.Proofs.Manager.TakenIn
import ClaimRelay.Proofs.Network.Tuned

/-! Delivery of notifications from end to end.  What a manager takes in over a run is logged, with the
reader that has taken it in: each reader takes in everything as its own kind, and nothing twice.  A primary
that stays on an open connection awaits each message that is sent meanwhile until it takes it in.  A reader
whose connection is closed as it waits may take in one more message, which the reader on the next
connection may take in as well. -/

namespace ClaimRelay

open Manager Bus

namespace Network

variable {start net : Network} {i j id place : Nat} {m m' : Manager} {t sent : Turn}
  {turns earlier later : List Turn} {kind : Notification} {message : Message} {call : Call}

/-! ### Publications -/

/-- A call to publish a notification, with its kind and its message.  What is published has neither empty
tokens nor wildcards, so that a text without periods is a single token. -/
inductive Notifies : Notification → Message → Call → Prop
  | accountUpdate {account : String} {claim : List UInt8} (haccount : '.' ∉ account.toList) :
      Notifies .accountUpdate ⟨Notification.accountSubject account, claim⟩
        (.accountUpdate claim account)
  | activation {account hash : String} {claim : List UInt8} (haccount : '.' ∉ account.toList)
      (hhash : '.' ∉ hash.toList) :
      Notifies .activation ⟨Notification.activationSubject account hash, claim⟩
        (.activation hash account claim)

/-- The notification is covered by the pattern of its kind alone. -/
theorem Notifies.isMatch (h : Notifies kind message call) (other : Notification) :
    Subject.isMatch other.pattern message.subject = true ↔ other = kind := by
  cases h with
  | accountUpdate haccount =>
    exact (Notification.isMatch_accountSubject _ other).trans (and_iff_left haccount)
  | activation haccount hhash =>
    exact (Notification.isMatch_activationSubject _ _ other).trans (and_iff_left ⟨haccount, hhash⟩)

theorem Notifies.call_eq (h : Notifies kind message call) :
    ∃ key, call = .publish message.subject key message.payload := by
  cases h with
  | accountUpdate => exact ⟨_, rfl⟩
  | activation => exact ⟨_, rfl⟩

/-- The manager at place `j` publishes over an established connection: the call gets the lock, and returns
that the message was sent. -/
def Turn.Publishes (t : Turn) (j : Nat) (call : Call) : Prop :=
  t.move = .step (.grant j) ∧ ∃ m m' ticket rest,
    t.before.managers[j]? = some m ∧ t.after.managers[j]? = some m' ∧
      m.queue = .call ticket call :: rest ∧ m.connection ≠ none ∧
        m'.results.get? ticket = some (.published (.ok ()))

theorem Turn.Valid.sends (valid : t.Valid Apart) (hsent : t.Publishes j call)
    (hcall : Notifies kind message call) :
    t.after.around.bus.channel = t.before.around.bus.channel.send message := by
  obtain ⟨hmove, m, m', ticket, rest, hm, hm', hqueue, hconnection, hresult⟩ := hsent
  obtain ⟨key, rfl⟩ := hcall.call_eq
  have hstep := valid.step?_eq hmove
  exact Scene.grant_publish (onManager_scene hstep hm hm') hqueue hconnection hresult

theorem Turn.Publishes.receipt?_eq_none (hsent : t.Publishes j call) : t.receipt? i = none :=
  Turn.receipt?_eq_none (by simp [hsent.1])

/-! ### What is taken in over a run -/

/-- What the manager at place `i` took in over a run, the latest first, and by which readers. -/
def receipts (i : Nat) (turns : List Turn) : List Receipt := turns.filterMap (·.receipt? i)

/-- What the manager at place `i` took in over a run, the latest first. -/
def deliveries (i : Nat) (turns : List Turn) : List Delivery := turns.filterMap (·.delivery? i)

theorem deliveries_eq (i : Nat) (turns : List Turn) :
    deliveries i turns = (receipts i turns).map (·.toDelivery) := by
  rw [deliveries, receipts, List.map_filterMap]
  rfl

theorem deliveries_cons (i : Nat) (t : Turn) (turns : List Turn) :
    deliveries i (t :: turns) = (t.delivery? i).toList ++ deliveries i turns := by
  rw [deliveries, List.filterMap_cons]
  cases t.delivery? i <;> rfl

theorem mem_deliveries {d : Receipt} (h : d ∈ receipts i turns) : d.toDelivery ∈ deliveries i turns :=
  deliveries_eq i turns ▸ List.mem_map_of_mem h

theorem receipts_append (i : Nat) (later turns : List Turn) :
    receipts i (later ++ turns) = receipts i later ++ receipts i turns := List.filterMap_append

theorem receipts_cons (i : Nat) (t : Turn) (turns : List Turn) :
    receipts i (t :: turns) = (t.receipt? i).toList ++ receipts i turns := by
  rw [receipts, List.filterMap_cons]
  cases t.receipt? i <;> rfl

theorem Turn.Valid.handles (valid : t.Valid Apart) (h : t.before.Registered) (ht : t.before.Tuned)
    (hm : t.before.managers[i]? = some m) (hm' : t.after.managers[i]? = some m') :
    (t.before.reception m).Handles (t.delivery? i) (t.after.reception m') := by
  unfold Turn.delivery?
  cases (valid.mono Apart.outside).receives h ht.refusing hm hm' with
  | tunes hnone h => exact hnone ▸ h.handles
  | dispatches _ h => exact h.handles
  | quits hnone h => exact hnone ▸ h ▸ Reception.handles_quit _
  | others hnone _ hsame => exact hnone ▸ hsame ▸ ⟨rfl, rfl⟩

theorem Turn.Valid.logged {log : List Receipt} (valid : t.Valid Apart) (h : t.before.Registered)
    (ht : t.before.Tuned) (hm : t.before.managers[i]? = some m)
    (hm' : t.after.managers[i]? = some m') (hlogged : (t.before.reception m).Logged log) :
    (t.after.reception m').Logged ((t.receipt? i).toList ++ log) := by
  have hreaders := ht.readers hm
  cases (valid.mono Apart.outside).receives h ht.refusing hm hm' with
  | tunes hnone htunes =>
    rw [hnone]
    exact htunes.logged hreaders hlogged
  | dispatches _ hdispatches => exact hdispatches.logged hreaders hlogged
  | quits hnone hquits =>
    rw [hnone, hquits]
    exact hlogged.follows (Reception.follows_quit _) hreaders
  | others hnone hmove hsame =>
    subst hsame
    rw [hnone]
    exact hlogged.follows (valid.leaves h ht hm hmove).follows hreaders

theorem Run.logged (run : Run Apart start turns net) (hnew : start.IsNew)
    (hrefusing : start.around.refusing = 0) (hm : net.managers[i]? = some m) :
    (net.reception m).Logged (receipts i turns) := by
  induction run generalizing m with
  | start =>
    exact ⟨by simp [Reception.Ahead, receipts], by simp [receipts], by simp [receipts], .nil,
      ⟨.nil, by simp [receipts]⟩, fun _ => rfl⟩
  | turn run valid ih =>
    obtain ⟨m₀, hm₀, -⟩ := valid.done hm
    rw [receipts_cons]
    exact valid.logged (run.outside.registered hnew.registered)
      (run.tuned hnew.registered (hnew.tuned hrefusing)) hm₀ hm (ih hm₀)

/-! ### By which readers -/

theorem Turn.Valid.receipt (valid : t.Valid Apart) (h : t.before.Registered) (ht : t.before.Tuned)
    (hm : t.before.managers[i]? = some m) (hm' : t.after.managers[i]? = some m') {d : Receipt}
    (hd : t.receipt? i = some d) :
    d.late = t.before.around.bus.isClosed d.connection ∧
      (t.before.reception m).Reads d.kind d.subscription d.connection ∧
      (t.before.reception m).Waits d.subscription ∧
      ∀ s, (t.before.reception m).subscriptions.get? d.subscription = some s → s.cursor ≤ d.place := by
  cases (valid.mono Apart.outside).receives h ht.refusing hm hm' with
  | dispatches _ hdispatches =>
    rw [hd] at hdispatches
    obtain ⟨hlate, hread, hwaits, -, hplace, -⟩ := hdispatches.receipt (ht.readers hm)
    exact ⟨hlate, hread, hwaits, hplace⟩
  | tunes hnone | quits hnone | others hnone => simp [hd] at hnone

/-- A reader does not begin to wait once its connection is closed. -/
theorem Turn.Valid.waits (valid : t.Valid Apart) (h : t.before.Registered) (ht : t.before.Tuned)
    (hm : t.before.managers[i]? = some m) (hm' : t.after.managers[i]? = some m') {n c : Nat}
    (hread : (t.before.reception m).Reads kind n c)
    (hclosed : t.before.around.bus.isClosed c = true) (hwaits : (t.after.reception m').Waits n) :
    (t.before.reception m).Waits n := by
  cases (valid.mono Apart.outside).receives h ht.refusing hm hm' with
  | tunes _ htunes => exact htunes.waits hwaits
  | dispatches _ hdispatches => exact hdispatches.waits (ht.readers hm) hread hclosed hwaits
  | quits _ hquits => exact Reception.waits_of_quit (hquits ▸ hwaits)
  | others _ _ hsame => exact hsame ▸ hwaits

/-- A connection of a reader that was closed as a run started is so after it. -/
theorem Run.isClosed (run : Run Apart start turns net) (h : start.Registered) (ht : start.Tuned)
    {m₀ : Manager} (hm₀ : start.managers[i]? = some m₀) {n c : Nat}
    (hread : (start.reception m₀).Reads kind n c) (hclosed : start.around.bus.isClosed c = true) :
    net.around.bus.isClosed c = true := by
  obtain ⟨m, hm⟩ := run.manager_after hm₀
  obtain ⟨x, hx, -⟩ := (ht.readers hm₀).owned hread
  rw [← Bool.not_eq_false]
  intro hopen
  have hopen' := (run.grows h hm).isClosed (h.registry hm₀).numbered hx hopen
  simp [hopen'] at hclosed

/-- The readers that a manager has after a run were there as it started, or came later. -/
theorem Run.precedes (run : Run Apart start turns net) (h : start.Registered) (ht : start.Tuned)
    {m₀ : Manager} (hm₀ : start.managers[i]? = some m₀) (hm : net.managers[i]? = some m) :
    (start.reception m₀).Precedes start.around.bus.toRegistry (net.reception m) := by
  induction run generalizing m with
  | start =>
    obtain rfl : m₀ = m := Option.some.inj (hm₀.symm.trans hm)
    exact fun _ _ _ _ hread _ => .inl ⟨hread, fun _ => id⟩
  | turn run valid ih =>
    have hregistered := run.outside.registered h
    have htuned := run.tuned h ht
    obtain ⟨m₁, hm₁, -⟩ := valid.done hm
    rcases valid.follows_or_renews hregistered htuned hm₁ hm with hfollows | hrenewed
    · refine (ih hm₁).follows hfollows (htuned.readers hm₁) fun hread hfirst hclosed hwaits => ?_
      have hclosed' := run.isClosed h ht hm₀ hfirst hclosed
      exact valid.waits hregistered htuned hm₁ hm hread hclosed' hwaits
    · rw [hrenewed]
      refine (ih hm₁).renew (htuned.readers hm₁) ?_ (run.advances h ht hm₀ hm₁).channel.tail_le
      -- A connection that was there as the run started is still there.
      rw [Option.eq_none_iff_forall_ne_some]
      intro x hx
      obtain ⟨x', hx', -⟩ := (run.grows h hm₁).keeps (h.registry hm₀).numbered hx
      have hnone := (hregistered.registry hm₁).numbered.get?_nextId
      exact Option.some_ne_none x' (hx'.symm.trans hnone)

/-- The reader that takes in a message over a run was there as the run started; if its connection was closed
already, the reader was waiting and the message is late.  Or the reader came later, and so did the message. -/
theorem Run.receipt_by (run : Run Apart start turns net) (h : start.Registered) (ht : start.Tuned)
    {m₀ : Manager} (hm₀ : start.managers[i]? = some m₀) {d : Receipt} (hd : d ∈ receipts i turns) :
    (start.reception m₀).Reads d.kind d.subscription d.connection ∧
        (start.around.bus.isClosed d.connection = true →
          d.late = true ∧ (start.reception m₀).Waits d.subscription) ∨
      start.around.bus.connections.get? d.connection = none ∧
        start.around.bus.channel.tail ≤ d.place := by
  obtain ⟨t, hmem, hreceipt⟩ := List.mem_filterMap.mp hd
  obtain ⟨later, earlier, rfl⟩ := List.append_of_mem hmem
  obtain ⟨hrun, hvalid, -⟩ := run.cut
  have hregistered := hrun.outside.registered h
  have htuned := hrun.tuned h ht
  obtain ⟨m₁, hm₁⟩ := hrun.manager_after hm₀
  obtain ⟨m₂, hm₂, -⟩ := hvalid.does hm₁
  obtain ⟨hlate, hread, hwaits, hplace⟩ := hvalid.receipt hregistered htuned hm₁ hm₂ hreceipt
  obtain ⟨cursor, hget, -⟩ := (htuned.readers hm₁).subscription hread
  rcases hrun.precedes h ht hm₀ hm₁ _ _ _ _ hread hget with ⟨hfirst, hbefore⟩ | ⟨hnew, htail⟩
  · refine .inl ⟨hfirst, fun hclosed => ⟨?_, hbefore hclosed hwaits⟩⟩
    exact hlate.trans (hrun.isClosed h ht hm₀ hfirst hclosed)
  · exact .inr ⟨hnew, Nat.le_trans htail (hplace _ hget)⟩

/-- A message that was sent in the course of a run is in the history at its place. -/
theorem Run.history_sent (run : Run Apart start (later ++ sent :: earlier) net)
    (hnew : start.IsNew) (hrefusing : start.around.refusing = 0) (hm : net.managers[i]? = some m)
    (hsent : sent.after.around.bus.channel = sent.before.around.bus.channel.send message) :
    net.around.bus.channel.history[sent.before.around.bus.channel.tail]? = some message := by
  obtain ⟨hbefore, hvalid, hlater⟩ := run.cut
  have hregistered := hbefore.outside.registered hnew.registered
  have htuned := hbefore.tuned hnew.registered (hnew.tuned hrefusing)
  obtain ⟨m₁, hm₁⟩ := run.manager_before hm
  obtain ⟨m₂, hm₂, -⟩ := hvalid.does hm₁
  have hadvances := hlater.advances ((hvalid.mono Apart.outside).registered hregistered)
    (hvalid.tuned hregistered htuned) hm₂ hm
  refine hadvances.channel.keeps ?_
  show sent.after.around.bus.channel.history[sent.before.around.bus.channel.tail]? = some message
  rw [hsent]
  exact Channel.getElem?_send message _

/-! ### What is awaited -/

/-- The manager at place `i` is on an open connection, and its readers there keep up with the channel. -/
structure Attends (net : Network) (i id : Nat) : Prop where
  connection : ∀ {m : Manager}, net.managers[i]? = some m → m.connection = some id
  isOpen : net.around.bus.isOver id = false
  keepsUp : ∀ {m : Manager}, net.managers[i]? = some m → (net.reception m).KeepsUp id

/-- While the channel still has all its messages, every reader keeps up. -/
theorem Attends.of_head (hconnection : (net.managers[i]?).bind (·.connection) = some id)
    (hopen : net.around.bus.isOver id = false) (hhead : net.around.bus.channel.head = 0) :
    net.Attends i id where
  connection hm := by simpa [hm] using hconnection
  isOpen := hopen
  keepsUp _ _ _ _ _ _ place _ _ _ := Nat.le_trans (Nat.le_of_eq hhead) (Nat.zero_le place)

/-- All readers of the manager at place `i` are on one connection. -/
def Gathered (net : Network) (i id : Nat) : Prop :=
  ∀ m, net.managers[i]? = some m → (net.reception m).Gathered id

/-- A manager that stays on the connection makes no readers on another one. -/
theorem Run.gathered (run : Run Apart start turns net) (h : start.Registered) (ht : start.Tuned)
    (hattends : ∀ t ∈ turns, t.before.Attends i id) (hstays : net.Attends i id)
    (hgathered : start.Gathered i id) : net.Gathered i id := by
  induction run with
  | start => exact hgathered
  | turn run valid ih =>
    intro m hm
    obtain ⟨m₀, hm₀, -⟩ := valid.done hm
    obtain ⟨hattend, hrest⟩ := List.forall_mem_cons.mp hattends
    have hbefore := ih hrest hattend m₀ hm₀
    rcases valid.follows_or_renews (run.outside.registered h) (run.tuned h ht) hm₀ hm with
      hfollows | hrenewed
    · exact hbefore.follows hfollows
    · have hconnection := (congrArg Reception.connection hrenewed).symm.trans (hstays.connection hm)
      rw [hrenewed, Option.some.inj hconnection]
      exact hbefore.renew

/-- What such a manager takes in, it does by readers that were there as the run started. -/
theorem Run.receipt_gathered {m₀ : Manager} (run : Run Apart start turns net) (h : start.Registered)
    (ht : start.Tuned) (hm₀ : start.managers[i]? = some m₀)
    (hattends : ∀ t ∈ turns, t.before.Attends i id) (hstays : net.Attends i id)
    (hgathered : start.Gathered i id) {d : Receipt} (hd : d ∈ receipts i turns) :
    (start.reception m₀).Reads d.kind d.subscription id := by
  have hconnection : d.connection = id := by
    obtain ⟨t, hmem, hreceipt⟩ := List.mem_filterMap.mp hd
    obtain ⟨later, earlier, rfl⟩ := List.append_of_mem hmem
    obtain ⟨hrun, hvalid, -⟩ := run.cut
    have hregistered := hrun.outside.registered h
    have htuned := hrun.tuned h ht
    obtain ⟨m₁, hm₁⟩ := hrun.manager_after hm₀
    obtain ⟨m₂, hm₂, -⟩ := hvalid.does hm₁
    obtain ⟨-, hread, -, -⟩ := hvalid.receipt hregistered htuned hm₁ hm₂ hreceipt
    have hrest : ∀ t ∈ earlier, t.before.Attends i id := fun t ht => hattends t (by simp [ht])
    exact (hrun.gathered h ht hrest (hattends t hmem) hgathered m₁ hm₁).eq hread
  subst hconnection
  refine ((run.receipt_by h ht hm₀ hd).resolve_right fun ⟨hnone, _⟩ => ?_).1
  have hattend : start.Attends i d.connection := run.at_start (P := (Attends · i _)) hattends hstays
  obtain ⟨x, hx, -⟩ := (h.registry hm₀).current (hattend.connection hm₀)
  exact Option.some_ne_none x (hx.symm.trans hnone)

/-- The manager at place `i` either goes on to await a message, or takes it in. -/
theorem Turn.Valid.awaits (valid : t.Valid Apart) (h : t.before.Registered) (ht : t.before.Tuned)
    (hm : t.before.managers[i]? = some m) (hm' : t.after.managers[i]? = some m')
    (hfits : t.before.around.now + m.ingest.cache.ttl < Cache.clockEnd)
    (hattends : t.before.Attends i id) (hstays : m'.connection = some id)
    (hholds : t.before.around.bus.channel.tail ≤ place ∨
      ∃ message, t.before.around.bus.channel.Holds kind.pattern place message)
    (hawaits : (t.before.reception m).Awaits kind id place) :
    (t.after.reception m').Awaits kind id place ∨
      ∃ d, t.receipt? i = some d ∧ d.connection = id ∧ d.place = place := by
  cases (valid.mono Apart.outside).receives h ht.refusing hm hm' with
  | tunes _ htunes => exact .inl (htunes.awaits (ht.readers hm) hawaits)
  | dispatches _ hdispatches =>
    exact hdispatches.awaits (ht.readers hm) hfits hattends.isOpen hholds (hattends.keepsUp hm) hawaits
  | quits _ hquits =>
    have hnone : m'.connection = none := congrArg Reception.connection hquits
    simp [hnone] at hstays
  | others _ hmove hsame =>
    subst hsame
    obtain ⟨n, cursor, hread, hget, hle⟩ := hawaits
    have hkept := (valid.leaves h ht hm hmove).subscription hread
    exact .inl ⟨n, cursor, hread, hkept.trans hget, hle⟩

/-- A message that is sent before a run, in its course or not at all is awaited until it is taken in. -/
theorem Run.awaits {m₀ : Manager} (run : Run Apart start turns net) (h : start.Registered)
    (ht : start.Tuned) (hm₀ : start.managers[i]? = some m₀) (hm : net.managers[i]? = some m)
    (hfits : net.around.now + m.ingest.cache.ttl < Cache.clockEnd)
    (hattends : ∀ t ∈ turns, t.before.Attends i id) (hstays : net.Attends i id)
    (hholds : net.around.bus.channel.tail ≤ place ∨
      ∃ message, net.around.bus.channel.Holds kind.pattern place message)
    (hawaits : (start.reception m₀).Awaits kind id place) :
    (net.reception m).Awaits kind id place ∨
      ∃ d ∈ receipts i turns, d.connection = id ∧ d.place = place := by
  induction run generalizing m with
  | start =>
    obtain rfl : m₀ = m := Option.some.inj (hm₀.symm.trans hm)
    exact .inl hawaits
  | turn run valid ih =>
    have hregistered := run.outside.registered h
    have htuned := run.tuned h ht
    obtain ⟨m₁, hm₁, -⟩ := valid.done hm
    obtain ⟨hattend, hrest⟩ := List.forall_mem_cons.mp hattends
    have hadvances := valid.advances hregistered htuned hm₁ hm
    have hfits₁ := hadvances.fits hfits
    have hheld := hadvances.channel.unsent_or_holds hholds
    rw [receipts_cons]
    rcases ih hm₁ hfits₁ hrest hattend hheld with hawaits | ⟨d, hd, htaken⟩
    · rcases valid.awaits hregistered htuned hm₁ hm hfits₁ hattend (hstays.connection hm) hheld
        hawaits with hawaits | ⟨d, hd, htaken⟩
      · exact .inl hawaits
      · exact .inr ⟨d, List.mem_append_left _ (by simp [hd]), htaken⟩
    · exact .inr ⟨d, List.mem_append_right _ hd, htaken⟩

/-- Dispatchers that have nothing to do await nothing that is there. -/
theorem Attends.not_awaits (hattends : net.Attends i id) (hm : net.managers[i]? = some m)
    (hidle : ∀ d ∈ m.dispatchers, net.step? (.dispatch i d.subscription) = none)
    (hholds : net.around.bus.channel.Holds kind.pattern place message) :
    ¬(net.reception m).Awaits kind id place := by
  rintro ⟨n, cursor, hread, hget, hle⟩
  have hdispatch : Scene.dispatch n ⟨m, net.around⟩ = none := by
    obtain ⟨d, hd, -, rfl, -⟩ := hread
    have hnone := hidle d hd
    simp only [step?, onManager, hm] at hnone
    split at hnone
    · assumption
    · simp at hnone
  obtain ⟨s, hs, hsearch⟩ := Scene.dispatch_eq_none hdispatch hread
  obtain rfl := Option.some.inj (hs.symm.trans hget)
  have hhead := hattends.keepsUp hm kind n _ hread hget place message hle hholds
  obtain ⟨found, first, hfound, -⟩ := Channel.search_isSome hholds (Nat.max_le.mpr ⟨hle, hhead⟩)
  exact absurd (hsearch.symm.trans hfound) (by simp)

/-! ### From end to end -/

/-- A message that is sent while a primary is on an open connection is awaited there, until the primary
takes it in. -/
theorem Run.delivers (run : Run Apart start (later ++ sent :: earlier) net) (hnew : start.IsNew)
    (hrefusing : start.around.refusing = 0) (hsent : sent.Publishes j call)
    (hcall : Notifies kind message call) (hm : net.managers[i]? = some m)
    (hprimary : m.settings.primary = true)
    (hattends : ∀ t ∈ later ++ [sent], t.before.Attends i id) (hstays : net.Attends i id)
    (hfits : net.around.now + m.ingest.cache.ttl < Cache.clockEnd)
    (hidle : ∀ d ∈ m.dispatchers, net.step? (.dispatch i d.subscription) = none) :
    ∃ d ∈ receipts i later, d.connection = id ∧ d.place = sent.before.around.bus.channel.tail := by
  obtain ⟨hbefore, hvalid, hlater⟩ := run.cut
  have hregistered := hbefore.outside.registered hnew.registered
  have htuned := hbefore.tuned hnew.registered (hnew.tuned hrefusing)
  have hregistered' := (hvalid.mono Apart.outside).registered hregistered
  have htuned' := hvalid.tuned hregistered htuned
  obtain ⟨m₁, hm₁⟩ := run.manager_before hm
  obtain ⟨m₂, hm₂, -⟩ := hvalid.does hm₁
  have hafter := hlater.advances hregistered' htuned' hm₂ hm
  have hturn := hvalid.advances hregistered htuned hm₁ hm₂
  have hfits₁ := hturn.fits (hafter.fits hfits)
  have hattend : sent.before.Attends i id := hattends sent (by simp)
  have hrest : ∀ t ∈ later, t.before.Attends i id := fun t ht => hattends t (by simp [ht])
  have hawaits : (sent.before.reception m₁).Awaits kind id sent.before.around.bus.channel.tail := by
    have hprimary₁ : m₁.settings.primary = true :=
      hturn.primary.symm.trans (hafter.primary.symm.trans hprimary)
    obtain ⟨n, hread⟩ := hbefore.hears hnew hrefusing hm₁ hfits₁ hprimary₁ (hattend.connection hm₁)
      hattend.isOpen kind
    obtain ⟨cursor, hget, hle⟩ := (htuned.readers hm₁).subscription hread
    exact ⟨n, cursor, hread, hget, hle⟩
  have hholds : sent.after.around.bus.channel.Holds kind.pattern
      sent.before.around.bus.channel.tail message := by
    rw [hvalid.sends hsent hcall]
    exact ⟨Channel.getElem?_send message _, (hcall.isMatch kind).mpr rfl⟩
  have hattend' := hlater.at_start (P := (Attends · i id)) hrest hstays
  have hheld := hafter.channel.holds hholds
  rcases hvalid.awaits hregistered htuned hm₁ hm₂ hfits₁ hattend (hattend'.connection hm₂)
    (.inl (Nat.le_refl _)) hawaits with hawaits' | ⟨d, hd, -⟩
  · refine (hlater.awaits hregistered' htuned' hm₂ hm hfits hrest hstays (.inr ⟨message, hheld⟩)
      hawaits').resolve_left ?_
    exact hstays.not_awaits hm hidle hheld
  · simp [hsent.receipt?_eq_none] at hd

/-- What is taken in of a message is so by a reader that was there as it was sent. -/
theorem Run.receipt_at (run : Run Apart start (later ++ sent :: earlier) net) (hnew : start.IsNew)
    (hrefusing : start.around.refusing = 0) (hsent : sent.Publishes j call)
    (hcall : Notifies kind message call) (hm : sent.after.managers[i]? = some m) {d : Receipt}
    (hd : d ∈ receipts i (later ++ sent :: earlier))
    (hplace : d.place = sent.before.around.bus.channel.tail) :
    (sent.after.reception m).Reads d.kind d.subscription d.connection ∧
      (sent.after.around.bus.isClosed d.connection = true →
        d.late = true ∧ (sent.after.reception m).Waits d.subscription) := by
  obtain ⟨hbefore, hvalid, hlater⟩ := run.cut
  obtain ⟨m₀, hm₀, -⟩ := hvalid.done hm
  have hregistered := hbefore.outside.registered hnew.registered
  have htuned := hbefore.tuned hnew.registered (hnew.tuned hrefusing)
  rw [receipts_append, receipts_cons, hsent.receipt?_eq_none] at hd
  rcases List.mem_append.mp hd with hd | hd
  · refine (hlater.receipt_by ((hvalid.mono Apart.outside).registered hregistered)
      (hvalid.tuned hregistered htuned) hm hd).resolve_right fun ⟨_, htail⟩ => ?_
    rw [hvalid.sends hsent hcall, hplace, Channel.tail, Channel.send, Array.size_push] at htail
    exact absurd htail (Nat.not_succ_le_self _)
  · have hholds := (hbefore.logged hnew hrefusing hm₀).holds d hd
    exact absurd hplace (Nat.ne_of_lt hholds.lt_tail)

/-- What is taken in of a notification is taken in with its payload, and as its own kind. -/
theorem Run.taken_eq (run : Run Apart start (later ++ sent :: earlier) net) (hnew : start.IsNew)
    (hrefusing : start.around.refusing = 0) (hsent : sent.Publishes j call)
    (hcall : Notifies kind message call) (hm : net.managers[i]? = some m) {d : Receipt}
    (hd : d ∈ receipts i (later ++ sent :: earlier))
    (hplace : d.place = sent.before.around.bus.channel.tail) :
    d.toDelivery = ⟨kind, sent.before.around.bus.channel.tail, message⟩ := by
  have hmessage := run.history_sent hnew hrefusing hm (run.cut.2.1.sends hsent hcall)
  exact (run.logged hnew hrefusing hm).delivery_eq hmessage hcall.isMatch hd hplace

/-- The readers whose connection is open as a notification is sent take it in at most once. -/
theorem Run.open_at_most_once (run : Run Apart start (later ++ sent :: earlier) net)
    (hnew : start.IsNew) (hrefusing : start.around.refusing = 0) (hsent : sent.Publishes j call)
    (hcall : Notifies kind message call) (hm : net.managers[i]? = some m) :
    (receipts i (later ++ sent :: earlier)).countP (fun d =>
      d.place = sent.before.around.bus.channel.tail ∧
        !sent.after.around.bus.isClosed d.connection) ≤ 1 := by
  obtain ⟨hbefore, hvalid, -⟩ := run.cut
  have hregistered := hbefore.outside.registered hnew.registered
  have htuned := hbefore.tuned hnew.registered (hnew.tuned hrefusing)
  obtain ⟨m₀, hm₀⟩ := run.manager_before hm
  obtain ⟨m₁, hm₁, -⟩ := hvalid.does hm₀
  have hreaders := (hvalid.tuned hregistered htuned).readers hm₁
  refine (run.logged hnew hrefusing hm).at_most_once fun a ha b hb hpa hpb => ?_
  simp only [decide_eq_true_eq, Bool.not_eq_true'] at hpa hpb
  obtain ⟨hplacea, hopena⟩ := hpa
  obtain ⟨hplaceb, hopenb⟩ := hpb
  have hread {d : Receipt} (hd : d ∈ receipts i (later ++ sent :: earlier))
      (hplace : d.place = sent.before.around.bus.channel.tail) :
      (sent.after.reception m₁).Reads kind d.subscription d.connection := by
    have hkind : d.kind = kind :=
      congrArg Delivery.kind (run.taken_eq hnew hrefusing hsent hcall hm hd hplace)
    exact hkind ▸ (run.receipt_at hnew hrefusing hsent hcall hm₁ hd hplace).1
  refine ⟨?_, hplacea.trans hplaceb.symm⟩
  exact hreaders.one_open (hread ha hplacea) hopena (hread hb hplaceb) hopenb

/-- Delivery from end to end, of a notification that is sent over an established connection.  A manager
takes in messages by handling them, and one that is no primary takes in none.  The notification is taken
in with its payload and as its own kind, and at most once by readers whose connection is open as it is
sent.  A reader whose connection was closed before may take it in late if it was waiting, which is the last
that this reader takes in.  A primary that is on an open connection when it is sent, and stays there and
keeps up until its dispatchers have nothing to do, takes it in once there, and once in all if it has no
readers on earlier connections. -/
theorem Run.end_to_end (run : Run Apart start (later ++ sent :: earlier) net) (hnew : start.IsNew)
    (hrefusing : start.around.refusing = 0) (hsent : sent.Publishes j call)
    (hcall : Notifies kind message call) (hm : net.managers[i]? = some m) :
    let place := sent.before.around.bus.channel.tail
    let taken := receipts i (later ++ sent :: earlier)
    let isOpen (d : Receipt) : Bool := !sent.after.around.bus.isClosed d.connection
    (∀ t ∈ later ++ sent :: earlier, ∀ {m₁ m₂}, t.before.managers[i]? = some m₁ →
      t.after.managers[i]? = some m₂ →
        (t.before.reception m₁).Handles (t.delivery? i) (t.after.reception m₂)) ∧
    (m.settings.primary = false → taken = []) ∧
    (∀ d ∈ taken, d.place = place → d.toDelivery = ⟨kind, place, message⟩) ∧
    taken.countP (fun d => d.place = place ∧ isOpen d) ≤ 1 ∧
    (∀ d ∈ taken, d.place = place → isOpen d = false → d.late = true ∧
      ∃ m₁, sent.after.managers[i]? = some m₁ ∧ (sent.after.reception m₁).Waits d.subscription) ∧
    (net.reception m).Spent taken ∧
    (m.settings.primary = true → ∀ {id}, (∀ t ∈ later ++ [sent], t.before.Attends i id) →
      net.Attends i id → net.around.now + m.ingest.cache.ttl < Cache.clockEnd →
        (∀ d ∈ m.dispatchers, net.step? (.dispatch i d.subscription) = none) →
          taken.countP (fun d => d.place = place ∧ isOpen d) = 1 ∧
            (sent.after.Gathered i id → taken.countP (·.place = place) = 1)) := by
  intro place taken isOpen
  obtain ⟨m₀, hm₀⟩ := run.manager_before hm
  obtain ⟨m₁, hm₁, -⟩ := run.cut.2.1.does hm₀
  have hlogged := run.logged hnew hrefusing hm
  have hread {d : Receipt} (hd : d ∈ taken) (hplace : d.place = place) :=
    run.receipt_at hnew hrefusing hsent hcall hm₁ hd hplace
  have hatMostOnce : taken.countP (fun d => d.place = place ∧ isOpen d) ≤ 1 :=
    run.open_at_most_once hnew hrefusing hsent hcall hm
  refine ⟨fun t ht m₁ m₂ hm₁ hm₂ => ?_, hlogged.primary,
    fun d hd => run.taken_eq hnew hrefusing hsent hcall hm hd, hatMostOnce, ?_, hlogged.spent, ?_⟩
  · obtain ⟨after, before, hturns⟩ := List.append_of_mem ht
    obtain ⟨hrun, hturn, -⟩ := (hturns ▸ run).cut
    exact hturn.handles (hrun.outside.registered hnew.registered)
      (hrun.tuned hnew.registered (hnew.tuned hrefusing)) hm₁ hm₂
  · intro d hd hplace hclosed
    obtain ⟨hlate, hwaits⟩ := (hread hd hplace).2 (by simpa [isOpen] using hclosed)
    exact ⟨hlate, m₁, hm₁, hwaits⟩
  · intro hprimary id hattends hstays hfits hidle
    have hattend : sent.after.Attends i id :=
      run.cut.2.2.at_start (P := (Attends · i id)) (fun t ht => hattends t (by simp [ht])) hstays
    have hopen := Registry.isClosed_of_isOver hattend.isOpen
    obtain ⟨d, hd, hconnection, hplace⟩ :=
      run.delivers hnew hrefusing hsent hcall hm hprimary hattends hstays hfits hidle
    have honce : taken.countP (fun d => d.place = place ∧ isOpen d) = 1 := by
      refine Nat.le_antisymm hatMostOnce (List.countP_pos_iff.mpr ⟨d, ?_, ?_⟩)
      · rw [show taken = _ from receipts_append ..]
        exact List.mem_append_left _ hd
      · simp [isOpen, hconnection, hopen, hplace, place]
    refine ⟨honce, fun hgathered => honce ▸ List.countP_congr fun d hd => ?_⟩
    have hall (hplace : d.place = place) : isOpen d = true := by
      simp [isOpen, (hgathered m₁ hm₁).eq (hread hd hplace).1, hopen]
    simpa using hall

/-- A manager that is no primary publishes an update.  The primary on the same bus takes it in once, and
the other takes in nothing. -/
theorem Run.taken_in_once : ∃ turns net,
    Run Apart (ofSettings [{ servers := ["bus://a"], primary := true }, { servers := ["bus://a"] }])
      turns net ∧ (receipts 0 turns).countP (·.place = 0) = 1 ∧ receipts 1 turns = [] := by
  let first : Network :=
    ofSettings [{ servers := ["bus://a"], primary := true }, { servers := ["bus://a"] }]
  have hnew : first.IsNew := isNew_ofSettings (by simp; exact ⟨rfl, rfl⟩)
  obtain ⟨earlier, sent, later, net, m, m', run, hm, hm', hsent, hplace, hprimary, hother, hattends,
      hgathered, hfits, hidle⟩ :
      ∃ earlier sent later net m m', Run Apart first (later ++ sent :: earlier) net ∧
        net.managers[0]? = some m ∧ net.managers[1]? = some m' ∧
        sent.Publishes 1 (.accountUpdate [] "A") ∧ sent.before.around.bus.channel.tail = 0 ∧
        m.settings.primary = true ∧ m'.settings.primary = false ∧
        (∀ other ∈ net :: (later ++ [sent]).map (·.before),
          (other.managers[0]?).bind (·.connection) = some 1 ∧
            other.around.bus.isOver 1 = false ∧ other.around.bus.channel.head = 0) ∧
        (∀ m₁ ∈ sent.after.managers[0]?, ∀ d ∈ m₁.dispatchers, d.connection = 1) ∧
        net.around.now + m.ingest.cache.ttl < Cache.clockEnd ∧
        ∀ d ∈ m.dispatchers, (net.step? (.dispatch 0 d.subscription)).isNone = true :=
    -- The last steps read a message, which only the kernel evaluates.
    ⟨_, _, [_, _, _, _], _, _, _,
      (((((((((Run.start.step (.request 0 0 .start) rfl).step (.grant 0) rfl).step
        (.request 1 0 .start) rfl).step (.grant 1) rfl).step
          (.request 1 1 (.accountUpdate [] "A")) rfl).step (.grant 1) rfl).step
            (.dispatch 0 1) rfl).step (.dispatch 0 2) rfl).step
              (.dispatch 0 1) (Option.some_get (by decide +kernel)).symm).step
                (.dispatch 0 2) (Option.some_get (by decide +kernel)).symm,
      (Option.some_get (by decide +kernel)).symm, (Option.some_get (by decide +kernel)).symm,
      ⟨rfl, _, _, 1, [], rfl, rfl, rfl, Option.some_ne_none 2, rfl⟩, by decide +kernel⟩
  obtain ⟨-, -, -, -, -, -, honce⟩ := run.end_to_end hnew rfl hsent (.accountUpdate (by decide)) hm
  obtain ⟨-, hnone, -⟩ := run.end_to_end hnew rfl hsent (.accountUpdate (by decide)) hm'
  have hattend {other : Network} (h : other ∈ net :: (later ++ [sent]).map (·.before)) :
      other.Attends 0 1 :=
    .of_head (hattends other h).1 (hattends other h).2.1 (hattends other h).2.2
  rw [hplace] at honce
  refine ⟨_, net, run, ?_, hnone hother⟩
  exact (honce hprimary (fun t ht => hattend (.tail _ (List.mem_map_of_mem ht)))
    (hattend (.head _)) hfits fun d hd => Option.isNone_iff_eq_none.mp (hidle d hd)).2 hgathered

/-- A primary replaces its connection and publishes an update before its old dispatcher goes on.  This one
looks for a message first, and so both take in the update.  A primary on an open connection takes in nothing
if its subscriptions there were refused. -/
theorem Run.taken_in_twice :
    (∃ turns net, Run Apart (ofSettings [{ servers := ["bus://a"], primary := true }]) turns net ∧
      (∃ sent ∈ turns, sent.Publishes 0 (.accountUpdate [] "A")) ∧ net.around.bus.published = 1 ∧
      deliveries 0 turns =
        [⟨.accountUpdate, 0, ⟨Notification.accountSubject "A", []⟩⟩,
          ⟨.accountUpdate, 0, ⟨Notification.accountSubject "A", []⟩⟩]) ∧
    ∃ turns net, Run Apart
        { ofSettings [{ servers := ["bus://a"], primary := true }] with around.refusing := 2 } turns net ∧
      (∃ sent ∈ turns, sent.Publishes 0 (.accountUpdate [] "A") ∧ sent.before.Attends 0 1) ∧
      net.Attends 0 1 ∧ (∀ m ∈ net.managers, m.settings.primary = true ∧ m.dispatchers = []) ∧
      deliveries 0 turns = [] := by
  constructor
  · obtain ⟨earlier, sent, later, net, run, hsent, htaken⟩ :
        ∃ earlier sent later net,
          Run Apart (ofSettings [{ servers := ["bus://a"], primary := true }])
            (later ++ sent :: earlier) net ∧
          sent.Publishes 0 (.accountUpdate [] "A") ∧ net.around.bus.published = 1 ∧
          deliveries 0 (later ++ sent :: earlier) =
            [⟨.accountUpdate, 0, ⟨Notification.accountSubject "A", []⟩⟩,
              ⟨.accountUpdate, 0, ⟨Notification.accountSubject "A", []⟩⟩] :=
      ⟨_, _, [_, _, _], _,
        ((((((((((Run.start.step (.request 0 0 .start) rfl).step (.grant 0) rfl).step
          (.dispatch 0 1) rfl).step (.dispatch 0 2) rfl).step (.request 0 1 .reconnect) rfl).step
            (.grant 0) rfl).step (.request 0 2 (.accountUpdate [] "A")) rfl).step (.grant 0) rfl).step
              (.dispatch 0 1 .message) (Option.some_get (by decide +kernel)).symm).step
                (.dispatch 0 3) (Option.some_get (by decide +kernel)).symm).step
                  (.dispatch 0 3) (Option.some_get (by decide +kernel)).symm,
        ⟨rfl, _, _, 2, [], rfl, rfl, rfl, Option.some_ne_none 2, rfl⟩, by decide +kernel⟩
    exact ⟨_, net, run, ⟨sent, by simp, hsent⟩, htaken⟩
  · obtain ⟨earlier, sent, net, run, hsent, hattends, hdeaf⟩ :
        ∃ earlier sent net, Run Apart
          { ofSettings [{ servers := ["bus://a"], primary := true }] with around.refusing := 2 }
            (sent :: earlier) net ∧
          sent.Publishes 0 (.accountUpdate [] "A") ∧
          (∀ other ∈ [sent.before, net], (other.managers[0]?).bind (·.connection) = some 1 ∧
            other.around.bus.isOver 1 = false ∧ other.around.bus.channel.head = 0) ∧
          (∀ m ∈ net.managers, m.settings.primary = true ∧ m.dispatchers = []) ∧
          deliveries 0 (sent :: earlier) = [] :=
      ⟨_, _, _, (((Run.start.step (.request 0 0 .start) rfl).step (.grant 0) rfl).step
        (.request 0 1 (.accountUpdate [] "A")) rfl).step (.grant 0) rfl,
        ⟨rfl, _, _, 1, [], rfl, rfl, rfl, Option.some_ne_none 1, rfl⟩, by decide +kernel⟩
    have hattend {other : Network} (h : other ∈ [sent.before, net]) : other.Attends 0 1 :=
      .of_head (hattends other h).1 (hattends other h).2.1 (hattends other h).2.2
    exact ⟨_, net, run, ⟨sent, .head _, hsent, hattend (by simp)⟩, hattend (by simp), hdeaf⟩

end Network

end ClaimRelay
