import Mathlib.Data.List.Sort
import ClaimRelay.Proofs.Network.Delivery
import ClaimRelay.Proofs.Store.Save

/-! Replicas.  The dispatchers of a primary take in the messages of each kind in their order, but those of
the two kinds in any order.  What comes of them is the same for all orders, as long as no account claim has
the id of an activation: the store in memory holds for each id the latest payload, and each message is
counted.  So primaries that miss nothing agree in the end. -/

namespace ClaimRelay

open Manager Bus

/-! ### What is kept in memory -/

namespace Ingest

/-- The id under which a store in memory keeps a notification, if it does. -/
def keptId? (kind : Notification) (payload : List UInt8) : Option String :=
  match identify kind payload with
  | .ok id => if Store.isKey id then some id else none
  | .error _ => none

theorem identify_of_keptId? {kind : Notification} {payload : List UInt8} {id : String}
    (h : keptId? kind payload = some id) : identify kind payload = .ok id := by
  unfold keptId? at h
  split at h
  · rename_i found hid
    split at h
    · exact hid.trans (congrArg Except.ok (Option.some.inj h))
    · simp at h
  · simp at h

variable {now : Nat} {kind : Notification} {payload : List UInt8} {ingest : Ingest}
  {claims : Store.Memory} {files : FileSystem} {outcome : Outcome} {after : Ingest × Store × FileSystem}

/-- A store in memory keeps a notification under its id, or is left as it is. -/
theorem Handles.memory
    (h : Handles Store.save now kind payload ingest (.memory claims, files) outcome after)
    (fits : now + ingest.cache.ttl < Cache.clockEnd) :
    after.2.1 = .memory ((keptId? kind payload).elim claims fun id => claims.put id payload) ∧
      after.1.stored = ingest.stored + (keptId? kind payload).isSome.toNat ∧
      after.1.dropped = ingest.dropped + (keptId? kind payload).isNone.toNat := by
  cases h with
  | @stored id _ _ _ hid hsave _ =>
    rw [Store.run_save_memory] at hsave
    by_cases hkey : Store.isKey id = true
    · rw [if_pos hkey] at hsave
      obtain rfl := (Prod.mk.inj hsave).2
      simp [keptId?, hid, hkey]
    · rw [if_neg hkey] at hsave
      exact absurd (Prod.mk.inj hsave).1 (by simp)
  | unidentified hid => simp [keptId?, hid]
  | @refused id _ _ hid hsave =>
    rw [Store.run_save_memory] at hsave
    by_cases hkey : Store.isKey id = true
    · rw [if_pos hkey] at hsave
      exact absurd (Prod.mk.inj hsave).1 (by simp)
    · rw [if_neg hkey] at hsave
      obtain rfl := (Prod.mk.inj hsave).2
      simp [keptId?, hid, hkey]
  | crashed hid hsave htouch => exact ((Handles.crashed hid hsave htouch).not_crashed fits).elim

end Ingest

/-! ### What comes of a log -/

namespace Manager

/-- The id under which a store in memory keeps what was taken in, if it does. -/
def Delivery.keptId? (d : Delivery) : Option String := Ingest.keptId? d.kind d.message.payload

/-- What comes of everything that was taken in, the latest first, if the store in memory held `claims` at
first. -/
structure Reflects (claims : Store.Memory) (log : List Delivery) (ingest : Ingest) (store : Store) :
    Prop where
  held : ∃ held, store = .memory held ∧ ∀ id, held.get? id =
    ((log.find? (·.keptId? = some id)).map (·.message.payload)).or (claims.get? id)
  stored : ingest.stored = log.countP (·.keptId?.isSome)
  dropped : ingest.dropped = log.countP (·.keptId?.isNone)

variable {claims : Store.Memory} {log log' : List Delivery} {ingest ingest' : Ingest} {store store' : Store}
  {r t : Reception} {delivery : Option Delivery}

theorem Reception.Handles.reflects (h : r.Handles delivery t)
    (hreflects : Reflects claims log r.ingest r.store)
    (fits : r.now + r.ingest.cache.ttl < Cache.clockEnd) :
    Reflects claims (delivery.toList ++ log) t.ingest t.store := by
  cases delivery with
  | none =>
    obtain ⟨hingest, hstore⟩ := h
    rw [hingest, hstore]
    exact hreflects
  | some d =>
    obtain ⟨⟨held, hstore, hheld⟩, hstored, hdropped⟩ := hreflects
    have hhandles := Ingest.handle_handles Store.save r.now d.kind d.message.payload r.ingest
      (r.store, r.files)
    rw [show _ = (t.ingest, t.store, t.files) from h, hstore] at hhandles
    obtain ⟨hstore', hstored', hdropped'⟩ := hhandles.memory fits
    refine ⟨⟨_, hstore', fun id => ?_⟩, ?_, ?_⟩
    · change Table.get? (d.keptId?.elim held fun id => held.put id d.message.payload) id = _
      rw [Option.toList_some, List.singleton_append, List.find?_cons]
      cases hkept : d.keptId? with
      | none => simpa using hheld id
      | some kept =>
        by_cases hid : kept = id
        · simp [hid, Table.get?_put]
        · simp [hid, Table.get?_put, hheld]
    · change t.ingest.stored = r.ingest.stored + d.keptId?.isSome.toNat at hstored'
      rw [hstored', hstored, Option.toList_some, List.singleton_append, List.countP_cons]
      cases d.keptId? <;> rfl
    · change t.ingest.dropped = r.ingest.dropped + d.keptId?.isNone.toNat at hdropped'
      rw [hdropped', hdropped, Option.toList_some, List.singleton_append, List.countP_cons]
      cases d.keptId? <;> rfl

/-! ### Logs with the same messages of each kind -/

theorem countP_kinds (p : Delivery → Bool) (log : List Delivery) :
    log.countP p = (log.filter (·.kind = .accountUpdate)).countP p +
      (log.filter (·.kind = .activation)).countP p := by
  induction log with
  | nil => rfl
  | cons d log ih =>
    obtain ⟨kind, place, message⟩ := d
    cases kind <;> simp [ih, List.countP_cons] <;> omega

/-- What is of one kind is found among those of that kind. -/
theorem find?_kind {p : Delivery → Bool} {kind : Notification} (h : ∀ d ∈ log, p d → d.kind = kind) :
    log.find? p = (log.filter (·.kind = kind)).find? p := by
  induction log with
  | nil => rfl
  | cons d log ih =>
    obtain ⟨hfirst, hrest⟩ := List.forall_mem_cons.mp h
    by_cases hp : p d = true
    · simp [hp, hfirst hp]
    · by_cases hkind : d.kind = kind
      · simp [hp, hkind, ih hrest]
      · simp [hp, hkind, ih hrest]

/-- Logs with the same messages of each kind in the same order come to the same, if nothing of one kind is
kept under the id of something of the other. -/
theorem Reflects.agree (h : Reflects claims log ingest store) (h' : Reflects claims log' ingest' store')
    (hsame : ∀ kind, log.filter (·.kind = kind) = log'.filter (·.kind = kind))
    (hapart : ∀ a ∈ log, ∀ b ∈ log, ∀ id, a.keptId? = some id → b.keptId? = some id → a.kind = b.kind) :
    (∀ id files, store.load id files = store'.load id files) ∧
      ingest.stored = ingest'.stored ∧ ingest.dropped = ingest'.dropped := by
  obtain ⟨held, rfl, hheld⟩ := h.held
  obtain ⟨held', rfl, hheld'⟩ := h'.held
  refine ⟨fun id files => ?_, ?_, ?_⟩
  · have hmem {d : Delivery} (hd : d ∈ log') : d ∈ log := by
      have hfilter : d ∈ log'.filter (·.kind = d.kind) := List.mem_filter.mpr ⟨hd, by simp⟩
      rw [← hsame] at hfilter
      exact (List.mem_filter.mp hfilter).1
    obtain ⟨kind, hkind⟩ : ∃ kind, ∀ d ∈ log, d.keptId? = some id → d.kind = kind := by
      by_cases hkept : ∃ a ∈ log, a.keptId? = some id
      · obtain ⟨a, ha, hid⟩ := hkept
        exact ⟨a.kind, fun d hd hd' => hapart d hd a ha id hd' hid⟩
      · exact ⟨.activation, fun d hd hd' => absurd ⟨d, hd, hd'⟩ hkept⟩
    have hfind : log.find? (·.keptId? = some id) = log'.find? (·.keptId? = some id) := by
      have hlog : ∀ d ∈ log, decide (d.keptId? = some id) → d.kind = kind :=
        fun d hd hp => hkind d hd (by simpa using hp)
      rw [find?_kind hlog, find?_kind fun d hd => hlog d (hmem hd), hsame]
    refine congrArg Except.ok ?_
    show held.get? id = held'.get? id
    rw [hheld, hheld', hfind]
  · rw [h.stored, h'.stored, countP_kinds, countP_kinds _ log', hsame, hsame]
  · rw [h.dropped, h'.dropped, countP_kinds, countP_kinds _ log', hsame, hsame]

/-- What is kept under one id is of one kind, if no account claim in the channel has the id of an activation
there. -/
theorem Reception.kind_eq (h : ∀ d ∈ log, r.channel.Holds d.kind.pattern d.place d.message)
    (hapart : ∀ account ∈ r.channel.history, ∀ activation ∈ r.channel.history,
      Subject.isMatch Notification.accountUpdate.pattern account.subject = true →
      Subject.isMatch Notification.activation.pattern activation.subject = true →
      ∀ {id}, Ingest.identify .accountUpdate account.payload = .ok id →
        Ingest.identify .activation activation.payload ≠ .ok id) :
    ∀ a ∈ log, ∀ b ∈ log, ∀ id, a.keptId? = some id → b.keptId? = some id → a.kind = b.kind := by
  have hnot {a b : Delivery} {id : String} (ha : a ∈ log) (hb : b ∈ log)
      (haccount : a.kind = .accountUpdate) (hactivation : b.kind = .activation)
      (hida : a.keptId? = some id) : b.keptId? ≠ some id := by
    intro hidb
    obtain ⟨hgeta, hmatcha⟩ := h a ha
    obtain ⟨hgetb, hmatchb⟩ := h b hb
    have hida := Ingest.identify_of_keptId? hida
    have hidb := Ingest.identify_of_keptId? hidb
    rw [haccount] at hmatcha hida
    rw [hactivation] at hmatchb hidb
    exact hapart a.message (Array.mem_of_getElem? hgeta) b.message (Array.mem_of_getElem? hgetb)
      hmatcha hmatchb hida hidb
  intro a ha b hb id hida hidb
  cases hka : a.kind with
  | accountUpdate =>
    cases hkb : b.kind with
    | accountUpdate => rfl
    | activation => exact absurd hidb (hnot ha hb hka hkb hida)
  | activation =>
    cases hkb : b.kind with
    | accountUpdate => exact absurd hida (hnot hb ha hkb hka hidb)
    | activation => rfl

end Manager

namespace Network

variable {start middle net : Network} {earlier later turns : List Turn} {i j place : Nat} {m m' m₀ : Manager}
  {kind : Notification} {message : Message} {claims : Store.Memory}

/-! ### What comes of a run -/

theorem Run.reflects (run : Run Apart start turns net) (hnew : start.IsNew)
    (hrefusing : start.around.refusing = 0) (hm₀ : start.managers[i]? = some m₀)
    (hstore : m₀.store = .memory claims) (hm : net.managers[i]? = some m)
    (hfits : net.around.now + m.ingest.cache.ttl < Cache.clockEnd) :
    Reflects claims (deliveries i turns) m.ingest m.store := by
  induction run generalizing m with
  | start =>
    obtain rfl : m₀ = m := Option.some.inj (hm₀.symm.trans hm)
    obtain ⟨hstored, hdropped⟩ := hnew.counts hm
    exact ⟨⟨claims, hstore, fun _ => rfl⟩, hstored, hdropped⟩
  | turn run valid ih =>
    have hregistered := run.outside.registered hnew.registered
    have htuned := run.tuned hnew.registered (hnew.tuned hrefusing)
    obtain ⟨m₁, hm₁, -⟩ := valid.done hm
    have hfits₁ := (valid.advances hregistered htuned hm₁ hm).fits hfits
    rw [deliveries_cons]
    exact (valid.handles hregistered htuned hm₁ hm).reflects (ih hm₁ hfits₁) hfits₁

/-! ### Replicas -/

/-- The manager at place `i` is a primary that has all its readers on one connection, stays there and keeps
up, and in the end its dispatchers have nothing to do. -/
structure Replica (middle : Network) (turns : List Turn) (net : Network) (i : Nat) (m : Manager) :
    Prop where
  manager : net.managers[i]? = some m
  primary : m.settings.primary = true
  attends : ∃ id, middle.Gathered i id ∧ (∀ t ∈ turns, t.before.Attends i id) ∧ net.Attends i id
  idle : ∀ d ∈ m.dispatchers, net.step? (.dispatch i d.subscription) = none
  fits : net.around.now + m.ingest.cache.ttl < Cache.clockEnd

/-- While the channel still has all its messages, a replica only has to stay connected. -/
theorem Replica.of_head {id : Nat} (hm : net.managers[i]? = some m)
    (hgathered : ∀ m ∈ middle.managers[i]?, ∀ d ∈ m.dispatchers, d.connection = id)
    (hconnected : ∀ other ∈ net :: turns.map (·.before),
      (other.managers[i]?).bind (·.connection) = some id ∧
        other.around.bus.isOver id = false ∧ other.around.bus.channel.head = 0)
    (hdone : m.settings.primary = true ∧
      (∀ d ∈ m.dispatchers, (net.step? (.dispatch i d.subscription)).isNone = true) ∧
      net.around.now + m.ingest.cache.ttl < Cache.clockEnd) : Replica middle turns net i m := by
  have hattend {other : Network} (h : other ∈ net :: turns.map (·.before)) : other.Attends i id :=
    .of_head (hconnected other h).1 (hconnected other h).2.1 (hconnected other h).2.2
  obtain ⟨hprimary, hidle, hfits⟩ := hdone
  have hattends : ∀ t ∈ turns, t.before.Attends i id :=
    fun t ht => hattend (.tail _ (List.mem_map_of_mem ht))
  exact ⟨hm, hprimary, ⟨id, hgathered, hattends, hattend (.head _)⟩,
    fun d hd => Option.isNone_iff_eq_none.mp (hidle d hd), hfits⟩

section Replicas

variable (before : Run Apart start earlier middle) (run : Run Apart middle later net)
  (hnew : start.IsNew) (hrefusing : start.around.refusing = 0)
  (hnone : middle.around.bus.published = 0)

include before run hnew hrefusing

theorem Run.deliveries_hold (hm : net.managers[i]? = some m) :
    ∀ d ∈ deliveries i (later ++ earlier), net.around.bus.channel.Holds d.kind.pattern d.place d.message := by
  rw [deliveries_eq]
  exact List.forall_mem_map.mpr ((before.trans run).logged hnew hrefusing hm).holds

include hnone

/-- Nothing is taken in before the first message. -/
theorem Run.receipts_eq_later (hm : net.managers[i]? = some m) :
    receipts i (later ++ earlier) = receipts i later := by
  obtain ⟨m₁, hm₁⟩ := run.manager_at_start hm
  have hnothing : receipts i earlier = [] := by
    refine List.eq_nil_iff_forall_not_mem.mpr fun d hd => ?_
    have hholds := (before.logged hnew hrefusing hm₁).holds d hd
    exact Nat.not_lt_zero _ (Nat.lt_of_lt_of_eq hholds.lt_tail hnone)
  rw [receipts_append, hnothing, List.append_nil]

/-- A replica that is there before the first message takes in all messages that are published. -/
theorem Run.mem_deliveries_iff (hreplica : Replica middle later net i m) :
    ⟨kind, place, message⟩ ∈ deliveries i (later ++ earlier) ↔
      net.around.bus.channel.Holds kind.pattern place message := by
  obtain ⟨hm, hprimary, ⟨id, -, hattends, hstays⟩, hidle, hfits⟩ := hreplica
  have hholds' := before.deliveries_hold run hnew hrefusing hm
  refine ⟨fun hd => hholds' _ hd, fun hholds => ?_⟩
  have hregistered := before.outside.registered hnew.registered
  have htuned := before.tuned hnew.registered (hnew.tuned hrefusing)
  have hattend : middle.Attends i id := run.at_start (P := (Attends · i id)) hattends hstays
  obtain ⟨m₁, hm₁⟩ := run.manager_at_start hm
  have hadvances := run.advances hregistered htuned hm₁ hm
  -- The reader of the kind is at the first place when nothing is published yet.
  have hawaits : (middle.reception m₁).Awaits kind id place := by
    obtain ⟨n, hread⟩ := before.hears hnew hrefusing hm₁ (hadvances.fits hfits)
      (hadvances.primary.symm.trans hprimary) (hattend.connection hm₁) hattend.isOpen kind
    obtain ⟨cursor, hget, hle⟩ := (htuned.readers hm₁).subscription hread
    have hfirst : cursor = 0 := Nat.le_zero.mp (Nat.le_trans hle (Nat.le_of_eq hnone))
    exact ⟨n, cursor, hread, hget, hfirst ▸ Nat.zero_le place⟩
  obtain ⟨d, hd, -, rfl⟩ := (run.awaits hregistered htuned hm₁ hm hfits hattends hstays
    (.inr ⟨message, hholds⟩) hawaits).resolve_left (hstays.not_awaits hm hidle hholds)
  have hd' : d.toDelivery ∈ deliveries i (later ++ earlier) :=
    mem_deliveries (receipts_append .. ▸ List.mem_append_left _ hd)
  have hheld := hholds' _ hd'
  obtain ⟨⟨found, place, first⟩, subscription, connection, late⟩ := d
  obtain rfl : first = message := Option.some.inj (hheld.1.symm.trans hholds.1)
  obtain rfl : found = kind := Notification.eq_of_isMatch hheld.2 hholds.2
  exact hd'

/-- A replica takes in the messages of one kind in their order. -/
theorem Run.ordered_kinds (hreplica : Replica middle later net i m) (kind : Notification) :
    ((deliveries i (later ++ earlier)).filter (·.kind = kind)).Pairwise
      fun after before => before.place < after.place := by
  obtain ⟨hm, -, ⟨id, hgathered, hattends, hstays⟩, -⟩ := hreplica
  have hregistered := before.outside.registered hnew.registered
  have htuned := before.tuned hnew.registered (hnew.tuned hrefusing)
  obtain ⟨m₁, hm₁⟩ := run.manager_at_start hm
  have hordered := ((before.trans run).logged hnew hrefusing hm).ordered
  rw [before.receipts_eq_later run hnew hrefusing hnone hm] at hordered
  rw [deliveries_eq, before.receipts_eq_later run hnew hrefusing hnone hm, List.filter_map,
    List.pairwise_map]
  -- There is one reader of the kind on the connection.
  refine (hordered.filter _).imp_of_mem fun {a b} ha hb h => h ?_
  have hread {d : Receipt} (hd : d ∈ (receipts i later).filter
      ((fun d : Delivery => decide (d.kind = kind)) ∘ (·.toDelivery))) :
      (middle.reception m₁).Reads kind d.subscription id := by
    obtain ⟨htaken, hkind⟩ := List.mem_filter.mp hd
    obtain rfl : d.kind = kind := by simpa using hkind
    exact run.receipt_gathered hregistered htuned hm₁ hattends hstays hgathered htaken
  exact (htuned.readers hm₁).single (hread ha) (hread hb)

/-- Two replicas take in the messages of each kind in the same order. -/
theorem Run.same_kinds (hi : Replica middle later net i m) (hj : Replica middle later net j m')
    (kind : Notification) :
    (deliveries i (later ++ earlier)).filter (·.kind = kind) =
      (deliveries j (later ++ earlier)).filter (·.kind = kind) := by
  have hordered {k : Nat} {n : Manager} (hk : Replica middle later net k n) :=
    before.ordered_kinds run hnew hrefusing hnone hk kind
  have : Std.Irrefl fun after before : Delivery => before.place < after.place :=
    ⟨fun _ => Nat.lt_irrefl _⟩
  have : Std.Antisymm fun after before : Delivery => before.place < after.place :=
    ⟨fun _ _ h h' => absurd h (Nat.lt_asymm h')⟩
  refine (hordered hi).eq_of_mem_iff (hordered hj) fun ⟨kind', place, message⟩ => ?_
  rw [List.mem_filter, List.mem_filter, before.mem_deliveries_iff run hnew hrefusing hnone hi,
    before.mem_deliveries_iff run hnew hrefusing hnone hj]

end Replicas

/-- Replicas converge.  Two primaries with the same store in memory that are there before the first message,
stay on their connections with all their dispatchers and keep up, have the same claims and the same counts
once these have nothing to do, in whatever order they went on, as long as no account claim that is published
has the id of an activation that is. -/
theorem Run.replicas_converge (before : Run Apart start earlier middle) (run : Run Apart middle later net)
    (hnew : start.IsNew) (hrefusing : start.around.refusing = 0)
    (hstore : (start.managers[i]?).map (·.store) = some (.memory claims))
    (hstore' : (start.managers[j]?).map (·.store) = some (.memory claims))
    (hnone : middle.around.bus.published = 0) (hi : Replica middle later net i m)
    (hj : Replica middle later net j m')
    (hapart : ∀ account ∈ net.around.bus.channel.history, ∀ activation ∈ net.around.bus.channel.history,
      Subject.isMatch Notification.accountUpdate.pattern account.subject = true →
      Subject.isMatch Notification.activation.pattern activation.subject = true →
      ∀ {id}, Ingest.identify .accountUpdate account.payload = .ok id →
        Ingest.identify .activation activation.payload ≠ .ok id) :
    (∀ id, m.store.load id net.around.files = m'.store.load id net.around.files) ∧
      m.ingest.stored = m'.ingest.stored ∧ m.ingest.dropped = m'.ingest.dropped := by
  have hwhole := before.trans run
  have hreflects {k : Nat} {n : Manager} (hfirst : (start.managers[k]?).map (·.store) = some (.memory claims))
      (hk : Replica middle later net k n) :
      Reflects claims (deliveries k (later ++ earlier)) n.ingest n.store := by
    obtain ⟨n₀, hn₀, hstore₀⟩ := Option.map_eq_some_iff.mp hfirst
    exact hwhole.reflects hnew hrefusing hn₀ hstore₀ hk.manager hk.fits
  have hkinds := Reception.kind_eq (r := net.reception m)
    (before.deliveries_hold run hnew hrefusing hi.manager) hapart
  have hagree := (hreflects hstore hi).agree (hreflects hstore' hj)
    (before.same_kinds run hnew hrefusing hnone hi hj) hkinds
  exact ⟨fun id => hagree.1 id _, hagree.2⟩

/-- Two primaries take in an account claim and an activation that is no token, in opposite orders, and agree
in the end. -/
theorem Run.replicas_after_two : ∃ turns net m m',
    Run Apart (ofSettings [{ servers := ["bus://a"], primary := true },
      { servers := ["bus://a"], primary := true }]) turns net ∧
      net.managers[0]? = some m ∧ net.managers[1]? = some m' ∧
      (deliveries 0 turns).map (·.kind) = [.activation, .accountUpdate] ∧
      (deliveries 1 turns).map (·.kind) = [.accountUpdate, .activation] ∧
      (∀ id, m.store.load id net.around.files = m'.store.load id net.around.files) ∧
      m.ingest.stored = 1 ∧ m'.ingest.stored = 1 ∧ m.ingest.dropped = 1 ∧ m'.ingest.dropped = 1 := by
  let first : Network := ofSettings [{ servers := ["bus://a"], primary := true },
    { servers := ["bus://a"], primary := true }]
  let token := Text.Utf8.encode "eyJ0eXAiOiJqd3QifQ.eyJzdWIiOiJBIn0."
  have hnew : first.IsNew := isNew_ofSettings (by simp; exact rfl)
  -- The readers read messages, which only the kernel evaluates.
  obtain ⟨⟨earlier, middle⟩, hbefore, ⟨later, net⟩, hrun, hnone, hgathered, hkinds, hkinds',
      hactivations, hconnected, hdone, m, hm, m', hm', hstored, hdropped⟩ :
      ∃ x ∈ first.replay [.request 0 0 .start, .grant 0, .request 1 0 .start, .grant 1],
      ∃ y ∈ x.2.replay [.request 0 1 (.accountUpdate token "A"), .grant 0,
        .request 0 2 (.activation "B" "A" []), .grant 0, .dispatch 0 1, .dispatch 0 2, .dispatch 1 3,
        .dispatch 1 4, .dispatch 0 1, .dispatch 0 2, .dispatch 1 4, .dispatch 1 3, .dispatch 0 1,
        .dispatch 1 3],
        x.2.around.bus.published = 0 ∧
        (∀ k ∈ [0, 1], ∀ m ∈ x.2.managers[k]?, ∀ d ∈ m.dispatchers, d.connection = k + 1) ∧
        (deliveries 0 (y.1 ++ x.1)).map (·.kind) = [.activation, .accountUpdate] ∧
        (deliveries 1 (y.1 ++ x.1)).map (·.kind) = [.accountUpdate, .activation] ∧
        (∀ message ∈ y.2.around.bus.channel.history.toList,
          Subject.isMatch Notification.activation.pattern message.subject = true →
            (Ingest.identify .activation message.payload).toOption = none) ∧
        (∀ k ∈ [0, 1], ∀ other ∈ y.2 :: y.1.map (·.before),
          (other.managers[k]?).bind (·.connection) = some (k + 1) ∧
            other.around.bus.isOver (k + 1) = false ∧ other.around.bus.channel.head = 0) ∧
        (∀ k ∈ [0, 1], ∀ n ∈ y.2.managers[k]?, n.settings.primary = true ∧
          (∀ d ∈ n.dispatchers, (y.2.step? (.dispatch k d.subscription)).isNone = true) ∧
          y.2.around.now + n.ingest.cache.ttl < Cache.clockEnd) ∧
        ∃ m ∈ y.2.managers[0]?, ∃ m' ∈ y.2.managers[1]?,
          m'.ingest.stored = 1 ∧ m'.ingest.dropped = 1 := by
    decide +kernel
  have hapart : ∀ account ∈ net.around.bus.channel.history,
      ∀ activation ∈ net.around.bus.channel.history,
      Subject.isMatch Notification.accountUpdate.pattern account.subject = true →
      Subject.isMatch Notification.activation.pattern activation.subject = true →
      ∀ {id}, Ingest.identify .accountUpdate account.payload = .ok id →
        Ingest.identify .activation activation.payload ≠ .ok id := by
    intro _ _ activation hactivation _ hmatch id _ hid
    have hnot := hactivations activation (Array.mem_toList_iff.mpr hactivation) hmatch
    simp [hid, Except.toOption] at hnot
  obtain ⟨hclaims, hstored', hdropped'⟩ := Run.replicas_converge (i := 0) (j := 1) (.of_replay hbefore)
    (.of_replay hrun) hnew rfl rfl rfl hnone
    (.of_head hm (hgathered 0 (by simp)) (hconnected 0 (by simp)) (hdone 0 (by simp) m hm))
    (.of_head hm' (hgathered 1 (by simp)) (hconnected 1 (by simp)) (hdone 1 (by simp) m' hm')) hapart
  exact ⟨later ++ earlier, net, m, m', (Run.of_replay hbefore).trans (.of_replay hrun), hm, hm', hkinds,
    hkinds', hclaims, hstored'.trans hstored, hstored, hdropped'.trans hdropped, hdropped⟩

end Network

end ClaimRelay
