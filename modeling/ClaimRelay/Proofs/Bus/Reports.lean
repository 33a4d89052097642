import ClaimRelay.Proofs.Bus.Delivery
import ClaimRelay.Proofs.Bus.Registry
import Mathlib.Data.List.Nodup

/-! What an exchange does to the connections of a bus, and what it reports on them.  The reports are computed
from the operation and the bus before it, and the listeners get mail about them in the same order.
Connections stand in the order in which they were made. -/

namespace ClaimRelay.Bus

variable {start bus : Bus} {e : Exchange} {id : Nat}

namespace Registry

variable {r r' : Registry}

/-- The connections stand in the order of their numbers, from one on. -/
def InOrder (r : Registry) : Prop :=
  r.connections.map (·.1) = List.range' 1 r.connections.length

theorem InOrder.nodup (h : r.InOrder) : (r.connections.map (·.1)).Nodup := by
  rw [h]
  exact List.nodup_range'

theorem InOrder.get?_nextId (h : r.InOrder) : r.connections.get? r.nextId = none := by
  have hnew : r.nextId ∉ r.connections.map (·.1) := by
    rw [h, List.mem_range'_1, nextId]
    omega
  rw [← Table.isSome_get?] at hnew
  simpa using hnew

theorem InOrder.of_keys (h : r.InOrder)
    (hkeys : r'.connections.map (·.1) = r.connections.map (·.1)) : r'.InOrder := by
  have hlength : r'.connections.length = r.connections.length := by
    simpa using congrArg List.length hkeys
  rw [InOrder, hkeys, hlength]
  exact h

theorem keys_enter (h : r.InOrder) (c : Connection) :
    (r.enter c).connections.map (·.1) = r.connections.map (·.1) ++ [r.nextId] := by
  rw [enter, Table.keys_put, h.get?_nextId]
  rfl

theorem inOrder_enter (h : r.InOrder) (c : Connection) : (r.enter c).InOrder := by
  have hlength : (r.enter c).connections.length = r.connections.length + 1 := by
    simpa using congrArg List.length (keys_enter h c)
  rw [InOrder, keys_enter h, hlength, h, List.range'_concat, nextId, Nat.one_mul, Nat.add_comm]

theorem mem_openConnections (h : r.InOrder) : id ∈ r.openConnections ↔ r.isOver id = false := by
  constructor
  · intro hid
    obtain ⟨⟨other, c⟩, hentry, rfl⟩ := List.mem_map.mp hid
    obtain ⟨hmem, hopen⟩ := List.mem_filter.mp hentry
    simpa [isOver, Table.get?_of_mem h.nodup hmem] using hopen
  · intro hopen
    unfold isOver at hopen
    split at hopen
    · rename_i c hc
      refine List.mem_map.mpr ⟨(id, c), List.mem_filter.mpr ⟨Table.mem_of_get? hc, ?_⟩, rfl⟩
      simpa using hopen
    · simp at hopen

theorem openConnections_eq (h : r.InOrder) :
    r.openConnections = (r.connections.map (·.1)).filter fun id => !r.isOver id := by
  rw [openConnections, List.filter_map]
  congr 1
  refine List.filter_congr fun entry hentry => ?_
  have hget : r.connections.get? entry.1 = some entry.2 := Table.get?_of_mem h.nodup hentry
  simp [isOver, hget]

theorem InOrder.nodup_openConnections (h : r.InOrder) : r.openConnections.Nodup := by
  rw [openConnections_eq h]
  exact h.nodup.filter _

/-! ### Mail -/

/-- The reports on connections, as their listeners get them. -/
def addressed (r : Registry) (reports : List (Nat × Event)) : List (Nat × Event) :=
  reports.filterMap fun report => (r.connections.get? report.1).map fun c => (c.listener, report.2)

/-- A report on each of the connections that there are. -/
def reportsOf (r : Registry) (report : Connection → Event) (ids : List Nat) : List (Nat × Event) :=
  ids.filterMap fun id => (r.connections.get? id).map fun c => (id, report c)

theorem addressed_append (r : Registry) (front back : List (Nat × Event)) :
    r.addressed (front ++ back) = r.addressed front ++ r.addressed back :=
  List.filterMap_append

theorem addressed_congr
    (h : ∀ id, (r'.connections.get? id).map (·.listener) = (r.connections.get? id).map (·.listener))
    (reports : List (Nat × Event)) : r'.addressed reports = r.addressed reports := by
  refine List.filterMap_congr fun report _ => ?_
  have hsame := congrArg (Option.map fun listener => (listener, report.2)) (h report.1)
  simpa [Option.map_map, Function.comp_def] using hsame

theorem reportsOf_cons (r : Registry) (report : Connection → Event) (id : Nat) (ids : List Nat) :
    r.reportsOf report (id :: ids) = r.reportsOf report [id] ++ r.reportsOf report ids := by
  rw [reportsOf, ← List.singleton_append, List.filterMap_append]
  rfl

theorem mem_reportsOf {report : Connection → Event} {ids : List Nat} {event : Event} :
    (id, event) ∈ r.reportsOf report ids ↔
      id ∈ ids ∧ ∃ c, r.connections.get? id = some c ∧ report c = event := by
  rw [reportsOf, List.mem_filterMap]
  constructor
  · rintro ⟨other, hother, hreport⟩
    obtain ⟨c, hc, hsame⟩ := Option.map_eq_some_iff.mp hreport
    obtain ⟨rfl, rfl⟩ := Prod.mk.inj hsame
    exact ⟨hother, c, hc, rfl⟩
  · rintro ⟨hid, c, hc, rfl⟩
    exact ⟨id, hid, by rw [hc]; rfl⟩

theorem nodup_reportsOf {report : Connection → Event} {ids : List Nat} (h : ids.Nodup) :
    (r.reportsOf report ids).Nodup := by
  refine List.Nodup.filterMap ?_ h
  intro id other entry hid hother
  obtain ⟨c, -, rfl⟩ := Option.map_eq_some_iff.mp (Option.mem_def.mp hid)
  obtain ⟨c', -, hsame⟩ := Option.map_eq_some_iff.mp (Option.mem_def.mp hother)
  exact (Prod.mk.inj hsame).1.symm

theorem mail_report (event : Event) (r : Registry) (id : Nat) :
    (r.report event id).mail = r.mail ++ r.addressed (r.reportsOf (fun _ => event) [id]) := by
  cases hc : r.connections.get? id with
  | none => simp [report, reportsOf, addressed, hc]
  | some c => simp [report, tell, reportsOf, addressed, hc]

/-- The registry with a connection closed, before its listener is told. -/
def shut (id : Nat) (r : Registry) : Registry :=
  match r.connections.get? id with
  | some c => { r with connections := r.connections.put id { c with closed := true } }
  | none => r

theorem close_eq {c : Connection} (hc : r.connections.get? id = some c) (hopen : c.closed = false) :
    r.close id = (r.shut id).tell c.listener .closed := by
  simp [close, shut, hc, hopen]

theorem get?_shut {c : Connection} (hc : r.connections.get? id = some c) :
    (r.shut id).connections.get? id = some { c with closed := true } := by
  simp [shut, hc, Table.get?_put]

theorem keys_close (r : Registry) (id : Nat) :
    (r.close id).connections.map (·.1) = r.connections.map (·.1) := by
  unfold close
  split
  · rename_i c hc
    split
    · rfl
    · show (r.connections.put id _).map (·.1) = _
      rw [Table.keys_put, hc]
      rfl
  · rfl

theorem keys_discard (r : Registry) (id : Nat) :
    (r.discard id).connections.map (·.1) = r.connections.map (·.1) := by
  unfold discard
  split
  · rename_i c hc
    show (r.connections.put id _).map (·.1) = _
    rw [Table.keys_put, hc]
    rfl
  · rfl

theorem listener_close (r : Registry) (id other : Nat) :
    ((r.close id).connections.get? other).map (·.listener) =
      (r.connections.get? other).map (·.listener) := by
  rw [get?_close]
  cases r.connections.get? other with
  | none => rfl
  | some c =>
    simp only [Option.map_some]
    split <;> rfl

theorem mail_close (hopen : r.isClosed id = false) :
    (r.close id).mail = r.mail ++ r.addressed (r.reportsOf (fun _ => .closed) [id]) := by
  cases hc : r.connections.get? id with
  | none => simp [isClosed, hc] at hopen
  | some c =>
    rw [isClosed_of_get? hc] at hopen
    simp [close, tell, reportsOf, addressed, hc, hopen]

/-! ### Many connections, one after another -/

theorem get?_foldl_close (ids : List Nat) (r : Registry) (other : Nat) :
    (ids.foldl (fun r id => r.close id) r).connections.get? other =
      (r.connections.get? other).map fun c =>
        if other ∈ ids then { c with closed := true } else c := by
  induction ids generalizing r with
  | nil => simp
  | cons id ids ih =>
    rw [List.foldl_cons, ih, get?_close, Option.map_map]
    congr 1
    funext c
    by_cases hid : id = other
    · by_cases hother : other ∈ ids <;> simp [hid, hother]
    · by_cases hother : other ∈ ids <;> simp [hid, hother, Ne.symm hid]

theorem keys_foldl_close (ids : List Nat) (r : Registry) :
    (ids.foldl (fun r id => r.close id) r).connections.map (·.1) = r.connections.map (·.1) := by
  induction ids generalizing r with
  | nil => rfl
  | cons id ids ih => rw [List.foldl_cons, ih, keys_close]

theorem mail_foldl_close {ids : List Nat} (hids : ids.Nodup)
    (hopen : ∀ id ∈ ids, r.isClosed id = false) :
    (ids.foldl (fun r id => r.close id) r).mail =
      r.mail ++ r.addressed (r.reportsOf (fun _ => .closed) ids) := by
  induction ids generalizing r with
  | nil => simp [reportsOf, addressed]
  | cons id ids ih =>
    obtain ⟨hnew, hids⟩ := List.nodup_cons.mp hids
    obtain ⟨hid, hrest⟩ := List.forall_mem_cons.mp hopen
    have hsame : (r.close id).reportsOf (fun _ => .closed) ids = r.reportsOf (fun _ => .closed) ids := by
      refine List.filterMap_congr fun other _ => ?_
      rw [get?_close, Option.map_map]
      rfl
    have hleft : ∀ other ∈ ids, (r.close id).isClosed other = false := by
      intro other hother
      have hne : id ≠ other := fun heq => hnew (heq ▸ hother)
      have hclosed := hrest other hother
      unfold isClosed at hclosed ⊢
      rw [get?_close]
      cases hc : r.connections.get? other with
      | none => simp [hc] at hclosed
      | some c => simpa [hc, hne] using hclosed
    rw [List.foldl_cons, ih hids hleft, mail_close hid, hsame, addressed_congr (listener_close r id),
      reportsOf_cons r _ id ids, addressed_append, List.append_assoc]

end Registry

/-- Reports that are made on connections one after another, and change none of them. -/
theorem mail_foldl (bus : Bus) {f : Bus → Nat → Bus} {report : Connection → Event}
    (hf : ∀ after : Bus, after.connections = bus.connections → after.discovered = bus.discovered →
      ∀ id, (f after id).connections = bus.connections ∧ (f after id).discovered = bus.discovered ∧
        (f after id).mail = after.mail ++ bus.addressed (bus.reportsOf report [id]))
    (ids : List Nat) (after : Bus) (hconnections : after.connections = bus.connections)
    (hdiscovered : after.discovered = bus.discovered) :
    (ids.foldl f after).connections = bus.connections ∧
      (ids.foldl f after).mail = after.mail ++ bus.addressed (bus.reportsOf report ids) := by
  induction ids generalizing after with
  | nil => exact ⟨hconnections, by simp [Registry.reportsOf, Registry.addressed]⟩
  | cons id ids ih =>
    obtain ⟨hkept, hsame, hmail⟩ := hf after hconnections hdiscovered id
    obtain ⟨hrest, hlast⟩ := ih (f after id) hkept hsame
    refine ⟨hrest, ?_⟩
    rw [List.foldl_cons, hlast, hmail, Registry.reportsOf_cons _ _ id ids, Registry.addressed_append,
      List.append_assoc]

theorem toRegistry_closeAll (bus : Bus) :
    bus.closeAll.toRegistry =
      bus.openConnections.foldl (fun r id => r.close id) bus.toRegistry :=
  (List.foldl_hom Bus.toRegistry fun _ _ => rfl).symm

theorem reportAll_mail (event : Event) (bus : Bus) :
    (bus.reportAll event).connections = bus.connections ∧
      (bus.reportAll event).mail =
        bus.mail ++ bus.addressed (bus.reportsOf (fun _ => event) bus.openConnections) := by
  refine mail_foldl bus (fun after hconnections hdiscovered id => ?_) _ bus rfl rfl
  refine ⟨(Registry.connections_report event _ id).trans hconnections, hdiscovered, ?_⟩
  show (after.toRegistry.report event id).mail = _
  rw [Registry.mail_report]
  simp only [Registry.addressed, Registry.reportsOf, hconnections]

theorem announce_mail (servers : List String) (bus : Bus) :
    (bus.announce servers).connections = bus.connections ∧
      (bus.announce servers).mail = bus.mail ++ bus.addressed
        (bus.reportsOf (fun c => .discovered servers (knownServers c.servers servers))
          bus.openConnections) := by
  let announcing : Bus := { bus with discovered := servers }
  refine mail_foldl announcing (fun after hconnections hdiscovered id => ?_) _ announcing rfl rfl
  unfold reportServers
  cases hc : after.connections.get? id with
  | none =>
    have hnone : bus.connections.get? id = none := by rw [← hc, hconnections]
    exact ⟨hconnections, hdiscovered, by simp [Registry.reportsOf, Registry.addressed, announcing, hnone]⟩
  | some c =>
    have hsome : bus.connections.get? id = some c := by rw [← hc, hconnections]
    refine ⟨(Registry.connections_report _ _ id).trans hconnections, hdiscovered, ?_⟩
    show (after.toRegistry.report _ id).mail = _
    rw [Registry.mail_report]
    simp [Registry.reportsOf, Registry.addressed, announcing, hc, hsome, hdiscovered]

/-! ### What an exchange does to the connections -/

/-- What a bus lets others do.  Reports go to all open connections at once, and a connection is reported
as closed by closing it alone. -/
def Operation.IsOffered : Operation → Prop
  | .report _ _ => False
  | .reportAll event => event ≠ .closed
  | _ => True

/-- What is reported in an exchange, in order, with the connections that it is reported on. -/
def Exchange.reports (e : Exchange) : List (Nat × Event) :=
  match e.operation with
  | .close id => if e.before.isClosed id then [] else e.before.reportsOf (fun _ => .closed) [id]
  | .closeAll => e.before.reportsOf (fun _ => .closed) e.before.openConnections
  | .report event id => e.before.reportsOf (fun _ => event) [id]
  | .reportAll event => e.before.reportsOf (fun _ => event) e.before.openConnections
  | .announce servers =>
    e.before.reportsOf (fun c => .discovered servers (knownServers c.servers servers))
      e.before.openConnections
  | _ => []

/-- A connection is given up, by itself or with all that are open. -/
def Exchange.Closes (id : Nat) (e : Exchange) : Prop :=
  e.operation = .close id ∨ e.operation = .closeAll ∧ id ∈ e.before.openConnections

/-- The number of the connection that is made in an exchange. -/
def Exchange.made? (e : Exchange) : Option Nat :=
  match e.reply with
  | .connected (.ok id) => some id
  | _ => none

/-- The numbers of the connections that were made, in order. -/
def made (log : List Exchange) : List Nat := (log.filterMap (·.made?)).reverse

theorem made_cons (e : Exchange) (log : List Exchange) : made (e :: log) = made log ++ e.made?.toList := by
  unfold made
  cases h : e.made? <;> simp [h]

/-- What an exchange does to the connections of a bus. -/
inductive Exchange.Registers (e : Exchange) : Prop
  /-- Nothing is closed or made, but something may be reported. -/
  | keeps (hcloses : ∀ id, ¬e.Closes id) (hdiscard : ∀ id, e.operation ≠ .discard id)
      (hmade : e.made? = none) (hsilent : e.operation.IsOffered → ∀ id, (id, .closed) ∉ e.reports)
      (hconnections : e.after.connections = e.before.connections)
      (hmail : e.after.mail = e.before.mail ++ e.before.addressed e.reports)
  | enters {options : Options} {listener : Nat} (hoperation : e.operation = .finishConnect options listener)
      (hmade : e.made? = some e.before.nextId)
      (hafter : e.after.toRegistry = e.before.enter { servers := options.servers, listener })
  | closes {id : Nat} (hoperation : e.operation = .close id) (hmade : e.made? = none)
      (hafter : e.after.toRegistry = e.before.toRegistry.close id)
  | closesAll (hoperation : e.operation = .closeAll) (hmade : e.made? = none)
      (hafter : e.after.toRegistry =
        e.before.openConnections.foldl (fun r id => r.close id) e.before.toRegistry)
  | discards {id : Nat} (hoperation : e.operation = .discard id) (hmade : e.made? = none)
      (hafter : e.after.toRegistry = e.before.toRegistry.discard id)

theorem Exchange.Valid.registers (valid : e.Valid) : e.Registers := by
  obtain ⟨bus, operation, reply, after⟩ := e
  obtain ⟨rfl, rfl⟩ : (operation.perform bus).1 = reply ∧ (operation.perform bus).2 = after :=
    Prod.ext_iff.mp valid
  -- An operation that is not about connections.
  have hother {operation : Operation} {reply : Reply} {after : Bus}
      (hcloses : ∀ id, ¬(Exchange.mk bus operation reply after).Closes id)
      (hdiscard : ∀ id, operation ≠ .discard id)
      (hmade : (Exchange.mk bus operation reply after).made? = none)
      (hreports : (Exchange.mk bus operation reply after).reports = [])
      (h : after.toRegistry = bus.toRegistry) : (Exchange.mk bus operation reply after).Registers := by
    refine .keeps hcloses hdiscard hmade ?_ (congrArg Registry.connections h) ?_
    · simp [hreports]
    · simpa [hreports, Registry.addressed] using congrArg Registry.mail h
  cases operation with
  | beginConnect options files =>
    exact hother (by simp [Exchange.Closes]) (by simp) rfl rfl (toRegistry_beginConnect bus options files)
  | publish connection message =>
    exact hother (by simp [Exchange.Closes]) (by simp) rfl rfl (toRegistry_publish bus connection message)
  | subscribe connection pattern =>
    exact hother (by simp [Exchange.Closes]) (by simp) rfl rfl
      (toRegistry_subscribe bus connection pattern)
  | receive number first =>
    exact hother (by simp [Exchange.Closes]) (by simp) rfl rfl (toRegistry_receive bus number first)
  | finishConnect options listener =>
    have hafter := toRegistry_finishConnect bus options listener
    by_cases hfailing : 0 < bus.failing
    · rw [if_pos hfailing] at hafter
      refine hother (by simp [Exchange.Closes]) (by simp) ?_ rfl hafter
      simp [Operation.perform, Exchange.made?, finishConnect, hfailing]
    · rw [if_neg hfailing] at hafter
      refine .enters rfl ?_ hafter
      simp [Operation.perform, Exchange.made?, finishConnect, hfailing]
  | close id => exact .closes rfl rfl rfl
  | closeAll => exact .closesAll rfl rfl (toRegistry_closeAll bus)
  | discard id => exact .discards rfl rfl rfl
  | report event id =>
    exact .keeps (by simp [Exchange.Closes]) (by simp) rfl False.elim
      (Registry.connections_report event _ id) (Registry.mail_report event _ id)
  | reportAll event =>
    obtain ⟨hconnections, hmail⟩ := reportAll_mail event bus
    refine .keeps (by simp [Exchange.Closes]) (by simp) rfl (fun hoffered id hid => ?_) hconnections hmail
    obtain ⟨-, c, -, hclosed⟩ := Registry.mem_reportsOf.mp hid
    exact hoffered hclosed
  | announce servers =>
    obtain ⟨hconnections, hmail⟩ := announce_mail servers bus
    refine .keeps (by simp [Exchange.Closes]) (by simp) rfl (fun _ id hid => ?_) hconnections hmail
    obtain ⟨-, c, -, hclosed⟩ := Registry.mem_reportsOf.mp hid
    simp at hclosed
  | _ => exact hother (by simp [Exchange.Closes]) (by simp) rfl rfl rfl

theorem Exchange.Valid.keys (valid : e.Valid) (h : e.before.InOrder) :
    e.after.connections.map (·.1) = e.before.connections.map (·.1) ++ e.made?.toList := by
  cases valid.registers with
  | keeps _ _ hmade _ hconnections =>
    rw [hmade, hconnections]
    exact (List.append_nil _).symm
  | enters _ hmade hafter =>
    rw [hmade, hafter]
    exact Registry.keys_enter h _
  | closes _ hmade hafter =>
    rw [hmade, hafter, Registry.keys_close]
    exact (List.append_nil _).symm
  | closesAll _ hmade hafter =>
    rw [hmade, hafter, Registry.keys_foldl_close]
    exact (List.append_nil _).symm
  | discards _ hmade hafter =>
    rw [hmade, hafter, Registry.keys_discard]
    exact (List.append_nil _).symm

theorem Exchange.Valid.inOrder (valid : e.Valid) (h : e.before.InOrder) : e.after.InOrder := by
  cases hmade : e.made? with
  | none => exact h.of_keys (by simpa [hmade] using valid.keys h)
  | some id =>
    cases valid.registers with
    | enters _ _ hafter => exact hafter ▸ Registry.inOrder_enter h _
    | keeps _ _ hnone | closes _ hnone | closesAll _ hnone | discards _ hnone => simp [hnone] at hmade

theorem isClosed_of_mem_openConnections (h : bus.InOrder) (hid : id ∈ bus.openConnections) :
    bus.isClosed id = false :=
  Registry.isClosed_of_isOver ((Registry.mem_openConnections h).mp hid)

theorem Exchange.Valid.mail (valid : e.Valid) (h : e.before.InOrder) :
    e.after.mail = e.before.mail ++ e.before.addressed e.reports := by
  cases valid.registers with
  | keeps _ _ _ _ _ hmail => exact hmail
  | enters hoperation _ hafter =>
    rw [hafter, Exchange.reports, hoperation]
    exact (List.append_nil _).symm
  | @closes id hoperation _ hafter =>
    rw [hafter, Exchange.reports, hoperation]
    dsimp only
    split
    · rename_i hclosed
      unfold Registry.isClosed at hclosed
      unfold Registry.close
      split
      · rename_i c hc
        rw [hc] at hclosed
        rw [if_pos hclosed]
        exact (List.append_nil _).symm
      · exact (List.append_nil _).symm
    · rename_i hopen
      exact Registry.mail_close (by simpa using hopen)
  | closesAll hoperation _ hafter =>
    rw [hafter, Exchange.reports, hoperation]
    exact Registry.mail_foldl_close h.nodup_openConnections fun id =>
      isClosed_of_mem_openConnections h
  | discards hoperation _ hafter =>
    rw [hafter, Exchange.reports, hoperation, Registry.mail_discard]
    exact (List.append_nil _).symm

theorem Exchange.nodup_reports (h : e.before.InOrder) : e.reports.Nodup := by
  unfold Exchange.reports
  split
  · split
    · exact List.nodup_nil
    · exact Registry.nodup_reportsOf (List.nodup_singleton _)
  · exact Registry.nodup_reportsOf h.nodup_openConnections
  · exact Registry.nodup_reportsOf (List.nodup_singleton _)
  · exact Registry.nodup_reportsOf h.nodup_openConnections
  · exact Registry.nodup_reportsOf h.nodup_openConnections
  · exact List.nodup_nil

/-- Nothing is reported on a connection that is closed. -/
theorem Exchange.isClosed_of_mem_reports (h : e.before.InOrder) (hoffered : e.operation.IsOffered)
    {event : Event} (hmem : (id, event) ∈ e.reports) : e.before.isClosed id = false := by
  unfold Exchange.reports at hmem
  split at hmem
  · split at hmem
    · simp at hmem
    · rename_i other _ hopen
      obtain ⟨hid, -⟩ := Registry.mem_reportsOf.mp hmem
      obtain rfl := List.mem_singleton.mp hid
      simpa using hopen
  · exact isClosed_of_mem_openConnections h (Registry.mem_reportsOf.mp hmem).1
  · rename_i hoperation
    rw [hoperation] at hoffered
    exact hoffered.elim
  · exact isClosed_of_mem_openConnections h (Registry.mem_reportsOf.mp hmem).1
  · exact isClosed_of_mem_openConnections h (Registry.mem_reportsOf.mp hmem).1
  · simp at hmem

theorem Exchange.Valid.closed_mem_reports_iff (valid : e.Valid) (h : e.before.InOrder)
    (hoffered : e.operation.IsOffered) {c : Connection} (hc : e.before.connections.get? id = some c) :
    (id, .closed) ∈ e.reports ↔ e.Closes id ∧ c.closed = false := by
  have hclosed := Registry.isClosed_of_get? hc
  constructor
  · intro hmem
    have hopen := Exchange.isClosed_of_mem_reports h hoffered hmem
    refine ⟨?_, hclosed.symm.trans hopen⟩
    cases valid.registers with
    | keeps _ _ _ hsilent => exact absurd hmem (hsilent hoffered id)
    | enters hoperation | discards hoperation => simp [Exchange.reports, hoperation] at hmem
    | @closes other hoperation =>
      left
      rw [Exchange.reports, hoperation] at hmem
      dsimp only at hmem
      split at hmem
      · simp at hmem
      · obtain ⟨hid, -⟩ := Registry.mem_reportsOf.mp hmem
        rw [hoperation, List.mem_singleton.mp hid]
    | closesAll hoperation =>
      right
      rw [Exchange.reports, hoperation] at hmem
      exact ⟨hoperation, (Registry.mem_reportsOf.mp hmem).1⟩
  · rintro ⟨hoperation | ⟨hoperation, hid⟩, hopen⟩
    · rw [Exchange.reports, hoperation]
      dsimp only
      rw [if_neg (by simp [hclosed, hopen])]
      exact Registry.mem_reportsOf.mpr ⟨List.mem_singleton_self id, c, hc, rfl⟩
    · rw [Exchange.reports, hoperation]
      exact Registry.mem_reportsOf.mpr ⟨hid, c, hc, rfl⟩

/-- What an exchange does to a connection. -/
theorem Exchange.Valid.connection (valid : e.Valid) (h : e.before.InOrder) {c : Connection}
    (hc : e.before.connections.get? id = some c) :
    ∃ c', e.after.connections.get? id = some c' ∧ c'.listener = c.listener ∧
      (c'.closed = true ↔ c.closed = true ∨ e.Closes id) ∧
      (c'.discarded = true ↔ c.discarded = true ∨ e.operation = .discard id) := by
  cases valid.registers with
  | keeps hcloses hdiscard _ _ hconnections =>
    rw [hconnections]
    exact ⟨c, hc, rfl, by simp [hcloses], by simp [hdiscard]⟩
  | enters hoperation _ hafter =>
    have hne : e.before.nextId ≠ id := by
      rintro rfl
      simp [h.get?_nextId] at hc
    refine ⟨c, ?_, rfl, by simp [Exchange.Closes, hoperation], by simp [hoperation]⟩
    rw [hafter, Registry.get?_enter, if_neg hne, hc]
  | @closes other hoperation _ hafter =>
    refine ⟨if other = id then { c with closed := true } else c, ?_, ?_, ?_, ?_⟩
    · rw [hafter, Registry.get?_close, hc]
      rfl
    all_goals by_cases hid : other = id <;> simp [Exchange.Closes, hoperation, hid]
  | closesAll hoperation _ hafter =>
    refine ⟨if id ∈ e.before.openConnections then { c with closed := true } else c, ?_, ?_, ?_, ?_⟩
    · rw [hafter, Registry.get?_foldl_close, hc]
      rfl
    all_goals by_cases hid : id ∈ e.before.openConnections <;> simp [Exchange.Closes, hoperation, hid]
  | @discards other hoperation _ hafter =>
    refine ⟨if other = id then { c with discarded := true } else c, ?_, ?_, ?_, ?_⟩
    · rw [hafter, Registry.get?_discard, hc]
      rfl
    all_goals by_cases hid : other = id <;> simp [Exchange.Closes, hoperation, hid]

end ClaimRelay.Bus
