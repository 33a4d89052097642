import ClaimRelay.Proofs.Bus.Reports

/-! How the connections of a bus are closed.  `Tracked` holds of a connection in every run: it is closed if
it was given up since it was made, and its listener was told so once.  A closed connection refuses what is
asked of it, ends the readers that begin to look for a message and reports nothing more. -/

namespace ClaimRelay.Bus

variable {start bus : Bus} {e : Exchange} {log later earlier since : List Exchange}
  {capacity : Capacity} {id listener : Nat} {c : Connection}

theorem Run.inOrder (run : Run start log bus) (h : start.InOrder) : bus.InOrder := by
  induction run with
  | start => exact h
  | exchange _ valid ih => exact valid.inOrder ih

theorem inOrder_ofCapacity (capacity : Capacity) : (ofCapacity capacity).InOrder := rfl

theorem Run.keys (run : Run (ofCapacity capacity) log bus) :
    bus.connections.map (·.1) = made log := by
  induction run with
  | start => rfl
  | exchange run valid ih =>
    rw [valid.keys (run.inOrder (inOrder_ofCapacity capacity)), ih, made_cons]

/-! ### One connection -/

/-- What holds of a connection, where `since` is what happened since it was made. -/
structure Tracked (id listener : Nat) (since : List Exchange) (bus : Bus) (c : Connection) : Prop where
  held : bus.connections.get? id = some c
  listener : c.listener = listener
  closed : c.closed = true ↔ ∃ d ∈ since, d.Closes id
  discarded : c.discarded = true ↔ ∃ d ∈ since, d.operation = .discard id
  told : (since.flatMap (·.reports)).count (id, .closed) = c.closed.toNat

theorem Exchange.Valid.tracked {options : Options} (valid : e.Valid)
    (hoperation : e.operation = .finishConnect options listener)
    (hreply : e.reply = .connected (.ok id)) : ∃ c, Tracked id listener [] e.after c := by
  have hmade : e.made? = some id := by rw [Exchange.made?, hreply]
  cases valid.registers with
  | @enters options' listener' hoperation' hmade' hafter =>
    obtain ⟨rfl, rfl⟩ := Operation.finishConnect.inj (hoperation.symm.trans hoperation')
    obtain rfl : e.before.nextId = id := Option.some.inj (hmade'.symm.trans hmade)
    refine ⟨{ servers := options.servers, listener }, ?_, rfl, by simp, by simp, rfl⟩
    rw [hafter, Registry.get?_enter, if_pos rfl]
  | keeps _ _ hnone | closes _ hnone | closesAll _ hnone | discards _ hnone => simp [hnone] at hmade

theorem Tracked.exchange (h : Tracked id listener since e.before c) (valid : e.Valid)
    (hinOrder : e.before.InOrder) (hoffered : e.operation.IsOffered) :
    ∃ c', Tracked id listener (e :: since) e.after c' := by
  obtain ⟨c', hc', hlistener, hclosed, hdiscarded⟩ := valid.connection hinOrder h.held
  refine ⟨c', hc', hlistener.trans h.listener, ?_, ?_, ?_⟩
  · rw [hclosed, h.closed, List.exists_mem_cons_iff, or_comm]
  · rw [hdiscarded, h.discarded, List.exists_mem_cons_iff, or_comm]
  · -- Closing is reported in this exchange if it closes the connection and none before did.
    have hreports := valid.closed_mem_reports_iff hinOrder hoffered h.held
    have honce := List.nodup_iff_count_le_one.mp (Exchange.nodup_reports hinOrder) (id, .closed)
    have hcount : e.reports.count (id, .closed) + c.closed.toNat = c'.closed.toNat := by
      by_cases hmem : (id, Event.closed) ∈ e.reports
      · obtain ⟨hcloses, hopen⟩ := hreports.mp hmem
        have hpos := List.count_pos_iff.mpr hmem
        rw [hopen, hclosed.mpr (.inr hcloses), Bool.toNat_false, Bool.toNat_true]
        omega
      · rw [List.count_eq_zero.mpr hmem, Nat.zero_add]
        congr 1
        rw [Bool.eq_iff_iff, hclosed]
        constructor
        · exact Or.inl
        · rintro (hc | hcloses)
          · exact hc
          · by_contra hopen
            exact hmem (hreports.mpr ⟨hcloses, by simpa using hopen⟩)
    rw [List.flatMap_cons, List.count_append, h.told]
    exact hcount

theorem Run.tracked (run : Run start since bus) (h : Tracked id listener [] start c)
    (hinOrder : start.InOrder) (hoffered : ∀ d ∈ since, d.operation.IsOffered) :
    ∃ c', Tracked id listener since bus c' := by
  induction run with
  | start => exact ⟨c, h⟩
  | exchange run valid ih =>
    obtain ⟨hlast, hrest⟩ := List.forall_mem_cons.mp hoffered
    obtain ⟨c', hc'⟩ := ih hrest
    exact hc'.exchange valid (run.inOrder hinOrder) hlast

theorem Tracked.isClosed (h : Tracked id listener since bus c) :
    bus.isClosed id = true ↔ ∃ d ∈ since, d.Closes id := by
  rw [Registry.isClosed_of_get? h.held, h.closed]

theorem Tracked.isOver (h : Tracked id listener since bus c) :
    bus.isOver id = true ↔ ∃ d ∈ since, d.Closes id ∨ d.operation = .discard id := by
  have hover : bus.isOver id = true ↔ c.closed = true ∨ c.discarded = true := by
    simp [Registry.isOver, h.held, Connection.isOpen, or_iff_not_imp_left]
  rw [hover, h.closed, h.discarded]
  constructor
  · rintro (⟨d, hd, hcloses⟩ | ⟨d, hd, hdiscards⟩)
    · exact ⟨d, hd, .inl hcloses⟩
    · exact ⟨d, hd, .inr hdiscards⟩
  · rintro ⟨d, hd, hcloses | hdiscards⟩
    · exact .inl ⟨d, hd, hcloses⟩
    · exact .inr ⟨d, hd, hdiscards⟩

/-! ### At the moment of closing -/

/-- The listener of a connection is told in an exchange, among others before it and after it, that it is
closed; at this moment the connection is closed already. -/
def Exchange.TellsClosed (id : Nat) (e : Exchange) : Prop :=
  ∃ (front back : List Nat) (c : Connection),
    let told := (front.foldl (fun r id => r.close id) e.before.toRegistry).shut id
    told.connections.get? id = some c ∧ told.isClosed id = true ∧
      e.after.toRegistry =
        back.foldl (fun r id => r.close id) (told.tell c.listener .closed)

theorem Exchange.Valid.tellsClosed (valid : e.Valid) (h : e.before.InOrder)
    (hc : e.before.connections.get? id = some c) (hopen : c.closed = false)
    (hcloses : e.Closes id) : e.TellsClosed id := by
  -- The connections that are closed in the exchange, with this one among them for the first time.
  obtain ⟨front, back, hfront, hafter⟩ : ∃ front back : List Nat, id ∉ front ∧
      e.after.toRegistry =
        (front ++ id :: back).foldl (fun r id => r.close id) e.before.toRegistry := by
    cases valid.registers with
    | keeps hnone => exact absurd hcloses (hnone id)
    | enters hoperation | discards hoperation => simp [Exchange.Closes, hoperation] at hcloses
    | closes hoperation _ hafter =>
      obtain rfl : _ = id := by simpa [Exchange.Closes, hoperation] using hcloses
      exact ⟨[], [], List.not_mem_nil, hafter⟩
    | closesAll hoperation _ hafter =>
      have hid : id ∈ e.before.openConnections := by
        simpa [Exchange.Closes, hoperation] using hcloses
      obtain ⟨front, back, hids⟩ := List.append_of_mem hid
      refine ⟨front, back, ?_, hids ▸ hafter⟩
      have hnodup := h.nodup_openConnections
      rw [hids, List.nodup_append] at hnodup
      exact fun hmem => hnodup.2.2 id hmem id (.head _) rfl
  have hget : (front.foldl (fun r id => r.close id) e.before.toRegistry).connections.get? id =
      some c := by
    rw [Registry.get?_foldl_close, hc, Option.map_some, if_neg hfront]
  have htold := Registry.get?_shut hget
  refine ⟨front, back, { c with closed := true }, htold, Registry.isClosed_of_get? htold, ?_⟩
  rw [hafter, List.foldl_append, List.foldl_cons, Registry.close_eq hget hopen]

/-! ### After closing -/

/-- What an exchange comes to if the connection was given up, where `between` is what happened since it was
made. -/
structure Exchange.Refuses (id : Nat) (between : List Exchange) (e : Exchange) : Prop where
  silent : ∀ event, (id, event) ∉ e.reports
  publish : ∀ message, e.operation = .publish id message →
    e.reply = .published (.error .connectionClosed) ∧ e.after = e.before
  subscribe : ∀ pattern, e.operation = .subscribe id pattern →
    e.reply = .subscribed (.error .connectionClosed) ∧ e.after = e.before
  receive : ∀ {recent s earlier pattern number}, between = recent ++ s :: earlier →
    s.operation = .subscribe id pattern → s.reply = .subscribed (.ok number) →
    e.operation = .receive number ∨ e.operation = .wait number →
      e.reply = .received .ended ∧ e.after = e.before
  gone : id ∉ e.after.openConnections

theorem Exchange.Valid.ended {number : Nat} {first : Branch} (valid : e.Valid)
    (hoperation : e.operation = .receive number first) (hreply : e.reply = .received .ended) :
    e.after = e.before := by
  obtain ⟨result, hresult, hreceives⟩ := valid.receive hoperation
  obtain rfl : result = .ended := by simpa [hreply, eq_comm] using hresult
  generalize e.after = after at hreceives
  cases hreceives <;> rfl

theorem Tracked.refuses (run : Run start since e.before) (h : Tracked id listener since e.before c)
    (valid : e.Valid) (hinOrder : e.before.InOrder) (hoffered : e.operation.IsOffered)
    (hclosed : e.before.isClosed id = true) : e.Refuses id since where
  silent event hmem := by
    simp [Exchange.isClosed_of_mem_reports hinOrder hoffered hmem] at hclosed
  publish message hoperation := by
    have hresult : e.operation.perform e.before = (e.reply, e.after) := valid
    rw [hoperation, Operation.perform, Bus.publish, if_pos hclosed] at hresult
    exact ⟨(Prod.mk.inj hresult).1.symm, (Prod.mk.inj hresult).2.symm⟩
  subscribe pattern hoperation := by
    have hresult : e.operation.perform e.before = (e.reply, e.after) := valid
    rw [hoperation, Operation.perform, Bus.subscribe, if_pos hclosed] at hresult
    exact ⟨(Prod.mk.inj hresult).1.symm, (Prod.mk.inj hresult).2.symm⟩
  receive := by
    rintro recent s earlier pattern number rfl hsubscribe hnumber hoperation
    obtain ⟨-, hs, hrecent⟩ := run.cut
    have hreader := hrecent.reader (hs.reader hsubscribe hnumber)
    rcases hoperation with hoperation | hoperation
    · have hended := hreader.ended valid hoperation (.inl ⟨rfl, Registry.isOver_of_isClosed hclosed⟩)
      exact ⟨hended, valid.ended hoperation hended⟩
    · obtain ⟨hreply, hafter⟩ := valid.wait hoperation
      rw [hreply, hreader.canWait hclosed]
      exact ⟨rfl, hafter⟩
  gone := by
    obtain ⟨c', hc'⟩ := h.exchange valid hinOrder hoffered
    rw [Registry.mem_openConnections (valid.inOrder hinOrder), Bool.eq_false_iff, not_not, hc'.isOver]
    obtain ⟨d, hd, hcloses⟩ := h.isClosed.mp hclosed
    exact ⟨d, .tail _ hd, .inl hcloses⟩

/-- Closing a connection is about no other one, and leaves the messages and the subscriptions alone. -/
structure Exchange.Local (id : Nat) (e : Exchange) : Prop where
  others : ∀ other, other ≠ id →
    e.after.connections.get? other = e.before.connections.get? other
  rest : e.after = { e.before with toRegistry := e.after.toRegistry }
  reports : ∀ report ∈ e.reports, report.1 = id
  receive : ∀ {number s first}, e.before.subscriptions.get? number = some s → s.connection ≠ id →
    (e.after.receive number first).1 = (e.before.receive number first).1

theorem Exchange.Valid.isLocal (valid : e.Valid) (hoperation : e.operation = .close id) :
    e.Local id := by
  have hafter : e.after = e.before.close id := by
    have hresult : e.operation.perform e.before = (e.reply, e.after) := valid
    rw [hoperation] at hresult
    exact (Prod.mk.inj hresult).2.symm
  have hothers : ∀ other, other ≠ id →
      e.after.connections.get? other = e.before.connections.get? other := by
    intro other hother
    rw [hafter]
    show (e.before.toRegistry.close id).connections.get? other = _
    rw [Registry.get?_close]
    simp [Ne.symm hother]
  refine ⟨hothers, by rw [hafter, Bus.close], ?_, ?_⟩
  · rintro ⟨other, event⟩ hreport
    rw [Exchange.reports, hoperation] at hreport
    dsimp only at hreport
    split at hreport
    · simp at hreport
    · exact List.mem_singleton.mp (Registry.mem_reportsOf.mp hreport).1
  · intro number s first hs hne
    have hover : e.after.isOver s.connection = e.before.isOver s.connection := by
      rw [Registry.isOver, Registry.isOver, hothers _ hne]
    have hclosed : e.after.isClosed s.connection = e.before.isClosed s.connection := by
      rw [Registry.isClosed, Registry.isClosed, hothers _ hne]
    have hsubscriptions : e.after.subscriptions = e.before.subscriptions := by rw [hafter]; rfl
    have hchannel : e.after.channel = e.before.channel := by rw [hafter]; rfl
    have hfound : e.after.found? s first = e.before.found? s first := by
      simp only [Bus.found?, hover, hclosed, hchannel]
    simp only [Bus.receive, hsubscriptions, hs, hover, hfound]
    split
    · rfl
    · split <;> rfl

/-! ### The protocol -/

/-- How connections are closed, in every run of what a bus lets others do.  Listeners get mail about what is
reported on their connections.  The open connections are those that were made and are not over, in the order
in which they were made.  Closing one leaves the others alone.  A connection is closed from the first time
that it is given up; its listener is told so then and at no other time, when the connection is closed already;
and from then on it refuses what is asked of it, ends the readers that begin to look for a message and reports
nothing. -/
theorem Run.close_protocol (run : Run (ofCapacity capacity) log bus)
    (hoffered : ∀ e ∈ log, e.operation.IsOffered) :
    (∀ e ∈ log, e.after.mail = e.before.mail ++ e.before.addressed e.reports) ∧
    bus.openConnections = (made log).filter (fun id => !bus.isOver id) ∧
    (made log).Pairwise (· < ·) ∧
    (∀ e ∈ log, ∀ id, e.operation = .close id → e.Local id) ∧
    ∀ {later m earlier options listener id}, log = later ++ m :: earlier →
      m.operation = .finishConnect options listener → m.reply = .connected (.ok id) →
      (bus.isOver id = true ↔ ∃ d ∈ later, d.Closes id ∨ d.operation = .discard id) ∧
      (bus.connections.get? id).map (·.listener) = some listener ∧
      (later.flatMap (·.reports)).count (id, .closed) = (bus.isClosed id).toNat ∧
      ∀ {recent e between}, later = recent ++ e :: between →
        (e.before.isClosed id = true ↔ ∃ d ∈ between, d.Closes id) ∧
        ((id, .closed) ∈ e.reports ↔ e.Closes id ∧ ∀ d ∈ between, ¬d.Closes id) ∧
        ((id, .closed) ∈ e.reports → e.TellsClosed id) ∧
        ((∃ d ∈ between, d.Closes id) → e.Refuses id between) := by
  have hinOrder := inOrder_ofCapacity capacity
  have hmade : (made log).Pairwise (· < ·) := by
    rw [← run.keys, run.inOrder hinOrder]
    exact List.pairwise_lt_range'
  refine ⟨?_, ?_, hmade, ?_, ?_⟩
  · intro e he
    obtain ⟨later, earlier, rfl⟩ := List.append_of_mem he
    obtain ⟨hbefore, valid, -⟩ := run.cut
    exact valid.mail (hbefore.inOrder hinOrder)
  · rw [Registry.openConnections_eq (run.inOrder hinOrder), run.keys]
  · intro e he id hoperation
    obtain ⟨later, earlier, rfl⟩ := List.append_of_mem he
    exact run.cut.2.1.isLocal hoperation
  · rintro later m earlier options listener id rfl hoperation hreply
    obtain ⟨hbefore, hm, hlater⟩ := run.cut
    obtain ⟨-, hoffered⟩ := List.forall_mem_append.mp hoffered |>.symm
    obtain ⟨c, hc⟩ := hm.tracked hoperation hreply
    have hmadeInOrder := hm.inOrder (hbefore.inOrder hinOrder)
    obtain ⟨c', hc'⟩ := hlater.tracked hc hmadeInOrder hoffered
    refine ⟨hc'.isOver, by rw [hc'.held, Option.map_some, hc'.listener], ?_, ?_⟩
    · rw [hc'.told, Registry.isClosed_of_get? hc'.held]
    · rintro recent e between rfl
      obtain ⟨hbetween, he, -⟩ := hlater.cut
      obtain ⟨-, hrest⟩ := List.forall_mem_append.mp hoffered
      obtain ⟨hlast, hearly⟩ := List.forall_mem_cons.mp hrest
      obtain ⟨d, hd⟩ := hbetween.tracked hc hmadeInOrder hearly
      have hbeforeInOrder := hbetween.inOrder hmadeInOrder
      have hreports := he.closed_mem_reports_iff hbeforeInOrder hlast hd.held
      refine ⟨hd.isClosed, ?_, fun hmem => ?_, fun hcloses => ?_⟩
      · rw [hreports, ← Bool.not_eq_true, hd.closed, not_exists]
        simp only [not_and]
      · obtain ⟨hcloses, hopen⟩ := hreports.mp hmem
        exact he.tellsClosed hbeforeInOrder hd.held hopen hcloses
      · exact hd.refuses hbetween he hbeforeInOrder hlast (hd.isClosed.mpr hcloses)

/-- A connection is given up by itself, with all others, and by itself again.  Its listener is told once,
and a reader that looks for it then does not get the message that is there. -/
theorem Run.closed_three_times : ∃ r between m bus,
    Run (ofCapacity .standard) (r :: between ++ m :: []) bus ∧ m.reply = .connected (.ok 1) ∧
      ((r :: between).filter (·.operation matches .close 1 | .closeAll)).length = 3 ∧
      ((r :: between).flatMap (·.reports)).count (1, .closed) = 1 ∧
      r.operation = .receive 1 ∧ r.reply = .received .ended ∧ bus.published = 1 := by
  obtain ⟨r, between, recent, s, early, c, m, bus, run, hoffered, hm, hreply, hcalls, hclosed, hbetween, hs,
      hnumber, hc, hcloses, hr, hpublished⟩ :
      ∃ r between recent s early c m bus,
        Run (ofCapacity .standard) (r :: between ++ m :: []) bus ∧
        (∀ e ∈ r :: between ++ m :: [], e.operation.IsOffered) ∧
        m.operation = .finishConnect { servers := ["bus://a"] } 7 ∧ m.reply = .connected (.ok 1) ∧
        ((r :: between).filter (·.operation matches .close 1 | .closeAll)).length = 3 ∧
        bus.isClosed 1 = true ∧ between = recent ++ s :: early ∧ s.operation = .subscribe 1 "a.*" ∧
        s.reply = .subscribed (.ok 1) ∧ c ∈ between ∧ c.operation = .close 1 ∧
        r.operation = .receive 1 ∧ bus.published = 1 :=
    ⟨_, [_, _, _, _, _, _], [_, _, _, _], _, [_], _, _, _,
      (((((((Run.start.perform (.finishConnect { servers := ["bus://a"] } 7)).perform
        (.finishConnect { servers := ["bus://b"] } 8)).perform (.subscribe 1 "a.*")).perform
          (.publish 2 ⟨"a.1", []⟩)).perform (.close 1)).perform .closeAll).perform (.close 1)).perform
            (.receive 1),
      by simp [Operation.IsOffered], rfl, rfl, rfl, rfl, rfl, rfl, rfl, .head _, rfl, rfl, rfl⟩
  obtain ⟨-, -, -, -, hconnections⟩ := run.close_protocol hoffered
  obtain ⟨-, -, hcount, hexchanges⟩ := hconnections rfl hm hreply
  obtain ⟨-, -, -, hrefuses⟩ := @hexchanges [] r between rfl
  have hended := ((hrefuses ⟨c, hc, .inl hcloses⟩).receive hbetween hs hnumber (.inl hr)).1
  rw [hclosed] at hcount
  exact ⟨r, between, m, bus, run, hreply, hcalls, hcount, hr, hended, hpublished⟩

end ClaimRelay.Bus
