import ClaimRelay.Proofs.Bus.Closing

/-! What readers receive on the whole.  A reader that waits when its connection is closed may look for a
message before it sees that there is nothing more to come.  So it may receive one message after that, even
one that is published later, but not two.  With this the delivery law is stated for every run. -/

namespace ClaimRelay.Bus

variable {start bus : Bus} {e c : Exchange} {log later earlier since recent between : List Exchange}
  {number id first : Nat} {pattern : String} {capacity : Capacity}

/-! ### Readers that wait -/

/-- What the reader of a subscription is told in an exchange. -/
def Exchange.told? (number : Nat) (e : Exchange) : Option Received :=
  match e.operation, e.reply with
  | .receive subscription _, .received received | .wait subscription, .received received =>
    if subscription = number then some received else none
  | _, _ => none

/-- Whether the reader of a subscription waits: it was told last that there is nothing yet. -/
def waits (number : Nat) (log : List Exchange) : Bool :=
  log.findSome? (·.told? number) = some .pending

/-- On a closed connection only readers that wait look for a message before they look for the end. -/
def Orderly : List Exchange → Prop
  | [] => True
  | e :: log =>
    (∀ number, e.operation = .receive number .message →
      e.before.canWait number = true ∨ waits number log = true) ∧ Orderly log

theorem waits_of_told {received : Received} (h : e.told? number = some received) :
    waits number (e :: log) = decide (received = .pending) := by
  simp [waits, h]

theorem waits_of_silent (h : e.told? number = none) : waits number (e :: log) = waits number log := by
  simp [waits, h]

theorem Exchange.told?_eq_none (hreceive : ∀ branch, e.operation ≠ .receive number branch)
    (hwait : e.operation ≠ .wait number) : e.told? number = none := by
  obtain ⟨before, operation, reply, after⟩ := e
  unfold told?
  split
  · rename_i subscription branch received hoperation hreply
    rw [if_neg]
    rintro rfl
    exact hreceive _ hoperation
  · rename_i subscription received hoperation hreply
    rw [if_neg]
    rintro rfl
    exact hwait hoperation
  · rfl

/-- A reader on a closed connection that receives a message waits no longer, and it does not begin to wait
again. -/
theorem Reader.late_step (h : Reader number id pattern first since e.before) (valid : e.Valid)
    (hclosed : e.before.isClosed id = true)
    (horderly : e.operation = .receive number .message →
      e.before.canWait number = true ∨ waits number log = true) :
    (e.received? number).toList.length + (waits number (e :: log)).toNat ≤ (waits number log).toNat := by
  by_cases hreceive : ∃ branch, e.operation = .receive number branch
  · obtain ⟨branch, hoperation⟩ := hreceive
    obtain ⟨result, hreply, hreceives⟩ := valid.receive hoperation
    have htold : e.told? number = some result := by simp [Exchange.told?, hoperation, hreply]
    rw [waits_of_told htold]
    generalize e.after = after at hreceives
    cases hreceives with
    | gone | finished => simp [Exchange.received?, hoperation, hreply]
    | @message s place message hs hfound =>
      obtain ⟨-, cursor, hs', -⟩ := h.held.resolve_left fun hgone => by simp [hgone.2] at hs
      obtain rfl := Option.some.inj (hs'.symm.trans hs)
      rcases (found?_reaches hfound).1 with hopen | ⟨rfl, -⟩
      · simp [Registry.isOver_of_isClosed hclosed] at hopen
      · have hwaits : waits number log = true := by
          simpa [h.canWait hclosed] using horderly hoperation
        simp [Exchange.received?, hoperation, hreply, hwaits]
    | @pending s hs hopen =>
      obtain ⟨-, cursor, hs', -⟩ := h.held.resolve_left fun hgone => by simp [hgone.2] at hs
      obtain rfl := Option.some.inj (hs'.symm.trans hs)
      simp [Registry.isOver_of_isClosed hclosed] at hopen
  · rw [not_exists] at hreceive
    rw [Exchange.received?_eq_none hreceive, Option.toList_none, List.length_nil, Nat.zero_add]
    by_cases hwait : e.operation = .wait number
    · have hreply := (valid.wait hwait).1
      rw [h.canWait hclosed] at hreply
      have htold : e.told? number = some .ended := by simp [Exchange.told?, hwait, hreply]
      rw [waits_of_told htold]
      exact Nat.zero_le _
    · have hsilent := Exchange.told?_eq_none hreceive hwait
      exact Nat.le_of_eq (congrArg Bool.toNat (waits_of_silent hsilent))

/-- A connection that was made is still there, and closed if it was. -/
theorem Run.held (run : Run start log bus) (h : start.InOrder) {x : Connection}
    (hx : start.connections.get? id = some x) :
    ∃ y, bus.connections.get? id = some y ∧ (x.closed = true → y.closed = true) := by
  induction run with
  | start => exact ⟨x, hx, fun hclosed => hclosed⟩
  | exchange run valid ih =>
    obtain ⟨y, hy, hkept⟩ := ih
    obtain ⟨z, hz, -, hclosed, -⟩ := valid.connection (run.inOrder h) hy
    exact ⟨z, hz, fun hx => hclosed.mpr (.inl (hkept hx))⟩

theorem Exchange.Valid.subscribed_held (valid : e.Valid) (hoperation : e.operation = .subscribe id pattern)
    (hreply : e.reply = .subscribed (.ok number)) : ∃ x, e.after.connections.get? id = some x := by
  rcases hsubscribe : e.before.subscribe id pattern with ⟨result, bus⟩
  obtain ⟨hresult, hbus⟩ : Reply.subscribed result = e.reply ∧ bus = e.after := by
    simpa [Exchange.Valid, hoperation, Operation.perform, hsubscribe] using valid
  obtain rfl : result = .ok number := by simpa [hreply] using hresult
  obtain ⟨hopen, -, hafter⟩ := subscribe_ok hsubscribe
  rw [← hbus, hafter]
  unfold Registry.isClosed at hopen
  split at hopen
  · exact ⟨_, ‹_›⟩
  · simp at hopen

/-- After its connection is closed a reader receives at most one message, if it waits then. -/
theorem Run.late (run : Run start (recent ++ c :: between) bus) (hinOrder : start.InOrder)
    (hmade : Reader number id pattern first [] start) {x : Connection}
    (hx : c.after.connections.get? id = some x) (hclosed : x.closed = true)
    (horderly : Orderly (recent ++ c :: between ++ log)) :
    (received number recent).length + (waits number (recent ++ c :: between ++ log)).toNat ≤
      (waits number (c :: between ++ log)).toNat := by
  induction recent generalizing bus with
  | nil => simp [received]
  | cons e recent ih =>
    cases run with
    | exchange run valid =>
      obtain ⟨hbefore, hc, hlater⟩ := run.cut
      obtain ⟨y, hy, hkept⟩ := hlater.held (hc.inOrder (hbefore.inOrder hinOrder)) hx
      have hover : e.before.isClosed id = true := (Registry.isClosed_of_get? hy).trans (hkept hclosed)
      have hrest := ih run horderly.2
      have hstep : (e.received? number).toList.length +
          (waits number (e :: (recent ++ c :: between ++ log))).toNat ≤
            (waits number (recent ++ c :: between ++ log)).toNat :=
        (run.reader hmade).late_step valid hover (horderly.1 number)
      rw [received_cons, List.length_append]
      show _ + (waits number (e :: (recent ++ c :: between ++ log))).toNat ≤ _
      omega

/-! ### The delivery law -/

/-- The delivery law of a bus, for every run.  A publish that is refused changes nothing, and all others are
counted.  What the reader of a subscription receives are messages that were published after the subscription
was made and which its pattern covers, in order and each once.  It is told that nothing more will come only
when its connection is over or it was given up, and then it is, unless it waits already and looks for a
message first.  It goes past a message that is covered and not received only if as many later ones as the
channel keeps were published before.  After its connection is closed it receives at most one message, and
only if it waits then. -/
theorem Run.delivery_law (run : Run (ofCapacity capacity) log bus) :
    bus.published = (sent log).length ∧
    (∀ e ∈ log, ∀ {reason}, e.reply = .published (.error reason) → e.after = e.before) ∧
    ∀ {later e earlier id pattern number}, log = later ++ e :: earlier →
      e.operation = .subscribe id pattern → e.reply = .subscribed (.ok number) →
        (received number later).Sublist ((sent later).filter (Subject.isMatch pattern ·.subject)) ∧
        (places number later).Pairwise (· < ·) ∧
        (places number later).map ((sent log)[·]?) = (received number later).map some ∧
        (∀ {recent r between branch}, later = recent ++ r :: between →
          r.operation = .receive number branch →
          (r.reply = .received .ended →
            r.before.isOver id = true ∨ ∃ u ∈ between, u.operation = .unsubscribe number) ∧
          (branch = .closing ∧ r.before.isOver id = true ∨
            (∃ u ∈ between, u.operation = .unsubscribe number) → r.reply = .received .ended) ∧
          ∀ {place message}, (sent earlier).length ≤ place →
            (sent (between ++ e :: earlier))[place]? = some message →
            Subject.isMatch pattern message.subject = true → r.Passes number place →
              place ∈ places number between ∨
                place + capacity.kept < (sent (between ++ e :: earlier)).length) ∧
        (Orderly log → ∀ {recent c between}, later = recent ++ c :: between →
          c.after.isClosed id = true →
            (received number recent).length ≤ (waits number (c :: between ++ e :: earlier)).toNat) := by
  have hnew := inOrder_ofCapacity capacity
  refine ⟨run.length_sent.symm, fun e he reason hreply => ?_, ?_⟩
  · obtain ⟨later, earlier, rfl⟩ := List.append_of_mem he
    exact run.cut.2.1.refused hreply
  · rintro later e earlier id pattern number rfl hoperation hreply
    obtain ⟨hbefore, hvalid, hlater⟩ := run.cut
    have hmade := hvalid.reader hoperation hreply
    rw [← hbefore.length_sent] at hmade
    have htaken := (hlater.reader hmade).taken
    have hsilent : e.sent? = none := by simp [Exchange.sent?, hoperation]
    refine ⟨htaken.sublist run.getElem?_sent hsilent, htaken.ascending, ?_, ?_, ?_⟩
    · simpa only [run.getElem?_sent] using htaken.at_places
    · rintro recent r between branch rfl hreceive
      obtain ⟨hbetween, hr, -⟩ := hlater.cut
      have hreader := hbetween.reader hmade
      refine ⟨hreader.over_of_ended hr hreceive, hreader.ended hr hreceive,
        fun {place message} hfirst hsent hmatch hpasses => ?_⟩
      rw [List.append_assoc] at run
      have hrun : Run (ofCapacity capacity) (between ++ e :: earlier) r.before := run.cut.1
      have hcapacity : r.before.channel.capacity = capacity := hrun.history.2
      have hpassed := hreader.passes hr hpasses hfirst ⟨(hrun.getElem?_sent place).symm.trans hsent, hmatch⟩
      rw [Channel.Overtaken, hcapacity, ← hrun.length_sent] at hpassed
      exact hpassed
    · rintro horderly recent c between rfl hclosed
      obtain ⟨hbetween, hc, -⟩ := hlater.cut
      have hinOrder := hvalid.inOrder (hbefore.inOrder hnew)
      obtain ⟨x, hx⟩ := hvalid.subscribed_held hoperation hreply
      obtain ⟨y, hy, -⟩ := (hbetween.exchange hc).held hinOrder hx
      have hlate := hlater.late hinOrder hmade hy ((Registry.isClosed_of_get? hy).symm.trans hclosed) horderly
      exact Nat.le_of_add_right_le hlate

/-- A channel keeps two messages.  Four are published before a reader goes on, which misses the first of the
three that are meant for it, and then it waits.  Its connection is closed, and another message is published,
which the reader still receives. -/
theorem Run.reader_overtaken : ∃ recent r between e earlier bus,
    Run (ofCapacity ⟨2, by decide, by decide⟩) (recent ++ r :: between ++ e :: earlier) bus ∧
      bus.published = 5 ∧
      received 1 (recent ++ r :: between) = [⟨"a.2", []⟩, ⟨"a.3", []⟩, ⟨"a.4", []⟩] ∧
      [⟨"a.2", []⟩, ⟨"a.3", []⟩, ⟨"a.4", []⟩].Sublist
        ((sent (recent ++ r :: between)).filter (Subject.isMatch "a.*" ·.subject)) ∧
      (0 ∈ places 1 between ∨
        0 + (Capacity.mk 2 (by decide) (by decide)).kept < (sent (between ++ e :: earlier)).length) ∧
      ∃ late c early, recent = late ++ c :: early ∧ c.operation = .close 1 ∧
        received 1 late = [⟨"a.4", []⟩] ∧
          (received 1 late).length ≤ (waits 1 (c :: (early ++ r :: between) ++ e :: earlier)).toNat := by
  obtain ⟨late, c, early, r, between, e, earlier, bus, run, hsent, hreceived, he, hreply, hr, hfirst,
      hmessage, hplace, hc, hclosed, hlate, horderly⟩ :
      ∃ late c early r between e earlier bus,
        Run (ofCapacity ⟨2, by decide, by decide⟩)
          ((late ++ c :: early) ++ r :: between ++ e :: earlier) bus ∧
        (sent ((late ++ c :: early) ++ r :: between ++ e :: earlier)).length = 5 ∧
        received 1 ((late ++ c :: early) ++ r :: between) =
          [⟨"a.2", []⟩, ⟨"a.3", []⟩, ⟨"a.4", []⟩] ∧
        e.operation = .subscribe 1 "a.*" ∧ e.reply = .subscribed (.ok 1) ∧
        r.operation = .receive 1 ∧ (sent earlier).length ≤ 0 ∧
        (sent (between ++ e :: earlier))[0]? = some ⟨"a.1", []⟩ ∧ r.place? 1 = some 2 ∧
        c.operation = .close 1 ∧ c.after.isClosed 1 = true ∧ received 1 late = [⟨"a.4", []⟩] ∧
        Orderly ((late ++ c :: early) ++ r :: between ++ e :: earlier) :=
    ⟨[_, _], _, [_, _], _, [_, _, _, _], _, [_, _], _,
      ((((((((((((Run.start.perform (.finishConnect { servers := ["bus://a"] } 0)).perform
        (.finishConnect { servers := ["bus://b"] } 0)).perform (.subscribe 1 "a.*")).perform
          (.publish 1 ⟨"a.1", []⟩)).perform (.publish 1 ⟨"b.1", []⟩)).perform
            (.publish 1 ⟨"a.2", []⟩)).perform (.publish 1 ⟨"a.3", []⟩)).perform (.receive 1)).perform
              (.receive 1)).perform (.receive 1)).perform (.close 1)).perform
                (.publish 2 ⟨"a.4", []⟩)).perform (.receive 1 .message),
      by decide +kernel, by decide +kernel, rfl, rfl, rfl, by decide +kernel, by decide +kernel,
      by decide +kernel, rfl, by decide +kernel, by decide +kernel, by
        refine ⟨fun number hreceive => ?_, by simp [Orderly]⟩
        obtain ⟨rfl, -⟩ := Operation.receive.inj hreceive
        exact .inr (by decide +kernel)⟩
  obtain ⟨hpublished, -, hlaw⟩ := run.delivery_law
  obtain ⟨hsublist, -, -, hreads, hclosing⟩ := hlaw rfl he hreply
  rw [hreceived] at hsublist
  refine ⟨late ++ c :: early, r, between, e, earlier, bus, run, hpublished.trans hsent, hreceived, hsublist,
    ?_, late, c, early, rfl, hc, hlate, hclosing horderly (List.append_assoc ..) hclosed⟩
  exact (hreads rfl hr).2.2 hfirst hmessage (by decide +kernel) ⟨⟨_, hr⟩, .inr ⟨2, hplace, by decide⟩⟩

end ClaimRelay.Bus
