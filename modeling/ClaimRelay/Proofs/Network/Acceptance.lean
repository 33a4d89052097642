import ClaimRelay.Proofs.Network.Delivery

/-! Which notifications are accepted, and which of them can be taken in.  The bus accepts a notification
by its subject and its size, and does not look at how many tokens the account and the hash id make.  The
patterns leave room for one token each, so an accepted notification reaches a primary exactly if neither
of them has a period. -/

namespace ClaimRelay

open Manager Bus

/-- What publishing on an open connection returns. -/
theorem Manager.Scene.grant_answers {s t : Scene} {ticket id : Nat} {subject key : String}
    {payload : List UInt8} {rest : List Waiter} (h : s.grant = some t)
    (hqueue : s.manager.queue = .call ticket (.publish subject key payload) :: rest)
    (hconnection : s.manager.connection = some id) (hopen : s.around.bus.isClosed id = false) :
    ∃ result, t.manager.results.get? ticket = some (.published result) ∧
      (result = .ok () ↔
        Subject.subjectFlaw? subject = none ∧ payload.length ≤ greatestPayload) := by
  rw [grant_eq_serve h hqueue]
  let served : Scene := { s with manager.queue := rest }
  refine ⟨(served.publish subject key payload).1, ?_, ?_⟩
  · show ((served.publish subject key payload).2.manager.results.put ticket
      (.published (served.publish subject key payload).1)).get? ticket = _
    rw [Table.get?_put, if_pos rfl]
  · have hpublish : (s.around.bus.publish id ⟨subject, payload⟩).1 = .ok () ↔ _ :=
      Bus.publish_eq_ok_iff hopen
    rw [← hpublish]
    simp only [publish, served, hconnection]
    rcases s.around.bus.publish id ⟨subject, payload⟩ with ⟨reason | _, bus⟩ <;> simp

namespace Network

variable {start net : Network} {i j id ticket : Nat} {m : Manager} {t sent : Turn}
  {earlier later : List Turn} {kind : Notification} {names : List String} {message : Message}
  {call : Call}

/-- A call to publish a notification, with its kind, the texts its subject is made from, and its
message. -/
inductive Announces : Notification → List String → Message → Call → Prop
  | accountUpdate {account : String} {claim : List UInt8} :
      Announces .accountUpdate [account] ⟨Notification.accountSubject account, claim⟩
        (.accountUpdate claim account)
  | activation {account hash : String} {claim : List UInt8} :
      Announces .activation [account, hash] ⟨Notification.activationSubject account hash, claim⟩
        (.activation hash account claim)

/-- Every text is a single token of a subject. -/
def SingleTokens (names : List String) : Prop := ∀ name ∈ names, '.' ∉ name.toList

theorem Announces.isMatch (h : Announces kind names message call) (other : Notification) :
    Subject.isMatch other.pattern message.subject = true ↔ other = kind ∧ SingleTokens names := by
  cases h with
  | accountUpdate =>
    rw [Notification.isMatch_accountSubject]
    simp [SingleTokens]
  | activation =>
    rw [Notification.isMatch_activationSubject]
    simp [SingleTokens]

theorem Announces.notifies (h : Announces kind names message call) (hnames : SingleTokens names) :
    Notifies kind message call := by
  cases h with
  | accountUpdate => exact .accountUpdate (hnames _ (by simp))
  | activation => exact .activation (hnames _ (by simp)) (hnames _ (by simp))

theorem Announces.call_eq (h : Announces kind names message call) :
    ∃ key, call = .publish message.subject key message.payload := by
  cases h with
  | accountUpdate => exact ⟨_, rfl⟩
  | activation => exact ⟨_, rfl⟩

/-- The manager at place `j` gives the lock to a call while its current connection is open. -/
def Turn.Serves (t : Turn) (j ticket : Nat) (call : Call) : Prop :=
  t.move = .step (.grant j) ∧ ∃ m rest id, t.before.managers[j]? = some m ∧
    m.queue = .call ticket call :: rest ∧ m.connection = some id ∧
      t.before.around.bus.isClosed id = false

/-- The answer to the call, which is that the message was sent if the bus accepts it. -/
theorem Turn.Valid.answers (valid : t.Valid Apart) (hserves : t.Serves j ticket call)
    (hcall : Announces kind names message call) :
    ∃ m' result, t.after.managers[j]? = some m' ∧
      m'.results.get? ticket = some (.published result) ∧
      (result = .ok () ↔
        Subject.subjectFlaw? message.subject = none ∧ message.payload.length ≤ greatestPayload) ∧
      (result = .ok () →
        t.Publishes j call ∧
          t.after.around.bus.channel = t.before.around.bus.channel.send message) := by
  obtain ⟨hmove, m, rest, id, hm, hqueue, hconnection, hopen⟩ := hserves
  obtain ⟨key, rfl⟩ := hcall.call_eq
  obtain ⟨m', hm', -⟩ := valid.does hm
  have hne : m.connection ≠ none := by simp [hconnection]
  have hstep := valid.step?_eq hmove
  have hscene := onManager_scene hstep hm hm'
  obtain ⟨result, hresult, hok⟩ := Scene.grant_answers hscene hqueue hconnection hopen
  refine ⟨m', result, hm', hresult, hok, ?_⟩
  rintro rfl
  exact ⟨⟨hmove, m, m', ticket, rest, hm, hm', hqueue, hne, hresult⟩,
    Scene.grant_publish hscene hqueue hne hresult⟩

/-- What is taken in at the place of a message is that message, as a kind whose pattern covers it. -/
theorem Run.delivery_isMatch (run : Run Apart start (later ++ sent :: earlier) net)
    (hnew : start.IsNew) (hrefusing : start.around.refusing = 0)
    (hsent : sent.after.around.bus.channel = sent.before.around.bus.channel.send message)
    (hm : net.managers[i]? = some m) {d : Delivery}
    (hd : d ∈ deliveries i (later ++ sent :: earlier))
    (hplace : d.place = sent.before.around.bus.channel.tail) :
    d.message = message ∧ Subject.isMatch d.kind.pattern message.subject = true := by
  rw [deliveries_eq] at hd
  obtain ⟨receipt, hreceipt, rfl⟩ := List.mem_map.mp hd
  obtain ⟨hfirst, hmatch⟩ := (run.logged hnew hrefusing hm).holds receipt hreceipt
  have hmessage := run.history_sent hnew hrefusing hm hsent
  rw [← hplace] at hmessage
  have hsame : receipt.message = message := Option.some.inj (hfirst.symm.trans hmessage)
  exact ⟨hsame, hsame ▸ hmatch⟩

/-- A notification on an open connection is accepted by its subject and its size alone.  One that is
accepted is sent, and is covered by the pattern of its own kind at most, exactly if the texts in its
subject are single tokens.  If they are not, no manager ever takes it in; if they are, a primary that is
on an open connection then, and stays there and keeps up until its dispatchers have nothing to do, takes
it in. -/
theorem Run.accepted_taken_in_iff (run : Run Apart start (later ++ sent :: earlier) net)
    (hnew : start.IsNew) (hrefusing : start.around.refusing = 0)
    (hserves : sent.Serves j ticket call) (hcall : Announces kind names message call) :
    let place := sent.before.around.bus.channel.tail
    ∃ m' result, sent.after.managers[j]? = some m' ∧
      m'.results.get? ticket = some (.published result) ∧
      (result = .ok () ↔
        Subject.subjectFlaw? message.subject = none ∧ message.payload.length ≤ greatestPayload) ∧
      (result = .ok () →
        sent.after.around.bus.channel = sent.before.around.bus.channel.send message ∧
        (∀ other, Subject.isMatch other.pattern message.subject = true ↔
          other = kind ∧ SingleTokens names) ∧
        (∀ {i m}, net.managers[i]? = some m →
          (∀ d ∈ deliveries i (later ++ sent :: earlier), d.place = place →
            d = ⟨kind, place, message⟩ ∧ SingleTokens names) ∧
          (m.settings.primary = true → ∀ {id}, (∀ t ∈ later ++ [sent], t.before.Attends i id) →
            net.Attends i id → net.around.now + m.ingest.cache.ttl < Cache.clockEnd →
              (∀ d ∈ m.dispatchers, net.step? (.dispatch i d.subscription) = none) →
                ((∃ d ∈ deliveries i later, d.place = place) ↔ SingleTokens names)))) := by
  intro place
  obtain ⟨m', result, hm', hresult, hok, hsends⟩ := run.cut.2.1.answers hserves hcall
  refine ⟨m', result, hm', hresult, hok, fun haccepted => ?_⟩
  obtain ⟨hpublishes, hsent⟩ := hsends haccepted
  refine ⟨hsent, hcall.isMatch, fun {i m} hm => ?_⟩
  have hreached : ∀ d ∈ deliveries i (later ++ sent :: earlier), d.place = place →
      d = ⟨kind, place, message⟩ ∧ SingleTokens names := by
    intro d hd hplace
    obtain ⟨hmessage, hmatch⟩ := run.delivery_isMatch hnew hrefusing hsent hm hd hplace
    obtain ⟨hkind, hnames⟩ := (hcall.isMatch d.kind).mp hmatch
    refine ⟨?_, hnames⟩
    rw [← hkind, ← hplace, ← hmessage]
  refine ⟨hreached, fun hprimary id hattends hstays hfits hidle => ⟨?_, fun hnames => ?_⟩⟩
  · rintro ⟨d, hd, hplace⟩
    have htaken : d ∈ deliveries i (later ++ sent :: earlier) := by
      rw [deliveries, List.filterMap_append]
      exact List.mem_append_left _ hd
    exact (hreached d htaken hplace).2
  · obtain ⟨d, hd, -, hplace⟩ := run.delivers hnew hrefusing hpublishes (hcall.notifies hnames) hm
      hprimary hattends hstays hfits hidle
    exact ⟨_, mem_deliveries hd, hplace⟩

/-- An activation whose hash id has a period is accepted, and nobody takes it in. -/
theorem Run.accepted_in_vain : ∃ turns net,
    Run Apart (ofSettings [{ servers := ["bus://a:4222"], primary := true }]) turns net ∧
      (∃ sent ∈ turns, sent.Publishes 0 (.activation "H.I" "A" [])) ∧
      net.around.bus.published = 1 ∧ ∀ d ∈ deliveries 0 turns, d.place ≠ 0 := by
  let first : Network := ofSettings [{ servers := ["bus://a:4222"], primary := true }]
  have hnew : first.IsNew := isNew_ofSettings (by simp; rfl)
  obtain ⟨earlier, sent, net, m, run, hm, hserves, hpublishes, hpublished, hplace⟩ :
      ∃ earlier sent net m, Run Apart first ([] ++ sent :: earlier) net ∧
        net.managers[0]? = some m ∧ sent.Serves 0 1 (.activation "H.I" "A" []) ∧
        sent.Publishes 0 (.activation "H.I" "A" []) ∧ net.around.bus.published = 1 ∧
        sent.before.around.bus.channel.tail = 0 :=
    ⟨_, _, _, _, (((Run.start.step (.request 0 0 .start) rfl).step (.grant 0) rfl).step
      (.request 0 1 (.activation "H.I" "A" [])) rfl).step (.grant 0) rfl, rfl,
      ⟨rfl, _, [], 1, rfl, rfl, rfl, rfl⟩, ⟨rfl, _, _, 1, [], rfl, rfl, rfl, Option.some_ne_none 1,
        rfl⟩, rfl, rfl⟩
  obtain ⟨-, result, -, -, hok, haccepted⟩ :=
    run.accepted_taken_in_iff hnew rfl hserves .activation
  have hresult : result = .ok () := hok.mpr (by decide +kernel)
  obtain ⟨-, -, hreached⟩ := haccepted hresult
  refine ⟨_, net, run, ⟨sent, .head _, hpublishes⟩, hpublished, fun d hd hzero => ?_⟩
  obtain ⟨-, hnames⟩ := (hreached hm).1 d hd (hzero.trans hplace.symm)
  exact hnames "H.I" (by simp) (by decide)

/-- An update of an account with a period is accepted, and no pattern covers it. -/
theorem Run.accepted_uncovered : ∃ turns net,
    Run Apart (ofSettings [{ servers := ["bus://a:4222"], primary := true }]) turns net ∧
      (∃ sent ∈ turns, sent.Publishes 0 (.accountUpdate [] "A.B")) ∧
      ⟨Notification.accountSubject "A.B", []⟩ ∈ net.around.bus.channel.history ∧
      ∀ kind : Notification,
        Subject.isMatch kind.pattern (Notification.accountSubject "A.B") = false := by
  refine ⟨_, _, (((Run.start.step (.request 0 0 .start) rfl).step (.grant 0) rfl).step
    (.request 0 1 (.accountUpdate [] "A.B")) rfl).step (.grant 0) rfl, ⟨_, .head _, ?_⟩, ?_, ?_⟩
  · exact ⟨rfl, _, _, 1, [], rfl, rfl, rfl, Option.some_ne_none 1, rfl⟩
  · exact Array.mem_push_self
  · intro kind
    cases kind <;> decide +kernel

end Network

end ClaimRelay
