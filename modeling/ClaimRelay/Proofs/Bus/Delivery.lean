import ClaimRelay.Proofs.Bus.Exchange

/-! What the readers of a bus receive.  `Reader` holds of a subscription in every run, as long as it is not
given up: each message that it covers and that its reader has gone past was received, or overtaken by as many
later messages as the channel keeps. -/

namespace ClaimRelay.Bus

variable {start bus after : Bus} {e : Exchange} {log later earlier : List Exchange}
  {number id first place : Nat} {pattern : String} {message : Message}

/-- The messages at ascending places from `first` on come in the order of the list. -/
theorem sublist_drop {messages : List Message} {ps : List Nat} {taken : List Message}
    (ascending : ps.Pairwise (· < ·)) (hfirst : ∀ p ∈ ps, first ≤ p)
    (hget : ps.map (messages[·]?) = taken.map some) : taken.Sublist (messages.drop first) := by
  induction ps generalizing first taken with
  | nil =>
    obtain rfl : taken = [] := by simpa using hget.symm
    exact List.nil_sublist _
  | cons p ps ih =>
    obtain _ | ⟨m, taken⟩ := taken
    · simp at hget
    · obtain ⟨hm, hrest⟩ := List.cons.inj hget
      obtain ⟨hlater, hascending⟩ := List.pairwise_cons.mp ascending
      obtain ⟨hp, rfl⟩ := List.getElem?_eq_some_iff.mp hm
      have hsub := ih hascending (fun q hq => hlater q hq) hrest
      have hdrop : (messages[p] :: taken).Sublist (messages.drop p) := by
        rw [List.drop_eq_getElem_cons hp]
        exact hsub.cons_cons _
      exact hdrop.trans (List.drop_sublist_drop_left messages (hfirst p (.head _)))

/-! ### The reader of a subscription -/

/-- As many later messages as the channel keeps were published after the one at a place. -/
def Channel.Overtaken (channel : Channel) (place : Nat) : Prop :=
  place + channel.capacity.kept < channel.tail

/-- What a reader has received is at ascending places from `first` on, and the pattern covers it. -/
structure Taken (number : Nat) (pattern : String) (first : Nat) (since : List Exchange)
    (channel : Channel) : Prop where
  ascending : (places number since).Pairwise (· < ·)
  at_places : (places number since).map (channel.history[·]?) = (received number since).map some
  covered : ∀ p ∈ places number since, first ≤ p ∧ ∃ message, channel.Holds pattern p message

/-- A reader is about to read the message at `cursor`.  It received those before that are covered and not
overtaken. -/
structure Reading (number : Nat) (pattern : String) (first cursor : Nat) (since : List Exchange)
    (channel : Channel) : Prop where
  first_le : first ≤ cursor
  le_tail : cursor ≤ channel.tail
  behind : ∀ p ∈ places number since, p < cursor
  complete : ∀ {place message}, first ≤ place → place < cursor → channel.Holds pattern place message →
    place ∈ places number since ∨ channel.Overtaken place

/-- What holds of a subscription and its reader, where `since` is what happened since it was made, with
`first` the place of the first message after that. -/
structure Reader (number id : Nat) (pattern : String) (first : Nat) (since : List Exchange) (bus : Bus) :
    Prop where
  counted : number ≤ bus.subscribed
  taken : Taken number pattern first since bus.channel
  /-- It is given up, or held. -/
  held : (∃ e ∈ since, e.operation = .unsubscribe number) ∧ bus.subscriptions.get? number = none ∨
    (∀ e ∈ since, e.operation ≠ .unsubscribe number) ∧ ∃ cursor,
      bus.subscriptions.get? number = some ⟨id, pattern, cursor⟩ ∧
      Reading number pattern first cursor since bus.channel

variable {since : List Exchange} {channel grown : Channel} {cursor : Nat}

theorem Exchange.received?_eq_none (h : ∀ first, e.operation ≠ .receive number first) :
    e.received? number = none := by
  obtain ⟨before, operation, reply, after⟩ := e
  unfold received?
  split
  · rename_i subscription message hoperation hreply
    rw [if_neg]
    rintro rfl
    exact h _ hoperation
  · rfl

theorem Exchange.place?_eq_none (h : e.received? number = none) : e.place? number = none := by
  simp [place?, h]

theorem places_cons_of_none (h : e.received? number = none) :
    places number (e :: since) = places number since := by
  simp [places_cons, Exchange.place?_eq_none h]

theorem received_cons_of_none (h : e.received? number = none) :
    received number (e :: since) = received number since := by
  simp [received_cons, h]

/-! ### Nothing is received -/

theorem Taken.cons (h : Taken number pattern first since channel) (hgrows : channel.Grows grown)
    (hnone : e.received? number = none) : Taken number pattern first (e :: since) grown where
  ascending := by
    rw [places_cons_of_none hnone]
    exact h.ascending
  at_places := by
    rw [places_cons_of_none hnone, received_cons_of_none hnone, ← h.at_places]
    refine List.map_congr_left fun p hp => ?_
    obtain ⟨-, message, hholds⟩ := h.covered p hp
    rw [hholds.1, hgrows.keeps hholds.1]
  covered p hp := by
    rw [places_cons_of_none hnone] at hp
    obtain ⟨hfirst, message, hholds⟩ := h.covered p hp
    exact ⟨hfirst, message, hgrows.holds hholds⟩

theorem Reading.cons (h : Reading number pattern first cursor since channel)
    (hgrows : channel.Grows grown) (hcapacity : grown.capacity = channel.capacity)
    (hnone : e.received? number = none) : Reading number pattern first cursor (e :: since) grown where
  first_le := h.first_le
  le_tail := Nat.le_trans h.le_tail hgrows.tail_le
  behind p hp := h.behind p (places_cons_of_none hnone ▸ hp)
  complete hfirst hlt hholds := by
    rw [places_cons_of_none hnone]
    refine (h.complete hfirst hlt (hgrows.holds_of_lt (Nat.lt_of_lt_of_le hlt h.le_tail) hholds)).imp_right
      fun hovertaken => ?_
    unfold Channel.Overtaken at *
    have := hgrows.tail_le
    rw [hcapacity]
    omega

/-- What does not concern a subscription leaves its reader where it is. -/
theorem Reader.cons (h : Reader number id pattern first since bus) (hadvances : bus.Advances after)
    (hcapacity : after.channel.capacity = bus.channel.capacity)
    (hget : after.subscriptions.get? number = bus.subscriptions.get? number)
    (hunsubscribe : e.operation ≠ .unsubscribe number) (hnone : e.received? number = none) :
    Reader number id pattern first (e :: since) after where
  counted := Nat.le_trans h.counted hadvances.subscribed
  taken := h.taken.cons hadvances.channel hnone
  held := by
    rw [hget]
    rcases h.held with ⟨⟨d, hd, hgiven⟩, hgone⟩ | ⟨hkept, cursor, hs, hreading⟩
    · exact .inl ⟨⟨d, .tail _ hd, hgiven⟩, hgone⟩
    · exact .inr ⟨List.forall_mem_cons.mpr ⟨hunsubscribe, hkept⟩, cursor, hs,
        hreading.cons hadvances.channel hcapacity hnone⟩

/-- A subscription that is given up is gone. -/
theorem Reader.unsubscribe (h : Reader number id pattern first since bus)
    (hoperation : e.operation = .unsubscribe number) :
    Reader number id pattern first (e :: since) (bus.unsubscribe number) where
  counted := h.counted
  taken := h.taken.cons (.refl _) (Exchange.received?_eq_none (by simp [hoperation]))
  held := .inl ⟨⟨e, .head _, hoperation⟩, by simp [Bus.unsubscribe, Table.get?_erase]⟩

/-! ### Something is received -/

/-- A reader that goes on from the first message kept missed only what was overtaken. -/
theorem Reading.resume (h : Reading number pattern first cursor since channel) (hfirst : first ≤ place)
    (hlt : place < channel.resume cursor) (hholds : channel.Holds pattern place message) :
    place ∈ places number since ∨ channel.Overtaken place := by
  by_cases hbehind : place < cursor
  · exact h.complete hfirst hbehind hholds
  · refine .inr ?_
    unfold Channel.resume Channel.head at hlt
    unfold Channel.Overtaken
    omega

theorem Taken.receive (h : Taken number pattern first since channel)
    (hreading : Reading number pattern first cursor since channel)
    (hsearch : channel.search pattern (channel.resume cursor) = some (place, message))
    (hreceived : e.received? number = some message) (hplace : e.place? number = some place) :
    Taken number pattern first (e :: since) channel where
  ascending := by
    have hresume := (Channel.search_found hsearch).1
    rw [places_cons, hplace, Option.toList_some, List.pairwise_append]
    refine ⟨h.ascending, List.pairwise_singleton .., fun p hp q hq => ?_⟩
    obtain rfl := List.mem_singleton.mp hq
    have := hreading.behind p hp
    unfold Channel.resume at hresume
    omega
  at_places := by
    have hholds := (Channel.search_found hsearch).2.1
    simp [places_cons, received_cons, hplace, hreceived, h.at_places, hholds.1]
  covered p hp := by
    have hresume := (Channel.search_found hsearch).1
    have hholds := (Channel.search_found hsearch).2.1
    rw [places_cons, hplace, Option.toList_some, List.mem_append, List.mem_singleton] at hp
    rcases hp with hp | rfl
    · exact h.covered p hp
    · have := hreading.first_le
      unfold Channel.resume at hresume
      exact ⟨by omega, message, hholds⟩

theorem Reading.receive (h : Reading number pattern first cursor since channel)
    (hsearch : channel.search pattern (channel.resume cursor) = some (place, message))
    (hplace : e.place? number = some place) :
    Reading number pattern first (place + 1) (e :: since) channel := by
  obtain ⟨hresume, hholds, hleast⟩ := Channel.search_found hsearch
  have hcursor : cursor ≤ place := Nat.le_trans (Nat.le_max_left ..) hresume
  refine ⟨by have := h.first_le; omega, hholds.lt_tail, fun p hp => ?_, fun {q m} hfirst hlt hq => ?_⟩
  · rw [places_cons, hplace, Option.toList_some, List.mem_append, List.mem_singleton] at hp
    rcases hp with hp | rfl
    · have := h.behind p hp
      omega
    · exact Nat.lt_succ_self p
  · rw [places_cons, hplace, Option.toList_some, List.mem_append, List.mem_singleton]
    by_cases hskipped : q < channel.resume cursor
    · exact (h.resume hfirst hskipped hq).imp_left .inl
    · have := hleast (Nat.le_of_not_lt hskipped) hq
      exact .inl (.inr (by omega))

theorem Reading.pending (h : Reading number pattern first cursor since channel)
    (hsearch : channel.search pattern (channel.resume cursor) = none)
    (hnone : e.received? number = none) :
    Reading number pattern first channel.tail (e :: since) channel where
  first_le := Nat.le_trans h.first_le h.le_tail
  le_tail := Nat.le_refl _
  behind p hp := Nat.lt_of_lt_of_le (h.behind p (places_cons_of_none hnone ▸ hp)) h.le_tail
  complete {q m} hfirst hlt hq := by
    rw [places_cons_of_none hnone]
    refine h.resume hfirst (Nat.lt_of_not_le fun hle => ?_) hq
    obtain ⟨found, m, hfound, -⟩ := Channel.search_isSome hq hle
    simp [hsearch] at hfound

/-- What the reader of a subscription receives. -/
theorem Reader.receive (h : Reader number id pattern first since e.before)
    {branch : Branch} (hoperation : e.operation = .receive number branch) {result : Received}
    (hreply : e.reply = .received result) (hreceives : e.before.Receives number branch result e.after) :
    Reader number id pattern first (e :: since) e.after := by
  have hunsubscribe : e.operation ≠ .unsubscribe number := by simp [hoperation]
  -- A subscription that is found is the reader's own.
  have hown {s : Subscription} (hs : e.before.subscriptions.get? number = some s) :
      (∀ d ∈ since, d.operation ≠ .unsubscribe number) ∧ s.connection = id ∧ s.pattern = pattern ∧
        Reading number pattern first s.cursor since e.before.channel := by
    rcases h.held with ⟨-, hgone⟩ | ⟨hkept, cursor, hs', hreading⟩
    · simp [hgone] at hs
    · obtain rfl := Option.some.inj (hs.symm.trans hs')
      exact ⟨hkept, rfl, rfl, hreading⟩
  have hkeep (hkept : ∀ d ∈ since, d.operation ≠ .unsubscribe number) :
      ∀ d ∈ e :: since, d.operation ≠ .unsubscribe number :=
    List.forall_mem_cons.mpr ⟨hunsubscribe, hkept⟩
  generalize hafter : e.after = after at *
  cases hreceives with
  | gone | finished =>
    exact h.cons (.refl _) rfl rfl hunsubscribe (by simp [Exchange.received?, hoperation, hreply])
  | @message s place message hs hfound =>
    obtain ⟨hkept, rfl, rfl, hreading⟩ := hown hs
    have hsearch := (found?_reaches hfound).2
    have hreceived : e.received? number = some message := by
      simp [Exchange.received?, hoperation, hreply]
    have hplace : e.place? number = some place := by
      simp [Exchange.place?, hreceived, hafter, Table.get?_put]
    exact ⟨h.counted, h.taken.receive hreading hsearch hreceived hplace,
      .inr ⟨hkeep hkept, place + 1, by simp [Table.get?_put], hreading.receive hsearch hplace⟩⟩
  | @pending s hs hopen hsearch =>
    obtain ⟨hkept, rfl, rfl, hreading⟩ := hown hs
    have hnone : e.received? number = none := by simp [Exchange.received?, hoperation, hreply]
    exact ⟨h.counted, h.taken.cons (.refl _) hnone,
      .inr ⟨hkeep hkept, e.before.channel.tail, by simp [Table.get?_put], hreading.pending hsearch hnone⟩⟩

/-! ### Every run -/

theorem Exchange.Valid.advances (valid : e.Valid) : e.before.Advances e.after where
  channel := by
    rw [valid.channel]
    cases e.sent? with
    | none => exact .refl _
    | some message => exact Channel.grows_send message _
  subscribed := valid.subscribed_le

theorem Exchange.Valid.capacity (valid : e.Valid) :
    e.after.channel.capacity = e.before.channel.capacity := by
  rw [valid.channel]
  cases e.sent? <;> rfl

/-- A new subscription has nothing to read yet. -/
theorem Exchange.Valid.reader (valid : e.Valid) (hoperation : e.operation = .subscribe id pattern)
    (hreply : e.reply = .subscribed (.ok number)) :
    Reader number id pattern e.before.channel.tail [] e.after := by
  rcases hsubscribe : e.before.subscribe id pattern with ⟨result, bus⟩
  obtain ⟨hresult, hbus⟩ : Reply.subscribed result = e.reply ∧ bus = e.after := by
    simpa [Exchange.Valid, hoperation, Operation.perform, hsubscribe] using valid
  obtain rfl : result = .ok number := by simpa [hreply] using hresult
  obtain ⟨-, rfl, hafter⟩ := subscribe_ok hsubscribe
  rw [← hbus, hafter]
  exact ⟨Nat.le_refl _, ⟨.nil, rfl, by simp [places]⟩,
    .inr ⟨by simp, e.before.channel.tail, by simp [Table.get?_put],
      Nat.le_refl _, Nat.le_refl _, by simp [places], fun hle hlt _ => by omega⟩⟩

theorem Reader.exchange (h : Reader number id pattern first since e.before) (valid : e.Valid) :
    Reader number id pattern first (e :: since) e.after := by
  by_cases hunsubscribe : e.operation = .unsubscribe number
  · obtain ⟨-, hafter⟩ : Reply.done = e.reply ∧ e.before.unsubscribe number = e.after := by
      simpa [Exchange.Valid, hunsubscribe, Operation.perform] using valid
    exact hafter ▸ h.unsubscribe hunsubscribe
  · by_cases hreceive : ∃ branch, e.operation = .receive number branch
    · obtain ⟨branch, hreceive⟩ := hreceive
      obtain ⟨result, hreply, hreceives⟩ := valid.receive hreceive
      exact h.receive hreceive hreply hreceives
    · rw [not_exists] at hreceive
      exact h.cons valid.advances valid.capacity
        (valid.get?_subscriptions h.counted hunsubscribe hreceive) hunsubscribe
        (Exchange.received?_eq_none hreceive)

theorem Run.reader (run : Run start since bus) (h : Reader number id pattern first [] start) :
    Reader number id pattern first since bus := by
  induction run with
  | start => exact h
  | exchange run valid ih => exact ih.exchange valid

theorem Taken.isMatch (h : Taken number pattern first since channel) :
    ∀ m ∈ received number since, Subject.isMatch pattern m.subject = true := by
  intro m hm
  have hplace := List.mem_map_of_mem (f := some) hm
  rw [← h.at_places] at hplace
  obtain ⟨p, hp, hget⟩ := List.mem_map.mp hplace
  obtain ⟨-, m', hholds⟩ := h.covered p hp
  obtain rfl := Option.some.inj (hget.symm.trans hholds.1)
  exact hholds.2

/-! ### The delivery law -/

variable {capacity : Capacity}

theorem Run.getElem?_sent (run : Run (ofCapacity capacity) log bus) (place : Nat) :
    (sent log)[place]? = bus.channel.history[place]? := by
  rw [← Array.getElem?_toList, run.history.1]
  rfl

theorem Run.length_sent (run : Run (ofCapacity capacity) log bus) :
    (sent log).length = bus.channel.tail := by
  unfold Channel.tail
  rw [← Array.length_toList, run.history.1]
  rfl

theorem drop_sent (hsilent : e.sent? = none) :
    (sent (later ++ e :: earlier)).drop (sent earlier).length = sent later := by
  simp [sent_append, sent_cons, hsilent]

/-- What a reader has received was published since its subscription was made, in the same order. -/
theorem Taken.sublist (h : Taken number pattern (sent earlier).length later channel)
    (hsent : ∀ place : Nat, (sent (later ++ e :: earlier))[place]? = channel.history[place]?)
    (hsilent : e.sent? = none) :
    (received number later).Sublist ((sent later).filter (Subject.isMatch pattern ·.subject)) := by
  have hplaces : (places number later).map ((sent (later ++ e :: earlier))[·]?) =
      (received number later).map some := by simpa only [hsent] using h.at_places
  have hsub := sublist_drop h.ascending (fun p hp => (h.covered p hp).1) hplaces
  rw [drop_sent hsilent] at hsub
  rw [← List.filter_eq_self.mpr h.isMatch]
  exact hsub.filter _

theorem Exchange.Valid.refused (valid : e.Valid) {reason : Error}
    (hreply : e.reply = .published (.error reason)) : e.after = e.before := by
  obtain ⟨bus, operation, reply, after⟩ := e
  obtain rfl : reply = .published (.error reason) := hreply
  have hresult : operation.perform bus = (.published (.error reason), after) := valid
  cases operation with
  | publish id message =>
    have hpublish : bus.publish id message = (.error reason, after) := by
      simpa [Operation.perform, Prod.ext_iff] using hresult
    exact publish_error hpublish
  | _ => simp [Operation.perform, Prod.ext_iff] at hresult

/-- The reader of a subscription is told that there is nothing left, or receives a later message. -/
def Exchange.Passes (number place : Nat) (e : Exchange) : Prop :=
  (∃ branch, e.operation = .receive number branch) ∧
    (e.reply = .received .pending ∨ ∃ found, e.place? number = some found ∧ place < found)

theorem Reader.passes (h : Reader number id pattern first since e.before) (valid : e.Valid)
    (hpasses : e.Passes number place) (hfirst : first ≤ place)
    (hholds : e.before.channel.Holds pattern place message) :
    place ∈ places number since ∨ e.before.channel.Overtaken place := by
  obtain ⟨⟨branch, hoperation⟩, hpasses⟩ := hpasses
  have hchannel : e.after.channel = e.before.channel := by
    rw [valid.channel, Exchange.sent?, hoperation]
    rfl
  -- The reader is past the place afterwards.
  obtain ⟨s, hs, hpast, hnew⟩ : ∃ s, e.after.subscriptions.get? number = some s ∧ place < s.cursor ∧
      (place ∈ places number (e :: since) → place ∈ places number since) := by
    rcases hpasses with hpending | ⟨found, hfound, hlt⟩
    · obtain ⟨result, hreply, hreceives⟩ := valid.receive hoperation
      obtain rfl : result = .pending := by simpa [hpending, eq_comm] using hreply
      have hnone : e.received? number = none := by simp [Exchange.received?, hoperation, hpending]
      generalize hafter : e.after = after at *
      cases hreceives with
      | pending hs _ _ =>
        exact ⟨_, by rw [Table.get?_put, if_pos rfl], hholds.lt_tail,
          fun hp => places_cons_of_none hnone ▸ hp⟩
    · have hplaces : places number (e :: since) = places number since ++ [found] := by
        simp [places_cons, hfound]
      unfold Exchange.place? at hfound
      split at hfound
      · rename_i s _ hs
        have hcursor : s.cursor - 1 = found := Option.some.inj hfound
        refine ⟨s, hs, by omega, fun hp => ?_⟩
        rw [hplaces, List.mem_append, List.mem_singleton] at hp
        exact hp.resolve_right (Nat.ne_of_lt hlt)
      · simp at hfound
  rcases (h.exchange valid).held with ⟨-, hgone⟩ | ⟨-, cursor, hs', hreading⟩
  · simp [hgone] at hs
  · obtain rfl := Option.some.inj (hs.symm.trans hs')
    rw [hchannel] at hreading
    exact (hreading.complete hfirst hpast hholds).imp_left hnew

/-- A reader is told that nothing more will come only when its connection is over or it was given up. -/
theorem Reader.over_of_ended (h : Reader number id pattern first since e.before) (valid : e.Valid)
    {branch : Branch} (hoperation : e.operation = .receive number branch)
    (hended : e.reply = .received .ended) :
    e.before.isOver id = true ∨ ∃ d ∈ since, d.operation = .unsubscribe number := by
  obtain ⟨result, hreply, hreceives⟩ := valid.receive hoperation
  obtain rfl : result = .ended := by simpa [hended, eq_comm] using hreply
  generalize e.after = after at hreceives
  rcases h.held with ⟨hgiven, -⟩ | ⟨-, cursor, hs, -⟩
  · exact .inr hgiven
  · cases hreceives with
    | gone hgone => simp [hgone] at hs
    | finished hs' hover =>
      obtain rfl := Option.some.inj (hs'.symm.trans hs)
      exact .inl hover

/-- A reader that was given up is told so, and one that looks for the end of its connection first when this
is over. -/
theorem Reader.ended (h : Reader number id pattern first since e.before) (valid : e.Valid)
    {branch : Branch} (hoperation : e.operation = .receive number branch)
    (hover : branch = .closing ∧ e.before.isOver id = true ∨
      ∃ d ∈ since, d.operation = .unsubscribe number) :
    e.reply = .received .ended := by
  obtain ⟨result, hreply, hreceives⟩ := valid.receive hoperation
  rw [hreply]
  generalize e.after = after at hreceives
  rcases h.held with ⟨-, hgone⟩ | ⟨hkept, cursor, hs, -⟩
  · cases hreceives with
    | gone | finished => rfl
    | message hs | pending hs => simp [hgone] at hs
  · have hheld : ¬∃ d ∈ since, d.operation = .unsubscribe number := by
      rintro ⟨d, hd, hgiven⟩
      exact hkept d hd hgiven
    obtain ⟨rfl, hended⟩ := hover.resolve_right hheld
    cases hreceives with
    | gone | finished => rfl
    | message hs' hfound =>
      obtain rfl := Option.some.inj (hs'.symm.trans hs)
      simp [found?, hended] at hfound
    | pending hs' hopen =>
      obtain rfl := Option.some.inj (hs'.symm.trans hs)
      simp [hended] at hopen

/-- Nobody begins to wait on a connection that is closed. -/
theorem Reader.canWait (h : Reader number id pattern first since bus) (hclosed : bus.isClosed id = true) :
    bus.canWait number = false := by
  unfold Bus.canWait
  rcases h.held with ⟨-, hgone⟩ | ⟨-, cursor, hs, -⟩
  · rw [hgone]
  · rw [hs]
    simp [hclosed]

end ClaimRelay.Bus
