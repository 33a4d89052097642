import ClaimRelay.Bus.Basic

/-! What may happen to a registry.  `Grows` holds of every operation: a connection keeps its number
and its listener, and one that is closed or discarded stays so.  `ByOthers` holds of every operation of
others than a listener: no connection of the listener is made, none of its mail is taken, and each of its
connections that is closed is reported to it. -/

namespace ClaimRelay.Bus

/-- A connection keeps its listener, and stays closed or discarded. -/
structure Connection.Keeps (before after : Connection) : Prop where
  listener : after.listener = before.listener
  closed : before.closed = true → after.closed = true
  discarded : before.discarded = true → after.discarded = true

theorem Connection.Keeps.refl (c : Connection) : c.Keeps c := ⟨rfl, id, id⟩

theorem Connection.Keeps.ite {p : Prop} [Decidable p] {c c' : Connection} (h : c.Keeps c') :
    c.Keeps (if p then c' else c) := by
  split
  · exact h
  · exact .refl c

theorem Connection.keeps_closed (c : Connection) : c.Keeps { c with closed := true } :=
  ⟨rfl, fun _ => rfl, id⟩

theorem Connection.keeps_discarded (c : Connection) : c.Keeps { c with discarded := true } :=
  ⟨rfl, id, fun _ => rfl⟩

namespace Registry

variable {r r' r'' : Registry} {ℓ : Nat}

/-- The connections have the numbers from one up to their count. -/
def Numbered (r : Registry) : Prop :=
  ∀ id, (r.connections.get? id).isSome ↔ 0 < id ∧ id ≤ r.connections.length

theorem numbered_empty : ({} : Registry).Numbered := by
  intro id
  simp
  omega

theorem Numbered.get?_nextId (h : r.Numbered) : r.connections.get? r.nextId = none := by
  have : ¬(r.connections.get? r.nextId).isSome := by
    rw [h, nextId]
    omega
  simpa using this

theorem Numbered.le_length (h : r.Numbered) {id : Nat} {c : Connection}
    (hc : r.connections.get? id = some c) : id ≤ r.connections.length :=
  ((h id).mp (by simp [hc])).2

/-! ### What the operations do -/

theorem get?_enter (c : Connection) (r : Registry) (id : Nat) :
    (r.enter c).connections.get? id =
      if r.nextId = id then some c else r.connections.get? id :=
  Table.get?_put ..

theorem length_enter (h : r.Numbered) (c : Connection) :
    (r.enter c).connections.length = r.connections.length + 1 := by
  simp [enter, Table.length_put, h.get?_nextId]

theorem get?_close (r : Registry) (id other : Nat) :
    (r.close id).connections.get? other =
      (r.connections.get? other).map fun c =>
        if id = other then { c with closed := true } else c := by
  unfold close
  split
  · rename_i c hc
    by_cases h : id = other
    · subst h
      by_cases hclosed : c.closed = true
      · simp [hc, ← hclosed]
      · simp [tell, Table.get?_put, hc, hclosed]
    · split <;> simp [tell, Table.get?_put, h]
  · rename_i hc
    by_cases h : id = other
    · subst h
      simp [hc]
    · simp [h]

theorem length_close (r : Registry) (id : Nat) :
    (r.close id).connections.length = r.connections.length := by
  unfold close
  split
  · rename_i c hc
    split
    · rfl
    · simp [tell, Table.length_put, hc]
  · rfl

theorem mem_mail_close {entry : Nat × Event} (h : entry ∈ r.mail) (id : Nat) :
    entry ∈ (r.close id).mail := by
  unfold close
  split
  · split
    · exact h
    · exact List.mem_append_left _ h
  · exact h

/-- A connection that is closed now is reported. -/
theorem closed_mem_mail_close {id : Nat} {c : Connection} (hc : r.connections.get? id = some c)
    (hopen : c.closed = false) : (c.listener, .closed) ∈ (r.close id).mail := by
  simp [close, hc, hopen, tell]

theorem get?_closeAny (r : Registry) (id : Option Nat) (other : Nat) :
    (r.closeAny id).connections.get? other =
      (r.connections.get? other).map fun c =>
        if id = some other then { c with closed := true } else c := by
  cases id with
  | none => simp [closeAny]
  | some id => simpa [closeAny] using get?_close r id other

theorem get?_discard (r : Registry) (id other : Nat) :
    (r.discard id).connections.get? other =
      (r.connections.get? other).map fun c =>
        if id = other then { c with discarded := true } else c := by
  unfold discard
  split
  · rename_i c hc
    by_cases h : id = other
    · subst h
      simp [Table.get?_put, hc]
    · simp [Table.get?_put, h]
  · rename_i hc
    by_cases h : id = other
    · subst h
      simp [hc]
    · simp [h]

theorem length_discard (r : Registry) (id : Nat) :
    (r.discard id).connections.length = r.connections.length := by
  unfold discard
  split
  · rename_i c hc
    simp [Table.length_put, hc]
  · rfl

@[simp] theorem mail_discard (r : Registry) (id : Nat) : (r.discard id).mail = r.mail := by
  unfold discard
  split <;> rfl

@[simp] theorem connections_report (event : Event) (r : Registry) (id : Nat) :
    (r.report event id).connections = r.connections := by
  unfold report
  split <;> rfl

theorem mem_mail_report {entry : Nat × Event} (h : entry ∈ r.mail) (event : Event) (id : Nat) :
    entry ∈ (r.report event id).mail := by
  unfold report
  split
  · exact List.mem_append_left _ h
  · exact h

theorem isClosed_of_get? {id : Nat} {c : Connection} (hc : r.connections.get? id = some c) :
    r.isClosed id = c.closed := by
  simp [isClosed, hc]

theorem isClosed_of_isOver {id : Nat} (h : r.isOver id = false) : r.isClosed id = false := by
  unfold isOver at h
  unfold isClosed
  split at h
  · simp_all [Connection.isOpen]
  · simp at h

theorem isOver_of_isClosed {id : Nat} (h : r.isClosed id = true) : r.isOver id = true := by
  cases hover : r.isOver id with
  | true => rfl
  | false => simp [isClosed_of_isOver hover] at h

/-! ### Growth -/

/-- `after` may come from `before` by any operations. -/
structure Grows (before after : Registry) : Prop where
  numbered : before.Numbered → after.Numbered
  length_le : before.connections.length ≤ after.connections.length
  keeps : before.Numbered → ∀ {id c}, before.connections.get? id = some c →
    ∃ c', after.connections.get? id = some c' ∧ c.Keeps c'

theorem Grows.refl (r : Registry) : Grows r r :=
  ⟨id, Nat.le_refl _, fun _ _ c hc => ⟨c, hc, .refl c⟩⟩

theorem Grows.trans (h1 : Grows r r') (h2 : Grows r' r'') : Grows r r'' where
  numbered h := h2.numbered (h1.numbered h)
  length_le := Nat.le_trans h1.length_le h2.length_le
  keeps h id c hc := by
    obtain ⟨c', hc', hfirst⟩ := h1.keeps h hc
    obtain ⟨c'', hc'', hthen⟩ := h2.keeps (h1.numbered h) hc'
    exact ⟨c'', hc'', hthen.listener.trans hfirst.listener, hthen.closed ∘ hfirst.closed,
      hthen.discarded ∘ hfirst.discarded⟩

theorem Grows.isClosed (h : Grows r r') (hn : r.Numbered) {id : Nat} {c : Connection}
    (hc : r.connections.get? id = some c) (hopen : r'.isClosed id = false) :
    r.isClosed id = false := by
  obtain ⟨c', hc', hkeeps⟩ := h.keeps hn hc
  rw [isClosed_of_get? hc'] at hopen
  rw [isClosed_of_get? hc]
  cases hflag : c.closed with
  | true => simp [hkeeps.closed hflag] at hopen
  | false => rfl

theorem Grows.isOver (h : Grows r r') (hn : r.Numbered) {id : Nat} {c : Connection}
    (hc : r.connections.get? id = some c) (hopen : r'.isOver id = false) :
    r.isOver id = false := by
  obtain ⟨c', hc', hkeeps⟩ := h.keeps hn hc
  have hclosed := hkeeps.closed
  have hdiscarded := hkeeps.discarded
  simp only [Registry.isOver, Connection.isOpen, hc, hc'] at hopen ⊢
  cases hflag : c.closed <;> cases hheld : c.discarded <;> simp_all

theorem grows_enter (c : Connection) (r : Registry) : Grows r (r.enter c) where
  numbered h id := by
    rw [get?_enter, length_enter h]
    by_cases hid : r.nextId = id
    · subst hid
      simp [nextId]
    · rw [if_neg hid, h id]
      simp only [nextId] at hid
      omega
  length_le := by simp [enter, Table.length_put]
  keeps h id c' hc' := by
    refine ⟨c', ?_, .refl c'⟩
    rw [get?_enter, if_neg ?_]
    · exact hc'
    · have := h.le_length hc'
      simp only [nextId]
      omega

/-- An operation that only changes flags of connections, and takes none back, is growth. -/
theorem grows_of_get? {f : Nat → Connection → Connection}
    (hget : ∀ id, r'.connections.get? id = (r.connections.get? id).map (f id))
    (hlength : r'.connections.length = r.connections.length)
    (hf : ∀ id (c : Connection), c.Keeps (f id c)) : Grows r r' where
  numbered h id := by simp [hget, hlength, h id]
  length_le := Nat.le_of_eq hlength.symm
  keeps _ id c hc := ⟨f id c, by simp [hget, hc], hf id c⟩

theorem grows_close (r : Registry) (id : Nat) : Grows r (r.close id) :=
  grows_of_get? (get?_close r id) (length_close r id) fun _ c =>
    c.keeps_closed.ite

theorem grows_closeAny (r : Registry) (id : Option Nat) : Grows r (r.closeAny id) := by
  cases id with
  | none => exact .refl r
  | some id => exact grows_close r id

theorem Grows.of_connections (h : r'.connections = r.connections) : Grows r r' :=
  grows_of_get? (f := fun _ c => c) (fun id => by simp [h]) (by rw [h])
    fun _ c => .refl c

/-! ### What others do -/

/-- `after` may come from `before` by operations of others than the listener `ℓ`. -/
structure ByOthers (ℓ : Nat) (before after : Registry) : Prop extends Grows before after where
  enters : ∀ {id c}, before.connections.get? id = none →
    after.connections.get? id = some c → c.listener ≠ ℓ
  mail : ∀ {event}, (ℓ, event) ∈ before.mail → (ℓ, event) ∈ after.mail
  tells : ∀ {id c c'}, before.connections.get? id = some c →
    after.connections.get? id = some c' → c.listener = ℓ → c.closed = false →
    c'.closed = true → (ℓ, .closed) ∈ after.mail

theorem ByOthers.trans (hn : r.Numbered) (h1 : ByOthers ℓ r r') (h2 : ByOthers ℓ r' r'') :
    ByOthers ℓ r r'' where
  toGrows := h1.toGrows.trans h2.toGrows
  enters {id c} hnone hsome := by
    cases hid : r'.connections.get? id with
    | none => exact h2.enters hid hsome
    | some c' =>
      obtain ⟨d, hd, hlistener, -⟩ := h2.keeps (h1.numbered hn) hid
      rw [hsome] at hd
      obtain rfl := Option.some.inj hd
      rw [hlistener]
      exact h1.enters hnone hid
  mail hm := h2.mail (h1.mail hm)
  tells {id c c''} hc hc'' hl hopen hclosed := by
    obtain ⟨c', hc', hl', -⟩ := h1.keeps hn hc
    by_cases hc'closed : c'.closed = true
    · exact h2.mail (h1.tells hc hc' hl hopen hc'closed)
    · exact h2.tells hc' hc'' (hl'.trans hl) (by simpa using hc'closed) hclosed

/-- An operation that only changes flags of connections, takes none back, and reports each connection
of the listener that it closes. -/
theorem ByOthers.of_get? {f : Nat → Connection → Connection}
    (hget : ∀ id, r'.connections.get? id = (r.connections.get? id).map (f id))
    (hlength : r'.connections.length = r.connections.length)
    (hf : ∀ id (c : Connection), c.Keeps (f id c))
    (hmail : ∀ {event}, (ℓ, event) ∈ r.mail → (ℓ, event) ∈ r'.mail)
    (htells : ∀ {id c}, r.connections.get? id = some c → c.listener = ℓ → c.closed = false →
      (f id c).closed = true → (ℓ, .closed) ∈ r'.mail) : ByOthers ℓ r r' where
  toGrows := grows_of_get? hget hlength hf
  enters hnone hsome := by simp [hget, hnone] at hsome
  mail := hmail
  tells {id c c'} hc hc' hl hopen hclosed := by
    rw [hget, hc] at hc'
    obtain rfl := Option.some.inj hc'
    exact htells hc hl hopen hclosed

theorem ByOthers.of_connections (h : r'.connections = r.connections)
    (hmail : ∀ {event}, (ℓ, event) ∈ r.mail → (ℓ, event) ∈ r'.mail) : ByOthers ℓ r r' :=
  .of_get? (f := fun _ c => c) (fun id => by simp [h]) (by rw [h]) (fun _ c => .refl c) hmail
    fun _ _ hopen hclosed => by simp [hopen] at hclosed

theorem ByOthers.refl (ℓ : Nat) (r : Registry) : ByOthers ℓ r r := .of_connections rfl id

theorem byOthers_enter {c : Connection} (hn : r.Numbered) (hc : c.listener ≠ ℓ) :
    ByOthers ℓ r (r.enter c) where
  toGrows := grows_enter c r
  enters {id c'} hnone hsome := by
    rw [get?_enter] at hsome
    split at hsome
    · obtain rfl := Option.some.inj hsome
      exact hc
    · simp [hnone] at hsome
  mail := id
  tells {id c' c''} hc' hc'' _ hopen hclosed := by
    have hne : r.nextId ≠ id := by
      rintro rfl
      simp [hn.get?_nextId] at hc'
    rw [get?_enter, if_neg hne, hc'] at hc''
    obtain rfl := Option.some.inj hc''
    simp [hopen] at hclosed

theorem byOthers_close (ℓ : Nat) (r : Registry) (id : Nat) : ByOthers ℓ r (r.close id) := by
  refine .of_get? (get?_close r id) (length_close r id)
    (fun _ c => c.keeps_closed.ite)
    (fun hm => mem_mail_close hm id) fun {other c} hc hl hopen hclosed => ?_
  split at hclosed
  · rename_i h
    subst h
    rw [← hl]
    exact closed_mem_mail_close hc hopen
  · simp [hopen] at hclosed

theorem byOthers_closeAny (ℓ : Nat) (r : Registry) (id : Option Nat) :
    ByOthers ℓ r (r.closeAny id) := by
  cases id with
  | none => exact .refl ℓ r
  | some id => exact byOthers_close ℓ r id

theorem byOthers_discard (ℓ : Nat) (r : Registry) (id : Nat) : ByOthers ℓ r (r.discard id) := by
  refine .of_get? (get?_discard r id) (length_discard r id)
    (fun _ c => c.keeps_discarded.ite)
    (fun hm => by simpa using hm) fun {other c} hc hl hopen hclosed => ?_
  split at hclosed <;> simp [hopen] at hclosed

theorem byOthers_report (ℓ : Nat) (event : Event) (r : Registry) (id : Nat) :
    ByOthers ℓ r (r.report event id) :=
  .of_connections (connections_report event r id) fun hm => mem_mail_report hm event id

/-- Operations that others perform one after another. -/
theorem byOthers_foldl {f : Bus → Nat → Bus}
    (hf : ∀ bus id, ByOthers ℓ bus.toRegistry (f bus id).toRegistry) (ids : List Nat) (bus : Bus)
    (hn : bus.Numbered) : ByOthers ℓ bus.toRegistry (ids.foldl f bus).toRegistry := by
  induction ids generalizing bus with
  | nil => exact .refl ℓ _
  | cons id ids ih =>
    have hfirst := hf bus id
    exact hfirst.trans hn (ih (f bus id) (hfirst.numbered hn))

end Registry

/-! ### Mail -/

theorem mem_of_takeMail {listener : Nat} {mail rest : List (Nat × Event)} {event : Event}
    (h : takeMail listener mail = some (event, rest)) {entry : Nat × Event} (he : entry ∈ mail) :
    entry = (listener, event) ∨ entry ∈ rest := by
  induction mail generalizing rest with
  | nil => simp at he
  | cons first others ih =>
    obtain ⟨l, e⟩ := first
    simp only [takeMail] at h
    split at h
    · rename_i hl
      obtain ⟨rfl, rfl⟩ : e = event ∧ others = rest := by simpa using h
      subst hl
      exact List.mem_cons.mp he
    · obtain ⟨taken, htaken, heq⟩ := Option.map_eq_some_iff.mp h
      obtain ⟨rfl, rfl⟩ := Prod.mk.inj heq
      rcases List.mem_cons.mp he with rfl | he
      · exact .inr (by simp)
      · rcases ih htaken he with hfound | hrest
        · exact .inl hfound
        · exact .inr (List.mem_cons_of_mem _ hrest)

/-- A listener takes none of the mail of others. -/
theorem Registry.byOthers_takeMail {r : Registry} {ℓ listener : Nat} {event : Event}
    {rest : List (Nat × Event)} (h : takeMail listener r.mail = some (event, rest))
    (hne : listener ≠ ℓ) : ByOthers ℓ r { r with mail := rest } :=
  .of_connections rfl fun hm => by
    rcases mem_of_takeMail h hm with heq | hrest
    · exact absurd (congrArg Prod.fst heq).symm hne
    · exact hrest

/-! ### What the other operations of a bus do to its registry -/

variable (bus : Bus)

@[simp] theorem toRegistry_beginConnect (options : Options) (files : FileSystem) :
    (bus.beginConnect options files).2.toRegistry = bus.toRegistry := by
  unfold beginConnect
  dsimp only
  split
  · rfl
  · split <;> rfl

theorem toRegistry_finishConnect (options : Options) (listener : Nat) :
    (bus.finishConnect options listener).2.toRegistry =
      if 0 < bus.failing then bus.toRegistry
      else bus.toRegistry.enter { servers := options.servers, listener } := by
  unfold finishConnect
  split <;> rfl

@[simp] theorem toRegistry_publish (id : Nat) (message : Message) :
    (bus.publish id message).2.toRegistry = bus.toRegistry := by
  unfold publish
  split
  · rfl
  · split
    · rfl
    · dsimp only
      split <;> rfl

@[simp] theorem toRegistry_subscribe (id : Nat) (pattern : String) :
    (bus.subscribe id pattern).2.toRegistry = bus.toRegistry := by
  unfold subscribe
  split
  · rfl
  · split <;> rfl

@[simp] theorem toRegistry_receive (number : Nat) (first : Branch) :
    (bus.receive number first).2.toRegistry = bus.toRegistry := by
  unfold receive
  split
  · rfl
  · dsimp only
    split
    · rfl
    · split <;> rfl

end ClaimRelay.Bus
