import ClaimRelay.Nats.Connection

/-! What a connection to NATS servers tells its listener over a run.  The client underneath reports what it
likes, and calls to close come in between, the first of which ends when what was published is sent.  What
is passed on depends on the earlier steps in two ways: whether the client was connected before, and
whether the connection has come to an end. -/

namespace ClaimRelay.Nats

/-- What happens to a connection. -/
inductive Step where
  | event (event : ClientEvent)
  /-- A call to close begins. -/
  | close
  /-- The first call to close is done with what was published before. -/
  | flushed
deriving DecidableEq

/-- Whether a step ends the connection. -/
def Step.isEnd : Step → Bool
  | .event .closed | .event .gaveUp | .flushed => true
  | _ => false

/-- A run from `start`, with its steps, the latest first. -/
inductive Run (start : Connection) : List Step → Connection → Prop
  | start : Run start [] start
  | event {log : List Step} {c : Connection} (run : Run start log c) (event : ClientEvent) :
      Run start (.event event :: log) (c.onEvent event)
  | close {log : List Step} {c : Connection} (run : Run start log c) :
      Run start (.close :: log) c.beginClose
  | flushed {log : List Step} {c : Connection} (run : Run start log c)
      (flushing : c.flushing = true) : Run start (.flushed :: log) c.endClose

theorem Run.trans {start c c' : Connection} {log later : List Step} (run : Run start log c)
    (more : Run c later c') : Run start (later ++ log) c' := by
  induction more with
  | start => exact run
  | event _ event ih => exact ih.event event
  | close _ ih => exact ih.close
  | flushed _ flushing ih => exact ih.flushed flushing

/-- What the listener is told in a step, where `earlier` are the steps before it. -/
def Step.news (earlier : List Step) : Step → Option Bus.Event
  | .event .connected => if .event .connected ∈ earlier then some .reconnected else none
  | .event .disconnected => some .disconnected
  | .event (.other text) => some (.error text)
  | .event .closed | .event .gaveUp | .flushed =>
    if earlier.any isEnd then none else some .closed
  | .close => none

/-- What the listener is told over a run, in order.  The connection is marked as closed from the step on
that ends it. -/
def reports : List Step → List Report
  | [] => []
  | step :: earlier =>
    reports earlier ++
      ((step.news earlier).map fun event => ⟨event, (step :: earlier).any Step.isEnd⟩).toList

variable {log later : List Step} {c c' : Connection} {step : Step}

theorem reports_cons_of_news_eq_none (h : step.news log = none) :
    reports (step :: log) = reports log := by
  rw [reports, h]
  exact List.append_nil _

theorem reports_cons_of_news_eq_some {event : Bus.Event} (h : step.news log = some event) :
    reports (step :: log) = reports log ++ [⟨event, (step :: log).any Step.isEnd⟩] := by
  rw [reports, h]
  rfl

theorem news_of_isEnd (h : step.isEnd = true) :
    step.news log = if log.any Step.isEnd then none else some .closed := by
  cases step with
  | event event => cases event <;> first | rfl | simp [Step.isEnd] at h
  | close => simp [Step.isEnd] at h
  | flushed => rfl

theorem news_ne_closed (h : step.isEnd = false) : step.news log ≠ some .closed := by
  cases step with
  | event event =>
    cases event with
    | connected =>
      rw [Step.news]
      split <;> simp
    | disconnected => simp [Step.news]
    | other text => simp [Step.news]
    | closed | gaveUp => simp [Step.isEnd] at h
  | close => simp [Step.news]
  | flushed => simp [Step.isEnd] at h

/-- The end is told once, when the connection is marked as closed. -/
theorem filter_reports (log : List Step) :
    (reports log).filter (·.event = .closed) =
      if log.any Step.isEnd then [⟨.closed, true⟩] else [] := by
  induction log with
  | nil => rfl
  | cons step earlier ih =>
    rw [List.any_cons]
    cases hend : step.isEnd with
    | true =>
      have hnews : step.news earlier = _ := news_of_isEnd hend
      rw [Bool.true_or, if_pos rfl]
      by_cases hearlier : earlier.any Step.isEnd = true
      · rw [if_pos hearlier] at hnews ih
        rw [reports_cons_of_news_eq_none hnews, ih]
      · rw [if_neg hearlier] at hnews ih
        rw [reports_cons_of_news_eq_some hnews, List.filter_append, ih, List.any_cons, hend]
        rfl
    | false =>
      have hother : step.news earlier ≠ some .closed := news_ne_closed hend
      rw [Bool.false_or, ← ih]
      cases hnews : step.news earlier with
      | none => rw [reports_cons_of_news_eq_none hnews]
      | some event =>
        have hevent : event ≠ .closed := fun h => hother (hnews.trans (congrArg some h))
        simp [reports_cons_of_news_eq_some hnews, hevent]

/-! ### What a connection knows of its steps -/

/-- The flags of a connection and what it has told, after the given steps. -/
structure Tracks (log : List Step) (c : Connection) : Prop where
  closed : c.closed = log.any Step.isEnd
  connectedOnce : c.connectedOnce = true ↔ .event .connected ∈ log
  hasClient : c.hasClient = false ↔ .close ∈ log
  sent : c.sent = reports log

theorem Tracks.new (id : Nat) (servers : List String) : Tracks [] { id, servers } where
  closed := rfl
  connectedOnce := by simp
  hasClient := by simp
  sent := rfl

/-- A step that changes no flag and tells what there is to tell. -/
theorem Tracks.emit {event : Bus.Event} (h : Tracks log c) (hend : step.isEnd = false)
    (hconnected : step = .event .connected → .event .connected ∈ log) (hclose : step ≠ .close)
    (hnews : step.news log = some event) : Tracks (step :: log) (c.emit event) where
  closed := by
    rw [List.any_cons, hend, Bool.false_or]
    exact h.closed
  connectedOnce := by
    rw [List.mem_cons, or_iff_right_of_imp (hconnected ·.symm)]
    exact h.connectedOnce
  hasClient := by
    rw [List.mem_cons, or_iff_right (Ne.symm hclose)]
    exact h.hasClient
  sent := by
    rw [reports_cons_of_news_eq_some hnews, List.any_cons, hend, Bool.false_or, ← h.sent, ← h.closed]
    rfl

/-- A step that ends the connection. -/
theorem Tracks.shutdown (h : Tracks log c) (hend : step.isEnd = true) :
    Tracks (step :: log) c.shutdown := by
  have hconnected : step ≠ .event .connected := by rintro rfl; simp [Step.isEnd] at hend
  have hclose : step ≠ .close := by rintro rfl; simp [Step.isEnd] at hend
  have hflags : c.shutdown.connectedOnce = c.connectedOnce ∧ c.shutdown.hasClient = c.hasClient := by
    unfold Connection.shutdown
    split <;> exact ⟨rfl, rfl⟩
  have hmarked : c.shutdown.closed = true := by
    unfold Connection.shutdown
    split
    · assumption
    · rfl
  refine ⟨?_, ?_, ?_, ?_⟩
  · rw [List.any_cons, hend, Bool.true_or, hmarked]
  · rw [List.mem_cons, or_iff_right (Ne.symm hconnected), hflags.1]
    exact h.connectedOnce
  · rw [List.mem_cons, or_iff_right (Ne.symm hclose), hflags.2]
    exact h.hasClient
  · by_cases hclosed : c.closed = true
    · have hnews : step.news log = none := by
        rw [news_of_isEnd hend, ← h.closed, if_pos hclosed]
      rw [reports_cons_of_news_eq_none hnews, Connection.shutdown, if_pos hclosed, h.sent]
    · have hnews : step.news log = some .closed := by
        rw [news_of_isEnd hend, ← h.closed, if_neg hclosed]
      rw [reports_cons_of_news_eq_some hnews, List.any_cons, hend, Bool.true_or, Connection.shutdown,
        if_neg hclosed, ← h.sent]
      rfl

theorem Tracks.event (h : Tracks log c) (event : ClientEvent) :
    Tracks (.event event :: log) (c.onEvent event) := by
  cases event with
  | connected =>
    by_cases hbefore : .event .connected ∈ log
    · have hnews : (Step.event .connected).news log = some .reconnected := if_pos hbefore
      rw [Connection.onEvent, if_pos (h.connectedOnce.mpr hbefore)]
      exact h.emit rfl (fun _ => hbefore) (by simp) hnews
    · have hnews : (Step.event .connected).news log = none := if_neg hbefore
      rw [Connection.onEvent, if_neg (mt h.connectedOnce.mp hbefore)]
      exact {
        closed := h.closed
        connectedOnce := by simp
        hasClient := by simpa using h.hasClient
        sent := (reports_cons_of_news_eq_none hnews).symm ▸ h.sent }
  | disconnected => exact h.emit rfl (by simp) (by simp) rfl
  | closed => exact h.shutdown rfl
  | gaveUp => exact h.shutdown rfl
  | other text => exact h.emit rfl (by simp) (by simp) rfl

theorem Tracks.close (h : Tracks log c) : Tracks (.close :: log) c.beginClose := by
  have hrest : c.beginClose.closed = c.closed ∧ c.beginClose.connectedOnce = c.connectedOnce ∧
      c.beginClose.sent = c.sent ∧ c.beginClose.hasClient = false := by
    unfold Connection.beginClose
    split
    · exact ⟨rfl, rfl, rfl, rfl⟩
    · rename_i hnone
      exact ⟨rfl, rfl, rfl, by simpa using hnone⟩
  obtain ⟨hclosed, hconnected, hsent, hclient⟩ := hrest
  exact {
    closed := hclosed.trans h.closed
    connectedOnce := by simpa [hconnected] using h.connectedOnce
    hasClient := by simp [hclient]
    sent := hsent.trans h.sent |>.trans (reports_cons_of_news_eq_none rfl).symm }

theorem Tracks.flushed (h : Tracks log c) (flushing : c.flushing = true) :
    Tracks (.flushed :: log) c.endClose := by
  rw [Connection.endClose, if_pos flushing]
  exact Tracks.shutdown (c := { c with flushing := false }) { h with } rfl

theorem Run.tracks {id : Nat} {servers : List String} (run : Run { id, servers } log c) :
    Tracks log c := by
  induction run with
  | start => exact .new id servers
  | event _ event ih => exact ih.event event
  | close _ ih => exact ih.close
  | flushed _ flushing ih => exact ih.flushed flushing

/-! ### Refusals -/

theorem Tracks.checkOpen (h : Tracks log c) :
    c.checkOpen = .error .connectionClosed ↔ ∃ s ∈ log, s.isEnd = true ∨ s = .close := by
  have hflags : c.checkOpen = .error .connectionClosed ↔ c.closed = true ∨ c.hasClient = false := by
    cases hclosed : c.closed <;> cases hclient : c.hasClient <;>
      simp [Connection.checkOpen, hclosed, hclient]
  rw [hflags, h.closed, h.hasClient, List.any_eq_true]
  constructor
  · rintro (⟨s, hs, hend⟩ | hs)
    · exact ⟨s, hs, .inl hend⟩
    · exact ⟨_, hs, .inr rfl⟩
  · rintro ⟨s, hs, hend | rfl⟩
    · exact .inl ⟨s, hs, hend⟩
    · exact .inr hs

theorem checkSubject_ne_closed (subject : String) :
    Bus.checkSubject subject ≠ .error .connectionClosed := by
  unfold Bus.checkSubject
  split <;> simp

theorem checkPattern_ne_closed (pattern : String) :
    Bus.checkPattern pattern ≠ .error .connectionClosed := by
  unfold Bus.checkPattern
  split <;> simp

/-- What the client underneath refuses is no refusal of a closed connection. -/
theorem mapError_ne_closed (answer : Except String Unit) :
    answer.mapError Bus.Error.client ≠ .error .connectionClosed := by
  cases answer with
  | ok value =>
    show Except.ok value ≠ .error Bus.Error.connectionClosed
    simp
  | error reason =>
    show Except.error (Bus.Error.client reason) ≠ .error .connectionClosed
    simp

theorem publish_eq_closed_iff (greatest : Nat) (client : Bus.Message → Except String Unit)
    (message : Bus.Message) :
    c.publish greatest client message = .error .connectionClosed ↔
      c.checkOpen = .error .connectionClosed := by
  unfold Connection.publish
  cases hopen : c.checkOpen with
  | error e => rfl
  | ok =>
    refine iff_of_false ?_ (by simp)
    cases hsubject : Bus.checkSubject message.subject with
    | error e =>
      have hother := checkSubject_ne_closed message.subject
      rw [hsubject] at hother
      exact hother
    | ok =>
      show (if _ then _ else _ : Except Bus.Error Unit) ≠ _
      split
      · exact nofun
      · exact mapError_ne_closed _

theorem subscribe_eq_closed_iff (client : String → Except String Unit) (pattern : String) :
    c.subscribe client pattern = .error .connectionClosed ↔
      c.checkOpen = .error .connectionClosed := by
  unfold Connection.subscribe
  cases hopen : c.checkOpen with
  | error e => rfl
  | ok =>
    refine iff_of_false ?_ (by simp)
    cases hpattern : Bus.checkPattern pattern with
    | error e =>
      have hother := checkPattern_ne_closed pattern
      rw [hpattern] at hother
      exact hother
    | ok => exact mapError_ne_closed _

/-- How what the client reports and the calls to close are passed on, however they come.  The listener is
told of each connection but the first as one that is back, of what is neither that nor an end as it is,
and of the end once: at the first end, with the connection marked as closed already.  It stays so, and from
the end or from the first call to close on it refuses messages and subscriptions. -/
theorem Run.lifecycle {id : Nat} {servers : List String} (run : Run { id, servers } log c) :
    c.sent = reports log ∧
    c.sent.filter (·.event = .closed) =
      (if log.any Step.isEnd then [⟨.closed, true⟩] else []) ∧
    (c.closed = true ↔ ∃ s ∈ log, s.isEnd = true) ∧
    (∀ {later c'}, Run c later c' → c.closed = true → c'.closed = true) ∧
    (∀ greatest client message, c.publish greatest client message = .error .connectionClosed ↔
      ∃ s ∈ log, s.isEnd = true ∨ s = .close) ∧
    (∀ client pattern, c.subscribe client pattern = .error .connectionClosed ↔
      ∃ s ∈ log, s.isEnd = true ∨ s = .close) := by
  have htracks := run.tracks
  have hclosed : c.closed = true ↔ ∃ s ∈ log, s.isEnd = true := by
    rw [htracks.closed, List.any_eq_true]
  refine ⟨htracks.sent, ?_, hclosed, fun more hend => ?_,
    fun greatest client message => ?_, fun client pattern => ?_⟩
  · rw [htracks.sent, filter_reports]
  · obtain ⟨s, hs, hisEnd⟩ := hclosed.mp hend
    rw [(run.trans more).tracks.closed, List.any_append, List.any_eq_true.mpr ⟨s, hs, hisEnd⟩,
      Bool.or_true]
  · rw [publish_eq_closed_iff, htracks.checkOpen]
  · rw [subscribe_eq_closed_iff, htracks.checkOpen]

/-- The client gives up while what was published is being sent, and comes back.  The end is told when it
gives up, and not again when all is sent. -/
theorem Run.gave_up_in_flush : ∃ log c, Run { id := 1, servers := ["nats://a"] } log c ∧
    log.count .flushed = 1 ∧
    c.sent = [⟨.reconnected, false⟩, ⟨.error "slow", false⟩, ⟨.closed, true⟩, ⟨.disconnected, true⟩,
      ⟨.reconnected, true⟩] ∧
    c.publish 64 (fun _ => .ok ()) ⟨"a", []⟩ = .error .connectionClosed := by
  have first : Run { id := 1, servers := ["nats://a"] } [] { id := 1, servers := ["nats://a"] } :=
    .start
  have run := ((((((((first.event .connected).event .connected).close).close).event
    (.other "slow")).event .gaveUp).flushed rfl).event .disconnected).event .connected
  obtain ⟨hsent, -, -, -, hpublish, -⟩ := run.lifecycle
  exact ⟨_, _, run, rfl, hsent.trans rfl, (hpublish 64 _ _).mpr ⟨.close, by simp, .inr rfl⟩⟩

end ClaimRelay.Nats
