import ClaimRelay.Bus.Channel

/-! What a reader finds in a channel.  A search finds the first message from a place on that a pattern
covers.  A channel only grows: a message keeps its place for good. -/

namespace ClaimRelay.Bus.Channel

variable {channel later latest : Channel} {pattern : String} {place found other : Nat}
  {message : Message}

/-- A message that `pattern` covers is at a place. -/
def Holds (channel : Channel) (pattern : String) (place : Nat) (message : Message) : Prop :=
  channel.history[place]? = some message ∧ Subject.isMatch pattern message.subject = true

theorem Holds.lt_tail (h : channel.Holds pattern place message) : place < channel.tail :=
  (Array.getElem?_eq_some_iff.mp h.1).1

/-! ### Searches -/

/-- A search finds a message that the pattern covers, and none comes before it. -/
theorem search_found (h : channel.search pattern place = some (found, message)) :
    place ≤ found ∧ channel.Holds pattern found message ∧
      ∀ {other m}, place ≤ other → channel.Holds pattern other m → found ≤ other := by
  fun_induction Channel.search channel pattern place with
  | case1 place hlt first hmatch =>
    obtain ⟨rfl, rfl⟩ := Prod.mk.inj (Option.some.inj h)
    exact ⟨Nat.le_refl _, ⟨Array.getElem?_eq_getElem hlt, hmatch⟩, fun hle _ => hle⟩
  | case2 place hlt first hmatch ih =>
    obtain ⟨hle, hholds, hleast⟩ := ih h
    refine ⟨Nat.le_of_succ_le hle, hholds, fun {other m} hother hm => hleast ?_ hm⟩
    rcases Nat.eq_or_lt_of_le hother with rfl | hlater
    · obtain rfl : channel.history[place] = m :=
        Option.some.inj ((Array.getElem?_eq_getElem hlt).symm.trans hm.1)
      exact absurd hm.2 hmatch
    · exact hlater
  | case3 place hend => simp at h

theorem search_isSome (h : channel.Holds pattern other message) (hle : place ≤ other) :
    ∃ found first, channel.search pattern place = some (found, first) ∧ found ≤ other := by
  cases hsearch : channel.search pattern place with
  | some result =>
    obtain ⟨found, first⟩ := result
    exact ⟨found, first, rfl, (search_found hsearch).2.2 hle h⟩
  | none =>
    exfalso
    fun_induction Channel.search channel pattern place with
    | case1 place hlt first hmatch => simp at hsearch
    | case2 place hlt first hmatch ih =>
      rcases Nat.eq_or_lt_of_le hle with rfl | hlater
      · obtain rfl : channel.history[place] = message :=
          Option.some.inj ((Array.getElem?_eq_getElem hlt).symm.trans h.1)
        exact hmatch h.2
      · exact ih hlater hsearch
    | case3 place hend => exact hend (Nat.lt_of_le_of_lt hle h.lt_tail)

/-! ### Growth -/

/-- Each message of the channel is at the same place later. -/
structure Grows (channel later : Channel) : Prop where
  keeps : ∀ {place : Nat} {message : Message}, channel.history[place]? = some message →
    later.history[place]? = some message

theorem Grows.refl (channel : Channel) : channel.Grows channel := ⟨id⟩

theorem Grows.trans (h1 : channel.Grows later) (h2 : later.Grows latest) : channel.Grows latest :=
  ⟨fun h => h2.keeps (h1.keeps h)⟩

theorem Grows.tail_le (h : channel.Grows later) : channel.tail ≤ later.tail := by
  refine Nat.le_of_not_lt fun hlt => ?_
  have hget := h.keeps
    (Array.getElem?_eq_getElem (show later.tail < channel.history.size from hlt))
  exact Nat.lt_irrefl _ (Array.getElem?_eq_some_iff.mp hget).1

theorem Grows.holds (h : channel.Grows later) (hm : channel.Holds pattern place message) :
    later.Holds pattern place message :=
  ⟨h.keeps hm.1, hm.2⟩

/-- What is at an old place was there before. -/
theorem Grows.holds_of_lt (h : channel.Grows later) (hlt : place < channel.tail)
    (hm : later.Holds pattern place message) : channel.Holds pattern place message := by
  have hold : channel.history[place]? = some channel.history[place] := Array.getElem?_eq_getElem hlt
  obtain rfl := Option.some.inj ((h.keeps hold).symm.trans hm.1)
  exact ⟨hold, hm.2⟩

/-- What is at a place later, if anything, is there before or not sent yet. -/
theorem Grows.unsent_or_holds (h : channel.Grows later)
    (hm : later.tail ≤ place ∨ ∃ message, later.Holds pattern place message) :
    channel.tail ≤ place ∨ ∃ message, channel.Holds pattern place message := by
  by_cases hlt : place < channel.tail
  · rcases hm with hunsent | ⟨message, hm⟩
    · exact .inl (Nat.le_trans h.tail_le hunsent)
    · exact .inr ⟨message, h.holds_of_lt hlt hm⟩
  · exact .inl (Nat.le_of_not_lt hlt)

theorem grows_send (message : Message) (channel : Channel) :
    channel.Grows (channel.send message) where
  keeps {place m} h := by
    have hlt := (Array.getElem?_eq_some_iff.mp h).1
    rw [send, Array.getElem?_push_lt hlt, ← h, Array.getElem?_eq_getElem hlt]

/-- A message that is sent gets the next place. -/
theorem getElem?_send (message : Message) (channel : Channel) :
    (channel.send message).history[channel.tail]? = some message := by
  simp [send, tail]

end ClaimRelay.Bus.Channel
