import ClaimRelay.Cache
import Mathlib.Data.Finset.Card

/-! Freshness does not depend on the order of touches.  The clock is read before a touch is recorded, so a
touch with an earlier reading may be recorded after one with a later reading.  However the touches come, a
claim is fresh for the fixed time from the largest reading for it. -/

namespace ClaimRelay.Cache

/-! ### One touch -/

theorem touch_eq_ok {cache : Cache} {now : Nat} (id : String) (h : now + cache.ttl < clockEnd) :
    cache.touch now id = .ok (later (cache.entries.get? id) (now + cache.ttl),
      { cache with
        entries := cache.entries.put id (later (cache.entries.get? id) (now + cache.ttl)) }) := by
  simp [touch, Nat.not_le.mpr h]

/-- A touch changes nothing but the entry of its id. -/
theorem touch_ok {cache cache' : Cache} {now expiry : Nat} {id : String}
    (h : cache.touch now id = .ok (expiry, cache')) :
    cache' = { cache with entries := cache.entries.put id expiry } ∧
      expiry = later (cache.entries.get? id) (now + cache.ttl) := by
  unfold touch at h
  dsimp only at h
  split at h
  · simp at h
  · obtain ⟨rfl, rfl⟩ := Prod.mk.inj (Except.ok.inj h)
    exact ⟨rfl, rfl⟩

theorem touch_ok_fits {cache cache' : Cache} {now expiry : Nat} {id : String}
    (h : cache.touch now id = .ok (expiry, cache')) : now + cache.ttl < clockEnd := by
  unfold touch at h
  dsimp only at h
  split at h
  · simp at h
  · rename_i hfits
    exact Nat.lt_of_not_le hfits

theorem touch_error {cache : Cache} {now : Nat} {id : String} {e : Error}
    (h : cache.touch now id = .error e) : e = .beyondClock ∧ clockEnd ≤ now + cache.ttl := by
  unfold touch at h
  dsimp only at h
  split at h
  · rename_i hbeyond
    exact ⟨(Except.error.inj h).symm, hbeyond⟩
  · simp at h

theorem le_later {recorded : Option Nat} {earlier : Nat} (h : recorded = some earlier) (expiry : Nat) :
    earlier ≤ later recorded expiry := by
  rw [h]
  exact Nat.le_max_left ..

theorem isFresh_eq_true {cache : Cache} {now : Nat} {id : String} :
    cache.isFresh now id = true ↔ ∃ expiry, cache.validUntil id = some expiry ∧ now < expiry := by
  unfold isFresh
  cases cache.validUntil id <;> simp

/-! ### Touches in any order -/

/-- A touch as it is recorded, with the reading of the clock that was made before. -/
structure Touch where
  reading : Nat
  id : String

/-- The cache after touches.  The touch that was recorded last comes first. -/
def touchAll (first : Cache) : List Touch → Except Error Cache
  | [] => .ok first
  | t :: earlier => do
    let before ← touchAll first earlier
    let (_, after) ← before.touch t.reading t.id
    return after

/-- The largest reading for an id. -/
def largest? (id : String) (touches : List Touch) : Option Nat :=
  ((touches.filter (·.id = id)).map (·.reading)).max?

theorem largest?_cons_of_ne {t : Touch} {id : String} (h : t.id ≠ id) (earlier : List Touch) :
    largest? id (t :: earlier) = largest? id earlier := by
  unfold largest?
  rw [List.filter_cons_of_neg (by simpa using h)]

theorem largest?_cons_self (t : Touch) (earlier : List Touch) :
    largest? t.id (t :: earlier) =
      some ((largest? t.id earlier).elim t.reading (max t.reading)) := by
  unfold largest?
  rw [List.filter_cons_of_pos (by simp), List.map_cons, List.max?_cons]

theorem isSome_largest? (id : String) (touches : List Touch) :
    (largest? id touches).isSome ↔ id ∈ touches.map (·.id) := by
  have hnone : largest? id touches = none ↔ ∀ t ∈ touches, t.id ≠ id := by
    unfold largest?
    rw [List.max?_eq_none_iff, List.map_eq_nil_iff, List.filter_eq_nil_iff]
    simp
  rw [← Option.ne_none_iff_isSome, Ne, hnone]
  simp

theorem largest?_perm {touches others : List Touch} (h : touches.Perm others) (id : String) :
    largest? id touches = largest? id others := by
  have hreadings := (h.filter (·.id = id)).map (·.reading)
  apply Option.ext
  intro reading
  unfold largest?
  simp only [List.max?_eq_some_iff, hreadings.mem_iff]

/-- What a cache answers after touches. -/
structure Reflects (ttl : Nat) (touches : List Touch) (cache : Cache) : Prop where
  expiry : ∀ id, cache.validUntil id = (largest? id touches).map (· + ttl)
  fresh : ∀ now id, cache.isFresh now id = true ↔
    ∃ reading, largest? id touches = some reading ∧ now < reading + ttl
  size : cache.size = (touches.map (·.id)).toFinset.card

theorem Reflects.perm {ttl : Nat} {touches others : List Touch} {cache : Cache}
    (h : Reflects ttl touches cache) (hperm : touches.Perm others) : Reflects ttl others cache := by
  constructor
  · intro id
    rw [h.expiry, largest?_perm hperm]
  · intro now id
    rw [h.fresh, largest?_perm hperm]
  · rw [h.size, List.toFinset_eq_of_perm _ _ (hperm.map _)]

/-- What a cache is made of after touches: one entry for each id that was touched. -/
structure Holds (ttl : Nat) (touches : List Touch) (cache : Cache) : Prop where
  ttl_eq : cache.ttl = ttl
  distinct : (cache.entries.map (·.1)).Nodup
  entries : ∀ id, cache.entries.get? id = (largest? id touches).map (· + ttl)

theorem Holds.reflects {ttl : Nat} {touches : List Touch} {cache : Cache} (h : Holds ttl touches cache) :
    Reflects ttl touches cache := by
  constructor
  · exact h.entries
  · intro now id
    rw [isFresh_eq_true, validUntil, h.entries]
    cases largest? id touches <;> simp
  · have hkeys : (cache.entries.map (·.1)).toFinset = (touches.map (·.id)).toFinset := by
      ext id
      rw [List.mem_toFinset, List.mem_toFinset, ← Table.isSome_get?, h.entries, Option.isSome_map,
        isSome_largest?]
    rw [← hkeys, List.toFinset_card_of_nodup h.distinct, List.length_map]
    rfl

section Touches

variable {ttl : Nat} {t : Touch} {earlier : List Touch} {before : Cache}

/-- A touch is recorded with the largest reading so far. -/
theorem Holds.touch (h : Holds ttl earlier before) (fits : t.reading + ttl < clockEnd) :
    ∃ stored, before.touch t.reading t.id =
        .ok (stored, { before with entries := before.entries.put t.id stored }) ∧
      Holds ttl (t :: earlier) { before with entries := before.entries.put t.id stored } := by
  obtain rfl := h.ttl_eq
  refine ⟨_, touch_eq_ok t.id fits, rfl, Table.nodup_put h.distinct _ _, ?_⟩
  intro id
  dsimp only
  rw [Table.get?_put]
  by_cases hid : t.id = id
  · subst hid
    rw [if_pos rfl, largest?_cons_self, h.entries]
    cases largest? t.id earlier with
    | none => rfl
    | some reading =>
      refine congrArg some ?_
      show max (reading + before.ttl) (t.reading + before.ttl) = max t.reading reading + before.ttl
      omega
  · rw [if_neg hid, largest?_cons_of_ne hid, h.entries]

theorem touchAll_holds {touches : List Touch} (fits : ∀ t ∈ touches, t.reading + ttl < clockEnd) :
    ∃ cache, touchAll { ttl } touches = .ok cache ∧ Holds ttl touches cache := by
  induction touches with
  | nil => exact ⟨{ ttl }, rfl, rfl, List.nodup_nil, fun id => rfl⟩
  | cons t earlier ih =>
    obtain ⟨hlast, hearlier⟩ := List.forall_mem_cons.mp fits
    obtain ⟨before, hbefore, hholds⟩ := ih hearlier
    obtain ⟨stored, htouch, hafter⟩ := hholds.touch hlast
    refine ⟨_, ?_, hafter⟩
    rw [touchAll, hbefore]
    simp only [bind, Except.bind, htouch]
    rfl

/-- Touches may be recorded in any order.  After each of them a claim is fresh until the largest reading for
it and the time that a touch lasts, as far as the touches recorded so far go, and at that moment it is fresh
no more.  A touch returns what is recorded then; it makes no expiry earlier, leaves the other ids alone, and
there are as many entries as ids that were touched.  In another order the same touches lead to a cache that
answers alike. -/
theorem expiry_is_largest {touches : List Touch} (fits : ∀ t ∈ touches, t.reading + ttl < clockEnd) :
    ∃ cache, touchAll { ttl } touches = .ok cache ∧ Reflects ttl touches cache ∧
      (∀ others, touches.Perm others →
        ∃ same, touchAll { ttl } others = .ok same ∧ Reflects ttl touches same) ∧
      ∀ rest t earlier, touches = rest ++ t :: earlier → ∃ before stored after,
        touchAll { ttl } earlier = .ok before ∧
        before.touch t.reading t.id = .ok (stored, after) ∧
        touchAll { ttl } (t :: earlier) = .ok after ∧ Reflects ttl (t :: earlier) after ∧
        after.validUntil t.id = some stored ∧
        (∀ expiry, before.validUntil t.id = some expiry → expiry ≤ stored) ∧
        ∀ id, id ≠ t.id → after.validUntil id = before.validUntil id := by
  obtain ⟨cache, hcache, hholds⟩ := touchAll_holds fits
  refine ⟨cache, hcache, hholds.reflects, ?_, ?_⟩
  · intro others hperm
    obtain ⟨same, hsame, hothers⟩ := touchAll_holds fun t ht => fits t (hperm.mem_iff.mpr ht)
    exact ⟨same, hsame, hothers.reflects.perm hperm.symm⟩
  · rintro rest t earlier rfl
    have hearlier : ∀ s ∈ t :: earlier, s.reading + ttl < clockEnd :=
      fun s hs => fits s (List.mem_append_right rest hs)
    obtain ⟨before, hbefore, hheld⟩ := touchAll_holds fun s hs => hearlier s (List.mem_cons_of_mem t hs)
    obtain ⟨stored, htouch, hafter⟩ := hheld.touch (hearlier t List.mem_cons_self)
    refine ⟨before, stored, _, hbefore, htouch, ?_, hafter.reflects, ?_, ?_, ?_⟩
    · rw [touchAll, hbefore]
      simp only [bind, Except.bind, htouch]
      rfl
    · rw [validUntil, Table.get?_put, if_pos rfl]
    · intro expiry hexpiry
      rw [(touch_ok htouch).2]
      exact le_later hexpiry _
    · intro id hid
      rw [validUntil, Table.get?_put, if_neg hid.symm]
      rfl

/-- The touch of `A` that is recorded last was read first. -/
theorem late_record_keeps_expiry :
    let touches : List Touch := [⟨3, "A"⟩, ⟨9, "A"⟩, ⟨5, "B"⟩]
    (∀ t ∈ touches, t.reading + 10 < clockEnd) ∧
    ∃ cache, touchAll { ttl := 10 } touches = .ok cache ∧ cache.validUntil "A" = some 19 ∧
      cache.isFresh 18 "A" = true ∧ cache.isFresh 19 "A" = false ∧ cache.size = 2 := by
  intro touches
  have fits : ∀ t ∈ touches, t.reading + 10 < clockEnd := by decide
  obtain ⟨cache, hcache, hreflects, -⟩ := expiry_is_largest fits
  have hlargest : largest? "A" touches = some 9 := by decide
  refine ⟨fits, cache, hcache, ?_, ?_, ?_, hreflects.size⟩
  · rw [hreflects.expiry, hlargest]
    rfl
  · exact (hreflects.fresh 18 "A").mpr ⟨9, hlargest, by decide⟩
  · rw [Bool.eq_false_iff, Ne, hreflects.fresh, hlargest]
    simp

end Touches

end ClaimRelay.Cache
