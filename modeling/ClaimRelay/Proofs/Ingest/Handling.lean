import ClaimRelay.Ingest
import ClaimRelay.Proofs.Cache
import ClaimRelay.Proofs.Store.Save

/-! What is left behind when notifications are taken in one after another.  `Handles` says what becomes
of one notification, with any store.  The main result is about a whole sequence: a store in memory holds
for each id the payload that was stored last, and the cache says of the same ids until when they are
fresh. -/

namespace ClaimRelay

/-- Whether a notification was stored. -/
def Outcome.isStored : Outcome → Bool
  | .stored _ => true
  | _ => false

/-- Whether a notification was dropped. -/
def Outcome.isDropped : Outcome → Bool
  | .dropped _ => true
  | _ => false

namespace Ingest

variable {σ : Type} {save : String → List UInt8 → StateM σ (Except Store.Error Unit)}

/-- What may become of a notification, and of the state with a store. -/
inductive Handles (save : String → List UInt8 → StateM σ (Except Store.Error Unit)) (now : Nat)
    (kind : Notification) (payload : List UInt8) (ingest : Ingest) (store : σ) :
    Outcome → Ingest × σ → Prop
  | stored {id : String} {expiry : Nat} {cache : Cache} {store' : σ}
      (hid : identify kind payload = .ok id)
      (hsave : (save id payload).run store = (.ok (), store'))
      (htouch : ingest.cache.touch now id = .ok (expiry, cache)) :
      Handles save now kind payload ingest store (.stored id)
        ({ ingest with cache, stored := ingest.stored + 1 }, store')
  | unidentified {reason : DropReason} {notice : Notice}
      (hid : identify kind payload = .error (reason, notice)) :
      Handles save now kind payload ingest store (.dropped reason)
        ({ ingest with dropped := ingest.dropped + 1 }, store)
  | refused {id : String} {e : Store.Error} {store' : σ} (hid : identify kind payload = .ok id)
      (hsave : (save id payload).run store = (.error e, store')) :
      Handles save now kind payload ingest store (.dropped (.store e))
        ({ ingest with dropped := ingest.dropped + 1 }, store')
  /-- The payload was saved, and then its expiry is beyond the clock. -/
  | crashed {id : String} {e : Cache.Error} {store' : σ} (hid : identify kind payload = .ok id)
      (hsave : (save id payload).run store = (.ok (), store'))
      (htouch : ingest.cache.touch now id = .error e) :
      Handles save now kind payload ingest store (.crashed e) (ingest, store')

variable (save) in
theorem handle_handles (now : Nat) (kind : Notification) (payload : List UInt8) (ingest : Ingest)
    (store : σ) :
    Handles save now kind payload ingest store
      ((handle save now kind payload).run (ingest, store)).1.1
      ((handle save now kind payload).run (ingest, store)).2 := by
  simp only [handle, StateT.run]
  split
  · rename_i reason notice hid
    exact .unidentified hid
  · rename_i id hid
    split
    · rename_i e store' hsave
      exact .refused hid hsave
    · rename_i store' hsave
      split
      · rename_i e htouch
        exact .crashed hid hsave htouch
      · rename_i expiry cache htouch
        exact .stored hid hsave htouch

theorem handles_of_run {now : Nat} {kind : Notification} {payload : List UInt8} {ingest : Ingest}
    {store : σ} {outcome : Outcome} {notices : List Notice} {after : Ingest × σ}
    (h : (handle save now kind payload).run (ingest, store) = ((outcome, notices), after)) :
    Handles save now kind payload ingest store outcome after := by
  have hhandles := handle_handles save now kind payload ingest store
  rw [h] at hhandles
  exact hhandles

/-- A notification touches nothing in a store but what is under the id of its claim. -/
theorem Handles.load_of_other {now : Nat} {kind : Notification} {payload : List UInt8}
    {ingest next : Ingest} {before after : Store × FileSystem} {outcome : Outcome} {key : String}
    (hother : ∀ id, identify kind payload = .ok id → id ≠ key)
    (h : Handles Store.save now kind payload ingest before outcome (next, after)) :
    after.1.load key after.2 = before.1.load key before.2 := by
  cases h with
  | unidentified => rfl
  | stored hid hsave | refused hid hsave | crashed hid hsave =>
    exact Store.load_of_other (hother _ hid) hsave

/-! ### One notification after another -/

/-- A notification that comes to be taken in. -/
structure Arrival where
  time : Nat
  kind : Notification
  payload : List UInt8
deriving DecidableEq

/-- What happened to a notification: the state with the store before, the outcome, and the state
after. -/
structure Handling (σ : Type) where
  arrival : Arrival
  before : Ingest × σ
  outcome : Outcome
  after : Ingest × σ

/-- What happens when notifications are taken in one after another, and the state in the end.  Here, and
in the list of what happened, the latest notification comes first. -/
def takeAll (save : String → List UInt8 → StateM σ (Except Store.Error Unit)) (first : Ingest × σ) :
    List Arrival → List (Handling σ) × (Ingest × σ)
  | [] => ([], first)
  | a :: earlier =>
    let (log, before) := takeAll save first earlier
    let ((outcome, _), after) := (handle save a.time a.kind a.payload).run before
    (⟨a, before, outcome, after⟩ :: log, after)

/-- The latest notification that was stored under an id. -/
def lastStored (id : String) (log : List (Handling σ)) : Option Arrival :=
  (log.find? (·.outcome = .stored id)).map (·.arrival)

variable (save)

theorem takeAll_cons (first : Ingest × σ) (a : Arrival) (earlier : List Arrival) :
    ∃ outcome after,
      takeAll save first (a :: earlier) =
        (⟨a, (takeAll save first earlier).2, outcome, after⟩ :: (takeAll save first earlier).1,
          after) ∧
      Handles save a.time a.kind a.payload (takeAll save first earlier).2.1
        (takeAll save first earlier).2.2 outcome after :=
  ⟨_, _, rfl, handle_handles ..⟩

theorem map_arrival_takeAll (first : Ingest × σ) (arrivals : List Arrival) :
    (takeAll save first arrivals).1.map (·.arrival) = arrivals := by
  induction arrivals with
  | nil => rfl
  | cons a earlier ih =>
    obtain ⟨outcome, after, htake, -⟩ := takeAll_cons save first a earlier
    rw [htake, List.map_cons, ih]

theorem lastStored_cons (id : String) (h : Handling σ) (log : List (Handling σ)) :
    lastStored id (h :: log) =
      if h.outcome = .stored id then some h.arrival else lastStored id log := by
  unfold lastStored
  by_cases hstored : h.outcome = .stored id
  · simp [hstored]
  · simp [hstored]

theorem lastStored_cons_of_not_stored {h : Handling σ} (hnot : ∀ id, h.outcome ≠ .stored id)
    (id : String) (log : List (Handling σ)) : lastStored id (h :: log) = lastStored id log := by
  rw [lastStored_cons, if_neg (hnot id)]

theorem lastStored_mem {id : String} {log : List (Handling σ)} {a : Arrival}
    (h : lastStored id log = some a) : a ∈ log.map (·.arrival) := by
  obtain ⟨entry, hfind, rfl⟩ := Option.map_eq_some_iff.mp h
  exact List.mem_map_of_mem (List.mem_of_find?_eq_some hfind)

/-! ### What every notification keeps -/

section Handles

variable {save} {now : Nat} {kind : Notification} {payload : List UInt8} {ingest : Ingest} {store : σ}
  {outcome : Outcome} {after : Ingest × σ}

theorem Handles.ttl (h : Handles save now kind payload ingest store outcome after) :
    after.1.cache.ttl = ingest.cache.ttl := by
  cases h with
  | stored hid hsave htouch => rw [(Cache.touch_ok htouch).1]
  | _ => rfl

theorem Handles.counts (h : Handles save now kind payload ingest store outcome after) :
    after.1.stored = ingest.stored + (if outcome.isStored then 1 else 0) ∧
      after.1.dropped = ingest.dropped + (if outcome.isDropped then 1 else 0) := by
  cases h <;> exact ⟨rfl, rfl⟩

/-- Nothing crashes if the expiry is before the end of the clock. -/
theorem Handles.not_crashed {e : Cache.Error}
    (h : Handles save now kind payload ingest store (.crashed e) after)
    (fits : now + ingest.cache.ttl < Cache.clockEnd) : False := by
  cases h with
  | @crashed id _ _ hid hsave htouch =>
    rw [Cache.touch_eq_ok id fits] at htouch
    simp at htouch

/-- A notification is stored or dropped if its expiry is before the end of the clock. -/
theorem Handles.counted (h : Handles save now kind payload ingest store outcome after)
    (fits : now + ingest.cache.ttl < Cache.clockEnd) :
    after.1.stored + after.1.dropped = ingest.stored + ingest.dropped + 1 := by
  cases h with
  | crashed hid hsave htouch => exact (Handles.crashed hid hsave htouch).not_crashed fits |>.elim
  | stored => exact Nat.add_right_comm ..
  | _ => rfl

end Handles

theorem ttl_takeAll (first : Ingest × σ) (arrivals : List Arrival) :
    (takeAll save first arrivals).2.1.cache.ttl = first.1.cache.ttl := by
  induction arrivals with
  | nil => rfl
  | cons a earlier ih =>
    obtain ⟨outcome, after, htake, hhandles⟩ := takeAll_cons save first a earlier
    rw [htake]
    exact hhandles.ttl.trans ih

theorem counts_takeAll (first : Ingest × σ) (arrivals : List Arrival) :
    (takeAll save first arrivals).2.1.stored =
        first.1.stored + (takeAll save first arrivals).1.countP (·.outcome.isStored) ∧
      (takeAll save first arrivals).2.1.dropped =
        first.1.dropped + (takeAll save first arrivals).1.countP (·.outcome.isDropped) := by
  induction arrivals with
  | nil => exact ⟨rfl, rfl⟩
  | cons a earlier ih =>
    obtain ⟨outcome, after, htake, hhandles⟩ := takeAll_cons save first a earlier
    obtain ⟨hstored, hdropped⟩ := hhandles.counts
    rw [htake, List.countP_cons, List.countP_cons]
    exact ⟨by rw [hstored, ih.1, Nat.add_assoc], by rw [hdropped, ih.2, Nat.add_assoc]⟩

theorem counted_takeAll (first : Ingest × σ) (arrivals : List Arrival)
    (fits : ∀ a ∈ arrivals, a.time + first.1.cache.ttl < Cache.clockEnd) :
    (takeAll save first arrivals).2.1.stored + (takeAll save first arrivals).2.1.dropped =
      first.1.stored + first.1.dropped + arrivals.length := by
  induction arrivals with
  | nil => rfl
  | cons a earlier ih =>
    obtain ⟨hlast, hearlier⟩ := List.forall_mem_cons.mp fits
    obtain ⟨outcome, after, htake, hhandles⟩ := takeAll_cons save first a earlier
    rw [← ttl_takeAll save first earlier] at hlast
    rw [htake]
    dsimp only
    rw [hhandles.counted hlast, ih hearlier, List.length_cons]
    rfl

/-! ### Fresh claims were saved -/

variable {save}

/-- Some save of a notification under the id succeeded. -/
def Saved (save : String → List UInt8 → StateM σ (Except Store.Error Unit)) (id : String)
    (log : List (Handling σ)) : Prop :=
  ∃ h ∈ log, identify h.arrival.kind h.arrival.payload = .ok id ∧
    ((save id h.arrival.payload).run h.before.2).1 = .ok ()

theorem Saved.cons {id : String} {log : List (Handling σ)} (h : Saved save id log)
    (entry : Handling σ) : Saved save id (entry :: log) := by
  obtain ⟨h₀, hmem, hsaved⟩ := h
  exact ⟨h₀, List.mem_cons_of_mem _ hmem, hsaved⟩

/-- With any store, only an id that was saved is in the cache. -/
theorem saved_of_entry (ttl : Nat) (store : σ) (arrivals : List Arrival) (id : String)
    (h : ((takeAll save ({ cache := { ttl } }, store) arrivals).2.1.cache.validUntil id).isSome) :
    Saved save id (takeAll save ({ cache := { ttl } }, store) arrivals).1 := by
  induction arrivals with
  | nil => simp [takeAll, Cache.validUntil] at h
  | cons a earlier ih =>
    obtain ⟨outcome, after, htake, hhandles⟩ :=
      takeAll_cons save ({ cache := { ttl } }, store) a earlier
    rw [htake] at h ⊢
    cases hhandles with
    | @stored id' expiry cache store' hid hsave htouch =>
      rw [Cache.validUntil, (Cache.touch_ok htouch).1, Table.get?_put] at h
      split at h
      · rename_i hsame
        subst hsame
        exact ⟨_, List.mem_cons_self, hid, by rw [hsave]⟩
      · exact (ih h).cons _
    | _ => exact (ih h).cons _

/-! ### A store in memory -/

theorem save_memory {id : String} {payload : List UInt8} {claims : Store.Memory}
    {files : FileSystem} {result : Except Store.Error Unit} {after : Store × FileSystem}
    (h : (Store.save id payload).run (.memory claims, files) = (result, after)) :
    result = .ok () ∧ after = (.memory (claims.put id payload), files) ∨
      result ≠ .ok () ∧ after = (.memory claims, files) := by
  rw [Store.run_save_memory] at h
  split at h
  · obtain ⟨rfl, rfl⟩ := Prod.mk.inj h
    exact .inl ⟨rfl, rfl⟩
  · obtain ⟨rfl, rfl⟩ := Prod.mk.inj h
    exact .inr ⟨by simp, rfl⟩

/-- A claim whose id is a key is always saved in memory. -/
theorem Handles.after_eq_put {now : Nat} {kind : Notification} {payload : List UInt8}
    {ingest next : Ingest} {claims : Store.Memory} {files : FileSystem} {outcome : Outcome}
    {after : Store × FileSystem} {id : String} (hid : identify kind payload = .ok id)
    (hkey : Store.isKey id = true)
    (h : Handles Store.save now kind payload ingest (.memory claims, files) outcome (next, after)) :
    after = (.memory (claims.put id payload), files) := by
  have hrun := Store.run_save_memory id payload claims files
  rw [if_pos hkey] at hrun
  cases h with
  | unidentified hnone => simp [hid] at hnone
  | stored hsame hsave | refused hsame hsave | crashed hsame hsave =>
    obtain rfl := Except.ok.inj (hid.symm.trans hsame)
    exact (Prod.mk.inj (hrun.symm.trans hsave)).2.symm

/-- A store in memory and a cache hold what was stored last under each id. -/
structure Keeps (log : List (Handling (Store × FileSystem))) (ingest : Ingest) (store : Store) :
    Prop where
  claims : ∃ claims, store = .memory claims ∧
    ∀ id, claims.get? id = (lastStored id log).map (·.payload)
  entries : ∀ id, ingest.cache.entries.get? id =
    (lastStored id log).map (·.time + ingest.cache.ttl)

section Keeps

variable {log : List (Handling (Store × FileSystem))} {ingest : Ingest}
  {before after : Store × FileSystem} {a : Arrival} {outcome : Outcome} {next : Ingest}

/-- A notification that is dropped leaves the store and the cache as they are. -/
theorem Handles.unchanged {claims : Store.Memory} {files : FileSystem} {reason : DropReason}
    (h : Handles Store.save a.time a.kind a.payload ingest (.memory claims, files)
      (.dropped reason) (next, after)) :
    after = (.memory claims, files) ∧ next.cache = ingest.cache := by
  cases h with
  | unidentified => exact ⟨rfl, rfl⟩
  | refused hid hsave =>
    rcases save_memory hsave with ⟨hok, -⟩ | ⟨-, hsame⟩
    · simp at hok
    · exact ⟨hsame, rfl⟩

/-- Among the notifications taken in so far the last one has the latest expiry. -/
theorem Keeps.later (h : Keeps log ingest before.1) (id : String)
    (sorted : ∀ earlier ∈ log.map (·.arrival), earlier.time ≤ a.time) :
    Cache.later (ingest.cache.entries.get? id) (a.time + ingest.cache.ttl) =
      a.time + ingest.cache.ttl := by
  rw [h.entries id]
  cases hlast : lastStored id log with
  | none => rfl
  | some earlier =>
    have hle := sorted earlier (lastStored_mem hlast)
    show max (earlier.time + ingest.cache.ttl) (a.time + ingest.cache.ttl) = _
    omega

theorem Handles.keeps
    (h : Handles Store.save a.time a.kind a.payload ingest before outcome (next, after))
    (hkeeps : Keeps log ingest before.1)
    (sorted : ∀ earlier ∈ log.map (·.arrival), earlier.time ≤ a.time)
    (fits : a.time + ingest.cache.ttl < Cache.clockEnd) :
    Keeps (⟨a, (ingest, before), outcome, (next, after)⟩ :: log) next after.1 := by
  obtain ⟨store, files⟩ := before
  obtain ⟨claims, rfl, hclaims⟩ := hkeeps.claims
  cases outcome with
  | stored id =>
    cases h with
    | @stored _ expiry cache _ hid hsave htouch =>
      obtain ⟨rfl, hexpiry⟩ := Cache.touch_ok htouch
      rw [hkeeps.later id sorted] at hexpiry
      obtain ⟨-, rfl⟩ | ⟨hnot, -⟩ := save_memory hsave
      · refine ⟨⟨_, rfl, fun other => ?_⟩, fun other => ?_⟩
        · rw [Table.get?_put, lastStored_cons, hclaims]
          by_cases hother : id = other
          · simp [hother]
          · simp [hother]
        · dsimp only
          rw [Table.get?_put, lastStored_cons, hkeeps.entries, hexpiry]
          by_cases hother : id = other
          · simp [hother]
          · simp [hother]
      · exact absurd rfl hnot
  | dropped reason =>
    obtain ⟨rfl, hcache⟩ := h.unchanged
    refine ⟨⟨claims, rfl, fun id => ?_⟩, fun id => ?_⟩
    · rw [lastStored_cons_of_not_stored (by simp), hclaims]
    · rw [lastStored_cons_of_not_stored (by simp), hcache, hkeeps.entries]
  | crashed e => exact (h.not_crashed fits).elim

end Keeps

theorem keeps_takeAll (ttl : Nat) (files : FileSystem) (arrivals : List Arrival)
    (sorted : arrivals.Pairwise fun late early => early.time ≤ late.time)
    (fits : ∀ a ∈ arrivals, a.time + ttl < Cache.clockEnd) :
    Keeps (takeAll Store.save ({ cache := { ttl } }, .memory [], files) arrivals).1
      (takeAll Store.save ({ cache := { ttl } }, .memory [], files) arrivals).2.1
      (takeAll Store.save ({ cache := { ttl } }, .memory [], files) arrivals).2.2.1 := by
  induction arrivals with
  | nil => exact ⟨⟨[], rfl, fun _ => rfl⟩, fun _ => rfl⟩
  | cons a earlier ih =>
    obtain ⟨hlast, hearlier⟩ := List.forall_mem_cons.mp fits
    obtain ⟨hle, hsorted⟩ := List.pairwise_cons.mp sorted
    obtain ⟨outcome, after, htake, hhandles⟩ :=
      takeAll_cons Store.save ({ cache := { ttl } }, .memory [], files) a earlier
    rw [htake]
    refine hhandles.keeps (ih hsorted hearlier) ?_ ?_
    · rw [map_arrival_takeAll]
      exact hle
    · rw [ttl_takeAll]
      exact hlast

/-- A store in memory stays one, and a notification that was dropped has changed neither the store nor
the cache. -/
theorem unchanged_takeAll (ingest : Ingest) (claims : Store.Memory) (files : FileSystem)
    (arrivals : List Arrival) :
    (∃ claims', (takeAll Store.save (ingest, .memory claims, files) arrivals).2.2 =
      (.memory claims', files)) ∧
    ∀ h ∈ (takeAll Store.save (ingest, .memory claims, files) arrivals).1, ∀ reason,
      h.outcome = .dropped reason → h.after.2 = h.before.2 ∧ h.after.1.cache = h.before.1.cache := by
  induction arrivals with
  | nil => exact ⟨⟨claims, rfl⟩, fun h hmem => nomatch hmem⟩
  | cons a earlier ih =>
    obtain ⟨⟨claims', hbefore⟩, hearlier⟩ := ih
    obtain ⟨outcome, after, htake, hhandles⟩ :=
      takeAll_cons Store.save (ingest, .memory claims, files) a earlier
    rw [htake]
    rw [hbefore] at hhandles
    refine ⟨?_, List.forall_mem_cons.mpr ⟨fun reason hdropped => ?_, hearlier⟩⟩
    · cases hhandles with
      | unidentified => exact ⟨_, rfl⟩
      | stored hid hsave | refused hid hsave | crashed hid hsave =>
        rcases save_memory hsave with ⟨-, rfl⟩ | ⟨-, rfl⟩ <;> exact ⟨_, rfl⟩
    · obtain rfl : outcome = .dropped reason := hdropped
      obtain ⟨hstore, hcache⟩ := hhandles.unchanged
      exact ⟨hstore.trans hbefore.symm, hcache⟩

/-- What is left behind when notifications are taken in one after another, with a store in memory and a
cache that are empty at first.  For each id the store holds the payload of the latest notification that
was stored under it, and the cache says that it is fresh until the time of that notification and the
time a touch lasts, or they both hold nothing.  A notification that was dropped has changed neither.  The
counts are those of the notifications stored and dropped, and together of all.  With a store that may
refuse any save, an id is in the cache only if some save of it succeeded. -/
theorem takeAll_leaves {ttl : Nat} {files files' : FileSystem} {arrivals : List Arrival}
    {log : List (Handling (Store × FileSystem))} {ingest : Ingest} {store : Store}
    (sorted : arrivals.Pairwise fun late early => early.time ≤ late.time)
    (fits : ∀ a ∈ arrivals, a.time + ttl < Cache.clockEnd)
    (h : takeAll Store.save ({ cache := { ttl } }, .memory [], files) arrivals =
      (log, ingest, store, files')) :
    log.map (·.arrival) = arrivals ∧
    (∀ id, store.load id files' = .ok ((lastStored id log).map (·.payload)) ∧
      ingest.cache.validUntil id = (lastStored id log).map (·.time + ttl)) ∧
    (∀ entry ∈ log, ∀ reason, entry.outcome = .dropped reason →
      entry.after.2 = entry.before.2 ∧ entry.after.1.cache = entry.before.1.cache) ∧
    ingest.stored = log.countP (·.outcome.isStored) ∧
    ingest.dropped = log.countP (·.outcome.isDropped) ∧
    ingest.stored + ingest.dropped = arrivals.length ∧
    ∀ {σ : Type} (save : String → List UInt8 → StateM σ (Except Store.Error Unit)) (first : σ)
      (id : String),
      ((takeAll save ({ cache := { ttl } }, first) arrivals).2.1.cache.validUntil id).isSome →
        Saved save id (takeAll save ({ cache := { ttl } }, first) arrivals).1 := by
  have hkeeps := keeps_takeAll ttl files arrivals sorted fits
  have httl := ttl_takeAll Store.save ({ cache := { ttl } }, .memory [], files) arrivals
  have hcounts :=
    counts_takeAll Store.save ({ cache := { ttl } }, .memory [], files) arrivals
  have hcounted :=
    counted_takeAll Store.save ({ cache := { ttl } }, .memory [], files) arrivals fits
  have hunchanged :=
    (unchanged_takeAll { cache := { ttl } } [] files arrivals).2
  have harrivals :=
    map_arrival_takeAll Store.save ({ cache := { ttl } }, .memory [], files) arrivals
  rw [h] at hkeeps httl hcounts hcounted hunchanged harrivals
  obtain ⟨claims, rfl, hclaims⟩ := hkeeps.claims
  refine ⟨harrivals, fun id => ⟨?_, ?_⟩, hunchanged, ?_, ?_, ?_, fun save first id =>
    saved_of_entry ttl first arrivals id⟩
  · exact congrArg Except.ok (hclaims id)
  · rw [Cache.validUntil, hkeeps.entries id, httl]
  · exact hcounts.1.trans (Nat.zero_add _)
  · exact hcounts.2.trans (Nat.zero_add _)
  · exact hcounted.trans (Nat.zero_add _)

/-- A claim that is stored twice, and then a payload that is no token: the claim is fresh as from the
second time. -/
theorem stored_twice : ∃ log ingest store files,
    let token := Text.Utf8.encode "eyJ0eXAiOiJqd3QifQ.eyJzdWIiOiJBIn0."
    takeAll Store.save ({ cache := { ttl := 10 } }, .memory [], {})
        [⟨9, .activation, []⟩, ⟨5, .accountUpdate, token⟩, ⟨1, .accountUpdate, token⟩] =
      (log, ingest, store, files) ∧
    store.load "A" files = .ok (some token) ∧ ingest.cache.validUntil "A" = some 15 ∧
      ingest.stored = 2 ∧ ingest.dropped = 1 := by
  let token := Text.Utf8.encode "eyJ0eXAiOiJqd3QifQ.eyJzdWIiOiJBIn0."
  rcases h : takeAll Store.save ({ cache := { ttl := 10 } }, .memory [], {})
    [⟨9, .activation, []⟩, ⟨5, .accountUpdate, token⟩, ⟨1, .accountUpdate, token⟩] with
    ⟨log, ingest, store, files⟩
  obtain ⟨-, hleaves, -, hstored, hdropped, -⟩ := takeAll_leaves (by simp) (by decide) h
  obtain ⟨hlast, htwo, hone⟩ : lastStored "A" log = some ⟨5, .accountUpdate, token⟩ ∧
      log.countP (·.outcome.isStored) = 2 ∧ log.countP (·.outcome.isDropped) = 1 := by
    obtain rfl := congrArg Prod.fst h
    decide +kernel
  obtain ⟨hclaim, hfresh⟩ := hleaves "A"
  rw [hlast] at hclaim hfresh
  exact ⟨log, ingest, store, files, h, hclaim, hfresh, hstored.trans htwo, hdropped.trans hone⟩

end Ingest

end ClaimRelay
