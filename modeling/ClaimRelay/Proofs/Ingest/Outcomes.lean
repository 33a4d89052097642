import ClaimRelay.Proofs.Ingest.Handling
import ClaimRelay.Proofs.Manager.Reception
import ClaimRelay.Proofs.Store.Save

/-! What may become of a notification, whatever the store.  It is stored, with its payload saved and its
claim fresh, or dropped without a trace but a count, unless its claim would stay fresh beyond the end of the
clock: then the payload is saved, nothing else is noted, and the dispatcher ends.  Settings that are accepted
may ask for such a time. -/

namespace ClaimRelay

theorem eq_ok_of_toOption {ε α : Type} {result : Except ε α} {value : α}
    (h : result.toOption = some value) : result = .ok value := by
  cases result with
  | error e => simp [Except.toOption] at h
  | ok found => exact congrArg Except.ok (Option.some.inj h)

namespace Ingest

/-- What becomes of a notification with the cache that the settings ask for.  It is stored as a whole, with
one more notification stored; or dropped, with the store, the files and the cache unchanged and one more
notification dropped; or it crashes with its payload saved and nothing else changed, and then its expiry is
not before the end of the clock, which is not so for one that is stored. -/
theorem handle_stores_drops_or_crashes (settings : Settings) (entries : Table String Nat)
    (stored dropped now : Nat) (kind : Notification) (payload : List UInt8) (store : Store)
    (files : FileSystem) :
    let expiry := now + 1000 * settings.cacheTtl.toNat
    let before : Ingest := ⟨⟨1000 * settings.cacheTtl.toNat, entries⟩, stored, dropped⟩
    let ((outcome, _), after, store', files') :=
      (handle Store.save now kind payload).run (before, store, files)
    (∃ id, outcome = .stored id ∧ expiry < Cache.clockEnd ∧
      store'.load id files' = .ok (some payload) ∧ (after.cache.validUntil id).isSome ∧
      after.stored = stored + 1 ∧ after.dropped = dropped) ∨
    (∃ reason, outcome = .dropped reason ∧ store' = store ∧ files' = files ∧
      after.cache = before.cache ∧ after.stored = stored ∧ after.dropped = dropped + 1) ∨
    (∃ id, outcome = .crashed .beyondClock ∧ Cache.clockEnd ≤ expiry ∧
      store'.load id files' = .ok (some payload) ∧ after = before) := by
  intro expiry before
  rcases h : (handle Store.save now kind payload).run (before, store, files) with
    ⟨⟨outcome, notices⟩, after, store', files'⟩
  have hhandles := handles_of_run h
  cases hhandles with
  | @stored id _ cache _ hid hsave htouch =>
    refine .inl ⟨id, rfl, Cache.touch_ok_fits htouch, Store.load_of_save hsave, ?_, rfl, rfl⟩
    rw [Cache.validUntil, (Cache.touch_ok htouch).1, Table.get?_put, if_pos rfl]
    rfl
  | unidentified => exact .inr (.inl ⟨_, rfl, rfl, rfl, rfl, rfl, rfl⟩)
  | refused hid hsave =>
    obtain ⟨rfl, rfl⟩ := Store.unchanged_of_save hsave
    exact .inr (.inl ⟨_, rfl, rfl, rfl, rfl, rfl, rfl⟩)
  | @crashed id e _ hid hsave htouch =>
    obtain ⟨rfl, hbeyond⟩ := Cache.touch_error htouch
    exact .inr (.inr ⟨id, rfl, hbeyond, Store.load_of_save hsave, rfl⟩)

/-- A notification crashes if its payload is saved and its expiry is not before the end of the clock. -/
theorem handle_crashes {σ : Type} {save : String → List UInt8 → StateM σ (Except Store.Error Unit)}
    {now : Nat} {kind : Notification} {payload : List UInt8} {ingest : Ingest} {store store' : σ}
    {id : String} (hid : identify kind payload = .ok id)
    (hsave : (save id payload).run store = (.ok (), store'))
    (hbeyond : Cache.clockEnd ≤ now + ingest.cache.ttl) :
    (handle save now kind payload).run (ingest, store) =
      ((.crashed .beyondClock, []), ingest, store') := by
  have htouch : ingest.cache.touch now id = .error .beyondClock := by
    simp [Cache.touch, hbeyond]
  simp only [handle, StateT.run] at hsave ⊢
  rw [hid]
  dsimp only
  rw [hsave]
  dsimp only
  rw [htouch]

end Ingest

namespace Manager.Scene

/-- A dispatcher on an open connection goes on after it has taken in a message, unless that crashes. -/
theorem dispatchers_takeIn {d : Dispatcher} (message : Bus.Message) {s : Scene}
    (hwait : s.around.bus.canWait d.subscription = true) :
    (s.takeIn d message).manager.dispatchers = s.manager.dispatchers ∨
      Cache.clockEnd ≤ s.around.now + s.manager.ingest.cache.ttl := by
  rcases h : (Ingest.handle Store.save s.around.now d.kind message.payload).run
    (s.manager.ingest, s.manager.store, s.around.files) with
    ⟨⟨outcome, notices⟩, ingest, store, files⟩
  cases Ingest.handles_of_run h with
  | crashed hid hsave htouch => exact .inr (Cache.touch_error htouch).2
  | _ =>
    have htaken := reception_takeIn h (by simp)
    rw [if_pos hwait] at htaken
    exact .inl (congrArg Reception.dispatchers htaken)

/-- What is left of a crash: the payload is saved, and the dispatcher is gone. -/
theorem takeIn_crashes {d : Dispatcher} {message : Bus.Message} {s : Scene} {id : String}
    {store : Store} {files : FileSystem}
    (hid : Ingest.identify d.kind message.payload = .ok id)
    (hsave : (Store.save id message.payload).run (s.manager.store, s.around.files) =
      (.ok (), store, files))
    (hbeyond : Cache.clockEnd ≤ s.around.now + s.manager.ingest.cache.ttl) :
    (s.takeIn d message).reception =
      ({ s.reception with store, files } : Reception).drop d.subscription :=
  reception_takeIn_crashed (Ingest.handle_crashes hid hsave hbeyond)

/-- A time of 2 ^ 64 - 1 seconds is accepted, and the first account claim ends the dispatcher: the claim is
saved, but neither fresh nor counted. -/
theorem crash_with_accepted_settings :
    ∃ settings m, settings.validate = .ok () ∧ Manager.create settings 0 (.memory []) = .ok m ∧
      ∃ (d : Dispatcher) (message : Bus.Message) (around : Surroundings) (r : Reception),
        (takeIn d message ⟨{ m with dispatchers := [d] }, around⟩).reception = r ∧
        r.store.load "A" r.files = .ok (some message.payload) ∧ r.ingest = m.ingest ∧
        r.dispatchers = [] := by
  let d : Dispatcher := ⟨.accountUpdate, 1, 1, true⟩
  let message : Bus.Message :=
    ⟨"SYS.ACCOUNT.A.CLAIMS.UPDATE", Text.Utf8.encode "eyJ0eXAiOiJqd3QifQ.eyJzdWIiOiJBIn0."⟩
  have hid : Ingest.identify d.kind message.payload = .ok "A" :=
    eq_ok_of_toOption (by decide +kernel)
  refine ⟨{ primary := true, cacheTtl := 18446744073709551615 }, _, rfl, rfl, d, message,
    { files := {}, bus := Bus.ofCapacity .standard }, _, takeIn_crashes hid rfl (by decide), ?_⟩
  exact ⟨rfl, rfl, rfl⟩

end Manager.Scene

end ClaimRelay
