import ClaimRelay.Cache
import ClaimRelay.Claim.HashId
import ClaimRelay.Notice
import ClaimRelay.Notification
import ClaimRelay.Store
import ClaimRelay.Token

/-! Taking in notifications.  The token that a notification brings is read, saved under the id of
its claim, and only then is the claim made fresh; a token that cannot be read or saved is dropped
and leaves no trace but a count. -/

namespace ClaimRelay

/-- Why a notification is dropped. -/
inductive DropReason where
  /-- The payload is no token of the expected kind. -/
  | decode (reason : Token.Error)
  /-- The claim has no subject. -/
  | emptyClaim
  /-- The activation lacks a part that its hash id needs. -/
  | hashId (part : HashId.Part)
  /-- The store refuses the token. -/
  | store (reason : Store.Error)
deriving DecidableEq, Repr

/-- What becomes of a notification. -/
inductive Outcome where
  | stored (id : String)
  | dropped (reason : DropReason)
  /-- The token was saved, and then the cache failed. -/
  | crashed (reason : Cache.Error)
deriving DecidableEq, Repr

/-- What takes in notifications: the cache, and how many were stored and dropped. -/
structure Ingest where
  cache : Cache
  stored : Nat := 0
  dropped : Nat := 0

namespace Ingest

/-- The part of the program that gives the notices below. -/
def source : String := "claim_notify::handler"

/-- A claim that can be identified: the id, or why it is dropped, with a notice of that. -/
abbrev Identified := Except (DropReason × Notice) String

/-- The id of the account claim that a token carries. -/
def accountId (payload : List UInt8) : Identified := do
  match Token.decodeAccount payload with
  | .error e =>
    throw (.decode e, ⟨.debug, source,
      "Dropping account notification that is not an account claim", [("error", e.message)]⟩)
  | .ok claim =>
    if claim.isEmpty then
      throw (.emptyClaim,
        ⟨.debug, source, "Dropping account notification without a subject", []⟩)
    else return claim.subject

/-- The id of the activation that a token carries. -/
def activationId (payload : List UInt8) : Identified := do
  match Token.decodeActivation payload with
  | .error e =>
    throw (.decode e, ⟨.debug, source,
      "Dropping activation notification that is not an activation claim",
      [("error", e.message)]⟩)
  | .ok claim =>
    if claim.isEmpty then
      throw (.emptyClaim,
        ⟨.debug, source, "Dropping activation notification without a subject", []⟩)
    else match ActivationClaim.hashId claim with
      | .error part =>
        throw (.hashId part, ⟨.error, source,
          "Unable to calculate hash id from activation token in notification",
          [("error", part.message)]⟩)
      | .ok id => return id

/-- The id of the claim that a notification brings. -/
def identify : Notification → List UInt8 → Identified
  | .accountUpdate => accountId
  | .activation => activationId

/-- The notice of a token that the store refuses. -/
def unsaved (kind : Notification) (id : String) (reason : Store.Error) : Notice :=
  match kind with
  | .accountUpdate =>
    ⟨.error, source, "Unable to save account claim from notification",
      [("account", Notice.keyText id), ("error", reason.message)]⟩
  | .activation =>
    ⟨.error, source, "Unable to save activation token from notification",
      [("hash", Notice.keyText id), ("error", reason.message)]⟩

/-- Takes in a notification at `now`.  `save` saves a token under an id. -/
def handle {σ : Type} (save : String → List UInt8 → StateM σ (Except Store.Error Unit)) (now : Nat)
    (kind : Notification) (payload : List UInt8) :
    StateM (Ingest × σ) (Outcome × List Notice) := fun (ingest, store) =>
  match identify kind payload with
  | .error (reason, notice) =>
    ((.dropped reason, [notice]), { ingest with dropped := ingest.dropped + 1 }, store)
  | .ok id =>
    match (save id payload).run store with
    | (.error e, store) =>
      ((.dropped (.store e), [unsaved kind id e]),
        { ingest with dropped := ingest.dropped + 1 }, store)
    | (.ok (), store) =>
      match ingest.cache.touch now id with
      | .error e => ((.crashed e, []), ingest, store)
      | .ok (_, cache) =>
        ((.stored id, [⟨.debug, source, "Claim refreshed from notification",
            [("id", Notice.keyText id)]⟩]),
          { ingest with cache, stored := ingest.stored + 1 }, store)

end Ingest

end ClaimRelay
