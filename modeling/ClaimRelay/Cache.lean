import ClaimRelay.Table

/-! The freshness of claims.  A touch makes a claim fresh for a fixed time from a reading of the
clock; of several touches the one that lasts longest counts, in whatever order they are recorded.
Times are in milliseconds. -/

namespace ClaimRelay

/-- For each claim, when it stops being fresh. -/
structure Cache where
  /-- How long a touch lasts. -/
  ttl : Nat
  entries : Table String Nat := []

/-- Why a touch fails. -/
inductive Cache.Error where
  /-- The claim would stay fresh beyond the end of the clock. -/
  | beyondClock
deriving DecidableEq, Repr

/-- The message for a failure. -/
def Cache.Error.message : Cache.Error → String
  | .beyondClock => "overflow when adding duration to instant"

namespace Cache

/-- How long a touch lasts unless something else is asked for: one hour. -/
def defaultTtl : Nat := 3600000

/-- The end of the clock, which counts seconds in a signed word. -/
def clockEnd : Nat := 9223372036854775807 * 1000

/-- When a touch at `reading` ends, with what a record already says. -/
def later (recorded : Option Nat) (expiry : Nat) : Nat :=
  match recorded with
  | none => expiry
  | some earlier => max earlier expiry

/-- Records a touch and returns when the claim now stops being fresh. -/
def touch (reading : Nat) (id : String) (cache : Cache) : Except Error (Nat × Cache) :=
  let expiry := reading + cache.ttl
  if clockEnd ≤ expiry then .error .beyondClock
  else
    let stored := later (cache.entries.get? id) expiry
    .ok (stored, { cache with entries := cache.entries.put id stored })

/-- When a claim stops being fresh, if it was ever touched. -/
def validUntil (cache : Cache) (id : String) : Option Nat := cache.entries.get? id

/-- Whether a claim is fresh at `now`. -/
def isFresh (cache : Cache) (now : Nat) (id : String) : Bool :=
  match cache.validUntil id with
  | some expiry => now < expiry
  | none => false

/-- The number of claims touched so far. -/
def size (cache : Cache) : Nat := cache.entries.length

end Cache

end ClaimRelay
