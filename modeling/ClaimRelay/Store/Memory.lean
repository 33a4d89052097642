import ClaimRelay.Store.Basic

/-! A store in memory: a table from keys to claims. -/

namespace ClaimRelay.Store

/-- The claims in memory. -/
abbrev Memory := Table String (List UInt8)

namespace Memory

/-- Saves a claim, which replaces an earlier one with its key. -/
def save (key : String) (payload : List UInt8) (memory : Memory) : Except Error Memory := do
  checkKey key
  return memory.put key payload

/-- The claim with the given key.  Any text may be asked for. -/
def load (key : String) (memory : Memory) : Option (List UInt8) := memory.get? key

end Memory

end ClaimRelay.Store
