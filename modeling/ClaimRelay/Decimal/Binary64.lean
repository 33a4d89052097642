/-! Finite binary floating-point numbers of sixty-four bits, as exact numbers: a sign and a
magnitude `mantissa * 2 ^ exponent`. -/

namespace ClaimRelay.Decimal

/-- The magnitude of a finite number, and whether the number below it is half as far away as the
one above it. -/
structure Magnitude where
  mantissa : Nat
  exponent : Int
  narrowBelow : Bool
deriving DecidableEq, Repr

/-- The sign bit. -/
def isNegative (bits : UInt64) : Bool := bits >>> 63 == 1

/-- The magnitude that the lower sixty-three bits stand for. -/
def magnitude (bits : UInt64) : Magnitude :=
  let fraction : Nat := bits.toNat % Nat.pow 2 52
  let biased : Nat := bits.toNat / Nat.pow 2 52 % Nat.pow 2 11
  if biased = 0 then ⟨fraction, -1074, false⟩
  else ⟨Nat.pow 2 52 + fraction, (biased : Int) - 1075, fraction = 0 && 1 < biased⟩

end ClaimRelay.Decimal
