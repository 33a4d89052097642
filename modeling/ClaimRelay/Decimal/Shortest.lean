import ClaimRelay.Decimal.Binary64

/-! The fewest decimal digits that read back as a given double.  The reals that round to the double
form an interval around it, which holds its ends when the mantissa is even.  Of the decimals with
one digit, two digits and so on, the first in the interval is taken, and of two with the same number
of digits the nearer one. -/

namespace ClaimRelay.Decimal

/-- `digits * 10 ^ exponent`. -/
structure Scaled where
  digits : Nat
  exponent : Int
deriving DecidableEq, Repr

/-- The numerator of `x * 2 ^ two / 10 ^ ten` over the denominator `denominator two ten`. -/
def numerator (x : Nat) (two ten : Int) : Nat :=
  x * Nat.pow 2 two.toNat * Nat.pow 10 (-ten).toNat

/-- The denominator of `x * 2 ^ two / 10 ^ ten`, for every `x`. -/
def denominator (two ten : Int) : Nat := Nat.pow 2 (-two).toNat * Nat.pow 10 ten.toNat

/-- The least exponent of ten above the magnitude, if the magnitude is not zero.  Every double that
is not zero is greater than `10 ^ (-324)`. -/
def Magnitude.decade (v : Magnitude) : Int :=
  let whole := numerator v.mantissa v.exponent (-330) / denominator v.exponent (-330)
  ((Nat.toDigits 10 whole).length : Int) - 330

/-- The multiple of `10 ^ ten` nearest to the magnitude, among those that round to it. -/
def Magnitude.onGrid (v : Magnitude) (ten : Int) : Option Scaled :=
  let two := v.exponent - 2
  let den := denominator two ten
  let value := numerator (4 * v.mantissa) two ten
  let low := numerator (4 * v.mantissa - (if v.narrowBelow then 1 else 2)) two ten
  let high := numerator (4 * v.mantissa + 2) two ten
  let closed := v.mantissa % 2 = 0
  let below := value / den
  let above := below + 1
  let belowFits : Bool := low < below * den || (closed && low = below * den)
  let aboveFits : Bool := above * den < high || (closed && above * den = high)
  match belowFits && below ≠ 0, aboveFits with
  | true, true =>
    let down := value - below * den
    let up := above * den - value
    if down < up || (down = up && below % 2 = 0) then some ⟨below, ten⟩ else some ⟨above, ten⟩
  | true, false => some ⟨below, ten⟩
  | false, true => some ⟨above, ten⟩
  | false, false => none

/-- The same number without zeros at the end of its digits. -/
def Scaled.strip (fuel : Nat) (d : Scaled) : Scaled :=
  match fuel with
  | 0 => d
  | fuel + 1 =>
    if d.digits ≠ 0 ∧ d.digits % 10 = 0 then Scaled.strip fuel ⟨d.digits / 10, d.exponent + 1⟩
    else d

/-- The decimal with the fewest digits that rounds to the magnitude.  Seventeen digits always
suffice. -/
def Magnitude.shortest (v : Magnitude) : Scaled :=
  if v.mantissa = 0 then ⟨0, 0⟩
  else
    let decade := v.decade
    match (List.range 17).findSome? fun n => v.onGrid (decade - (n + 1 : Nat)) with
    | some d => d.strip 18
    | none => ⟨0, 0⟩

end ClaimRelay.Decimal
