import ClaimRelay.Decimal.Shortest

/-! The text of a double: its shortest digits, written positionally when the exponent is moderate
and otherwise with an exponent. -/

namespace ClaimRelay.Decimal

/-- Where positional notation ends, and how many digits an exponent has at least. -/
structure Layout where
  least : Int
  greatest : Int
  exponentWidth : Nat

/-- `ds` with zeros in front, up to `width` characters. -/
def padLeft (width : Nat) (ds : List Char) : List Char :=
  List.replicate (width - ds.length) '0' ++ ds

/-- The digits with a decimal point after the first `point` of them; a point needs a digit on either
side. -/
def positional (ds : List Char) (point : Int) : List Char :=
  if point ≤ 0 then '0' :: '.' :: List.replicate (-point).toNat '0' ++ ds
  else
    let n := point.toNat
    if ds.length ≤ n then ds ++ List.replicate (n - ds.length) '0' ++ ['.', '0']
    else ds.take n ++ '.' :: ds.drop n

/-- One digit, the others after a point, and the exponent with its sign. -/
def scientific (width : Nat) (ds : List Char) (exponent : Int) : List Char :=
  let rest := ds.drop 1
  ds.take 1 ++ (if rest.isEmpty then [] else '.' :: rest) ++
    ['e', if exponent < 0 then '-' else '+'] ++ padLeft width (Nat.toDigits 10 exponent.natAbs)

/-- The text of a finite double. -/
def Layout.text (layout : Layout) (bits : UInt64) : String :=
  let d := (magnitude bits).shortest
  let ds := Nat.toDigits 10 d.digits
  let exponent := d.exponent + (ds.length : Int) - 1
  let body :=
    if layout.least ≤ exponent && exponent ≤ layout.greatest then positional ds (exponent + 1)
    else scientific layout.exponentWidth ds exponent
  String.ofList (if isNegative bits then '-' :: body else body)

end ClaimRelay.Decimal
