/-! The base 32 alphabet of capital letters and the digits two to seven, padded.  Five bytes are
written as eight symbols of five bits; fewer bytes at the end are written as the symbols that hold
their bits, filled up to eight with the padding sign. -/

namespace ClaimRelay.Encoding.Base32

/-- The symbol of a five-bit value. -/
def symbol (v : UInt8) : Char :=
  if v < 26 then Char.ofNat (v.toNat + 65) else Char.ofNat (v.toNat + 24)

/-- The eight symbols of five bytes. -/
def group (a b c d e : UInt8) : List Char :=
  [symbol (a >>> 3),
   symbol ((a &&& 7) <<< 2 ||| b >>> 6),
   symbol ((b >>> 1) &&& 31),
   symbol ((b &&& 1) <<< 4 ||| c >>> 4),
   symbol ((c &&& 15) <<< 1 ||| d >>> 7),
   symbol ((d >>> 2) &&& 31),
   symbol ((d &&& 3) <<< 3 ||| e >>> 5),
   symbol (e &&& 31)]

/-- The first `used` symbols, then padding up to eight. -/
def padded (used : Nat) (symbols : List Char) : List Char :=
  symbols.take used ++ List.replicate (8 - used) '='

/-- The text of a byte string. -/
def encode : List UInt8 → List Char
  | a :: b :: c :: d :: e :: rest => group a b c d e ++ encode rest
  | [a, b, c, d] => padded 7 (group a b c d 0)
  | [a, b, c] => padded 5 (group a b c 0 0)
  | [a, b] => padded 4 (group a b 0 0 0)
  | [a] => padded 2 (group a 0 0 0 0)
  | [] => []

end ClaimRelay.Encoding.Base32
