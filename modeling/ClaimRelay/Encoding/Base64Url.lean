/-! The URL-safe base 64 alphabet without padding.  Three bytes are written as four symbols of six
bits; one or two bytes that remain are written as two or three symbols, whose unused bits are zero.
Reading refuses every text that writing does not produce and says what is wrong with it. -/

namespace ClaimRelay.Encoding.Base64Url

/-- The symbol of a six-bit value. -/
def symbol (v : UInt8) : UInt8 :=
  if v < 26 then v + 65
  else if v < 52 then v + 71
  else if v < 62 then v - 4
  else if v = 62 then 45
  else 95

/-- The six-bit value of a symbol. -/
def value? (b : UInt8) : Option UInt8 :=
  if 65 ≤ b && b ≤ 90 then some (b - 65)
  else if 97 ≤ b && b ≤ 122 then some (b - 71)
  else if 48 ≤ b && b ≤ 57 then some (b + 4)
  else if b = 45 then some 62
  else if b = 95 then some 63
  else none

/-- The text of a byte string. -/
def encode : List UInt8 → List UInt8
  | a :: b :: c :: rest =>
    symbol (a >>> 2) :: symbol ((a &&& 3) <<< 4 ||| b >>> 4) ::
      symbol ((b &&& 15) <<< 2 ||| c >>> 6) :: symbol (c &&& 63) :: encode rest
  | [a, b] =>
    [symbol (a >>> 2), symbol ((a &&& 3) <<< 4 ||| b >>> 4), symbol ((b &&& 15) <<< 2)]
  | [a] => [symbol (a >>> 2), symbol ((a &&& 3) <<< 4)]
  | [] => []

/-- What is wrong with a text. -/
inductive Error where
  /-- A byte that is no symbol, and its place. -/
  | badSymbol (byte : UInt8) (offset : Nat)
  /-- One symbol remains, which is too few bits for a byte. -/
  | badLength (length : Nat)
  /-- The last symbol carries bits that belong to no byte. -/
  | badLastSymbol (byte : UInt8) (offset : Nat)
deriving DecidableEq, Repr

/-- The message for an error. -/
def Error.message : Error → String
  | .badSymbol byte offset => s!"Invalid symbol {byte.toNat}, offset {offset}."
  | .badLength length => s!"Invalid input length: {length}"
  | .badLastSymbol byte offset => s!"Invalid last symbol {byte.toNat}, offset {offset}."

/-- The first byte that is no symbol, with its place counted from `offset`. -/
def firstBad (offset : Nat) : List UInt8 → Option (UInt8 × Nat)
  | [] => none
  | b :: rest => if (value? b).isSome then firstBad (offset + 1) rest else some (b, offset)

/-- The bytes of a list of six-bit values, or `none` if the last value carries bits that belong to
no byte. -/
def pack : List UInt8 → Option (List UInt8)
  | a :: b :: c :: d :: rest =>
    (pack rest).map fun bytes =>
      (a <<< 2 ||| b >>> 4) :: (b <<< 4 ||| c >>> 2) :: (c <<< 6 ||| d) :: bytes
  | [a, b, c] =>
    if c &&& 3 = 0 then some [a <<< 2 ||| b >>> 4, b <<< 4 ||| c >>> 2] else none
  | [a, b] => if b &&& 15 = 0 then some [a <<< 2 ||| b >>> 4] else none
  | [_] => some []
  | [] => some []

/-- The byte string of a text.  A stray last byte, such as a line end, is reported before any other
byte that is no symbol. -/
def decode (text : List UInt8) : Except Error (List UInt8) :=
  let n := text.length
  match text.getLast? with
  | none => .ok []
  | some last =>
    if n % 4 = 1 ∧ value? last = none then .error (.badSymbol last (n - 1))
    else match firstBad 0 text with
      | some (byte, offset) => .error (.badSymbol byte offset)
      | none =>
        if n % 4 = 1 then .error (.badLength n)
        else match pack (text.filterMap value?) with
          | some bytes => .ok bytes
          | none => .error (.badLastSymbol last (n - 1))

end ClaimRelay.Encoding.Base64Url
