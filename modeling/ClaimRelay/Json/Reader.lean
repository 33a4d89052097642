import ClaimRelay.Json.Error
import ClaimRelay.Text.Utf8

/-! Readers of JSON bytes.  A reader takes what it needs from the front of the bytes and stops at
the first error.  This module holds the readers of white space, words, strings and numbers. -/

namespace ClaimRelay.Json

/-- A reader of a value from the front of a byte string. -/
abbrev Reader := StateT (List UInt8) (Except ReadError)

/-- The byte of an ASCII character. -/
def byte (c : Char) : UInt8 := UInt8.ofNat c.toNat

/-- Refuses the text as no JSON. -/
def fail {α : Type} (fault : Fault) : Reader α := throw (.malformed fault)

/-- The white space of JSON. -/
def isSpace (b : UInt8) : Bool := b = 0x20 || b = 0x0A || b = 0x0D || b = 0x09

/-- A decimal digit. -/
def isDigit (b : UInt8) : Bool := 0x30 ≤ b && b ≤ 0x39

/-- Skips white space and returns the byte after it, which stays in front. -/
def peek : Reader (Option UInt8) := do
  let rest := (← get).dropWhile isSpace
  set rest
  return rest.head?

/-- The next byte, which stays in front. -/
def peekByte : Reader (Option UInt8) := return (← get).head?

/-- Takes the next byte away. -/
def advance : Reader Unit := modify fun bytes => bytes.drop 1

/-- The next byte, taken away. -/
def next : Reader (Option UInt8) := do
  let b ← peekByte
  advance
  return b

/-- A bound on the steps of a reader: no reader takes more than two steps for a byte. -/
def steps : Reader Nat := return 2 * (← get).length + 2

/-- Reads exactly the given bytes. -/
def readWord : List UInt8 → Reader Unit
  | [] => return
  | b :: rest => do
    match ← next with
    | none => fail .endInValue
    | some found => if found = b then readWord rest else fail .expectedWord

/-! ### Strings -/

/-- The value of a hexadecimal digit. -/
def hexValue? (b : UInt8) : Option Nat :=
  if isDigit b then some (b.toNat - 48)
  else if 0x41 ≤ b && b ≤ 0x46 then some (b.toNat - 55)
  else if 0x61 ≤ b && b ≤ 0x66 then some (b.toNat - 87)
  else none

/-- The value of the four hexadecimal digits in front, and what follows them. -/
def hex4 : List UInt8 → Except Fault (Nat × List UInt8)
  | a :: b :: c :: d :: rest =>
    match hexValue? a, hexValue? b, hexValue? c, hexValue? d with
    | some a, some b, some c, some d => .ok (((a * 16 + b) * 16 + c) * 16 + d, rest)
    | _, _, _, _ => .error .badEscape
  | _ => .error .endInString

/-- The byte that a one-letter escape stands for. -/
def simpleEscape? (b : UInt8) : Option UInt8 :=
  if b = byte '"' then some 0x22
  else if b = byte '\\' then some 0x5C
  else if b = byte '/' then some 0x2F
  else if b = byte 'b' then some 0x08
  else if b = byte 'f' then some 0x0C
  else if b = byte 'n' then some 0x0A
  else if b = byte 'r' then some 0x0D
  else if b = byte 't' then some 0x09
  else none

/-- The code point of an escape whose hexadecimal digits are in front.  A code point beyond the
first `2^16` is written as a leading and a trailing surrogate, and neither may stand alone. -/
def escapedCodePoint (bytes : List UInt8) : Except Fault (Nat × List UInt8) := do
  let (n, rest) ← hex4 bytes
  if 0xDC00 ≤ n ∧ n ≤ 0xDFFF then throw .loneSurrogate
  else if n < 0xD800 ∨ 0xDBFF < n then return (n, rest)
  else match rest with
    | [] => throw .endInString
    | b :: rest =>
      if b ≠ byte '\\' then throw .endInSurrogatePair
      else match rest with
        | [] => throw .endInString
        | u :: rest =>
          if u ≠ byte 'u' then throw .endInSurrogatePair
          else
            let (m, rest) ← hex4 rest
            if m < 0xDC00 ∨ 0xDFFF < m then throw .loneSurrogate
            else return ((n - 0xD800) * 0x400 + (m - 0xDC00) + 0x10000, rest)

/-- The bytes of a string up to its closing quote, with escapes replaced, and what follows the
quote.  `acc` holds the bytes found so far, the latest first. -/
def stringBytes : Nat → List UInt8 → List UInt8 → Except Fault (List UInt8 × List UInt8)
  | 0, _, _ => .error .endInString
  | _ + 1, _, [] => .error .endInString
  | fuel + 1, acc, b :: rest =>
    if b = byte '"' then .ok (acc.reverse, rest)
    else if b = byte '\\' then
      match rest with
      | [] => .error .endInString
      | e :: rest =>
        match simpleEscape? e with
        | some c => stringBytes fuel (c :: acc) rest
        | none =>
          if e = byte 'u' then do
            let (n, rest) ← escapedCodePoint rest
            stringBytes fuel ((String.utf8EncodeChar (Char.ofNat n)).reverse ++ acc) rest
          else .error .badEscape
    else if b < 0x20 then .error .controlCharacter
    else stringBytes fuel (b :: acc) rest

/-- What follows the closing quote of a string that nobody asks for. -/
def afterString : Nat → List UInt8 → Except Fault (List UInt8)
  | 0, _ => .error .endInString
  | _ + 1, [] => .error .endInString
  | fuel + 1, b :: rest =>
    if b = byte '"' then .ok rest
    else if b = byte '\\' then
      match rest with
      | [] => .error .endInString
      | e :: rest =>
        if (simpleEscape? e).isSome then afterString fuel rest
        else if e = byte 'u' then do
          let (_, rest) ← hex4 rest
          afterString fuel rest
        else .error .badEscape
    else if b < 0x20 then .error .controlCharacter
    else afterString fuel rest

/-- Reads a string whose opening quote is in front. -/
def readString : Reader String := do
  advance
  let bytes ← get
  match stringBytes (bytes.length + 1) [] bytes with
  | .error fault => fail fault
  | .ok (content, rest) =>
    set rest
    match Text.Utf8.decode content with
    | some s => return s
    | none => fail .badCodePoint

/-- Skips a string whose opening quote is in front. -/
def skipString : Reader Unit := do
  advance
  let bytes ← get
  match afterString (bytes.length + 1) bytes with
  | .error fault => fail fault
  | .ok rest => set rest

/-! ### Numbers -/

/-- A number: an exact integer or a double. -/
inductive Number where
  | integer (value : Integer)
  | double (bits : UInt64)
deriving DecidableEq

/-- The number as a value. -/
def Number.toJson : Number → Json
  | .integer n => .integer n
  | .double bits => .double bits

/-- The number as a message names it. -/
def Number.found : Number → Found
  | .integer n => .integer n.val
  | .double bits => .double bits

/-- The greatest significand of a number; digits beyond it are dropped. -/
def greatestSignificand : Nat := 18446744073709551615

/-- The significand after the given digits, and how many of them were dropped. -/
def significand (start : Nat) : List UInt8 → Nat × Nat
  | [] => (start, 0)
  | d :: rest =>
    let n := 10 * start + (d.toNat - 48)
    if n ≤ greatestSignificand then significand n rest else (start, rest.length + 1)

/-- The value of a run of digits. -/
def digitsValue (digits : List UInt8) : Nat := digits.foldl (fun n d => 10 * n + (d.toNat - 48)) 0

/-- `10 ^ n` as a double. -/
def power (n : Nat) : Float := Float.ofScientific 1 false n

/-- The double next to `f * 10 ^ exponent`: one multiplication or division by a power of ten up to
`10 ^ 308`, after as many divisions by `10 ^ 308` as bring a lower exponent into that range.  `none`
when the product is infinite. -/
def scale : Nat → Float → Int → Option Float
  | 0, f, _ => some f
  | fuel + 1, f, exponent =>
    if exponent.natAbs ≤ 308 then
      if 0 ≤ exponent then
        let g := f * power exponent.natAbs
        if g.isInf then none else some g
      else some (f / power exponent.natAbs)
    else if f == 0 then some f
    else if 0 ≤ exponent then none
    else scale fuel (f / power 308) (exponent + 308)

/-- The double with the given sign, significand and exponent of ten. -/
def toDouble (negative : Bool) (n : Nat) (exponent : Int) : Reader Number :=
  match scale 8 (UInt64.ofNat n).toFloat exponent with
  | none => fail .numberOutOfRange
  | some f => return .double (if negative then -f else f).toBits

/-- The digits in front, taken away. -/
def takeDigits : Reader (List UInt8) := do
  let bytes ← get
  set (bytes.dropWhile isDigit)
  return bytes.takeWhile isDigit

/-- Reads an exponent, whose letter is in front, and returns the number it completes. -/
def readExponent (negative : Bool) (n : Nat) (start : Int) : Reader Number := do
  advance
  let sign ← peekByte
  if sign = some (byte '+') ∨ sign = some (byte '-') then advance
  let lowers : Bool := sign = some (byte '-')
  match ← peekByte with
  | none => fail .endInValue
  | some b =>
    if ¬ isDigit b then fail .badNumber
    else
      let e := digitsValue (← takeDigits)
      if 2147483647 < e then
        if n ≠ 0 ∧ ¬ lowers then fail .numberOutOfRange
        else toDouble negative 0 0
      else toDouble negative n (if lowers then start - e else start + e)

/-- Reads a fraction, whose point is in front, and returns the number it completes. -/
def readFraction (negative : Bool) (n dropped : Nat) : Reader Number := do
  advance
  let digits ← takeDigits
  let after ← peekByte
  if digits.isEmpty then fail (if after.isNone then .endInValue else .badNumber)
  else
    let (m, ignored) := significand n digits
    let exponent : Int := dropped - (digits.length - ignored : Nat)
    if after = some (byte 'e') ∨ after = some (byte 'E') then readExponent negative m exponent
    else toDouble negative m exponent

/-- The number with the given sign and magnitude, which is an integer if it can be.  Zero has a sign
only as a double. -/
def ofMagnitude (negative : Bool) (n : Nat) : Reader Number :=
  let value : Int := if negative then -n else n
  if h : ¬ (negative = true ∧ n = 0) ∧ -9223372036854775808 ≤ value ∧
      value ≤ 18446744073709551615 then
    return .integer ⟨value, h.2⟩
  else toDouble negative n 0

/-- Reads a number, after its minus sign if it has one. -/
def readNumber (negative : Bool) : Reader Number := do
  match ← peekByte with
  | none => fail .endInValue
  | some b =>
    if ¬ isDigit b then fail .badNumber
    else
      let digits ← takeDigits
      if b = byte '0' ∧ 1 < digits.length then fail .badNumber
      else
        let (n, dropped) := significand 0 digits
        let after ← peekByte
        if after = some (byte '.') then readFraction negative n dropped
        else if after = some (byte 'e') ∨ after = some (byte 'E') then
          readExponent negative n dropped
        else if dropped = 0 then ofMagnitude negative n
        else toDouble negative n dropped

/-- Skips an exponent whose letter is in front. -/
def skipExponent : Reader Unit := do
  advance
  let sign ← peekByte
  if sign = some (byte '+') ∨ sign = some (byte '-') then advance
  if (← takeDigits).isEmpty then fail .badNumber

/-- Skips a number that nobody asks for, after its minus sign if it has one. -/
def skipNumber : Reader Unit := do
  let digits ← takeDigits
  if digits.isEmpty ∨ (digits.head? = some (byte '0') ∧ 1 < digits.length) then fail .badNumber
  else
    if (← peekByte) = some (byte '.') then
      advance
      if (← takeDigits).isEmpty then fail .badNumber
    let after ← peekByte
    if after = some (byte 'e') ∨ after = some (byte 'E') then skipExponent

end ClaimRelay.Json
