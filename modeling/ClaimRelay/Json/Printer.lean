import ClaimRelay.Json.Error
import ClaimRelay.Text.Utf8

/-! The compact text of a value: no white space, the members of an object in their order, and an
escape for each quote, backslash and control character of a string. -/

namespace ClaimRelay.Json

/-- How a string shows a character. -/
def printChar (c : Char) : List Char :=
  if c = '"' then ['\\', '"']
  else if c = '\\' then ['\\', '\\']
  else if c = '\x08' then ['\\', 'b']
  else if c = '\x0c' then ['\\', 'f']
  else if c = '\n' then ['\\', 'n']
  else if c = '\r' then ['\\', 'r']
  else if c = '\t' then ['\\', 't']
  else if c.toNat < 0x20 then
    ['\\', 'u', '0', '0', Nat.digitChar (c.toNat / 16), Nat.digitChar (c.toNat % 16)]
  else [c]

/-- A string between quotes. -/
def printString (s : String) : List Char := '"' :: s.toList.flatMap printChar ++ ['"']

/-- An integer in decimal. -/
def printInt (n : Int) : List Char :=
  if n < 0 then '-' :: Nat.toDigits 10 n.natAbs else Nat.toDigits 10 n.natAbs

mutual

/-- The characters of a value. -/
def printChars : Json → List Char
  | .null => ['n', 'u', 'l', 'l']
  | .bool true => ['t', 'r', 'u', 'e']
  | .bool false => ['f', 'a', 'l', 's', 'e']
  | .integer n => printInt n.val
  | .double bits => (doubles.text bits).toList
  | .string s => printString s
  | .array items => '[' :: printItems items ++ [']']
  | .object members => '\x7b' :: printMembers members ++ ['\x7d']

/-- The characters of the items of a list. -/
def printItems : List Json → List Char
  | [] => []
  | [item] => printChars item
  | item :: rest => printChars item ++ ',' :: printItems rest

/-- The characters of the members of an object. -/
def printMembers : List (String × Json) → List Char
  | [] => []
  | [(name, value)] => printString name ++ ':' :: printChars value
  | (name, value) :: rest => printString name ++ ':' :: printChars value ++ ',' :: printMembers rest

end

/-- The compact text of a value. -/
def print (value : Json) : String := String.ofList (printChars value)

/-- The bytes of the compact text of a value. -/
def bytes (value : Json) : List UInt8 := Text.Utf8.encode value.print

end ClaimRelay.Json
