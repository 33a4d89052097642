import ClaimRelay.Text.Unprintable
import ClaimRelay.Text.Extending

/-! Quoted texts, as messages show them: between double quotes, with a backslash in front of a
double quote or a backslash, short escapes for the usual controls, and a code point in braces for
every other character that is unprintable or attaches to its neighbour. -/

namespace ClaimRelay.Text

/-- The code point of `c` in lowercase hexadecimal, between braces. -/
def codePoint (c : Char) : List Char :=
  ['\\', 'u', '\x7b'] ++ Nat.toDigits 16 c.toNat ++ ['\x7d']

/-- How a quoted text shows `c`. -/
def quoteChar (c : Char) : List Char :=
  if c = '\x00' then ['\\', '0']
  else if c = '\t' then ['\\', 't']
  else if c = '\r' then ['\\', 'r']
  else if c = '\n' then ['\\', 'n']
  else if c = '"' then ['\\', '"']
  else if c = '\\' then ['\\', '\\']
  else if isExtending c || isUnprintable c then codePoint c
  else [c]

/-- `s` between double quotes, with what must not stand there as it is escaped. -/
def quote (s : String) : String :=
  String.ofList ('"' :: s.toList.flatMap quoteChar ++ ['"'])

/-- A list of quoted texts between brackets. -/
def quoteList (xs : List String) : String :=
  "[" ++ ", ".intercalate (xs.map quote) ++ "]"

end ClaimRelay.Text
