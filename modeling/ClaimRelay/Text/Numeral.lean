/-! Numerals in decimal.  A numeral is one or more digits after an optional sign, with nothing else
around it. -/

namespace ClaimRelay.Text

/-- The value of a text of digits. -/
def digits? (cs : List Char) : Option Nat :=
  if cs ≠ [] ∧ cs.all Char.isDigit then
    some (cs.foldl (fun n c => 10 * n + (c.toNat - '0'.toNat)) 0)
  else none

/-- The value of a numeral that may have a plus sign. -/
def nat? : List Char → Option Nat
  | '+' :: rest => digits? rest
  | cs => digits? cs

/-- The value of a numeral that may have a sign of either kind. -/
def int? : List Char → Option Int
  | '-' :: rest => (digits? rest).map fun n => -n
  | cs => (nat? cs).map Int.ofNat

/-- The word that a numeral stands for, if it fits. -/
def uint64? (cs : List Char) : Option UInt64 :=
  (nat? cs).bind fun n => if n < UInt64.size then some (UInt64.ofNat n) else none

/-- The signed word that a numeral stands for, if it fits. -/
def int32? (cs : List Char) : Option Int32 :=
  (int? cs).bind fun n =>
    if -2147483648 ≤ n ∧ n ≤ 2147483647 then some (Int32.ofInt n) else none

/-- A truth value by its name. -/
def bool? (cs : List Char) : Option Bool :=
  if cs = ['t', 'r', 'u', 'e'] then some true
  else if cs = ['f', 'a', 'l', 's', 'e'] then some false
  else none

end ClaimRelay.Text
