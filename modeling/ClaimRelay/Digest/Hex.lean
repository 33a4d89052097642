/-! Bytes in lowercase hexadecimal, two digits each. -/

namespace ClaimRelay.Digest

/-- The digit of a value below sixteen. -/
def hexDigit (n : Nat) : Char := Nat.digitChar n

/-- The two digits of each byte, in order. -/
def hex (bytes : List UInt8) : String :=
  String.ofList (bytes.flatMap fun b => [hexDigit (b.toNat / 16), hexDigit (b.toNat % 16)])

end ClaimRelay.Digest
