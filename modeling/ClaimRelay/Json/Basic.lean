/-! JSON values.  Integers between `-2^63` and `2^64 - 1` are exact; every other number is a double,
kept as its bits.  The members of an object are in ascending order of their names. -/

namespace ClaimRelay

/-- An integer that a number can carry exactly. -/
structure Json.Integer where
  val : Int
  fits : -9223372036854775808 ≤ val ∧ val ≤ 18446744073709551615
deriving DecidableEq

/-- A JSON value. -/
inductive Json where
  | null
  | bool (value : Bool)
  | integer (value : Json.Integer)
  | double (bits : UInt64)
  | string (value : String)
  | array (items : List Json)
  | object (members : List (String × Json))
deriving Inhabited

namespace Json

/-- The members with one more, in its place; a member of the same name is replaced. -/
def insertMember (name : String) (value : Json) : List (String × Json) → List (String × Json)
  | [] => [(name, value)]
  | (k, v) :: rest =>
    if name < k then (name, value) :: (k, v) :: rest
    else if name = k then (name, value) :: rest
    else (k, v) :: insertMember name value rest

/-- An object with the given members; of two with the same name the later one stays. -/
def ofMembers (members : List (String × Json)) : Json :=
  .object (members.foldl (fun acc m => insertMember m.1 m.2 acc) [])

/-- The value of the member `name` of an object. -/
def member? (name : String) : Json → Option Json
  | .object members => members.lookup name
  | _ => none

/-- The text of a string value. -/
def text? : Json → Option String
  | .string s => some s
  | _ => none

/-- The number `n`, if it can be carried exactly. -/
def ofInt? (n : Int) : Option Json :=
  if h : -9223372036854775808 ≤ n ∧ n ≤ 18446744073709551615 then some (.integer ⟨n, h⟩) else none

/-- A word as a number. -/
def ofUInt64 (n : UInt64) : Json :=
  .integer ⟨n.toNat, by have := n.toNat_lt; omega⟩

/-- A signed word as a number. -/
def ofInt64 (n : Int64) : Json :=
  .integer ⟨n.toInt, by have h₁ := n.le_toInt; have h₂ := n.toInt_lt; omega⟩

end Json

end ClaimRelay
