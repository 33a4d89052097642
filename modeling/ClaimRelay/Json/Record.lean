import ClaimRelay.Json.Value

/-! Readers of values of an expected shape.  A record is read from an object, whose unknown members
are skipped and whose known ones may not be repeated, or from a list of its fields in order; in
either form a field that is not given keeps its value. -/

namespace ClaimRelay.Json

/-- Refuses the value in front, whose first byte is `b`, and says what was expected. -/
def mismatch {α : Type} (expected : String) (b : UInt8) : Reader α := do
  if b = byte 'n' then
    advance
    readWord [byte 'u', byte 'l', byte 'l']
    throw (.mismatch .null expected)
  else if b = byte 't' then
    advance
    readWord [byte 'r', byte 'u', byte 'e']
    throw (.mismatch (.bool true) expected)
  else if b = byte 'f' then
    advance
    readWord [byte 'a', byte 'l', byte 's', byte 'e']
    throw (.mismatch (.bool false) expected)
  else if b = byte '-' then
    advance
    throw (.mismatch (← readNumber true).found expected)
  else if isDigit b then throw (.mismatch (← readNumber false).found expected)
  else if b = byte '"' then throw (.mismatch (.string (← readString)) expected)
  else if b = byte '[' then throw (.mismatch .list expected)
  else if b = byte '\x7b' then throw (.mismatch .object expected)
  else fail .expectedValue

/-- Reads a text. -/
def readText (expected : String) : Reader String := do
  match ← peek with
  | none => fail .endInValue
  | some b => if b = byte '"' then readString else mismatch expected b

/-- Reads a truth value. -/
def readBool : Reader Bool := do
  match ← peek with
  | none => fail .endInValue
  | some b =>
    if b = byte 't' then
      advance
      readWord [byte 'r', byte 'u', byte 'e']
      return true
    else if b = byte 'f' then
      advance
      readWord [byte 'a', byte 'l', byte 's', byte 'e']
      return false
    else mismatch "a boolean" b

/-- An interval of integers, and how a message names it. -/
structure Range where
  least : Int
  greatest : Int
  name : String

/-- The signed words of thirty-two bits. -/
def Range.i32 : Range := ⟨-2147483648, 2147483647, "i32"⟩

/-- The signed words of sixty-four bits. -/
def Range.i64 : Range := ⟨-9223372036854775808, 9223372036854775807, "i64"⟩

/-- The unsigned words of sixty-four bits. -/
def Range.u64 : Range := ⟨0, 18446744073709551615, "u64"⟩

/-- Reads an integer of a range. -/
def readInteger (range : Range) : Reader Int := do
  match ← peek with
  | none => fail .endInValue
  | some b =>
    let number ←
      if b = byte '-' then do
        advance
        readNumber true
      else if isDigit b then readNumber false
      else mismatch range.name b
    match number with
    | .double bits => throw (.mismatch (.double bits) range.name)
    | .integer n =>
      if range.least ≤ n.val ∧ n.val ≤ range.greatest then return n.val
      else throw (.outOfRange n.val range.name)

/-- Reads a value that may be missing, which `null` says. -/
def readOption {α : Type} (reader : Reader α) : Reader (Option α) := do
  if (← peek) = some (byte 'n') then
    advance
    readWord [byte 'u', byte 'l', byte 'l']
    return none
  else return some (← reader)

/-- Reads the rest of a list, whose items found so far are `items`, the latest first. -/
def readListItems {α : Type} (reader : Reader α) (fuel : Nat) (items : List α) : Reader (List α) :=
  match fuel with
  | 0 => fail .tooDeep
  | fuel + 1 => do
    match ← listTurn items.isEmpty with
    | .done => return items.reverse
    | .item =>
      let item ← reader
      readListItems reader fuel (item :: items)

/-- Reads a list inside which `depth - 1` lists and objects may enclose each other. -/
def readList {α : Type} (depth : Nat) (reader : Reader α) : Reader (List α) := do
  match ← peek with
  | none => fail .endInValue
  | some b =>
    if b = byte '[' then
      if depth ≤ 1 then fail .tooDeep
      else
        advance
        readListItems reader (← steps) []
    else mismatch "a sequence" b

/-- A field of a record `σ`: its name, and the reader that sets it.  The reader is told how deeply
what it reads may nest. -/
structure RecordField (σ : Type) where
  name : String
  read : Nat → σ → Reader σ

/-- A kind of record: how a message names it, and its fields in order. -/
structure Schema (σ : Type) where
  name : String
  fields : List (RecordField σ)

/-- Reads the rest of an object.  `seen` holds the names of the fields found so far. -/
def Schema.readObject {σ : Type} (schema : Schema σ) (depth fuel : Nat) (first : Bool)
    (seen : List String) (record : σ) : Reader σ :=
  match fuel with
  | 0 => fail .tooDeep
  | fuel + 1 => do
    match ← objectTurn first with
    | .done => return record
    | .item =>
      let name ← readString
      match schema.fields.find? (·.name == name) with
      | none =>
        readColon
        skipValue (← steps) []
        schema.readObject depth fuel false seen record
      | some field =>
        if name ∈ seen then throw (.repeated name)
        else
          readColon
          let record ← field.read depth record
          schema.readObject depth fuel false (name :: seen) record

/-- Reads the fields of a record from a list, up to the end of the list. -/
def readFields {σ : Type} (depth : Nat) : List (RecordField σ) → Bool → σ → Reader σ
  | [], first, record => do
    match ← peek with
    | none => fail .endInList
    | some b =>
      if b = byte ']' then
        advance
        return record
      else if b = byte ',' ∧ first = false then
        advance
        if (← peek) = some (byte ']') then fail .trailingComma else fail .trailingCharacters
      else fail .trailingCharacters
  | field :: rest, first, record => do
    match ← listTurn first with
    | .done => return record
    | .item =>
      let record ← field.read depth record
      readFields depth rest false record

/-- Reads a record inside which `depth - 1` lists and objects may enclose each other. -/
def Schema.read {σ : Type} (schema : Schema σ) (depth : Nat) (start : σ) : Reader σ := do
  match ← peek with
  | none => fail .endInValue
  | some b =>
    if b = byte '[' then
      if depth ≤ 1 then fail .tooDeep
      else
        advance
        readFields (depth - 1) schema.fields true start
    else if b = byte '\x7b' then
      if depth ≤ 1 then fail .tooDeep
      else
        advance
        schema.readObject (depth - 1) (← steps) true [] start
    else mismatch s!"struct {schema.name}" b

/-- The record that a document holds. -/
def Schema.readDocument {σ : Type} (schema : Schema σ) (start : σ) (bytes : List UInt8) :
    Except ReadError σ :=
  Json.readDocument (schema.read nestingLimit start) bytes

end ClaimRelay.Json
